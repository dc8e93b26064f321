import Mathlib.Algebra.Group.Nat.Defs
import Mathlib.Data.List.Basic
import Warpdrive.Types.Digest

/-! What the id of a service says about its manager (`From<&ServiceManager> for ServiceId` in
`types/src/service.rs`). The hasher is fed the name of the manager's kind, its chain key and its address,
one after the other and without lengths. EVM and Stellar addresses have one length each; a Cosmos address
has 20 or 32 bytes, and its first bytes may be characters of a chain id. -/
namespace Warpdrive.Types

inductive ManagerKind
  | evm
  | cosmos
  | stellar
  deriving DecidableEq

def ManagerKind.tag : ManagerKind → List UInt8
  | .evm => utf8 "evm"
  | .cosmos => utf8 "cosmos"
  | .stellar => utf8 "stellar"

theorem ManagerKind.tag_separates (first second : ManagerKind) (left right : List UInt8)
    (same : first.tag ++ left = second.tag ++ right) : first = second := by
  have evm : utf8 "evm" = [101,118,109] := by rfl
  have cosmos : utf8 "cosmos" = [99,111,115,109,111,115] := by rfl
  have stellar : utf8 "stellar" = [115,116,101,108,108,97,114] := by rfl
  cases first <;> cases second <;> simp [tag,evm,cosmos,stellar] at same ⊢

/-! ## Chain keys -/

theorem colon_not_mem_utf8 (text : String) (allowed : ∀ c ∈ text.toList, c.toNat < 128 ∧ c.toNat ≠ 58) :
    58 ∉ utf8 text := by
  intro member
  rw [← String.ofList_toList (s := text),utf8_ofList,List.mem_flatMap] at member
  obtain ⟨c,inside,member⟩ := member
  obtain ⟨ascii,other⟩ := allowed c inside
  have size : c.utf8Size = 1 := by
    rw [Char.utf8Size_eq_one_iff]
    exact UInt32.le_iff_toNat_le.mpr (Nat.le_of_lt_succ ascii)
  rw [String.utf8EncodeChar_eq_singleton size,List.mem_singleton] at member
  have value := congrArg UInt8.toNat member
  rw [UInt32.toNat_toUInt8] at value
  change 58 = c.toNat % 256 at value
  omega

theorem isAsciiLowercase_range (c : Char) (lower : isAsciiLowercase c = true) : 97 ≤ c.toNat ∧ c.toNat ≤ 122 := by
  simpa [isAsciiLowercase,Char.le_def,UInt32.le_iff_toNat_le] using lower

theorem isAsciiUppercase_range (c : Char) (upper : isAsciiUppercase c = true) : 65 ≤ c.toNat ∧ c.toNat ≤ 90 := by
  simpa [isAsciiUppercase,Char.le_def,UInt32.le_iff_toNat_le] using upper

theorem isAsciiDigit_range (c : Char) (digit : isAsciiDigit c = true) : 48 ≤ c.toNat ∧ c.toNat ≤ 57 := by
  simpa [isAsciiDigit,Char.le_def,UInt32.le_iff_toNat_le] using digit

theorem ChainKeyNamespace.colon_not_mem (self : ChainKeyNamespace) : 58 ∉ utf8 self.text := by
  apply colon_not_mem_utf8
  intro c inside
  have valid := self.valid
  simp only [namespaceRegex,Bool.and_eq_true,List.all_eq_true] at valid
  have checked := valid.2 c inside
  simp only [Bool.or_eq_true,beq_iff_eq] at checked
  rcases checked with (dash | lower) | digit
  · subst dash
    decide
  · have range := isAsciiLowercase_range c lower
    omega
  · have range := isAsciiDigit_range c digit
    omega

theorem ChainKeyId.colon_not_mem (self : ChainKeyId) : 58 ∉ utf8 self.text := by
  apply colon_not_mem_utf8
  intro c inside
  have valid := self.valid
  simp only [idRegex,Bool.and_eq_true,List.all_eq_true] at valid
  have checked := valid.2 c inside
  simp only [Bool.or_eq_true,beq_iff_eq] at checked
  rcases checked with (((dash | score) | lower) | upper) | digit
  · subst dash
    decide
  · subst score
    decide
  · have range := isAsciiLowercase_range c lower
    omega
  · have range := isAsciiUppercase_range c upper
    omega
  · have range := isAsciiDigit_range c digit
    omega

theorem utf8_append (first second : String) : utf8 (first ++ second) = utf8 first ++ utf8 second := by
  simp [utf8,String.toUTF8_eq_toByteArray,String.toByteArray_append,ByteArray.data_append]

theorem ChainKey.utf8_display (self : ChainKey) :
    utf8 self.display = utf8 self.keyNamespace.text ++ 58::utf8 self.id.text := by
  have colon : utf8 ":" = [58] := by rfl
  rw [display,utf8_append,utf8_append,colon,List.append_assoc,List.singleton_append]

theorem ChainKeyNamespace.text_injective : Function.Injective ChainKeyNamespace.text := by
  intro first second same
  cases first
  cases second
  simp only at same
  subst same
  rfl

theorem ChainKeyId.text_injective : Function.Injective ChainKeyId.text := by
  intro first second same
  cases first
  cases second
  simp only at same
  subst same
  rfl

/-- A key's text goes on from another's exactly when the namespaces are one and the id goes on from the
other's id. -/
theorem ChainKey.display_extends_iff (first second : ChainKey) (moved : List UInt8) :
    utf8 second.display = utf8 first.display ++ moved ↔
      second.keyNamespace = first.keyNamespace ∧ utf8 second.id.text = utf8 first.id.text ++ moved := by
  rw [utf8_display,utf8_display,List.append_assoc,List.cons_append,
    List.append_cons_inj_of_notMem second.keyNamespace.colon_not_mem second.id.colon_not_mem]
  constructor
  · intro parts
    exact ⟨ChainKeyNamespace.text_injective (utf8_injective parts.1),parts.2.2⟩
  · intro parts
    exact ⟨by rw [parts.1],rfl,parts.2⟩

theorem ChainKey.display_injective (first second : ChainKey) (same : utf8 second.display = utf8 first.display) :
    first = second := by
  obtain ⟨namespaces,ids⟩ := (display_extends_iff first second []).mp (by rw [List.append_nil,same])
  rw [List.append_nil] at ids
  have ids := ChainKeyId.text_injective (utf8_injective ids)
  cases first
  cases second
  simp only at namespaces ids
  rw [namespaces,ids]

/-! ## Shared pre-images -/

namespace ServiceManager

def kind : ServiceManager → ManagerKind
  | .evm _ _ => .evm
  | .cosmos _ _ => .cosmos
  | .stellar _ _ => .stellar

variable (prim : IdPrimitives)

def addressBytes : ServiceManager → List UInt8
  | .evm _ address => address.toList
  | .cosmos _ address => prim.cosmosBytes address
  | .stellar _ address => address.toList

/-- A Cosmos address has 20 bytes, an account's, or 32 bytes, a contract's. -/
def Sized : ServiceManager → Prop
  | .cosmos _ address => (prim.cosmosBytes address).length = 20 ∨ (prim.cosmosBytes address).length = 32
  | _ => True

theorem idBytes_eq (self : ServiceManager) :
    self.idBytes prim = self.kind.tag ++ (utf8 self.chain.display ++ self.addressBytes prim) := by
  cases self <;> exact List.append_assoc _ _ _

/-- Two addresses of one kind are of one length, or they are the two lengths of a Cosmos address. -/
theorem moved_length (first second : ServiceManager) (sized : first.Sized prim) (sized' : second.Sized prim)
    (kinds : first.kind = second.kind) (moved : List UInt8)
    (shifted : first.addressBytes prim = moved ++ second.addressBytes prim) :
    moved = [] ∨ first.kind = .cosmos ∧ moved.length = 12 := by
  have lengths := congrArg List.length shifted
  rw [List.length_append] at lengths
  rw [← List.length_eq_zero_iff]
  cases first with
  | evm chain address =>
    cases second with
    | evm _ other =>
      simp only [addressBytes,address.size,other.size] at lengths
      omega
    | _ => cases kinds
  | stellar chain address =>
    cases second with
    | stellar _ other =>
      simp only [addressBytes,address.size,other.size] at lengths
      omega
    | _ => cases kinds
  | cosmos chain address =>
    cases second with
    | cosmos _ other =>
      simp only [addressBytes] at lengths
      simp only [Sized] at sized sized'
      refine (Nat.eq_zero_or_pos moved.length).imp_right (fun some_moved => ⟨rfl,?_⟩)
      omega
    | _ => cases kinds

/-- Both managers are on Cosmos under one namespace, and the second one's chain id is the first one's followed
by the first twelve bytes of the first one's address, whose other bytes are the second one's address. -/
def Respelled (first second : ServiceManager) : Prop :=
  first.kind = .cosmos ∧ second.kind = .cosmos ∧ second.chain.keyNamespace = first.chain.keyNamespace ∧
    ∃ moved, moved.length = 12 ∧ utf8 second.chain.id.text = utf8 first.chain.id.text ++ moved ∧
      first.addressBytes prim = moved ++ second.addressBytes prim

theorem respelled_shares (first second : ServiceManager) (respelled : first.Respelled prim second) :
    first.idBytes prim = second.idBytes prim ∧ first.chain ≠ second.chain := by
  obtain ⟨cosmos,cosmos',namespaces,moved,twelve,ids,shifted⟩ := respelled
  constructor
  · rw [idBytes_eq,idBytes_eq,cosmos,cosmos',
      (ChainKey.display_extends_iff first.chain second.chain moved).mpr ⟨namespaces,ids⟩,shifted,List.append_assoc]
  · intro same
    rw [same] at ids
    rw [List.self_eq_append_right.mp ids] at twelve
    cases twelve

theorem same_of_extended (first second : ServiceManager) (sized : first.Sized prim) (sized' : second.Sized prim)
    (kinds : first.kind = second.kind) (moved : List UInt8)
    (extended : utf8 second.chain.display = utf8 first.chain.display ++ moved)
    (shifted : first.addressBytes prim = moved ++ second.addressBytes prim)
    (apart : ¬first.Respelled prim second) :
    first.chain = second.chain ∧ first.addressBytes prim = second.addressBytes prim := by
  rcases moved_length prim first second sized sized' kinds moved shifted with none_moved | ⟨cosmos,twelve⟩
  · subst none_moved
    rw [List.append_nil] at extended
    exact ⟨ChainKey.display_injective _ _ extended,shifted⟩
  · obtain ⟨namespaces,ids⟩ := (ChainKey.display_extends_iff first.chain second.chain moved).mp extended
    exact absurd ⟨cosmos,kinds ▸ cosmos,namespaces,moved,twelve,ids,shifted⟩ apart

/-- The hashed bytes determine kind, chain and address bytes, except of two Cosmos managers one of which spells
the end of the other's chain id in its address. -/
theorem idBytes_determine_iff (first second : ServiceManager) (sized : first.Sized prim)
    (sized' : second.Sized prim) :
    (first.idBytes prim = second.idBytes prim →
        first.kind = second.kind ∧ first.chain = second.chain ∧
          first.addressBytes prim = second.addressBytes prim) ↔
      ¬(first.Respelled prim second ∨ second.Respelled prim first) := by
  constructor
  · intro determine respelled
    rcases respelled with forward | backward
    · obtain ⟨same,apart⟩ := respelled_shares prim first second forward
      exact apart (determine same).2.1
    · obtain ⟨same,apart⟩ := respelled_shares prim second first backward
      exact apart (determine same.symm).2.1.symm
  · intro apart same
    rw [idBytes_eq,idBytes_eq] at same
    have kinds := ManagerKind.tag_separates first.kind second.kind _ _ same
    rw [kinds] at same
    refine ⟨kinds,?_⟩
    rcases List.append_eq_append_iff.mp (List.append_cancel_left same) with
      ⟨moved,extended,shifted⟩ | ⟨moved,extended,shifted⟩
    · exact same_of_extended prim first second sized sized' kinds moved extended shifted
        (fun forward => apart (.inl forward))
    · obtain ⟨chains,addresses⟩ := same_of_extended prim second first sized' sized kinds.symm moved extended shifted
        (fun backward => apart (.inr backward))
      exact ⟨chains.symm,addresses.symm⟩

end ServiceManager

/-! A Cosmos contract and a Cosmos account whose managers share a pre-image. `bech32Bytes` drops the prefix and
the six characters of the checksum, and regroups the five bits of each character. -/

def bech32Charset : List Char := "qpzry9x8gf2tvdw0s3jn54khce6mua7l".toList

def bech32Bytes (address : CosmosAddr) : List UInt8 :=
  let data := address.bech32Addr.toList.drop (address.prefixLen + 1)
  let data := data.take (data.length - 6)
  let value := data.foldl (fun value c => 32 * value + bech32Charset.idxOf c) 0
  beBytes (5 * data.length / 8) (value / 2 ^ (5 * data.length % 8))

def wasmContract : CosmosAddr := ⟨"wasm194582c3dw3jhxarwv469l0djx9t83tlvkdnlqvke8ajz7eqcp23ssvk662",4⟩

def wasmAccount : CosmosAddr := ⟨"wasm1t77myv2k0zh7evm87qedj0my9ajpsz4rgl4x98",4⟩

def wasmChain : ChainKey := ⟨.cosmos,⟨"wasm",by decide⟩⟩

def wasmHubChain : ChainKey := ⟨.cosmos,⟨"wasm-hub-testnet",by decide⟩⟩

/-- The digest of the bytes that the two managers share. No other input is looked up. -/
def wasmPrimitives : IdPrimitives where
  sha256 := fun bytes =>
    if bytes = utf8 "cosmoscosmos:wasm" ++ bech32Bytes wasmContract then
      FixedBytes.ofNat 32 0x2e0e67fb85a2faa8854d659bad4f5a18ac77050e1125503b9f72d20420d55d55
    else FixedBytes.filled 32 0
  cosmosBytes := bech32Bytes

theorem wasmManagers_clash :
    (ServiceManager.cosmos wasmChain wasmContract).idBytes wasmPrimitives =
        (ServiceManager.cosmos wasmHubChain wasmAccount).idBytes wasmPrimitives ∧
      ServiceId.ofManager wasmPrimitives (.cosmos wasmChain wasmContract) =
        ServiceId.ofManager wasmPrimitives (.cosmos wasmHubChain wasmAccount) ∧
      wasmChain ≠ wasmHubChain ∧ wasmPrimitives.cosmosBytes wasmContract ≠ wasmPrimitives.cosmosBytes wasmAccount ∧
      (ServiceManager.cosmos wasmChain wasmContract).Sized wasmPrimitives ∧
      (ServiceManager.cosmos wasmHubChain wasmAccount).Sized wasmPrimitives := by
  have contract : (wasmPrimitives.cosmosBytes wasmContract).length = 32 := by decide +kernel
  have account : (wasmPrimitives.cosmosBytes wasmAccount).length = 20 := by decide +kernel
  have shared : (ServiceManager.cosmos wasmChain wasmContract).idBytes wasmPrimitives =
      (ServiceManager.cosmos wasmHubChain wasmAccount).idBytes wasmPrimitives := by
    decide +kernel
  refine ⟨shared,?_,by decide,?_,.inr contract,.inl account⟩
  · rw [ServiceId.ofManager,ServiceId.ofManager,shared]
  · intro same
    rw [same,account] at contract
    cases contract

theorem wasmAccounts_determined :
    (ServiceManager.cosmos wasmChain wasmAccount).idBytes wasmPrimitives ≠
      (ServiceManager.cosmos wasmHubChain wasmAccount).idBytes wasmPrimitives := by
  have account : (wasmPrimitives.cosmosBytes wasmAccount).length = 20 := by decide +kernel
  intro same
  have determined := (ServiceManager.idBytes_determine_iff wasmPrimitives (.cosmos wasmChain wasmAccount)
    (.cosmos wasmHubChain wasmAccount) (.inl account) (.inl account)).mpr (by
      intro respelled
      rcases respelled with ⟨_,_,_,moved,twelve,_,shifted⟩ | ⟨_,_,_,moved,twelve,_,shifted⟩
      all_goals
        rw [List.self_eq_append_left.mp shifted] at twelve
        cases twelve)
  have chains := (determined same).2.1
  revert chains
  decide

end Warpdrive.Types
