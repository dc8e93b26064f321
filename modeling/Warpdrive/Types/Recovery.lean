import Mathlib.Algebra.Group.Nat.Defs
import Warpdrive.Types.Submission

/-! The two recoveries of a secp256k1 signature (`types/src/signing/signer.rs`): the signer's address, for
which alloy reads the signature, and the signer's compressed public key, for which k256 does. Both end in
k256's recovery. Alloy takes other last bytes and brings `s` into the lower half first. -/
namespace Warpdrive.Types

def secp256k1Order : Nat := 0xfffffffffffffffffffffffffffffffebaaedce6af48a03bbfd25e8cd0364141

namespace FixedBytes

variable {n : Nat}

/-- The bytes as a number, the most significant first. -/
def toNat (self : FixedBytes n) : Nat := self.toList.foldl (fun value byte => value * 256 + byte.toNat) 0

theorem length_take (self : FixedBytes 65) : (self.toList.take 64).length = 64 := by simp [self.size]

def head64 (self : FixedBytes 65) : FixedBytes 64 := ⟨self.toList.take 64,self.length_take⟩

def r (self : FixedBytes 64) : FixedBytes 32 := ⟨self.toList.take 32,by simp [self.size]⟩

def s (self : FixedBytes 64) : FixedBytes 32 := ⟨self.toList.drop 32,by simp [self.size]⟩

end FixedBytes

def HighS (s : FixedBytes 32) : Prop := secp256k1Order / 2 < s.toNat

instance (s : FixedBytes 32) : Decidable (HighS s) := inferInstanceAs (Decidable (_ < _))

namespace AlloySignature

/-- `normalized_s`, on wrapping 256-bit numbers. -/
def normalizedS (self : AlloySignature) : AlloySignature :=
  if HighS self.s then
    {self with s := FixedBytes.ofNat 32 (2 ^ 256 + secp256k1Order - self.s.toNat), yParity := !self.yParity}
  else self

def rs (self : AlloySignature) : FixedBytes 64 := ⟨self.r.toList ++ self.s.toList,by simp [self.r.size,self.s.size]⟩

def recid (self : AlloySignature) : UInt8 := if self.yParity then 1 else 0

end AlloySignature

variable (prim : Primitives)

/-- The compressed public key that k256 recovers from `r`, `s` and a recovery id. -/
def recoverPubkey (rs : FixedBytes 64) (prehash : FixedBytes 32) (recid : UInt8) : Option (FixedBytes 33) :=
  (prim.k256FromSlice rs).bind (fun kSig =>
    (prim.recoverFromPrehash prehash kSig recid).bind (fun key => FixedBytes.ofList? 33 key.sec1Bytes))

def pubkeyAddress (decompress : FixedBytes 33 → List UInt8) (pubkey : FixedBytes 33) : Address :=
  ⟨(prim.keccak256 (decompress pubkey)).toList.drop 12,by simp [(prim.keccak256 (decompress pubkey)).size]⟩

/-- How alloy and k256 recover: alloy takes the last bytes 0, 1, 27, 28 and those from 35 on, and hands k256
the normalized signature; k256 compresses a key to 33 bytes and recovers nothing from a high `s`. -/
structure RecoveryLibraries (decompress : FixedBytes 33 → List UInt8) : Prop where
  fromRaw : ∀ signature, (prim.signatureFromRaw signature).toOption = (alloySignatureFromRaw signature).toOption
  recoverAddress : ∀ signature prehash, (prim.recoverAddressFromPrehash signature prehash).toOption =
    (recoverPubkey prim signature.normalizedS.rs prehash signature.normalizedS.recid).map
      (pubkeyAddress prim decompress)
  high : ∀ rs prehash kSig recid, prim.k256FromSlice rs = some kSig → HighS rs.s →
    prim.recoverFromPrehash prehash kSig recid = none

/-- The key whose address `signer_address` returns. -/
def addressKey (signature : FixedBytes 65) (prehash : FixedBytes 32) : Option (FixedBytes 33) :=
  (alloySignatureFromRaw signature).toOption.bind (fun signature =>
    recoverPubkey prim signature.normalizedS.rs prehash signature.normalizedS.recid)

/-- The recovery id that `secp256k1_compressed_pubkey` takes from a last byte. -/
def reduced (v : UInt8) : UInt8 := if v ≥ 27 then v - 27 else v

/-- The key that `secp256k1_compressed_pubkey` returns. -/
def compressedKey (signature : FixedBytes 65) (prehash : FixedBytes 32) : Option (FixedBytes 33) :=
  if reduced (signature.toList.getD 64 0) > 3 then none
  else recoverPubkey prim signature.head64 prehash (reduced (signature.toList.getD 64 0))

namespace WavsSignature

theorem signerAddress_ok_iff (decompress : FixedBytes 33 → List UInt8) (libraries : RecoveryLibraries prim decompress)
    (signature : FixedBytes 65) (messagePrefix : Option SignaturePrefix) (signable : Envelope) (address : ChainAddress) :
    (secp256k1 signature messagePrefix).signerAddress prim signable = .ok address ↔
      ∃ prehash, prehashFor prim signable messagePrefix = .ok prehash ∧ ∃ key,
        addressKey prim signature prehash = some key ∧ address = .evm (pubkeyAddress prim decompress key) := by
  have read := libraries.fromRaw signature
  simp only [signerAddress,addressKey,← read]
  cases prim.signatureFromRaw signature with
  | error error => simp [Except.mapError,Except.toOption,bind,Except.bind]
  | ok alloy =>
    cases prehashFor prim signable messagePrefix with
    | error error => simp [Except.mapError,Except.toOption,bind,Except.bind]
    | ok prehash =>
      have recovered := libraries.recoverAddress alloy prehash
      cases outcome : prim.recoverAddressFromPrehash alloy prehash with
      | error error =>
        rw [outcome] at recovered
        have nothing := Option.map_eq_none_iff.mp recovered.symm
        simp [outcome,nothing,Except.mapError,Except.toOption,bind,Except.bind]
      | ok found =>
        rw [outcome] at recovered
        obtain ⟨key,some_key,same⟩ := Option.map_eq_some_iff.mp recovered.symm
        simp [outcome,some_key,same,Except.mapError,Except.toOption,bind,Except.bind,pure,Except.pure,eq_comm]

theorem compressedPubkey_ok_iff (signature : FixedBytes 65) (messagePrefix : Option SignaturePrefix)
    (signable : Envelope) (pubkey : FixedBytes 33) :
    (secp256k1 signature messagePrefix).secp256k1CompressedPubkey prim signable = .ok pubkey ↔
      ∃ prehash, prehashFor prim signable messagePrefix = .ok prehash ∧
        compressedKey prim signature prehash = some pubkey := by
  simp only [secp256k1CompressedPubkey,compressedKey,recoverPubkey,reduced,FixedBytes.head64]
  cases prim.k256FromSlice ⟨signature.toList.take 64,by simp [signature.size]⟩ with
  | none => simp [throw,throwThe,MonadExceptOf.throw]
  | some kSig =>
    dsimp only [Option.bind_some]
    generalize signature.toList.getD 64 0 = v
    obtain ⟨recid,same⟩ : ∃ recid, (if v ≥ 27 then v - 27 else v) = recid := ⟨_,rfl⟩
    simp only [same]
    by_cases out : recid > 3
    · simp [out,bind,Except.bind,throw,throwThe,MonadExceptOf.throw]
    · simp only [if_neg out,bind]
      cases prehashFor prim signable messagePrefix with
      | error error => simp [Except.bind]
      | ok prehash =>
        simp only [Except.bind]
        cases recovered : prim.recoverFromPrehash prehash kSig recid with
        | none => simp [recovered,throw,throwThe,MonadExceptOf.throw]
        | some key =>
          cases sized : FixedBytes.ofList? 33 key.sec1Bytes <;>
            simp [recovered,sized,pure,Except.pure,throw,throwThe,MonadExceptOf.throw]

/-- The last byte is one of Ethereum's for a parity, and `s` is in the lower half. -/
def Canonical (signature : FixedBytes 65) : Prop :=
  (signature.toList.getD 64 0 = 0 ∨ signature.toList.getD 64 0 = 27 ∨ signature.toList.getD 64 0 = 1 ∨
    signature.toList.getD 64 0 = 28) ∧ ¬HighS signature.head64.s

/-- A last byte that k256 takes as a recovery id and alloy does not take. -/
def RawRecid (v : UInt8) : Prop := v = 2 ∨ v = 3 ∨ v = 29 ∨ v = 30

instance (v : UInt8) : Decidable (RawRecid v) := inferInstanceAs (Decidable (_ ∨ _))

/-- What the one library that takes the last byte of a signature reads it as. -/
def reading (signature : FixedBytes 65) : Option (FixedBytes 64 × UInt8) :=
  if RawRecid (signature.toList.getD 64 0) then
    some (signature.head64,reduced (signature.toList.getD 64 0))
  else (alloySignatureFromRaw signature).toOption.map (fun alloy => (alloy.normalizedS.rs,alloy.normalizedS.recid))

theorem reduced_of_raw (v : UInt8) (raw : RawRecid v) : ¬reduced v > 3 := by
  rcases raw with rfl | rfl | rfl | rfl <;> decide

theorem reduced_over (v : UInt8) (other : ¬RawRecid v) (plain : v ≠ 0 ∧ v ≠ 27 ∧ v ≠ 1 ∧ v ≠ 28) : reduced v > 3 := by
  unfold reduced RawRecid at *
  grind

theorem alloy_not_raw (signature : FixedBytes 65) (raw : RawRecid (signature.toList.getD 64 0)) :
    (alloySignatureFromRaw signature).toOption = none := by
  unfold alloySignatureFromRaw
  rcases raw with v | v | v | v <;> simp only [v] <;> rfl

theorem alloy_halves (signature : FixedBytes 65) (alloy : AlloySignature)
    (accepted : (alloySignatureFromRaw signature).toOption = some alloy) :
    alloy.rs = signature.head64 ∧ alloy.s = signature.head64.s := by
  have cut : (signature.toList.take 64).drop 32 = (signature.toList.drop 32).take 32 := List.drop_take
  have front : (signature.toList.take 64).take 32 = signature.toList.take 32 := by
    rw [List.take_take]
    rfl
  have whole : signature.toList.take 32 ++ (signature.toList.drop 32).take 32 = signature.toList.take 64 := by
    rw [← cut,← front]
    exact List.take_append_drop 32 _
  have read : alloy.r.toList = signature.toList.take 32 ∧ alloy.s.toList = (signature.toList.drop 32).take 32 := by
    unfold alloySignatureFromRaw at accepted
    dsimp only at accepted
    split at accepted
    · cases accepted
      exact ⟨rfl,rfl⟩
    · split at accepted
      · cases accepted
        exact ⟨rfl,rfl⟩
      · split at accepted
        · cases accepted
          exact ⟨rfl,rfl⟩
        · cases accepted
  constructor
  · apply FixedBytes.toList_injective
    change alloy.r.toList ++ alloy.s.toList = _
    rw [read.1,read.2,whole]
    rfl
  · apply FixedBytes.toList_injective
    rw [read.2,← cut]
    rfl

theorem alloy_canonical (signature : FixedBytes 65) (canonical : Canonical signature) :
    ∃ alloy, (alloySignatureFromRaw signature).toOption = some alloy ∧
      reduced (signature.toList.getD 64 0) = alloy.recid := by
  obtain ⟨last,_⟩ := canonical
  unfold alloySignatureFromRaw
  rcases last with v | v | v | v
  all_goals
    simp only [v]
    exact ⟨_,rfl,rfl⟩

theorem canonical_keys (signature : FixedBytes 65) (prehash : FixedBytes 32) (canonical : Canonical signature) :
    addressKey prim signature prehash = compressedKey prim signature prehash := by
  obtain ⟨alloy,accepted,same⟩ := alloy_canonical signature canonical
  obtain ⟨whole,half⟩ := alloy_halves signature alloy accepted
  have low : ¬HighS alloy.s := by
    rw [half]
    exact canonical.2
  have small : ¬alloy.recid > 3 := by
    unfold AlloySignature.recid
    split <;> decide
  simp only [addressKey,compressedKey,accepted,Option.bind_some,AlloySignature.normalizedS,if_neg low,same,
    if_neg small,whole]

/-- A signature that is not canonical gives a key on one side at most, the one whose library takes its last
byte. -/
theorem other_keys (decompress : FixedBytes 33 → List UInt8) (libraries : RecoveryLibraries prim decompress)
    (signature : FixedBytes 65) (prehash : FixedBytes 32) (other : ¬Canonical signature) :
    (addressKey prim signature prehash = none ∨ compressedKey prim signature prehash = none) ∧
      (addressKey prim signature prehash).or (compressedKey prim signature prehash) =
        (reading signature).bind (fun read => recoverPubkey prim read.1 prehash read.2) := by
  by_cases raw : RawRecid (signature.toList.getD 64 0)
  · have refused := alloy_not_raw signature raw
    have none_here : addressKey prim signature prehash = none := by simp only [addressKey,refused,Option.bind_none]
    refine ⟨.inl none_here,?_⟩
    rw [none_here]
    simp only [reading,if_pos raw,compressedKey,if_neg (reduced_of_raw _ raw),Option.none_or,Option.bind_some]
  · have none_there : compressedKey prim signature prehash = none := by
      unfold compressedKey
      by_cases large : reduced (signature.toList.getD 64 0) > 3
      · rw [if_pos large]
      · rw [if_neg large]
        -- The last byte is canonical, so that `s` is not.
        have upper : HighS signature.head64.s := by
          by_contra low
          apply other
          refine ⟨?_,low⟩
          by_contra plain
          apply large
          apply reduced_over _ raw
          tauto
        unfold recoverPubkey
        cases sliced : prim.k256FromSlice signature.head64 with
        | none => rfl
        | some kSig =>
          rw [Option.bind_some,libraries.high _ _ kSig _ sliced upper]
          rfl
    refine ⟨.inr none_there,?_⟩
    rw [none_there,Option.or_none]
    simp only [reading,if_neg raw,addressKey,Option.bind_map]
    rfl

theorem address_of_pubkey (decompress : FixedBytes 33 → List UInt8) (libraries : RecoveryLibraries prim decompress)
    (signature : FixedBytes 65) (messagePrefix : Option SignaturePrefix) (signable : Envelope)
    (address : ChainAddress) (pubkey : FixedBytes 33)
    (found : (secp256k1 signature messagePrefix).signerAddress prim signable = .ok address)
    (recovered : (secp256k1 signature messagePrefix).secp256k1CompressedPubkey prim signable = .ok pubkey) :
    address = .evm (pubkeyAddress prim decompress pubkey) := by
  obtain ⟨prehash,hashed,key,held,same⟩ := (signerAddress_ok_iff prim decompress libraries _ _ _ _).mp found
  obtain ⟨again,hashed',compressed⟩ := (compressedPubkey_ok_iff prim _ _ _ _).mp recovered
  cases hashed.symm.trans hashed'
  by_cases canonical : Canonical signature
  · rw [canonical_keys prim signature prehash canonical] at held
    cases held.symm.trans compressed
    exact same
  · rcases (other_keys prim decompress libraries signature prehash canonical).1 with absent | absent
    · cases absent.symm.trans held
    · cases absent.symm.trans compressed

/-- The signature is canonical, or no key is recovered from the one reading that it has. -/
def ReadAlike (signature : FixedBytes 65) (messagePrefix : Option SignaturePrefix) (signable : Envelope) : Prop :=
  ∀ prehash, prehashFor prim signable messagePrefix = .ok prehash → Canonical signature ∨
    ∀ rs recid, reading signature = some (rs,recid) → recoverPubkey prim rs prehash recid = none

/-- The two recoveries agree on a signature: they succeed alike, and the address is that of the key. -/
def RecoveriesAgree (decompress : FixedBytes 33 → List UInt8) (signature : FixedBytes 65)
    (messagePrefix : Option SignaturePrefix) (signable : Envelope) : Prop :=
  ((∃ address, (secp256k1 signature messagePrefix).signerAddress prim signable = .ok address) ↔
    ∃ pubkey, (secp256k1 signature messagePrefix).secp256k1CompressedPubkey prim signable = .ok pubkey) ∧
  ∀ address pubkey, (secp256k1 signature messagePrefix).signerAddress prim signable = .ok address →
    (secp256k1 signature messagePrefix).secp256k1CompressedPubkey prim signable = .ok pubkey →
    address = .evm (pubkeyAddress prim decompress pubkey)

/-- The two recoveries agree exactly on the signatures that both libraries read alike, or neither recovers
from. -/
theorem recoveries_agree_iff (decompress : FixedBytes 33 → List UInt8)
    (libraries : RecoveryLibraries prim decompress) (signature : FixedBytes 65)
    (messagePrefix : Option SignaturePrefix) (signable : Envelope) :
    RecoveriesAgree prim decompress signature messagePrefix signable ↔
      ReadAlike prim signature messagePrefix signable := by
  unfold RecoveriesAgree
  have addressed : ∀ address pubkey, (secp256k1 signature messagePrefix).signerAddress prim signable = .ok address →
      (secp256k1 signature messagePrefix).secp256k1CompressedPubkey prim signable = .ok pubkey →
      address = .evm (pubkeyAddress prim decompress pubkey) :=
    address_of_pubkey prim decompress libraries signature messagePrefix signable
  rw [and_iff_left addressed]
  unfold ReadAlike
  simp only [signerAddress_ok_iff prim decompress libraries,compressedPubkey_ok_iff]
  cases hashed : prehashFor prim signable messagePrefix with
  | error error => simp
  | ok prehash =>
    simp only [Except.ok.injEq,exists_eq_left',forall_eq']
    by_cases canonical : Canonical signature
    · rw [canonical_keys prim signature prehash canonical]
      refine iff_of_true ⟨?_,?_⟩ (.inl canonical)
      · intro found
        obtain ⟨_,key,some_key,_⟩ := found
        exact ⟨key,some_key⟩
      · intro found
        obtain ⟨key,some_key⟩ := found
        exact ⟨_,key,some_key,rfl⟩
    · obtain ⟨one,together⟩ := other_keys prim decompress libraries signature prehash canonical
      have nothing : (∀ rs recid, reading signature = some (rs,recid) → recoverPubkey prim rs prehash recid = none) ↔
          addressKey prim signature prehash = none ∧ compressedKey prim signature prehash = none := by
        rw [← Option.or_eq_none_iff,together,Option.bind_eq_none_iff]
        exact ⟨fun all read => all read.1 read.2,fun all rs recid => all (rs,recid)⟩
      rw [nothing]
      simp only [canonical,false_or]
      constructor
      · intro agree
        rcases one with absent | absent
        · refine ⟨absent,?_⟩
          by_contra present
          obtain ⟨pubkey,recovered⟩ := Option.ne_none_iff_exists'.mp present
          obtain ⟨_,key,held,_⟩ := agree.mpr ⟨pubkey,recovered⟩
          cases absent.symm.trans held
        · refine ⟨?_,absent⟩
          by_contra present
          obtain ⟨key,recovered⟩ := Option.ne_none_iff_exists'.mp present
          obtain ⟨pubkey,held⟩ := agree.mp ⟨_,key,recovered,rfl⟩
          cases absent.symm.trans held
      · intro neither
        simp [neither.1,neither.2]

end WavsSignature

def pubkey1 : FixedBytes 33 := FixedBytes.ofNat 33 0x034f355bdcb7cc0af728ef3cceb9615d90684bb5b2ca5f859ab0f0b704075871aa

def pubkey2 : FixedBytes 33 := FixedBytes.ofNat 33 0x02466d7fcae563e5cb09a0d1870bb580344804617879a14949cf22285f1bae3f27

/-- Their two coordinates. -/
def point1 : List UInt8 :=
  beBytes 64 0x4f355bdcb7cc0af728ef3cceb9615d90684bb5b2ca5f859ab0f0b704075871aa385b6b1b8ead809ca67454d9683fcf2ba03456d6fe2c4abe2b07f0fbdbb2f1c1

def point2 : List UInt8 :=
  beBytes 64 0x466d7fcae563e5cb09a0d1870bb580344804617879a14949cf22285f1bae3f276728176c3c6431f8eeda4538dc37c865e2784f3a9e77d044f33e407797e1278a

def decompressed (pubkey : FixedBytes 33) : List UInt8 :=
  if pubkey = pubkey1 then point1 else if pubkey = pubkey2 then point2 else []

/-- k256 on the signatures of the two operators. -/
def k256Recover (prehash : FixedBytes 32) (kSig : K256Signature) (recid : UInt8) : Option VerifyingKey :=
  if HighS kSig.rs.s ∨ prehash ≠ cafeEip191Hash ∨ recid ≠ 1 then none
  else if kSig.rs = signature1.head64 then some ⟨pubkey1.toList⟩
  else if kSig.rs = signature2.head64 then some ⟨pubkey2.toList⟩
  else none

/-- The deployment with the libraries that recover the operators' keys. -/
def recoveringKeys : Primitives :=
  {deployedPrimitives with
    keccak256 := fun bytes =>
      if bytes = point1 then
        FixedBytes.ofNat 32 0x969b0a11b8a56bacf1ac18f219e7e376e7c213b7e7e7e46cc70a5dd086daff2a
      else if bytes = point2 then
        FixedBytes.ofNat 32 0x85b1f044bab6d30f3a19c1501563915e194d8cfba1943570603f7606a3115508
      else deployedPrimitives.keccak256 bytes
    k256FromSlice := fun rs =>
      if (0 < rs.r.toNat ∧ rs.r.toNat < secp256k1Order) ∧ 0 < rs.s.toNat ∧ rs.s.toNat < secp256k1Order then some ⟨rs⟩
      else none
    recoverFromPrehash := k256Recover}

def recoveringPrimitives : Primitives :=
  {recoveringKeys with
    recoverAddressFromPrehash := fun signature prehash =>
      match recoverPubkey recoveringKeys signature.normalizedS.rs prehash signature.normalizedS.recid with
      | some pubkey => .ok (pubkeyAddress recoveringKeys decompressed pubkey)
      | none => .error "signature error"}

theorem recoveringPrimitives_libraries : RecoveryLibraries recoveringPrimitives decompressed where
  fromRaw _ := rfl
  recoverAddress signature prehash := by
    have same : recoverPubkey recoveringPrimitives = recoverPubkey recoveringKeys := rfl
    rw [same]
    simp only [recoveringPrimitives]
    split
    · next pubkey recovered =>
      rw [recovered]
      rfl
    · next nothing =>
      rw [nothing]
      rfl
  high rs prehash kSig recid sliced upper := by
    simp only [recoveringPrimitives,recoveringKeys] at sliced
    split at sliced
    · cases sliced
      simp [recoveringPrimitives,recoveringKeys,k256Recover,upper]
    · cases sliced

/-- The first operator's signature with its parity spelled as a replay-protected last byte. -/
def replaySignature1 : FixedBytes 65 := ⟨signature1.toList.take 64 ++ [36],by simp [signature1.size]⟩

/-- The address is recovered from it, the public key is not. -/
theorem replaySignature1_one_sided :
    RecoveryLibraries recoveringPrimitives decompressed ∧
    (WavsSignature.secp256k1 replaySignature1 (some .eip191)).signerAddress recoveringPrimitives (.evm cafeEnvelope) =
      .ok (.evm operator1) ∧
    (WavsSignature.secp256k1 replaySignature1 (some .eip191)).secp256k1CompressedPubkey recoveringPrimitives (.evm cafeEnvelope) =
      .error (.recoverSignerAddress "FromBytes(\"invalid recovery id\")") ∧
    ¬WavsSignature.RecoveriesAgree recoveringPrimitives decompressed replaySignature1 (some .eip191) (.evm cafeEnvelope) := by
  have recovered : (WavsSignature.secp256k1 replaySignature1 (some .eip191)).signerAddress recoveringPrimitives (.evm cafeEnvelope) =
      .ok (.evm operator1) := by
    decide +kernel
  have refused : (WavsSignature.secp256k1 replaySignature1 (some .eip191)).secp256k1CompressedPubkey recoveringPrimitives
      (.evm cafeEnvelope) = .error (.recoverSignerAddress "FromBytes(\"invalid recovery id\")") := by
    decide +kernel
  refine ⟨recoveringPrimitives_libraries,recovered,refused,?_⟩
  intro agree
  obtain ⟨pubkey,found⟩ := agree.1.mp ⟨_,recovered⟩
  rw [refused] at found
  cases found

theorem replaySignature1_agree_iff :
    WavsSignature.RecoveriesAgree recoveringPrimitives decompressed replaySignature1 (some .eip191) (.evm cafeEnvelope) ↔
      WavsSignature.ReadAlike recoveringPrimitives replaySignature1 (some .eip191) (.evm cafeEnvelope) :=
  WavsSignature.recoveries_agree_iff recoveringPrimitives decompressed recoveringPrimitives_libraries replaySignature1 (some .eip191)
    (.evm cafeEnvelope)

end Warpdrive.Types
