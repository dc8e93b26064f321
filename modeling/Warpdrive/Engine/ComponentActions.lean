import Mathlib.Algebra.Group.Nat.Defs
import Warpdrive.Foundation.Outcome
import Warpdrive.Types.Submission

/-! The actions that an aggregator component returns, taken over into the types of the node
(`engine/src/bindings/types/component_to_warpdrive.rs`). A text is cut at a length that the component gives.
`CosmosAddr::new_str` is a parameter, which returns an address or an error. -/
namespace Warpdrive.Engine

open Warpdrive.Foundation Warpdrive.Types

/-! ## The component's types (`warpdrive:aggregator/output`) -/

namespace Output

/-- The lower and the higher half. -/
structure U128 where
  value : UInt64 × UInt64
  deriving DecidableEq

structure Duration where
  secs : UInt64
  deriving DecidableEq

structure EvmAddress where
  rawBytes : List UInt8
  deriving DecidableEq

structure CosmosAddress where
  bech32Addr : String
  prefixLen : UInt32
  deriving DecidableEq

structure StellarAddress where
  rawBytes : List UInt8
  deriving DecidableEq

structure TimerAction where
  delay : Duration
  deriving DecidableEq

structure EvmSubmitAction where
  chain : String
  address : EvmAddress
  gasPrice : Option U128
  deriving DecidableEq

structure CosmosSubmitAction where
  chain : String
  address : CosmosAddress
  gasPrice : Option U128
  deriving DecidableEq

structure StellarSubmitAction where
  chain : String
  address : StellarAddress
  deriving DecidableEq

inductive SubmitAction
  | evm (action : EvmSubmitAction)
  | cosmos (action : CosmosSubmitAction)
  | stellar (action : StellarSubmitAction)
  deriving DecidableEq

inductive AggregatorAction
  | timer (action : TimerAction)
  | submit (action : SubmitAction)
  deriving DecidableEq

/-- `u128::from`. -/
def U128.toNat (self : U128) : Nat := self.value.2.toNat <<< 64 ||| self.value.1.toNat

end Output

inductive WasmEngineError
  | convertAggregatorAction (error : String)
  deriving DecidableEq

/-- `&text[..bytes]`, which panics past the end and inside a character. -/
def sliceTo (text : String) (bytes : Nat) : Option String :=
  if valid : (⟨bytes⟩ : String.Pos.Raw).IsValid text then some (text.sliceTo ⟨⟨bytes⟩,valid⟩).copy else none

def parseChain (chain : String) : Outcome String ChainKey :=
  .ofExcept ((ChainKey.new chain).mapError ChainKeyError.text)

def tryFromEvmAddress (addr : Output.EvmAddress) : Outcome String Address :=
  if addr.rawBytes.length ≠ 20 then
    .error ("EVM address must be 20 bytes, got " ++ toString addr.rawBytes.length ++ " bytes")
  else
    match FixedBytes.ofList? 20 addr.rawBytes with
    | none => .panicked
    | some bytes => .ok bytes

def tryFromStellarAddress (addr : Output.StellarAddress) : Outcome String (FixedBytes 32) :=
  match FixedBytes.ofList? 32 addr.rawBytes with
  | none => .error ("Stellar contract id must be 32 bytes, got " ++ toString addr.rawBytes.length)
  | some bytes => .ok bytes

variable (newStr : String → Option String → Except String CosmosAddr)

def tryFromCosmosAddress (addr : Output.CosmosAddress) : Outcome String CosmosAddr :=
  match sliceTo addr.bech32Addr addr.prefixLen.toNat with
  | none => .panicked
  | some stem => .ofExcept (newStr addr.bech32Addr (some stem))

/-- For Stellar the address is looked at before the chain. -/
def tryFromSubmitAction : Output.SubmitAction → Outcome String SubmitAction
  | .evm action =>
    (parseChain action.chain).bind (fun chain => (tryFromEvmAddress action.address).map (fun address =>
      .evm ⟨chain,address,action.gasPrice.map Output.U128.toNat⟩))
  | .cosmos action =>
    (parseChain action.chain).bind (fun chain => (tryFromCosmosAddress newStr action.address).map (fun address =>
      .cosmos ⟨chain,address,action.gasPrice.map Output.U128.toNat⟩))
  | .stellar action =>
    (tryFromStellarAddress action.address).bind (fun address => (parseChain action.chain).map (fun chain =>
      .stellar ⟨chain,address⟩))

def tryFromAggregatorAction : Output.AggregatorAction → Outcome String AggregatorAction
  | .submit action => (tryFromSubmitAction newStr action).map .submit
  | .timer action => .ok (.timer action.delay.secs)

/-- The end of `execute_aggregator_component` and of `execute_aggregator_component_timer_callback`. -/
def convertActions (results : List Output.AggregatorAction) : Outcome WasmEngineError (List AggregatorAction) :=
  .collect (fun r => (tryFromAggregatorAction newStr r).mapError .convertAggregatorAction) results

def Output.U128.number (self : Output.U128) : Nat := self.value.2.toNat * 2 ^ 64 + self.value.1.toNat

theorem toNat_eq_number : Output.U128.toNat = Output.U128.number := by
  funext self
  have low : self.value.1.toNat < 2 ^ 64 := self.value.1.toNat_lt
  rw [Output.U128.toNat,Output.U128.number,Nat.shiftLeft_eq,Nat.mul_comm,← Nat.two_pow_add_eq_or_of_lt low]

theorem ofList?_eq_some (size : Nat) (bytes : List UInt8) (array : FixedBytes size) :
    FixedBytes.ofList? size bytes = some array ↔ array.toList = bytes := by
  unfold FixedBytes.ofList?
  constructor
  · intro made
    split at made
    next =>
      cases made
      rfl
    next => cases made
  · rintro rfl
    exact dif_pos array.size

theorem copy_sliceTo_append (stem rest : String)
    (valid : (⟨stem.utf8ByteSize⟩ : String.Pos.Raw).IsValid (stem ++ rest)) :
    ((stem ++ rest).sliceTo ⟨⟨stem.utf8ByteSize⟩,valid⟩).copy = stem := by
  apply String.toByteArray_inj.mp
  rw [String.copy_toByteArray_sliceTo,String.toByteArray_append]
  exact ByteArray.extract_append_eq_left rfl

theorem sliceTo_eq_some (text stem : String) (bytes : Nat) :
    sliceTo text bytes = some stem ↔ ∃ rest, text = stem ++ rest ∧ stem.utf8ByteSize = bytes := by
  unfold sliceTo
  constructor
  · intro cut
    split at cut
    next valid =>
      obtain ⟨first,rest,rfl,ends⟩ := String.Pos.Raw.isValid_iff_exists_append.mp valid
      cases ends
      rw [copy_sliceTo_append] at cut
      cases cut
      exact ⟨rest,rfl,rfl⟩
    next => cases cut
  · rintro ⟨rest,rfl,rfl⟩
    have valid : (⟨stem.utf8ByteSize⟩ : String.Pos.Raw).IsValid (stem ++ rest) :=
      String.Pos.Raw.isValid_iff_exists_append.mpr ⟨stem,rest,rfl,rfl⟩
    rw [dif_pos valid,copy_sliceTo_append]

/-- The length is that of a beginning of the address. -/
def Output.CosmosAddress.Cuts (addr : Output.CosmosAddress) : Prop :=
  ∃ stem rest : String, addr.bech32Addr = stem ++ rest ∧ stem.utf8ByteSize = addr.prefixLen.toNat

theorem sliceTo_eq_none (addr : Output.CosmosAddress) :
    sliceTo addr.bech32Addr addr.prefixLen.toNat = none ↔ ¬addr.Cuts := by
  rw [← not_iff_not,not_not]
  constructor
  · intro cut
    obtain ⟨stem,same⟩ := Option.ne_none_iff_exists'.mp cut
    obtain ⟨rest,whole,size⟩ := (sliceTo_eq_some _ _ _).mp same
    exact ⟨stem,rest,whole,size⟩
  · rintro ⟨stem,rest,whole,size⟩ cut
    have same := (sliceTo_eq_some _ stem _).mpr ⟨rest,whole,size⟩
    rw [cut] at same
    cases same

theorem parseChain_eq_ok (chain : String) (key : ChainKey) : parseChain chain = .ok key ↔ key.display = chain := by
  rw [parseChain,Outcome.ofExcept_eq_ok,← ChainKey.new_eq_ok]
  cases ChainKey.new chain with
  | error e => simp [Except.mapError]
  | ok made => simp [Except.mapError]

theorem parseChain_ne_panicked (chain : String) : parseChain chain ≠ .panicked :=
  Outcome.ofExcept_ne_panicked _

theorem tryFromEvmAddress_eq_ok (addr : Output.EvmAddress) (address : Address) :
    tryFromEvmAddress addr = .ok address ↔ address.toList = addr.rawBytes := by
  rw [← ofList?_eq_some]
  unfold tryFromEvmAddress FixedBytes.ofList?
  by_cases size : addr.rawBytes.length = 20
  · simp [size]
  · simp [size]

/-- The length has been checked where the array is unwrapped. -/
theorem tryFromEvmAddress_ne_panicked (addr : Output.EvmAddress) : tryFromEvmAddress addr ≠ .panicked := by
  unfold tryFromEvmAddress FixedBytes.ofList?
  by_cases size : addr.rawBytes.length = 20
  · simp [size]
  · simp [size]

theorem tryFromStellarAddress_eq_ok (addr : Output.StellarAddress) (address : FixedBytes 32) :
    tryFromStellarAddress addr = .ok address ↔ address.toList = addr.rawBytes := by
  rw [← ofList?_eq_some]
  unfold tryFromStellarAddress
  cases FixedBytes.ofList? 32 addr.rawBytes with
  | none => simp
  | some bytes => simp

theorem tryFromStellarAddress_ne_panicked (addr : Output.StellarAddress) : tryFromStellarAddress addr ≠ .panicked := by
  unfold tryFromStellarAddress
  split
  · simp
  · simp

theorem tryFromCosmosAddress_eq_ok (addr : Output.CosmosAddress) (address : CosmosAddr) :
    tryFromCosmosAddress newStr addr = .ok address ↔ ∃ stem rest : String, addr.bech32Addr = stem ++ rest ∧
      stem.utf8ByteSize = addr.prefixLen.toNat ∧ newStr addr.bech32Addr (some stem) = .ok address := by
  unfold tryFromCosmosAddress
  constructor
  · intro made
    split at made
    next => cases made
    next stem cut =>
      obtain ⟨rest,whole,size⟩ := (sliceTo_eq_some _ _ _).mp cut
      exact ⟨stem,rest,whole,size,(Outcome.ofExcept_eq_ok _ _).mp made⟩
  · rintro ⟨stem,rest,whole,size,made⟩
    have cut := (sliceTo_eq_some _ stem _).mpr ⟨rest,whole,size⟩
    rw [cut]
    exact (Outcome.ofExcept_eq_ok _ _).mpr made

theorem tryFromCosmosAddress_eq_panicked (addr : Output.CosmosAddress) :
    tryFromCosmosAddress newStr addr = .panicked ↔ ¬addr.Cuts := by
  rw [← sliceTo_eq_none]
  unfold tryFromCosmosAddress
  cases sliceTo addr.bech32Addr addr.prefixLen.toNat with
  | none => simp
  | some stem => simp [Outcome.ofExcept_ne_panicked]

/-- What the node takes over: a chain key with the text of the action's chain, and for the address the same bytes in
an array of its size. -/
inductive Carries : Output.AggregatorAction → AggregatorAction → Prop where
  | timer (secs : UInt64) : Carries (.timer ⟨⟨secs⟩⟩) (.timer secs)
  | evm (chain : ChainKey) (address : Address) (gasPrice : Option Output.U128) :
    Carries (.submit (.evm ⟨chain.display,⟨address.toList⟩,gasPrice⟩))
      (.submit (.evm ⟨chain,address,gasPrice.map Output.U128.number⟩))
  | cosmos (chain : ChainKey) (addr : Output.CosmosAddress) (gasPrice : Option Output.U128) (stem rest : String)
    (address : CosmosAddr) (whole : addr.bech32Addr = stem ++ rest)
    (size : stem.utf8ByteSize = addr.prefixLen.toNat) (made : newStr addr.bech32Addr (some stem) = .ok address) :
    Carries (.submit (.cosmos ⟨chain.display,addr,gasPrice⟩))
      (.submit (.cosmos ⟨chain,address,gasPrice.map Output.U128.number⟩))
  | stellar (chain : ChainKey) (address : FixedBytes 32) :
    Carries (.submit (.stellar ⟨chain.display,⟨address.toList⟩⟩)) (.submit (.stellar ⟨chain,address⟩))

/-- A submission to a Cosmos chain whose address is to be cut past its end or inside a character. -/
inductive Miscut : Output.AggregatorAction → Prop where
  | cosmos (chain : ChainKey) (addr : Output.CosmosAddress) (gasPrice : Option Output.U128) (miscut : ¬addr.Cuts) :
    Miscut (.submit (.cosmos ⟨chain.display,addr,gasPrice⟩))

theorem tryFromAggregatorAction_eq_ok (action : Output.AggregatorAction) (result : AggregatorAction) :
    tryFromAggregatorAction newStr action = .ok result ↔ Carries newStr action result := by
  constructor
  · intro converts
    cases action with
    | timer action =>
      cases converts
      exact .timer _
    | submit action =>
      obtain ⟨submit,made,rfl⟩ := (Outcome.map_eq_ok _ _ _).mp converts
      cases action with
      | evm action =>
        obtain ⟨chain,address,parsed,taken,rfl⟩ := (Outcome.bind_map_eq_ok _ _ _ _).mp made
        obtain ⟨text,⟨bytes⟩,gasPrice⟩ := action
        cases (parseChain_eq_ok _ _).mp parsed
        cases (tryFromEvmAddress_eq_ok _ _).mp taken
        rw [toNat_eq_number]
        exact .evm chain address gasPrice
      | cosmos action =>
        obtain ⟨chain,address,parsed,taken,rfl⟩ := (Outcome.bind_map_eq_ok _ _ _ _).mp made
        obtain ⟨text,addr,gasPrice⟩ := action
        cases (parseChain_eq_ok _ _).mp parsed
        obtain ⟨stem,rest,whole,size,made⟩ := (tryFromCosmosAddress_eq_ok newStr _ _).mp taken
        rw [toNat_eq_number]
        exact .cosmos chain addr gasPrice stem rest address whole size made
      | stellar action =>
        obtain ⟨address,chain,taken,parsed,rfl⟩ := (Outcome.bind_map_eq_ok _ _ _ _).mp made
        obtain ⟨text,⟨bytes⟩⟩ := action
        cases (parseChain_eq_ok _ _).mp parsed
        cases (tryFromStellarAddress_eq_ok _ _).mp taken
        exact .stellar chain address
  · intro carries
    cases carries with
    | timer secs => rfl
    | evm chain address gasPrice =>
      rw [← toNat_eq_number]
      have parsed := (parseChain_eq_ok chain.display chain).mpr rfl
      have taken := (tryFromEvmAddress_eq_ok ⟨address.toList⟩ address).mpr rfl
      exact (Outcome.map_eq_ok _ _ _).mpr
        ⟨_,(Outcome.bind_map_eq_ok _ _ _ _).mpr ⟨chain,address,parsed,taken,rfl⟩,rfl⟩
    | cosmos chain addr gasPrice stem rest address whole size made =>
      rw [← toNat_eq_number]
      have parsed := (parseChain_eq_ok chain.display chain).mpr rfl
      have taken := (tryFromCosmosAddress_eq_ok newStr addr address).mpr ⟨stem,rest,whole,size,made⟩
      exact (Outcome.map_eq_ok _ _ _).mpr
        ⟨_,(Outcome.bind_map_eq_ok _ _ _ _).mpr ⟨chain,address,parsed,taken,rfl⟩,rfl⟩
    | stellar chain address =>
      have parsed := (parseChain_eq_ok chain.display chain).mpr rfl
      have taken := (tryFromStellarAddress_eq_ok ⟨address.toList⟩ address).mpr rfl
      exact (Outcome.map_eq_ok _ _ _).mpr
        ⟨_,(Outcome.bind_map_eq_ok _ _ _ _).mpr ⟨address,chain,taken,parsed,rfl⟩,rfl⟩

/-- Of all the conversions only the cut of a Cosmos address panics, after its chain has been parsed. -/
theorem tryFromAggregatorAction_eq_panicked (action : Output.AggregatorAction) :
    tryFromAggregatorAction newStr action = .panicked ↔ Miscut action := by
  constructor
  · intro fails
    cases action with
    | timer action => cases fails
    | submit action =>
      have panics := (Outcome.map_eq_panicked _ _).mp fails
      cases action with
      | evm action =>
        rcases (Outcome.bind_map_eq_panicked _ _ _).mp panics with first | ⟨chain,_,later⟩
        · exact absurd first (parseChain_ne_panicked _)
        · exact absurd later (tryFromEvmAddress_ne_panicked _)
      | cosmos action =>
        rcases (Outcome.bind_map_eq_panicked _ _ _).mp panics with first | ⟨chain,parsed,later⟩
        · exact absurd first (parseChain_ne_panicked _)
        · obtain ⟨text,addr,gasPrice⟩ := action
          cases (parseChain_eq_ok _ _).mp parsed
          exact .cosmos chain addr gasPrice ((tryFromCosmosAddress_eq_panicked newStr addr).mp later)
      | stellar action =>
        rcases (Outcome.bind_map_eq_panicked _ _ _).mp panics with first | ⟨address,_,later⟩
        · exact absurd first (tryFromStellarAddress_ne_panicked _)
        · exact absurd later (parseChain_ne_panicked _)
  · intro miscut
    cases miscut with
    | cosmos chain addr gasPrice miscut =>
      have parsed := (parseChain_eq_ok chain.display chain).mpr rfl
      have cut := (tryFromCosmosAddress_eq_panicked newStr addr).mpr miscut
      exact (Outcome.map_eq_panicked _ _).mpr
        ((Outcome.bind_map_eq_panicked _ _ _).mpr (.inr ⟨chain,parsed,cut⟩))

/-- The conversion of a list returns exactly when no action that is reached, with all before it taken over, cuts its
address wrongly. It returns values exactly when they are what the actions carry. -/
theorem convertActions_safe_iff (actions : List Output.AggregatorAction) :
    (convertActions newStr actions ≠ .panicked ↔ ∀ before action after, actions = before ++ action::after →
      (∀ earlier ∈ before, ∃ result, Carries newStr earlier result) → ¬Miscut action) ∧
    ∀ results, convertActions newStr actions = .ok results ↔ List.Forall₂ (Carries newStr) actions results := by
  constructor
  · rw [convertActions,ne_eq,Outcome.collect_eq_panicked]
    simp only [Outcome.mapError_eq_ok,Outcome.mapError_eq_panicked,tryFromAggregatorAction_eq_ok,
      tryFromAggregatorAction_eq_panicked]
    constructor
    · intro safe before action after whole earlier miscut
      exact safe ⟨before,action,after,whole,earlier,miscut⟩
    · rintro never ⟨before,action,after,whole,earlier,miscut⟩
      exact never before action after whole earlier miscut
  · intro results
    rw [convertActions,Outcome.collect_eq_ok]
    simp only [Outcome.mapError_eq_ok,tryFromAggregatorAction_eq_ok]

def longPrefix : List Output.AggregatorAction :=
  [.submit (.cosmos ⟨"cosmos:cosmoshub-4",⟨"cosmos1abc",100⟩,none⟩)]

theorem longPrefix_panics : convertActions (fun text _ => .ok ⟨text,0⟩) longPrefix = .panicked := by
  decide +kernel

end Warpdrive.Engine
