import Warpdrive.Types.Signing

/-! Event ids (`EventId::new` and `AggregatorInput::event_id` in
`types/src/signing.rs`). The id is the RIPEMD-160 digest of the service id, the
bytes of the workflow id and the encoded salt, one after the other and without
lengths. Two questions are settled here: which inputs share a pre-image, and which
fields of a trigger two operators have to agree on for equal ids. -/
namespace Warpdrive.Types

inductive EventIdSalt
  | wasmResponse (bytes : List UInt8)
  | trigger (data : TriggerData)
  deriving DecidableEq

def AtProtoEvent.key (event : AtProtoEvent) : AtProtoKey :=
  ⟨event.repo,event.collection,event.rkey,event.action,event.cid,event.record,event.rev,event.opIndex⟩

def TriggerData.encodeSalt (prim : Primitives) : TriggerData → Except String (List UInt8)
  | .atProtoEvent event => prim.bincodeAtProto event.key
  | data => prim.bincodeTriggerData data

def EventIdSalt.encode (prim : Primitives) : EventIdSalt → Except String (List UInt8)
  | .wasmResponse bytes => .ok bytes
  | .trigger data => data.encodeSalt prim

namespace EventId

variable (prim : Primitives)

/-- What the hasher has been fed when it is finalized. -/
def preimage (serviceId : ServiceId) (workflowId : WorkflowId) (salt : EventIdSalt) :
    Except String (List UInt8) := do
  let encoded ← salt.encode prim
  pure (serviceId.inner.toList ++ (workflowId.asBytes ++ encoded))

def new (serviceId : ServiceId) (workflowId : WorkflowId) (salt : EventIdSalt) : Except String EventId :=
  (preimage prim serviceId workflowId salt).map (fun bytes => ⟨prim.ripemd160 bytes⟩)

end EventId

structure AggregatorInput where
  triggerAction : TriggerAction
  operatorResponse : WasmResponse

def AggregatorInput.eventId (prim : Primitives) (self : AggregatorInput) : Except String EventId :=
  let salt := match self.operatorResponse.eventIdSalt with
    | some bytes => EventIdSalt.wasmResponse bytes
    | none => EventIdSalt.trigger self.triggerAction.data
  EventId.new prim self.triggerAction.config.serviceId self.triggerAction.config.workflowId salt

/-! ## Shared pre-images -/

/-- The three encodings of a salt. -/
inductive SaltForm
  | component
  | stream
  | event
  deriving DecidableEq

def EventIdSalt.form : EventIdSalt → SaltForm
  | .wasmResponse _ => .component
  | .trigger (.atProtoEvent _) => .stream
  | .trigger _ => .event

/-- The salt without the fields of an AtProto event that are local to a stream. -/
def EventIdSalt.canonical : EventIdSalt → EventIdSalt
  | .trigger (.atProtoEvent event) => .trigger (.atProtoEvent {event with sequence := 0, timestamp := 0})
  | salt => salt

/-- Bincode's encoding is injective on the values that the two salts have it encode. -/
def Primitives.BincodeInjectiveOn (prim : Primitives) : EventIdSalt → EventIdSalt → Prop
  | .trigger (.atProtoEvent a),.trigger (.atProtoEvent b) => ∀ bytes,
      prim.bincodeAtProto a.key = .ok bytes → prim.bincodeAtProto b.key = .ok bytes → a.key = b.key
  | .trigger a,.trigger b => ∀ bytes,
      prim.bincodeTriggerData a = .ok bytes → prim.bincodeTriggerData b = .ok bytes → a = b
  | _,_ => True

theorem AtProtoEvent.canonical_of_key (a b : AtProtoEvent) (same : a.key = b.key) :
    {a with sequence := 0, timestamp := 0} = {b with sequence := 0, timestamp := 0} := by
  cases a
  cases b
  simp only [AtProtoEvent.key,AtProtoKey.mk.injEq] at same
  simp [same]

theorem EventIdSalt.form_canonical (salt : EventIdSalt) : salt.canonical.form = salt.form := by
  cases salt with
  | wasmResponse bytes => rfl
  | trigger data => cases data <;> rfl

theorem EventIdSalt.encode_injective (prim : Primitives) (a b : EventIdSalt)
    (injective : prim.BincodeInjectiveOn a b) (form : a.form = b.form) (bytes : List UInt8)
    (first : a.encode prim = .ok bytes) (second : b.encode prim = .ok bytes) :
    a.canonical = b.canonical := by
  cases a with
  | wasmResponse x =>
    cases b with
    | wasmResponse y =>
      simp only [encode,Except.ok.injEq] at first second
      rw [first,second]
    | trigger y => cases y <;> simp [EventIdSalt.form] at form
  | trigger x =>
    cases b with
    | wasmResponse y => cases x <;> simp [EventIdSalt.form] at form
    | trigger y =>
      cases x <;> cases y <;> first
        | contradiction
        | have same := AtProtoEvent.canonical_of_key _ _ (injective bytes first second)
          simp only [canonical]
          rw [same]
        | rw [injective bytes first second]

theorem Primitives.BincodeInjectiveOn.symm (prim : Primitives) (a b : EventIdSalt)
    (injective : prim.BincodeInjectiveOn a b) : prim.BincodeInjectiveOn b a := by
  cases a with
  | wasmResponse x =>
    cases b with
    | wasmResponse y => trivial
    | trigger y => cases y <;> trivial
  | trigger x =>
    cases b with
    | wasmResponse y => cases x <;> trivial
    | trigger y =>
      cases x <;> cases y <;> exact fun bytes first second => (injective bytes second first).symm

/-- The first workflow id is a beginning of the second, and the bytes that the
second one adds stand at the head of the first one's encoded salt. -/
def Shifted (prim : Primitives) (first : WorkflowId) (firstSalt : EventIdSalt)
    (second : WorkflowId) (secondSalt : EventIdSalt) : Prop :=
  ∃ moved encoded, second.asBytes = first.asBytes ++ moved ∧
    firstSalt.encode prim = .ok (moved ++ encoded) ∧ secondSalt.encode prim = .ok encoded ∧
    (moved ≠ [] ∨ firstSalt.form ≠ secondSalt.form)

namespace EventId

variable (prim : Primitives)

theorem preimage_eq_ok (serviceId : ServiceId) (workflowId : WorkflowId) (salt : EventIdSalt)
    (bytes : List UInt8) : preimage prim serviceId workflowId salt = .ok bytes ↔
      ∃ encoded, salt.encode prim = .ok encoded ∧
        serviceId.inner.toList ++ (workflowId.asBytes ++ encoded) = bytes := by
  unfold preimage
  cases salt.encode prim with
  | error error => simp [bind,Except.bind]
  | ok encoded => simp [bind,Except.bind,pure,Except.pure]

private theorem shifted_shares (serviceId : ServiceId) (first second : WorkflowId)
    (firstSalt secondSalt : EventIdSalt) (shifted : Shifted prim first firstSalt second secondSalt) :
    (∃ bytes, preimage prim serviceId first firstSalt = .ok bytes ∧
      preimage prim serviceId second secondSalt = .ok bytes) ∧
    ¬ (first = second ∧ firstSalt.canonical = secondSalt.canonical) := by
  obtain ⟨moved,encoded,extends_,firstEncoded,secondEncoded,apart⟩ := shifted
  refine ⟨⟨serviceId.inner.toList ++ (second.asBytes ++ encoded),?_,?_⟩,?_⟩
  · rw [preimage_eq_ok]
    refine ⟨moved ++ encoded,firstEncoded,?_⟩
    rw [extends_,List.append_assoc]
  · rw [preimage_eq_ok]
    exact ⟨encoded,secondEncoded,rfl⟩
  · intro same
    obtain ⟨workflow,salt⟩ := same
    rcases apart with added | form
    · rw [workflow] at extends_
      exact added (List.self_eq_append_right.mp extends_)
    · apply form
      rw [← EventIdSalt.form_canonical firstSalt,salt,EventIdSalt.form_canonical]

private theorem shifted_of_append (first second : WorkflowId) (firstSalt secondSalt : EventIdSalt)
    (injective : prim.BincodeInjectiveOn firstSalt secondSalt) (moved encoded : List UInt8)
    (firstEncoded : firstSalt.encode prim = .ok (moved ++ encoded))
    (secondEncoded : secondSalt.encode prim = .ok encoded)
    (extended : second.asBytes = first.asBytes ++ moved)
    (unshifted : ¬ Shifted prim first firstSalt second secondSalt) :
    first = second ∧ firstSalt.canonical = secondSalt.canonical := by
  have fixed : moved = [] ∧ firstSalt.form = secondSalt.form := by
    by_contra apart
    apply unshifted
    refine ⟨moved,encoded,extended,firstEncoded,secondEncoded,?_⟩
    by_contra same
    push Not at same
    exact apart same
  obtain ⟨none,form⟩ := fixed
  subst none
  refine ⟨WorkflowId.asBytes_injective ?_,?_⟩
  · rw [extended,List.append_nil]
  · exact EventIdSalt.encode_injective prim firstSalt secondSalt injective form encoded
      firstEncoded secondEncoded

/-- Equal pre-images come from equal service, workflow and salt, except for one
service whose workflow ids and salts are shifted against each other. -/
theorem preimage_separates_iff (firstService secondService : ServiceId) (first second : WorkflowId)
    (firstSalt secondSalt : EventIdSalt) (injective : prim.BincodeInjectiveOn firstSalt secondSalt) :
    (∀ bytes, preimage prim firstService first firstSalt = .ok bytes →
        preimage prim secondService second secondSalt = .ok bytes →
        firstService = secondService ∧ first = second ∧ firstSalt.canonical = secondSalt.canonical) ↔
      ¬ (firstService = secondService ∧
        (Shifted prim first firstSalt second secondSalt ∨
          Shifted prim second secondSalt first firstSalt)) := by
  constructor
  · intro separates ambiguous
    obtain ⟨service,shifted⟩ := ambiguous
    subst service
    rcases shifted with forward | backward
    · obtain ⟨⟨bytes,left,right⟩,differ⟩ :=
        shifted_shares prim firstService first second firstSalt secondSalt forward
      exact differ (separates bytes left right).2
    · obtain ⟨⟨bytes,right,left⟩,differ⟩ :=
        shifted_shares prim firstService second first secondSalt firstSalt backward
      obtain ⟨_,workflow,salt⟩ := separates bytes left right
      exact differ ⟨workflow.symm,salt.symm⟩
  · intro unambiguous bytes left right
    obtain ⟨firstEncoded,left,spelled⟩ := (preimage_eq_ok prim _ _ _ _).mp left
    obtain ⟨secondEncoded,right,same⟩ := (preimage_eq_ok prim _ _ _ _).mp right
    rw [← spelled] at same
    have service : secondService.inner.toList = firstService.inner.toList ∧
        second.asBytes ++ secondEncoded = first.asBytes ++ firstEncoded := by
      apply List.append_inj same
      rw [secondService.inner.size,firstService.inner.size]
    obtain ⟨service,tails⟩ := service
    have service : firstService = secondService := by
      cases firstService
      cases secondService
      exact congrArg ServiceId.mk (FixedBytes.toList_injective service).symm
    refine ⟨service,?_⟩
    have unshifted : ¬ Shifted prim first firstSalt second secondSalt ∧
        ¬ Shifted prim second secondSalt first firstSalt := by
      constructor
      · intro forward
        exact unambiguous ⟨service,.inl forward⟩
      · intro backward
        exact unambiguous ⟨service,.inr backward⟩
    rcases List.append_eq_append_iff.mp tails with ⟨moved,extended,shifted⟩ | ⟨moved,extended,shifted⟩
    · rw [shifted] at right
      obtain ⟨workflow,salt⟩ := shifted_of_append prim second first secondSalt firstSalt
        (injective.symm prim _ _) moved firstEncoded right left extended unshifted.2
      exact ⟨workflow.symm,salt.symm⟩
    · rw [shifted] at left
      exact shifted_of_append prim first second firstSalt secondSalt injective moved secondEncoded
        left right extended unshifted.1

end EventId

/-! The values below are those of one log on a local chain: bincode's encoding of
the log with and without its block timestamp, and the digests of the two event ids.
No other input is looked up in this table. -/

def localChain : ChainKey := ⟨.evm,anvilId⟩

def observedLog (blockTimestamp : Option UInt64) : EvmContractEvent where
  chain := localChain
  contractAddress := FixedBytes.ofNat 20 0x5fbdb2315678afecb367f032d93f642f64180aa3
  logData := ⟨[FixedBytes.ofNat 32 0x86eacd23610d81706516de1ed0476c87772fdf939c7c771fbbd7f0230d619e68],
    utf8 "hello"⟩
  txHash := FixedBytes.ofNat 32 0xc6b96208da008581c8401312c6025b96a7028812de06e809b03bf94598d9cefb
  blockNumber := 42
  logIndex := 0
  blockHash := FixedBytes.ofNat 32 0x20b53acf0daefc8c6ad68c861fb3b543ca541abd101abc1edfcbf6606b838ef4
  blockTimestamp := blockTimestamp
  txIndex := 3

def observedLogHead : List UInt8 :=
  beBytes 34 0x010965766d3a3331333337145fbdb2315678afecb367f032d93f642f64180aa30120 ++
  beBytes 39 0x86eacd23610d81706516de1ed0476c87772fdf939c7c771fbbd7f0230d619e680568656c6c6f20 ++
  beBytes 35 0xc6b96208da008581c8401312c6025b96a7028812de06e809b03bf94598d9cefb2a0020 ++
  beBytes 32 0x20b53acf0daefc8c6ad68c861fb3b543ca541abd101abc1edfcbf6606b838ef4

def observedService : ServiceId :=
  ⟨FixedBytes.ofNat 32 0x9df6b026a8c6c26e3c3acd2370a16e93fffdc0015ff5bd879218788025db0280⟩

def observedWorkflow : WorkflowId := ⟨"flow1",by decide⟩

def observedPrimitives : Primitives where
  keccak256 := fun _ => FixedBytes.filled 32 0
  sha256 := fun _ => FixedBytes.filled 32 0
  ripemd160 := fun bytes =>
    if bytes = observedService.inner.toList ++ (utf8 "flow1" ++ (observedLogHead ++ [0,3])) then
      FixedBytes.ofNat 20 0x4ab025526bfabb984a6b1537d7c8630b51b99953
    else if bytes = observedService.inner.toList ++
        (utf8 "flow1" ++ (observedLogHead ++ [1,0xfc,0x00,0xf1,0x53,0x65,3])) then
      FixedBytes.ofNat 20 0xf548996e642ae861fe3f423d94b1571ebb813316
    else FixedBytes.filled 20 0
  signatureFromRaw := fun _ => .error "not looked up"
  recoverAddressFromPrehash := fun _ _ => .error "not looked up"
  k256FromSlice := fun _ => none
  recoverFromPrehash := fun _ _ _ => none
  verifyingKeyFromBytes := fun _ => false
  verifyEd25519 := fun _ _ _ => false
  abiEncode := fun _ => []
  encodeXlmEnvelope := fun _ _ _ => .error "not looked up"
  bincodeTriggerData := fun data =>
    if data = .evmContractEvent (observedLog none) then .ok (observedLogHead ++ [0,3])
    else if data = .evmContractEvent (observedLog (some 1700000000)) then
      .ok (observedLogHead ++ [1,0xfc,0x00,0xf1,0x53,0x65,3])
    else .error "not looked up"
  bincodeAtProto := fun _ => .error "not looked up"
  debugAddress := fun _ => ""
  debugServiceManager := fun _ => ""

theorem observedLog_injective : observedPrimitives.BincodeInjectiveOn
    (.trigger (.evmContractEvent (observedLog none)))
    (.trigger (.evmContractEvent (observedLog (some 1700000000)))) := by
  intro bytes first second
  have equal := first.trans second.symm
  revert equal
  decide +kernel

theorem observedLog_separated :
    EventId.preimage observedPrimitives observedService observedWorkflow
        (.trigger (.evmContractEvent (observedLog none))) =
      .ok (observedService.inner.toList ++ (utf8 "flow1" ++ (observedLogHead ++ [0,3]))) ∧
    ∀ bytes, EventId.preimage observedPrimitives observedService observedWorkflow
        (.trigger (.evmContractEvent (observedLog none))) = .ok bytes →
      EventId.preimage observedPrimitives observedService observedWorkflow
        (.trigger (.evmContractEvent (observedLog (some 1700000000)))) = .ok bytes →
      observedService = observedService ∧ observedWorkflow = observedWorkflow ∧
        (EventIdSalt.trigger (.evmContractEvent (observedLog none))).canonical =
          (EventIdSalt.trigger (.evmContractEvent (observedLog (some 1700000000)))).canonical := by
  refine ⟨by rfl,(EventId.preimage_separates_iff observedPrimitives _ _ _ _ _ _ observedLog_injective).mpr ?_⟩
  intro ambiguous
  obtain ⟨_,shifted⟩ := ambiguous
  rcases shifted with ⟨moved,_,extended,_,_,added⟩ | ⟨moved,_,extended,_,_,added⟩
  all_goals
    rcases added with added | form
    · exact added (List.self_eq_append_right.mp extended)
    · exact form rfl

/-- A byte of the workflow id may as well be the first byte of the salt, and a
component may supply the encoding of a trigger as its salt. -/
theorem preimage_shared :
    (∃ first second : WorkflowId, first ≠ second ∧
      EventId.preimage observedPrimitives observedService first (.wasmResponse (utf8 "def")) =
        .ok (observedService.inner.toList ++ utf8 "abcdef") ∧
      EventId.preimage observedPrimitives observedService second (.wasmResponse (utf8 "ef")) =
        .ok (observedService.inner.toList ++ utf8 "abcdef")) ∧
    (∃ supplied derived : EventIdSalt, supplied.canonical ≠ derived.canonical ∧
      EventId.preimage observedPrimitives observedService observedWorkflow supplied =
        .ok (observedService.inner.toList ++ (utf8 "flow1" ++ (observedLogHead ++ [0,3]))) ∧
      EventId.preimage observedPrimitives observedService observedWorkflow derived =
        .ok (observedService.inner.toList ++ (utf8 "flow1" ++ (observedLogHead ++ [0,3])))) := by
  refine ⟨⟨⟨"abc",by decide⟩,⟨"abcd",by decide⟩,by decide,by rfl,by rfl⟩,?_⟩
  refine ⟨.wasmResponse (observedLogHead ++ [0,3]),.trigger (.evmContractEvent (observedLog none)),
    ?_,by rfl,by rfl⟩
  simp [EventIdSalt.canonical]

/-! ## One event seen by two operators -/

/-- Two triggers of one event, as different providers may report it: an EVM node
may omit the block timestamp, a Stellar provider the operation and transaction
index, and an AtProto stream has its own sequence and timestamp. -/
def SameEvent : TriggerData → TriggerData → Prop
  | .evmContractEvent a,.evmContractEvent b =>
      {a with blockTimestamp := none} = {b with blockTimestamp := none}
  | .stellarContractEvent a,.stellarContractEvent b =>
      {a with operationIndex := none, transactionIndex := none} =
        {b with operationIndex := none, transactionIndex := none}
  | .atProtoEvent a,.atProtoEvent b => a.key = b.key
  | a,b => a = b

/-- The fields a provider may omit that the event id still depends on. -/
def TriggerData.optionalFields : TriggerData → Option UInt64 × Option UInt32 × Option UInt32
  | .evmContractEvent event => (event.blockTimestamp,none,none)
  | .stellarContractEvent event => (none,event.operationIndex,event.transactionIndex)
  | _ => (none,none,none)

theorem SameEvent.form (a b : TriggerData) (same : SameEvent a b) :
    (EventIdSalt.trigger a).form = (EventIdSalt.trigger b).form := by
  cases a <;> cases b <;> first
    | rfl
    | exact absurd same (by simp [SameEvent])

theorem SameEvent.encodeSalt (prim : Primitives) (a b : TriggerData) (same : SameEvent a b)
    (fields : a.optionalFields = b.optionalFields) : a.encodeSalt prim = b.encodeSalt prim := by
  cases a with
  | evmContractEvent x =>
    cases b with
    | evmContractEvent y =>
      cases x
      cases y
      simp only [SameEvent,EvmContractEvent.mk.injEq,TriggerData.optionalFields,Prod.mk.injEq] at same fields
      simp [same,fields]
    | _ => exact absurd same (by simp [SameEvent])
  | stellarContractEvent x =>
    cases b with
    | stellarContractEvent y =>
      cases x
      cases y
      simp only [SameEvent,StellarContractEvent.mk.injEq,TriggerData.optionalFields,Prod.mk.injEq] at same fields
      simp [same,fields]
    | _ => exact absurd same (by simp [SameEvent])
  | atProtoEvent x =>
    cases b with
    | atProtoEvent y =>
      simp only [SameEvent] at same
      simp only [TriggerData.encodeSalt,same]
    | _ => exact absurd same (by simp [SameEvent])
  | _ =>
    cases b <;> exact congrArg (TriggerData.encodeSalt prim) same

theorem EventIdSalt.canonical_fields (a b : TriggerData)
    (same : (EventIdSalt.trigger a).canonical = (EventIdSalt.trigger b).canonical) :
    a.optionalFields = b.optionalFields := by
  cases a <;> cases b <;> simp_all [EventIdSalt.canonical,TriggerData.optionalFields]

namespace EventId

/-- Two operators derive one id for one event exactly when their providers agree on
the optional fields that are hashed, unless RIPEMD-160 collides. -/
theorem new_agrees_iff (prim : Primitives) (serviceId : ServiceId) (workflowId : WorkflowId)
    (a b : TriggerData) (same : SameEvent a b)
    (encodes : ∃ first second, a.encodeSalt prim = .ok first ∧ b.encodeSalt prim = .ok second)
    (injective : prim.BincodeInjectiveOn (.trigger a) (.trigger b))
    (collisionFree : ∀ first second, preimage prim serviceId workflowId (.trigger a) = .ok first →
      preimage prim serviceId workflowId (.trigger b) = .ok second →
      prim.ripemd160 first = prim.ripemd160 second → first = second) :
    new prim serviceId workflowId (.trigger a) = new prim serviceId workflowId (.trigger b) ↔
      a.optionalFields = b.optionalFields := by
  obtain ⟨first,second,firstEncoded,secondEncoded⟩ := encodes
  have left : preimage prim serviceId workflowId (.trigger a) =
      .ok (serviceId.inner.toList ++ (workflowId.asBytes ++ first)) :=
    (preimage_eq_ok prim _ _ _ _).mpr ⟨first,firstEncoded,rfl⟩
  have right : preimage prim serviceId workflowId (.trigger b) =
      .ok (serviceId.inner.toList ++ (workflowId.asBytes ++ second)) :=
    (preimage_eq_ok prim _ _ _ _).mpr ⟨second,secondEncoded,rfl⟩
  constructor
  · intro equal
    simp only [new,left,right,Except.map,Except.ok.injEq,EventId.mk.injEq] at equal
    have bytes := collisionFree _ _ left right equal
    have encoded : first = second := List.append_cancel_left (List.append_cancel_left bytes)
    subst encoded
    apply EventIdSalt.canonical_fields
    exact EventIdSalt.encode_injective prim _ _ injective (same.form a b) first firstEncoded secondEncoded
  · intro fields
    have encoded : (EventIdSalt.trigger a).encode prim = (EventIdSalt.trigger b).encode prim :=
      same.encodeSalt prim a b fields
    unfold new preimage
    rw [encoded]

end EventId

theorem observedLog_disagrees :
    EventId.new observedPrimitives observedService observedWorkflow
        (.trigger (.evmContractEvent (observedLog none))) =
      .ok ⟨FixedBytes.ofNat 20 0x4ab025526bfabb984a6b1537d7c8630b51b99953⟩ ∧
    EventId.new observedPrimitives observedService observedWorkflow
        (.trigger (.evmContractEvent (observedLog (some 1700000000)))) =
      .ok ⟨FixedBytes.ofNat 20 0xf548996e642ae861fe3f423d94b1571ebb813316⟩ ∧
    SameEvent (.evmContractEvent (observedLog none)) (.evmContractEvent (observedLog (some 1700000000))) ∧
    FixedBytes.ofNat 20 0x4ab025526bfabb984a6b1537d7c8630b51b99953 ≠
      FixedBytes.ofNat 20 0xf548996e642ae861fe3f423d94b1571ebb813316 :=
  ⟨by decide +kernel,by decide +kernel,rfl,by decide⟩

theorem observedLog_agreement :
    EventId.new observedPrimitives observedService observedWorkflow
        (.trigger (.evmContractEvent (observedLog none))) =
      EventId.new observedPrimitives observedService observedWorkflow
        (.trigger (.evmContractEvent (observedLog (some 1700000000)))) ↔
      (TriggerData.evmContractEvent (observedLog none)).optionalFields =
        (TriggerData.evmContractEvent (observedLog (some 1700000000))).optionalFields := by
  apply EventId.new_agrees_iff
  · rfl
  · exact ⟨_,_,by rfl,by rfl⟩
  · exact observedLog_injective
  · intro first second left right collides
    have spelled : EventId.preimage observedPrimitives observedService observedWorkflow
        (.trigger (.evmContractEvent (observedLog none))) =
        .ok (observedService.inner.toList ++ (utf8 "flow1" ++ (observedLogHead ++ [0,3]))) := by rfl
    have stamped : EventId.preimage observedPrimitives observedService observedWorkflow
        (.trigger (.evmContractEvent (observedLog (some 1700000000)))) =
        .ok (observedService.inner.toList ++
          (utf8 "flow1" ++ (observedLogHead ++ [1,0xfc,0x00,0xf1,0x53,0x65,3]))) := by rfl
    rw [spelled] at left
    rw [stamped] at right
    cases left
    cases right
    revert collides
    decide +kernel

end Warpdrive.Types
