import Warpdrive.Aggregator.Receive

/-! The reference block that an event is pinned to. As long as no clean-up removes
anything, the section of an event keeps the pin that a validation has read in place
until the validation is settled, so the first admitted packet pins the event and every
later one is validated against its block. -/
namespace Warpdrive.Aggregator.Receiving
open Warpdrive.Foundation Warpdrive.Foundation.Execution Warpdrive.Types

variable {ι : Type} (prim : Primitives)

/-- What a call knows of the pin of its event. -/
structure Agrees (pin : Option Height) (call : ReceiveCall) : Prop where
  reads : ∀ lock rest history, call.phase = .validating lock rest history →
    ∀ pinned, ⟨.pinnedReferenceBlock call.submission.eventId,pinned⟩ ∈ history → pin = pinned
  unpinned : ∀ lock block history, call.phase = .pinning lock block history →
    pin = none ∧ history.head? = some ⟨.pinnedReferenceBlock call.submission.eventId,none⟩
  pinned : ∀ block, call.pinnedAt = some block → pin = some block

theorem agrees_outside (pin : Option Height) (call : ReceiveCall)
    (outside : ∀ eventId lock, call.hold ≠ .inside eventId lock) (agrees : Agrees none call) :
    Agrees pin call := by
  obtain ⟨submission,service,phase⟩ := call
  cases phase with
  | started => exact ⟨by simp,by simp,by simp [ReceiveCall.pinnedAt]⟩
  | waiting lock => exact ⟨by simp,by simp,by simp [ReceiveCall.pinnedAt]⟩
  | ended outcome =>
    cases outcome with
    | rejected error history => exact ⟨by simp,by simp,by simp [ReceiveCall.pinnedAt]⟩
    | sent block history delivered =>
      have absurd := agrees.pinned block rfl
      cases absurd
  | validating lock rest history => exact absurd rfl (outside submission.eventId lock)
  | pinning lock block history => exact absurd rfl (outside submission.eventId lock)
  | passed lock block history => exact absurd rfl (outside submission.eventId lock)
  | leaving lock outcome => exact absurd rfl (outside submission.eventId lock)

/-- An admitted packet was validated at the block of the pin, when there is one. -/
theorem agrees_settled (self : Receiving ι) (submission : Submission) (service : Service)
    (lock : Utils.MutexId) (outcome : Except AggregatorError Height) (history : History Query.Answer)
    (sound : Sound prim ⟨submission,service,.validating lock (.returned outcome) history⟩)
    (agrees : Agrees (self.eventReferenceBlocks.getCloned submission.eventId)
      ⟨submission,service,.validating lock (.returned outcome) history⟩) :
    Agrees (self.eventReferenceBlocks.getCloned submission.eventId)
      ⟨submission,service,self.settled submission.eventId lock history outcome⟩ := by
  cases outcome with
  | error error => exact ⟨by simp [settled],by simp [settled],by simp [settled,ReceiveCall.pinnedAt]⟩
  | ok block =>
    obtain ⟨read,later,split,admitted⟩ := validatePacketAtReceive_yields prim submission service history
      block (sound.follows lock _ history rfl)
    have current := agrees.reads lock _ history rfl read (by rw [split]; simp)
    cases pinned : self.eventReferenceBlocks.getCloned submission.eventId with
    | none =>
      rw [pinned] at current
      simp only [settled,pinned]
      refine ⟨by simp,?_,by simp [ReceiveCall.pinnedAt]⟩
      intro _ _ _ phase
      cases phase
      refine ⟨rfl,?_⟩
      rw [split,← current]
      rfl
    | some found =>
      simp only [settled,pinned]
      refine ⟨by simp,by simp,?_⟩
      intro given same
      cases same
      rcases admitted.referenced with pin | ⟨none,_⟩
      · rw [← current,pinned] at pin
        exact pin
      · rw [← current,pinned] at none
        cases none

variable [DecidableEq ι]

/-- The invariant of a run in which nothing is cleaned up. -/
structure Frozen (state : Receiving ι) : Prop where
  coherent : KeyedLock.Coherent state.registry
  sound : ∀ i call, state.calls i = some call → Sound prim call
  agrees : ∀ i call, state.calls i = some call →
    Agrees (state.eventReferenceBlocks.getCloned call.submission.eventId) call

omit [DecidableEq ι] in
theorem new_frozen : Frozen prim (new : Receiving ι) := by
  refine ⟨new_coherent,?_,?_⟩
  · intro i call found
    cases found
  · intro i call found
    cases found

omit [DecidableEq ι] in
/-- A pin is set inside the section of its event, where no other call is. -/
theorem pin_agrees (self : Receiving ι) (frozen : Frozen prim self) (i : ι) (submission : Submission)
    (service : Service) (lock : Utils.MutexId) (block : Height) (history : History Query.Answer)
    (pinning : self.calls i = some ⟨submission,service,.pinning lock block history⟩) (j : ι)
    (call : ReceiveCall) (differ : j ≠ i) (found : self.calls j = some call) :
    Agrees ((self.insertPin submission.eventId block).eventReferenceBlocks.getCloned
      call.submission.eventId) call := by
  have agrees := frozen.agrees j call found
  by_cases same : call.submission.eventId = submission.eventId
  · have unpinned := ((frozen.agrees i _ pinning).unpinned lock block history rfl).1
    simp only at unpinned
    rw [same,unpinned] at agrees
    refine agrees_outside _ call ?_ agrees
    intro eventId held inside
    have event : eventId = submission.eventId := by
      obtain ⟨other,service,phase⟩ := call
      cases phase <;> simp [ReceiveCall.hold] at inside <;> rw [← inside.1] <;> exact same
    subst event
    apply differ
    refine frozen.coherent.exclusive j i submission.eventId held lock ?_ ?_
    · simp [registry,found,inside]
    · simp [registry,pinning,ReceiveCall.hold]
  · simp only [insertPin]
    rw [WavsDbTable.getCloned_insert_ne _ _ _ _ same]
    exact agrees

theorem step_frozen (self : Receiving ι) (act : Act ι) (next : Receiving ι)
    (taken : self.step prim act = some next) (frozen : Frozen prim self) : Frozen prim next := by
  refine ⟨step_coherent prim self act next taken frozen.coherent,
    step_sound prim self act next taken frozen.sound,?_⟩
  have others : ∀ i j call, j ≠ i → self.calls j = some call →
      Agrees (self.eventReferenceBlocks.getCloned call.submission.eventId) call :=
    fun _ j call _ => frozen.agrees j call
  let holds : ι → ReceiveCall → Prop := fun _ call =>
    Agrees (self.eventReferenceBlocks.getCloned call.submission.eventId) call
  cases step_taken prim self act next taken with
  | receive i submission service fresh =>
    exact forall_setCall self holds i _ ⟨by simp,by simp,by simp [ReceiveCall.pinnedAt]⟩ (others i)
  | register i submission service started =>
    unfold orDefault
    split
    · exact forall_setCall self holds i _ ⟨by simp,by simp,by simp [ReceiveCall.pinnedAt]⟩ (others i)
    · exact forall_setCall _ holds i _ ⟨by simp,by simp,by simp [ReceiveCall.pinnedAt]⟩ (others i)
  | acquire i submission service lock waiting free =>
    refine forall_setCall _ holds i _ ⟨?_,by simp,by simp [ReceiveCall.pinnedAt]⟩ (others i)
    intro _ _ _ phase
    cases phase
    simp
  | answer i submission service lock rest next history reply validating truthful resumed =>
    refine forall_setCall self holds i _ ⟨?_,by simp,by simp [ReceiveCall.pinnedAt]⟩ (others i)
    intro _ _ _ phase pinned member
    cases phase
    rcases List.mem_append.mp member with before | last
    · exact (frozen.agrees i _ validating).reads lock rest history rfl pinned before
    · rw [← List.mem_singleton.mp last,truthful_pin] at truthful
      exact truthful
  | settle i submission service lock outcome history validating =>
    exact forall_setCall self holds i _ (agrees_settled prim self submission service lock outcome history
      (frozen.sound i _ validating) (frozen.agrees i _ validating)) (others i)
  | pin i submission service lock block history pinning =>
    refine forall_setCall (self.insertPin submission.eventId block) (fun _ call => Agrees
      ((self.insertPin submission.eventId block).eventReferenceBlocks.getCloned call.submission.eventId)
      call) i _ ⟨by simp,by simp,?_⟩ (pin_agrees prim self frozen i submission service lock block history pinning)
    intro given same
    cases same
    simp [insertPin]
  | forward i submission service lock block history delivered passed =>
    refine forall_setCall _ holds i _ ⟨by simp,by simp,?_⟩ (others i)
    exact (frozen.agrees i _ passed).pinned
  | release i submission service lock outcome leaving =>
    refine forall_setCall _ holds i _ ⟨by simp,by simp,?_⟩ (others i)
    have pinned := (frozen.agrees i _ leaving).pinned
    cases outcome with
    | rejected error history => simp [ReceiveCall.pinnedAt]
    | sent block history delivered => exact pinned

/-! ## One pin for each event -/

/-- Packets of the event are received for managers of this kind. -/
def ManagedBy (eventId : EventId) (kind : ChainKind) (submission : Submission) (service : Service) : Prop :=
  submission.eventId = eventId → managerKind service.manager = kind

/-- The pin of the event stays, or an admitted packet sets it, for the first time, to
the block at which the operator set gave its signer weight. -/
def PinsOnce (eventId : EventId) (self : Receiving ι) (act : Act ι) (next : Receiving ι) : Prop :=
  next.eventReferenceBlocks.getCloned eventId = self.eventReferenceBlocks.getCloned eventId ∨
    ∃ i submission service lock block history, act = .pin i ∧
      self.calls i = some ⟨submission,service,.pinning lock block history⟩ ∧
      submission.eventId = eventId ∧ self.eventReferenceBlocks.getCloned eventId = none ∧
      next.eventReferenceBlocks.getCloned eventId = some block ∧
      (validatePacketAtReceive prim submission service).Yields history block ∧
      ValidatedAt history block.value

/-- A ledger that the 32-bit argument of a Stellar contract can carry. -/
def Fits (block : Height) : Prop := block.value.toUInt32.toUInt64 = block.value

structure Aggregating (eventId : EventId) (kind : ChainKind) (state : Receiving ι) : Prop where
  frozen : Frozen prim state
  kinds : state.Packets (ManagedBy eventId kind)
  fits : kind = .stellar → ∀ block, state.eventReferenceBlocks.getCloned eventId = some block → Fits block
  dispatched : state.Dispatched

omit [DecidableEq ι] in
theorem new_aggregating (eventId : EventId) (kind : ChainKind) :
    Aggregating prim eventId kind (new : Receiving ι) := by
  refine ⟨new_frozen prim,?_,?_,?_⟩
  · intro i call found
    cases found
  · intro _ block pinned
    simp [new] at pinned
  · intro command member
    cases member

theorem validated_at (call : ReceiveCall) (sound : Sound prim call) (kind : ChainKind)
    (snapshots : kind = .evm ∨ kind = .stellar) (manager : managerKind call.service.manager = kind)
    (block : Height) (history : History Query.Answer) (accepted : call.accepted = some (block,history))
    (fits : kind = .stellar → Fits block) : ValidatedAt history block.value := by
  obtain ⟨read,later,split,admitted⟩ := validatePacketAtReceive_yields prim call.submission call.service
    history block (sound.yields block history accepted)
  cases shape : call.service.manager with
  | evm chain address => exact admitted.evm chain address shape
  | stellar chain address =>
    have stellar : kind = .stellar := by rw [← manager,shape]; rfl
    have validated := (admitted.stellar chain address shape).1
    rw [fits stellar] at validated
    exact validated
  | cosmos chain address =>
    rw [shape] at manager
    rcases snapshots with evm | stellar
    · rw [evm] at manager
      cases manager
    · rw [stellar] at manager
      cases manager

omit [DecidableEq ι] in
theorem pinning_fits (state : Receiving ι) (eventId : EventId) (kind : ChainKind)
    (aggregating : Aggregating prim eventId kind state) (i : ι) (submission : Submission) (service : Service)
    (lock : Utils.MutexId) (block : Height) (history : History Query.Answer)
    (pinning : state.calls i = some ⟨submission,service,.pinning lock block history⟩)
    (event : submission.eventId = eventId) (stellar : kind = .stellar) : Fits block := by
  have manager := aggregating.kinds i _ pinning event
  obtain ⟨read,later,split,admitted⟩ := validatePacketAtReceive_yields prim submission service history block
    ((aggregating.frozen.sound i _ pinning).yields block history rfl)
  have head := ((aggregating.frozen.agrees i _ pinning).unpinned lock block history rfl).2
  rw [split] at head
  cases head
  rw [stellar] at manager
  cases shape : service.manager with
  | evm chain address => simp [shape,managerKind] at manager
  | cosmos chain address => simp [shape,managerKind] at manager
  | stellar chain address => exact (admitted.stellar chain address shape).2 rfl

/-- The pin of an event moves only in the `pin` action of one of its own calls. -/
theorem step_pin (self : Receiving ι) (act : Act ι) (next : Receiving ι)
    (taken : self.step prim act = some next) (eventId : EventId) :
    next.eventReferenceBlocks.getCloned eventId = self.eventReferenceBlocks.getCloned eventId ∨
      ∃ i submission service lock block history, act = .pin i ∧
        self.calls i = some ⟨submission,service,.pinning lock block history⟩ ∧
        submission.eventId = eventId ∧ next.eventReferenceBlocks.getCloned eventId = some block := by
  cases step_taken prim self act next taken with
  | receive i submission service fresh => exact .inl rfl
  | register i submission service started =>
    unfold orDefault
    split
    · exact .inl rfl
    · exact .inl rfl
  | acquire i submission service lock waiting free => exact .inl rfl
  | answer i submission service lock rest next history reply validating truthful resumed => exact .inl rfl
  | settle i submission service lock outcome history validating => exact .inl rfl
  | forward i submission service lock block history delivered passed => exact .inl rfl
  | release i submission service lock outcome leaving => exact .inl rfl
  | pin i submission service lock block history pinning =>
    by_cases same : eventId = submission.eventId
    · refine .inr ⟨i,submission,service,lock,block,history,rfl,pinning,same.symm,?_⟩
      simp [setCall,insertPin,same]
    · exact .inl (WavsDbTable.getCloned_insert_ne _ _ _ _ same)

theorem step_aggregating (eventId : EventId) (kind : ChainKind) (snapshots : kind = .evm ∨ kind = .stellar)
    (self : Receiving ι) (act : Act ι) (next : Receiving ι) (taken : self.step prim act = some next)
    (receives : Receives (ManagedBy eventId kind) self act next) (aggregating : Aggregating prim eventId kind self) :
    Aggregating prim eventId kind next ∧ PinsOnce prim eventId self act next := by
  have moved := step_pin prim self act next taken eventId
  have fits : kind = .stellar → ∀ block, next.eventReferenceBlocks.getCloned eventId = some block →
      Fits block := by
    intro stellar block pinned
    rcases moved with kept | ⟨i,submission,service,lock,given,history,_,pinning,event,set⟩
    · rw [kept] at pinned
      exact aggregating.fits stellar block pinned
    · rw [set] at pinned
      cases pinned
      exact pinning_fits prim self eventId kind aggregating i submission service lock block history pinning
        event stellar
  refine ⟨⟨step_frozen prim self act next taken aggregating.frozen,
    step_packets prim self act next taken _ receives aggregating.kinds,fits,
    step_dispatched prim self act next taken aggregating.dispatched⟩,?_⟩
  rcases moved with kept | ⟨i,submission,service,lock,block,history,acted,pinning,event,set⟩
  · exact .inl kept
  · have sound := aggregating.frozen.sound i _ pinning
    have unpinned := ((aggregating.frozen.agrees i _ pinning).unpinned lock block history rfl).1
    simp only [event] at unpinned
    exact .inr ⟨i,submission,service,lock,block,history,acted,pinning,event,unpinned,set,
      sound.yields block history rfl,validated_at prim _ sound kind snapshots
        (aggregating.kinds i _ pinning event) block history rfl (fun stellar => fits stellar block set)⟩

/-- In every interleaving of receive calls, the event is pinned once, by an admitted
packet and to the block it was validated at, and every packet forwarded for the event
was validated at the pinned block. -/
theorem run_pins_once (eventId : EventId) (kind : ChainKind) (snapshots : kind = .evm ∨ kind = .stellar)
    (acts : List (Act ι)) (final : Receiving ι) (reached : run (step prim) new acts = some final)
    (receives : Along (step prim) (Receives (ManagedBy eventId kind)) new acts) :
    Along (step prim) (PinsOnce prim eventId) new acts ∧
      ∀ command ∈ final.forwarded, command.submission.eventId = eventId →
        ∃ i call block history, final.calls i = some call ∧ call.submission = command.submission ∧
          call.service = command.service ∧ call.accepted = some (block,history) ∧
          final.eventReferenceBlocks.getCloned eventId = some block ∧ ValidatedAt history block.value := by
  have keeps := step_aggregating (ι := ι) prim eventId kind snapshots
  have start := new_aggregating (ι := ι) prim eventId kind
  obtain ⟨once,aggregating⟩ := along_of_invariant (Receives (ManagedBy eventId kind)) (PinsOnce prim eventId)
    (Aggregating prim eventId kind) keeps new final acts reached receives start
  refine ⟨once,?_⟩
  intro command member event
  obtain ⟨i,call,block,found,submission,service,pinnedAt⟩ := aggregating.dispatched command member
  rw [← submission] at event
  have pinned := (aggregating.frozen.agrees i call found).pinned block pinnedAt
  rw [event] at pinned
  obtain ⟨history,accepted⟩ := call.accepted_of_pinnedAt block pinnedAt
  refine ⟨i,call,block,history,found,submission,service,accepted,pinned,?_⟩
  exact validated_at prim call (aggregating.frozen.sound i call found) kind snapshots
    (aggregating.kinds i call found event) block history accepted
    (fun stellar => aggregating.fits stellar block pinned)

instance decidableManagedBy (eventId : EventId) (kind : ChainKind) (self : Receiving ι) (act : Act ι)
    (next : Receiving ι) : Decidable (Receives (ManagedBy eventId kind) self act next) :=
  inferInstanceAs (Decidable (∀ packet ∈ act.packet,
    packet.1.eventId = eventId → managerKind packet.2.manager = kind))

/-- The answers that admit a packet of the deployed service: the head is at block 100,
and the signer is an operator of weight one. -/
def weighing (eventId : EventId) (signer : Address) (pinned : Option Height) : List Reply :=
  List.flatten [[⟨.pinnedReferenceBlock eventId,pinned⟩,⟨.evmQueryClient localChain,.ok ()⟩],
    if pinned.isNone then [⟨.ethBlockNumber localChain,.ok 100⟩] else [],
    [⟨.getLatestOperatorForSigningKey localChain deployedManager signer ⟨99,localChain⟩,.ok signer⟩,
      ⟨.getOperatorWeight localChain deployedManager signer ⟨99,localChain⟩,.ok 1⟩]]

def admission (i : ι) (eventId : EventId) (signer : Address) (pinned : Option Height) : List (Act ι) :=
  List.flatten [[.register i,.acquire i],(weighing eventId signer pinned).map (.answer i),[.settle i],
    if pinned.isNone then [.pin i] else [],[.forward i true,.release i]]

/-- Two operators' packets of one event, and a packet whose signer has no weight. -/
def threePackets : List (Act Caller) :=
  List.flatten [[.receive .first submission1 deployedService,.receive .second submission2 deployedService,
      .receive .third submission2 deployedService,.register .third,.acquire .third],
    (weighing cafeEvent operator2 none).dropLast.map (.answer .third),
    [.answer .third ⟨.getOperatorWeight localChain deployedManager operator2 ⟨99,localChain⟩,.ok 0⟩,
      .settle .third,.release .third],
    admission .first cafeEvent operator1 none,admission .second cafeEvent operator2 (some ⟨99,localChain⟩)]

theorem threePackets_pinned_once :
    ∃ final, run (step deployedPrimitives) new threePackets = some final ∧ final.forwarded.length = 2 ∧
      Along (step deployedPrimitives) (PinsOnce deployedPrimitives cafeEvent) new threePackets ∧
      ∀ command ∈ final.forwarded, command.submission.eventId = cafeEvent →
        ∃ i call block history, final.calls i = some call ∧ call.submission = command.submission ∧
          call.service = command.service ∧ call.accepted = some (block,history) ∧
          final.eventReferenceBlocks.getCloned cafeEvent = some block ∧ ValidatedAt history block.value := by
  obtain ⟨final,reached,sent⟩ := run_any (step deployedPrimitives) new threePackets
    (fun final => decide (final.forwarded.length = 2)) (by decide +kernel)
  exact ⟨final,reached,by simpa using sent,run_pins_once deployedPrimitives cafeEvent .evm (.inl rfl)
    threePackets final reached (by decide +kernel)⟩

/-! ## Where a pin comes from

This part holds under any clean-up. -/

/-- The packet was admitted at this block, and its validation had found the event
unpinned. -/
def Pins (eventId : EventId) (block : Height) (call : ReceiveCall) : Prop :=
  call.submission.eventId = eventId ∧ ∃ history, call.accepted = some (block,history) ∧
    history.head? = some ⟨.pinnedReferenceBlock eventId,none⟩

def Origin (self : Receiving ι) (eventId : EventId) (block : Height) : Prop :=
  ∃ i call, self.calls i = some call ∧ Pins eventId block call

structure Rooted (state : Receiving ι) : Prop where
  sound : ∀ i call, state.calls i = some call → Sound prim call
  pins : ∀ eventId block, state.eventReferenceBlocks.getCloned eventId = some block → state.Origin eventId block
  reads : ∀ i call, state.calls i = some call →
    ∀ block, ⟨.pinnedReferenceBlock call.submission.eventId,some block⟩ ∈ call.history →
      state.Origin call.submission.eventId block

omit [DecidableEq ι] in
theorem new_rooted : Rooted prim (new : Receiving ι) := by
  refine ⟨?_,?_,?_⟩
  · intro i call found
    cases found
  · intro eventId block pinned
    simp [new] at pinned
  · intro i call found
    cases found

omit [DecidableEq ι] in
theorem Pins.continues {eventId : EventId} {block : Height} {call later : ReceiveCall}
    (pins : Pins eventId block call) (continues : Continues call later) : Pins eventId block later := by
  obtain ⟨event,history,accepted,unpinned⟩ := pins
  refine ⟨?_,history,continues.accepted _ accepted,unpinned⟩
  rw [continues.submission]
  exact event

theorem step_origin (self : Receiving ι) (act : Act ι) (next : Receiving ι)
    (taken : self.step prim act = some next) (eventId : EventId) (block : Height)
    (origin : self.Origin eventId block) : next.Origin eventId block := by
  obtain ⟨i,call,found,pins⟩ := origin
  obtain ⟨later,found,continues⟩ := step_continues prim self act next taken i call found
  exact ⟨i,later,found,pins.continues continues⟩

/-- The block that a packet pins its event to is one of its own manager chain. -/
theorem Pins.observedOn {eventId : EventId} {block : Height} {call : ReceiveCall}
    (pins : Pins eventId block call) (sound : Sound prim call) :
    call.service.manager.chain = block.observedOn := by
  obtain ⟨_,history,accepted,unpinned⟩ := pins
  obtain ⟨read,later,split,admitted⟩ := validatePacketAtReceive_yields prim call.submission call.service
    history block (sound.yields block history accepted)
  rw [split] at unpinned
  cases unpinned
  rcases admitted.referenced with pinned | ⟨_,chain⟩
  · cases pinned
  · exact chain.symm

omit [DecidableEq ι] in
/-- The block of an admitted packet was read from the pin, or the packet pins its event
to it. -/
theorem accepted_origin (self : Receiving ι) (rooted : Rooted prim self) (i : ι) (call : ReceiveCall)
    (found : self.calls i = some call) (block : Height) (history : History Query.Answer)
    (accepted : call.accepted = some (block,history)) (listed : call.history = history) :
    self.Origin call.submission.eventId block := by
  obtain ⟨read,later,split,admitted⟩ := validatePacketAtReceive_yields prim call.submission call.service
    history block ((rooted.sound i call found).yields block history accepted)
  rcases admitted.referenced with pinned | ⟨unpinned,_⟩
  · refine rooted.reads i call found block ?_
    rw [listed,split,pinned]
    simp
  · refine ⟨i,call,found,rfl,history,accepted,?_⟩
    rw [split,unpinned]
    rfl

omit [DecidableEq ι] in
theorem history_settled (self : Receiving ι) (submission : Submission) (service : Service)
    (lock : Utils.MutexId) (outcome : Except AggregatorError Height) (history : History Query.Answer)
    (reply : Reply) (member : reply ∈ ReceiveCall.history
      ⟨submission,service,self.settled submission.eventId lock history outcome⟩) : reply ∈ history := by
  cases outcome with
  | error error => simp [settled,ReceiveCall.history,ReceiveCall.accepted] at member
  | ok block =>
    cases pinned : self.eventReferenceBlocks.getCloned submission.eventId with
    | none => simpa [settled,pinned,ReceiveCall.history,ReceiveCall.accepted] using member
    | some found => simpa [settled,pinned,ReceiveCall.history,ReceiveCall.accepted] using member

theorem step_reads (self : Receiving ι) (act : Act ι) (next : Receiving ι)
    (taken : self.step prim act = some next) (rooted : Rooted prim self) :
    ∀ i call, next.calls i = some call →
      ∀ block, ⟨.pinnedReferenceBlock call.submission.eventId,some block⟩ ∈ call.history →
        self.Origin call.submission.eventId block := by
  let holds : ι → ReceiveCall → Prop := fun _ call =>
    ∀ block, ⟨.pinnedReferenceBlock call.submission.eventId,some block⟩ ∈ call.history →
      self.Origin call.submission.eventId block
  have others : ∀ i j call, j ≠ i → self.calls j = some call → holds j call :=
    fun _ j call _ => rooted.reads j call
  have unread : ∀ i call, call.history = [] → holds i call := by
    intro i call unanswered block member
    rw [unanswered] at member
    cases member
  cases step_taken prim self act next taken with
  | receive i submission service fresh => exact forall_setCall self holds i _ (unread i _ rfl) (others i)
  | register i submission service started =>
    unfold orDefault
    split
    · exact forall_setCall self holds i _ (unread i _ rfl) (others i)
    · exact forall_setCall _ holds i _ (unread i _ rfl) (others i)
  | acquire i submission service lock waiting free =>
    exact forall_setCall _ holds i _ (unread i _ rfl) (others i)
  | answer i submission service lock rest next history reply validating truthful resumed =>
    refine forall_setCall self holds i _ ?_ (others i)
    intro block member
    rcases List.mem_append.mp member with before | last
    · exact rooted.reads i _ validating block before
    · rw [← List.mem_singleton.mp last,truthful_pin] at truthful
      exact rooted.pins submission.eventId block truthful
  | settle i submission service lock outcome history validating =>
    refine forall_setCall self holds i _ ?_ (others i)
    intro block member
    exact rooted.reads i _ validating block
      (history_settled self submission service lock outcome history _ member)
  | pin i submission service lock block history pinning =>
    have own := rooted.reads i _ pinning
    exact forall_setCall _ holds i _ own (others i)
  | forward i submission service lock block history delivered passed =>
    have own := rooted.reads i _ passed
    exact forall_setCall _ holds i _ own (others i)
  | release i submission service lock outcome leaving =>
    have own := rooted.reads i _ leaving
    cases outcome with
    | rejected error history => exact forall_setCall _ holds i _ (unread i _ rfl) (others i)
    | sent block history delivered => exact forall_setCall _ holds i _ own (others i)

theorem step_rooted (self : Receiving ι) (act : Act ι) (next : Receiving ι)
    (taken : self.step prim act = some next) (rooted : Rooted prim self) : Rooted prim next := by
  have persists := step_origin prim self act next taken
  refine ⟨step_sound prim self act next taken rooted.sound,?_,?_⟩
  · intro eventId block pinned
    apply persists
    rcases step_pin prim self act next taken eventId with
      kept | ⟨i,submission,service,lock,given,history,_,pinning,event,set⟩
    · rw [kept] at pinned
      exact rooted.pins eventId block pinned
    · rw [set] at pinned
      cases pinned
      rw [← event]
      exact accepted_origin prim self rooted i _ pinning block history rfl rfl
  · intro i call found block member
    exact persists _ _ (step_reads prim self act next taken rooted i call found block member)

omit [DecidableEq ι] in
theorem removePin_rooted (self : Receiving ι) (eventId : EventId) (rooted : Rooted prim self) :
    Rooted prim (self.removePin eventId) := by
  refine ⟨rooted.sound,?_,rooted.reads⟩
  intro other block pinned
  by_cases same : other = eventId
  · simp [removePin,same] at pinned
  · simp only [removePin] at pinned
    rw [WavsDbTable.getCloned_remove_ne _ _ _ same] at pinned
    exact rooted.pins other block pinned

omit [DecidableEq ι] in
theorem removeLock_rooted (self : Receiving ι) (eventId : EventId) (rooted : Rooted prim self) :
    Rooted prim (self.removeLock eventId) :=
  ⟨rooted.sound,rooted.pins,rooted.reads⟩

end Warpdrive.Aggregator.Receiving
