import Warpdrive.Aggregator.Validate
import Warpdrive.Utils.AsyncTransaction

/-! The receive path (`Aggregator::handle_receive` with
`pin_event_reference_block_if_unset`). Every call is cut at its await points and at
its accesses to shared tables, so that a list of actions is one interleaving of any
number of calls. A call is `started` before it registers in `event_receive_locks`,
`waiting` before `guard.lock().await`, `validating` while `validate_packet_at_receive`
runs with the answers it has been given, `pinning` when the validated packet found no
pin, `passed` once the pin is there, `leaving` when only the guard is left to drop and
`ended` after that. Calls stay listed after their end. -/
namespace Warpdrive.Aggregator
open Warpdrive.Foundation Warpdrive.Foundation.Execution Warpdrive.Types Warpdrive.Utils

inductive ReceiveOutcome
  | rejected (error : AggregatorError) (history : History Query.Answer)
  | sent (block : Height) (history : History Query.Answer) (delivered : Bool)

inductive ReceivePhase
  | started
  | waiting (lock : MutexId)
  | validating (lock : MutexId) (rest : Fallible Height) (history : History Query.Answer)
  | pinning (lock : MutexId) (block : Height) (history : History Query.Answer)
  | passed (lock : MutexId) (block : Height) (history : History Query.Answer)
  | leaving (lock : MutexId) (outcome : ReceiveOutcome)
  | ended (outcome : ReceiveOutcome)

structure ReceiveCall where
  submission : Submission
  service : Service
  phase : ReceivePhase

namespace ReceiveCall

/-- What the call needs of the mutex of its event. -/
def hold (self : ReceiveCall) : KeyedLock.Hold EventId MutexId :=
  match self.phase with
  | .started => .out
  | .waiting lock => .waiting self.submission.eventId lock
  | .validating lock _ _ => .inside self.submission.eventId lock
  | .pinning lock _ _ => .inside self.submission.eventId lock
  | .passed lock _ _ => .inside self.submission.eventId lock
  | .leaving lock _ => .inside self.submission.eventId lock
  | .ended _ => .out

/-- The block at which the packet was admitted, with the answers that led to it. -/
def accepted (self : ReceiveCall) : Option (Height × History Query.Answer) :=
  match self.phase with
  | .pinning _ block history => some (block,history)
  | .passed _ block history => some (block,history)
  | .leaving _ (.sent block history _) => some (block,history)
  | .ended (.sent block history _) => some (block,history)
  | _ => none

/-- The answers that the validation of an unrejected packet has been given. -/
def history (self : ReceiveCall) : History Query.Answer :=
  match self.phase with
  | .validating _ _ history => history
  | _ => self.accepted.elim [] Prod.snd

/-- The block that a packet was admitted at, once its event is pinned. -/
def pinnedAt (self : ReceiveCall) : Option Height :=
  match self.phase with
  | .passed _ block _ => some block
  | .leaving _ (.sent block _ _) => some block
  | .ended (.sent block _ _) => some block
  | _ => none

theorem event_of_hold (self : ReceiveCall) (eventId : EventId) (lock : MutexId)
    (held : self.hold = .waiting eventId lock ∨ self.hold = .inside eventId lock) :
    self.submission.eventId = eventId := by
  obtain ⟨submission,service,phase⟩ := self
  cases phase <;> simp [hold] at held <;> exact held.1

theorem accepted_of_pinnedAt (self : ReceiveCall) (block : Height) (pinned : self.pinnedAt = some block) :
    ∃ history, self.accepted = some (block,history) := by
  obtain ⟨submission,service,phase⟩ := self
  cases phase with
  | started => cases pinned
  | waiting lock => cases pinned
  | validating lock rest history => cases pinned
  | pinning lock given history => cases pinned
  | passed lock given history =>
    cases pinned
    exact ⟨history,rfl⟩
  | leaving lock outcome =>
    cases outcome with
    | rejected error history => cases pinned
    | sent given history delivered =>
      cases pinned
      exact ⟨history,rfl⟩
  | ended outcome =>
    cases outcome with
    | rejected error history => cases pinned
    | sent given history delivered =>
      cases pinned
      exact ⟨history,rfl⟩

end ReceiveCall

structure Receiving (ι : Type) where
  eventReferenceBlocks : WavsDbTable EventId Height
  eventReceiveLocks : EventId → Option MutexId
  guards : MutexId → Option ι
  allocated : MutexId
  calls : ι → Option ReceiveCall
  forwarded : List AggregatorExecute

namespace Receiving

variable {ι : Type}

def new : Receiving ι where
  eventReferenceBlocks := .new
  eventReceiveLocks := fun _ => none
  guards := fun _ => none
  allocated := 0
  calls := fun _ => none
  forwarded := []

inductive Act (ι : Type)
  | receive (i : ι) (submission : Submission) (service : Service)
  | register (i : ι)
  | acquire (i : ι)
  | answer (i : ι) (reply : Reply)
  | settle (i : ι)
  | pin (i : ι)
  | forward (i : ι) (delivered : Bool)
  | release (i : ι)

def Act.packet : Act ι → Option (Submission × Service)
  | .receive _ submission service => some (submission,service)
  | _ => none

variable [DecidableEq ι] (prim : Primitives)

def setCall (self : Receiving ι) (i : ι) (call : ReceiveCall) : Receiving ι :=
  {self with calls := Function.update self.calls i (some call)}

def removePin (self : Receiving ι) (eventId : EventId) : Receiving ι :=
  {self with eventReferenceBlocks := self.eventReferenceBlocks.remove eventId}

def removeLock (self : Receiving ι) (eventId : EventId) : Receiving ι :=
  {self with eventReceiveLocks := Function.update self.eventReceiveLocks eventId none}

/-- `entry(event_id).or_default().clone()`. -/
def orDefault (self : Receiving ι) (i : ι) (submission : Submission) (service : Service) : Receiving ι :=
  match self.eventReceiveLocks submission.eventId with
  | some lock => self.setCall i ⟨submission,service,.waiting lock⟩
  | none =>
    {self with
      eventReceiveLocks := Function.update self.eventReceiveLocks submission.eventId (some self.allocated)
      allocated := self.allocated + 1}.setCall i ⟨submission,service,.waiting self.allocated⟩

/-- The outcome of the validation: a rejected packet ends here, and an admitted one
looks for the pin of its event. -/
def settled (self : Receiving ι) (eventId : EventId) (lock : MutexId) (history : History Query.Answer) :
    Except AggregatorError Height → ReceivePhase
  | .error error => .leaving lock (.rejected error history)
  | .ok block =>
    match self.eventReferenceBlocks.getCloned eventId with
    | none => .pinning lock block history
    | some _ => .passed lock block history

def insertPin (self : Receiving ι) (eventId : EventId) (block : Height) : Receiving ι :=
  {self with eventReferenceBlocks := self.eventReferenceBlocks.insert eventId block}

/-- The send to the dispatcher fails when its channel is closed. -/
def send (self : Receiving ι) (delivered : Bool) (command : AggregatorExecute) : Receiving ι :=
  {self with forwarded := if delivered then self.forwarded ++ [command] else self.forwarded}

def step (self : Receiving ι) : Act ι → Option (Receiving ι)
  | .receive i submission service =>
    match self.calls i with
    | none => some (self.setCall i ⟨submission,service,.started⟩)
    | some _ => none
  | .register i =>
    match self.calls i with
    | some ⟨submission,service,.started⟩ => some (self.orDefault i submission service)
    | _ => none
  | .acquire i =>
    match self.calls i with
    | some ⟨submission,service,.waiting lock⟩ =>
      match self.guards lock with
      | some _ => none
      | none => some ({self with guards := Function.update self.guards lock (some i)}.setCall i
          ⟨submission,service,.validating lock (validatePacketAtReceive prim submission service) []⟩)
    | _ => none
  | .answer i reply =>
    match self.calls i with
    | some ⟨submission,service,.validating lock rest history⟩ =>
      if Truthful self.eventReferenceBlocks reply then
        (rest.resume reply).map (fun rest =>
          self.setCall i ⟨submission,service,.validating lock rest (history ++ [reply])⟩)
      else none
    | _ => none
  | .settle i =>
    match self.calls i with
    | some ⟨submission,service,.validating lock (.returned outcome) history⟩ =>
      some (self.setCall i ⟨submission,service,self.settled submission.eventId lock history outcome⟩)
    | _ => none
  | .pin i =>
    match self.calls i with
    | some ⟨submission,service,.pinning lock block history⟩ =>
      some ((self.insertPin submission.eventId block).setCall i
        ⟨submission,service,.passed lock block history⟩)
    | _ => none
  | .forward i delivered =>
    match self.calls i with
    | some ⟨submission,service,.passed lock block history⟩ =>
      some ((self.send delivered ⟨submission,service,.standard⟩).setCall i
        ⟨submission,service,.leaving lock (.sent block history delivered)⟩)
    | _ => none
  | .release i =>
    match self.calls i with
    | some ⟨submission,service,.leaving lock outcome⟩ =>
      some ({self with guards := Function.update self.guards lock none}.setCall i
        ⟨submission,service,.ended outcome⟩)
    | _ => none

/-- Everything that one action can do. -/
inductive Taken (self : Receiving ι) : Act ι → Receiving ι → Prop
  | receive (i submission service) (fresh : self.calls i = none) :
      Taken self (.receive i submission service) (self.setCall i ⟨submission,service,.started⟩)
  | register (i submission service) (found : self.calls i = some ⟨submission,service,.started⟩) :
      Taken self (.register i) (self.orDefault i submission service)
  | acquire (i submission service lock) (found : self.calls i = some ⟨submission,service,.waiting lock⟩)
      (free : self.guards lock = none) :
      Taken self (.acquire i) ({self with guards := Function.update self.guards lock (some i)}.setCall i
        ⟨submission,service,.validating lock (validatePacketAtReceive prim submission service) []⟩)
  | answer (i submission service lock rest next history reply)
      (found : self.calls i = some ⟨submission,service,.validating lock rest history⟩)
      (truthful : Truthful self.eventReferenceBlocks reply) (resumed : rest.resume reply = some next) :
      Taken self (.answer i reply)
        (self.setCall i ⟨submission,service,.validating lock next (history ++ [reply])⟩)
  | settle (i submission service lock outcome history)
      (found : self.calls i = some ⟨submission,service,.validating lock (.returned outcome) history⟩) :
      Taken self (.settle i)
        (self.setCall i ⟨submission,service,self.settled submission.eventId lock history outcome⟩)
  | pin (i submission service lock block history)
      (found : self.calls i = some ⟨submission,service,.pinning lock block history⟩) :
      Taken self (.pin i) ((self.insertPin submission.eventId block).setCall i
        ⟨submission,service,.passed lock block history⟩)
  | forward (i submission service lock block history delivered)
      (found : self.calls i = some ⟨submission,service,.passed lock block history⟩) :
      Taken self (.forward i delivered) ((self.send delivered ⟨submission,service,.standard⟩).setCall i
        ⟨submission,service,.leaving lock (.sent block history delivered)⟩)
  | release (i submission service lock outcome)
      (found : self.calls i = some ⟨submission,service,.leaving lock outcome⟩) :
      Taken self (.release i) ({self with guards := Function.update self.guards lock none}.setCall i
        ⟨submission,service,.ended outcome⟩)

theorem step_taken (self : Receiving ι) (act : Act ι) (next : Receiving ι)
    (taken : self.step prim act = some next) : Taken prim self act next := by
  cases act with
  | receive i submission service =>
    simp only [step] at taken
    split at taken
    next fresh =>
      cases taken
      exact .receive i submission service fresh
    next => contradiction
  | register i =>
    simp only [step] at taken
    split at taken
    next submission service found =>
      cases taken
      exact .register i submission service found
    next => contradiction
  | acquire i =>
    simp only [step] at taken
    split at taken
    next submission service lock found =>
      split at taken
      next => contradiction
      next free =>
        cases taken
        exact .acquire i submission service lock found free
    next => contradiction
  | answer i reply =>
    simp only [step] at taken
    split at taken
    next submission service lock rest history found =>
      split at taken
      next truthful =>
        rw [Option.map_eq_some_iff] at taken
        obtain ⟨rest',resumed,same⟩ := taken
        subst same
        exact .answer i submission service lock rest rest' history reply found truthful resumed
      next => contradiction
    next => contradiction
  | settle i =>
    simp only [step] at taken
    split at taken
    next submission service lock outcome history found =>
      cases taken
      exact .settle i submission service lock outcome history found
    next => contradiction
  | pin i =>
    simp only [step] at taken
    split at taken
    next submission service lock block history found =>
      cases taken
      exact .pin i submission service lock block history found
    next => contradiction
  | forward i delivered =>
    simp only [step] at taken
    split at taken
    next submission service lock block history found =>
      cases taken
      exact .forward i submission service lock block history delivered found
    next => contradiction
  | release i =>
    simp only [step] at taken
    split at taken
    next submission service lock outcome found =>
      cases taken
      exact .release i submission service lock outcome found
    next => contradiction

/-! ## The sections of an event -/

def registry (self : Receiving ι) : KeyedLock.Locks EventId ι MutexId where
  entry := self.eventReceiveLocks
  owner := self.guards
  hold := fun i => (self.calls i).elim .out ReceiveCall.hold

theorem registry_setCall (self : Receiving ι) (i : ι) (call : ReceiveCall) :
    (self.setCall i call).registry =
      {self.registry with hold := Function.update self.registry.hold i call.hold} := by
  simp only [registry,setCall,KeyedLock.Locks.mk.injEq,true_and]
  funext j
  by_cases same : j = i
  · subst j
    simp
  · simp [Function.update_of_ne same]

theorem registry_hidden (self : Receiving ι) (i : ι) (before after : ReceiveCall)
    (found : self.calls i = some before) (kept : after.hold = before.hold) :
    (self.setCall i after).registry = self.registry := by
  have same : Function.update self.registry.hold i after.hold = self.registry.hold := by
    have held : self.registry.hold i = before.hold := by simp [registry,found]
    rw [kept,← held]
    exact Function.update_eq_self i self.registry.hold
  rw [registry_setCall,same]

theorem registry_fresh (self : Receiving ι) (i : ι) (call : ReceiveCall)
    (fresh : self.calls i = none) (out : call.hold = .out) :
    (self.setCall i call).registry = self.registry := by
  have same : Function.update self.registry.hold i call.hold = self.registry.hold := by
    have held : self.registry.hold i = .out := by simp [registry,fresh]
    rw [out,← held]
    exact Function.update_eq_self i self.registry.hold
  rw [registry_setCall,same]

omit [DecidableEq ι] in
theorem hold_settled (self : Receiving ι) (submission : Submission) (service : Service) (lock : MutexId)
    (history : History Query.Answer) (outcome : Except AggregatorError Height) :
    ReceiveCall.hold ⟨submission,service,self.settled submission.eventId lock history outcome⟩ =
      .inside submission.eventId lock := by
  unfold settled
  split
  · rfl
  · split <;> rfl

/-- One step of the receive path is one step of the keyed registry, or is not
visible in it. -/
theorem step_refines (self : Receiving ι) (act : Act ι) (next : Receiving ι)
    (taken : self.step prim act = some next) :
    Relation.ReflGen KeyedLock.Step self.registry next.registry := by
  cases step_taken prim self act next taken with
  | receive i submission service fresh =>
    rw [registry_fresh self i _ fresh rfl]
  | register i submission service found =>
    unfold orDefault
    split
    next lock registered =>
      rw [registry_setCall]
      exact .single (.fetch self.registry i submission.eventId lock registered)
    next absent =>
      rw [registry_setCall]
      exact .single (.create self.registry i submission.eventId self.allocated absent)
  | acquire i submission service lock found free =>
    have waiting : self.registry.hold i = .waiting submission.eventId lock := by
      simp [registry,found,ReceiveCall.hold]
    rw [registry_setCall]
    exact .single (.enter self.registry i submission.eventId lock waiting free)
  | answer i submission service lock rest next history reply found truthful resumed =>
    rw [registry_hidden self i _ ⟨submission,service,.validating lock next (history ++ [reply])⟩ found rfl]
  | settle i submission service lock outcome history found =>
    rw [registry_hidden self i _ _ found (hold_settled self submission service lock history outcome)]
  | pin i submission service lock block history found =>
    rw [registry_hidden (self.insertPin submission.eventId block) i _
      ⟨submission,service,.passed lock block history⟩ found rfl]
    exact .refl
  | forward i submission service lock block history delivered found =>
    rw [registry_hidden (self.send delivered ⟨submission,service,.standard⟩) i _
      ⟨submission,service,.leaving lock (.sent block history delivered)⟩ found rfl]
    exact .refl
  | release i submission service lock outcome found =>
    have inside : self.registry.hold i = .inside submission.eventId lock := by
      simp [registry,found,ReceiveCall.hold]
    rw [registry_setCall]
    exact .single (.leave self.registry i submission.eventId lock inside)

theorem step_coherent (self : Receiving ι) (act : Act ι) (next : Receiving ι)
    (taken : self.step prim act = some next) (coherent : KeyedLock.Coherent self.registry) :
    KeyedLock.Coherent next.registry :=
  KeyedLock.refined_coherent (step_refines prim self act next taken) coherent

omit [DecidableEq ι] in
theorem new_coherent : KeyedLock.Coherent (new : Receiving ι).registry := by
  constructor
  · intro i eventId lock claimed
    simp [registry,new,KeyedLock.Hold.claim] at claimed
  · intro i eventId lock entered
    simp [registry,new] at entered

/-- What holds of the step's own call and of every other one holds of all. -/
theorem forall_setCall (self : Receiving ι) (holds : ι → ReceiveCall → Prop) (i : ι) (call : ReceiveCall)
    (own : holds i call) (others : ∀ j other, j ≠ i → self.calls j = some other → holds j other) :
    ∀ j other, (self.setCall i call).calls j = some other → holds j other := by
  intro j other found
  by_cases same : j = i
  · subst j
    simp only [setCall,Function.update_self,Option.some.injEq] at found
    subst found
    exact own
  · simp only [setCall,Function.update_of_ne same] at found
    exact others j other same found

/-! ## What a call has validated -/

/-- The answers of a call are answers to its validation. -/
structure Sound (call : ReceiveCall) : Prop where
  follows : ∀ lock rest history, call.phase = .validating lock rest history →
    (validatePacketAtReceive prim call.submission call.service).follow history = some rest
  yields : ∀ block history, call.accepted = some (block,history) →
    (validatePacketAtReceive prim call.submission call.service).Yields history block

omit [DecidableEq ι] in
theorem sound_settled (self : Receiving ι) (submission : Submission) (service : Service) (lock : MutexId)
    (outcome : Except AggregatorError Height) (history : History Query.Answer)
    (sound : Sound prim ⟨submission,service,.validating lock (.returned outcome) history⟩) :
    Sound prim ⟨submission,service,self.settled submission.eventId lock history outcome⟩ := by
  have follows := sound.follows lock _ history rfl
  cases outcome with
  | error error => exact ⟨by simp [settled],by simp [settled,ReceiveCall.accepted]⟩
  | ok block =>
    have yields : ∀ given answers, some (block,history) = some (given,answers) →
        (validatePacketAtReceive prim submission service).Yields answers given := by
      intro given answers same
      cases same
      exact follows
    cases pinned : self.eventReferenceBlocks.getCloned submission.eventId with
    | none =>
      simp only [settled,pinned]
      exact ⟨by simp,yields⟩
    | some block =>
      simp only [settled,pinned]
      exact ⟨by simp,yields⟩

theorem step_sound (self : Receiving ι) (act : Act ι) (next : Receiving ι)
    (taken : self.step prim act = some next)
    (sound : ∀ i call, self.calls i = some call → Sound prim call) :
    ∀ i call, next.calls i = some call → Sound prim call := by
  have others : ∀ i j call, j ≠ i → self.calls j = some call → Sound prim call :=
    fun _ j call _ => sound j call
  cases step_taken prim self act next taken with
  | receive i submission service fresh =>
    exact forall_setCall self (fun _ => Sound prim) i _ ⟨by simp,by simp [ReceiveCall.accepted]⟩ (others i)
  | register i submission service started =>
    unfold orDefault
    split
    · exact forall_setCall self (fun _ => Sound prim) i _ ⟨by simp,by simp [ReceiveCall.accepted]⟩ (others i)
    · exact forall_setCall _ (fun _ => Sound prim) i _ ⟨by simp,by simp [ReceiveCall.accepted]⟩ (others i)
  | acquire i submission service lock waiting free =>
    refine forall_setCall _ (fun _ => Sound prim) i _ ⟨?_,by simp [ReceiveCall.accepted]⟩ (others i)
    intro _ _ _ phase
    cases phase
    rfl
  | answer i submission service lock rest next history reply validating truthful resumed =>
    refine forall_setCall self (fun _ => Sound prim) i _ ⟨?_,by simp [ReceiveCall.accepted]⟩ (others i)
    intro _ _ _ phase
    cases phase
    have follows := (sound i _ validating).follows lock rest history rfl
    rw [Async.follow_concat _ rest history reply follows]
    exact resumed
  | settle i submission service lock outcome history validating =>
    exact forall_setCall self (fun _ => Sound prim) i _
      (sound_settled prim self submission service lock outcome history (sound i _ validating)) (others i)
  | pin i submission service lock block history pinning =>
    exact forall_setCall _ (fun _ => Sound prim) i _ ⟨by simp,(sound i _ pinning).yields⟩ (others i)
  | forward i submission service lock block history delivered passed =>
    exact forall_setCall _ (fun _ => Sound prim) i _ ⟨by simp,(sound i _ passed).yields⟩ (others i)
  | release i submission service lock outcome leaving =>
    refine forall_setCall _ (fun _ => Sound prim) i _ ⟨by simp,?_⟩ (others i)
    have yields := (sound i _ leaving).yields
    cases outcome with
    | rejected error history => simp [ReceiveCall.accepted]
    | sent block history delivered => exact yields

/-- A later state of the same call. What was admitted stays admitted. -/
structure Continues (before after : ReceiveCall) : Prop where
  submission : after.submission = before.submission
  service : after.service = before.service
  accepted : ∀ given, before.accepted = some given → after.accepted = some given
  pinned : ∀ block, before.pinnedAt = some block → after.pinnedAt = some block

theorem Continues.refl (call : ReceiveCall) : Continues call call :=
  ⟨rfl,rfl,fun _ given => given,fun _ given => given⟩

theorem setCall_continues (self : Receiving ι) (i j : ι) (before after call : ReceiveCall)
    (found : self.calls i = some before) (continues : Continues before after)
    (other : self.calls j = some call) :
    ∃ later, (self.setCall i after).calls j = some later ∧ Continues call later := by
  by_cases same : j = i
  · subst j
    rw [found] at other
    cases other
    exact ⟨after,by simp [setCall],continues⟩
  · exact ⟨call,by simpa [setCall,Function.update_of_ne same] using other,.refl call⟩

/-- No call is lost. -/
theorem step_continues (self : Receiving ι) (act : Act ι) (next : Receiving ι)
    (taken : self.step prim act = some next) (j : ι) (call : ReceiveCall)
    (other : self.calls j = some call) : ∃ later, next.calls j = some later ∧ Continues call later := by
  cases step_taken prim self act next taken with
  | receive i submission service fresh =>
    have differ : j ≠ i := by
      intro same
      rw [same,fresh] at other
      cases other
    exact ⟨call,by simpa [setCall,Function.update_of_ne differ] using other,.refl call⟩
  | register i submission service started =>
    unfold orDefault
    split
    · exact setCall_continues _ i j _ _ call started
        ⟨rfl,rfl,by simp [ReceiveCall.accepted],by simp [ReceiveCall.pinnedAt]⟩ other
    · exact setCall_continues _ i j _ _ call started
        ⟨rfl,rfl,by simp [ReceiveCall.accepted],by simp [ReceiveCall.pinnedAt]⟩ other
  | acquire i submission service lock waiting free =>
    exact setCall_continues _ i j _ _ call waiting
      ⟨rfl,rfl,by simp [ReceiveCall.accepted],by simp [ReceiveCall.pinnedAt]⟩ other
  | answer i submission service lock rest next history reply validating truthful resumed =>
    exact setCall_continues _ i j _ _ call validating
      ⟨rfl,rfl,by simp [ReceiveCall.accepted],by simp [ReceiveCall.pinnedAt]⟩ other
  | settle i submission service lock outcome history validating =>
    exact setCall_continues _ i j _ _ call validating
      ⟨rfl,rfl,by simp [ReceiveCall.accepted],by simp [ReceiveCall.pinnedAt]⟩ other
  | pin i submission service lock block history pinning =>
    exact setCall_continues _ i j _ _ call pinning
      ⟨rfl,rfl,fun _ given => given,by simp [ReceiveCall.pinnedAt]⟩ other
  | forward i submission service lock block history delivered passed =>
    exact setCall_continues _ i j _ _ call passed ⟨rfl,rfl,fun _ given => given,fun _ given => given⟩ other
  | release i submission service lock outcome leaving =>
    refine setCall_continues _ i j _ _ call leaving ⟨rfl,rfl,?_,?_⟩ other
    · cases outcome with
      | rejected error history => simp [ReceiveCall.accepted]
      | sent block history delivered => exact fun _ given => given
    · cases outcome with
      | rejected error history => simp [ReceiveCall.pinnedAt]
      | sent block history delivered => exact fun _ given => given

/-- A packet that the dispatcher was sent has passed the gate. -/
def Dispatched (self : Receiving ι) : Prop :=
  ∀ command ∈ self.forwarded, ∃ i call block, self.calls i = some call ∧
    call.submission = command.submission ∧ call.service = command.service ∧ call.pinnedAt = some block

theorem step_dispatched (self : Receiving ι) (act : Act ι) (next : Receiving ι)
    (taken : self.step prim act = some next) (dispatched : self.Dispatched) : next.Dispatched := by
  have earlier : ∀ command ∈ self.forwarded, ∃ i call block, next.calls i = some call ∧
      call.submission = command.submission ∧ call.service = command.service ∧
      call.pinnedAt = some block := by
    intro command member
    obtain ⟨i,call,block,found,submission,service,pinned⟩ := dispatched command member
    obtain ⟨later,found,continues⟩ := step_continues prim self act next taken i call found
    exact ⟨i,later,block,found,continues.submission.trans submission,continues.service.trans service,
      continues.pinned block pinned⟩
  cases step_taken prim self act next taken with
  | receive i submission service fresh => exact earlier
  | register i submission service started =>
    unfold orDefault at earlier ⊢
    split at earlier
    · exact earlier
    · exact earlier
  | acquire i submission service lock waiting free => exact earlier
  | answer i submission service lock rest next history reply validating truthful resumed => exact earlier
  | settle i submission service lock outcome history validating => exact earlier
  | pin i submission service lock block history pinning => exact earlier
  | release i submission service lock outcome leaving => exact earlier
  | forward i submission service lock block history delivered passed =>
    intro command member
    simp only [setCall,send] at member
    cases delivered with
    | false => exact earlier command (by simpa using member)
    | true =>
      rcases List.mem_append.mp member with before | last
      · exact earlier command before
      · rw [List.mem_singleton.mp last]
        exact ⟨i,⟨submission,service,.leaving lock (.sent block history true)⟩,block,
          by simp [setCall],rfl,rfl,rfl⟩

/-! ## What holds of every packet -/

omit [DecidableEq ι] in
def Packets (self : Receiving ι) (holds : Submission → Service → Prop) : Prop :=
  ∀ i call, self.calls i = some call → holds call.submission call.service

omit [DecidableEq ι] in
/-- The packets that come in satisfy `holds`. -/
def Receives (holds : Submission → Service → Prop) (_ : Receiving ι) (act : Act ι) (_ : Receiving ι) : Prop :=
  ∀ packet ∈ act.packet, holds packet.1 packet.2

theorem step_packets (self : Receiving ι) (act : Act ι) (next : Receiving ι)
    (taken : self.step prim act = some next) (holds : Submission → Service → Prop)
    (receives : Receives holds self act next) (packets : self.Packets holds) : next.Packets holds := by
  have others : ∀ i j call, j ≠ i → self.calls j = some call → holds call.submission call.service :=
    fun _ j call _ => packets j call
  let held : ι → ReceiveCall → Prop := fun _ call => holds call.submission call.service
  cases step_taken prim self act next taken with
  | receive i submission service fresh =>
    exact forall_setCall self held i _ (receives (submission,service) rfl) (others i)
  | register i submission service started =>
    have own := packets i _ started
    unfold orDefault
    split
    · exact forall_setCall self held i _ own (others i)
    · exact forall_setCall _ held i _ own (others i)
  | acquire i submission service lock waiting free =>
    have own := packets i _ waiting
    exact forall_setCall _ held i _ own (others i)
  | answer i submission service lock rest next history reply validating truthful resumed =>
    have own := packets i _ validating
    exact forall_setCall self held i _ own (others i)
  | settle i submission service lock outcome history validating =>
    have own := packets i _ validating
    exact forall_setCall self held i _ own (others i)
  | pin i submission service lock block history pinning =>
    have own := packets i _ pinning
    exact forall_setCall _ held i _ own (others i)
  | forward i submission service lock block history delivered passed =>
    have own := packets i _ passed
    exact forall_setCall _ held i _ own (others i)
  | release i submission service lock outcome leaving =>
    have own := packets i _ leaving
    exact forall_setCall _ held i _ own (others i)

end Receiving
end Warpdrive.Aggregator
