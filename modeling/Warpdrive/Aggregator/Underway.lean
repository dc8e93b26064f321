import Warpdrive.Aggregator.Provenance

/-! Work of the aggregator that is not over: a receive call that may still forward its packet, and
a task that may still submit or send a command. A step gives work only to the service that it
admits something for, and sends commands only of work that was under way. -/
namespace Warpdrive.Aggregator

open Warpdrive.Foundation Warpdrive.Foundation.Execution Warpdrive.Types

/-- The call may still forward its packet. -/
def ReceiveCall.underway (self : ReceiveCall) : Bool :=
  match self.phase with
  | .leaving _ _ => false
  | .ended _ => false
  | _ => true

/-- The task may still submit or send a command. -/
def ActionTask.underway (self : ActionTask) : Bool :=
  match self.work with
  | .submit _ (.leaving _) => false
  | .submit _ (.ended _) => false
  | .timer _ fired => !fired
  | _ => true

variable {ι : Type} [DecidableEq ι] (prim : Primitives)

namespace Receiving

omit [DecidableEq ι] in
def Underway (holds : ServiceId → Prop) (self : Receiving ι) : Prop :=
  ∀ i call, self.calls i = some call → call.underway = true → holds call.submission.serviceId

theorem step_underway (self : Receiving ι) (act : Act ι) (next : Receiving ι)
    (taken : self.step prim act = some next) (holds : ServiceId → Prop)
    (received : ∀ packet ∈ act.packet, holds packet.1.serviceId) (before : Underway holds self) :
    Underway holds next := by
  let held : ι → ReceiveCall → Prop := fun _ call => call.underway = true → holds call.submission.serviceId
  have others : ∀ i j call, j ≠ i → self.calls j = some call → held j call :=
    fun _ j call _ => before j call
  cases step_taken prim self act next taken with
  | receive i submission service fresh =>
    have own : holds submission.serviceId := received (submission,service) rfl
    exact forall_setCall self held i _ (fun _ => own) (others i)
  | register i submission service started =>
    have own : holds submission.serviceId := before i _ started rfl
    unfold orDefault
    split
    · exact forall_setCall self held i _ (fun _ => own) (others i)
    · exact forall_setCall _ held i _ (fun _ => own) (others i)
  | acquire i submission service lock waiting free =>
    have own : holds submission.serviceId := before i _ waiting rfl
    exact forall_setCall _ held i _ (fun _ => own) (others i)
  | answer i submission service lock rest next history reply validating truthful resumed =>
    have own : holds submission.serviceId := before i _ validating rfl
    exact forall_setCall self held i _ (fun _ => own) (others i)
  | settle i submission service lock outcome history validating =>
    have own : holds submission.serviceId := before i _ validating rfl
    exact forall_setCall self held i _ (fun _ => own) (others i)
  | pin i submission service lock block history pinning =>
    have own : holds submission.serviceId := before i _ pinning rfl
    exact forall_setCall _ held i _ (fun _ => own) (others i)
  | forward i submission service lock block history delivered passed =>
    exact forall_setCall _ held i _ (fun late => by cases late) (others i)
  | release i submission service lock outcome leaving =>
    exact forall_setCall _ held i _ (fun late => by cases late) (others i)

theorem step_forwarded (self : Receiving ι) (act : Act ι) (next : Receiving ι)
    (taken : self.step prim act = some next) (holds : ServiceId → Prop) (before : Underway holds self) :
    ∀ command ∈ next.forwarded.drop self.forwarded.length, holds command.submission.serviceId := by
  have silent : ∀ other : Receiving ι, other.forwarded = self.forwarded →
      ∀ command ∈ other.forwarded.drop self.forwarded.length, holds command.submission.serviceId := by
    intro other same command member
    simp [same] at member
  cases step_taken prim self act next taken with
  | receive => exact silent _ rfl
  | register =>
    unfold orDefault
    split
    · exact silent _ rfl
    · exact silent _ rfl
  | acquire => exact silent _ rfl
  | answer => exact silent _ rfl
  | settle => exact silent _ rfl
  | pin => exact silent _ rfl
  | release => exact silent _ rfl
  | forward i submission service lock block history delivered passed =>
    cases delivered with
    | false => exact silent _ rfl
    | true =>
      intro command member
      have last : command = ⟨submission,service,.standard⟩ := by
        simpa [send,setCall] using member
      subst last
      exact before i _ passed rfl

end Receiving

namespace Submitting

omit [DecidableEq ι] in
def Underway (holds : ServiceId → Prop) (self : Submitting ι) : Prop :=
  ∀ i task, self.tasks i = some task → task.underway = true → holds task.submission.serviceId

def Act.spawned : Act ι → Option Submission
  | .spawn _ submission _ _ => some submission
  | _ => none

theorem step_underway (self : Submitting ι) (act : Act ι) (next : Submitting ι)
    (taken : self.step prim act = some next) (holds : ServiceId → Prop)
    (spawned : ∀ submission ∈ act.spawned, holds submission.serviceId) (before : Underway holds self) :
    Underway holds next := by
  let held : ι → ActionTask → Prop := fun _ task => task.underway = true → holds task.submission.serviceId
  have others : ∀ i j task, j ≠ i → self.tasks j = some task → held j task :=
    fun _ j task _ => before j task
  cases step_taken prim self act next taken with
  | submit i submission service action transaction fresh called =>
    have own : holds submission.serviceId := spawned submission rfl
    exact forall_setTask _ held i _ (fun _ => own) (others i)
  | timer i submission service delaySecs fresh =>
    have own : holds submission.serviceId := spawned submission rfl
    exact forall_setTask self held i _ (fun _ => own) (others i)
  | queueLock => exact before
  | load i submission service action key lock locking entered =>
    have own : holds submission.serviceId := before i _ locking rfl
    exact forall_setTask self held i _ (fun _ => own) (others i)
  | unappended i submission service action queue error loaded failed =>
    exact forall_setTask self held i _ (fun late => by cases late) (others i)
  | appended i submission service action queue longer transaction loaded done called =>
    have own : holds submission.serviceId := before i _ loaded rfl
    exact forall_setTask _ held i _ (fun _ => own) (others i)
  | chainLock => exact before
  | enter i submission service action queue key lock submitting entered =>
    have own : holds submission.serviceId := before i _ submitting rfl
    exact forall_setTask self held i _ (fun _ => own) (others i)
  | answer i submission service action queue rest next history reply attempting resumed =>
    have own : holds submission.serviceId := before i _ attempting rfl
    exact forall_setTask self held i _ (fun _ => own) (others i)
  | leaveChain i submission service action queue result history transaction attempting finished =>
    have own : holds submission.serviceId := before i _ attempting rfl
    exact forall_setTask _ held i _ (fun _ => own) (others i)
  | store i submission service action queue result history now attempted left =>
    have own : holds submission.serviceId := before i _ attempted rfl
    exact forall_setTask _ held i _ (fun _ => own) (others i)
  | notify i submission service action result history delivered stored =>
    exact forall_setTask _ held i _ (fun late => by cases late) (others i)
  | finish i submission service action outcome transaction leaving finished =>
    exact forall_setTask _ held i _ (fun late => by cases late) (others i)
  | fire i submission service delaySecs delivered sleeping =>
    exact forall_setTask _ held i _ (fun late => by cases late) (others i)
  | cleanup => exact before

theorem step_called_back (self : Submitting ι) (act : Act ι) (next : Submitting ι)
    (taken : self.step prim act = some next) (holds : ServiceId → Prop) (before : Underway holds self) :
    ∀ command ∈ next.callbacks.drop self.callbacks.length, holds command.submission.serviceId := by
  have silent : ∀ other : Submitting ι, other.callbacks = self.callbacks →
      ∀ command ∈ other.callbacks.drop self.callbacks.length, holds command.submission.serviceId := by
    intro other same command member
    simp [same] at member
  have sends : ∀ (delivered : Bool) (command : AggregatorExecute), holds command.submission.serviceId →
      ∀ other ∈ (self.send delivered command).callbacks.drop self.callbacks.length,
        holds other.submission.serviceId := by
    intro delivered command own other member
    cases delivered with
    | false => exact silent _ rfl other member
    | true =>
      have last : other = command := by simpa [send] using member
      rw [last]
      exact own
  cases step_taken prim self act next taken with
  | notify i submission service action result history delivered stored =>
    exact sends delivered _ (before i _ stored rfl)
  | fire i submission service delaySecs delivered sleeping =>
    exact sends delivered _ (before i _ sleeping rfl)
  | submit => exact silent _ rfl
  | timer => exact silent _ rfl
  | queueLock => exact silent _ rfl
  | load => exact silent _ rfl
  | unappended => exact silent _ rfl
  | appended => exact silent _ rfl
  | chainLock => exact silent _ rfl
  | enter => exact silent _ rfl
  | answer => exact silent _ rfl
  | leaveChain => exact silent _ rfl
  | store => exact silent _ rfl
  | finish => exact silent _ rfl
  | cleanup => exact silent _ rfl

end Submitting

namespace System

omit [DecidableEq ι] in
structure Underway (holds : ServiceId → Prop) (state : System ι) : Prop where
  receiving : Receiving.Underway holds state.receiving
  submitting : Submitting.Underway holds state.submitting

/-- The service that work is begun for. -/
def Act.admits : Act ι → Option ServiceId
  | .receive _ _ submission => some submission.serviceId
  | .actions _ submission _ => some submission.serviceId
  | _ => none

/-- The commands that are sent to the dispatcher between two states. -/
def sent (before after : System ι) : List AggregatorExecute :=
  after.receiving.forwarded.drop before.receiving.forwarded.length ++
    after.submitting.callbacks.drop before.submitting.callbacks.length

omit [DecidableEq ι] in
theorem sent_forall (holds : ServiceId → Prop) (before after : System ι)
    (forwarded : ∀ command ∈ after.receiving.forwarded.drop before.receiving.forwarded.length,
      holds command.submission.serviceId)
    (callbacks : ∀ command ∈ after.submitting.callbacks.drop before.submitting.callbacks.length,
      holds command.submission.serviceId) :
    ∀ command ∈ sent before after, holds command.submission.serviceId := by
  intro command member
  rcases List.mem_append.mp member with first | second
  · exact forwarded command first
  · exact callbacks command second

omit [DecidableEq ι] in
theorem forwarded_forget (receiving : Receiving ι) (cleanup : Cleanup) (act : Cleanup.Act) :
    (forget receiving cleanup act).forwarded = receiving.forwarded :=
  forget_keeps receiving cleanup act (fun now => now.forwarded = receiving.forwarded) (fun _ kept => kept)
    (fun _ kept => kept) rfl

theorem step_underway (self : System ι) (act : Act ι) (next : System ι)
    (taken : self.step prim act = some next) (holds : ServiceId → Prop)
    (admits : ∀ id ∈ act.admits, holds id) (before : Underway holds self) :
    Underway holds next ∧ ∀ command ∈ sent self next, holds command.submission.serviceId := by
  obtain ⟨receives,submits⟩ := before
  cases step_taken prim self act next taken with
  | setService id service services =>
    exact ⟨⟨receives,submits⟩,sent_forall holds _ _ (by simp) (by simp)⟩
  | broadcast signers req submission signed =>
    exact ⟨⟨receives,submits⟩,sent_forall holds _ _ (by simp) (by simp)⟩
  | receive i peer submission service receiving own extracted stepped =>
    have kept := Receiving.step_underway prim self.receiving _ receiving stepped holds
      (fun packet found => by cases found; exact admits _ rfl) receives
    exact ⟨⟨kept,submits⟩,sent_forall holds _ _
      (Receiving.step_forwarded prim self.receiving _ receiving stepped holds receives) (by simp)⟩
  | receiving act receiving running stepped =>
    have silent : ∀ packet ∈ act.packet, holds packet.1.serviceId := by
      intro packet found
      cases act with
      | receive => cases running
      | _ => cases found
    have kept := Receiving.step_underway prim self.receiving act receiving stepped holds silent receives
    exact ⟨⟨kept,submits⟩,sent_forall holds _ _
      (Receiving.step_forwarded prim self.receiving act receiving stepped holds receives) (by simp)⟩
  | actions i submission action service submitting returned extracted stepped =>
    have kept := Submitting.step_underway prim self.submitting _ submitting stepped holds
      (fun submission found => by cases found; exact admits _ rfl) submits
    exact ⟨⟨receives,kept⟩,sent_forall holds _ _ (by simp)
      (Submitting.step_called_back prim self.submitting _ submitting stepped holds submits)⟩
  | submitting act submitting running stepped =>
    have silent : ∀ submission ∈ act.spawned, holds submission.serviceId := by
      intro submission found
      cases act with
      | spawn => cases running
      | _ => cases found
    have kept := Submitting.step_underway prim self.submitting act submitting stepped holds silent submits
    exact ⟨⟨receives,kept⟩,sent_forall holds _ _ (by simp)
      (Submitting.step_called_back prim self.submitting act submitting stepped holds submits)⟩
  | cleanup act submitting stepped =>
    have kept := Submitting.step_underway prim self.submitting _ submitting stepped holds
      (fun submission found => by cases found) submits
    refine ⟨⟨?_,kept⟩,sent_forall holds _ _ (by simp [forwarded_forget])
      (Submitting.step_called_back prim self.submitting _ submitting stepped holds submits)⟩
    unfold Receiving.Underway
    rw [calls_forget]
    exact receives

def Act.sets : Act ι → Option ServiceId
  | .setService id _ => some id
  | _ => none

theorem step_stored (self : System ι) (act : Act ι) (next : System ι) (taken : self.step prim act = some next)
    (id : ServiceId) (unset : id ∉ act.sets) : next.services.getCloned id = self.services.getCloned id := by
  cases act with
  | setService other service =>
    have differ : id ≠ other := by
      intro same
      exact unset (by simp [Act.sets,same])
    cases taken
    cases service with
    | none => exact WavsDbTable.getCloned_remove_ne _ other id differ
    | some service => exact WavsDbTable.getCloned_insert_ne _ other id service differ
  | _ =>
    cases step_taken prim self _ next taken
    all_goals rfl

end System
end Warpdrive.Aggregator
