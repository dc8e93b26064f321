import Mathlib.Algebra.BigOperators.Fin
import Mathlib.Algebra.Order.BigOperators.Group.Finset
import Warpdrive.Foundation.Completion
import Warpdrive.Aggregator.Nesting

/-! The action tasks cannot block each other for good. Whatever state an interleaving has
reached, and whatever the chains answer, the tasks under way can all be brought to their
end: a task inside a chain's transaction waits for nobody, and one that is only inside a
queue's transaction waits for such a task at most. -/
namespace Warpdrive.Aggregator.Submitting
open Warpdrive.Foundation Warpdrive.Foundation.Execution Warpdrive.Types Warpdrive.Utils

variable {ι : Type}

/-- What the tasks cannot choose: the answers of the chains and of the node's own tables,
the clock, and whether a command to the dispatcher is delivered. -/
structure Surroundings (ι : Type) where
  answers : ι → (query : Query) → query.Answer
  now : ι → UInt64
  delivered : ι → Bool

/-- The action of a task that is already there, with what the surroundings give it. -/
def Continues (around : Surroundings ι) : Act ι → Prop
  | .spawn _ _ _ _ => False
  | .cleanup _ => False
  | .answer i reply => reply.2 = around.answers i reply.1
  | .store i now => now = around.now i
  | .notify i delivered => delivered = around.delivered i
  | .fire i delivered => delivered = around.delivered i
  | _ => True

def Act.task : Act ι → Option ι
  | .spawn i _ _ _ => some i
  | .queueLock i _ => some i
  | .load i => some i
  | .append i => some i
  | .chainLock i _ => some i
  | .enter i => some i
  | .answer i _ => some i
  | .leaveChain i => some i
  | .store i _ => some i
  | .notify i _ => some i
  | .finish i => some i
  | .fire i _ => some i
  | .cleanup _ => none

/-- The steps a task still takes, the answers of its attempt apart. -/
def remaining (queue : Call QuorumQueueId) (chain : Call ChainKey) : Option ActionTask → Nat
  | none => 0
  | some ⟨_,_,.timer _ fired⟩ => if fired then 0 else 1
  | some ⟨_,_,.submit _ phase⟩ =>
    match phase with
    | .locking => 13 + queue.accesses
    | .loaded _ => 12
    | .submitting _ => 7 + chain.accesses
    | .attempting _ _ _ => 6
    | .attempted _ _ _ => 4 + chain.accesses
    | .stored _ _ => 3
    | .leaving _ => 2
    | .ended _ => queue.accesses

def work (self : Submitting ι) (i : ι) : Nat :=
  remaining (self.queueTransaction.calls i) (self.chainTransaction.calls i) (self.tasks i)

def Ended (task : ActionTask) : Prop :=
  match task.work with
  | .timer _ fired => fired = true
  | .submit _ (.ended _) => True
  | _ => False

theorem remaining_ended (queue : Call QuorumQueueId) (chain : Call ChainKey) (task : Option ActionTask)
    (located : Located queue chain task) (finished : remaining queue chain task = 0) :
    (∀ given, task = some given → Ended given) ∧ (queue = .idle ∨ queue = .returned) ∧
      (chain = .idle ∨ chain = .returned) := by
  match task with
  | none => exact ⟨by simp,.inl located.1,.inl located.2⟩
  | some ⟨submission,service,.timer delaySecs fired⟩ =>
    refine ⟨?_,.inl located.1,.inl located.2⟩
    intro given same
    cases same
    cases fired with
    | true => rfl
    | false => simp [remaining] at finished
  | some ⟨submission,service,.submit action phase⟩ =>
    cases phase with
    | ended outcome =>
      refine ⟨?_,?_,located.2⟩
      · intro given same
        cases same
        trivial
      · have past := located.1
        simp only [remaining] at finished
        cases queue <;> simp_all [Call.Past,Call.accesses]
    | locking => simp [remaining] at finished
    | loaded => simp [remaining] at finished
    | submitting => simp [remaining] at finished
    | attempting => simp [remaining] at finished
    | attempted => simp [remaining] at finished
    | stored => simp [remaining] at finished
    | leaving => simp [remaining] at finished

variable [DecidableEq ι] (prim : Primitives)

/-- An action concerns its own task and that task's calls only. -/
theorem step_others (self : Submitting ι) (act : Act ι) (next : Submitting ι)
    (taken : self.step prim act = some next) (i j : ι) (actor : act.task = some i) (differ : j ≠ i) :
    next.tasks j = self.tasks j ∧ next.queueTransaction.calls j = self.queueTransaction.calls j ∧
      next.chainTransaction.calls j = self.chainTransaction.calls j := by
  have aside : ∀ task, Function.update self.tasks i task j = self.tasks j :=
    fun _ => Function.update_of_ne differ _ _
  cases step_taken prim self act next taken with
  | submit k submission service action transaction fresh called =>
    cases actor
    exact ⟨aside _,calls_others _ transaction _ called i rfl j differ,rfl⟩
  | queueLock k access transaction accessed =>
    cases actor
    exact ⟨rfl,calls_others _ transaction _ accessed i (access_caller i access) j differ,rfl⟩
  | appended k submission service action queue longer transaction loaded done called =>
    cases actor
    exact ⟨aside _,rfl,calls_others _ transaction _ called i rfl j differ⟩
  | chainLock k access transaction accessed =>
    cases actor
    exact ⟨rfl,rfl,calls_others _ transaction _ accessed i (access_caller i access) j differ⟩
  | leaveChain k submission service action queue result history transaction attempting finished =>
    cases actor
    exact ⟨aside _,rfl,calls_others _ transaction _ finished i rfl j differ⟩
  | finish k submission service action outcome transaction leaving finished =>
    cases actor
    exact ⟨aside _,calls_others _ transaction _ finished i rfl j differ,rfl⟩
  | timer => cases actor; exact ⟨aside _,rfl,rfl⟩
  | load => cases actor; exact ⟨aside _,rfl,rfl⟩
  | unappended => cases actor; exact ⟨aside _,rfl,rfl⟩
  | enter => cases actor; exact ⟨aside _,rfl,rfl⟩
  | answer => cases actor; exact ⟨aside _,rfl,rfl⟩
  | store => cases actor; exact ⟨aside _,rfl,rfl⟩
  | notify => cases actor; exact ⟨aside _,rfl,rfl⟩
  | fire => cases actor; exact ⟨aside _,rfl,rfl⟩
  | cleanup => cases actor

/-- The actions of one task only. -/
def Own (around : Surroundings ι) (i : ι) (act : Act ι) : Prop := Continues around act ∧ act.task = some i

/-- The task can get closer to its end by its own actions. -/
def Advances (around : Surroundings ι) (i : ι) (self : Submitting ι) : Prop :=
  CanReach (step prim) (Own around i) (fun next => next.work i < self.work i) self

section Advancing

variable (around : Surroundings ι) (self : Submitting ι) (i : ι)

theorem Advances.once (act : Act ι) (next : Submitting ι) (taken : self.step prim act = some next)
    (own : Own around i act) (less : next.work i < self.work i) : Advances prim around i self :=
  CanReach.once self next act taken own less

/-- Given any answers, an attempt returns. -/
theorem attempt_returns (submission : Submission) (service : Service) (action : SubmitAction)
    (queue : List Submission) (rest : Fallible AnyTransactionReceipt) (history : History Query.Answer)
    (found : self.tasks i = some ⟨submission,service,.submit action (.attempting queue rest history)⟩) :
    CanReach (step prim) (Own around i) (fun next => next.chainTransaction = self.chainTransaction ∧
      ∃ result later, next.tasks i = some ⟨submission,service,.submit action
        (.attempting queue (.returned result) later)⟩) self := by
  induction rest generalizing self history with
  | returned result => exact .here self ⟨rfl,result,history,found⟩
  | await call rest ih =>
    let reply : Reply := ⟨call,around.answers i call⟩
    let next := self.setTask i ⟨submission,service,.submit action
      (.attempting queue (rest (around.answers i call)) (history ++ [reply]))⟩
    have resumed : (Async.await call rest : Fallible AnyTransactionReceipt).resume reply =
        some (rest (around.answers i call)) := (Async.resume_await call rest reply _).mpr ⟨_,rfl,rfl⟩
    have taken : self.step prim (.answer i reply) = some next := by
      simp only [step,found,resumed,Option.map_some]
      rfl
    refine .next self next (.answer i reply) taken ⟨rfl,rfl⟩ ?_
    exact ih (around.answers i call) next (history ++ [reply]) (Function.update_self i _ self.tasks)

theorem attempting_advances (nested : Nested self) (submission : Submission) (service : Service)
    (action : SubmitAction) (queue : List Submission) (rest : Fallible AnyTransactionReceipt)
    (history : History Query.Answer)
    (found : self.tasks i = some ⟨submission,service,.submit action (.attempting queue rest history)⟩) :
    Advances prim around i self := by
  refine .trans self (attempt_returns prim around self i submission service action queue rest history found) ?_
  intro after returned
  obtain ⟨same,result,later,returned⟩ := returned
  have place := nested.located i
  rw [found] at place
  obtain ⟨lock,inside⟩ := place.2
  rw [← same] at inside
  have finished := AsyncTransaction.finish_inside after.chainTransaction i action.chain lock inside
  refine .once after _ (.leaveChain i) (by simp only [step,returned,finished,Option.map_some]; rfl) ⟨trivial,rfl⟩ ?_
  simp [work,setTask,setChainTransaction,remaining,found,AsyncTransaction.setCall,Call.accesses]

/-- A task inside a chain's transaction waits for nobody. -/
theorem chain_holder_advances (nested : Nested self) (key : ChainKey) (lock : MutexId)
    (inside : self.chainTransaction.calls i = .critical key lock) : Advances prim around i self := by
  have place := nested.located i
  rw [inside] at place
  match found : self.tasks i with
  | none =>
    rw [found] at place
    cases place.2
  | some ⟨submission,service,.timer delaySecs fired⟩ =>
    rw [found] at place
    cases place.2
  | some ⟨submission,service,.submit action phase⟩ =>
    rw [found] at place
    cases phase with
    | locking => cases place.2
    | loaded queue => cases place.2
    | submitting queue =>
      refine .once prim around self i (.enter i) _ (by simp only [step,found,inside]; rfl) ⟨trivial,rfl⟩ ?_
      simp only [work,setTask,remaining,found,Function.update_self]
      omega
    | attempting queue rest history =>
      exact attempting_advances prim around self i nested submission service action queue rest history found
    | attempted queue result history => exact place.2.elim
    | stored result history => rcases place.2 with idle | returned <;> contradiction
    | leaving outcome => rcases place.2 with idle | returned <;> contradiction
    | ended outcome => rcases place.2 with idle | returned <;> contradiction

omit [DecidableEq ι] in
theorem access_named {K : Type} (act : AsyncTransaction.Act K ι)
    (access : act = .read i ∨ act = .write i ∨ act = .lock i) : ∃ named, LockAccess.act i named = act := by
  rcases access with read | write | locked
  · exact ⟨.read,read.symm⟩
  · exact ⟨.write,write.symm⟩
  · exact ⟨.lock,locked.symm⟩

/-- On its way into a chain's transaction, a task waits for the task inside it at most. -/
theorem submitting_advances (nested : Nested self) (submission : Submission) (service : Service)
    (action : SubmitAction) (queue : List Submission)
    (found : self.tasks i = some ⟨submission,service,.submit action (.submitting queue)⟩) :
    ∃ j, Advances prim around j self := by
  have place := nested.located i
  rw [found] at place
  rcases AsyncTransaction.awaits_goes_on self.chainTransaction nested.chain i action.chain place.2 with
    ⟨lock,inside⟩ | ⟨act,next,access,stepped,less⟩ | ⟨j,other,lock,_,inside⟩
  · exact ⟨i,chain_holder_advances prim around self i nested action.chain lock inside⟩
  · refine ⟨i,?_⟩
    have lower : (self.setChainTransaction next).work i < self.work i := by
      simp only [work,setChainTransaction,remaining,found]
      omega
    obtain ⟨named,rfl⟩ := access_named i act access
    exact .once prim around self i (.chainLock i named) _ (by simp [step,stepped]) ⟨trivial,rfl⟩ lower
  · exact ⟨j,chain_holder_advances prim around self j nested other lock inside⟩

/-- A call that has left its section returns by its count test. -/
theorem left_returns {K : Type} [DecidableEq K] (transaction : AsyncTransaction K ι) (tended : transaction.Tended)
    (past : (transaction.calls i).Past) (busy : 0 < (transaction.calls i).accesses) :
    ∃ next, transaction.step (.testCount i) = some next ∧ (next.calls i).accesses = 0 := by
  cases call : transaction.calls i with
  | left key lock =>
    refine ⟨_,by simp only [AsyncTransaction.step,call,tended.kept,Bool.false_and,Bool.false_eq_true,if_false]; rfl,?_⟩
    simp [AsyncTransaction.setCall,Call.accesses]
  | returned => simp [call,Call.accesses] at busy
  | idle => simp [call,Call.Past] at past
  | started key => simp [call,Call.Past] at past
  | missed key => simp [call,Call.Past] at past
  | waiting key lock => simp [call,Call.Past] at past
  | critical key lock => simp [call,Call.Past] at past
  | pruning key lock => simp [call,Call.Past] at past

theorem attempted_advances (nested : Nested self) (submission : Submission) (service : Service)
    (action : SubmitAction) (queue : List Submission) (result : Attempted) (history : History Query.Answer)
    (found : self.tasks i = some ⟨submission,service,.submit action (.attempted queue result history)⟩) :
    Advances prim around i self := by
  have place := nested.located i
  rw [found] at place
  rcases Nat.eq_zero_or_pos (self.chainTransaction.calls i).accesses with done | busy
  · have returned : self.chainTransaction.calls i = .returned := by
      have past := place.2
      cases call : self.chainTransaction.calls i <;> simp_all [Call.Past,Call.accesses]
    refine .once prim around self i (.store i (around.now i)) _ (by simp only [step,found,returned]; rfl) ⟨rfl,rfl⟩ ?_
    simp [work,setTask,setQueues,remaining,found,returned,Call.accesses]
  · obtain ⟨next,tested,quiet⟩ := left_returns i self.chainTransaction nested.chain place.2 busy
    refine .once prim around self i (.chainLock i .testCount) (self.setChainTransaction next)
      (by simp [step,LockAccess.act,tested]) ⟨trivial,rfl⟩ ?_
    simp only [work,setChainTransaction,remaining,found]
    omega

/-- A task inside a queue's transaction waits for the holder of its chain at most. -/
theorem queue_holder_advances (nested : Nested self) (id : QuorumQueueId) (lock : MutexId)
    (inside : self.queueTransaction.calls i = .critical id lock) : ∃ j, Advances prim around j self := by
  have place := nested.located i
  rw [inside] at place
  match found : self.tasks i with
  | none =>
    rw [found] at place
    cases place.1
  | some ⟨submission,service,.timer delaySecs fired⟩ =>
    rw [found] at place
    cases place.1
  | some ⟨submission,service,.submit action phase⟩ =>
    rw [found] at place
    cases phase with
    | locking =>
      refine ⟨i,.once prim around self i (.load i) _ (by simp only [step,found,inside]; rfl) ⟨trivial,rfl⟩ ?_⟩
      cases opening : getQuorumQueue self.quorumQueues ⟨submission.eventId,action⟩ with
      | burned timestamp => simp [work,setTask,remaining,found,opened]; omega
      | active queue => simp [work,setTask,remaining,found,opened]; omega
    | loaded queue =>
      refine ⟨i,?_⟩
      cases appended : appendSubmissionToQueue prim ⟨submission.eventId,action⟩ queue submission with
      | error error =>
        refine .once prim around self i (.append i) _ (by simp only [step,found,appended]; rfl) ⟨trivial,rfl⟩ ?_
        simp [work,setTask,remaining,found]
      | ok longer =>
        have called := AsyncTransaction.call_idle self.chainTransaction i action.chain place.2
        refine .once prim around self i (.append i) _
          (by simp only [step,found,appended,called,Option.map_some]; rfl) ⟨trivial,rfl⟩ ?_
        simp [work,setTask,setChainTransaction,remaining,found,AsyncTransaction.setCall,Call.accesses]
    | submitting queue => exact submitting_advances prim around self i nested submission service action queue found
    | attempting queue rest history =>
      exact ⟨i,attempting_advances prim around self i nested submission service action queue rest history found⟩
    | attempted queue result history =>
      exact ⟨i,attempted_advances prim around self i nested submission service action queue result history found⟩
    | stored result history =>
      refine ⟨i,.once prim around self i (.notify i (around.delivered i)) _ (by simp only [step,found]; rfl) ⟨rfl,rfl⟩ ?_⟩
      simp [work,setTask,send,remaining,found]
    | leaving outcome =>
      have finished := AsyncTransaction.finish_inside self.queueTransaction i id lock inside
      refine ⟨i,.once prim around self i (.finish i) _
        (by simp only [step,found,finished,Option.map_some]; rfl) ⟨trivial,rfl⟩ ?_⟩
      simp [work,setTask,setQueueTransaction,remaining,found,AsyncTransaction.setCall,Call.accesses]
    | ended outcome => exact place.1.elim

theorem locking_advances (nested : Nested self) (submission : Submission) (service : Service)
    (action : SubmitAction)
    (found : self.tasks i = some ⟨submission,service,.submit action .locking⟩) :
    ∃ j, Advances prim around j self := by
  have place := nested.located i
  rw [found] at place
  rcases AsyncTransaction.awaits_goes_on self.queueTransaction nested.queue i _ place.1 with
    ⟨lock,inside⟩ | ⟨act,next,access,stepped,less⟩ | ⟨j,other,lock,_,inside⟩
  · exact queue_holder_advances prim around self i nested _ lock inside
  · refine ⟨i,?_⟩
    have lower : (self.setQueueTransaction next).work i < self.work i := by
      simp only [work,setQueueTransaction,remaining,found]
      omega
    obtain ⟨named,rfl⟩ := access_named i act access
    exact .once prim around self i (.queueLock i named) _ (by simp [step,stepped]) ⟨trivial,rfl⟩ lower
  · exact queue_holder_advances prim around self j nested other lock inside

/-- While a task is unfinished, some task can get closer to its end. -/
theorem unfinished_advances (nested : Nested self) (unfinished : 0 < self.work i) :
    ∃ j, Advances prim around j self := by
  have place := nested.located i
  match found : self.tasks i with
  | none => simp [work,remaining,found] at unfinished
  | some ⟨submission,service,.timer delaySecs fired⟩ =>
    cases fired with
    | true => simp [work,remaining,found] at unfinished
    | false =>
      refine ⟨i,.once prim around self i (.fire i (around.delivered i)) _ (by simp only [step,found]; rfl) ⟨rfl,rfl⟩ ?_⟩
      simp [work,setTask,send,remaining,found]
  | some ⟨submission,service,.submit action phase⟩ =>
    rw [found] at place
    cases phase with
    | locking => exact locking_advances prim around self i nested submission service action found
    | ended outcome =>
      simp only [work,remaining,found] at unfinished
      obtain ⟨next,tested,quiet⟩ := left_returns i self.queueTransaction nested.queue place.1 unfinished
      refine ⟨i,.once prim around self i (.queueLock i .testCount) (self.setQueueTransaction next)
        (by simp [step,LockAccess.act,tested]) ⟨trivial,rfl⟩ ?_⟩
      simp only [work,setQueueTransaction,remaining,found]
      omega
    | loaded => obtain ⟨lock,inside⟩ := place.1; exact queue_holder_advances prim around self i nested _ lock inside
    | submitting => obtain ⟨lock,inside⟩ := place.1; exact queue_holder_advances prim around self i nested _ lock inside
    | attempting => obtain ⟨lock,inside⟩ := place.1; exact queue_holder_advances prim around self i nested _ lock inside
    | attempted => obtain ⟨lock,inside⟩ := place.1; exact queue_holder_advances prim around self i nested _ lock inside
    | stored => obtain ⟨lock,inside⟩ := place.1; exact queue_holder_advances prim around self i nested _ lock inside
    | leaving => obtain ⟨lock,inside⟩ := place.1; exact queue_holder_advances prim around self i nested _ lock inside

end Advancing

/-! ## All tasks under way -/

def requested : ActionWork → AggregatorAction
  | .submit action _ => .submit action
  | .timer delaySecs _ => .timer delaySecs

/-- The later task works on what the earlier one was spawned for. -/
def Resumes (task later : ActionTask) : Prop :=
  later.submission = task.submission ∧ later.service = task.service ∧ requested later.work = requested task.work

def Resumed (before after : Submitting ι) : Prop :=
  ∀ i, (before.tasks i = none → after.tasks i = none) ∧
    ∀ task, before.tasks i = some task → ∃ later, after.tasks i = some later ∧ Resumes task later

omit [DecidableEq ι] in
theorem Resumed.refl (self : Submitting ι) : Resumed self self :=
  fun _ => ⟨id,fun task found => ⟨task,found,rfl,rfl,rfl⟩⟩

omit [DecidableEq ι] in
theorem Resumed.trans (first second third : Submitting ι) (before : Resumed first second)
    (after : Resumed second third) : Resumed first third := by
  intro i
  refine ⟨fun absent => (after i).1 ((before i).1 absent),?_⟩
  intro task found
  obtain ⟨middle,held,a,b,c⟩ := (before i).2 task found
  obtain ⟨later,kept,d,e,f⟩ := (after i).2 middle held
  exact ⟨later,kept,d.trans a,e.trans b,f.trans c⟩

theorem resumed_setTask (self after : Submitting ι) (i : ι) (task later : ActionTask)
    (found : self.tasks i = some task) (tasks : after.tasks = Function.update self.tasks i (some later))
    (resumes : Resumes task later) : Resumed self after := by
  intro j
  rw [tasks]
  by_cases same : j = i
  · subst same
    rw [Function.update_self,found]
    refine ⟨nofun,?_⟩
    intro other held
    cases held
    exact ⟨later,rfl,resumes⟩
  · rw [Function.update_of_ne same]
    exact Resumed.refl self j

def spawned : Act ι → Option ι
  | .spawn i _ _ _ => some i
  | _ => none

omit [DecidableEq ι] in
theorem Continues.spawned {around : Surroundings ι} {act : Act ι} (continues : Continues around act) :
    spawned act = none := by
  cases act with
  | spawn => exact continues.elim
  | _ => rfl

theorem step_resumed (self : Submitting ι) (act : Act ι) (next : Submitting ι)
    (taken : self.step prim act = some next) (going : spawned act = none) : Resumed self next := by
  cases step_taken prim self act next taken with
  | submit => cases going
  | timer => cases going
  | cleanup => exact .refl self
  | queueLock => exact .refl self
  | chainLock => exact .refl self
  | load i submission service action key lock locking entered =>
    exact resumed_setTask self _ i _ _ locking rfl ⟨rfl,rfl,rfl⟩
  | unappended i submission service action queue error loaded failed =>
    exact resumed_setTask self _ i _ _ loaded rfl ⟨rfl,rfl,rfl⟩
  | appended i submission service action queue longer transaction loaded done called =>
    exact resumed_setTask self _ i _ _ loaded rfl ⟨rfl,rfl,rfl⟩
  | enter i submission service action queue key lock submitting entered =>
    exact resumed_setTask self _ i _ _ submitting rfl ⟨rfl,rfl,rfl⟩
  | answer i submission service action queue rest later history reply attempting resumed =>
    exact resumed_setTask self _ i _ _ attempting rfl ⟨rfl,rfl,rfl⟩
  | leaveChain i submission service action queue result history transaction attempting finished =>
    exact resumed_setTask self _ i _ _ attempting rfl ⟨rfl,rfl,rfl⟩
  | store i submission service action queue result history now attempted left =>
    exact resumed_setTask self _ i _ _ attempted rfl ⟨rfl,rfl,rfl⟩
  | notify i submission service action result history delivered stored =>
    exact resumed_setTask self _ i _ _ stored rfl ⟨rfl,rfl,rfl⟩
  | finish i submission service action outcome transaction leaving finished =>
    exact resumed_setTask self _ i _ _ leaving rfl ⟨rfl,rfl,rfl⟩
  | fire i submission service delaySecs delivered sleeping =>
    exact resumed_setTask self _ i _ _ sleeping rfl ⟨rfl,rfl,rfl⟩

/-- Progress of one task leaves the work of the others as it is. -/
theorem advances_total (around : Surroundings ι) (self : Submitting ι) (ids : Finset ι) (j : ι) (member : j ∈ ids)
    (advances : Advances prim around j self) :
    CanReach (step prim) (Continues around) (fun next => ∑ i ∈ ids, next.work i < ∑ i ∈ ids, self.work i) self := by
  let aside : Submitting ι → Prop := fun next => ∀ k, k ≠ j → next.work k = self.work k
  have keeps : ∀ state act next, step prim state act = some next → Own around j act → aside state → aside next := by
    intro state act next taken own kept k differ
    obtain ⟨task,queue,chain⟩ := step_others prim state act next taken j k own.2 differ
    rw [← kept k differ]
    simp only [work,task,queue,chain]
  refine (advances.keeping aside keeps self (fun _ _ => rfl)).mono self (fun _ own => own.1) ?_
  intro final reached
  obtain ⟨kept,less⟩ := reached
  refine Finset.sum_lt_sum ?_ ⟨j,member,less⟩
  intro i _
  by_cases same : i = j
  · subst same
    exact less.le
  · exact (kept i same).le

/-- Only a spawn adds a task. -/
theorem step_spawned (past : List (Act ι)) (self : Submitting ι) (act : Act ι) (next : Submitting ι)
    (taken : self.step prim act = some next)
    (known : ∀ i, self.tasks i ≠ none → i ∈ (past.filterMap spawned).toFinset) :
    ∀ i, next.tasks i ≠ none → i ∈ ((past ++ [act]).filterMap spawned).toFinset := by
  intro i present
  simp only [List.filterMap_append,List.toFinset_append,Finset.mem_union]
  cases spawns : spawned act with
  | none =>
    refine .inl (known i ?_)
    intro absent
    exact present ((step_resumed prim self act next taken spawns i).1 absent)
  | some k =>
    by_cases same : i = k
    · subst same
      exact .inr (by simp [spawns])
    · have actor : act.task = some k := by
        cases act <;> simp only [spawned,reduceCtorEq] at spawns
        exact spawns
      rw [(step_others prim self act next taken k i actor same).1] at present
      exact .inl (known i present)

/-- From every state that an interleaving reaches, and whatever the surroundings answer,
the tasks under way can all be brought to their end, which frees every mutex. -/
theorem run_tasks_complete (around : Surroundings ι) (ttlSecs : UInt64) (acts : List (Act ι)) (state : Submitting ι)
    (reached : run (step prim) (new ttlSecs) acts = some state) :
    CanReach (step prim) (Continues around) (fun final =>
      (∀ i task, state.tasks i = some task → ∃ ended, final.tasks i = some ended ∧ Resumes task ended ∧ Ended ended) ∧
      (∀ lock, final.queueTransaction.guards lock = none) ∧
      ∀ lock, final.chainTransaction.guards lock = none) state := by
  let ids : Finset ι := (acts.filterMap spawned).toFinset
  have known : ∀ i, state.tasks i ≠ none → i ∈ ids :=
    invariant_history (fun past self => ∀ i, self.tasks i ≠ none → i ∈ (past.filterMap spawned).toFinset)
      (fun past self act next taken held => step_spawned prim past self act next taken held) (new ttlSecs) state acts
      reached (fun i present => absurd rfl present)
  let inv : Submitting ι → Prop := fun now => Nested now ∧ Resumed state now
  have keeps : ∀ now act next, step prim now act = some next → Continues around act → inv now → inv next := by
    intro now act next taken continues kept
    exact ⟨step_nested prim now act next taken kept.1,
      .trans state now next kept.2 (step_resumed prim now act next taken continues.spawned)⟩
  have absent : ∀ now, inv now → ∀ i, i ∉ ids → now.tasks i = none := by
    intro now kept i outside
    by_cases present : state.tasks i = none
    · exact (kept.2 i).1 present
    · exact absurd (known i present) outside
  have lowers : ∀ now, inv now → 0 < ∑ i ∈ ids, now.work i →
      CanReach (step prim) (Continues around) (fun next => ∑ i ∈ ids, next.work i < ∑ i ∈ ids, now.work i) now := by
    intro now kept unfinished
    obtain ⟨i,_,busy⟩ := Finset.sum_pos_iff.mp unfinished
    obtain ⟨j,advances⟩ := unfinished_advances prim around now i kept.1 busy
    refine advances_total prim around now ids j ?_ advances
    by_contra outside
    obtain ⟨_,_,_,_,less⟩ := advances
    simp [work,remaining,absent now kept j outside] at less
  have start : inv state := ⟨run_nested prim ttlSecs acts state reached,.refl state⟩
  refine (CanReach.of_measure inv _ keeps lowers state start).mono state (fun _ may => may) ?_
  intro final done
  obtain ⟨⟨nested,resumed⟩,finished⟩ := done
  have settled : ∀ i, (∀ given, final.tasks i = some given → Ended given) ∧
      (final.queueTransaction.calls i = .idle ∨ final.queueTransaction.calls i = .returned) ∧
        (final.chainTransaction.calls i = .idle ∨ final.chainTransaction.calls i = .returned) := by
    intro i
    refine remaining_ended _ _ _ (nested.located i) ?_
    by_cases member : i ∈ ids
    · exact Finset.sum_eq_zero_iff.mp finished i member
    · simp [remaining,absent final ⟨nested,resumed⟩ i member]
  refine ⟨?_,?_,?_⟩
  · intro i task found
    obtain ⟨later,held,resumes⟩ := (resumed i).2 task found
    exact ⟨later,held,resumes,(settled i).1 later held⟩
  · exact AsyncTransaction.tended_free _ nested.queue (fun i => (settled i).2.1)
  · exact AsyncTransaction.tended_free _ nested.chain (fun i => (settled i).2.2)

/-- Nothing is pinned, configured or cached, and every call fails. -/
def refusal : (query : Query) → query.Answer
  | .pinnedReferenceBlock _ => none
  | .chainConfig _ => none
  | .stellarVerifier _ => none
  | .evmSubmissionClient _ => false
  | .cosmosSubmissionClient _ => false
  | .credential _ => false
  | .evmValidate _ _ _ _ _ => .error (.other "unreachable")
  | .evmQueryClient _ => .error "unreachable"
  | .ethBlockNumber _ => .error "unreachable"
  | .getLatestOperatorForSigningKey _ _ _ _ => .error "unreachable"
  | .getOperatorWeight _ _ _ _ => .error "unreachable"
  | .cosmosQueryClient _ => .error "unreachable"
  | .cosmosBlockHeight _ => .error "unreachable"
  | .warpDriveLatestOperatorForSigningKey _ _ _ => .error "unreachable"
  | .warpDriveOperatorWeight _ _ _ => .error "unreachable"
  | .sorobanEnv _ => .error "unreachable"
  | .stellarRpcClient _ => .error "unreachable"
  | .getLatestLedger _ => .error "unreachable"
  | .checkOneSecp256k1 _ _ _ _ _ _ => .error "unreachable"
  | .checkOneEd25519 _ _ _ _ _ _ => .error "unreachable"
  | .signingClientConfig _ => .error "unreachable"
  | .newEvmSigningClient _ => .error "unreachable"
  | .newCosmosSigningClient _ => .error "unreachable"
  | .parseStellarCredential => .error "unreachable"
  | .getServiceManager _ _ => .error "unreachable"
  | .sendEnvelopeSignatures _ _ _ _ _ => .error "unreachable"
  | .warpDriveServiceManager _ _ => .error "unreachable"
  | .warpDriveValidate _ _ _ _ _ => .error "unreachable"
  | .warpDriveHandleSignedEnvelope _ _ _ _ => .error "unreachable"
  | .verifyEth _ _ _ _ _ _ => .error "unreachable"
  | .verifyXlm _ _ _ _ _ _ => .error "unreachable"

def offline : Surroundings Caller := ⟨fun _ => refusal,fun _ => 1000,fun _ => true⟩

/-- The two tasks of one chain, the second waiting for the first. -/
theorem sharedChain_completes :
    ∃ state, run (step deployedPrimitives) (new 172800) sharedChain = some state ∧
      CanReach (step deployedPrimitives) (Continues offline) (fun final =>
        (∀ i task, state.tasks i = some task →
          ∃ ended, final.tasks i = some ended ∧ Resumes task ended ∧ Ended ended) ∧
        (∀ lock, final.queueTransaction.guards lock = none) ∧
        ∀ lock, final.chainTransaction.guards lock = none) state := by
  obtain ⟨state,reached,_⟩ := run_any (step deployedPrimitives) (new 172800) sharedChain attemptsLocally
    (by decide +kernel)
  exact ⟨state,reached,run_tasks_complete deployedPrimitives offline 172800 sharedChain state reached⟩

end Warpdrive.Aggregator.Submitting
