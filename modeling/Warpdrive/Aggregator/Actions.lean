import Warpdrive.Aggregator.Submit
import Warpdrive.Aggregator.Queue
import Warpdrive.Utils.AsyncTransaction

/-! The tasks of `AggregatorCommand::Actions` (`Aggregator::handle_dispatcher_command`
and `Aggregator::handle_submit_action`) with the clean-up of burned queues. Every task
is cut at its await points, so that a list of actions is one interleaving of any number
of tasks. A submit task is `locking` until `queue_transaction` lets its closure run,
`loaded` with the queue it read, `submitting` with the appended queue until
`chain_transaction` lets the attempt run, `attempting` while the attempt runs with the
answers it has been given, `attempted` until its result is stored, `stored` until the
callback is sent, `leaving` when only the transaction is left to end and `ended` after
that. Joining a blocking thread and the in-memory insert do not fail. One task runs the
clean-up, so that no two of them are under way at a time. -/
namespace Warpdrive.Aggregator
open Warpdrive.Foundation Warpdrive.Foundation.Execution Warpdrive.Types Warpdrive.Utils

def AnyTransactionReceipt.hash : AnyTransactionReceipt → AnyTxHash
  | .evm transactionHash => .evm transactionHash.toList
  | .cosmos txHash => .cosmos txHash
  | .stellar txHash => .stellar txHash

abbrev Attempted := Except AggregatorError AnyTransactionReceipt

inductive SubmitOutcome
  | burned (timestamp : UInt64)
  | unappended (error : AggregatorError)
  | finished (result : Attempted) (history : History Query.Answer) (delivered : Bool)

inductive SubmitPhase
  | locking
  | loaded (queue : List Submission)
  | submitting (queue : List Submission)
  | attempting (queue : List Submission) (rest : Fallible AnyTransactionReceipt)
      (history : History Query.Answer)
  | attempted (queue : List Submission) (result : Attempted) (history : History Query.Answer)
  | stored (result : Attempted) (history : History Query.Answer)
  | leaving (outcome : SubmitOutcome)
  | ended (outcome : SubmitOutcome)

inductive ActionWork
  | submit (action : SubmitAction) (phase : SubmitPhase)
  | timer (delaySecs : UInt64) (fired : Bool)

structure ActionTask where
  submission : Submission
  service : Service
  work : ActionWork

structure Submitting (ι : Type) where
  burnedQueueTtlSecs : UInt64
  quorumQueues : QuorumQueues
  cleanup : Cleanup
  queueTransaction : AsyncTransaction QuorumQueueId ι
  chainTransaction : AsyncTransaction ChainKey ι
  tasks : ι → Option ActionTask
  callbacks : List AggregatorExecute

namespace Submitting

variable {ι : Type}

def new (burnedQueueTtlSecs : UInt64) : Submitting ι where
  burnedQueueTtlSecs := burnedQueueTtlSecs
  quorumQueues := .new
  cleanup := .idle
  queueTransaction := .new false
  chainTransaction := .new false
  tasks := fun _ => none
  callbacks := []

/-- The accesses of a transaction to its registry and its mutex that the executor makes
on its own. -/
inductive LockAccess
  | read
  | write
  | lock
  | testCount

def LockAccess.act {K : Type} (i : ι) : LockAccess → AsyncTransaction.Act K ι
  | .read => .read i
  | .write => .write i
  | .lock => .lock i
  | .testCount => .testCount i

inductive Act (ι : Type)
  | spawn (i : ι) (submission : Submission) (service : Service) (action : AggregatorAction)
  | queueLock (i : ι) (access : LockAccess)
  | load (i : ι)
  | append (i : ι)
  | chainLock (i : ι) (access : LockAccess)
  | enter (i : ι)
  | answer (i : ι) (reply : Reply)
  | leaveChain (i : ι)
  | store (i : ι) (now : UInt64)
  | notify (i : ι) (delivered : Bool)
  | finish (i : ι)
  | fire (i : ι) (delivered : Bool)
  | cleanup (act : Cleanup.Act)

variable [DecidableEq ι] (prim : Primitives)

def setTask (self : Submitting ι) (i : ι) (task : ActionTask) : Submitting ι :=
  {self with tasks := Function.update self.tasks i (some task)}

def send (self : Submitting ι) (delivered : Bool) (command : AggregatorExecute) : Submitting ι :=
  {self with callbacks := if delivered then self.callbacks ++ [command] else self.callbacks}

def setQueues (self : Submitting ι) (queues : QuorumQueues) : Submitting ι :=
  {self with quorumQueues := queues}

def setCleanup (self : Submitting ι) (queues : QuorumQueues) (cleanup : Cleanup) : Submitting ι :=
  {self with quorumQueues := queues, cleanup := cleanup}

/-- The queue that the action cleans up. -/
def removed (self : Submitting ι) : Act ι → Option QuorumQueueId
  | .cleanup act => self.cleanup.removed act
  | _ => none

def setQueueTransaction (self : Submitting ι) (transaction : AsyncTransaction QuorumQueueId ι) :
    Submitting ι :=
  {self with queueTransaction := transaction}

def setChainTransaction (self : Submitting ι) (transaction : AsyncTransaction ChainKey ι) : Submitting ι :=
  {self with chainTransaction := transaction}

/-- A burned queue ends the task. -/
def opened : QuorumQueue → SubmitPhase
  | .burned timestamp => .leaving (.burned timestamp)
  | .active submissions => .loaded submissions

/-- A successful attempt burns the queue, and any error saves it as appended. -/
def storeResult (queues : QuorumQueues) (queueId : QuorumQueueId) (queue : List Submission)
    (now : UInt64) : Attempted → QuorumQueues
  | .ok _ => burnQuorumQueue queues queueId now
  | .error _ => saveQuorumQueue queues queueId queue

def step (self : Submitting ι) : Act ι → Option (Submitting ι)
  | .spawn i submission service action =>
    match self.tasks i with
    | some _ => none
    | none =>
      match action with
      | .submit action =>
        (self.queueTransaction.step (.call i ⟨submission.eventId,action⟩)).map (fun transaction =>
          (self.setQueueTransaction transaction).setTask i ⟨submission,service,.submit action .locking⟩)
      | .timer delaySecs => some (self.setTask i ⟨submission,service,.timer delaySecs false⟩)
  | .queueLock i access => (self.queueTransaction.step (access.act i)).map self.setQueueTransaction
  | .load i =>
    match self.tasks i,self.queueTransaction.calls i with
    | some ⟨submission,service,.submit action .locking⟩,.critical _ _ =>
      some (self.setTask i ⟨submission,service,.submit action
        (opened (getQuorumQueue self.quorumQueues ⟨submission.eventId,action⟩))⟩)
    | _,_ => none
  | .append i =>
    match self.tasks i with
    | some ⟨submission,service,.submit action (.loaded queue)⟩ =>
      match appendSubmissionToQueue prim ⟨submission.eventId,action⟩ queue submission with
      | .error error => some (self.setTask i ⟨submission,service,.submit action (.leaving (.unappended error))⟩)
      | .ok queue => (self.chainTransaction.step (.call i action.chain)).map (fun transaction =>
          (self.setChainTransaction transaction).setTask i
            ⟨submission,service,.submit action (.submitting queue)⟩)
    | _ => none
  | .chainLock i access => (self.chainTransaction.step (access.act i)).map self.setChainTransaction
  | .enter i =>
    match self.tasks i,self.chainTransaction.calls i with
    | some ⟨submission,service,.submit action (.submitting queue)⟩,.critical _ _ =>
      some (self.setTask i ⟨submission,service,.submit action
        (.attempting queue (attempt prim service queue action) [])⟩)
    | _,_ => none
  | .answer i reply =>
    match self.tasks i with
    | some ⟨submission,service,.submit action (.attempting queue rest history)⟩ =>
      (rest.resume reply).map (fun rest => self.setTask i
        ⟨submission,service,.submit action (.attempting queue rest (history ++ [reply]))⟩)
    | _ => none
  | .leaveChain i =>
    match self.tasks i with
    | some ⟨submission,service,.submit action (.attempting queue (.returned result) history)⟩ =>
      (self.chainTransaction.step (.finish i)).map (fun transaction =>
        (self.setChainTransaction transaction).setTask i
          ⟨submission,service,.submit action (.attempted queue result history)⟩)
    | _ => none
  | .store i now =>
    match self.tasks i,self.chainTransaction.calls i with
    | some ⟨submission,service,.submit action (.attempted queue result history)⟩,.returned =>
      some ((self.setQueues (storeResult self.quorumQueues ⟨submission.eventId,action⟩ queue now result)).setTask
        i ⟨submission,service,.submit action (.stored result history)⟩)
    | _,_ => none
  | .notify i delivered =>
    match self.tasks i with
    | some ⟨submission,service,.submit action (.stored result history)⟩ =>
      some ((self.send delivered ⟨submission,service,.submitCallback (result.map (·.hash))⟩).setTask i
        ⟨submission,service,.submit action (.leaving (.finished result history delivered))⟩)
    | _ => none
  | .finish i =>
    match self.tasks i with
    | some ⟨submission,service,.submit action (.leaving outcome)⟩ =>
      (self.queueTransaction.step (.finish i)).map (fun transaction =>
        (self.setQueueTransaction transaction).setTask i ⟨submission,service,.submit action (.ended outcome)⟩)
    | _ => none
  | .fire i delivered =>
    match self.tasks i with
    | some ⟨submission,service,.timer delaySecs false⟩ =>
      some ((self.send delivered ⟨submission,service,.timerCallback⟩).setTask i
        ⟨submission,service,.timer delaySecs true⟩)
    | _ => none
  | .cleanup act => (self.cleanup.step self.burnedQueueTtlSecs self.quorumQueues act).map
      (fun cleaned => self.setCleanup cleaned.1 cleaned.2)

/-- Everything that one action can do. -/
inductive Taken (self : Submitting ι) : Act ι → Submitting ι → Prop
  | submit (i submission service action transaction) (fresh : self.tasks i = none)
      (called : self.queueTransaction.step (.call i ⟨submission.eventId,action⟩) = some transaction) :
      Taken self (.spawn i submission service (.submit action))
        ((self.setQueueTransaction transaction).setTask i ⟨submission,service,.submit action .locking⟩)
  | timer (i submission service delaySecs) (fresh : self.tasks i = none) :
      Taken self (.spawn i submission service (.timer delaySecs))
        (self.setTask i ⟨submission,service,.timer delaySecs false⟩)
  | queueLock (i access transaction)
      (accessed : self.queueTransaction.step (LockAccess.act i access) = some transaction) :
      Taken self (.queueLock i access) (self.setQueueTransaction transaction)
  | load (i submission service action key lock)
      (found : self.tasks i = some ⟨submission,service,.submit action .locking⟩)
      (entered : self.queueTransaction.calls i = .critical key lock) :
      Taken self (.load i) (self.setTask i ⟨submission,service,.submit action
        (opened (getQuorumQueue self.quorumQueues ⟨submission.eventId,action⟩))⟩)
  | unappended (i submission service action queue error)
      (found : self.tasks i = some ⟨submission,service,.submit action (.loaded queue)⟩)
      (failed : appendSubmissionToQueue prim ⟨submission.eventId,action⟩ queue submission = .error error) :
      Taken self (.append i)
        (self.setTask i ⟨submission,service,.submit action (.leaving (.unappended error))⟩)
  | appended (i submission service action queue longer transaction)
      (found : self.tasks i = some ⟨submission,service,.submit action (.loaded queue)⟩)
      (done : appendSubmissionToQueue prim ⟨submission.eventId,action⟩ queue submission = .ok longer)
      (called : self.chainTransaction.step (.call i action.chain) = some transaction) :
      Taken self (.append i) ((self.setChainTransaction transaction).setTask i
        ⟨submission,service,.submit action (.submitting longer)⟩)
  | chainLock (i access transaction)
      (accessed : self.chainTransaction.step (LockAccess.act i access) = some transaction) :
      Taken self (.chainLock i access) (self.setChainTransaction transaction)
  | enter (i submission service action queue key lock)
      (found : self.tasks i = some ⟨submission,service,.submit action (.submitting queue)⟩)
      (entered : self.chainTransaction.calls i = .critical key lock) :
      Taken self (.enter i) (self.setTask i ⟨submission,service,.submit action
        (.attempting queue (attempt prim service queue action) [])⟩)
  | answer (i submission service action queue rest next history reply)
      (found : self.tasks i = some ⟨submission,service,.submit action (.attempting queue rest history)⟩)
      (resumed : rest.resume reply = some next) :
      Taken self (.answer i reply) (self.setTask i
        ⟨submission,service,.submit action (.attempting queue next (history ++ [reply]))⟩)
  | leaveChain (i submission service action queue result history transaction)
      (found : self.tasks i = some ⟨submission,service,.submit action
        (.attempting queue (.returned result) history)⟩)
      (finished : self.chainTransaction.step (.finish i) = some transaction) :
      Taken self (.leaveChain i) ((self.setChainTransaction transaction).setTask i
        ⟨submission,service,.submit action (.attempted queue result history)⟩)
  | store (i submission service action queue result history now)
      (found : self.tasks i = some ⟨submission,service,.submit action (.attempted queue result history)⟩)
      (left : self.chainTransaction.calls i = .returned) :
      Taken self (.store i now)
        ((self.setQueues (storeResult self.quorumQueues ⟨submission.eventId,action⟩ queue now result)).setTask
          i ⟨submission,service,.submit action (.stored result history)⟩)
  | notify (i submission service action result history delivered)
      (found : self.tasks i = some ⟨submission,service,.submit action (.stored result history)⟩) :
      Taken self (.notify i delivered)
        ((self.send delivered ⟨submission,service,.submitCallback (result.map (·.hash))⟩).setTask i
          ⟨submission,service,.submit action (.leaving (.finished result history delivered))⟩)
  | finish (i submission service action outcome transaction)
      (found : self.tasks i = some ⟨submission,service,.submit action (.leaving outcome)⟩)
      (finished : self.queueTransaction.step (.finish i) = some transaction) :
      Taken self (.finish i) ((self.setQueueTransaction transaction).setTask i
        ⟨submission,service,.submit action (.ended outcome)⟩)
  | fire (i submission service delaySecs delivered)
      (found : self.tasks i = some ⟨submission,service,.timer delaySecs false⟩) :
      Taken self (.fire i delivered) ((self.send delivered ⟨submission,service,.timerCallback⟩).setTask i
        ⟨submission,service,.timer delaySecs true⟩)
  | cleanup (act queues cleanup)
      (cleaned : self.cleanup.step self.burnedQueueTtlSecs self.quorumQueues act = some (queues,cleanup)) :
      Taken self (.cleanup act) (self.setCleanup queues cleanup)

theorem step_taken (self : Submitting ι) (act : Act ι) (next : Submitting ι)
    (taken : self.step prim act = some next) : Taken prim self act next := by
  cases act with
  | spawn i submission service action =>
    simp only [step] at taken
    split at taken
    next => contradiction
    next fresh =>
      cases action with
      | submit action =>
        simp only [Option.map_eq_some_iff] at taken
        obtain ⟨transaction,called,same⟩ := taken
        subst same
        exact .submit i submission service action transaction fresh called
      | timer delaySecs =>
        cases taken
        exact .timer i submission service delaySecs fresh
  | queueLock i access =>
    simp only [step,Option.map_eq_some_iff] at taken
    obtain ⟨transaction,accessed,same⟩ := taken
    subst same
    exact .queueLock i access transaction accessed
  | load i =>
    simp only [step] at taken
    split at taken
    next submission service action key lock found entered =>
      cases taken
      exact .load i submission service action key lock found entered
    next => contradiction
  | append i =>
    simp only [step] at taken
    split at taken
    next submission service action queue found =>
      split at taken
      next error failed =>
        cases taken
        exact .unappended i submission service action queue error found failed
      next longer done =>
        simp only [Option.map_eq_some_iff] at taken
        obtain ⟨transaction,called,same⟩ := taken
        subst same
        exact .appended i submission service action queue longer transaction found done called
    next => contradiction
  | chainLock i access =>
    simp only [step,Option.map_eq_some_iff] at taken
    obtain ⟨transaction,accessed,same⟩ := taken
    subst same
    exact .chainLock i access transaction accessed
  | enter i =>
    simp only [step] at taken
    split at taken
    next submission service action queue key lock found entered =>
      cases taken
      exact .enter i submission service action queue key lock found entered
    next => contradiction
  | answer i reply =>
    simp only [step] at taken
    split at taken
    next submission service action queue rest history found =>
      simp only [Option.map_eq_some_iff] at taken
      obtain ⟨later,resumed,same⟩ := taken
      subst same
      exact .answer i submission service action queue rest later history reply found resumed
    next => contradiction
  | leaveChain i =>
    simp only [step] at taken
    split at taken
    next submission service action queue result history found =>
      simp only [Option.map_eq_some_iff] at taken
      obtain ⟨transaction,finished,same⟩ := taken
      subst same
      exact .leaveChain i submission service action queue result history transaction found finished
    next => contradiction
  | store i now =>
    simp only [step] at taken
    split at taken
    next submission service action queue result history found left =>
      cases taken
      exact .store i submission service action queue result history now found left
    next => contradiction
  | notify i delivered =>
    simp only [step] at taken
    split at taken
    next submission service action result history found =>
      cases taken
      exact .notify i submission service action result history delivered found
    next => contradiction
  | finish i =>
    simp only [step] at taken
    split at taken
    next submission service action outcome found =>
      simp only [Option.map_eq_some_iff] at taken
      obtain ⟨transaction,finished,same⟩ := taken
      subst same
      exact .finish i submission service action outcome transaction found finished
    next => contradiction
  | fire i delivered =>
    simp only [step] at taken
    split at taken
    next submission service delaySecs found =>
      cases taken
      exact .fire i submission service delaySecs delivered found
    next => contradiction
  | cleanup act =>
    simp only [step,Option.map_eq_some_iff] at taken
    obtain ⟨⟨queues,cleanup⟩,cleaned,same⟩ := taken
    subst same
    exact .cleanup act queues cleanup cleaned

theorem forall_setTask (self : Submitting ι) (holds : ι → ActionTask → Prop) (i : ι) (task : ActionTask)
    (own : holds i task) (others : ∀ j other, j ≠ i → self.tasks j = some other → holds j other) :
    ∀ j other, (self.setTask i task).tasks j = some other → holds j other := by
  intro j other found
  by_cases same : j = i
  · subst j
    simp only [setTask,Function.update_self,Option.some.injEq] at found
    subst found
    exact own
  · simp only [setTask,Function.update_of_ne same] at found
    exact others j other same found

end Submitting
end Warpdrive.Aggregator
