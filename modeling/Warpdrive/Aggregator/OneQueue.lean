import Warpdrive.Aggregator.Provenance

/-! Votes for one effect on a chain. A queue is keyed by its event and the whole action, so actions
of one destination and one gas price share a queue, which keeps the signers of every failed attempt
and is submitted once until the clean-up removes it. Actions that differ in their gas price do not
share it. -/
namespace Warpdrive.Types

/-- Where a submission goes. -/
inductive Destination
  | evm (chain : ChainKey) (address : Address)
  | cosmos (chain : ChainKey) (address : CosmosAddr)
  | stellar (chain : ChainKey) (address : FixedBytes 32)
  deriving DecidableEq

namespace SubmitAction

def destination : SubmitAction → Destination
  | .evm action => .evm action.chain action.address
  | .cosmos action => .cosmos action.chain action.address
  | .stellar action => .stellar action.chain action.address

def gasPrice : SubmitAction → Option Nat
  | .evm action => action.gasPrice
  | .cosmos action => action.gasPrice
  | .stellar _ => none

theorem eq_iff (first second : SubmitAction) :
    first = second ↔ first.destination = second.destination ∧ first.gasPrice = second.gasPrice := by
  constructor
  · rintro rfl
    exact ⟨rfl,rfl⟩
  · rintro ⟨destination,gasPrice⟩
    cases first with
    | evm action =>
      cases second with
      | evm other =>
        obtain ⟨chain,address,price⟩ := action
        cases destination
        cases gasPrice
        rfl
      | cosmos other => cases destination
      | stellar other => cases destination
    | cosmos action =>
      cases second with
      | cosmos other =>
        obtain ⟨chain,address,price⟩ := action
        cases destination
        cases gasPrice
        rfl
      | evm other => cases destination
      | stellar other => cases destination
    | stellar action =>
      cases second with
      | stellar other =>
        obtain ⟨chain,address⟩ := action
        cases destination
        rfl
      | evm other => cases destination
      | cosmos other => cases destination

end SubmitAction
end Warpdrive.Types

namespace Warpdrive.Aggregator

open Warpdrive.Foundation Warpdrive.Foundation.Execution Warpdrive.Types Warpdrive.Utils

/-- The Submit action of the task. -/
def ActionTask.submits (self : ActionTask) : Option SubmitAction :=
  match self.work with
  | .submit action _ => some action
  | .timer _ _ => none

def ActionTask.queueId (self : ActionTask) : Option QuorumQueueId :=
  self.submits.map (fun action => ⟨self.submission.eventId,action⟩)

/-- The attempt of the task has ended with a receipt. -/
def ActionTask.succeeded (self : ActionTask) : Bool :=
  match self.work with
  | .submit _ (.attempting _ (.returned (.ok _)) _) => true
  | .submit _ (.attempted _ (.ok _) _) => true
  | .submit _ (.stored (.ok _) _) => true
  | .submit _ (.leaving (.finished (.ok _) _ _)) => true
  | .submit _ (.ended (.finished (.ok _) _ _)) => true
  | _ => false

variable {ι : Type} [DecidableEq ι] (prim : Primitives)

namespace Submitting

/-- The queue that the task has burned. -/
def burnedQueue (task : ActionTask) : Option QuorumQueueId :=
  match task.work with
  | .submit action (.stored (.ok _) _) => some ⟨task.submission.eventId,action⟩
  | .submit action (.leaving (.finished (.ok _) _ _)) => some ⟨task.submission.eventId,action⟩
  | .submit action (.ended (.finished (.ok _) _ _)) => some ⟨task.submission.eventId,action⟩
  | _ => none

theorem succeeded_cases (task : ActionTask) (id : QuorumQueueId) (succeeded : task.succeeded = true)
    (queued : task.queueId = some id) : openQueue task = some id ∨ burnedQueue task = some id := by
  obtain ⟨submission,service,work⟩ := task
  unfold ActionTask.succeeded at succeeded
  dsimp only at succeeded
  split at succeeded
  · cases queued
    exact .inl rfl
  · cases queued
    exact .inl rfl
  · cases queued
    exact .inr rfl
  · cases queued
    exact .inr rfl
  · cases queued
    exact .inr rfl
  · cases succeeded

/-- A task burns a queue in the step that stores its receipt. -/
theorem step_burnedQueue (self : Submitting ι) (act : Act ι) (next : Submitting ι)
    (taken : self.step prim act = some next) (id : QuorumQueueId) :
    ∀ j task, next.tasks j = some task → burnedQueue task = some id →
      (∃ before, self.tasks j = some before ∧ burnedQueue before = some id) ∨
        ∃ submission service action queue receipt history now, act = .store j now ∧
          self.tasks j = some ⟨submission,service,.submit action (.attempted queue (.ok receipt) history)⟩ ∧
          id = ⟨submission.eventId,action⟩ := by
  let holds : ι → ActionTask → Prop := fun j task => burnedQueue task = some id →
    (∃ before, self.tasks j = some before ∧ burnedQueue before = some id) ∨
      ∃ submission service action queue receipt history now, act = .store j now ∧
        self.tasks j = some ⟨submission,service,.submit action (.attempted queue (.ok receipt) history)⟩ ∧
        id = ⟨submission.eventId,action⟩
  have kept : ∀ j task, self.tasks j = some task → holds j task :=
    fun j task found burned => .inl ⟨task,found,burned⟩
  have others : ∀ i j task, j ≠ i → self.tasks j = some task → holds j task :=
    fun _ j task _ => kept j task
  have unburned : ∀ j task, burnedQueue task = none → holds j task := by
    intro j task none burned
    rw [none] at burned
    cases burned
  cases step_taken prim self act next taken with
  | submit i => exact forall_setTask _ holds i _ (unburned i _ rfl) (others i)
  | timer i => exact forall_setTask self holds i _ (unburned i _ rfl) (others i)
  | queueLock => exact kept
  | load i submission service action key lock locking entered =>
    refine forall_setTask self holds i _ ?_ (others i)
    cases stored : getQuorumQueue self.quorumQueues ⟨submission.eventId,action⟩ with
    | burned timestamp => exact unburned i _ rfl
    | active queue => exact unburned i _ rfl
  | unappended i => exact forall_setTask self holds i _ (unburned i _ rfl) (others i)
  | appended i => exact forall_setTask _ holds i _ (unburned i _ rfl) (others i)
  | chainLock => exact kept
  | enter i => exact forall_setTask self holds i _ (unburned i _ rfl) (others i)
  | answer i => exact forall_setTask self holds i _ (unburned i _ rfl) (others i)
  | leaveChain i => exact forall_setTask _ holds i _ (unburned i _ rfl) (others i)
  | store i submission service action queue result history now attempted left =>
    refine forall_setTask (self.setQueues _) holds i _ ?_ (others i)
    intro burned
    cases result with
    | error error => cases burned
    | ok receipt =>
      cases burned
      exact .inr ⟨submission,service,action,queue,receipt,history,now,rfl,attempted,rfl⟩
  | notify i submission service action result history delivered stored =>
    refine forall_setTask _ holds i _ ?_ (others i)
    cases result with
    | error error => exact unburned i _ rfl
    | ok receipt =>
      have own := kept i _ stored
      exact own
  | finish i submission service action outcome transaction leaving finished =>
    refine forall_setTask _ holds i _ ?_ (others i)
    cases outcome with
    | burned timestamp => exact unburned i _ rfl
    | unappended error => exact unburned i _ rfl
    | finished result history delivered =>
      cases result with
      | error error => exact unburned i _ rfl
      | ok receipt =>
        have own := kept i _ leaving
        exact own
  | fire i => exact forall_setTask _ holds i _ (unburned i _ rfl) (others i)
  | cleanup => exact kept

/-- What the tasks of one queue have come to: at most one has burned it, and then it is stored as
burned, and it holds the signers of the attempts that failed. -/
structure Settled (id : QuorumQueueId) (state : Submitting ι) : Prop where
  serial : Serial prim state
  retained : state.RetainedIn prim id
  burned : ∀ i task, state.tasks i = some task → burnedQueue task = some id →
    ∃ timestamp, state.quorumQueues.getCloned id = some (.burned timestamp)
  single : ∀ i j first second, state.tasks i = some first → state.tasks j = some second →
    burnedQueue first = some id → burnedQueue second = some id → i = j

omit [DecidableEq ι] in
theorem new_settled (id : QuorumQueueId) (ttlSecs : UInt64) : Settled prim id (new ttlSecs : Submitting ι) where
  serial := new_serial prim ttlSecs
  retained i task found := by cases found
  burned i task found := by cases found
  single i j first second found := by cases found

omit [DecidableEq ι] in
/-- A queue that a task has burned is not open. -/
theorem Settled.closed {id : QuorumQueueId} {state : Submitting ι} (settled : Settled prim id state) (i j : ι)
    (first second : ActionTask) (found : state.tasks i = some first) (other : state.tasks j = some second)
    (burned : burnedQueue first = some id) : openQueue second ≠ some id := by
  intro isOpen
  obtain ⟨timestamp,stored⟩ := settled.burned i first found burned
  obtain ⟨held,active⟩ := knows_active prim _ second (settled.serial.knows j second other) id isOpen
  simp [getQuorumQueue,stored] at active

theorem step_settled (id : QuorumQueueId) (self : Submitting ι) (act : Act ι) (next : Submitting ι)
    (taken : self.step prim act = some next) (spared : Spares id self act next) (settled : Settled prim id self) :
    Settled prim id next := by
  have burns := step_burnedQueue prim self act next taken id
  refine ⟨step_serial prim self act next taken settled.serial,
    step_retainedIn prim self act next id taken spared settled.serial settled.retained,?_,?_⟩
  · intro i task found burned
    rcases burns i task found burned with ⟨before,held,earlier⟩ | ⟨_,_,_,_,_,_,now,store,attempted,same⟩
    · obtain ⟨timestamp,stored⟩ := settled.burned i before held earlier
      exact ⟨timestamp,(step_burned prim id timestamp self act next taken spared
        ⟨settled.serial,stored⟩).1.2⟩
    · subst store same
      cases step_taken prim self _ next taken with
      | store _ _ _ _ _ _ _ _ again left =>
        cases attempted.symm.trans again
        exact ⟨now,WavsDbTable.getCloned_insert _ _ _⟩
  · intro i j first second found other one two
    rcases burns i first found one with ⟨before,held,earlier⟩ | ⟨_,_,_,_,_,_,_,store,attempted,same⟩
    · rcases burns j second other two with ⟨sooner,kept,past⟩ | ⟨_,_,_,_,_,_,_,_,opened,same⟩
      · exact settled.single i j before sooner held kept earlier past
      · have closed := settled.closed prim i j before _ held opened earlier
        exact absurd (by rw [same]; rfl) closed
    · rcases burns j second other two with ⟨sooner,kept,past⟩ | ⟨_,_,_,_,_,_,_,again,_,_⟩
      · have closed := settled.closed prim j i sooner _ kept attempted past
        exact absurd (by rw [same]; rfl) closed
      · rw [store] at again
        cases again
        rfl

omit [DecidableEq ι] in
/-- No two tasks of one queue succeed. -/
theorem Settled.once {id : QuorumQueueId} {state : Submitting ι} (settled : Settled prim id state) (i j : ι)
    (first second : ActionTask) (found : state.tasks i = some first) (other : state.tasks j = some second)
    (one : first.queueId = some id) (two : second.queueId = some id) (succeeded : first.succeeded = true)
    (again : second.succeeded = true) : i = j := by
  rcases succeeded_cases first id succeeded one with firstOpen | firstBurned
  · rcases succeeded_cases second id again two with secondOpen | secondBurned
    · exact settled.serial.unique prim i j first second id found other firstOpen secondOpen
    · exact absurd firstOpen (settled.closed prim j i second first other found secondBurned)
  · rcases succeeded_cases second id again two with secondOpen | secondBurned
    · exact absurd secondOpen (settled.closed prim i j first second found other firstBurned)
    · exact settled.single i j first second found other firstBurned secondBurned

end Submitting

namespace System

/-- The step does not clean the queue up. -/
def Spares (id : QuorumQueueId) (self : System ι) (act : Act ι) (_ : System ι) : Prop :=
  ∀ cleaning ∈ act.cleaning, self.submitting.cleanup.removed cleaning ≠ some id

theorem step_settled (id : QuorumQueueId) (self : System ι) (act : Act ι) (next : System ι)
    (taken : self.step prim act = some next) (spared : Spares id self act next)
    (settled : Submitting.Settled prim id self.submitting) : Submitting.Settled prim id next.submitting := by
  cases step_taken prim self act next taken with
  | setService id service services => exact settled
  | broadcast signers req submission signed => exact settled
  | receive i peer submission service receiving own extracted stepped => exact settled
  | receiving act receiving running stepped => exact settled
  | actions i submission action service submitting returned extracted stepped =>
    exact Submitting.step_settled prim id self.submitting _ submitting stepped (by nofun) settled
  | submitting act submitting running stepped =>
    refine Submitting.step_settled prim id self.submitting act submitting stepped ?_ settled
    cases act with
    | cleanup cleaning => cases running
    | _ => nofun
  | cleanup cleaning submitting stepped =>
    exact Submitting.step_settled prim id self.submitting (.cleanup cleaning) submitting stepped
      (spared cleaning rfl) settled

/-- In every run whose clean-ups leave the queue, the tasks of its event, destination and gas price
are the tasks of the queue, it holds the signers of the attempts that failed, and at most one
attempt succeeds. -/
theorem run_accumulates (ttlSecs : UInt64) (acts : List (Act ι)) (final : System ι)
    (reached : run (step prim) (new ttlSecs) acts = some final) (id : QuorumQueueId)
    (spared : Along (step prim) (Spares id) (new ttlSecs) acts) :
    (∀ i task action, final.submitting.tasks i = some task → task.submits = some action →
      (task.queueId = some id ↔ task.submission.eventId = id.eventId ∧
        action.destination = id.action.destination ∧ action.gasPrice = id.action.gasPrice)) ∧
    (∀ i task, final.submitting.tasks i = some task → Submitting.failedQueue task = some id →
      Submitting.Retains prim task.submission (getQuorumQueue final.submitting.quorumQueues id)) ∧
    ∀ i j first second, final.submitting.tasks i = some first → final.submitting.tasks j = some second →
      first.queueId = some id → second.queueId = some id → first.succeeded = true → second.succeeded = true →
      i = j := by
  have settled := invariant_along (Spares id) (fun state => Submitting.Settled prim id state.submitting)
    (step_settled prim id) (new ttlSecs) final acts reached spared (Submitting.new_settled prim id ttlSecs)
  refine ⟨?_,settled.retained,settled.once prim⟩
  intro i task action _ submits
  obtain ⟨eventId,own⟩ := id
  simp only [ActionTask.queueId,submits,Option.map_some,Option.some.injEq,QuorumQueueId.mk.injEq]
  rw [SubmitAction.eq_iff]

instance decidableSpares (id : QuorumQueueId) (self : System ι) (act : Act ι) (next : System ι) :
    Decidable (Spares id self act next) :=
  Option.decidableForallMem act.cleaning

/-- The task has a receipt for a submission of this queue. -/
def receiptOf (id : QuorumQueueId) (i : Caller) (final : System Caller) : Bool :=
  (final.submitting.tasks i).any (fun task => task.succeeded && decide (task.queueId = some id))

/-- The first attempt fails, and a second vote completes the queue. -/
def bothVotes : List (Act Caller) :=
  ownAndPeer ++ .actions .second submission2 (.submit Submitting.cafeAction) :: List.map Act.submitting (List.flatten
    [Submitting.laterAttempt .second,(Submitting.submitted localChain Submitting.bothSignatures).map (.answer .second),
      Submitting.storing .second 1001])

theorem bothVotes_accumulate :
    ∃ final, run (step deployedPrimitives) (new 172800) bothVotes = some final ∧
      receiptOf cafeQueue .second final = true ∧
      (∀ i task action, final.submitting.tasks i = some task → task.submits = some action →
        (task.queueId = some cafeQueue ↔ task.submission.eventId = cafeQueue.eventId ∧
          action.destination = cafeQueue.action.destination ∧ action.gasPrice = cafeQueue.action.gasPrice)) ∧
      (∀ i task, final.submitting.tasks i = some task → Submitting.failedQueue task = some cafeQueue →
        Submitting.Retains deployedPrimitives task.submission
          (getQuorumQueue final.submitting.quorumQueues cafeQueue)) ∧
      ∀ i j first second, final.submitting.tasks i = some first → final.submitting.tasks j = some second →
        first.queueId = some cafeQueue → second.queueId = some cafeQueue → first.succeeded = true →
        second.succeeded = true → i = j := by
  obtain ⟨final,reached,succeeded⟩ := run_any (step deployedPrimitives) (new 172800) bothVotes
    (receiptOf cafeQueue .second) (by decide +kernel)
  exact ⟨final,reached,succeeded,
    run_accumulates deployedPrimitives 172800 bothVotes final reached cafeQueue (by decide +kernel)⟩

/-- The queue of the same event and destination at another gas price. -/
def pricedQueue : QuorumQueueId := ⟨cafeEvent,.evm ⟨localChain,Submitting.deployedHandler,some 7⟩⟩

def secondPacket (pinned : Option Height) : List (Act Caller) :=
  .receive .second (.other "peer") submission2 ::
    (Receiving.admission .second cafeEvent operator2 pinned).map .receiving

def secondSignature : SignatureData := ⟨[operator2],[signature2.toList],99⟩

def submittedPriced : List Reply :=
  (Submitting.submitted localChain secondSignature).dropLast ++
    [⟨.sendEnvelopeSignatures localChain (.evm cafeEnvelope) secondSignature Submitting.deployedHandler (some 7),
      .ok (FixedBytes.filled 32 8)⟩]

/-- For the second vote of the event the component returns another gas price. -/
def splitVotes : List (Act Caller) :=
  List.flatten [firstPacket,secondPacket (some ⟨99,localChain⟩),firstBurn,
    [.actions .second submission2 (.submit pricedQueue.action)],
    List.map Act.submitting (List.flatten
      [[.queueLock .second .read,.queueLock .second .write,.queueLock .second .lock,.load .second,.append .second,
          .chainLock .second .read,.chainLock .second .lock,.enter .second],
        submittedPriced.map (.answer .second),Submitting.storing .second 1001])]

/-- The second vote comes after the clean-up of the burned queue. -/
def lateVote : List (Act Caller) :=
  List.flatten [firstPacket,firstBurn,cleaningUp 174801 cafeQueue,secondPacket none,
    [.actions .second submission2 (.submit Submitting.cafeAction)],
    List.map Act.submitting (List.flatten
      [Submitting.laterAttempt .second,(Submitting.submitted localChain secondSignature).map (.answer .second),
        Submitting.storing .second 174802])]

/-- Two queues of one event and destination are submitted when the prices differ, and one queue is
submitted twice with its clean-up between. -/
theorem split_and_late_votes_submit_twice :
    (∃ final, run (step deployedPrimitives) (new 172800) splitVotes = some final ∧
      receiptOf cafeQueue .first final = true ∧ receiptOf pricedQueue .second final = true ∧
      cafeQueue ≠ pricedQueue ∧ cafeQueue.eventId = pricedQueue.eventId ∧
      cafeQueue.action.destination = pricedQueue.action.destination) ∧
    ∃ final, run (step deployedPrimitives) (new 172800) lateVote = some final ∧
      receiptOf cafeQueue .first final = true ∧ receiptOf cafeQueue .second final = true := by
  obtain ⟨split,reached,twice⟩ := run_any (step deployedPrimitives) (new 172800) splitVotes
    (fun final => receiptOf cafeQueue .first final && receiptOf pricedQueue .second final) (by decide +kernel)
  obtain ⟨late,arrived,again⟩ := run_any (step deployedPrimitives) (new 172800) lateVote
    (fun final => receiptOf cafeQueue .first final && receiptOf cafeQueue .second final) (by decide +kernel)
  obtain ⟨unpriced,priced⟩ := (Bool.and_eq_true _ _).mp twice
  obtain ⟨before,after⟩ := (Bool.and_eq_true _ _).mp again
  exact ⟨⟨split,reached,unpriced,priced,by decide,rfl,rfl⟩,late,arrived,before,after⟩

end System
end Warpdrive.Aggregator
