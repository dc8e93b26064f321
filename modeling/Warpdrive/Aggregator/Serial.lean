import Warpdrive.Aggregator.Actions

/-! The tasks of one quorum queue are serialised. While a task has a queue open, that
is from its load to its store, it is inside the transaction of the queue, so the stored
entry is the one it loaded. Hence a burned queue is never opened again, and a failed
attempt loses no signer. -/
namespace Warpdrive.Aggregator.Submitting
open Warpdrive.Foundation Warpdrive.Foundation.Execution Warpdrive.Types Warpdrive.Utils

variable {ι : Type} (prim : Primitives)

/-- The queue that a task has loaded and not stored yet. -/
def openQueue (task : ActionTask) : Option QuorumQueueId :=
  match task.work with
  | .submit action (.loaded _) => some ⟨task.submission.eventId,action⟩
  | .submit action (.submitting _) => some ⟨task.submission.eventId,action⟩
  | .submit action (.attempting _ _ _) => some ⟨task.submission.eventId,action⟩
  | .submit action (.attempted _ _ _) => some ⟨task.submission.eventId,action⟩
  | _ => none

/-- Where a task is in the transaction of its queue. -/
def Placed (call : Call QuorumQueueId) (task : ActionTask) : Prop :=
  match task.work with
  | .timer _ _ => True
  | .submit _ (.ended _) => True
  | .submit action .locking => call.Awaits ⟨task.submission.eventId,action⟩
  | .submit action _ => ∃ lock, call = .critical ⟨task.submission.eventId,action⟩ lock

/-- What a task knows of the stored entry of its queue: an open queue is stored as it
was loaded, and the attempt on the appended queue has been given these answers. -/
def Knows (queues : QuorumQueues) (task : ActionTask) : Prop :=
  match task.work with
  | .submit action (.loaded queue) =>
    getQuorumQueue queues ⟨task.submission.eventId,action⟩ = .active queue
  | .submit action (.submitting queue) =>
    ∃ held, getQuorumQueue queues ⟨task.submission.eventId,action⟩ = .active held ∧
      appendSubmissionToQueue prim ⟨task.submission.eventId,action⟩ held task.submission = .ok queue
  | .submit action (.attempting queue rest history) =>
    (∃ held, getQuorumQueue queues ⟨task.submission.eventId,action⟩ = .active held ∧
      appendSubmissionToQueue prim ⟨task.submission.eventId,action⟩ held task.submission = .ok queue) ∧
    (attempt prim task.service queue action).follow history = some rest
  | .submit action (.attempted queue result history) =>
    (∃ held, getQuorumQueue queues ⟨task.submission.eventId,action⟩ = .active held ∧
      appendSubmissionToQueue prim ⟨task.submission.eventId,action⟩ held task.submission = .ok queue) ∧
    (attempt prim task.service queue action).follow history = some (.returned result)
  | _ => True

theorem placed_open (call : Call QuorumQueueId) (task : ActionTask) (id : QuorumQueueId)
    (placed : Placed call task) (isOpen : openQueue task = some id) : ∃ lock, call = .critical id lock := by
  obtain ⟨submission,service,work⟩ := task
  cases work with
  | timer delaySecs fired => cases isOpen
  | submit action phase =>
    cases phase <;> simp only [openQueue,reduceCtorEq,Option.some.injEq] at isOpen
    all_goals
      subst isOpen
      exact placed

theorem placed_cases (call : Call QuorumQueueId) (task : ActionTask) (placed : Placed call task) :
    (∀ other, Placed other task) ∨
      (∃ key, call.Awaits key ∧ ∀ other : Call QuorumQueueId, other.Awaits key → Placed other task) ∨
        ∃ key lock, call = .critical key lock := by
  cases opened : openQueue task with
  | some id =>
    obtain ⟨lock,inside⟩ := placed_open call task id placed opened
    exact .inr (.inr ⟨id,lock,inside⟩)
  | none =>
    obtain ⟨submission,service,work⟩ := task
    cases work with
    | timer delaySecs fired => exact .inl (fun _ => trivial)
    | submit action phase =>
      cases phase with
      | locking => exact .inr (.inl ⟨_,placed,fun _ awaits => awaits⟩)
      | ended outcome => exact .inl (fun _ => trivial)
      | stored result history => exact .inr (.inr ⟨_,placed⟩)
      | leaving outcome => exact .inr (.inr ⟨_,placed⟩)
      | loaded queue => cases opened
      | submitting queue => cases opened
      | attempting queue rest history => cases opened
      | attempted queue result history => cases opened

/-- What a task knows depends on the entry of the queue it has open only. -/
theorem knows_same (queues other : QuorumQueues) (task : ActionTask) (knows : Knows prim queues task)
    (same : ∀ id, openQueue task = some id → getQuorumQueue other id = getQuorumQueue queues id) :
    Knows prim other task := by
  obtain ⟨submission,service,work⟩ := task
  cases work with
  | timer delaySecs fired => trivial
  | submit action phase =>
    cases phase with
    | locking => trivial
    | stored result history => trivial
    | leaving outcome => trivial
    | ended outcome => trivial
    | loaded queue =>
      simp only [Knows,same _ rfl]
      exact knows
    | submitting queue =>
      simp only [Knows,same _ rfl]
      exact knows
    | attempting queue rest history =>
      simp only [Knows,same _ rfl]
      exact knows
    | attempted queue result history =>
      simp only [Knows,same _ rfl]
      exact knows

theorem knows_active (queues : QuorumQueues) (task : ActionTask) (knows : Knows prim queues task)
    (id : QuorumQueueId) (isOpen : openQueue task = some id) : ∃ held, getQuorumQueue queues id = .active held := by
  obtain ⟨submission,service,work⟩ := task
  cases work with
  | timer delaySecs fired => cases isOpen
  | submit action phase =>
    cases phase with
    | locking => cases isOpen
    | stored result history => cases isOpen
    | leaving outcome => cases isOpen
    | ended outcome => cases isOpen
    | loaded queue =>
      cases isOpen
      exact ⟨queue,knows⟩
    | submitting queue =>
      cases isOpen
      obtain ⟨held,stored,_⟩ := knows
      exact ⟨held,stored⟩
    | attempting queue rest history =>
      cases isOpen
      obtain ⟨⟨held,stored,_⟩,_⟩ := knows
      exact ⟨held,stored⟩
    | attempted queue result history =>
      cases isOpen
      obtain ⟨⟨held,stored,_⟩,_⟩ := knows
      exact ⟨held,stored⟩

variable [DecidableEq ι]

structure Serial (state : Submitting ι) : Prop where
  coherent : KeyedLock.Coherent state.queueTransaction.registry
  placed : ∀ i task, state.tasks i = some task → Placed (state.queueTransaction.calls i) task
  knows : ∀ i task, state.tasks i = some task → Knows prim state.quorumQueues task
  collected : state.cleanup.Collected state.quorumQueues

omit [DecidableEq ι] in
theorem new_serial (ttlSecs : UInt64) : Serial prim (new ttlSecs : Submitting ι) := by
  refine ⟨AsyncTransaction.new_coherent false,?_,?_,Cleanup.idle_collected _⟩
  · intro i task found
    cases found
  · intro i task found
    cases found

omit [DecidableEq ι] in
/-- No two tasks have one queue open. -/
theorem Serial.unique {state : Submitting ι} (serial : Serial prim state) (i j : ι) (first second : ActionTask)
    (id : QuorumQueueId) (found : state.tasks i = some first) (other : state.tasks j = some second)
    (a : openQueue first = some id) (b : openQueue second = some id) : i = j := by
  obtain ⟨firstLock,inFirst⟩ := placed_open _ first id (serial.placed i first found) a
  obtain ⟨secondLock,inSecond⟩ := placed_open _ second id (serial.placed j second other) b
  exact AsyncTransaction.critical_unique state.queueTransaction serial.coherent i j id firstLock secondLock
    inFirst inSecond

/-! ## The transaction of a queue -/

omit [DecidableEq ι] in
theorem access_caller {K : Type} (i : ι) (access : LockAccess) :
    (LockAccess.act i access : AsyncTransaction.Act K ι).caller = some i := by
  cases access <;> rfl

omit [DecidableEq ι] in
theorem access_quiet {K : Type} [DecidableEq K] (self next : AsyncTransaction K ι) (i : ι)
    (access : LockAccess) : self.RemovesQuietly (LockAccess.act i access) next := by
  cases access <;> trivial

/-- A call inside its section, or past it, takes no access that a task on its way in
could notice. -/
theorem access_awaits {K : Type} [DecidableEq K] (self next : AsyncTransaction K ι) (i : ι)
    (access : LockAccess) (accessed : self.step (LockAccess.act i access) = some next) (key : K)
    (awaits : (self.calls i).Awaits key) : (next.calls i).Awaits key := by
  cases access with
  | read =>
    cases AsyncTransaction.step_taken self _ next accessed with
    | fetch _ other lock started found =>
      rw [started] at awaits
      simpa [AsyncTransaction.clone,AsyncTransaction.setCall,Call.Awaits] using awaits
    | miss _ other started absent =>
      rw [started] at awaits
      simpa [AsyncTransaction.setCall,Call.Awaits] using awaits
  | write =>
    cases AsyncTransaction.step_taken self _ next accessed with
    | write _ other missed =>
      rw [missed] at awaits
      unfold AsyncTransaction.orInsert
      split
      · simpa [AsyncTransaction.clone,AsyncTransaction.setCall,Call.Awaits] using awaits
      · simpa [AsyncTransaction.clone,AsyncTransaction.setCall,Call.Awaits] using awaits
  | lock =>
    cases AsyncTransaction.step_taken self _ next accessed with
    | lock _ other lock waiting free =>
      rw [waiting] at awaits
      simpa [AsyncTransaction.setCall,Call.Awaits] using awaits
  | testCount =>
    cases AsyncTransaction.step_taken self _ next accessed with
    | unused _ other lock left enabled count =>
      rw [left] at awaits
      cases awaits
    | used _ other lock left kept =>
      rw [left] at awaits
      cases awaits

theorem access_outside {K : Type} [DecidableEq K] (self next : AsyncTransaction K ι) (i : ι)
    (access : LockAccess) (accessed : self.step (LockAccess.act i access) = some next) (key : K)
    (lock : MutexId) : self.calls i ≠ .critical key lock := by
  intro inside
  cases access <;> simp [LockAccess.act,AsyncTransaction.step,inside] at accessed

/-- A task that accesses the lock of its queue is not inside, so it keeps its place. -/
theorem access_placed (self next : AsyncTransaction QuorumQueueId ι) (i : ι) (access : LockAccess)
    (accessed : self.step (LockAccess.act i access) = some next) (task : ActionTask)
    (placed : Placed (self.calls i) task) : Placed (next.calls i) task := by
  rcases placed_cases (self.calls i) task placed with anywhere | ⟨key,awaits,placed⟩ | ⟨key,lock,inside⟩
  · exact anywhere (next.calls i)
  · apply placed
    exact access_awaits self next i access accessed key awaits
  · have outside := access_outside self next i access accessed key lock
    exact absurd inside outside

/-- A step of the transaction by one task moves no other task's place. -/
theorem placed_others (self : Submitting ι) (serial : Serial prim self) (act : AsyncTransaction.Act QuorumQueueId ι)
    (transaction : AsyncTransaction QuorumQueueId ι) (taken : self.queueTransaction.step act = some transaction)
    (i : ι) (caller : act.caller = some i) :
    ∀ j task, j ≠ i → self.tasks j = some task → Placed (transaction.calls j) task := by
  intro j task differ found
  have same : transaction.calls j = self.queueTransaction.calls j := by
    refine AsyncTransaction.step_calls self.queueTransaction act transaction taken j ?_
    rw [caller]
    intro equal
    exact differ (Option.some.inj equal).symm
  rw [same]
  exact serial.placed j task found

theorem placed_opened (call : Call QuorumQueueId) (submission : Submission) (service : Service)
    (action : SubmitAction) (lock : MutexId) (queue : QuorumQueue)
    (inside : call = .critical ⟨submission.eventId,action⟩ lock) :
    Placed call ⟨submission,service,.submit action (opened queue)⟩ := by
  cases queue with
  | burned timestamp => exact ⟨lock,inside⟩
  | active submissions => exact ⟨lock,inside⟩

theorem step_placed (self : Submitting ι) (act : Act ι) (next : Submitting ι)
    (taken : self.step prim act = some next) (serial : Serial prim self) :
    ∀ i task, next.tasks i = some task → Placed (next.queueTransaction.calls i) task := by
  let holds : ι → ActionTask → Prop := fun i task => Placed (self.queueTransaction.calls i) task
  have others : ∀ i j task, j ≠ i → self.tasks j = some task → holds j task :=
    fun _ j task _ => serial.placed j task
  cases step_taken prim self act next taken with
  | submit i submission service action transaction fresh called =>
    refine forall_setTask (self.setQueueTransaction transaction) (fun j task => Placed (transaction.calls j) task)
      i _ ?_ (placed_others prim self serial _ transaction called i rfl)
    have started := AsyncTransaction.call_started _ i _ transaction called
    simp only [Placed,started,Call.Awaits]
  | timer i submission service delaySecs fresh => exact forall_setTask self holds i _ trivial (others i)
  | queueLock i access transaction accessed =>
    intro j task found
    by_cases same : j = i
    · subst j
      exact access_placed self.queueTransaction transaction i access accessed task (serial.placed i task found)
    · exact placed_others prim self serial _ transaction accessed i (access_caller i access) j task same found
  | load i submission service action key lock locking entered =>
    refine forall_setTask self holds i _ ?_ (others i)
    have place := serial.placed i _ locking
    simp only [Placed,entered,Call.Awaits] at place
    subst place
    exact placed_opened _ submission service action lock _ entered
  | unappended i submission service action queue error loaded failed =>
    have place := serial.placed i _ loaded
    exact forall_setTask self holds i _ place (others i)
  | appended i submission service action queue longer transaction loaded done called =>
    have place := serial.placed i _ loaded
    exact forall_setTask _ holds i _ place (others i)
  | chainLock i access transaction accessed => exact serial.placed
  | enter i submission service action queue key lock submitting entered =>
    have place := serial.placed i _ submitting
    exact forall_setTask self holds i _ place (others i)
  | answer i submission service action queue rest next history reply attempting resumed =>
    have place := serial.placed i _ attempting
    exact forall_setTask self holds i _ place (others i)
  | leaveChain i submission service action queue result history transaction attempting finished =>
    have place := serial.placed i _ attempting
    exact forall_setTask _ holds i _ place (others i)
  | store i submission service action queue result history now attempted left =>
    have place := serial.placed i _ attempted
    exact forall_setTask _ holds i _ place (others i)
  | notify i submission service action result history delivered stored =>
    have place := serial.placed i _ stored
    exact forall_setTask _ holds i _ place (others i)
  | finish i submission service action outcome transaction leaving finished =>
    exact forall_setTask (self.setQueueTransaction transaction)
      (fun j task => Placed (transaction.calls j) task) i _ trivial
      (placed_others prim self serial _ transaction finished i rfl)
  | fire i submission service delaySecs delivered sleeping =>
    exact forall_setTask _ holds i _ trivial (others i)
  | cleanup => exact serial.placed

theorem step_coherent (self : Submitting ι) (act : Act ι) (next : Submitting ι)
    (taken : self.step prim act = some next)
    (coherent : KeyedLock.Coherent self.queueTransaction.registry) :
    KeyedLock.Coherent next.queueTransaction.registry := by
  cases step_taken prim self act next taken with
  | submit i submission service action transaction fresh called =>
    exact AsyncTransaction.step_coherent _ _ transaction called trivial coherent
  | queueLock i access transaction accessed =>
    exact AsyncTransaction.step_coherent _ _ transaction accessed (access_quiet _ _ i access) coherent
  | finish i submission service action outcome transaction leaving finished =>
    exact AsyncTransaction.step_coherent _ _ transaction finished trivial coherent
  | timer => exact coherent
  | load => exact coherent
  | unappended => exact coherent
  | appended => exact coherent
  | chainLock => exact coherent
  | enter => exact coherent
  | answer => exact coherent
  | leaveChain => exact coherent
  | store => exact coherent
  | notify => exact coherent
  | fire => exact coherent
  | cleanup => exact coherent

/-! ## The stored entries -/

/-- The clean-up leaves an active entry as it is. -/
theorem cleanup_active (ttlSecs : UInt64) (queues after : QuorumQueues) (cleanup next : Cleanup)
    (act : Cleanup.Act) (cleaned : cleanup.step ttlSecs queues act = some (after,next))
    (collected : cleanup.Collected queues) (id : QuorumQueueId) (held : List Submission)
    (stored : getQuorumQueue queues id = .active held) : getQuorumQueue after id = .active held := by
  rcases cleanup.step_stored ttlSecs queues after next act cleaned id with kept | ⟨_,member,_⟩
  · simp only [getQuorumQueue,kept] at stored ⊢
    exact stored
  · obtain ⟨timestamp,burned⟩ := collected.burned id member
    simp [getQuorumQueue,burned] at stored

theorem getQuorumQueue_storeResult (queues : QuorumQueues) (id : QuorumQueueId) (queue : List Submission)
    (now : UInt64) (result : Attempted) :
    getQuorumQueue (storeResult queues id queue now result) id =
      match result with
      | .ok _ => .burned now
      | .error _ => .active queue := by
  cases result <;> simp [storeResult,burnQuorumQueue,saveQuorumQueue,getQuorumQueue]

theorem getQuorumQueue_storeResult_ne (queues : QuorumQueues) (id other : QuorumQueueId)
    (queue : List Submission) (now : UInt64) (result : Attempted) (differ : other ≠ id) :
    getQuorumQueue (storeResult queues id queue now result) other = getQuorumQueue queues other := by
  cases result with
  | ok receipt =>
    simp only [storeResult,burnQuorumQueue,getQuorumQueue]
    rw [WavsDbTable.getCloned_insert_ne _ _ _ _ differ]
  | error error =>
    simp only [storeResult,saveQuorumQueue,getQuorumQueue]
    rw [WavsDbTable.getCloned_insert_ne _ _ _ _ differ]

omit [DecidableEq ι] in
theorem store_knows (self : Submitting ι) (serial : Serial prim self) (i : ι) (submission : Submission)
    (service : Service) (action : SubmitAction) (queue : List Submission) (result : Attempted)
    (history : History Query.Answer) (now : UInt64)
    (attempted : self.tasks i = some ⟨submission,service,.submit action (.attempted queue result history)⟩) :
    ∀ j task, j ≠ i → self.tasks j = some task →
      Knows prim (storeResult self.quorumQueues ⟨submission.eventId,action⟩ queue now result) task := by
  intro j task differ found
  refine knows_same prim self.quorumQueues _ task (serial.knows j task found) ?_
  intro id isOpen
  apply getQuorumQueue_storeResult_ne
  intro same
  subst same
  exact differ (serial.unique prim j i task _ _ found attempted isOpen rfl)

theorem knows_opened (queues : QuorumQueues) (submission : Submission) (service : Service)
    (action : SubmitAction) : Knows prim queues ⟨submission,service,.submit action
      (opened (getQuorumQueue queues ⟨submission.eventId,action⟩))⟩ := by
  cases stored : getQuorumQueue queues ⟨submission.eventId,action⟩ with
  | burned timestamp => trivial
  | active submissions => exact stored

theorem step_knows (self : Submitting ι) (act : Act ι) (next : Submitting ι)
    (taken : self.step prim act = some next) (serial : Serial prim self) :
    ∀ i task, next.tasks i = some task → Knows prim next.quorumQueues task := by
  let holds : ι → ActionTask → Prop := fun _ task => Knows prim self.quorumQueues task
  have others : ∀ i j task, j ≠ i → self.tasks j = some task → holds j task :=
    fun _ j task _ => serial.knows j task
  cases step_taken prim self act next taken with
  | submit i submission service action transaction fresh called =>
    exact forall_setTask _ holds i _ trivial (others i)
  | timer i submission service delaySecs fresh => exact forall_setTask self holds i _ trivial (others i)
  | queueLock i access transaction accessed => exact serial.knows
  | load i submission service action key lock locking entered =>
    exact forall_setTask self holds i _ (knows_opened prim _ submission service action) (others i)
  | unappended i submission service action queue error loaded failed =>
    exact forall_setTask self holds i _ trivial (others i)
  | appended i submission service action queue longer transaction loaded done called =>
    exact forall_setTask _ holds i _ ⟨queue,serial.knows i _ loaded,done⟩ (others i)
  | chainLock i access transaction accessed => exact serial.knows
  | enter i submission service action queue key lock submitting entered =>
    exact forall_setTask self holds i _ ⟨serial.knows i _ submitting,rfl⟩ (others i)
  | answer i submission service action queue rest next history reply attempting resumed =>
    obtain ⟨held,follows⟩ := serial.knows i _ attempting
    refine forall_setTask self holds i _ ⟨held,?_⟩ (others i)
    rw [Async.follow_concat _ rest history reply follows]
    exact resumed
  | leaveChain i submission service action queue result history transaction attempting finished =>
    have known := serial.knows i _ attempting
    exact forall_setTask _ holds i _ known (others i)
  | store i submission service action queue result history now attempted left =>
    exact forall_setTask (self.setQueues _) (fun _ task => Knows prim _ task) i _ trivial
      (store_knows prim self serial i submission service action queue result history now attempted)
  | notify i submission service action result history delivered stored =>
    exact forall_setTask _ holds i _ trivial (others i)
  | finish i submission service action outcome transaction leaving finished =>
    exact forall_setTask _ holds i _ trivial (others i)
  | fire i submission service delaySecs delivered sleeping =>
    exact forall_setTask _ holds i _ trivial (others i)
  | cleanup act queues cleanup cleaned =>
    intro j task found
    refine knows_same prim self.quorumQueues _ task (serial.knows j task found) ?_
    intro id isOpen
    obtain ⟨held,stored⟩ := knows_active prim self.quorumQueues task (serial.knows j task found) id isOpen
    rw [stored]
    exact cleanup_active _ self.quorumQueues queues _ cleanup act cleaned serial.collected id held stored

omit [DecidableEq ι] in
/-- A task stores the result of a queue that was active, so it was not collected. -/
theorem store_collected (self : Submitting ι) (serial : Serial prim self) (i : ι) (submission : Submission)
    (service : Service) (action : SubmitAction) (queue : List Submission) (result : Attempted)
    (history : History Query.Answer) (now : UInt64)
    (attempted : self.tasks i = some ⟨submission,service,.submit action (.attempted queue result history)⟩) :
    self.cleanup.Collected (storeResult self.quorumQueues ⟨submission.eventId,action⟩ queue now result) := by
  refine ⟨serial.collected.distinct,?_⟩
  intro key member
  obtain ⟨timestamp,burned⟩ := serial.collected.burned key member
  refine ⟨timestamp,?_⟩
  have differ : key ≠ ⟨submission.eventId,action⟩ := by
    intro same
    obtain ⟨⟨held,stored,_⟩,_⟩ := serial.knows i _ attempted
    rw [← same] at stored
    simp [getQuorumQueue,burned] at stored
  cases result with
  | ok receipt => exact (WavsDbTable.getCloned_insert_ne _ _ _ _ differ).trans burned
  | error error => exact (WavsDbTable.getCloned_insert_ne _ _ _ _ differ).trans burned

theorem step_collected (self : Submitting ι) (act : Act ι) (next : Submitting ι)
    (taken : self.step prim act = some next) (serial : Serial prim self) :
    next.cleanup.Collected next.quorumQueues := by
  cases step_taken prim self act next taken with
  | submit => exact serial.collected
  | timer => exact serial.collected
  | queueLock => exact serial.collected
  | load => exact serial.collected
  | unappended => exact serial.collected
  | appended => exact serial.collected
  | chainLock => exact serial.collected
  | enter => exact serial.collected
  | answer => exact serial.collected
  | leaveChain => exact serial.collected
  | store i submission service action queue result history now attempted left =>
    exact store_collected prim self serial i submission service action queue result history now attempted
  | notify => exact serial.collected
  | finish => exact serial.collected
  | fire => exact serial.collected
  | cleanup act queues cleanup cleaned =>
    exact self.cleanup.step_collected _ _ queues cleanup act cleaned serial.collected

theorem step_serial (self : Submitting ι) (act : Act ι) (next : Submitting ι)
    (taken : self.step prim act = some next) (serial : Serial prim self) : Serial prim next :=
  ⟨step_coherent prim self act next taken serial.coherent,step_placed prim self act next taken serial,
    step_knows prim self act next taken serial,step_collected prim self act next taken serial⟩

theorem run_serial (ttlSecs : UInt64) (acts : List (Act ι)) (final : Submitting ι)
    (reached : run (step prim) (new ttlSecs) acts = some final) : Serial prim final :=
  invariant (Serial prim) (step_serial prim) (new ttlSecs) final acts reached (new_serial prim ttlSecs)

/-- An entry changes when a task that has it open stores its result, or when the
clean-up removes it. -/
theorem step_stored (self : Submitting ι) (act : Act ι) (next : Submitting ι)
    (taken : self.step prim act = some next) (serial : Serial prim self) (id : QuorumQueueId) :
    next.quorumQueues.getCloned id = self.quorumQueues.getCloned id ∨
    (∃ i submission service action queue result history now held, act = .store i now ∧
      self.tasks i = some ⟨submission,service,.submit action (.attempted queue result history)⟩ ∧
      id = ⟨submission.eventId,action⟩ ∧ getQuorumQueue self.quorumQueues id = .active held ∧
      appendSubmissionToQueue prim id held submission = .ok queue ∧
      next.quorumQueues = storeResult self.quorumQueues id queue now result) ∨
    self.removed act = some id ∧ next.quorumQueues.getCloned id = none := by
  cases step_taken prim self act next taken with
  | submit => exact .inl rfl
  | timer => exact .inl rfl
  | queueLock => exact .inl rfl
  | load => exact .inl rfl
  | unappended => exact .inl rfl
  | appended => exact .inl rfl
  | chainLock => exact .inl rfl
  | enter => exact .inl rfl
  | answer => exact .inl rfl
  | leaveChain => exact .inl rfl
  | notify => exact .inl rfl
  | finish => exact .inl rfl
  | fire => exact .inl rfl
  | store i submission service action queue result history now attempted left =>
    by_cases same : id = ⟨submission.eventId,action⟩
    · subst same
      obtain ⟨⟨held,stored,appended⟩,_⟩ := serial.knows i _ attempted
      exact .inr (.inl ⟨i,submission,service,action,queue,result,history,now,held,rfl,attempted,rfl,stored,
        appended,rfl⟩)
    · refine .inl ?_
      cases result with
      | ok receipt => exact WavsDbTable.getCloned_insert_ne _ _ _ _ same
      | error error => exact WavsDbTable.getCloned_insert_ne _ _ _ _ same
  | cleanup act queues cleanup cleaned =>
    rcases self.cleanup.step_stored _ _ queues cleanup act cleaned id with kept | ⟨removed,_,gone⟩
    · exact .inl kept
    · exact .inr (.inr ⟨removed,gone⟩)

/-! ## A burned queue stays burned -/

/-- The step does not clean the queue up. -/
def Spares (id : QuorumQueueId) (self : Submitting ι) (act : Act ι) (_ : Submitting ι) : Prop :=
  self.removed act ≠ some id

/-- The step begins or continues an attempt for the queue. -/
def Attempts (id : QuorumQueueId) (self : Submitting ι) (act : Act ι) : Prop :=
  ∃ i task, self.tasks i = some task ∧ openQueue task = some id ∧
    (act = .enter i ∨ ∃ reply, act = .answer i reply)

theorem step_burned (id : QuorumQueueId) (timestamp : UInt64) (self : Submitting ι) (act : Act ι)
    (next : Submitting ι) (taken : self.step prim act = some next) (spared : Spares id self act next)
    (burned : Serial prim self ∧ self.quorumQueues.getCloned id = some (.burned timestamp)) :
    (Serial prim next ∧ next.quorumQueues.getCloned id = some (.burned timestamp)) ∧
      ¬ Attempts id self act := by
  obtain ⟨serial,burned⟩ := burned
  have closed : ∀ held, getQuorumQueue self.quorumQueues id ≠ .active held := by
    intro held
    simp [getQuorumQueue,burned]
  refine ⟨⟨step_serial prim self act next taken serial,?_⟩,?_⟩
  · rcases step_stored prim self act next taken serial id with kept | stored | ⟨removed,_⟩
    · rw [kept]
      exact burned
    · obtain ⟨_,_,_,_,_,_,_,_,held,_,_,_,stored,_⟩ := stored
      exact absurd stored (closed held)
    · exact absurd removed spared
  · intro attempts
    obtain ⟨i,task,found,isOpen,_⟩ := attempts
    obtain ⟨held,stored⟩ := knows_active prim self.quorumQueues task (serial.knows i task found) id isOpen
    exact closed held stored

/-- Once a successful attempt is stored as a burned queue, no task attempts the queue
again and the entry stays until the clean-up removes it, in every interleaving. -/
theorem run_burned (ttlSecs : UInt64) (acts later : List (Act ι)) (state next final : Submitting ι)
    (reached : run (step prim) (new ttlSecs) acts = some state) (i : ι) (submission : Submission)
    (service : Service) (action : SubmitAction) (queue : List Submission) (receipt : AnyTransactionReceipt)
    (history : History Query.Answer) (now : UInt64)
    (succeeded : state.tasks i = some ⟨submission,service,.submit action (.attempted queue (.ok receipt) history)⟩)
    (stored : state.step prim (.store i now) = some next)
    (continued : run (step prim) next later = some final)
    (spared : Along (step prim) (Spares ⟨submission.eventId,action⟩) next later) :
    final.quorumQueues.getCloned ⟨submission.eventId,action⟩ = some (.burned now) ∧
      Along (step prim) (fun self act _ => ¬ Attempts ⟨submission.eventId,action⟩ self act) next later := by
  have serial := run_serial prim ttlSecs acts state reached
  have start : Serial prim next ∧
      next.quorumQueues.getCloned ⟨submission.eventId,action⟩ = some (.burned now) := by
    refine ⟨step_serial prim state _ next stored serial,?_⟩
    cases step_taken prim state _ next stored with
    | store _ _ _ _ _ _ _ _ attempted left =>
      rw [succeeded] at attempted
      cases attempted
      exact WavsDbTable.getCloned_insert _ _ _
  have keeps := step_burned (ι := ι) prim ⟨submission.eventId,action⟩ now
  obtain ⟨unattempted,_,burned⟩ := along_of_invariant _ _ _ keeps next final later continued spared start
  exact ⟨burned,unattempted⟩

instance decidableSpares (id : QuorumQueueId) (self : Submitting ι) (act : Act ι) (next : Submitting ι) :
    Decidable (Spares id self act next) :=
  inferInstanceAs (Decidable (self.removed act ≠ some id))

def deployedHandler : Address := FixedBytes.ofNat 20 0xe7f1725e7734ce288f8367e1bb143e90bb3f0512

def cafeAction : SubmitAction := .evm ⟨localChain,deployedHandler,none⟩

/-- The first task of its queue and of its chain, from its start into its attempt. -/
def firstAttempt (i : ι) : List (Act ι) :=
  [.queueLock i .read,.queueLock i .write,.queueLock i .lock,.load i,.append i,.chainLock i .read,
    .chainLock i .write,.chainLock i .lock,.enter i]

/-- A later task, which finds both mutexes registered. -/
def laterAttempt (i : ι) : List (Act ι) :=
  [.queueLock i .read,.queueLock i .lock,.load i,.append i,.chainLock i .read,.chainLock i .lock,.enter i]

def storing (i : ι) (now : UInt64) : List (Act ι) :=
  [.leaveChain i,.chainLock i .testCount,.store i now,.notify i true,.finish i,.queueLock i .testCount]

/-- The aggregator has no EVM credential. -/
def missingCredential : List Reply := [⟨.evmSubmissionClient localChain,false⟩,⟨.credential .evm,false⟩]

def oneSignature : SignatureData := ⟨[operator1],[signature1.toList],99⟩

def bothSignatures : SignatureData := ⟨[operator2,operator1],[signature2.toList,signature1.toList],99⟩

/-- The signatures are validated at the block that the event is pinned to, and sent. -/
def submitted (chain : ChainKey) (signatures : SignatureData) : List Reply :=
  [⟨.evmSubmissionClient chain,true⟩,⟨.getServiceManager chain deployedHandler,.ok deployedManager⟩,
    ⟨.pinnedReferenceBlock cafeEvent,some ⟨99,localChain⟩⟩,
    ⟨.evmValidate chain deployedManager cafeEnvelope signatures ⟨99,localChain⟩,.ok ()⟩,
    ⟨.sendEnvelopeSignatures chain (.evm cafeEnvelope) signatures deployedHandler none,
      .ok (FixedBytes.filled 32 7)⟩]

def failedAttempt : List (Act Caller) :=
  List.flatten [[.spawn .first submission1 deployedService (.submit cafeAction)],firstAttempt .first,
    missingCredential.map (.answer .first),storing .first 1000]

def successfulAttempt : List (Act Caller) :=
  List.flatten [[.spawn .second submission2 deployedService (.submit cafeAction)],laterAttempt .second,
    (submitted localChain bothSignatures).map (.answer .second),
    [.leaveChain .second,.chainLock .second .testCount]]

/-- Another task of the queue, and a clean-up before the entry expires. -/
def burnedQueueVisits : List (Act Caller) :=
  [.cleanup (.start 1002),.notify .second true,
    .spawn .third submission1 deployedService (.submit cafeAction),.finish .second,.queueLock .third .read,
    .cleanup (.visit ⟨cafeEvent,cafeAction⟩),.queueLock .third .lock,.load .third,.cleanup .collected,
    .finish .third,.cleanup .finish]

def succeeds (state : Submitting Caller) : Bool :=
  match state.tasks .second with
  | some ⟨submission,_,.submit action (.attempted _ (.ok _) _)⟩ =>
    decide (submission = submission2 ∧ action = cafeAction)
  | _ => false

def visited (state : Submitting Caller) : Bool :=
  (state.step deployedPrimitives (.store .second 1001)).any (fun next =>
    (run (step deployedPrimitives) next burnedQueueVisits).isSome &&
      decide (Along (step deployedPrimitives) (Spares ⟨cafeEvent,cafeAction⟩) next burnedQueueVisits))

theorem burnedQueueVisits_stay_out :
    ∃ state next final,
      run (step deployedPrimitives) (new 172800) (failedAttempt ++ successfulAttempt) = some state ∧
      state.step deployedPrimitives (.store .second 1001) = some next ∧
      run (step deployedPrimitives) next burnedQueueVisits = some final ∧
      final.quorumQueues.getCloned ⟨cafeEvent,cafeAction⟩ = some (.burned 1001) ∧
      Along (step deployedPrimitives) (fun self act _ => ¬ Attempts ⟨cafeEvent,cafeAction⟩ self act) next
        burnedQueueVisits := by
  obtain ⟨state,reached,tested⟩ := run_any (step deployedPrimitives) (new 172800)
    (failedAttempt ++ successfulAttempt) (fun state => succeeds state && visited state) (by decide +kernel)
  rw [Bool.and_eq_true] at tested
  obtain ⟨succeeded,visited⟩ := tested
  simp only [succeeds] at succeeded
  split at succeeded
  next submission service action queue receipt history found =>
    obtain ⟨first,second⟩ := of_decide_eq_true succeeded
    subst first second
    rw [Submitting.visited,Option.any_eq_true] at visited
    obtain ⟨next,stored,visited⟩ := visited
    rw [Bool.and_eq_true] at visited
    obtain ⟨final,continued⟩ := Option.isSome_iff_exists.mp visited.1
    exact ⟨state,next,final,reached,stored,continued,run_burned deployedPrimitives 172800 _ burnedQueueVisits state next final reached
      .second submission2 service cafeAction queue receipt history 1001 found stored continued
      (of_decide_eq_true visited.2)⟩
  next => cases succeeded

/-! ## No signer is lost -/

def RemovesNone (self : Submitting ι) (act : Act ι) (_ : Submitting ι) : Prop := self.removed act = none

/-- The queue has been burned, or every signer it had is still in it. -/
def Extends (before after : QuorumQueue) : Prop :=
  match before,after with
  | _,.burned _ => True
  | .active held,.active longer => signers prim held ⊆ signers prim longer
  | .burned _,.active _ => False

theorem Extends.refl (queue : QuorumQueue) : Extends prim queue queue := by
  cases queue with
  | burned timestamp => trivial
  | active held => exact fun _ member => member

theorem Extends.trans (first second third : QuorumQueue) (before : Extends prim first second)
    (after : Extends prim second third) : Extends prim first third := by
  cases third with
  | burned timestamp => trivial
  | active last =>
    cases second with
    | burned timestamp => exact after.elim
    | active middle =>
      cases first with
      | burned timestamp => exact before.elim
      | active held => exact fun _ member => after (before member)

/-- The queue has been burned, or holds a submission of the same signer. -/
def Retains (submission : Submission) : QuorumQueue → Prop
  | .burned _ => True
  | .active held => ∃ signer, submission.signer prim = .ok signer ∧ signer ∈ signers prim held

theorem Retains.extends (submission : Submission) (before after : QuorumQueue)
    (retains : Retains prim submission before) (longer : Extends prim before after) :
    Retains prim submission after := by
  cases after with
  | burned timestamp => trivial
  | active last =>
    cases before with
    | burned timestamp => exact longer.elim
    | active held =>
      obtain ⟨signer,known,member⟩ := retains
      exact ⟨signer,known,longer member⟩

/-- The queue in which a task has stored the submissions of a failed attempt. -/
def failedQueue (task : ActionTask) : Option QuorumQueueId :=
  match task.work with
  | .submit action (.stored (.error _) _) => some ⟨task.submission.eventId,action⟩
  | .submit action (.leaving (.finished (.error _) _ _)) => some ⟨task.submission.eventId,action⟩
  | .submit action (.ended (.finished (.error _) _ _)) => some ⟨task.submission.eventId,action⟩
  | _ => none

def Retained (self : Submitting ι) : Prop :=
  ∀ i task, self.tasks i = some task → ∀ id, failedQueue task = some id →
    Retains prim task.submission (getQuorumQueue self.quorumQueues id)

def RetainedIn (self : Submitting ι) (id : QuorumQueueId) : Prop :=
  ∀ i task, self.tasks i = some task → failedQueue task = some id →
    Retains prim task.submission (getQuorumQueue self.quorumQueues id)

theorem appended_retains (id : QuorumQueueId) (held queue : List Submission) (submission : Submission)
    (appended : appendSubmissionToQueue prim id held submission = .ok queue) :
    Retains prim submission (.active queue) := by
  obtain ⟨member,⟨signer,known⟩,_,_⟩ := appendSubmissionToQueue_spec prim id held queue submission appended
  exact ⟨signer,known,submission,member,known⟩

omit [DecidableEq ι] in
theorem RemovesNone.spares {self next : Submitting ι} {act : Act ι} (uncleaned : RemovesNone self act next)
    (id : QuorumQueueId) : Spares id self act next := by
  intro removed
  rw [uncleaned] at removed
  cases removed

theorem step_extends (self : Submitting ι) (act : Act ι) (next : Submitting ι) (id : QuorumQueueId)
    (taken : self.step prim act = some next) (spared : Spares id self act next) (serial : Serial prim self) :
    Extends prim (getQuorumQueue self.quorumQueues id) (getQuorumQueue next.quorumQueues id) := by
  rcases step_stored prim self act next taken serial id with kept | stored | ⟨removed,_⟩
  · simp only [getQuorumQueue,kept]
    exact .refl prim _
  · obtain ⟨_,submission,_,_,queue,result,_,now,held,_,_,_,stored,appended,same⟩ := stored
    rw [same,getQuorumQueue_storeResult,stored]
    cases result with
    | ok receipt => trivial
    | error error => exact (appendSubmissionToQueue_spec prim id held queue submission appended).2.2.1
  · exact absurd removed spared

theorem step_retainedIn (self : Submitting ι) (act : Act ι) (next : Submitting ι) (id : QuorumQueueId)
    (taken : self.step prim act = some next) (spared : Spares id self act next) (serial : Serial prim self)
    (retained : self.RetainedIn prim id) : next.RetainedIn prim id := by
  have longer := step_extends prim self act next id taken spared serial
  let holds : ι → ActionTask → Prop := fun _ task => failedQueue task = some id →
    Retains prim task.submission (getQuorumQueue next.quorumQueues id)
  have unfailed : ∀ j task, failedQueue task = none → holds j task := by
    intro j task none failed
    rw [none] at failed
    cases failed
  have kept : ∀ j task, self.tasks j = some task → holds j task := by
    intro j task found failed
    exact .extends prim task.submission _ _ (retained j task found failed) longer
  have others : ∀ i j task, j ≠ i → self.tasks j = some task → holds j task :=
    fun _ j task _ => kept j task
  cases step_taken prim self act next taken with
  | submit i => exact forall_setTask _ holds i _ (unfailed i _ rfl) (others i)
  | timer i => exact forall_setTask self holds i _ (unfailed i _ rfl) (others i)
  | queueLock => exact kept
  | load i submission service action key lock locking entered =>
    refine forall_setTask self holds i _ ?_ (others i)
    cases stored : getQuorumQueue self.quorumQueues ⟨submission.eventId,action⟩ with
    | burned timestamp => exact unfailed i _ rfl
    | active queue => exact unfailed i _ rfl
  | unappended i => exact forall_setTask self holds i _ (unfailed i _ rfl) (others i)
  | appended i => exact forall_setTask _ holds i _ (unfailed i _ rfl) (others i)
  | chainLock => exact kept
  | enter i => exact forall_setTask self holds i _ (unfailed i _ rfl) (others i)
  | answer i => exact forall_setTask self holds i _ (unfailed i _ rfl) (others i)
  | leaveChain i => exact forall_setTask _ holds i _ (unfailed i _ rfl) (others i)
  | store i submission service action queue result history now attempted left =>
    refine forall_setTask (self.setQueues _) holds i _ ?_ (others i)
    intro failed
    cases result with
    | ok receipt => cases failed
    | error error =>
      cases failed
      obtain ⟨⟨held,stored,appended⟩,_⟩ := serial.knows i _ attempted
      simp only [setTask,setQueues,getQuorumQueue_storeResult]
      exact appended_retains prim _ held queue submission appended
  | notify i submission service action result history delivered stored =>
    refine forall_setTask _ holds i _ ?_ (others i)
    cases result with
    | ok receipt => exact unfailed i _ rfl
    | error error =>
      have own := kept i _ stored
      exact own
  | finish i submission service action outcome transaction leaving finished =>
    refine forall_setTask _ holds i _ ?_ (others i)
    cases outcome with
    | burned timestamp => exact unfailed i _ rfl
    | unappended error => exact unfailed i _ rfl
    | finished result history delivered =>
      cases result with
      | ok receipt => exact unfailed i _ rfl
      | error error =>
        have own := kept i _ leaving
        exact own
  | fire i => exact forall_setTask _ holds i _ (unfailed i _ rfl) (others i)
  | cleanup => exact kept

theorem step_retained (self : Submitting ι) (act : Act ι) (next : Submitting ι)
    (taken : self.step prim act = some next) (uncleaned : RemovesNone self act next) (serial : Serial prim self)
    (retained : self.Retained prim) : next.Retained prim :=
  fun i task found id failed => step_retainedIn prim self act next id taken (uncleaned.spares id) serial
    (fun j other held => retained j other held id) i task found failed

/-- In every interleaving whose clean-ups remove no queue, a task that ended with a failed attempt
has left its signer in the queue, and no stored queue loses a signer. -/
theorem run_keeps_signers (ttlSecs : UInt64) (acts later : List (Act ι)) (state final : Submitting ι)
    (reached : run (step prim) (new ttlSecs) acts = some state)
    (continued : run (step prim) state later = some final)
    (uncleaned : Along (step prim) RemovesNone (new ttlSecs) (acts ++ later)) :
    (∀ id, Extends prim (getQuorumQueue state.quorumQueues id) (getQuorumQueue final.quorumQueues id)) ∧
      ∀ i submission service action error history delivered,
        final.tasks i = some ⟨submission,service,.submit action
          (.ended (.finished (.error error) history delivered))⟩ →
        Retains prim submission (getQuorumQueue final.quorumQueues ⟨submission.eventId,action⟩) := by
  have whole : run (step prim) (new ttlSecs) (acts ++ later) = some final :=
    (run_append (new ttlSecs) final acts later).mpr ⟨state,reached,continued⟩
  have after := along_append (new ttlSecs) state acts later reached uncleaned
  refine ⟨?_,?_⟩
  · intro id
    let inv : Submitting ι → Prop := fun now => Serial prim now ∧
      Extends prim (getQuorumQueue state.quorumQueues id) (getQuorumQueue now.quorumQueues id)
    have keeps : ∀ self act next, self.step prim act = some next → RemovesNone self act next →
        inv self → inv next := by
      intro self act next taken uncleaned kept
      obtain ⟨serial,longer⟩ := kept
      have grown := step_extends prim self act next id taken (uncleaned.spares id) serial
      exact ⟨step_serial prim self act next taken serial,.trans prim _ _ _ longer grown⟩
    have start : inv state := ⟨run_serial prim ttlSecs acts state reached,.refl prim _⟩
    exact (invariant_along RemovesNone inv keeps state final later continued after start).2
  · intro i submission service action error history delivered ended
    let inv : Submitting ι → Prop := fun now => Serial prim now ∧ now.Retained prim
    have keeps : ∀ self act next, self.step prim act = some next → RemovesNone self act next →
        inv self → inv next := by
      intro self act next taken uncleaned kept
      obtain ⟨serial,retained⟩ := kept
      exact ⟨step_serial prim self act next taken serial,
        step_retained prim self act next taken uncleaned serial retained⟩
    have start : inv (new ttlSecs) := by
      refine ⟨new_serial prim ttlSecs,?_⟩
      intro i task found
      cases found
    have retained := (invariant_along RemovesNone inv keeps (new ttlSecs) final (acts ++ later) whole
      uncleaned start).2
    exact retained i _ ended _ rfl

instance decidableRemovesNone (self : Submitting ι) (act : Act ι) (next : Submitting ι) :
    Decidable (RemovesNone self act next) :=
  inferInstanceAs (Decidable (self.removed act = none))

def failedAgain : List (Act Caller) :=
  List.flatten [[.spawn .second submission2 deployedService (.submit cafeAction)],laterAttempt .second,
    missingCredential.map (.answer .second),storing .second 1001]

def endedFailed (state : Submitting Caller) (i : Caller) : Bool :=
  match state.tasks i with
  | some ⟨_,_,.submit _ (.ended (.finished (.error _) _ _))⟩ => true
  | _ => false

theorem failedAgain_keeps_signers :
    ∃ state final, run (step deployedPrimitives) (new 172800) failedAttempt = some state ∧
      run (step deployedPrimitives) state failedAgain = some final ∧
      (endedFailed final .first && endedFailed final .second) = true ∧
      (∀ id, Extends deployedPrimitives (getQuorumQueue state.quorumQueues id)
        (getQuorumQueue final.quorumQueues id)) ∧
      ∀ i submission service action error history delivered,
        final.tasks i = some ⟨submission,service,.submit action
          (.ended (.finished (.error error) history delivered))⟩ →
        Retains deployedPrimitives submission (getQuorumQueue final.quorumQueues ⟨submission.eventId,action⟩) := by
  obtain ⟨final,whole,ended⟩ := run_any (step deployedPrimitives) (new 172800) (failedAttempt ++ failedAgain)
    (fun final => endedFailed final .first && endedFailed final .second) (by decide +kernel)
  obtain ⟨state,reached,continued⟩ := (run_append (new 172800) final failedAttempt failedAgain).mp whole
  exact ⟨state,final,reached,continued,ended,run_keeps_signers deployedPrimitives 172800 failedAttempt
    failedAgain state final reached continued (by decide +kernel)⟩

end Warpdrive.Aggregator.Submitting
