import Warpdrive.Aggregator.Serial
import Warpdrive.Utils.TransactionWaits

/-! Where a submit task is in its two nested transactions: the chain's transaction is
entered inside the queue's and left before the queue's is. Hence the attempts on one
chain are serialised, whatever queues they are for. -/
namespace Warpdrive.Aggregator.Submitting
open Warpdrive.Foundation Warpdrive.Foundation.Execution Warpdrive.Types Warpdrive.Utils

variable {ι : Type}

def Inside {K : Type} (key : K) (call : Call K) : Prop := ∃ lock, call = .critical key lock

def Located (queue : Call QuorumQueueId) (chain : Call ChainKey) : Option ActionTask → Prop
  | none => queue = .idle ∧ chain = .idle
  | some ⟨_,_,.timer _ _⟩ => queue = .idle ∧ chain = .idle
  | some ⟨submission,_,.submit action phase⟩ =>
    match phase with
    | .locking => queue.Awaits ⟨submission.eventId,action⟩ ∧ chain = .idle
    | .loaded _ => Inside ⟨submission.eventId,action⟩ queue ∧ chain = .idle
    | .submitting _ => Inside ⟨submission.eventId,action⟩ queue ∧ chain.Awaits action.chain
    | .attempting _ _ _ => Inside ⟨submission.eventId,action⟩ queue ∧ Inside action.chain chain
    | .attempted _ _ _ => Inside ⟨submission.eventId,action⟩ queue ∧ chain.Past
    | .stored _ _ => Inside ⟨submission.eventId,action⟩ queue ∧ (chain = .idle ∨ chain = .returned)
    | .leaving _ => Inside ⟨submission.eventId,action⟩ queue ∧ (chain = .idle ∨ chain = .returned)
    | .ended _ => queue.Past ∧ (chain = .idle ∨ chain = .returned)

structure Nested (state : Submitting ι) : Prop where
  queue : state.queueTransaction.Tended
  chain : state.chainTransaction.Tended
  exclusive : KeyedLock.Coherent state.chainTransaction.registry
  located : ∀ i, Located (state.queueTransaction.calls i) (state.chainTransaction.calls i) (state.tasks i)

theorem new_nested (ttlSecs : UInt64) : Nested (new ttlSecs : Submitting ι) :=
  ⟨AsyncTransaction.new_tended,AsyncTransaction.new_tended,AsyncTransaction.new_coherent false,
    fun _ => ⟨rfl,rfl⟩⟩

variable [DecidableEq ι] (prim : Primitives)

theorem located_setTask (self : Submitting ι) (i : ι) (task : ActionTask)
    (own : Located (self.queueTransaction.calls i) (self.chainTransaction.calls i) (some task))
    (others : ∀ j, j ≠ i → Located (self.queueTransaction.calls j) (self.chainTransaction.calls j) (self.tasks j)) :
    ∀ j, Located ((self.setTask i task).queueTransaction.calls j) ((self.setTask i task).chainTransaction.calls j)
      ((self.setTask i task).tasks j) := by
  intro j
  by_cases same : j = i
  · subst same
    simp only [setTask,Function.update_self]
    exact own
  · simp only [setTask,Function.update_of_ne same]
    exact others j same

/-- A step of one call leaves the calls of the other tasks where they are. -/
theorem calls_others {K : Type} [DecidableEq K] (self next : AsyncTransaction K ι) (act : AsyncTransaction.Act K ι)
    (taken : self.step act = some next) (i : ι) (caller : act.caller = some i) (j : ι) (differ : j ≠ i) :
    next.calls j = self.calls j := by
  refine AsyncTransaction.step_calls self act next taken j ?_
  rw [caller]
  intro equal
  exact differ (Option.some.inj equal).symm

omit [DecidableEq ι] in
theorem call_finished {K : Type} [DecidableEq ι] [DecidableEq K] (self : AsyncTransaction K ι) (i : ι)
    (next : AsyncTransaction K ι) (taken : self.step (.finish i) = some next) : (next.calls i).Past := by
  cases AsyncTransaction.step_taken self _ next taken with
  | finish _ key lock entered =>
    simp only [AsyncTransaction.setCall,Function.update_self]
    trivial

/-- An access is taken on the way in, or past the section. -/
theorem access_moves {K : Type} [DecidableEq K] (self next : AsyncTransaction K ι) (tended : self.Tended) (i : ι)
    (access : LockAccess) (accessed : self.step (LockAccess.act i access) = some next) :
    (∃ key, (self.calls i).Awaits key ∧ (next.calls i).Awaits key ∧ ¬ Inside key (self.calls i)) ∨
      (∃ key lock, self.calls i = .left key lock) ∧ next.calls i = .returned := by
  have on_way : ∀ key, (self.calls i).Awaits key →
      (∃ key, (self.calls i).Awaits key ∧ (next.calls i).Awaits key ∧ ¬ Inside key (self.calls i)) ∨
        (∃ key lock, self.calls i = .left key lock) ∧ next.calls i = .returned := by
    intro key awaits
    refine .inl ⟨key,awaits,access_awaits self next i access accessed key awaits,?_⟩
    intro inside
    obtain ⟨lock,inside⟩ := inside
    exact access_outside self next i access accessed key lock inside
  cases access with
  | read =>
    cases AsyncTransaction.step_taken self _ next accessed with
    | fetch _ key lock started found => exact on_way key (by simp [started,Call.Awaits])
    | miss _ key started absent => exact on_way key (by simp [started,Call.Awaits])
  | write =>
    cases AsyncTransaction.step_taken self _ next accessed with
    | write _ key missed => exact on_way key (by simp [missed,Call.Awaits])
  | lock =>
    cases AsyncTransaction.step_taken self _ next accessed with
    | lock _ key lock waits free => exact on_way key (by simp [waits,Call.Awaits])
  | testCount =>
    cases AsyncTransaction.step_taken self _ next accessed with
    | unused _ key lock left enabled count =>
      rw [tended.kept] at enabled
      cases enabled
    | used _ key lock left kept =>
      exact .inr ⟨⟨key,lock,left⟩,by simp [AsyncTransaction.setCall]⟩

theorem located_queueAccess (self next : AsyncTransaction QuorumQueueId ι) (tended : self.Tended) (i : ι)
    (access : LockAccess) (accessed : self.step (LockAccess.act i access) = some next) (chain : Call ChainKey)
    (task : Option ActionTask) (located : Located (self.calls i) chain task) : Located (next.calls i) chain task := by
  have moved := access_moves self next tended i access accessed
  have outside : ∀ id, Inside id (self.calls i) → False := by
    intro id inside
    obtain ⟨lock,inside⟩ := inside
    exact access_outside self next i access accessed id lock inside
  have busy : self.calls i ≠ .idle := by
    intro idle
    rcases moved with ⟨key,awaits,_⟩ | ⟨⟨key,lock,left⟩,_⟩
    · simp [idle,Call.Awaits] at awaits
    · simp [idle] at left
  cases task with
  | none => exact absurd located.1 busy
  | some task =>
    obtain ⟨submission,service,stage⟩ := task
    cases stage with
    | timer => exact absurd located.1 busy
    | submit action phase =>
      cases phase with
      | locking => exact ⟨access_awaits self next i access accessed _ located.1,located.2⟩
      | loaded => exact (outside _ located.1).elim
      | submitting => exact (outside _ located.1).elim
      | attempting => exact (outside _ located.1).elim
      | attempted => exact (outside _ located.1).elim
      | stored => exact (outside _ located.1).elim
      | leaving => exact (outside _ located.1).elim
      | ended outcome =>
        refine ⟨?_,located.2⟩
        rcases moved with ⟨key,awaits,_⟩ | ⟨_,returned⟩
        · have past := located.1
          cases call : self.calls i <;> simp [call,Call.Awaits,Call.Past] at awaits past
        · rw [returned]
          trivial

theorem located_chainAccess (self next : AsyncTransaction ChainKey ι) (tended : self.Tended) (i : ι)
    (access : LockAccess) (accessed : self.step (LockAccess.act i access) = some next)
    (queue : Call QuorumQueueId) (task : Option ActionTask) (located : Located queue (self.calls i) task) :
    Located queue (next.calls i) task := by
  have moved := access_moves self next tended i access accessed
  have busy : ¬ (self.calls i = .idle ∨ self.calls i = .returned) := by
    intro quiet
    rcases moved with ⟨key,awaits,_⟩ | ⟨⟨key,lock,left⟩,_⟩
    · rcases quiet with idle | returned
      · simp [idle,Call.Awaits] at awaits
      · simp [returned,Call.Awaits] at awaits
    · simp [left] at quiet
  cases task with
  | none => exact absurd (.inl located.2) busy
  | some task =>
    obtain ⟨submission,service,stage⟩ := task
    cases stage with
    | timer => exact absurd (.inl located.2) busy
    | submit action phase =>
      cases phase with
      | locking => exact absurd (.inl located.2) busy
      | loaded => exact absurd (.inl located.2) busy
      | submitting => exact ⟨located.1,access_awaits self next i access accessed _ located.2⟩
      | attempting =>
        obtain ⟨lock,inside⟩ := located.2
        exact absurd inside (access_outside self next i access accessed _ lock)
      | attempted =>
        refine ⟨located.1,?_⟩
        rcases moved with ⟨key,awaits,_⟩ | ⟨_,returned⟩
        · have past := located.2
          cases call : self.calls i <;> simp [call,Call.Awaits,Call.Past] at awaits past
        · rw [returned]
          trivial
      | stored => exact absurd located.2 busy
      | leaving => exact absurd located.2 busy
      | ended => exact absurd located.2 busy

theorem step_located (self : Submitting ι) (act : Act ι) (next : Submitting ι)
    (taken : self.step prim act = some next) (nested : Nested self) :
    ∀ i, Located (next.queueTransaction.calls i) (next.chainTransaction.calls i) (next.tasks i) := by
  have placed := nested.located
  have others : ∀ i j, j ≠ i → Located (self.queueTransaction.calls j) (self.chainTransaction.calls j)
      (self.tasks j) := fun _ j _ => placed j
  -- A step of either transaction keeps the places of the tasks that do not take it.
  have aside : ∀ (queue : AsyncTransaction QuorumQueueId ι) (chain : AsyncTransaction ChainKey ι) i,
      (∀ j, j ≠ i → queue.calls j = self.queueTransaction.calls j) →
      (∀ j, j ≠ i → chain.calls j = self.chainTransaction.calls j) →
      ∀ j, j ≠ i → Located (queue.calls j) (chain.calls j) (self.tasks j) := by
    intro queue chain i queued chained j differ
    rw [queued j differ,chained j differ]
    exact placed j
  cases step_taken prim self act next taken with
  | submit i submission service action transaction fresh called =>
    have free := placed i
    rw [fresh] at free
    have started := AsyncTransaction.call_started _ i _ transaction called
    refine located_setTask (self.setQueueTransaction transaction) i _ ?_
      (aside transaction self.chainTransaction i (calls_others _ transaction _ called i rfl) (fun _ _ => rfl))
    refine ⟨?_,free.2⟩
    simp only [setQueueTransaction,started,Call.Awaits]
  | timer i submission service delaySecs fresh =>
    have free := placed i
    rw [fresh] at free
    exact located_setTask self i _ free (others i)
  | queueLock i access transaction accessed =>
    intro j
    by_cases same : j = i
    · subst same
      exact located_queueAccess _ transaction nested.queue j access accessed _ _ (placed j)
    · exact aside transaction self.chainTransaction i
        (calls_others _ transaction _ accessed i (access_caller i access)) (fun _ _ => rfl) j same
  | load i submission service action key lock locking entered =>
    have place := placed i
    rw [locking] at place
    refine located_setTask self i _ ?_ (others i)
    have inside : Inside ⟨submission.eventId,action⟩ (self.queueTransaction.calls i) := by
      have awaits := place.1
      simp only [entered,Call.Awaits] at awaits
      exact ⟨lock,by rw [entered,awaits]⟩
    cases getQuorumQueue self.quorumQueues ⟨submission.eventId,action⟩ with
    | burned timestamp => exact ⟨inside,.inl place.2⟩
    | active queue => exact ⟨inside,place.2⟩
  | unappended i submission service action queue error loaded failed =>
    have place := placed i
    rw [loaded] at place
    exact located_setTask self i _ ⟨place.1,.inl place.2⟩ (others i)
  | appended i submission service action queue longer transaction loaded done called =>
    have place := placed i
    rw [loaded] at place
    have started := AsyncTransaction.call_started _ i _ transaction called
    refine located_setTask (self.setChainTransaction transaction) i _ ⟨place.1,?_⟩
      (aside self.queueTransaction transaction i (fun _ _ => rfl) (calls_others _ transaction _ called i rfl))
    simp only [setChainTransaction,started,Call.Awaits]
  | chainLock i access transaction accessed =>
    intro j
    by_cases same : j = i
    · subst same
      exact located_chainAccess _ transaction nested.chain j access accessed _ _ (placed j)
    · exact aside self.queueTransaction transaction i (fun _ _ => rfl)
        (calls_others _ transaction _ accessed i (access_caller i access)) j same
  | enter i submission service action queue key lock submitting entered =>
    have place := placed i
    rw [submitting] at place
    refine located_setTask self i _ ⟨place.1,lock,?_⟩ (others i)
    have awaits := place.2
    simp only [entered,Call.Awaits] at awaits
    rw [entered,awaits]
  | answer i submission service action queue rest later history reply attempting resumed =>
    have place := placed i
    rw [attempting] at place
    exact located_setTask self i _ place (others i)
  | leaveChain i submission service action queue result history transaction attempting finished =>
    have place := placed i
    rw [attempting] at place
    exact located_setTask (self.setChainTransaction transaction) i _ ⟨place.1,call_finished _ i transaction finished⟩
      (aside self.queueTransaction transaction i (fun _ _ => rfl) (calls_others _ transaction _ finished i rfl))
  | store i submission service action queue result history now attempted left =>
    have place := placed i
    rw [attempted] at place
    exact located_setTask (self.setQueues _) i _ ⟨place.1,.inr left⟩ (others i)
  | notify i submission service action result history delivered stored =>
    have place := placed i
    rw [stored] at place
    exact located_setTask (self.send _ _) i _ place (others i)
  | finish i submission service action outcome transaction leaving finished =>
    have place := placed i
    rw [leaving] at place
    exact located_setTask (self.setQueueTransaction transaction) i _ ⟨call_finished _ i transaction finished,place.2⟩
      (aside transaction self.chainTransaction i (calls_others _ transaction _ finished i rfl) (fun _ _ => rfl))
  | fire i submission service delaySecs delivered sleeping =>
    have place := placed i
    rw [sleeping] at place
    exact located_setTask (self.send _ _) i _ place (others i)
  | cleanup => exact placed

/-- What an action does to the two transactions. -/
theorem step_transactions (self : Submitting ι) (act : Act ι) (next : Submitting ι)
    (taken : self.step prim act = some next) :
    (next.queueTransaction = self.queueTransaction ∨
      ∃ call, self.queueTransaction.step call = some next.queueTransaction) ∧
    (next.chainTransaction = self.chainTransaction ∨
      ∃ call, (∀ quiet, self.chainTransaction.RemovesQuietly call quiet) ∧
        self.chainTransaction.step call = some next.chainTransaction) := by
  cases step_taken prim self act next taken with
  | submit i submission service action transaction fresh called => exact ⟨.inr ⟨_,called⟩,.inl rfl⟩
  | queueLock i access transaction accessed => exact ⟨.inr ⟨_,accessed⟩,.inl rfl⟩
  | finish i submission service action outcome transaction leaving finished => exact ⟨.inr ⟨_,finished⟩,.inl rfl⟩
  | appended i submission service action queue longer transaction loaded done called =>
    exact ⟨.inl rfl,.inr ⟨.call i action.chain,fun _ => trivial,called⟩⟩
  | chainLock i access transaction accessed =>
    exact ⟨.inl rfl,.inr ⟨_,fun quiet => access_quiet _ quiet i access,accessed⟩⟩
  | leaveChain i submission service action queue result history transaction attempting finished =>
    exact ⟨.inl rfl,.inr ⟨.finish i,fun _ => trivial,finished⟩⟩
  | timer => exact ⟨.inl rfl,.inl rfl⟩
  | load => exact ⟨.inl rfl,.inl rfl⟩
  | unappended => exact ⟨.inl rfl,.inl rfl⟩
  | enter => exact ⟨.inl rfl,.inl rfl⟩
  | answer => exact ⟨.inl rfl,.inl rfl⟩
  | store => exact ⟨.inl rfl,.inl rfl⟩
  | notify => exact ⟨.inl rfl,.inl rfl⟩
  | fire => exact ⟨.inl rfl,.inl rfl⟩
  | cleanup => exact ⟨.inl rfl,.inl rfl⟩

theorem step_nested (self : Submitting ι) (act : Act ι) (next : Submitting ι)
    (taken : self.step prim act = some next) (nested : Nested self) : Nested next := by
  obtain ⟨queued,chained⟩ := step_transactions prim self act next taken
  refine ⟨?_,?_,?_,step_located prim self act next taken nested⟩
  · rcases queued with kept | ⟨call,stepped⟩
    · rw [kept]
      exact nested.queue
    · exact AsyncTransaction.step_tended _ call _ stepped nested.queue
  · rcases chained with kept | ⟨call,_,stepped⟩
    · rw [kept]
      exact nested.chain
    · exact AsyncTransaction.step_tended _ call _ stepped nested.chain
  · rcases chained with kept | ⟨call,quiet,stepped⟩
    · rw [kept]
      exact nested.exclusive
    · exact AsyncTransaction.step_coherent _ call _ stepped (quiet _) nested.exclusive

theorem run_nested (ttlSecs : UInt64) (acts : List (Act ι)) (final : Submitting ι)
    (reached : run (step prim) (new ttlSecs) acts = some final) : Nested final :=
  invariant Nested (step_nested prim) (new ttlSecs) final acts reached (new_nested ttlSecs)

/-- The chain that a task is attempting its submission on. -/
def attemptedChain (task : ActionTask) : Option ChainKey :=
  match task.work with
  | .submit action (.attempting _ _ _) => some action.chain
  | _ => none

omit [DecidableEq ι] in
theorem located_attempting (queue : Call QuorumQueueId) (chain : Call ChainKey) (task : ActionTask)
    (located : Located queue chain (some task)) (key : ChainKey) (attempts : attemptedChain task = some key) :
    Inside key chain ∧ ∃ id, openQueue task = some id ∧ Inside id queue := by
  obtain ⟨submission,service,work⟩ := task
  cases work with
  | timer delaySecs fired => cases attempts
  | submit action phase =>
    cases phase <;> simp only [attemptedChain,reduceCtorEq,Option.some.injEq] at attempts
    subst attempts
    exact ⟨located.2,_,rfl,located.1⟩

/-- In every interleaving of the action tasks and the clean-up, at most one attempt is
under way on each chain, and the task that makes it has its own queue open. -/
theorem run_attempts_serialised (ttlSecs : UInt64) (acts : List (Act ι)) (final : Submitting ι)
    (reached : run (step prim) (new ttlSecs) acts = some final) (chain : ChainKey) (i : ι) (first : ActionTask)
    (found : final.tasks i = some first) (attempts : attemptedChain first = some chain) :
    (∀ j second, final.tasks j = some second → attemptedChain second = some chain → j = i) ∧
      ∃ id, openQueue first = some id ∧
        ∀ j second, final.tasks j = some second → openQueue second = some id → j = i := by
  have nested := run_nested prim ttlSecs acts final reached
  have serial := run_serial prim ttlSecs acts final reached
  have place := nested.located i
  rw [found] at place
  obtain ⟨⟨lock,inside⟩,id,isOpen,_⟩ := located_attempting _ _ first place chain attempts
  refine ⟨?_,id,isOpen,?_⟩
  · intro j second other attempted
    have placed := nested.located j
    rw [other] at placed
    obtain ⟨⟨mutex,entered⟩,_⟩ := located_attempting _ _ second placed chain attempted
    exact AsyncTransaction.critical_unique final.chainTransaction nested.exclusive j i chain mutex lock entered inside
  · intro j second other opened
    exact serial.unique prim j i second first id other found opened isOpen

def otherAction : SubmitAction := .evm ⟨localChain,deployedHandler,some 1⟩

/-- The second task, of another queue, waits for the chain while the first attempts. -/
def sharedChain : List (Act Caller) :=
  List.flatten [[.spawn .first submission1 deployedService (.submit cafeAction)],firstAttempt .first,
    [.spawn .second submission2 deployedService (.submit otherAction),.queueLock .second .read,
      .queueLock .second .write,.queueLock .second .lock,.load .second,.append .second,.chainLock .second .read]]

def attemptsLocally (state : Submitting Caller) : Bool :=
  (state.tasks .first).any (fun task => attemptedChain task = some localChain)

theorem sharedChain_serialised :
    ∃ final first, run (step deployedPrimitives) (new 172800) sharedChain = some final ∧
      final.tasks .first = some first ∧
      (∀ j second, final.tasks j = some second → attemptedChain second = some localChain → j = .first) ∧
      ∃ id, openQueue first = some id ∧
        ∀ j second, final.tasks j = some second → openQueue second = some id → j = .first := by
  obtain ⟨final,reached,tested⟩ := run_any (step deployedPrimitives) (new 172800) sharedChain attemptsLocally
    (by decide +kernel)
  obtain ⟨first,found,attempts⟩ := (Option.any_eq_true _ _).mp tested
  exact ⟨final,first,reached,found,run_attempts_serialised deployedPrimitives 172800 sharedChain final reached
    localChain .first first found (of_decide_eq_true attempts)⟩

end Warpdrive.Aggregator.Submitting
