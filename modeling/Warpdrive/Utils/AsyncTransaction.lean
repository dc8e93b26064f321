import Warpdrive.Foundation.Execution
import Warpdrive.Foundation.KeyedLock

/-! The per-key transactional executor of `utils/src/async_transaction.rs`. Every
call of `run` is cut at its await points, so that a list of actions is one
interleaving of all calls of `run` and `remove_key`. The registry lock is never
held across an await point, so each access to the registry is one action.
A call is `started` before `self.locks.read().await`, `missed` when the read found
no mutex (before `self.locks.write().await`), `waiting` before
`lock_arc.lock().await`, `critical` while `_guard` is alive and the closure runs,
`left` once the guard is dropped (before the strong-count test) and `pruning` when
the test succeeded (before the second `self.locks.write().await`). A `MutexId` is
the identity of one `Arc<Mutex<()>>` allocation; `guards` names the call whose
guard locks it, and `allocated` numbers the next allocation. -/
namespace Warpdrive.Utils
open Warpdrive.Foundation Warpdrive.Foundation.Execution

abbrev MutexId := Nat

inductive Call (K : Type)
  | idle
  | started (key : K)
  | missed (key : K)
  | waiting (key : K) (lock : MutexId)
  | critical (key : K) (lock : MutexId)
  | left (key : K) (lock : MutexId)
  | pruning (key : K) (lock : MutexId)
  | returned
  deriving DecidableEq

def Call.hold {K : Type} : Call K → KeyedLock.Hold K MutexId
  | .waiting key lock => .waiting key lock
  | .critical key lock => .inside key lock
  | _ => .out

/-- The call is on its way into the section of the key, or inside it. -/
def Call.Awaits {K : Type} (key : K) : Call K → Prop
  | .started other => other = key
  | .missed other => other = key
  | .waiting other _ => other = key
  | .critical other _ => other = key
  | _ => False

structure AsyncTransaction (K ι : Type) where
  locks : K → Option MutexId
  cleanupEnabled : Bool
  guards : MutexId → Option ι
  strongCount : MutexId → Nat
  allocated : MutexId
  calls : ι → Call K

namespace AsyncTransaction

variable {K ι : Type}

def new (cleanupEnabled : Bool) : AsyncTransaction K ι where
  locks := fun _ => none
  cleanupEnabled := cleanupEnabled
  guards := fun _ => none
  strongCount := fun _ => 0
  allocated := 0
  calls := fun _ => .idle

inductive Act (K ι : Type)
  | call (i : ι) (key : K)
  | read (i : ι)
  | write (i : ι)
  | lock (i : ι)
  | finish (i : ι)
  | testCount (i : ι)
  | prune (i : ι)
  | removeKey (key : K)

/-- The call that an action belongs to. -/
def Act.caller : Act K ι → Option ι
  | .call i _ => some i
  | .read i => some i
  | .write i => some i
  | .lock i => some i
  | .finish i => some i
  | .testCount i => some i
  | .prune i => some i
  | .removeKey _ => none

variable [DecidableEq K] [DecidableEq ι]

def setCall (self : AsyncTransaction K ι) (i : ι) (call : Call K) : AsyncTransaction K ι :=
  {self with calls := Function.update self.calls i call}

def clone (self : AsyncTransaction K ι) (i : ι) (key : K) (lock : MutexId) : AsyncTransaction K ι :=
  {self with strongCount := Function.update self.strongCount lock (self.strongCount lock + 1)}.setCall i
    (.waiting key lock)

def dropArc (self : AsyncTransaction K ι) (lock : MutexId) : AsyncTransaction K ι :=
  {self with strongCount := Function.update self.strongCount lock (self.strongCount lock - 1)}

def removeEntry (self : AsyncTransaction K ι) (key : K) : AsyncTransaction K ι :=
  match self.locks key with
  | none => self
  | some lock => {self with locks := Function.update self.locks key none}.dropArc lock

def orInsert (self : AsyncTransaction K ι) (i : ι) (key : K) : AsyncTransaction K ι :=
  match self.locks key with
  | some lock => self.clone i key lock
  | none =>
    {self with
      locks := Function.update self.locks key (some self.allocated)
      strongCount := Function.update self.strongCount self.allocated 1
      allocated := self.allocated + 1}.clone i key self.allocated

def step (self : AsyncTransaction K ι) : Act K ι → Option (AsyncTransaction K ι)
  | .call i key =>
    match self.calls i with
    | .idle | .returned => some (self.setCall i (.started key))
    | _ => none
  | .read i =>
    match self.calls i with
    | .started key =>
      match self.locks key with
      | some lock => some (self.clone i key lock)
      | none => some (self.setCall i (.missed key))
    | _ => none
  | .write i =>
    match self.calls i with
    | .missed key => some (self.orInsert i key)
    | _ => none
  | .lock i =>
    match self.calls i with
    | .waiting key lock =>
      match self.guards lock with
      | some _ => none
      | none => some ({self with guards := Function.update self.guards lock (some i)}.setCall i
          (.critical key lock))
    | _ => none
  | .finish i =>
    match self.calls i with
    | .critical key lock => some ({self with guards := Function.update self.guards lock none}.setCall i
        (.left key lock))
    | _ => none
  | .testCount i =>
    match self.calls i with
    | .left key lock =>
      if self.cleanupEnabled && self.strongCount lock == 2 then some (self.setCall i (.pruning key lock))
      else some ((self.dropArc lock).setCall i .returned)
    | _ => none
  | .prune i =>
    match self.calls i with
    | .pruning key lock => some (((self.removeEntry key).dropArc lock).setCall i .returned)
    | _ => none
  | .removeKey key => some (self.removeEntry key)

/-- What one action does, with the state of the call that allows it. -/
inductive Taken (self : AsyncTransaction K ι) : Act K ι → AsyncTransaction K ι → Prop
  | call (i key) (ready : self.calls i = .idle ∨ self.calls i = .returned) :
      Taken self (.call i key) (self.setCall i (.started key))
  | fetch (i key lock) (started : self.calls i = .started key) (found : self.locks key = some lock) :
      Taken self (.read i) (self.clone i key lock)
  | miss (i key) (started : self.calls i = .started key) (absent : self.locks key = none) :
      Taken self (.read i) (self.setCall i (.missed key))
  | write (i key) (missed : self.calls i = .missed key) : Taken self (.write i) (self.orInsert i key)
  | lock (i key lock) (waits : self.calls i = .waiting key lock) (free : self.guards lock = none) :
      Taken self (.lock i) ({self with guards := Function.update self.guards lock (some i)}.setCall i
        (.critical key lock))
  | finish (i key lock) (entered : self.calls i = .critical key lock) :
      Taken self (.finish i) ({self with guards := Function.update self.guards lock none}.setCall i
        (.left key lock))
  | unused (i key lock) (left : self.calls i = .left key lock)
      (enabled : self.cleanupEnabled = true) (count : self.strongCount lock = 2) :
      Taken self (.testCount i) (self.setCall i (.pruning key lock))
  | used (i key lock) (left : self.calls i = .left key lock)
      (kept : ¬ (self.cleanupEnabled = true ∧ self.strongCount lock = 2)) :
      Taken self (.testCount i) ((self.dropArc lock).setCall i .returned)
  | prune (i key lock) (pruning : self.calls i = .pruning key lock) :
      Taken self (.prune i) (((self.removeEntry key).dropArc lock).setCall i .returned)
  | removeKey (key) : Taken self (.removeKey key) (self.removeEntry key)

theorem step_taken (self : AsyncTransaction K ι) (act : Act K ι) (next : AsyncTransaction K ι)
    (taken : self.step act = some next) : Taken self act next := by
  cases act with
  | call i key =>
    simp only [step] at taken
    split at taken
    next idle =>
      cases taken
      exact .call i key (.inl idle)
    next returned =>
      cases taken
      exact .call i key (.inr returned)
    next => contradiction
  | read i =>
    simp only [step] at taken
    split at taken
    next key started =>
      split at taken
      next lock found =>
        cases taken
        exact .fetch i key lock started found
      next absent =>
        cases taken
        exact .miss i key started absent
    next => contradiction
  | write i =>
    simp only [step] at taken
    split at taken
    next key missed =>
      cases taken
      exact .write i key missed
    next => contradiction
  | lock i =>
    simp only [step] at taken
    split at taken
    next key lock waits =>
      split at taken
      next => contradiction
      next free =>
        cases taken
        exact .lock i key lock waits free
    next => contradiction
  | finish i =>
    simp only [step] at taken
    split at taken
    next key lock entered =>
      cases taken
      exact .finish i key lock entered
    next => contradiction
  | testCount i =>
    simp only [step] at taken
    split at taken
    next key lock left =>
      split at taken
      next tested =>
        cases taken
        rw [Bool.and_eq_true,beq_iff_eq] at tested
        exact .unused i key lock left tested.1 tested.2
      next tested =>
        cases taken
        rw [Bool.and_eq_true,beq_iff_eq] at tested
        exact .used i key lock left tested
    next => contradiction
  | prune i =>
    simp only [step] at taken
    split at taken
    next key lock pruning =>
      cases taken
      exact .prune i key lock pruning
    next => contradiction
  | removeKey key =>
    cases taken
    exact .removeKey key

def registry (self : AsyncTransaction K ι) : KeyedLock.Locks K ι MutexId where
  entry := self.locks
  owner := self.guards
  hold := fun i => (self.calls i).hold

/-- The key's entry is removed only while no call waits for the key's mutex or is
inside its section. Every other action is unrestricted. -/
def RemovesQuietly (self : AsyncTransaction K ι) : Act K ι → AsyncTransaction K ι → Prop
  | .prune i,_ =>
    match self.calls i with
    | .pruning key _ => self.registry.Quiet key
    | _ => True
  | .removeKey key,_ => self.registry.Quiet key
  | _,_ => True

instance decidableRemovesQuietly [Fintype ι] (self next : AsyncTransaction K ι) (act : Act K ι) :
    Decidable (self.RemovesQuietly act next) :=
  match act with
  | .prune i =>
    match found : self.calls i with
    | .pruning key _ => decidable_of_iff (self.registry.Quiet key) (by simp [RemovesQuietly,found])
    | .idle | .started _ | .missed _ | .waiting _ _ | .critical _ _ | .left _ _ | .returned =>
      .isTrue (by simp [RemovesQuietly,found])
  | .removeKey key => inferInstanceAs (Decidable (self.registry.Quiet key))
  | .call _ _ | .read _ | .write _ | .lock _ | .finish _ | .testCount _ => .isTrue trivial

omit [DecidableEq K] in
theorem registry_setCall (self : AsyncTransaction K ι) (i : ι) (call : Call K) :
    (self.setCall i call).registry =
      {self.registry with hold := Function.update self.registry.hold i call.hold} := by
  simp only [registry,setCall,KeyedLock.Locks.mk.injEq,true_and]
  funext j
  by_cases same : j = i
  · subst j
    simp
  · simp [Function.update_of_ne same]

omit [DecidableEq K] [DecidableEq ι] in
theorem registry_dropArc (self : AsyncTransaction K ι) (lock : MutexId) :
    (self.dropArc lock).registry = self.registry := rfl

omit [DecidableEq ι] in
theorem registry_removeEntry (self : AsyncTransaction K ι) (key : K) :
    (self.removeEntry key).registry =
      {self.registry with entry := Function.update self.registry.entry key none} := by
  unfold removeEntry
  split
  next absent =>
    simp only [registry,← absent,Function.update_eq_self]
  next lock found => rfl

omit [DecidableEq K] in
theorem registry_hidden (self : AsyncTransaction K ι) (i : ι) (call : Call K)
    (before : (self.calls i).hold = .out) (after : call.hold = .out) :
    (self.setCall i call).registry = self.registry := by
  have same : Function.update self.registry.hold i call.hold = self.registry.hold := by
    rw [after,← before]
    exact Function.update_eq_self i self.registry.hold
  rw [registry_setCall,same]

theorem orInsert_refines (self : AsyncTransaction K ι) (i : ι) (key : K) :
    KeyedLock.Step self.registry (self.orInsert i key).registry := by
  unfold orInsert
  split
  next lock found =>
    rw [clone,registry_setCall]
    exact .fetch self.registry i key lock found
  next absent =>
    rw [clone,registry_setCall]
    exact .create self.registry i key self.allocated absent

omit [DecidableEq ι] in
theorem calls_removeEntry (self : AsyncTransaction K ι) (key : K) : (self.removeEntry key).calls = self.calls := by
  unfold removeEntry
  split <;> rfl

/-- One step of the executor is one step of the keyed registry, or is not visible
in it. -/
theorem step_refines (self : AsyncTransaction K ι) (act : Act K ι) (next : AsyncTransaction K ι)
    (taken : self.step act = some next) (quiet : self.RemovesQuietly act next) :
    Relation.ReflGen KeyedLock.Step self.registry next.registry := by
  cases step_taken self act next taken with
  | call i key ready =>
    have hidden : (self.calls i).hold = .out := by
      rcases ready with idle | returned
      · simp [idle,Call.hold]
      · simp [returned,Call.hold]
    rw [registry_hidden self i _ hidden rfl]
  | fetch i key lock started found =>
    rw [clone,registry_setCall]
    exact .single (.fetch self.registry i key lock found)
  | miss i key started absent =>
    have hidden : (self.calls i).hold = .out := by simp [started,Call.hold]
    rw [registry_hidden self i _ hidden rfl]
  | write i key missed => exact .single (orInsert_refines self i key)
  | lock i key lock waits free =>
    have waiting : self.registry.hold i = .waiting key lock := by simp [registry,waits,Call.hold]
    rw [registry_setCall]
    exact .single (.enter self.registry i key lock waiting free)
  | finish i key lock entered =>
    have inside : self.registry.hold i = .inside key lock := by simp [registry,entered,Call.hold]
    rw [registry_setCall]
    exact .single (.leave self.registry i key lock inside)
  | unused i key lock left enabled count =>
    have hidden : (self.calls i).hold = .out := by simp [left,Call.hold]
    rw [registry_hidden self i _ hidden rfl]
  | used i key lock left kept =>
    have hidden : (self.calls i).hold = .out := by simp [left,Call.hold]
    rw [registry_hidden (self.dropArc lock) i _ hidden rfl,registry_dropArc]
  | prune i key lock pruning =>
    have hidden : (((self.removeEntry key).dropArc lock).calls i).hold = .out := by
      simp [dropArc,calls_removeEntry,pruning,Call.hold]
    have quiet : self.registry.Quiet key := by simpa [RemovesQuietly,pruning] using quiet
    rw [registry_hidden _ i _ hidden rfl,registry_dropArc,registry_removeEntry]
    exact .single (.remove _ key quiet)
  | removeKey key =>
    rw [registry_removeEntry]
    exact .single (.remove _ key quiet)

omit [DecidableEq K] [DecidableEq ι] in
theorem new_coherent (cleanupEnabled : Bool) :
    KeyedLock.Coherent (new cleanupEnabled : AsyncTransaction K ι).registry := by
  constructor
  · intro i key lock claimed
    simp [registry,new,Call.hold,KeyedLock.Hold.claim] at claimed
  · intro i key lock entered
    simp [registry,new,Call.hold] at entered

theorem step_coherent (self : AsyncTransaction K ι) (act : Act K ι) (next : AsyncTransaction K ι)
    (taken : self.step act = some next) (quiet : self.RemovesQuietly act next)
    (coherent : KeyedLock.Coherent self.registry) : KeyedLock.Coherent next.registry :=
  KeyedLock.refined_coherent (step_refines self act next taken quiet) coherent

omit [DecidableEq K] [DecidableEq ι] in
theorem critical_unique (self : AsyncTransaction K ι) (coherent : KeyedLock.Coherent self.registry)
    (i j : ι) (key : K) (a b : MutexId) (first : self.calls i = .critical key a)
    (second : self.calls j = .critical key b) : i = j := by
  have inFirst : self.registry.hold i = .inside key a := by simp [registry,first,Call.hold]
  have inSecond : self.registry.hold j = .inside key b := by simp [registry,second,Call.hold]
  exact coherent.exclusive i j key a b inFirst inSecond

omit [DecidableEq K] in
theorem calls_setCall_ne (self : AsyncTransaction K ι) (i j : ι) (call : Call K) (differ : j ≠ i) :
    (self.setCall i call).calls j = self.calls j := by
  simp [setCall,Function.update_of_ne differ]

/-- An action moves no call but its own. -/
theorem step_calls (self : AsyncTransaction K ι) (act : Act K ι) (next : AsyncTransaction K ι)
    (taken : self.step act = some next) (j : ι) (other : act.caller ≠ some j) :
    next.calls j = self.calls j := by
  have differ : ∀ i, act.caller = some i → j ≠ i := by
    intro i called same
    exact other (by rw [called,same])
  cases step_taken self act next taken with
  | call i => exact calls_setCall_ne self i j _ (differ i rfl)
  | fetch i => exact calls_setCall_ne _ i j _ (differ i rfl)
  | miss i => exact calls_setCall_ne self i j _ (differ i rfl)
  | write i =>
    unfold orInsert
    split
    · exact calls_setCall_ne _ i j _ (differ i rfl)
    · exact calls_setCall_ne _ i j _ (differ i rfl)
  | lock i => exact calls_setCall_ne _ i j _ (differ i rfl)
  | finish i => exact calls_setCall_ne _ i j _ (differ i rfl)
  | unused i => exact calls_setCall_ne self i j _ (differ i rfl)
  | used i => exact calls_setCall_ne _ i j _ (differ i rfl)
  | prune i key =>
    rw [calls_setCall_ne _ i j _ (differ i rfl)]
    exact congrFun (calls_removeEntry self key) j
  | removeKey key => exact congrFun (calls_removeEntry self key) j

theorem call_started (self : AsyncTransaction K ι) (i : ι) (key : K) (next : AsyncTransaction K ι)
    (taken : self.step (.call i key) = some next) : next.calls i = .started key := by
  cases step_taken self _ next taken with
  | call i key ready => exact Function.update_self i _ self.calls

/-- Mutual exclusion per key in every state reached by an interleaving whose
removals, explicit or by pruning, find the key quiet. -/
theorem run_exclusive (cleanupEnabled : Bool) (acts : List (Act K ι)) (final : AsyncTransaction K ι)
    (reached : run step (new cleanupEnabled) acts = some final)
    (quiet : Along step RemovesQuietly (new cleanupEnabled) acts)
    (i j : ι) (key : K) (a b : MutexId) (first : final.calls i = .critical key a)
    (second : final.calls j = .critical key b) : i = j := by
  have coherent := invariant_along RemovesQuietly (fun self => KeyedLock.Coherent self.registry)
    step_coherent (new cleanupEnabled) final acts reached quiet (new_coherent cleanupEnabled)
  exact critical_unique final coherent i j key a b first second

/-- The first call prunes the unused mutex, and the second one runs on a new mutex. -/
def prunedSchedule : List (Act String (Fin 2)) :=
  [.call 0 "foo",.read 0,.write 0,.lock 0,.finish 0,.testCount 0,.prune 0,
    .call 1 "foo",.read 1,.write 1,.lock 1]

theorem prunedSchedule_exclusive :
    ∃ final, run step (new true) prunedSchedule = some final ∧ final.calls 1 = .critical "foo" 1 ∧
      ∀ i, ∀ lock, final.calls i = .critical "foo" lock → i = 1 := by
  refine ⟨_,rfl,rfl,?_⟩
  intro i lock entered
  exact run_exclusive true prunedSchedule _ rfl (by decide) i 1 "foo" lock 1 entered rfl

/-- Two calls are inside the section of one key: after `remove_key` under a running
transaction, and, with cleanup enabled, after a prune that awaited the write lock
while a second call took the mutex. -/
theorem removal_shares_section :
    (∃ final : AsyncTransaction String (Fin 3), run step (new false)
        [.call 0 "foo",.read 0,.write 0,.lock 0,.removeKey "foo",
          .call 1 "foo",.read 1,.write 1,.lock 1] = some final ∧
      final.calls 0 = .critical "foo" 0 ∧ final.calls 1 = .critical "foo" 1) ∧
    (∃ final : AsyncTransaction String (Fin 3), run step (new true)
        [.call 0 "foo",.read 0,.write 0,.lock 0,.finish 0,.testCount 0,
          .call 1 "foo",.read 1,.lock 1,.prune 0,
          .call 2 "foo",.read 2,.write 2,.lock 2] = some final ∧
      final.calls 1 = .critical "foo" 0 ∧ final.calls 2 = .critical "foo" 1) :=
  ⟨⟨_,rfl,rfl,rfl⟩,⟨_,rfl,rfl,rfl⟩⟩

end AsyncTransaction
end Warpdrive.Utils
