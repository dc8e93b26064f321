import Warpdrive.Utils.AsyncTransaction

/-! Who waits for whom in the per-key executor. Only a call inside a section holds a
mutex, and a mutex that has not been allocated is free, so a call on its way in either
goes on by itself or waits for a call that is inside. -/
namespace Warpdrive.Utils

namespace Call

variable {K : Type}

def lock : Call K → Option MutexId
  | .waiting _ lock => some lock
  | .critical _ lock => some lock
  | .left _ lock => some lock
  | .pruning _ lock => some lock
  | _ => none

/-- How many accesses to the registry and the mutex are left before the call is inside
its section, or before it returns. -/
def accesses : Call K → Nat
  | .started _ => 3
  | .missed _ => 2
  | .waiting _ _ => 1
  | .left _ _ => 1
  | _ => 0

/-- The section of the call has been left, whether or not its clean-up is done. -/
def Past : Call K → Prop
  | .left _ _ => True
  | .returned => True
  | _ => False

end Call

namespace AsyncTransaction

variable {K ι : Type}

structure Tended (transaction : AsyncTransaction K ι) : Prop where
  kept : transaction.cleanupEnabled = false
  attended : ∀ lock i, transaction.guards lock = some i → ∃ key, transaction.calls i = .critical key lock
  entries : ∀ key lock, transaction.locks key = some lock → lock < transaction.allocated
  claims : ∀ i lock, (transaction.calls i).lock = some lock → lock < transaction.allocated

theorem new_tended : Tended (new false : AsyncTransaction K ι) := by
  refine ⟨rfl,?_,?_,?_⟩
  · intro lock i held
    cases held
  · intro key lock found
    cases found
  · intro i lock claimed
    cases claimed

variable [DecidableEq K] [DecidableEq ι]

omit [DecidableEq K] in
/-- Every call still claims a mutex that has been allocated when one call moves on to such a mutex. -/
theorem claims_setCall (self : AsyncTransaction K ι) (tended : self.Tended) (i : ι) (call : Call K)
    (known : ∀ lock, call.lock = some lock → lock < self.allocated) (j : ι) (lock : MutexId)
    (claimed : ((self.setCall i call).calls j).lock = some lock) : lock < self.allocated := by
  by_cases same : j = i
  · subst same
    simp only [setCall,Function.update_self] at claimed
    exact known lock claimed
  · rw [calls_setCall_ne self i j call same] at claimed
    exact tended.claims j lock claimed

omit [DecidableEq K] in
/-- A call that was outside its section moves to another place outside. -/
theorem tended_moved (self : AsyncTransaction K ι) (tended : self.Tended) (i : ι) (call : Call K)
    (outside : ∀ key lock, self.calls i ≠ .critical key lock)
    (known : ∀ lock, call.lock = some lock → lock < self.allocated) : (self.setCall i call).Tended := by
  refine ⟨tended.kept,?_,tended.entries,claims_setCall self tended i call known⟩
  intro lock j held
  obtain ⟨key,inside⟩ := tended.attended lock j held
  have differ : j ≠ i := by
    intro same
    subst same
    exact outside key lock inside
  exact ⟨key,by rw [calls_setCall_ne self i j call differ,inside]⟩

omit [DecidableEq K] [DecidableEq ι] in
/-- What the counts hold matters to nobody who waits. -/
theorem tended_counts (self : AsyncTransaction K ι) (tended : self.Tended) (counts : MutexId → Nat) :
    {self with strongCount := counts}.Tended :=
  ⟨tended.kept,tended.attended,tended.entries,tended.claims⟩

omit [DecidableEq ι] in
theorem tended_removeEntry (self : AsyncTransaction K ι) (tended : self.Tended) (key : K) :
    (self.removeEntry key).Tended := by
  unfold removeEntry
  split
  next absent => exact tended
  next lock found =>
    refine ⟨tended.kept,tended.attended,?_,tended.claims⟩
    intro other held registered
    by_cases same : other = key
    · subst same
      simp [dropArc] at registered
    · simp only [dropArc,Function.update_of_ne same] at registered
      exact tended.entries other held registered

omit [DecidableEq ι] in
theorem tended_allocated (self : AsyncTransaction K ι) (tended : self.Tended) (key : K) (counts : MutexId → Nat) :
    Tended {self with
      locks := Function.update self.locks key (some self.allocated)
      strongCount := counts
      allocated := self.allocated + 1} := by
  refine ⟨tended.kept,tended.attended,?_,?_⟩
  · intro other lock registered
    by_cases same : other = key
    · subst same
      simp only [Function.update_self,Option.some.injEq] at registered
      subst registered
      exact Nat.lt_succ_self self.allocated
    · simp only [Function.update_of_ne same] at registered
      exact Nat.lt_succ_of_lt (tended.entries other lock registered)
  · intro i lock claimed
    exact Nat.lt_succ_of_lt (tended.claims i lock claimed)

theorem step_tended (self : AsyncTransaction K ι) (act : Act K ι) (next : AsyncTransaction K ι)
    (taken : self.step act = some next) (tended : self.Tended) : next.Tended := by
  cases step_taken self act next taken with
  | call i key ready =>
    refine tended_moved self tended i _ ?_ (by simp [Call.lock])
    intro other lock inside
    rcases ready with idle | returned
    · simp [idle] at inside
    · simp [returned] at inside
  | fetch i key lock started found =>
    refine tended_moved _ (tended_counts self tended _) i _ (by simp [started]) ?_
    intro other claimed
    cases claimed
    exact tended.entries key lock found
  | miss i key started absent => exact tended_moved self tended i _ (by simp [started]) (by simp [Call.lock])
  | write i key missed =>
    unfold orInsert
    split
    next lock found =>
      refine tended_moved _ (tended_counts self tended _) i _ (by simp [missed]) ?_
      intro other claimed
      cases claimed
      exact tended.entries key lock found
    next absent =>
      refine tended_moved _ (tended_counts _ (tended_allocated self tended key _) _) i _ (by simp [missed]) ?_
      intro other claimed
      cases claimed
      exact Nat.lt_succ_self self.allocated
  | lock i key lock waits free =>
    refine ⟨tended.kept,?_,tended.entries,?_⟩
    · intro other j guarded
      by_cases same : other = lock
      · subst same
        simp only [setCall,Function.update_self,Option.some.injEq] at guarded
        subst guarded
        exact ⟨key,Function.update_self i _ self.calls⟩
      · simp only [setCall,Function.update_of_ne same] at guarded
        obtain ⟨held,inside⟩ := tended.attended other j guarded
        have differ : j ≠ i := by
          intro equal
          subst equal
          simp [waits] at inside
        exact ⟨held,by rw [calls_setCall_ne _ i j _ differ,inside]⟩
    · refine claims_setCall self tended i _ ?_
      intro other claimed
      cases claimed
      exact tended.claims i lock (by simp [waits,Call.lock])
  | finish i key lock entered =>
    refine ⟨tended.kept,?_,tended.entries,?_⟩
    · intro other j guarded
      by_cases same : other = lock
      · subst same
        simp [setCall] at guarded
      · simp only [setCall,Function.update_of_ne same] at guarded
        obtain ⟨held,inside⟩ := tended.attended other j guarded
        have differ : j ≠ i := by
          intro equal
          subst equal
          rw [entered] at inside
          cases inside
          exact same rfl
        exact ⟨held,by rw [calls_setCall_ne _ i j _ differ,inside]⟩
    · refine claims_setCall self tended i _ ?_
      intro other claimed
      cases claimed
      exact tended.claims i lock (by simp [entered,Call.lock])
  | unused i key lock left enabled count =>
    rw [tended.kept] at enabled
    cases enabled
  | used i key lock left kept =>
    exact tended_moved _ (tended_counts self tended _) i _ (by simp [left]) (by simp [Call.lock])
  | prune i key lock pruning =>
    refine tended_moved _ (tended_counts _ (tended_removeEntry self tended key) _) i _ ?_ (by simp [Call.lock])
    intro other held inside
    have unmoved := congrFun (calls_removeEntry self key) i
    simp [unmoved,pruning] at inside
  | removeKey key => exact tended_removeEntry self tended key

theorem call_idle (self : AsyncTransaction K ι) (i : ι) (key : K) (idle : self.calls i = .idle) :
    self.step (.call i key) = some (self.setCall i (.started key)) := by
  simp only [step,idle]

theorem finish_inside (self : AsyncTransaction K ι) (i : ι) (key : K) (lock : MutexId)
    (inside : self.calls i = .critical key lock) :
    self.step (.finish i) = some ({self with guards := Function.update self.guards lock none}.setCall i
      (.left key lock)) := by
  simp only [step,inside]

/-- A call on its way into its section can take one of its accesses, which brings it
closer, unless another call is inside a section of the mutex it waits for. -/
theorem awaits_goes_on (self : AsyncTransaction K ι) (tended : self.Tended) (i : ι) (key : K)
    (awaits : (self.calls i).Awaits key) :
    (∃ lock, self.calls i = .critical key lock) ∨
    (∃ act next, (act = .read i ∨ act = .write i ∨ act = .lock i) ∧ self.step act = some next ∧
      (next.calls i).accesses < (self.calls i).accesses) ∨
    ∃ j other lock, self.calls i = .waiting key lock ∧ self.calls j = .critical other lock := by
  cases call : self.calls i with
  | idle => simp [call,Call.Awaits] at awaits
  | returned => simp [call,Call.Awaits] at awaits
  | left other lock => simp [call,Call.Awaits] at awaits
  | pruning other lock => simp [call,Call.Awaits] at awaits
  | critical other lock =>
    simp only [call,Call.Awaits] at awaits
    subst awaits
    exact .inl ⟨lock,rfl⟩
  | started other =>
    refine .inr (.inl ⟨.read i,?_⟩)
    cases found : self.locks other with
    | some lock =>
      refine ⟨self.clone i other lock,.inl rfl,by simp [step,call,found],?_⟩
      simp [clone,setCall,Call.accesses]
    | none =>
      refine ⟨self.setCall i (.missed other),.inl rfl,by simp [step,call,found],?_⟩
      simp [setCall,Call.accesses]
  | missed other =>
    refine .inr (.inl ⟨.write i,self.orInsert i other,.inr (.inl rfl),by simp [step,call],?_⟩)
    unfold orInsert
    split <;> simp [clone,setCall,Call.accesses]
  | waiting other lock =>
    simp only [call,Call.Awaits] at awaits
    subst awaits
    cases guard : self.guards lock with
    | none =>
      refine .inr (.inl ⟨.lock i,_,.inr (.inr rfl),by simp [step,call,guard]; rfl,?_⟩)
      simp [setCall,Call.accesses]
    | some j =>
      obtain ⟨held,inside⟩ := tended.attended lock j guard
      exact .inr (.inr ⟨j,held,lock,rfl,inside⟩)

omit [DecidableEq K] [DecidableEq ι] in
/-- Where no call is under way, no mutex is held. -/
theorem tended_free (self : AsyncTransaction K ι) (tended : self.Tended)
    (quiet : ∀ i, self.calls i = .idle ∨ self.calls i = .returned) (lock : MutexId) : self.guards lock = none := by
  by_contra taken
  obtain ⟨i,holder⟩ := Option.ne_none_iff_exists'.mp taken
  obtain ⟨key,inside⟩ := tended.attended lock i holder
  rcases quiet i with idle | returned
  · simp [inside] at idle
  · simp [inside] at returned

end AsyncTransaction
end Warpdrive.Utils
