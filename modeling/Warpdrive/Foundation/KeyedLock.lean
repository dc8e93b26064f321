import Mathlib.Logic.Function.Basic
import Mathlib.Logic.Relation
import Mathlib.Data.Fintype.Basic

/-! Mutual exclusion through a registry of per-key mutexes. A task fetches the
mutex registered under its key (creating it when there is none), waits for it,
and holds it for one section. The registry entry of a key may be removed. -/
namespace Warpdrive.Foundation.KeyedLock

universe u v w

variable {K : Type u} {T : Type v} {M : Type w}

/-- What a task still needs of the mutex it fetched. -/
inductive Hold (K : Type u) (M : Type w)
  | out
  | waiting (key : K) (mutex : M)
  | inside (key : K) (mutex : M)
  deriving DecidableEq

/-- The key and mutex of a task that is waiting for its section or inside it. -/
def Hold.claim : Hold K M → Option (K × M)
  | .out => none
  | .waiting key mutex => some (key,mutex)
  | .inside key mutex => some (key,mutex)

structure Locks (K : Type u) (T : Type v) (M : Type w) where
  entry : K → Option M
  owner : M → Option T
  hold : T → Hold K M

/-- No task waits for the key's section or is inside it. -/
def Locks.Quiet (locks : Locks K T M) (key : K) : Prop :=
  ∀ task, (locks.hold task).claim.map Prod.fst ≠ some key

variable [DecidableEq K] [DecidableEq T] [DecidableEq M]

instance decidableQuiet [Fintype T] (locks : Locks K T M) (key : K) : Decidable (locks.Quiet key) :=
  inferInstanceAs (Decidable (∀ task, (locks.hold task).claim.map Prod.fst ≠ some key))

inductive Step : Locks K T M → Locks K T M → Prop
  | fetch (locks : Locks K T M) (task key mutex) (registered : locks.entry key = some mutex) :
      Step locks {locks with hold := Function.update locks.hold task (.waiting key mutex)}
  | create (locks : Locks K T M) (task key mutex) (absent : locks.entry key = none) :
      Step locks {locks with
        entry := Function.update locks.entry key (some mutex)
        hold := Function.update locks.hold task (.waiting key mutex)}
  | enter (locks : Locks K T M) (task key mutex) (waits : locks.hold task = .waiting key mutex)
      (free : locks.owner mutex = none) :
      Step locks {locks with
        owner := Function.update locks.owner mutex (some task)
        hold := Function.update locks.hold task (.inside key mutex)}
  | leave (locks : Locks K T M) (task key mutex) (entered : locks.hold task = .inside key mutex) :
      Step locks {locks with
        owner := Function.update locks.owner mutex none
        hold := Function.update locks.hold task .out}
  | remove (locks : Locks K T M) (key) (quiet : locks.Quiet key) :
      Step locks {locks with entry := Function.update locks.entry key none}

/-- Every claimed mutex is the registered one of its key, and a task inside its
section is the owner of its mutex. -/
structure Coherent (locks : Locks K T M) : Prop where
  registered : ∀ task key mutex, (locks.hold task).claim = some (key,mutex) →
    locks.entry key = some mutex
  owned : ∀ task key mutex, locks.hold task = .inside key mutex → locks.owner mutex = some task

omit [DecidableEq K] [DecidableEq T] [DecidableEq M] in
theorem Coherent.exclusive {locks : Locks K T M} (coherent : Coherent locks) (first second : T)
    (key : K) (a b : M) (inFirst : locks.hold first = .inside key a)
    (inSecond : locks.hold second = .inside key b) : first = second := by
  have left := coherent.registered first key a (by simp [inFirst,Hold.claim])
  have right := coherent.registered second key b (by simp [inSecond,Hold.claim])
  have same : a = b := Option.some.inj (left.symm.trans right)
  subst b
  have owner := coherent.owned first key a inFirst
  rw [coherent.owned second key a inSecond] at owner
  exact (Option.some.inj owner).symm

omit [DecidableEq K] [DecidableEq M] in
private theorem registered_fetch {locks : Locks K T M} (coherent : Coherent locks) (task : T)
    (key : K) (mutex : M) (entry : K → Option M)
    (grows : ∀ k m, locks.entry k = some m → entry k = some m) (found : entry key = some mutex) :
    Coherent {locks with entry, hold := Function.update locks.hold task (.waiting key mutex)} := by
  refine ⟨?_,?_⟩
  · intro other k m claimed
    by_cases same : other = task
    · subst other
      simp only [Function.update_self,Hold.claim,Option.some.injEq,Prod.mk.injEq] at claimed
      rw [← claimed.1,← claimed.2]
      exact found
    · simp only [Function.update_of_ne same] at claimed
      exact grows k m (coherent.registered other k m claimed)
  · intro other k m entered
    by_cases same : other = task
    · subst other
      simp at entered
    · simp only [Function.update_of_ne same] at entered
      exact coherent.owned other k m entered

theorem Step.coherent {before after : Locks K T M} (step : Step before after)
    (coherent : Coherent before) : Coherent after := by
  cases step with
  | fetch task key mutex registered =>
    exact registered_fetch coherent task key mutex before.entry (fun _ _ h => h) registered
  | create task key mutex absent =>
    refine registered_fetch coherent task key mutex _ ?_ (by simp)
    intro k m found
    have differ : k ≠ key := by
      intro same
      simp [same,absent] at found
    simp only [ne_eq,differ,not_false_eq_true,Function.update_of_ne]
    exact found
  | enter task key mutex waits free =>
    refine ⟨?_,?_⟩
    · intro other k m claimed
      apply coherent.registered other k m
      by_cases same : other = task
      · subst other
        simpa [waits,Hold.claim] using claimed
      · simpa [Function.update_of_ne same] using claimed
    · intro other k m entered
      by_cases same : other = task
      · subst other
        simp only [Function.update_self,Hold.inside.injEq] at entered
        simp [entered.2]
      · simp only [Function.update_of_ne same] at entered
        have owner := coherent.owned other k m entered
        -- The mutex was free, so it is not the one another task is inside.
        have differ : m ≠ mutex := by
          intro same
          simp [same,free] at owner
        simpa [Function.update_of_ne differ] using owner
  | leave task key mutex entered =>
    refine ⟨?_,?_⟩
    · intro other k m claimed
      apply coherent.registered other k m
      by_cases same : other = task
      · subst other
        simp [Hold.claim] at claimed
      · simpa [Function.update_of_ne same] using claimed
    · intro other k m inside
      by_cases same : other = task
      · subst other
        simp at inside
      · simp only [Function.update_of_ne same] at inside
        have owner := coherent.owned other k m inside
        have differ : m ≠ mutex := by
          intro shared
          rw [shared,coherent.owned task key mutex entered] at owner
          exact same (Option.some.inj owner).symm
        simpa [Function.update_of_ne differ] using owner
  | remove key quiet =>
    refine ⟨?_,coherent.owned⟩
    intro task k m claimed
    have differ : k ≠ key := by
      intro same
      exact quiet task (by simp [claimed,same])
    simp only [ne_eq,differ,not_false_eq_true,Function.update_of_ne]
    exact coherent.registered task k m claimed

/-- A step of a system that refines the registry: a registry step, or one that
does not show in it. -/
theorem refined_coherent {before after : Locks K T M}
    (step : Relation.ReflGen Step before after) (coherent : Coherent before) : Coherent after := by
  cases step with
  | refl => exact coherent
  | single taken => exact taken.coherent coherent

end Warpdrive.Foundation.KeyedLock
