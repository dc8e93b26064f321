import Mathlib.Data.List.Basic

/-! Fallible calls on a state. A call that fails leaves the state as far as it came, so what a
sequence of calls leaves behind depends on the call that failed. -/
namespace Warpdrive.Foundation

/-- A call returns or fails, and leaves the state that it has reached either way. -/
def Attempt (S E A : Type) := S → S × Except E A

namespace Attempt

variable {S T E D A B : Type}

def andThen (first : Attempt S E A) (rest : A → Attempt S E B) : Attempt S E B := fun state =>
  match first state with
  | (state,.ok value) => rest value state
  | (state,.error error) => (state,.error error)

instance : Monad (Attempt S E) where
  pure value := fun state => (state,.ok value)
  bind := andThen

def reads (view : S → A) : Attempt S E A := fun state => (state,.ok (view state))

def changes (change : S → S) : Attempt S E Unit := fun state => (change state,.ok ())

def checks (check : S → Except E A) : Attempt S E A := fun state => (state,check state)

/-- A call on a part of the state. -/
def within (view : S → T) (put : T → S → S) (wrap : D → E) (call : Attempt T D A) : Attempt S E A :=
  fun state => (put (call (view state)).1 state,(call (view state)).2.mapError wrap)

/-- The call with what it has changed undone by `undo` when it fails. -/
def undoing (call : Attempt S E A) (undo : S → S) : Attempt S E A := fun state =>
  match call state with
  | (state,.ok value) => (state,.ok value)
  | (state,.error error) => (undo state,.error error)

@[simp] theorem pure_run (value : A) (state : S) : (pure value : Attempt S E A) state = (state,.ok value) := rfl

@[simp] theorem reads_run (view : S → A) (state : S) :
    (reads view : Attempt S E A) state = (state,.ok (view state)) := rfl

@[simp] theorem changes_run (change : S → S) (state : S) :
    (changes change : Attempt S E Unit) state = (change state,.ok ()) := rfl

@[simp] theorem checks_run (check : S → Except E A) (state : S) : checks check state = (state,check state) := rfl

theorem bind_run (first : Attempt S E A) (rest : A → Attempt S E B) (state : S) :
    (first >>= rest) state = first.andThen rest state := rfl

theorem bind_ok (first : Attempt S E A) (rest : A → Attempt S E B) (state final : S) (result : B) :
    (first >>= rest) state = (final,.ok result) ↔
      ∃ value middle, first state = (middle,.ok value) ∧ rest value middle = (final,.ok result) := by
  rw [bind_run,andThen]
  split
  · next middle value returned =>
    constructor
    · intro result
      exact ⟨value,middle,returned,result⟩
    · rintro ⟨other,state,same,result⟩
      cases returned.symm.trans same
      exact result
  · next middle error failed => simp [failed]

theorem bind_error (first : Attempt S E A) (rest : A → Attempt S E B) (state final : S) (error : E) :
    (first >>= rest) state = (final,.error error) ↔
      first state = (final,.error error) ∨
        ∃ value middle, first state = (middle,.ok value) ∧ rest value middle = (final,.error error) := by
  rw [bind_run,andThen]
  split
  · next middle value returned =>
    constructor
    · intro result
      exact .inr ⟨value,middle,returned,result⟩
    · rintro (failed | ⟨other,state,same,result⟩)
      · cases returned.symm.trans failed
      · cases returned.symm.trans same
        exact result
  · next middle error failed => simp [failed]

theorem bind_of_ok (first : Attempt S E A) (rest : A → Attempt S E B) (state middle : S) (value : A)
    (returned : first state = (middle,.ok value)) : (first >>= rest) state = rest value middle := by
  rw [bind_run,andThen,returned]

theorem bind_of_error (first : Attempt S E A) (rest : A → Attempt S E B) (state middle : S) (error : E)
    (failed : first state = (middle,.error error)) : (first >>= rest) state = (middle,.error error) := by
  rw [bind_run,andThen,failed]

theorem bind_assoc {C : Type} (first : Attempt S E A) (second : A → Attempt S E B) (third : B → Attempt S E C) :
    (first >>= second) >>= third = first >>= fun value => second value >>= third := by
  funext state
  simp only [bind_run,andThen]
  cases first state with
  | mk middle outcome => cases outcome <;> rfl

/-- A sequence of calls on a part is a sequence of calls on the whole. -/
theorem within_bind (view : S → T) (put : T → S → S) (wrap : D → E) (first : Attempt T D A)
    (rest : A → Attempt T D B) (view_put : ∀ part state, view (put part state) = part)
    (put_put : ∀ part other state, put part (put other state) = put part state) :
    (within view put wrap (first >>= rest) : Attempt S E B) =
      within view put wrap first >>= fun value => within view put wrap (rest value) := by
  funext state
  simp only [within,bind_run,andThen]
  cases first (view state) with
  | mk part outcome =>
    cases outcome with
    | error error => rfl
    | ok value => simp [Except.mapError,view_put,put_put]

theorem within_ok (view : S → T) (put : T → S → S) (wrap : D → E) (call : Attempt T D A) (state final : S)
    (value : A) : within view put wrap call state = (final,.ok value) ↔
      ∃ part, call (view state) = (part,.ok value) ∧ final = put part state := by
  unfold within
  cases called : call (view state) with
  | mk part outcome =>
    cases outcome with
    | error error => simp [Except.mapError]
    | ok result =>
      simp only [Except.mapError,Prod.mk.injEq,Except.ok.injEq]
      constructor
      · rintro ⟨rfl,rfl⟩
        exact ⟨part,⟨rfl,rfl⟩,rfl⟩
      · rintro ⟨_,⟨rfl,rfl⟩,rfl⟩
        exact ⟨rfl,rfl⟩

/-- Whatever its outcome, the call leaves a state that is related to the one it met. -/
def Leaves (relation : S → S → Prop) (call : Attempt S E A) : Prop := ∀ state, relation state (call state).1

section Leaves

variable {relation : S → S → Prop}

theorem leaves_pure (refl : ∀ state, relation state state) (value : A) :
    Leaves relation (pure value : Attempt S E A) := refl

theorem leaves_checks (refl : ∀ state, relation state state) (check : S → Except E A) :
    Leaves relation (checks check) := refl

theorem leaves_changes (change : S → S) (related : ∀ state, relation state (change state)) :
    Leaves relation (changes change : Attempt S E Unit) := related

theorem leaves_bind (trans : ∀ first second third, relation first second → relation second third → relation first third)
    (first : Attempt S E A) (rest : A → Attempt S E B) (before : Leaves relation first)
    (after : ∀ value, Leaves relation (rest value)) : Leaves relation (first >>= rest) := by
  intro state
  have start := before state
  rw [bind_run,andThen]
  split
  · next middle value returned =>
    rw [returned] at start
    exact trans _ _ _ start (after value middle)
  · next middle error failed =>
    rw [failed] at start
    exact start

end Leaves
end Attempt
end Warpdrive.Foundation
