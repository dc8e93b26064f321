import Mathlib.Data.List.Basic

/-! Fallible computations, plain and asynchronous. An asynchronous computation is
the tree of its await points: it has returned, or it awaits the answer to a call and
goes on with whatever the answer is. The answers given so far are its history, and a
judgement about a computation is a judgement about all of its histories. -/
namespace Warpdrive.Foundation

universe u v w x

theorem except_bind_ok {ε : Type u} {α β : Type v} (first : Except ε α) (rest : α → Except ε β) (result : β) :
    (first >>= rest) = .ok result ↔ ∃ value, first = .ok value ∧ rest value = .ok result := by
  cases first with
  | error error => simp [bind,Except.bind]
  | ok value => simp [bind,Except.bind]

theorem except_mapError_ok {ε : Type u} {δ : Type w} {α : Type v} (first : Except ε α) (wrap : ε → δ)
    (result : α) : first.mapError wrap = .ok result ↔ first = .ok result := by
  cases first with
  | error error => simp [Except.mapError]
  | ok value => simp [Except.mapError]

inductive Async (Q : Type u) (A : Q → Type v) (E : Type w) (R : Type x)
  | returned (outcome : Except E R)
  | await (call : Q) (rest : A call → Async Q A E R)

/-- The calls a computation has awaited, each with its answer. -/
abbrev History {Q : Type u} (A : Q → Type v) := List ((call : Q) × A call)

namespace Async

variable {Q : Type u} {A : Q → Type v} {E : Type w} {R S : Type x}

def bind : Async Q A E R → (R → Async Q A E S) → Async Q A E S
  | .returned (.ok value),next => next value
  | .returned (.error error),_ => .returned (.error error)
  | .await call rest,next => .await call (fun answer => (rest answer).bind next)

instance : Monad (Async Q A E) where
  pure := fun value => .returned (.ok value)
  bind := bind

def request {Q : Type u} {A : Q → Type x} {E : Type w} (call : Q) : Async Q A E (A call) :=
  .await call (fun answer => .returned (.ok answer))

def fail (error : E) : Async Q A E R := .returned (.error error)

@[simp] theorem pure_eq (value : R) : (pure value : Async Q A E R) = .returned (.ok value) := rfl

@[simp] theorem ok_bind (value : R) (next : R → Async Q A E S) :
    ((.returned (.ok value) : Async Q A E R) >>= next) = next value := rfl

@[simp] theorem error_bind (error : E) (next : R → Async Q A E S) :
    ((.returned (.error error) : Async Q A E R) >>= next) = .returned (.error error) := rfl

@[simp] theorem await_bind (call : Q) (rest : A call → Async Q A E R) (next : R → Async Q A E S) :
    ((.await call rest : Async Q A E R) >>= next) = .await call (fun answer => rest answer >>= next) := rfl

@[simp] theorem request_bind {Q : Type u} {A : Q → Type x} {E : Type w} {S : Type x} (call : Q)
    (next : A call → Async Q A E S) : ((request call : Async Q A E (A call)) >>= next) = .await call next := rfl

variable [DecidableEq Q]

def resume : Async Q A E R → (call : Q) × A call → Option (Async Q A E R)
  | .returned _,_ => none
  | .await call rest,⟨answered,answer⟩ =>
    if same : answered = call then some (rest (same ▸ answer)) else none

def follow : Async Q A E R → History A → Option (Async Q A E R)
  | self,[] => some self
  | self,reply::history => (self.resume reply).bind (fun next => next.follow history)

theorem follow_concat (self middle : Async Q A E R) (history : History A) (reply : (call : Q) × A call)
    (reached : self.follow history = some middle) :
    self.follow (history ++ [reply]) = middle.resume reply := by
  induction history generalizing self with
  | nil =>
    cases reached
    simp [follow]
  | cons earlier history ih =>
    simp only [follow,Option.bind_eq_some_iff] at reached
    obtain ⟨next,resumed,reached⟩ := reached
    simp only [List.cons_append,follow,resumed,Option.bind_some]
    exact ih next reached

theorem resume_await (call : Q) (rest : A call → Async Q A E R) (reply : (call : Q) × A call)
    (next : Async Q A E R) :
    (Async.await call rest).resume reply = some next ↔
      ∃ answer, reply = ⟨call,answer⟩ ∧ rest answer = next := by
  obtain ⟨answered,answer⟩ := reply
  simp only [resume]
  split
  next same =>
    subst same
    simp
  next differ =>
    simp only [reduceCtorEq,false_iff,not_exists,not_and]
    intro given equal
    exact absurd (congrArg Sigma.fst equal) differ

/-- With these answers the computation returns the value. -/
def Yields (self : Async Q A E R) (history : History A) (value : R) : Prop :=
  self.follow history = some (.returned (.ok value))

/-- The computation awaits these calls, in this order, when they are so answered. -/
def Reaches (self : Async Q A E R) (history : History A) : Prop := ∃ rest, self.follow history = some rest

theorem Yields.reaches (self : Async Q A E R) (history : History A) (value : R)
    (yields : self.Yields history value) : self.Reaches history := ⟨_,yields⟩

theorem follow_returned (outcome : Except E R) (history : History A) (rest : Async Q A E R) :
    (Async.returned outcome : Async Q A E R).follow history = some rest ↔
      history = [] ∧ rest = .returned outcome := by
  cases history with
  | nil =>
    simp only [follow,Option.some.injEq,true_and]
    exact eq_comm
  | cons reply history => simp only [follow,resume,Option.bind_none,reduceCtorEq,false_and]

theorem follow_await (call : Q) (next : A call → Async Q A E R) (history : History A)
    (rest : Async Q A E R) : (Async.await call next).follow history = some rest ↔
      (history = [] ∧ rest = .await call next) ∨
        ∃ answer later, history = ⟨call,answer⟩::later ∧ (next answer).follow later = some rest := by
  cases history with
  | nil =>
    simp only [follow,Option.some.injEq,true_and,List.nil_eq,reduceCtorEq,false_and,exists_false,or_false]
    exact eq_comm
  | cons reply history =>
    simp only [follow,Option.bind_eq_some_iff,resume_await]
    constructor
    · intro reached
      obtain ⟨_,⟨answer,same,continued⟩,reached⟩ := reached
      subst same continued
      exact .inr ⟨answer,history,rfl,reached⟩
    · intro reached
      rcases reached with ⟨none,_⟩ | ⟨answer,later,same,reached⟩
      · cases none
      · cases same
        exact ⟨_,⟨answer,rfl,rfl⟩,reached⟩

@[simp] theorem yields_pure (result value : R) (history : History A) :
    (pure result : Async Q A E R).Yields history value ↔ history = [] ∧ result = value := by
  simp [Yields,follow_returned,eq_comm]

@[simp] theorem yields_returned (outcome : Except E R) (history : History A) (value : R) :
    (Async.returned outcome : Async Q A E R).Yields history value ↔
      history = [] ∧ outcome = .ok value := by
  simp [Yields,follow_returned,eq_comm]

@[simp] theorem yields_fail (error : E) (history : History A) (value : R) :
    ¬ (fail error : Async Q A E R).Yields history value := by
  simp [fail]

@[simp] theorem yields_await (call : Q) (next : A call → Async Q A E R) (history : History A) (value : R) :
    (Async.await call next).Yields history value ↔
      ∃ answer later, history = ⟨call,answer⟩::later ∧ (next answer).Yields later value := by
  simp only [Yields,follow_await,reduceCtorEq,and_false,false_or]

@[simp] theorem reaches_await (call : Q) (next : A call → Async Q A E R) (history : History A) :
    (Async.await call next).Reaches history ↔ history = [] ∨
      ∃ answer later, history = ⟨call,answer⟩::later ∧ (next answer).Reaches later := by
  unfold Reaches
  constructor
  · intro reached
    obtain ⟨rest,reached⟩ := reached
    rcases (follow_await _ _ _ _).mp reached with ⟨none,_⟩ | ⟨answer,later,split,reached⟩
    · exact .inl none
    · exact .inr ⟨answer,later,split,rest,reached⟩
  · intro reached
    rcases reached with none | ⟨answer,later,split,rest,reached⟩
    · exact ⟨_,(follow_await _ _ _ _).mpr (.inl ⟨none,rfl⟩)⟩
    · exact ⟨rest,(follow_await _ _ _ _).mpr (.inr ⟨answer,later,split,reached⟩)⟩

theorem yields_bind (first : Async Q A E R) (next : R → Async Q A E S) (history : History A) (value : S) :
    (first >>= next).Yields history value ↔ ∃ before after middle, history = before ++ after ∧
      first.Yields before middle ∧ (next middle).Yields after value := by
  induction first generalizing history with
  | returned outcome =>
    cases outcome with
    | ok middle => simp
    | error error => simp
  | await call rest ih =>
    rw [await_bind]
    unfold Yields at ih ⊢
    simp only [follow_await,reduceCtorEq,and_false,false_or,ih]
    constructor
    · intro reached
      obtain ⟨answer,_,split,before,after,middle,later,first,second⟩ := reached
      subst later
      exact ⟨⟨call,answer⟩::before,after,middle,split,⟨answer,before,rfl,first⟩,second⟩
    · intro reached
      obtain ⟨_,after,middle,split,⟨answer,before,same,first⟩,second⟩ := reached
      subst same
      exact ⟨answer,before ++ after,split,before,after,middle,rfl,first,second⟩

@[simp] theorem reaches_returned (outcome : Except E R) (history : History A) :
    (Async.returned outcome : Async Q A E R).Reaches history ↔ history = [] := by
  simp [Reaches,follow_returned]

@[simp] theorem reaches_fail (error : E) (history : History A) :
    (fail error : Async Q A E R).Reaches history ↔ history = [] := by
  simp [fail]

theorem reaches_bind (first : Async Q A E R) (next : R → Async Q A E S) (history : History A) :
    (first >>= next).Reaches history ↔ first.Reaches history ∨ ∃ before after middle,
      history = before ++ after ∧ first.Yields before middle ∧ (next middle).Reaches after := by
  induction first generalizing history with
  | returned outcome =>
    cases outcome with
    | ok middle =>
      have start : (next middle).Reaches ([] : History A) := ⟨_,rfl⟩
      simp only [ok_bind,reaches_returned,yields_returned,Except.ok.injEq]
      constructor
      · intro reached
        exact .inr ⟨[],history,middle,rfl,⟨rfl,rfl⟩,reached⟩
      · intro reached
        rcases reached with none | ⟨_,after,_,split,⟨none,same⟩,reached⟩
        · rw [none]
          exact start
        · subst none same
          rw [split]
          exact reached
    | error error => simp
  | await call rest ih =>
    rw [await_bind]
    unfold Reaches Yields at ih ⊢
    constructor
    · intro reached
      obtain ⟨final,reached⟩ := reached
      rcases (follow_await _ _ _ _).mp reached with ⟨none,_⟩ | ⟨answer,later,split,reached⟩
      · exact .inl ⟨_,(follow_await _ _ _ _).mpr (.inl ⟨none,rfl⟩)⟩
      · rcases (ih answer later).mp ⟨final,reached⟩ with ⟨middle,first⟩ | ⟨before,after,middle,parts,first,second⟩
        · exact .inl ⟨middle,(follow_await _ _ _ _).mpr (.inr ⟨answer,later,split,first⟩)⟩
        · refine .inr ⟨⟨call,answer⟩::before,after,middle,?_,?_,second⟩
          · rw [split,parts,List.cons_append]
          · exact (follow_await _ _ _ _).mpr (.inr ⟨answer,before,rfl,first⟩)
    · intro reached
      rcases reached with ⟨middle,first⟩ | ⟨_,after,middle,split,first,second⟩
      · rcases (follow_await _ _ _ _).mp first with ⟨none,_⟩ | ⟨answer,later,split,first⟩
        · exact ⟨_,(follow_await _ _ _ _).mpr (.inl ⟨none,rfl⟩)⟩
        · obtain ⟨final,reached⟩ := (ih answer later).mpr (.inl ⟨middle,first⟩)
          exact ⟨final,(follow_await _ _ _ _).mpr (.inr ⟨answer,later,split,reached⟩)⟩
      · rcases (follow_await _ _ _ _).mp first with ⟨_,pending⟩ | ⟨answer,before,same,begun⟩
        · cases pending
        · subst same
          obtain ⟨final,reached⟩ :=
            (ih answer (before ++ after)).mpr (.inr ⟨before,after,middle,rfl,begun,second⟩)
          exact ⟨final,(follow_await _ _ _ _).mpr (.inr ⟨answer,before ++ after,split,reached⟩)⟩

omit [DecidableEq Q] in
/-- Whatever the answers, no awaited call satisfies `bad`. -/
def Avoids (bad : Q → Prop) : Async Q A E R → Prop
  | .returned _ => True
  | .await call rest => ¬ bad call ∧ ∀ answer, (rest answer).Avoids bad

omit [DecidableEq Q] in
theorem avoids_bind (bad : Q → Prop) (first : Async Q A E R) (next : R → Async Q A E S)
    (early : first.Avoids bad) (late : ∀ value, (next value).Avoids bad) : (first >>= next).Avoids bad := by
  induction first with
  | returned outcome =>
    cases outcome with
    | ok value => exact late value
    | error error => trivial
  | await call rest ih => exact ⟨early.1,fun answer => ih answer (early.2 answer)⟩

theorem Avoids.reaches (bad : Q → Prop) (self : Async Q A E R) (avoids : self.Avoids bad)
    (history : History A) (reached : self.Reaches history) : ∀ reply ∈ history, ¬ bad reply.1 := by
  induction self generalizing history with
  | returned outcome =>
    rw [(reaches_returned outcome history).mp reached]
    intro reply member
    cases member
  | await call rest ih =>
    intro reply member
    rcases (reaches_await call rest history).mp reached with none | ⟨answer,later,split,reached⟩
    · rw [none] at member
      cases member
    · rw [split] at member
      rcases List.mem_cons.mp member with first | member
      · rw [first]
        exact avoids.1
      · exact ih answer (avoids.2 answer) later reached reply member

/-- A call that the first part never makes is made by the second. -/
theorem bind_called (wanted : Q → Prop) (first : Async Q A E R) (next : R → Async Q A E S)
    (silent : first.Avoids wanted) (history : History A) (reached : (first >>= next).Reaches history)
    (reply : Σ call, A call) (member : reply ∈ history) (called : wanted reply.1) :
    ∃ before after middle, history = before ++ after ∧ first.Yields before middle ∧
      (next middle).Reaches after ∧ reply ∈ after := by
  have quiet := silent.reaches wanted first
  rcases (reaches_bind first next history).mp reached with inside | ⟨before,after,middle,split,yields,later⟩
  · exact absurd called (quiet history inside reply member)
  · refine ⟨before,after,middle,split,yields,later,?_⟩
    rw [split] at member
    rcases List.mem_append.mp member with earlier | late
    · exact absurd called (quiet before (yields.reaches first before middle) reply earlier)
    · exact late

end Async
end Warpdrive.Foundation
