import Warpdrive.Foundation.Execution
import Mathlib.Logic.Function.Basic
import Mathlib.Logic.Relation
import Mathlib.Order.Basic
import Mathlib.Data.Fintype.Basic

/-! Callers that take and release shared and exclusive locks in program order. A
caller waits for another one that holds the lock it needs next in a conflicting
mode. Where every caller that nests its locks takes them in the order of one rank,
no caller waits for itself; two groups of callers may follow two ranks as long as
they never nest at the same time. -/
namespace Warpdrive.Foundation.LockOrder

open Warpdrive.Foundation.Execution

universe u v w

inductive Mode
  | read
  | write
  deriving DecidableEq

inductive Act (L : Type v)
  | acquire (mode : Mode) (lock : L)
  | release (lock : L)
  deriving DecidableEq

def Act.isAcquire {L : Type v} : Act L → Bool
  | .acquire _ _ => true
  | .release _ => false

structure Guard (I : Type u) (L : Type v) where
  owner : I
  mode : Mode
  lock : L
  deriving DecidableEq

structure State (I : Type u) (L : Type v) where
  rest : I → List (Act L)
  guards : List (Guard I L)

variable {I : Type u} {L : Type v}

def start (programs : I → List (Act L)) : State I L := ⟨programs,[]⟩

/-- The guard keeps a request of this mode for this lock waiting. -/
def Guard.Blocks (guard : Guard I L) (mode : Mode) (lock : L) : Prop :=
  guard.lock = lock ∧ (mode = .write ∨ guard.mode = .write)

instance decidableBlocks [DecidableEq L] (guard : Guard I L) (mode : Mode) (lock : L) :
    Decidable (guard.Blocks mode lock) :=
  inferInstanceAs (Decidable (_ ∧ _))

namespace State

variable (state : State I L)

def Waits (first second : I) : Prop :=
  ∃ mode lock rest, state.rest first = .acquire mode lock :: rest ∧
    ∃ guard ∈ state.guards, guard.owner = second ∧ guard.Blocks mode lock

def Deadlocked : Prop :=
  ∃ caller, Relation.TransGen state.Waits caller caller

def Holds (caller : I) : Prop :=
  ∃ guard ∈ state.guards, guard.owner = caller

/-- The caller has more locks to take. -/
def Taking (caller : I) : Prop :=
  ∃ act ∈ state.rest caller, act.isAcquire = true

/-- The caller holds a lock and has more to take. -/
def Nested (caller : I) : Prop :=
  state.Holds caller ∧ state.Taking caller

variable [DecidableEq I]

instance decidableNested (caller : I) : Decidable (state.Nested caller) :=
  inferInstanceAs (Decidable ((∃ guard ∈ state.guards, guard.owner = caller) ∧
    ∃ act ∈ state.rest caller, act.isAcquire = true))

def owned (caller : I) : List L :=
  (state.guards.filter (fun guard => guard.owner = caller)).map Guard.lock

theorem mem_owned (caller : I) (lock : L) :
    lock ∈ state.owned caller ↔ ∃ guard ∈ state.guards, guard.owner = caller ∧ guard.lock = lock := by
  simp [owned,and_assoc]

end State

variable [DecidableEq I] [DecidableEq L]

def step (state : State I L) (caller : I) : Option (State I L) :=
  match state.rest caller with
  | [] => none
  | .acquire mode lock :: rest =>
    if ∀ guard ∈ state.guards, ¬guard.Blocks mode lock then
      some ⟨Function.update state.rest caller rest,⟨caller,mode,lock⟩ :: state.guards⟩
    else none
  | .release lock :: rest =>
    some ⟨Function.update state.rest caller rest,
      state.guards.filter (fun guard => ¬(guard.owner = caller ∧ guard.lock = lock))⟩

inductive Taken (state : State I L) (caller : I) : State I L → Prop
  | acquire (mode lock rest) (program : state.rest caller = .acquire mode lock :: rest)
      (free : ∀ guard ∈ state.guards, ¬guard.Blocks mode lock) :
      Taken state caller
        ⟨Function.update state.rest caller rest,⟨caller,mode,lock⟩ :: state.guards⟩
  | release (lock rest) (program : state.rest caller = .release lock :: rest) :
      Taken state caller
        ⟨Function.update state.rest caller rest,
          state.guards.filter (fun guard => ¬(guard.owner = caller ∧ guard.lock = lock))⟩

theorem step_taken (state next : State I L) (caller : I) (taken : step state caller = some next) :
    Taken state caller next := by
  unfold step at taken
  split at taken
  · cases taken
  · next mode lock rest program =>
    split at taken
    · next free =>
      cases taken
      exact Taken.acquire mode lock rest program free
    · cases taken
  · next lock rest program =>
    cases taken
    exact Taken.release lock rest program

/-- A step of one caller changes neither the program nor the locks of another. -/
theorem Taken.other {state next : State I L} {caller : I} (taken : Taken state caller next)
    (other : I) (apart : other ≠ caller) :
    next.rest other = state.rest other ∧ next.owned other = state.owned other := by
  cases taken with
  | acquire mode lock rest program free =>
    refine ⟨Function.update_of_ne apart _ _,?_⟩
    simp [State.owned,Ne.symm apart]
  | release lock rest program =>
    refine ⟨Function.update_of_ne apart _ _,?_⟩
    simp only [State.owned,List.filter_filter]
    congr 1
    apply List.filter_congr
    intro guard member
    by_cases owner : guard.owner = other
    · simp [owner,apart]
    · simp [owner]

omit [DecidableEq L] in
theorem holds_iff (state : State I L) (caller : I) : state.Holds caller ↔ state.owned caller ≠ [] := by
  constructor
  · intro holds
    obtain ⟨guard,member,owner⟩ := holds
    exact List.ne_nil_of_mem ((state.mem_owned caller guard.lock).mpr ⟨guard,member,owner,rfl⟩)
  · intro some
    obtain ⟨lock,member⟩ := List.exists_mem_of_ne_nil _ some
    obtain ⟨guard,member,owner,_⟩ := (state.mem_owned caller lock).mp member
    exact ⟨guard,member,owner⟩

theorem Taken.nested_other {state next : State I L} {caller : I} (taken : Taken state caller next)
    (other : I) (apart : other ≠ caller) (nested : next.Nested other) : state.Nested other := by
  obtain ⟨program,owned⟩ := taken.other other apart
  obtain ⟨holds,taking⟩ := nested
  constructor
  · rw [holds_iff,← owned,← holds_iff]
    exact holds
  · unfold State.Taking at taking ⊢
    rw [← program]
    exact taking

section Order

variable {R : Type w} [Preorder R] (contended : L → Prop) (rank : L → R)

/-- From holding `held` on, the program takes every contended lock above all
contended locks it holds then. -/
def Ordered : List L → List (Act L) → Prop
  | _,[] => True
  | held,.acquire _ lock :: rest =>
    (contended lock → ∀ other ∈ held, contended other → rank other < rank lock) ∧
      Ordered (lock :: held) rest
  | held,.release lock :: rest => Ordered (held.filter (fun other => other ≠ lock)) rest

/-- The locks held after a program, from holding `held` on. -/
def after : List L → List (Act L) → List L
  | held,[] => held
  | held,.acquire _ lock :: rest => after (lock :: held) rest
  | held,.release lock :: rest => after (held.filter (fun other => other ≠ lock)) rest

theorem ordered_append (held : List L) (first second : List (Act L))
    (one : Ordered contended rank held first)
    (two : Ordered contended rank (after held first) second) :
    Ordered contended rank held (first ++ second) := by
  induction first generalizing held with
  | nil => exact two
  | cons act rest ih =>
    cases act with
    | acquire mode lock => exact ⟨one.1,ih _ one.2 two⟩
    | release lock => exact ih _ one two

theorem after_append (held : List L) (first second : List (Act L)) :
    after held (first ++ second) = after (after held first) second := by
  induction first generalizing held with
  | nil => rfl
  | cons act rest ih =>
    cases act with
    | acquire mode lock => exact ih _
    | release lock => exact ih _

/-- A program repeated with different data, each time in order and leaving what it
held. -/
theorem ordered_flatMap {D : Type*} (held : List L) (part : D → List (Act L)) (data : List D)
    (one : ∀ datum, Ordered contended rank held (part datum) ∧ after held (part datum) = held) :
    Ordered contended rank held (data.flatMap part) ∧ after held (data.flatMap part) = held := by
  induction data with
  | nil => exact ⟨trivial,rfl⟩
  | cons datum rest ih =>
    rw [List.flatMap_cons,after_append,(one datum).2]
    refine ⟨ordered_append contended rank held _ _ (one datum).1 ?_,ih.2⟩
    rw [(one datum).2]
    exact ih.1

omit [DecidableEq I] in
/-- Only a contended lock is ever taken exclusively. -/
structure Shared (state : State I L) : Prop where
  program : ∀ caller lock, Act.acquire .write lock ∈ state.rest caller → contended lock
  guards : ∀ guard ∈ state.guards, guard.mode = .write → contended guard.lock

theorem shared_step (state next : State I L) (caller : I) (taken : step state caller = some next)
    (shared : Shared contended state) : Shared contended next := by
  have inside : ∀ (rest : List (Act L)) (act : Act L), state.rest caller = act :: rest →
      ∀ other lock, Act.acquire .write lock ∈ Function.update state.rest caller rest other →
        contended lock := by
    intro rest act program other lock member
    by_cases same : other = caller
    · subst other
      rw [Function.update_self] at member
      apply shared.program caller lock
      rw [program]
      exact List.mem_cons_of_mem act member
    · rw [Function.update_of_ne same] at member
      exact shared.program other lock member
  obtain ⟨mode,lock,rest,program,free⟩ | ⟨lock,rest,program⟩ := step_taken state next caller taken
  · refine ⟨inside rest _ program,?_⟩
    intro guard member write
    rcases List.mem_cons.mp member with rfl | member
    · apply shared.program caller lock
      simp only at write
      rw [program,write]
      exact List.mem_cons_self
    · exact shared.guards guard member write
  · refine ⟨inside rest _ program,?_⟩
    intro guard member write
    exact shared.guards guard (List.mem_of_mem_filter member) write

/-- A caller that takes its locks in order keeps doing so. -/
theorem ordered_step (state next : State I L) (caller other : I)
    (taken : step state caller = some next)
    (ordered : Ordered contended rank (state.owned other) (state.rest other)) :
    Ordered contended rank (next.owned other) (next.rest other) := by
  have taken := step_taken state next caller taken
  by_cases same : other = caller
  · subst other
    cases taken with
    | acquire mode lock rest program free =>
      rw [program] at ordered
      simpa [State.owned] using ordered.2
    | release lock rest program =>
      rw [program] at ordered
      have owned : (State.mk (Function.update state.rest caller rest) (state.guards.filter
          (fun guard => ¬(guard.owner = caller ∧ guard.lock = lock)))).owned caller =
          (state.owned caller).filter (fun held => held ≠ lock) := by
        simp only [State.owned,List.filter_filter,List.filter_map]
        congr 1
        apply List.filter_congr
        intro guard member
        by_cases owner : guard.owner = caller
        · simp [owner]
        · simp [owner]
      rw [owned]
      simpa [Ordered] using ordered
  · obtain ⟨program,owned⟩ := taken.other other same
    rw [program,owned]
    exact ordered

omit [DecidableEq I] [DecidableEq L] in
/-- A caller that waits waits for a contended lock. -/
theorem contended_of_waits (state : State I L) (shared : Shared contended state) (first second : I)
    (mode : Mode) (lock : L) (rest : List (Act L))
    (program : state.rest first = .acquire mode lock :: rest)
    (waits : state.Waits first second) : contended lock := by
  obtain ⟨mode',lock',rest',program',guard,member,owner,same,write⟩ := waits
  rw [program] at program'
  cases program'
  rcases write with write | write
  · apply shared.program first lock
    rw [program,write]
    exact List.mem_cons_self
  · rw [← same]
    exact shared.guards guard member write

/-- Along a chain of waiting callers that nest their locks in order, the lock
waited for goes up. -/
theorem rank_lt_of_waits (state : State I L) (shared : Shared contended state)
    (ordered : ∀ caller, state.Nested caller →
      Ordered contended rank (state.owned caller) (state.rest caller))
    (first last : I) (chain : Relation.TransGen state.Waits first last) :
    ∀ mode lock rest mode' lock' rest',
      state.rest first = .acquire mode lock :: rest →
      state.rest last = .acquire mode' lock' :: rest' → contended lock' →
      rank lock < rank lock' := by
  have link : ∀ first last, state.Waits first last → ∀ mode lock rest mode' lock' rest',
      state.rest first = .acquire mode lock :: rest →
      state.rest last = .acquire mode' lock' :: rest' → contended lock' →
      rank lock < rank lock' := by
    intro first last waits mode lock rest mode' lock' rest' program program' matters
    have used := contended_of_waits contended state shared first last mode lock rest program waits
    obtain ⟨_,_,_,again,guard,member,owner,same,_⟩ := waits
    rw [program] at again
    cases again
    have nested : state.Nested last :=
      ⟨⟨guard,member,owner⟩,.acquire mode' lock',by rw [program']; exact List.mem_cons_self,rfl⟩
    have inOrder := ordered last nested
    rw [program'] at inOrder
    apply inOrder.1 matters lock _ used
    exact (state.mem_owned last lock).mpr ⟨guard,member,owner,same⟩
  induction chain with
  | single waits => exact link first _ waits
  | tail chain waits ih =>
    intro mode lock rest mode' lock' rest' program program' matters
    obtain ⟨middleMode,middleLock,middleRest,middle,_⟩ := id waits
    have used := contended_of_waits contended state shared _ _ middleMode middleLock middleRest
      middle waits
    have before := ih mode lock rest middleMode middleLock middleRest program middle used
    exact before.trans (link _ _ waits middleMode middleLock middleRest mode' lock' rest'
      middle program' matters)

theorem not_deadlocked_of_ordered (state : State I L) (shared : Shared contended state)
    (ordered : ∀ caller, state.Nested caller →
      Ordered contended rank (state.owned caller) (state.rest caller)) :
    ¬state.Deadlocked := by
  intro deadlocked
  obtain ⟨caller,chain⟩ := deadlocked
  obtain ⟨other,waits,_⟩ := Relation.TransGen.head'_iff.mp chain
  obtain ⟨mode,lock,rest,program,_⟩ := id waits
  have used := contended_of_waits contended state shared caller other mode lock rest program waits
  exact lt_irrefl _ (rank_lt_of_waits contended rank state shared ordered caller caller chain
    mode lock rest mode lock rest program program used)

end Order

section TwoOrders

variable {R : Type w} [Preorder R] (contended : L → Prop) (rankFirst rankSecond : L → R)
  (first second : I → Prop)

/-- No caller of the first group nests its locks while one of the second does. -/
def Apart (state : State I L) : Prop :=
  ∀ one two, first one → second two → state.Nested one → ¬state.Nested two

/-- The next step takes a lock and leaves more to take. -/
def nests : List (Act L) → Bool
  | .acquire _ _ :: rest => rest.any Act.isAcquire
  | _ => false

/-- The step does not make a caller of one group hold a lock with more to take
while a caller of the other group does. -/
def Admits (state : State I L) (caller : I) : Prop :=
  nests (state.rest caller) = true →
    ∀ other, (first caller ∧ second other ∨ second caller ∧ first other) → ¬state.Nested other

instance decidableAdmits [Fintype I] [DecidablePred first] [DecidablePred second]
    (state : State I L) (caller : I) : Decidable (Admits first second state caller) :=
  inferInstanceAs (Decidable (nests (state.rest caller) = true →
    ∀ other, (first caller ∧ second other ∨ second caller ∧ first other) → ¬state.Nested other))

theorem Taken.nested_self {state next : State I L} {caller : I} (taken : Taken state caller next)
    (nested : next.Nested caller) :
    state.Nested caller ∨ nests (state.rest caller) = true := by
  obtain ⟨holds,act,member,takes⟩ := nested
  cases taken with
  | acquire mode lock rest program free =>
    simp only [Function.update_self] at member
    right
    rw [program]
    exact List.any_eq_true.mpr ⟨act,member,takes⟩
  | release lock rest program =>
    simp only [Function.update_self] at member
    obtain ⟨guard,kept,owner⟩ := holds
    refine .inl ⟨⟨guard,List.mem_of_mem_filter kept,owner⟩,act,?_,takes⟩
    rw [program]
    exact List.mem_cons_of_mem _ member

theorem apart_step (disjoint : ∀ caller, first caller → ¬second caller) (state next : State I L)
    (caller : I) (taken : step state caller = some next) (admits : Admits first second state caller)
    (apart : Apart first second state) : Apart first second next := by
  have taken := step_taken state next caller taken
  intro one two inFirst inSecond nestedOne nestedTwo
  by_cases isOne : one = caller
  · subst one
    have other : two ≠ caller := by
      intro same
      subst two
      exact disjoint _ inFirst inSecond
    have before := taken.nested_other two other nestedTwo
    rcases taken.nested_self nestedOne with nested | more
    · exact apart caller two inFirst inSecond nested before
    · exact admits more two (.inl ⟨inFirst,inSecond⟩) before
  · have beforeOne := taken.nested_other one isOne nestedOne
    by_cases isTwo : two = caller
    · subst two
      rcases taken.nested_self nestedTwo with nested | more
      · exact apart one caller inFirst inSecond beforeOne nested
      · exact admits more one (.inr ⟨inSecond,inFirst⟩) beforeOne
    · exact apart one two inFirst inSecond beforeOne (taken.nested_other two isTwo nestedTwo)

/-- Two groups of callers, each with its own order for the callers outside the
other group, do not deadlock as long as they never nest at the same time. -/
theorem deadlock_free_of_apart (programs : I → List (Act L))
    (disjoint : ∀ caller, first caller → ¬second caller)
    (shared : ∀ caller lock, Act.acquire .write lock ∈ programs caller → contended lock)
    (inFirst : ∀ caller, ¬second caller → Ordered contended rankFirst [] (programs caller))
    (inSecond : ∀ caller, ¬first caller → Ordered contended rankSecond [] (programs caller))
    (callers : List I) (final : State I L) (reached : run step (start programs) callers = some final)
    (admitted : Along step (fun state caller _ => Admits first second state caller)
      (start programs) callers) : ¬final.Deadlocked := by
  have idle : Apart first second (start programs) := by
    intro one two _ _ nested
    obtain ⟨⟨guard,member,_⟩,_⟩ := nested
    cases member
  have sharedStart : Shared contended (start programs) := by
    refine ⟨shared,?_⟩
    intro guard member
    cases member
  have kept := invariant_along (fun state caller _ => Admits first second state caller)
    (fun state => Apart first second state ∧ Shared contended state ∧
      (∀ caller, ¬second caller →
        Ordered contended rankFirst (state.owned caller) (state.rest caller)) ∧
      ∀ caller, ¬first caller →
        Ordered contended rankSecond (state.owned caller) (state.rest caller))
    (fun state caller next taken admits inv =>
      ⟨apart_step first second disjoint state next caller taken admits inv.1,
        shared_step contended state next caller taken inv.2.1,
        fun other outside => ordered_step contended rankFirst state next caller other taken
          (inv.2.2.1 other outside),
        fun other outside => ordered_step contended rankSecond state next caller other taken
          (inv.2.2.2 other outside)⟩)
    (start programs) final callers reached admitted
    ⟨idle,sharedStart,inFirst,inSecond⟩
  obtain ⟨apart,sharedFinal,orderedFirst,orderedSecond⟩ := kept
  by_cases busy : ∃ caller, first caller ∧ final.Nested caller
  · obtain ⟨caller,member,nested⟩ := busy
    apply not_deadlocked_of_ordered contended rankFirst final sharedFinal
    intro other nestedOther
    apply orderedFirst other
    intro isSecond
    exact apart caller other member isSecond nested nestedOther
  · apply not_deadlocked_of_ordered contended rankSecond final sharedFinal
    intro other nestedOther
    apply orderedSecond other
    intro isFirst
    exact busy ⟨other,isFirst,nestedOther⟩

end TwoOrders

end Warpdrive.Foundation.LockOrder
