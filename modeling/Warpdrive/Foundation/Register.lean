import Mathlib.Data.List.Basic

/-! A register that the commands of a queue write. A command fills it, empties it or leaves
it alone; a queue leads from what is held now to what it settles at. -/
namespace Warpdrive.Foundation.Register

variable {C V : Type} (write : C → Option (Option V))

def apply (held : Option V) (command : C) : Option V := (write command).getD held

/-- What is held once the queue has been worked off. -/
def settle (held : Option V) (queue : List C) : Option V := queue.foldl (apply write) held

/-- Every command that fills the register meets it empty. -/
def Orderly : Option V → List C → Prop
  | _,[] => True
  | held,command::queue =>
    (∀ value, write command = some (some value) → held = none) ∧ Orderly (apply write held command) queue

variable {write}

@[simp] theorem settle_nil (held : Option V) : settle write held [] = held := rfl

@[simp] theorem settle_cons (held : Option V) (command : C) (queue : List C) :
    settle write held (command::queue) = settle write (apply write held command) queue := rfl

theorem settle_append (held : Option V) (first second : List C) :
    settle write held (first ++ second) = settle write (settle write held first) second :=
  List.foldl_append

theorem apply_of_none (held : Option V) (command : C) (other : write command = none) :
    apply write held command = held := by
  simp [apply,other]

theorem settle_of_none (held : Option V) (queue : List C) (other : ∀ command ∈ queue, write command = none) :
    settle write held queue = held := by
  induction queue generalizing held with
  | nil => rfl
  | cons command queue ih =>
    rw [settle_cons,apply_of_none held command (other command List.mem_cons_self)]
    exact ih held (fun later member => other later (List.mem_cons_of_mem command member))

/-- A queue that writes forgets what was held. -/
theorem settle_or (write : C → Option (Option V)) (queue : List C) :
    (∀ command ∈ queue, write command = none) ∨
      ∀ first second : Option V, settle write first queue = settle write second queue := by
  induction queue with
  | nil => exact .inl (fun _ member => by cases member)
  | cons command queue ih =>
    cases written : write command with
    | some value =>
      right
      intro first second
      simp [apply,written]
    | none =>
      rcases ih with untouched | forgets
      · left
        intro other member
        rcases List.mem_cons.mp member with rfl | rest
        · exact written
        · exact untouched other rest
      · right
        intro first second
        rw [settle_cons,settle_cons]
        exact forgets _ _

theorem Orderly.of_none {held : Option V} {queue : List C} (orderly : Orderly write held queue) :
    Orderly write none queue := by
  induction queue generalizing held with
  | nil => trivial
  | cons command queue ih =>
    refine ⟨fun _ _ => rfl,?_⟩
    cases written : write command with
    | some value =>
      have same : apply write none command = apply write held command := by simp [apply,written]
      rw [same]
      exact orderly.2
    | none =>
      rw [apply_of_none _ _ written]
      exact ih orderly.2

theorem orderly_append (held : Option V) (first second : List C) :
    Orderly write held (first ++ second) ↔
      Orderly write held first ∧ Orderly write (settle write held first) second := by
  induction first generalizing held with
  | nil => simp [Orderly]
  | cons command first ih => simp [Orderly,ih,and_assoc]

theorem orderly_of_none (held : Option V) (queue : List C) (other : ∀ command ∈ queue, write command = none) :
    Orderly write held queue := by
  induction queue generalizing held with
  | nil => trivial
  | cons command queue ih =>
    refine ⟨?_,ih _ (fun later member => other later (List.mem_cons_of_mem command member))⟩
    intro value fills
    rw [other command List.mem_cons_self] at fills
    cases fills

end Warpdrive.Foundation.Register
