import Mathlib.Data.List.Basic

/-! Noninterference by unwinding. Every action of a deterministic system belongs to a domain. When
the tame actions of other domains keep what an observer can tell apart, the observer's outputs are
the same without any of them. -/
namespace Warpdrive.Foundation.Noninterference

universe u v w x

variable {S : Type u} {A : Type v} {O : Type w} {D : Type x} [DecidableEq D]

def outputs (step : S → A → S × O) (domain : A → D) (observer : D) : S → List A → List O
  | _,[] => []
  | state,act::acts =>
    let result := step state act
    if domain act = observer then result.2 :: outputs step domain observer result.1 acts
    else outputs step domain observer result.1 acts

/-- A relation that the observer's actions respect and that no other tame action breaks. -/
structure Unwinding (step : S → A → S × O) (domain : A → D) (observer : D) (tame : A → Prop)
    (same : S → S → Prop) : Prop where
  symm : ∀ first second, same first second → same second first
  consistent : ∀ first second act, domain act = observer → same first second →
    (step first act).2 = (step second act).2 ∧ same (step first act).1 (step second act).1
  respects : ∀ first second act, tame act → domain act ≠ observer → same first second →
    same (step first act).1 second

variable {step : S → A → S × O} {domain : A → D} {observer : D} {tame : A → Prop} {same : S → S → Prop}

theorem Unwinding.outputs_filter (unwinding : Unwinding step domain observer tame same) (keep : A → Bool)
    (acts : List A) (own : ∀ act ∈ acts, domain act = observer → keep act = true)
    (mild : ∀ act ∈ acts, domain act ≠ observer → tame act) (first second : S) (related : same first second) :
    outputs step domain observer first acts = outputs step domain observer second (acts.filter keep) := by
  induction acts generalizing first second with
  | nil => rfl
  | cons act acts ih =>
    obtain ⟨now,later⟩ := List.forall_mem_cons.mp own
    obtain ⟨calm,rest⟩ := List.forall_mem_cons.mp mild
    by_cases mine : domain act = observer
    · obtain ⟨output,next⟩ := unwinding.consistent first second act mine related
      rw [List.filter_cons_of_pos (now mine)]
      simp only [outputs,mine,if_true]
      rw [output,ih later rest _ _ next]
    · have left := unwinding.respects first second act (calm mine) mine related
      by_cases kept : keep act = true
      · have right := unwinding.symm _ _ (unwinding.respects second _ act (calm mine) mine (unwinding.symm _ _ left))
        rw [List.filter_cons_of_pos kept]
        simp only [outputs,mine,if_false]
        exact ih later rest _ _ right
      · rw [List.filter_cons_of_neg kept]
        simp only [outputs,mine,if_false]
        exact ih later rest _ _ left

theorem Unwinding.final_filter (unwinding : Unwinding step domain observer tame same) (keep : A → Bool)
    (acts : List A) (own : ∀ act ∈ acts, domain act = observer → keep act = true)
    (mild : ∀ act ∈ acts, domain act ≠ observer → tame act) (first second : S) (related : same first second) :
    same (acts.foldl (fun state act => (step state act).1) first)
      ((acts.filter keep).foldl (fun state act => (step state act).1) second) := by
  induction acts generalizing first second with
  | nil => exact related
  | cons act acts ih =>
    obtain ⟨now,later⟩ := List.forall_mem_cons.mp own
    obtain ⟨calm,rest⟩ := List.forall_mem_cons.mp mild
    by_cases mine : domain act = observer
    · obtain ⟨_,next⟩ := unwinding.consistent first second act mine related
      rw [List.filter_cons_of_pos (now mine)]
      exact ih later rest _ _ next
    · have left := unwinding.respects first second act (calm mine) mine related
      by_cases kept : keep act = true
      · have right := unwinding.symm _ _ (unwinding.respects second _ act (calm mine) mine (unwinding.symm _ _ left))
        rw [List.filter_cons_of_pos kept]
        exact ih later rest _ _ right
      · rw [List.filter_cons_of_neg kept]
        exact ih later rest _ _ left

theorem Unwinding.outputs_purge (unwinding : Unwinding step domain observer tame same) (other : D)
    (differ : other ≠ observer) (acts : List A) (mild : ∀ act ∈ acts, domain act ≠ observer → tame act)
    (state : S) (related : same state state) :
    outputs step domain observer state acts =
      outputs step domain observer state (acts.filter (fun act => domain act ≠ other)) := by
  refine unwinding.outputs_filter _ acts ?_ mild state state related
  intro act _ mine
  rw [mine]
  exact decide_eq_true differ.symm

end Warpdrive.Foundation.Noninterference
