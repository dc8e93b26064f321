import Mathlib.Data.List.Perm.Basic
import Mathlib.Tactic.Common

/-! A cursor over a numbered log, moved by half-open ranges that follow one another. What is collected range
by range is what the log holds at each number once. -/
namespace Warpdrive.Foundation.Cursor

def span (range : Nat × Nat) : List Nat := List.range' range.1 (range.2 - range.1)

/-- Ranges, none of them empty, of which each starts where the one before stops. -/
inductive Consecutive : Nat → List (Nat × Nat) → Nat → Prop
  | nil (start : Nat) : Consecutive start [] start
  | cons (start middle stop : Nat) (ranges : List (Nat × Nat)) (grows : start < middle)
      (rest : Consecutive middle ranges stop) : Consecutive start ((start,middle)::ranges) stop

namespace Consecutive

variable {start stop : Nat} {ranges : List (Nat × Nat)}

theorem le (consecutive : Consecutive start ranges stop) : start ≤ stop := by
  induction consecutive with
  | nil start => exact Nat.le_refl start
  | cons start middle stop ranges grows rest ih => omega

theorem spans (consecutive : Consecutive start ranges stop) :
    ranges.flatMap span = List.range' start (stop - start) := by
  induction consecutive with
  | nil start => simp
  | cons start middle stop ranges grows rest ih =>
    have bound := rest.le
    have total : stop - start = (middle - start) + (stop - middle) := by omega
    rw [List.flatMap_cons,ih,total,← List.range'_append_1]
    have joined : start + (middle - start) = middle := by omega
    rw [joined,span]

theorem bounds (consecutive : Consecutive start ranges stop) (range : Nat × Nat) (member : range ∈ ranges) :
    start ≤ range.1 ∧ range.1 < range.2 ∧ range.2 ≤ stop := by
  induction consecutive with
  | nil start => cases member
  | cons start middle stop ranges grows rest ih =>
    have bound := rest.le
    rcases List.mem_cons.mp member with same | later
    · subst same
      exact ⟨Nat.le_refl start,grows,bound⟩
    · have inner := ih later
      omega

theorem disjoint (consecutive : Consecutive start ranges stop) : ranges.Pairwise (fun a b => a.2 ≤ b.1) := by
  induction consecutive with
  | nil start => exact List.Pairwise.nil
  | cons start middle stop ranges grows rest ih =>
    refine List.pairwise_cons.mpr ⟨fun range member => ?_,ih⟩
    exact (rest.bounds range member).1

end Consecutive

variable {Number Part Item : Type}

/-- What each part holds at each number, in the order of the numbers. -/
def expected (parts : List Part) (held : Part → Number → List Item) (numbers : List Number) : List Item :=
  parts.flatMap (fun part => numbers.flatMap (held part))

/-- Walking the parts in another order, with the items of each in another order, collects the same. -/
theorem expected_perm (walk parts : List Part) (held : Part → Number → List Item) (numbers : List Number)
    (found : Part → List Item) (order : walk.Perm parts)
    (each : ∀ part ∈ walk, (found part).Perm (numbers.flatMap (held part))) :
    (walk.flatMap found).Perm (expected parts held numbers) :=
  (List.Perm.flatMap_left walk each).trans (order.flatMap_right _)

theorem expected_append (parts : List Part) (held : Part → Number → List Item) (before after : List Number) :
    (expected parts held before ++ expected parts held after).Perm (expected parts held (before ++ after)) := by
  unfold expected
  simp only [List.flatMap_append]
  exact List.flatMap_append_perm parts _ _

theorem length_flatMap_le {Short Long : Type} (parts : List Part) (short : Part → List Short)
    (long : Part → List Long) (less : ∀ part ∈ parts, (short part).length ≤ (long part).length) :
    (parts.flatMap short).length ≤ (parts.flatMap long).length := by
  induction parts with
  | nil => simp
  | cons first rest ih =>
    obtain ⟨own,others⟩ := List.forall_mem_cons.mp less
    have later := ih others
    simp only [List.flatMap_cons,List.length_append]
    omega

/-- Lists that are no longer than others, and together as long, are each as long. -/
theorem length_le_of_flatMap {Short Long : Type} (parts : List Part) (short : Part → List Short)
    (long : Part → List Long) (less : ∀ part ∈ parts, (short part).length ≤ (long part).length)
    (total : (parts.flatMap long).length ≤ (parts.flatMap short).length) (part : Part) (member : part ∈ parts) :
    (long part).length ≤ (short part).length := by
  induction parts with
  | nil => cases member
  | cons first rest ih =>
    obtain ⟨own,others⟩ := List.forall_mem_cons.mp less
    have below := length_flatMap_le rest short long others
    simp only [List.flatMap_cons,List.length_append] at total
    rcases List.mem_cons.mp member with same | later
    · subst same
      omega
    · exact ih others (by omega) later

/-- Of what the parts hold, the first page of each is all of it exactly when no part holds more. -/
theorem subperm_pages (parts : List Part) (held : Part → List Item) (page : Nat) (collected : List Item)
    (pages : collected.Perm (parts.flatMap (fun part => (held part).take page))) :
    (parts.flatMap held).Subperm collected ↔ ∀ part ∈ parts, (held part).length ≤ page := by
  constructor
  · intro all part member
    have total := all.length_le
    rw [pages.length_eq] at total
    have whole := length_le_of_flatMap parts (fun part => (held part).take page) held
      (fun part _ => List.length_take_le' page (held part)) total part member
    rw [List.length_take] at whole
    omega
  · intro few
    have whole : parts.flatMap (fun part => (held part).take page) = parts.flatMap held := by
      simp only [List.flatMap_def]
      congr 1
      exact List.map_congr_left (fun part member => List.take_of_length_le (few part member))
    rw [whole] at pages
    exact pages.symm.subperm

end Warpdrive.Foundation.Cursor
