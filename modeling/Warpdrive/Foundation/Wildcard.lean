import Mathlib.Data.Finset.Image
import Mathlib.Data.Finset.SDiff
import Mathlib.Data.Set.Prod

/-! Filters by a list of what is allowed, where the empty list allows everything. Adding to such a
list can take away and removing from it can add, so each comparison has a condition. -/
namespace Warpdrive.Foundation.Wildcard

variable {α : Type*}

def allowed (listed : Finset α) : Set α := {a | listed = ∅ ∨ a ∈ listed}

def Total (listed : Finset α) : Prop := listed = ∅ ∨ ∀ a, a ∈ listed

@[simp] theorem allowed_empty : allowed (∅ : Finset α) = Set.univ := by
  ext a
  simp [allowed]

theorem allowed_of_ne (listed : Finset α) (some : listed ≠ ∅) : allowed listed = listed := by
  ext a
  simp [allowed,some]

theorem univ_subset_allowed (listed : Finset α) : Set.univ ⊆ allowed listed ↔ Total listed := by
  by_cases none : listed = ∅
  · simp [Total,none]
  · rw [allowed_of_ne listed none]
    constructor
    · intro full
      exact .inr (fun a => full (Set.mem_univ a))
    · rintro (empty | full)
      · exact absurd empty none
      · exact fun a _ => full a

theorem allowed_nonempty [Nonempty α] (listed : Finset α) : (allowed listed).Nonempty := by
  by_cases none : listed = ∅
  · rw [none,allowed_empty]
    exact Set.univ_nonempty
  · rw [allowed_of_ne listed none]
    exact Finset.nonempty_iff_ne_empty.mpr none

variable [DecidableEq α]

/-- A list that is added to allows what it allowed, unless it was empty. -/
theorem allowed_subset_union (listed more : Finset α) :
    allowed listed ⊆ allowed (listed ∪ more) ↔ (listed = ∅ → Total more) := by
  by_cases none : listed = ∅
  · rw [none,allowed_empty,Finset.empty_union,univ_subset_allowed]
    simp
  · have wider : listed ∪ more ≠ ∅ := by simp [none]
    rw [allowed_of_ne listed none,allowed_of_ne _ wider]
    simp [none]

/-- A list that is removed from allows no more than before, unless it becomes empty. -/
theorem allowed_sdiff_subset (listed less : Finset α) :
    allowed (listed \ less) ⊆ allowed listed ↔ (listed ⊆ less → Total listed) := by
  by_cases all : listed ⊆ less
  · rw [Finset.sdiff_eq_empty_iff_subset.mpr all,allowed_empty,univ_subset_allowed]
    simp [all]
  · have left : listed \ less ≠ ∅ := by
      rw [Ne,Finset.sdiff_eq_empty_iff_subset]
      exact all
    have some : listed ≠ ∅ := by
      rintro rfl
      exact all (Finset.empty_subset less)
    rw [allowed_of_ne _ left,allowed_of_ne listed some]
    simp [all]

omit [DecidableEq α] in
/-- No list of values is total for options: it does not have `none`. -/
theorem total_map_some (listed : Finset α) :
    Total (listed.map Function.Embedding.some) ↔ listed = ∅ := by
  simp only [Total,Finset.map_eq_empty]
  constructor
  · rintro (empty | full)
    · exact empty
    · simpa using full none
  · exact .inl

end Warpdrive.Foundation.Wildcard
