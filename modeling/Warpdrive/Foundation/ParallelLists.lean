import Mathlib.Data.List.Forall2
import Mathlib.Data.List.Perm.Basic
import Mathlib.Data.List.Sort
import Mathlib.Tactic.Common

/-! Two parallel lists made from one: each source gives a key with an item, the pairs are sorted by their
keys and split. The keys ascend, strictly where the sources give distinct ones, and the item at each place is
still the one that was given with the key there. -/
namespace Warpdrive.Foundation.ParallelLists

variable {Source Key Item Error : Type}

theorem mapM_pairs {Pair : Type} (pairOf : Source → Except Error Pair) (sources : List Source) (pairs : List Pair)
    (made : sources.mapM pairOf = .ok pairs) : List.Forall₂ (fun source pair => pairOf source = .ok pair) sources pairs := by
  induction sources generalizing pairs with
  | nil =>
    cases made
    exact .nil
  | cons source sources ih =>
    rw [List.mapM_cons] at made
    cases first : pairOf source with
    | error error =>
      rw [first] at made
      cases made
    | ok pair =>
      rw [first] at made
      cases rest : sources.mapM pairOf with
      | error error =>
        rw [rest] at made
        cases made
      | ok others =>
        rw [rest] at made
        cases made
        exact .cons first (ih others rest)

theorem source_of_pair {Pair : Type} (gives : Source → Pair → Prop) (sources : List Source) (pairs : List Pair)
    (given : List.Forall₂ gives sources pairs) (pair : Pair) (member : pair ∈ pairs) :
    ∃ source ∈ sources, gives source pair := by
  induction given with
  | nil => cases member
  | cons gave rest ih =>
    rcases List.mem_cons.mp member with same | later
    · rw [same]
      exact ⟨_,List.mem_cons_self,gave⟩
    · obtain ⟨source,inside,found⟩ := ih later
      exact ⟨source,List.mem_cons_of_mem _ inside,found⟩

theorem distinct_pairs {Pair : Type} (gives : Source → Pair → Prop) (differ : Pair → Pair → Prop)
    (sources : List Source) (pairs : List Pair) (given : List.Forall₂ gives sources pairs)
    (distinct : sources.Pairwise (fun first second => ∀ one two, gives first one → gives second two → differ one two)) :
    pairs.Pairwise differ := by
  induction given with
  | nil => exact .nil
  | cons gave rest ih =>
    rw [List.pairwise_cons] at distinct
    rw [List.pairwise_cons]
    refine ⟨fun other member => ?_,ih distinct.2⟩
    obtain ⟨source,inside,given⟩ := source_of_pair gives _ _ rest other member
    exact distinct.1 source inside _ other gave given

/-- A view that the sources share with what they give. -/
theorem map_given {Pair View : Type} (gives : Source → Pair → Prop) (ofSource : Source → View) (ofPair : Pair → View)
    (sources : List Source) (pairs : List Pair) (given : List.Forall₂ gives sources pairs)
    (shared : ∀ source ∈ sources, ∀ pair, gives source pair → ofPair pair = ofSource source) :
    pairs.map ofPair = sources.map ofSource := by
  induction given with
  | nil => rfl
  | cons gave rest ih =>
    rw [List.map_cons,List.map_cons,shared _ List.mem_cons_self _ gave,
      ih (fun source member => shared source (List.mem_cons_of_mem _ member))]

variable [LE Key] [DecidableLE Key]

/-- The pairs in the order of their keys, equal keys in the order they came in. -/
def byKey (pairs : List (Key × Item)) : List (Key × Item) := pairs.insertionSort (fun a b => a.1 ≤ b.1)

theorem byKey_perm (pairs : List (Key × Item)) : (byKey pairs).Perm pairs := List.perm_insertionSort _ pairs

theorem byKey_ascending [Std.Total (fun a b : Key => a ≤ b)] [IsTrans Key (fun a b => a ≤ b)]
    (pairs : List (Key × Item)) (distinct : pairs.Pairwise (fun a b => a.1 ≠ b.1)) :
    ((byKey pairs).map Prod.fst).Pairwise (fun a b => a ≤ b ∧ a ≠ b) := by
  have total : Std.Total (fun a b : Key × Item => a.1 ≤ b.1) := ⟨fun a b => Std.Total.total a.1 b.1⟩
  have trans : IsTrans (Key × Item) (fun a b => a.1 ≤ b.1) := ⟨fun a b c => IsTrans.trans a.1 b.1 c.1⟩
  have ordered := List.pairwise_insertionSort (fun a b : Key × Item => a.1 ≤ b.1) pairs
  have apart : (byKey pairs).Pairwise (fun a b => a.1 ≠ b.1) :=
    (byKey_perm pairs).symm.pairwise distinct (fun differ => Ne.symm differ)
  rw [List.pairwise_map]
  exact List.Pairwise.and ordered apart

end Warpdrive.Foundation.ParallelLists
