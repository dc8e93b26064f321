import Mathlib.Data.List.TakeWhile

/-! Two lists joined by a separator. Where neither has the separator, the joined list says which they were;
where one has it, another pair joins to the same. -/
namespace Warpdrive.Foundation.Separator

variable {α : Type*} (separator : α)

theorem takeWhile_joined [DecidableEq α] (first second : List α) (plain : separator ∉ first) :
    (first ++ separator::second).takeWhile (· ≠ separator) = first := by
  have kept : ∀ item ∈ first, decide (item ≠ separator) = true := by
    intro item member
    refine decide_eq_true ?_
    rintro rfl
    exact plain member
  rw [List.takeWhile_append_of_pos kept]
  simp

theorem eq_of_joined [DecidableEq α] (first second other rest : List α) (plain : separator ∉ first)
    (plain_rest : separator ∉ second) (same : other ++ separator::rest = first ++ separator::second) :
    other = first ∧ rest = second := by
  have counts := congrArg (List.count separator) same
  simp only [List.count_append,List.count_cons_self,List.count_eq_zero_of_not_mem plain,
    List.count_eq_zero_of_not_mem plain_rest] at counts
  have plain_other : separator ∉ other := List.count_eq_zero.mp (by omega)
  have equal : other = first := by
    rw [← takeWhile_joined separator other rest plain_other,same,takeWhile_joined separator first second plain]
  subst equal
  exact ⟨rfl,(List.cons.inj (List.append_cancel_left same)).2⟩

theorem exists_joined (first second : List α) (within : separator ∈ first ∨ separator ∈ second) :
    ∃ other rest, other ≠ first ∧ other ++ separator::rest = first ++ separator::second := by
  rcases within with inFirst | inSecond
  · obtain ⟨start,stop,rfl⟩ := List.append_of_mem inFirst
    refine ⟨start,stop ++ separator::second,?_,by simp⟩
    intro same
    have lengths := congrArg List.length same
    simp at lengths
  · obtain ⟨start,stop,rfl⟩ := List.append_of_mem inSecond
    refine ⟨first ++ separator::start,stop,?_,by simp⟩
    intro same
    have lengths := congrArg List.length same
    simp at lengths

/-- A text cut at its first separator, as by `str::split_once`. -/
def splitOnce (separator : Char) (text : String) : Option (String × String) :=
  match text.toList.dropWhile (· ≠ separator) with
  | [] => none
  | _::rest => some (String.ofList (text.toList.takeWhile (· ≠ separator)),String.ofList rest)

theorem splitOnce_eq_some (separator : Char) (text first second : String) :
    splitOnce separator text = some (first,second) ↔
      text.toList = first.toList ++ separator::second.toList ∧ separator ∉ first.toList := by
  have whole : text.toList.takeWhile (· ≠ separator) ++ text.toList.dropWhile (· ≠ separator) = text.toList :=
    List.takeWhile_append_dropWhile
  constructor
  · intro parts
    unfold splitOnce at parts
    split at parts
    · cases parts
    next stop rest found =>
      obtain ⟨rfl,rfl⟩ := Prod.mk.inj (Option.some.inj parts)
      have same : stop = separator := by
        have stops := List.head?_dropWhile_not (· ≠ separator) text.toList
        rw [found] at stops
        simpa using stops
      subst same
      refine ⟨?_,?_⟩
      · rw [found] at whole
        simp only [String.toList_ofList]
        exact whole.symm
      · intro member
        rw [String.toList_ofList] at member
        simpa using List.mem_takeWhile_imp member
  · rintro ⟨joined,plain⟩
    have before := takeWhile_joined separator first.toList second.toList plain
    rw [joined,before] at whole
    have after := List.append_cancel_left whole
    simp only [splitOnce,joined,after,before,String.ofList_toList]

theorem splitOnce_isSome (separator : Char) (text : String) :
    (splitOnce separator text).isSome ↔ separator ∈ text.toList := by
  unfold splitOnce
  split
  next all =>
    have none_left := List.dropWhile_eq_nil_iff.mp all separator
    simpa using none_left
  next stop rest found =>
    have stops := List.head?_dropWhile_not (· ≠ separator) text.toList
    rw [found] at stops
    have same : stop = separator := by simpa using stops
    have member : stop ∈ text.toList := List.dropWhile_subset _ (found ▸ List.mem_cons_self)
    simpa using same ▸ member

end Warpdrive.Foundation.Separator
