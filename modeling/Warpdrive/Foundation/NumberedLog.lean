import Mathlib.Data.List.Basic
import Mathlib.Data.List.TakeDrop
import Mathlib.Data.List.Nodup
import Mathlib.Tactic.Common

/-! An append-only log in which every entry carries its position, with what a reader finds
who asks by number: the entries from a number on are a suffix, and the first entries that
pass a test reach exactly as far as the last of them. -/
namespace Warpdrive.Foundation.NumberedLog

universe u

variable {E : Type u} (number : E → Nat)

def Numbered (log : List E) : Prop := log.map number = List.range log.length

theorem numbered_nil : Numbered number [] := rfl

theorem numbered_append (log : List E) (entry : E) (numbered : Numbered number log)
    (next : number entry = log.length) : Numbered number (log ++ [entry]) := by
  unfold Numbered at numbered ⊢
  rw [List.map_append,numbered,List.length_append,List.length_singleton,List.range_succ]
  simp [next]

variable {number}

theorem Numbered.get {log : List E} (numbered : Numbered number log) (i : Nat) (entry : E)
    (found : log[i]? = some entry) : number entry = i := by
  have mapped : (log.map number)[i]? = some (number entry) := by simp [found]
  rw [numbered] at mapped
  exact (List.getElem?_eq_some_iff.mp mapped).2.symm.trans (by simp)

theorem Numbered.nodup {log : List E} (numbered : Numbered number log) : log.Nodup := by
  apply List.Nodup.of_map number
  rw [numbered]
  exact List.nodup_range

/-- The entries of a suffix with a number from the given one on. -/
theorem Numbered.since {log : List E} (numbered : Numbered number log) (kept first : Nat) :
    (log.drop kept).filter (fun entry => first ≤ number entry) = log.drop (max kept first) := by
  have parted : log.drop kept = (log.take (max kept first)).drop kept ++ log.drop (max kept first) := by
    conv_lhs => rw [← List.take_append_drop (max kept first) log]
    rw [List.drop_append]
    by_cases short : log.length ≤ max kept first
    · simp [List.drop_eq_nil_of_le short]
    · have length : (log.take (max kept first)).length = max kept first := by
        rw [List.length_take]
        omega
      have none : kept - max kept first = 0 := by omega
      rw [length,none,List.drop_zero]
  have below : ((log.take (max kept first)).drop kept).filter (fun entry => first ≤ number entry) = [] := by
    refine List.filter_eq_nil_iff.mpr ?_
    intro entry member
    obtain ⟨i,found⟩ := List.mem_iff_getElem?.mp member
    rw [List.getElem?_drop,List.getElem?_take] at found
    split at found
    next bound =>
      have position := numbered.get (kept + i) entry found
      simp only [decide_eq_true_eq]
      omega
    next => cases found
  have above : (log.drop (max kept first)).filter (fun entry => first ≤ number entry) =
      log.drop (max kept first) := by
    refine List.filter_eq_self.mpr ?_
    intro entry member
    obtain ⟨i,found⟩ := List.mem_iff_getElem?.mp member
    rw [List.getElem?_drop] at found
    have position := numbered.get (max kept first + i) entry found
    simp only [decide_eq_true_eq]
    omega
  rw [parted,List.filter_append,below,above,List.nil_append]

/-- The entries up to a position, in two parts. -/
theorem take_max (log : List E) (first kept : Nat) :
    log.take (max kept first) = log.take first ++ (log.take kept).drop first := by
  rcases Nat.le_total kept first with less | more
  · have none : (log.take kept).drop first = [] := by
      refine List.drop_eq_nil_of_le ?_
      rw [List.length_take]
      omega
    rw [none,List.append_nil,Nat.max_eq_right less]
  · have stem : (log.take kept).take first = log.take first := by
      rw [List.take_take,Nat.min_eq_left more]
    rw [Nat.max_eq_left more,← stem,List.take_append_drop]

/-- A range of positions, cut at one of them. -/
theorem drop_take_cut (log : List E) (first middle last : Nat) (lower : first ≤ middle) (upper : middle ≤ last) :
    (log.take last).drop first = (log.take middle).drop first ++ (log.take last).drop middle := by
  obtain ⟨more,rfl⟩ := Nat.exists_eq_add_of_le upper
  rw [List.take_add,List.drop_append,List.drop_append]
  rcases Nat.le_total middle log.length with inside | short
  · have length : (log.take middle).length = middle := by
      rw [List.length_take]
      omega
    have none : (log.take middle).drop middle = [] := List.drop_eq_nil_of_le (by omega)
    rw [length,none,Nat.sub_eq_zero_of_le lower]
    simp
  · simp [List.drop_eq_nil_of_le short,List.take_of_length_le short]

/-- The first entries that pass a test are those of a prefix that ends with the last of them. -/
theorem take_filter (log : List E) (test : E → Bool) (limit : Nat) (nonempty : (log.filter test).take limit ≠ []) :
    ∃ i, ∃ entry ∈ log[i]?, ((log.filter test).take limit).getLast? = some entry ∧
      (log.take (i + 1)).filter test = (log.filter test).take limit := by
  induction log generalizing limit with
  | nil => simp at nonempty
  | cons first log ih =>
    by_cases passes : test first = true
    · rw [List.filter_cons_of_pos passes] at nonempty ⊢
      cases limit with
      | zero => simp at nonempty
      | succ limit =>
        rw [List.take_succ_cons]
        by_cases last : (log.filter test).take limit = []
        · refine ⟨0,first,rfl,?_,?_⟩
          · simp [last]
          · simp [passes,last]
        · obtain ⟨i,entry,found,ends,same⟩ := ih limit last
          refine ⟨i + 1,entry,by simpa using found,?_,?_⟩
          · rw [List.getLast?_cons,ends]
            rfl
          · rw [List.take_succ_cons,List.filter_cons_of_pos passes,same]
    · rw [List.filter_cons_of_neg passes] at nonempty ⊢
      obtain ⟨i,entry,found,ends,same⟩ := ih limit nonempty
      refine ⟨i + 1,entry,by simpa using found,ends,?_⟩
      rw [List.take_succ_cons,List.filter_cons_of_neg passes,same]

end Warpdrive.Foundation.NumberedLog
