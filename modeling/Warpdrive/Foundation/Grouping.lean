import Mathlib.Logic.Function.Basic
import Mathlib.Data.List.Nodup

/-! A map beside its inverse: each value with the list of the keys it is under. The two are kept together when a key is
put under a value, when a key is taken away and when a value is taken away with all of its keys. -/
namespace Warpdrive.Foundation

universe u v

variable {K : Type u} {V : Type v}

/-- A key is under a value exactly when the value lists it, once, and no value lists nothing. -/
structure Grouping (valueOf : K → Option V) (keysOf : V → Option (List K)) : Prop where
  listed : ∀ key value, valueOf key = some value ↔ ∃ keys, keysOf value = some keys ∧ key ∈ keys
  once : ∀ value keys, keysOf value = some keys → keys.Nodup
  filled : ∀ value, keysOf value ≠ some []

namespace Grouping

theorem empty : Grouping (fun _ : K => (none : Option V)) (fun _ => none) := by
  constructor
  · intro key value
    simp
  · intro value keys found
    cases found
  · intro value found
    cases found

variable {valueOf : K → Option V} {keysOf : V → Option (List K)}

theorem not_listed (held : Grouping valueOf keysOf) (key : K) (absent : valueOf key = none) (value : V) (keys : List K)
    (found : keysOf value = some keys) : key ∉ keys := by
  intro member
  have under := (held.listed key value).mpr ⟨keys,found,member⟩
  rw [absent] at under
  cases under

theorem apart (held : Grouping valueOf keysOf) (key : K) (value other : V) (under : valueOf key = some value)
    (differ : other ≠ value) (keys : List K) (found : keysOf other = some keys) : key ∉ keys := by
  intro member
  have second := (held.listed key other).mpr ⟨keys,found,member⟩
  rw [under] at second
  cases second
  exact differ rfl

variable [DecidableEq K] [DecidableEq V]

theorem add (held : Grouping valueOf keysOf) (key : K) (value : V) (fresh : valueOf key = none) :
    Grouping (Function.update valueOf key (some value))
      (Function.update keysOf value (some ((keysOf value).getD [] ++ [key]))) := by
  have absent : key ∉ (keysOf value).getD [] := by
    cases found : keysOf value with
    | none => simp
    | some keys => exact held.not_listed key fresh value keys found
  have before : ∀ other, valueOf other = some value ↔ other ∈ (keysOf value).getD [] := by
    intro other
    rw [held.listed]
    cases keysOf value <;> simp
  constructor
  · intro other second
    rw [Function.update_apply,Function.update_apply]
    by_cases same : second = value
    · subst second
      rw [if_pos rfl]
      by_cases new : other = key
      · subst other
        simp
      · rw [if_neg new,before]
        simp [new]
    · rw [if_neg same]
      by_cases new : other = key
      · subst other
        rw [if_pos rfl]
        constructor
        · intro both
          cases both
          exact absurd rfl same
        · rintro ⟨keys,found,member⟩
          exact absurd member (held.not_listed key fresh second keys found)
      · rw [if_neg new,held.listed]
  · intro second keys found
    rw [Function.update_apply] at found
    split at found
    · cases found
      refine List.Nodup.append ?_ (List.nodup_singleton key) ?_
      · cases present : keysOf value with
        | none => exact List.nodup_nil
        | some keys => exact held.once value keys present
      · rw [List.disjoint_singleton]
        exact absent
    · exact held.once second keys found
  · intro second found
    rw [Function.update_apply] at found
    split at found
    · simp at found
    · exact held.filled second found

/-- What is left of a value's list, if anything. -/
def remaining (keys : List K) (key : K) : Option (List K) :=
  if (keys.filter (fun other => other ≠ key)).isEmpty then none else some (keys.filter (fun other => other ≠ key))

omit [DecidableEq V] in
theorem remaining_eq_some (keys rest : List K) (key : K) :
    remaining keys key = some rest ↔ keys.filter (fun other => other ≠ key) = rest ∧ rest ≠ [] := by
  unfold remaining
  generalize keys.filter (fun other => other ≠ key) = left
  cases left with
  | nil => simp +contextual [eq_comm]
  | cons first left =>
    simp only [List.isEmpty_cons,Bool.false_eq_true,if_false,Option.some.injEq,iff_self_and]
    rintro rfl
    exact List.cons_ne_nil first left

omit [DecidableEq V] in
theorem mem_remaining (keys : List K) (key other : K) :
    (∃ rest, remaining keys key = some rest ∧ other ∈ rest) ↔ other ∈ keys ∧ other ≠ key := by
  have kept : other ∈ keys.filter (fun other => other ≠ key) ↔ other ∈ keys ∧ other ≠ key := by simp
  rw [← kept]
  constructor
  · rintro ⟨rest,left,member⟩
    rw [((remaining_eq_some keys rest key).mp left).1]
    exact member
  · intro member
    exact ⟨_,(remaining_eq_some keys _ key).mpr ⟨rfl,List.ne_nil_of_mem member⟩,member⟩

omit [DecidableEq V] in
theorem remaining_eq_none (held : Grouping valueOf keysOf) (value : V) (keys : List K) (found : keysOf value = some keys)
    (key : K) (member : key ∈ keys) : remaining keys key = none ↔ keys = [key] := by
  constructor
  · intro nothing
    have only : ∀ other ∈ keys, other = key := by
      intro other inside
      by_contra differ
      obtain ⟨rest,left,_⟩ := (mem_remaining keys key other).mpr ⟨inside,differ⟩
      rw [nothing] at left
      cases left
    have once := held.once value keys found
    rw [List.eq_replicate_of_mem only] at once member ⊢
    have single := List.nodup_replicate.mp once
    have some : keys.length ≠ 0 := fun none => by simp [none] at member
    rw [show keys.length = 1 by omega]
    rfl
  · rintro rfl
    simp [remaining]

theorem removeKey (held : Grouping valueOf keysOf) (key : K) (value : V) (keys : List K)
    (under : valueOf key = some value) (found : keysOf value = some keys) :
    Grouping (Function.update valueOf key none) (Function.update keysOf value (remaining keys key)) := by
  constructor
  · intro other second
    rw [Function.update_apply,Function.update_apply]
    by_cases same : second = value
    · subst second
      rw [if_pos rfl,mem_remaining]
      by_cases gone : other = key
      · simp [gone]
      · rw [if_neg gone,held.listed,found]
        simp [gone]
    · rw [if_neg same]
      by_cases gone : other = key
      · subst other
        rw [if_pos rfl]
        constructor
        · intro both
          cases both
        · rintro ⟨keys,present,member⟩
          exact absurd member (held.apart key value second under same keys present)
      · rw [if_neg gone,held.listed]
  · intro second rest present
    rw [Function.update_apply] at present
    split at present
    · rw [← ((remaining_eq_some keys rest key).mp present).1]
      exact (held.once value keys found).filter _
    · exact held.once second rest present
  · intro second present
    rw [Function.update_apply] at present
    split at present
    · exact ((remaining_eq_some keys [] key).mp present).2 rfl
    · exact held.filled second present

theorem removeValue (held : Grouping valueOf keysOf) (value : V) (keys : List K) (found : keysOf value = some keys) :
    Grouping (fun key => if key ∈ keys then none else valueOf key) (Function.update keysOf value none) := by
  have under : ∀ key, key ∈ keys ↔ valueOf key = some value := by
    intro key
    rw [held.listed,found]
    simp
  constructor
  · intro key second
    rw [Function.update_apply]
    by_cases same : second = value
    · subst second
      by_cases gone : key ∈ keys
      · simp [gone]
      · have other : valueOf key ≠ some value := fun again => gone ((under key).mpr again)
        simp [gone,other]
    · rw [if_neg same,← held.listed]
      by_cases gone : key ∈ keys
      · rw [if_pos gone,(under key).mp gone]
        simp [Ne.symm same]
      · rw [if_neg gone]
  · intro second rest present
    rw [Function.update_apply] at present
    split at present
    · cases present
    · exact held.once second rest present
  · intro second present
    rw [Function.update_apply] at present
    split at present
    · cases present
    · exact held.filled second present

end Grouping
end Warpdrive.Foundation
