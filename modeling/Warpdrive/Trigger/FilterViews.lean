import Warpdrive.Foundation.Execution
import Warpdrive.Foundation.Grouping
import Warpdrive.Trigger.Lookup

/-! The two views that `EventFilters` keeps of its filters (`stellar_stream/filters.rs`) over any order of the calls on
it: the filter of each id, and the ids of each filter that is requested. -/
namespace Warpdrive.Trigger
namespace EventFilters

open Warpdrive.Foundation

def removeFilter (self : EventFilters) (filter : StellarEventFilter) : EventFilters :=
  match self.dedupeList.get filter with
  | none => self
  | some ids => ⟨ids.foldl (fun list id => list.remove id) self.list,self.dedupeList.remove filter⟩

inductive Act
  | addFilter (filter : StellarEventFilter)
  | removeFilterById (id : StellarRpcId)
  | removeFilter (filter : StellarEventFilter)

def step (self : EventFilters) : Act → Option EventFilters
  | .addFilter filter => some (self.addFilter filter).2
  | .removeFilterById id => some (self.removeFilterById id)
  | .removeFilter filter => some (self.removeFilter filter)

theorem step_total (self : EventFilters) (act : Act) : ∃ next, self.step act = some next := by
  cases act with
  | addFilter filter => exact ⟨_,rfl⟩
  | removeFilterById id => exact ⟨_,rfl⟩
  | removeFilter filter => exact ⟨_,rfl⟩

def Agree (self : EventFilters) : Prop := Grouping self.list.get self.dedupeList.get

theorem agree_new (keys : SlotKeys) : Agree (new keys) := by
  have nothing : (new keys).list.get = fun _ => none := rfl
  have nowhere : (new keys).dedupeList.get = fun _ => none := rfl
  unfold Agree
  rw [nothing,nowhere]
  exact Grouping.empty

theorem agree_addFilter (self : EventFilters) (agree : self.Agree) (filter : StellarEventFilter) :
    (self.addFilter filter).2.Agree := by
  have added := agree.add self.list.next filter self.list.get_next
  have values : (self.addFilter filter).2.list.get = Function.update self.list.get self.list.next (some filter) := by
    funext id
    rw [list_addFilter,Function.update_apply]
  have keys : (self.addFilter filter).2.dedupeList.get = Function.update self.dedupeList.get filter
      (some ((self.dedupeList.get filter).getD [] ++ [self.list.next])) := by
    funext other
    rw [Function.update_apply]
    exact HashMap.get_insert _ _ _ _
  unfold Agree
  rw [values,keys]
  exact added

theorem dedupeList_removeFilterById (self : EventFilters) (id : StellarRpcId) (filter : StellarEventFilter)
    (ids : List StellarRpcId) (held : self.list.get id = some filter) (found : self.dedupeList.get filter = some ids)
    (other : StellarEventFilter) : (self.removeFilterById id).dedupeList.get other =
      if other = filter then Grouping.remaining ids id else self.dedupeList.get other := by
  unfold removeFilterById Grouping.remaining
  rw [held]
  dsimp only
  rw [found]
  dsimp only
  split
  · exact HashMap.get_remove _ _ _
  · exact HashMap.get_insert _ _ _ _

theorem Agree.ids {self : EventFilters} (agree : self.Agree) (id : StellarRpcId) (filter : StellarEventFilter)
    (held : self.list.get id = some filter) : ∃ ids, self.dedupeList.get filter = some ids ∧ id ∈ ids :=
  (Grouping.listed agree id filter).mp held

theorem removeFilterById_missing (self : EventFilters) (id : StellarRpcId) (missing : self.list.get id = none) :
    self.removeFilterById id = self := by
  unfold removeFilterById
  rw [missing]

theorem agree_removeFilterById (self : EventFilters) (agree : self.Agree) (id : StellarRpcId) :
    (self.removeFilterById id).Agree := by
  cases held : self.list.get id with
  | none =>
    rw [self.removeFilterById_missing id held]
    exact agree
  | some filter =>
    obtain ⟨ids,found,_⟩ := agree.ids id filter held
    have values : (self.removeFilterById id).list.get = Function.update self.list.get id none := by
      funext other
      rw [list_removeFilterById,Function.update_apply]
    have keys : (self.removeFilterById id).dedupeList.get =
        Function.update self.dedupeList.get filter (Grouping.remaining ids id) := by
      funext other
      rw [self.dedupeList_removeFilterById id filter ids held found,Function.update_apply]
    unfold Agree
    rw [values,keys]
    exact agree.removeKey id filter ids held found

theorem get_foldl_remove (ids : List StellarRpcId) (list : SlotMap StellarEventFilter) (id : StellarRpcId) :
    (ids.foldl (fun list id => list.remove id) list).get id = if id ∈ ids then none else list.get id := by
  induction ids generalizing list with
  | nil => simp
  | cons first rest ih =>
    rw [List.foldl_cons,ih,SlotMap.get_remove]
    by_cases same : id = first
    · simp [same]
    · simp [same]

theorem agree_removeFilter (self : EventFilters) (agree : self.Agree) (filter : StellarEventFilter) :
    (self.removeFilter filter).Agree := by
  unfold removeFilter
  split
  · exact agree
  · next ids found =>
    have values : (ids.foldl (fun list id => list.remove id) self.list).get =
        fun id => if id ∈ ids then none else self.list.get id := by
      funext id
      exact get_foldl_remove ids self.list id
    have keys : (self.dedupeList.remove filter).get = Function.update self.dedupeList.get filter none := by
      funext other
      rw [HashMap.get_remove,Function.update_apply]
    unfold Agree
    rw [values,keys]
    exact agree.removeValue filter ids found

theorem step_agree (self : EventFilters) (act : Act) (next : EventFilters) (taken : self.step act = some next)
    (agree : self.Agree) : next.Agree := by
  cases act with
  | addFilter filter =>
    cases taken
    exact self.agree_addFilter agree filter
  | removeFilterById id =>
    cases taken
    exact self.agree_removeFilterById agree id
  | removeFilter filter =>
    cases taken
    exact self.agree_removeFilter agree filter

/-- Once the views agree, a filter is no longer requested only when its last id goes. -/
theorem Agree.last_id {self : EventFilters} (agree : self.Agree) (id : StellarRpcId) (filter : StellarEventFilter)
    (requested : self.dedupeList.get filter ≠ none) (gone : (self.removeFilterById id).dedupeList.get filter = none) :
    self.dedupeList.get filter = some [id] := by
  cases held : self.list.get id with
  | none =>
    rw [self.removeFilterById_missing id held] at gone
    exact absurd gone requested
  | some own =>
    obtain ⟨ids,found,member⟩ := agree.ids id own held
    rw [self.dedupeList_removeFilterById id own ids held found] at gone
    split at gone
    · next same =>
      rw [same,found,(Grouping.remaining_eq_none agree own ids found id member).mp gone]
    · exact absurd gone requested

/-- Over any calls the views agree. To remove an id takes its filter from the requests only
when it was the last id of it, and leaves every other id in both views. -/
theorem run_agree (keys : SlotKeys) (acts : List Act) : ∃ filters, Execution.run step (new keys) acts = some filters ∧
    (∀ filter id, filters.list.get id = some filter ↔
      ∃ ids, filters.dedupeList.get filter = some ids ∧ ids.count id = 1) ∧
    (∀ filter ids id, filters.dedupeList.get filter = some ids → ids.count id ≤ 1) ∧
    (∀ filter, filters.dedupeList.get filter ≠ some []) ∧
    ∀ id, (∀ filter, filters.dedupeList.get filter ≠ none →
        (filters.removeFilterById id).dedupeList.get filter = none → filters.dedupeList.get filter = some [id]) ∧
      ∀ other, other ≠ id → (filters.removeFilterById id).list.get other = filters.list.get other ∧
        ∀ filter, (∃ ids, (filters.removeFilterById id).dedupeList.get filter = some ids ∧ other ∈ ids) ↔
          ∃ ids, filters.dedupeList.get filter = some ids ∧ other ∈ ids := by
  obtain ⟨filters,reached⟩ := Execution.run_total step_total (new keys) acts
  have agree := Execution.invariant Agree step_agree (new keys) filters acts reached (agree_new keys)
  refine ⟨filters,reached,?_,?_,Grouping.filled agree,?_⟩
  · intro filter id
    rw [Grouping.listed agree]
    constructor
    · rintro ⟨ids,found,member⟩
      exact ⟨ids,found,List.count_eq_one_of_mem (Grouping.once agree filter ids found) member⟩
    · rintro ⟨ids,found,once⟩
      exact ⟨ids,found,List.count_pos_iff.mp (by omega)⟩
  · intro filter ids id found
    exact List.nodup_iff_count_le_one.mp (Grouping.once agree filter ids found) id
  · intro id
    refine ⟨agree.last_id id,fun other apart => ?_⟩
    have same : (filters.removeFilterById id).list.get other = filters.list.get other := by
      rw [list_removeFilterById,if_neg apart]
    refine ⟨same,fun filter => ?_⟩
    rw [← Grouping.listed (filters.agree_removeFilterById agree id),← Grouping.listed agree,same]

end EventFilters
end Warpdrive.Trigger
