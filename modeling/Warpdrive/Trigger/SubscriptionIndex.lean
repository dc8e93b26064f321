import Warpdrive.Foundation.Execution
import Warpdrive.Trigger.Requests

/-! The indices of the subscriptions and of the requests in flight (`evm_stream/client/subscription.rs`) over any order
of the calls on them. -/
namespace Warpdrive.Trigger.EvmStream

open Warpdrive.Foundation Warpdrive.Types

namespace SubscriptionIds

def clear (_ : SubscriptionIds) : SubscriptionIds := ⟨.new,.new⟩

inductive Act
  | insert (id : String) (kind : SubscriptionKind) (mostRecentCategory : Bool)
  | remove (id : String)
  | clear

def step (self : SubscriptionIds) : Act → Option SubscriptionIds
  | .insert id kind mostRecentCategory => some (self.insert id kind mostRecentCategory)
  | .remove id => some (self.remove id)
  | .clear => some self.clear

theorem step_total (self : SubscriptionIds) (act : Act) : ∃ next, self.step act = some next := by
  cases act with
  | insert id kind recent => exact ⟨_,rfl⟩
  | remove id => exact ⟨_,rfl⟩
  | clear => exact ⟨_,rfl⟩

/-- An insertion gives the subscription its own kind. -/
def Act.Keeps (kindOf : String → SubscriptionKind) : Act → Prop
  | .insert id kind _ => kind = kindOf id
  | _ => True

/-- The known subscriptions are those of the categories, each of them in one. -/
structure Consistent (kindOf : String → SubscriptionKind) (ids : SubscriptionIds) : Prop where
  kinds : ∀ id kind, ids.lookup.get id = some kind → kind = kindOf id
  keys : ∀ id, (∃ kind, ids.lookup.get id = some kind) ↔ ∃ category, id ∈ ids.listByCategory category
  disjoint : ∀ id first second, id ∈ ids.listByCategory first → id ∈ ids.listByCategory second → first = second
  placed : ∀ id category, id ∈ ids.listByCategory category → SubscriptionCategory.ofKind (kindOf id) = category
  recent : ∀ category id, ids.mostRecent category = some id → id ∈ ids.listByCategory category

theorem Tracks.consistent {kindOf : String → SubscriptionKind} {ids : SubscriptionIds} (tracks : Tracks ids)
    (kinds : ∀ id kind, ids.lookup.get id = some kind → kind = kindOf id) : Consistent kindOf ids := by
  have placed : ∀ id category, id ∈ ids.listByCategory category →
      SubscriptionCategory.ofKind (kindOf id) = category := by
    intro id category member
    obtain ⟨kind,found,under⟩ := (tracks.listed category id).mp member
    rw [← kinds id kind found]
    exact under
  refine ⟨kinds,?_,?_,placed,?_⟩
  · intro id
    constructor
    · rintro ⟨kind,found⟩
      exact ⟨_,(tracks.listed _ id).mpr ⟨kind,found,rfl⟩⟩
    · rintro ⟨category,member⟩
      obtain ⟨kind,found,_⟩ := (tracks.listed category id).mp member
      exact ⟨kind,found⟩
  · intro id first second inFirst inSecond
    exact (placed id first inFirst).symm.trans (placed id second inSecond)
  · intro category id recent
    exact (tracks.listed category id).mpr (tracks.recent category id recent)

theorem step_tracks (kindOf : String → SubscriptionKind) (self : SubscriptionIds) (act : Act) (next : SubscriptionIds)
    (taken : self.step act = some next) (keeps : act.Keeps kindOf)
    (held : Tracks self ∧ ∀ id kind, self.lookup.get id = some kind → kind = kindOf id) :
    Tracks next ∧ ∀ id kind, next.lookup.get id = some kind → kind = kindOf id := by
  obtain ⟨tracks,kinds⟩ := held
  cases act with
  | insert id kind recent =>
    cases taken
    cases (show kind = kindOf id from keeps)
    refine ⟨tracks.insert id _ recent (fun held found => by rw [kinds id held found]),?_⟩
    intro other kind found
    have found : (self.lookup.insert id (kindOf id)).get other = some kind := found
    rw [HashMap.get_insert] at found
    split at found
    · next same =>
      cases found
      rw [same]
    · exact kinds other kind found
  | remove id =>
    cases taken
    refine ⟨tracks.remove id,?_⟩
    intro other kind found
    have found : (self.lookup.remove id).get other = some kind := found
    rw [HashMap.get_remove] at found
    split at found
    · cases found
    · exact kinds other kind found
  | clear =>
    cases taken
    refine ⟨tracks_default,?_⟩
    intro other kind found
    cases found

theorem run_ids_consistent (kindOf : String → SubscriptionKind) (acts : List Act)
    (keeps : ∀ act ∈ acts, act.Keeps kindOf) :
    ∃ final, Execution.run step default acts = some final ∧ Consistent kindOf final := by
  obtain ⟨final,reached⟩ := Execution.run_total step_total default acts
  have along : Execution.Along step (fun _ act _ => act.Keeps kindOf) default acts :=
    Execution.along_of_forall _ _ acts (fun act member _ _ => keeps act member)
  have nothing : ∀ id kind, default.lookup.get id = some kind → kind = kindOf id := by
    intro id kind found
    cases found
  obtain ⟨tracks,kinds⟩ := Execution.invariant_along _ _ (step_tracks kindOf) default final acts reached along
    ⟨tracks_default,nothing⟩
  exact ⟨final,reached,tracks.consistent kinds⟩

end SubscriptionIds

namespace RpcIdsInFlight

def clear (_ : RpcIdsInFlight) : RpcIdsInFlight := ⟨.new,.new⟩

inductive Act
  | insert (id : RpcId) (kind : RpcRequestKind)
  | setUnsubscribe (category : SubscriptionCategory)
  | remove (id : RpcId)
  | clear

def step (self : RpcIdsInFlight) : Act → Option RpcIdsInFlight
  | .insert id kind => some (self.insert id kind)
  | .setUnsubscribe category => some (self.setUnsubscribe category)
  | .remove id => some (self.remove id).1
  | .clear => some self.clear

theorem step_total (self : RpcIdsInFlight) (act : Act) : ∃ next, self.step act = some next := by
  cases act with
  | insert id kind => exact ⟨_,rfl⟩
  | setUnsubscribe category => exact ⟨_,rfl⟩
  | remove id => exact ⟨_,rfl⟩
  | clear => exact ⟨_,rfl⟩

/-- After the call another request is the last of the category, or there is none. -/
def Act.Supersedes (category : SubscriptionCategory) : Act → Prop
  | .insert _ kind => SubscriptionCategory.tryFrom kind = .ok category
  | .clear => True
  | _ => False

/-- The last request of a category that was inserted since the last clearing. -/
def LastRequest (category : SubscriptionCategory) (acts : List Act) (id : RpcId) : Prop :=
  ∃ before kind after, acts = before ++ .insert id kind::after ∧ SubscriptionCategory.tryFrom kind = .ok category ∧
    ∀ act ∈ after, ¬act.Supersedes category

theorem LastRequest.append {category : SubscriptionCategory} {acts : List Act} {id : RpcId}
    (last : LastRequest category acts id) (act : Act) (other : ¬act.Supersedes category) :
    LastRequest category (acts ++ [act]) id := by
  obtain ⟨before,kind,after,rfl,placed,rest⟩ := last
  refine ⟨before,kind,after ++ [act],by simp,placed,?_⟩
  intro later member
  rcases List.mem_append.mp member with earlier | now
  · exact rest later earlier
  · rw [List.mem_singleton.mp now]
    exact other

/-- A recorded request stays from before the call, which does not supersede it, or is what the call inserts. -/
theorem mostRecent_step (self next : RpcIdsInFlight) (act : Act) (taken : self.step act = some next)
    (category : SubscriptionCategory) (id : RpcId)
    (recorded : next.mostRecentSubscriptionCategory.get category = some id) :
    (∃ kind, act = .insert id kind ∧ SubscriptionCategory.tryFrom kind = .ok category) ∨
      self.mostRecentSubscriptionCategory.get category = some id ∧ ¬act.Supersedes category := by
  cases act with
  | insert other kind =>
    cases taken
    unfold insert at recorded
    dsimp only at recorded
    cases placed : SubscriptionCategory.tryFrom kind with
    | error reason =>
      rw [placed] at recorded
      refine .inr ⟨recorded,fun supersedes => ?_⟩
      cases placed.symm.trans supersedes
    | ok found =>
      rw [placed] at recorded
      dsimp only at recorded
      rw [HashMap.get_insert] at recorded
      split at recorded
      · next same =>
        cases recorded
        exact .inl ⟨kind,rfl,by rw [placed,same]⟩
      · next apart =>
        refine .inr ⟨recorded,fun supersedes => ?_⟩
        cases placed.symm.trans supersedes
        exact apart rfl
  | setUnsubscribe other =>
    cases taken
    exact .inr ⟨recorded,fun supersedes => supersedes⟩
  | remove other =>
    cases taken
    rw [(self.remove_spec other).2.2.2] at recorded
    split at recorded
    · cases recorded
    · exact .inr ⟨recorded,fun supersedes => supersedes⟩
  | clear =>
    cases taken
    cases recorded

theorem step_lastRequest (past : List Act) (self : RpcIdsInFlight) (act : Act) (next : RpcIdsInFlight)
    (taken : self.step act = some next)
    (last : ∀ category id, self.mostRecentSubscriptionCategory.get category = some id → LastRequest category past id) :
    ∀ category id, next.mostRecentSubscriptionCategory.get category = some id →
      LastRequest category (past ++ [act]) id := by
  intro category id recorded
  rcases mostRecent_step self next act taken category id recorded with ⟨kind,rfl,placed⟩ | ⟨before,other⟩
  · exact ⟨past,kind,[],rfl,placed,by simp⟩
  · exact (last category id before).append act other

theorem run_lastRequest (acts : List Act) :
    ∃ final, Execution.run step default acts = some final ∧
      ∀ category id, final.mostRecentSubscriptionCategory.get category = some id → LastRequest category acts id := by
  obtain ⟨final,reached⟩ := Execution.run_total step_total default acts
  refine ⟨final,reached,?_⟩
  apply Execution.invariant_history (fun past (self : RpcIdsInFlight) => ∀ category id,
    self.mostRecentSubscriptionCategory.get category = some id → LastRequest category past id)
    step_lastRequest default final acts reached
  intro category id recorded
  cases recorded

end RpcIdsInFlight

/-- Over any calls that insert each subscription with one kind the indices of the subscriptions agree, and over any
calls a request that is recorded for a category is the last that was inserted for it. -/
theorem indices_consistent (kindOf : String → SubscriptionKind) (acts : List SubscriptionIds.Act)
    (keeps : ∀ act ∈ acts, act.Keeps kindOf) (flights : List RpcIdsInFlight.Act) :
    (∃ ids, Execution.run SubscriptionIds.step .default acts = some ids ∧ ids.Consistent kindOf) ∧
      ∃ inFlight, Execution.run RpcIdsInFlight.step .default flights = some inFlight ∧
        ∀ category id, inFlight.mostRecentSubscriptionCategory.get category = some id →
          RpcIdsInFlight.LastRequest category flights id :=
  ⟨SubscriptionIds.run_ids_consistent kindOf acts keeps,RpcIdsInFlight.run_lastRequest flights⟩

theorem indices_consistent_heads :
    (∃ ids, Execution.run SubscriptionIds.step .default
        [.insert "0x1" .newHeads true,.insert "0x2" .newHeads true,.remove "0x1"] = some ids ∧
      ids.Consistent (fun _ => .newHeads)) ∧
    ∃ inFlight, Execution.run RpcIdsInFlight.step .default
        [.insert 1 .subscribeNewHeads,.insert 2 .subscribeNewHeads,.remove 1] = some inFlight ∧
      ∀ category id, inFlight.mostRecentSubscriptionCategory.get category = some id →
        RpcIdsInFlight.LastRequest category [.insert 1 .subscribeNewHeads,.insert 2 .subscribeNewHeads,.remove 1] id := by
  apply indices_consistent
  intro act member
  simp only [List.mem_cons,List.not_mem_nil,or_false] at member
  rcases member with rfl | rfl | rfl
  · rfl
  · rfl
  · trivial

end Warpdrive.Trigger.EvmStream
