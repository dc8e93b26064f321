import Warpdrive.Trigger.Subscription

/-! What the operations of the subscriptions do: to the tracked subscription ids, to the
requests in flight and to the requests on their way. A subscribe request in flight that is
not marked to be unsubscribed is the only one of its category, is the one recorded as most
recent and asks for what is desired now. -/
namespace Warpdrive.Trigger.EvmStream

open Warpdrive.Foundation Warpdrive.Types Warpdrive.Foundation.Execution

namespace SubscriptionKind

def requestKind : SubscriptionKind → RpcRequestKind
  | .newHeads => .subscribeNewHeads
  | .logs addresses topics => .subscribeLogs addresses topics
  | .newPendingTransactions => .subscribeNewPendingTransactions

def params : SubscriptionKind → SubscribeParams
  | .newHeads => .newHeads
  | .logs addresses topics => .logs addresses topics
  | .newPendingTransactions => .newPendingTransactions

@[simp] theorem requestKind_params (kind : SubscriptionKind) :
    kind.params.requestKind = kind.requestKind := by
  cases kind <;> rfl

theorem requestKind_injective (first second : SubscriptionKind) :
    first.requestKind = second.requestKind ↔ first = second := by
  cases first <;> cases second <;> simp [requestKind]

@[simp] theorem requestKind_ne_unsubscribe (kind : SubscriptionKind) (id : String) :
    kind.requestKind ≠ .unsubscribe id := by
  cases kind <;> simp [requestKind]

@[simp] theorem tryFrom_requestKind (kind : SubscriptionKind) : tryFrom kind.requestKind = .ok kind := by
  cases kind <;> rfl

theorem request_cases (kind : RpcRequestKind) :
    (∃ subscription : SubscriptionKind, kind = subscription.requestKind) ∨ ∃ id, kind = .unsubscribe id := by
  cases kind with
  | subscribeNewHeads => exact .inl ⟨.newHeads,rfl⟩
  | subscribeLogs addresses topics => exact .inl ⟨.logs addresses topics,rfl⟩
  | subscribeNewPendingTransactions => exact .inl ⟨.newPendingTransactions,rfl⟩
  | unsubscribe id => exact .inr ⟨id,rfl⟩

end SubscriptionKind

@[simp] theorem SubscriptionCategory.tryFrom_requestKind (kind : SubscriptionKind) :
    tryFrom kind.requestKind = .ok (ofKind kind) := by
  cases kind <;> rfl

namespace SubscriptionIds

/-- The recorded most recent subscription of a category. -/
def mostRecent (self : SubscriptionIds) (category : SubscriptionCategory) : Option String :=
  (self.categories.get category).bind SubscriptionIdCategories.mostRecent

/-- The categories list the known subscriptions, each under its kind's category. -/
structure Tracks (ids : SubscriptionIds) : Prop where
  listed : ∀ category id, id ∈ ids.listByCategory category ↔
    ∃ kind, ids.lookup.get id = some kind ∧ SubscriptionCategory.ofKind kind = category
  recent : ∀ category id, ids.mostRecent category = some id →
    ∃ kind, ids.lookup.get id = some kind ∧ SubscriptionCategory.ofKind kind = category

theorem tracks_default : Tracks default := by
  constructor
  · intro category id
    simp [listByCategory,default]
  · intro category id recent
    simp [mostRecent,default] at recent

theorem mem_listByCategory_insert (self : SubscriptionIds) (id : String) (kind : SubscriptionKind)
    (recent : Bool) (category : SubscriptionCategory) (other : String) :
    other ∈ (self.insert id kind recent).listByCategory category ↔
      other ∈ self.listByCategory category ∨ category = SubscriptionCategory.ofKind kind ∧ other = id := by
  unfold insert listByCategory
  simp only [HashMap.get_insert]
  by_cases same : category = SubscriptionCategory.ofKind kind
  · subst category
    rw [if_pos rfl]
    cases self.categories.get (SubscriptionCategory.ofKind kind) with
    | none => cases recent <;> simp [← HashSet.mem_def]
    | some entry => cases recent <;> simp [← HashSet.mem_def,or_comm]
  · simp [same]

theorem mostRecent_insert (self : SubscriptionIds) (id : String) (kind : SubscriptionKind) (recent : Bool)
    (category : SubscriptionCategory) :
    (self.insert id kind recent).mostRecent category =
      if recent = true ∧ category = SubscriptionCategory.ofKind kind then some id
      else self.mostRecent category := by
  unfold insert mostRecent
  simp only [HashMap.get_insert]
  by_cases same : category = SubscriptionCategory.ofKind kind
  · subst category
    rw [if_pos rfl]
    cases found : self.categories.get (SubscriptionCategory.ofKind kind) with
    | none => cases recent <;> simp
    | some entry => cases recent <;> simp
  · simp [same]

theorem mem_listByCategory_remove (self : SubscriptionIds) (id other : String)
    (category : SubscriptionCategory) :
    other ∈ (self.remove id).listByCategory category ↔
      other ∈ self.listByCategory category ∧ other ≠ id := by
  unfold remove listByCategory
  simp only [HashMap.get_mapValues]
  cases self.categories.get category with
  | none => simp
  | some entry => simp [← HashSet.mem_def,and_comm]

theorem mostRecent_remove (self : SubscriptionIds) (id : String) (category : SubscriptionCategory) :
    (self.remove id).mostRecent category =
      if self.mostRecent category = some id then none else self.mostRecent category := by
  unfold remove mostRecent
  simp only [HashMap.get_mapValues]
  cases self.categories.get category with
  | none => simp
  | some entry => simp

/-- A subscription may be inserted again, under a kind of the same category. -/
theorem Tracks.insert {self : SubscriptionIds} (tracks : Tracks self) (id : String) (kind : SubscriptionKind)
    (recent : Bool) (placed : ∀ held, self.lookup.get id = some held →
      SubscriptionCategory.ofKind held = SubscriptionCategory.ofKind kind) : Tracks (self.insert id kind recent) := by
  have lookup : ∀ other, (self.insert id kind recent).lookup.get other =
      if other = id then some kind else self.lookup.get other := fun other => HashMap.get_insert _ _ _ _
  constructor
  · intro category other
    rw [mem_listByCategory_insert,tracks.listed,lookup]
    by_cases same : other = id
    · subst other
      rw [if_pos rfl]
      constructor
      · rintro (⟨held,found,rfl⟩ | ⟨rfl,_⟩)
        · exact ⟨kind,rfl,(placed held found).symm⟩
        · exact ⟨kind,rfl,rfl⟩
      · rintro ⟨held,found,rfl⟩
        cases found
        exact .inr ⟨rfl,rfl⟩
    · simp [same]
  · intro category other found
    rw [mostRecent_insert] at found
    rw [lookup]
    split at found
    · next now =>
      cases found
      exact ⟨kind,by rw [if_pos rfl],now.2.symm⟩
    · obtain ⟨held,present,under⟩ := tracks.recent category other found
      by_cases same : other = id
      · subst other
        exact ⟨kind,by rw [if_pos rfl],(placed held present).symm.trans under⟩
      · exact ⟨held,by rw [if_neg same]; exact present,under⟩

theorem Tracks.insert_new {self : SubscriptionIds} (tracks : Tracks self) (id : String) (kind : SubscriptionKind)
    (recent : Bool) (new : self.lookup.get id = none) : Tracks (self.insert id kind recent) := by
  apply tracks.insert
  intro held found
  rw [new] at found
  cases found

theorem Tracks.remove {self : SubscriptionIds} (tracks : Tracks self) (id : String) :
    Tracks (self.remove id) := by
  have lookup : ∀ other, (self.remove id).lookup.get other =
      if other = id then none else self.lookup.get other := fun other => HashMap.get_remove _ _ _
  constructor
  · intro category other
    rw [mem_listByCategory_remove,tracks.listed,lookup]
    by_cases same : other = id
    · simp [same]
    · simp [same]
  · intro category other found
    rw [mostRecent_remove] at found
    split at found
    · cases found
    · next differ =>
      have apart : other ≠ id := by
        intro same
        exact differ (by rw [found,same])
      rw [lookup,if_neg apart]
      exact tracks.recent category other found

end SubscriptionIds

namespace RpcIdsInFlight

theorem willSubscribe_iff (self : RpcIdsInFlight) (kind : RpcRequestKind) :
    self.willSubscribe kind = true ↔ ∃ id, self.lookup.get id = some (.activateOnLand kind) := by
  unfold willSubscribe
  rw [List.any_eq_true]
  constructor
  · rintro ⟨state,member,same⟩
    obtain ⟨id,found⟩ := (HashMap.mem_values _ _).mp member
    cases state with
    | activateOnLand requestKind => exact ⟨id,by rw [found,of_decide_eq_true same]⟩
    | unsubscribeOnLand => cases same
  · rintro ⟨id,found⟩
    exact ⟨_,(HashMap.mem_values _ _).mpr ⟨id,found⟩,by simp⟩

/-- A request in flight for an active subscription. -/
def Awaits (self : RpcIdsInFlight) (id : RpcId) (kind : SubscriptionKind) : Prop :=
  self.lookup.get id = some (.activateOnLand kind.requestKind)

theorem awaits_setUnsubscribe (self : RpcIdsInFlight) (category : SubscriptionCategory) (id : RpcId)
    (kind : SubscriptionKind) :
    (self.setUnsubscribe category).Awaits id kind ↔
      self.Awaits id kind ∧ SubscriptionCategory.ofKind kind ≠ category := by
  unfold Awaits setUnsubscribe
  simp only [HashMap.get_mapValues]
  cases self.lookup.get id with
  | none => simp
  | some state =>
    cases state with
    | unsubscribeOnLand => simp
    | activateOnLand requestKind =>
      rcases SubscriptionKind.request_cases requestKind with ⟨subscription,same⟩ | ⟨target,same⟩
      · subst same
        by_cases placed : SubscriptionCategory.ofKind subscription = category
        · simp only [Option.map_some,SubscriptionCategory.tryFrom_requestKind,placed,if_true,
            Option.some.injEq,RpcFlightState.activateOnLand.injEq,reduceCtorEq,false_iff,not_and,not_not,
            SubscriptionKind.requestKind_injective]
          intro equal
          rw [← equal,placed]
        · simp only [Option.map_some,SubscriptionCategory.tryFrom_requestKind,if_neg placed,
            Option.some.injEq,RpcFlightState.activateOnLand.injEq,SubscriptionKind.requestKind_injective,
            iff_self_and]
          intro equal
          rw [← equal]
          exact placed
      · subst same
        simp [SubscriptionCategory.tryFrom,(SubscriptionKind.requestKind_ne_unsubscribe kind target).symm]

theorem get_setUnsubscribe_ne_none (self : RpcIdsInFlight) (category : SubscriptionCategory) (id : RpcId) :
    (self.setUnsubscribe category).lookup.get id ≠ none ↔ self.lookup.get id ≠ none := by
  simp [setUnsubscribe]

/-- What landing does: the request leaves, and its category is reported if it was the
most recent of it. -/
theorem remove_spec (self : RpcIdsInFlight) (id : RpcId) :
    (self.remove id).1.lookup = self.lookup.remove id ∧ (self.remove id).2.1 = self.lookup.get id ∧
      (∀ category, (self.remove id).2.2 = some category ↔
        self.mostRecentSubscriptionCategory.get category = some id ∧
          ∃ kind, self.Awaits id kind ∧ SubscriptionCategory.ofKind kind = category) ∧
      ∀ category, (self.remove id).1.mostRecentSubscriptionCategory.get category =
        if (self.remove id).2.2 = some category then none
        else self.mostRecentSubscriptionCategory.get category := by
  unfold remove Awaits
  cases self.lookup.get id with
  | none => simp
  | some state =>
    cases state with
    | unsubscribeOnLand => simp
    | activateOnLand requestKind =>
      rcases SubscriptionKind.request_cases requestKind with ⟨subscription,same⟩ | ⟨target,same⟩
      · subst same
        simp only [SubscriptionCategory.tryFrom_requestKind]
        split
        · next recent =>
          refine ⟨rfl,rfl,?_,?_⟩
          · intro category
            simp only [Option.some.injEq,RpcFlightState.activateOnLand.injEq,
              SubscriptionKind.requestKind_injective]
            constructor
            · intro same
              subst same
              exact ⟨recent,_,rfl,rfl⟩
            · rintro ⟨_,kind,rfl,same⟩
              exact same
          · intro category
            simp only [HashMap.get_remove,Option.some.injEq,eq_comm]
        · next other =>
          refine ⟨rfl,rfl,?_,by simp⟩
          intro category
          simp only [reduceCtorEq,Option.some.injEq,RpcFlightState.activateOnLand.injEq,
            SubscriptionKind.requestKind_injective,false_iff,not_and,not_exists]
          rintro recent kind rfl rfl
          exact other recent
      · subst same
        simp [SubscriptionCategory.tryFrom,(SubscriptionKind.requestKind_ne_unsubscribe _ target).symm]

end RpcIdsInFlight

namespace Subscriptions

def Awaits (self : Subscriptions) (id : RpcId) (kind : SubscriptionKind) : Prop :=
  self.rpcIdsInFlight.Awaits id kind

theorem sendSubscribe_eq (self : Subscriptions) (params : SubscribeParams) :
    self.sendSubscribe params = {self with
      rpcIds := (self.rpcIds.insert params.requestKind).2
      rpcIdsInFlight := self.rpcIdsInFlight.insert self.rpcIds.next params.requestKind
      connectionSendRpc := self.connectionSendRpc ++ [.subscribe self.rpcIds.next params]} := by
  have known : (self.rpcIds.insert params.requestKind).2.get self.rpcIds.next = some params.requestKind := by
    rw [SlotMap.get_insert,if_pos rfl]
  have minted : (self.rpcIds.insert params.requestKind).1 = self.rpcIds.next := rfl
  unfold sendSubscribe RpcRequest.newSubscribe sendRpc
  simp only [RpcRequest.id,minted,known]

theorem sendUnsubscribe_eq (self : Subscriptions) (subscriptionId : String) (delay : Option Nat) :
    self.sendUnsubscribe subscriptionId delay = {self with
      rpcIds := (self.rpcIds.insert (.unsubscribe subscriptionId)).2
      rpcIdsInFlight := self.rpcIdsInFlight.insert self.rpcIds.next (.unsubscribe subscriptionId)
      connectionSendRpc := self.connectionSendRpc ++
        if delay = none then [.unsubscribe self.rpcIds.next subscriptionId] else []
      delayed := self.delayed ++
        if delay = none then [] else [.unsubscribe self.rpcIds.next subscriptionId]} := by
  have known : (self.rpcIds.insert (.unsubscribe subscriptionId)).2.get self.rpcIds.next =
      some (.unsubscribe subscriptionId) := by
    rw [SlotMap.get_insert,if_pos rfl]
  have minted : (self.rpcIds.insert (.unsubscribe subscriptionId)).1 = self.rpcIds.next := rfl
  unfold sendUnsubscribe RpcRequest.newUnsubscribe sendRpc
  cases delay <;> simp only [RpcRequest.id,minted,known] <;> simp

theorem sendDelayed_cases (self : Subscriptions) (req : RpcRequest) :
    self.sendDelayed req = {self with connectionSendRpc := self.connectionSendRpc ++ [req]} ∨
      self.sendDelayed req = self :=
  ite_eq_or_eq _ _ _

/-- What holds is kept by the unsubscribe requests of a category if it is kept by each. -/
theorem foldl_sendUnsubscribe (holds : Subscriptions → Prop) (ids : List String)
    (keeps : ∀ self, ∀ id ∈ ids, holds self → holds (self.sendUnsubscribe id none))
    (self : Subscriptions) (initial : holds self) :
    holds (ids.foldl (fun self id => self.sendUnsubscribe id none) self) :=
  List.foldlRecOn ids _ initial (fun self held id member => keeps self id member held)

/-- `resubscribe` of one category. -/
def subscribeCategory (self : Subscriptions) (category : SubscriptionCategory) : Subscriptions :=
  match self.desired category with
  | none => self
  | some kind => self.subscribeUnlessInFlight kind.params

theorem subscribeCategory_allLogs (self : Subscriptions) :
    subscribeCategory self .allLogs = match self.logs with
      | none => self
      | some filter => self.subscribeUnlessInFlight (.logs filter.addresses filter.topics) := by
  unfold subscribeCategory desired
  cases self.logs <;> rfl

theorem resubscribe_eq (self : Subscriptions) :
    self.resubscribe = if self.isConnected then
        [SubscriptionCategory.newHeads,.allLogs,.newPendingTransactions].foldl subscribeCategory self
      else self := by
  have heads : ∀ self : Subscriptions, subscribeCategory self .newHeads =
      if self.blocks then self.subscribeUnlessInFlight .newHeads else self := by
    intro self
    unfold subscribeCategory desired
    cases self.blocks <;> rfl
  have pending : ∀ self : Subscriptions, subscribeCategory self .newPendingTransactions =
      if self.pendingTransactions then self.subscribeUnlessInFlight .newPendingTransactions else self := by
    intro self
    unfold subscribeCategory desired
    cases self.pendingTransactions <;> rfl
  calc
    self.resubscribe = if self.isConnected then
        subscribeCategory (subscribeCategory (subscribeCategory self .newHeads) .allLogs) .newPendingTransactions
      else self := by
        simp only [heads,subscribeCategory_allLogs,pending]
        rfl
    _ = _ := rfl

theorem desired_category (self : Subscriptions) (category : SubscriptionCategory) (kind : SubscriptionKind)
    (wanted : self.desired category = some kind) : SubscriptionCategory.ofKind kind = category := by
  cases category with
  | allLogs =>
    obtain ⟨filter,_,same⟩ := Option.map_eq_some_iff.mp wanted
    rw [← same]
    rfl
  | _ =>
    simp only [desired] at wanted
    split at wanted <;> cases wanted
    rfl

section Resubscribe

variable (holds : Subscriptions → Prop)
  (keeps : ∀ self kind, holds self → self.isConnected = true →
    self.desired (SubscriptionCategory.ofKind kind) = some kind → (∀ id, ¬self.Awaits id kind) →
    holds (self.sendSubscribe kind.params))

include keeps

/-- What holds is kept by `resubscribe` if it is kept by a request for a desired kind that
no request in flight asks for. -/
theorem subscribeCategory_keeps (self : Subscriptions) (category : SubscriptionCategory)
    (initial : holds self ∧ self.isConnected = true) :
    holds (self.subscribeCategory category) ∧ (self.subscribeCategory category).isConnected = true := by
  obtain ⟨held,connected⟩ := initial
  unfold subscribeCategory
  split
  · exact ⟨held,connected⟩
  · next kind wanted =>
    have placed := desired_category self category kind wanted
    subst category
    unfold subscribeUnlessInFlight
    split
    · exact ⟨held,connected⟩
    · next absent =>
      refine ⟨keeps self kind held connected wanted ?_,by rw [sendSubscribe_eq]; exact connected⟩
      intro id awaits
      apply absent
      rw [RpcIdsInFlight.willSubscribe_iff,SubscriptionKind.requestKind_params]
      exact ⟨id,awaits⟩

theorem resubscribe_keeps (self : Subscriptions) (initial : holds self) : holds self.resubscribe := by
  rw [resubscribe_eq]
  split
  · next connected =>
    have all := List.foldlRecOn (motive := fun self : Subscriptions => holds self ∧ self.isConnected = true)
      [SubscriptionCategory.newHeads,.allLogs,.newPendingTransactions] subscribeCategory
      ⟨initial,connected⟩ (fun self held category _ => subscribeCategory_keeps holds keeps self category held)
    exact all.1
  · exact initial

end Resubscribe

/-- The category's requests in flight are marked to be unsubscribed. -/
def marked (self : Subscriptions) (category : SubscriptionCategory) : Subscriptions :=
  {self with rpcIdsInFlight := self.rpcIdsInFlight.setUnsubscribe category}

theorem unsubscribe_eq (self : Subscriptions) (category : SubscriptionCategory) :
    self.unsubscribe category = (self.ids.listByCategory category).foldl
      (fun self id => self.sendUnsubscribe id none) (self.marked category) := rfl

theorem desired_sendUnsubscribe (self : Subscriptions) (subscriptionId : String) (delay : Option Nat)
    (category : SubscriptionCategory) :
    (self.sendUnsubscribe subscriptionId delay).desired category = self.desired category := by
  rw [sendUnsubscribe_eq]
  cases category <;> rfl

theorem desired_unsubscribe (self : Subscriptions) (category other : SubscriptionCategory) :
    (self.unsubscribe category).desired other = self.desired other := by
  rw [unsubscribe_eq]
  apply foldl_sendUnsubscribe (fun after => after.desired other = self.desired other)
  · intro before id _ same
    exact (desired_sendUnsubscribe before id none other).trans same
  · cases other <;> rfl

theorem desired_resubscribe (self : Subscriptions) (category : SubscriptionCategory) :
    self.resubscribe.desired category = self.desired category := by
  apply resubscribe_keeps (fun after => after.desired category = self.desired category)
  · intro before kind same _ _ _
    rw [sendSubscribe_eq,← same]
    cases category <;> rfl
  · rfl

theorem isConnected_unsubscribe (self : Subscriptions) (category : SubscriptionCategory) :
    (self.unsubscribe category).isConnected = self.isConnected := by
  rw [unsubscribe_eq]
  apply foldl_sendUnsubscribe (fun after => after.isConnected = self.isConnected)
  · intro before id _ same
    rw [sendUnsubscribe_eq]
    exact same
  · rfl

/-- The requests in flight and on their way. -/
structure Steady (inner : Subscriptions) : Prop where
  aimed : ∀ id kind, inner.Awaits id kind →
    inner.desired (SubscriptionCategory.ofKind kind) = some kind ∧
      inner.rpcIdsInFlight.mostRecentSubscriptionCategory.get (SubscriptionCategory.ofKind kind) = some id
  idle : inner.isConnected = false → ∀ id kind, ¬inner.Awaits id kind
  flying : ∀ id, inner.rpcIdsInFlight.lookup.get id ≠ none → inner.rpcIds.Minted id
  posted : ∀ req ∈ inner.connectionSendRpc ++ inner.delayed, inner.rpcIds.Minted req.id ∧
    ∀ kind, inner.rpcIds.get req.id = some kind → kind = req.requestKind

theorem awaits_sendSubscribe (self : Subscriptions) (sent : SubscriptionKind) (id : RpcId)
    (kind : SubscriptionKind) :
    (self.sendSubscribe sent.params).Awaits id kind ↔
      id = self.rpcIds.next ∧ kind = sent ∨ id ≠ self.rpcIds.next ∧ self.Awaits id kind := by
  rw [sendSubscribe_eq]
  unfold Awaits RpcIdsInFlight.Awaits RpcIdsInFlight.insert
  simp only [HashMap.get_insert,SubscriptionKind.requestKind_params]
  split
  · next same =>
    simp [same,SubscriptionKind.requestKind_injective,eq_comm]
  · next differ => simp [differ]

theorem awaits_sendUnsubscribe (self : Subscriptions) (subscriptionId : String) (delay : Option Nat)
    (id : RpcId) (kind : SubscriptionKind) :
    (self.sendUnsubscribe subscriptionId delay).Awaits id kind ↔
      id ≠ self.rpcIds.next ∧ self.Awaits id kind := by
  rw [sendUnsubscribe_eq]
  unfold Awaits RpcIdsInFlight.Awaits RpcIdsInFlight.insert
  simp only [HashMap.get_insert]
  split
  · next same => simp [same,(SubscriptionKind.requestKind_ne_unsubscribe kind subscriptionId).symm]
  · next differ => simp [differ]

theorem awaits_unsubscribe (self : Subscriptions) (category : SubscriptionCategory) (id : RpcId)
    (kind : SubscriptionKind) (awaits : (self.unsubscribe category).Awaits id kind) :
    self.Awaits id kind ∧ SubscriptionCategory.ofKind kind ≠ category := by
  revert awaits
  rw [unsubscribe_eq]
  apply foldl_sendUnsubscribe
    (fun after => after.Awaits id kind → self.Awaits id kind ∧ SubscriptionCategory.ofKind kind ≠ category)
  · intro before target _ old awaits
    exact old ((before.awaits_sendUnsubscribe target none id kind).mp awaits).2
  · exact (RpcIdsInFlight.awaits_setUnsubscribe _ _ _ _).mp

theorem Steady.awaits_ne_next {self : Subscriptions} (steady : Steady self) (id : RpcId)
    (kind : SubscriptionKind) (awaits : self.Awaits id kind) : id ≠ self.rpcIds.next := by
  apply SlotMap.Minted.ne_next
  apply steady.flying id
  rw [awaits]
  simp

/-- A request with a new rpc id. -/
theorem posted_insert (self : Subscriptions) (steady : Steady self) (sent : RpcRequest) (req : RpcRequest)
    (own : sent.id = self.rpcIds.next)
    (member : req ∈ self.connectionSendRpc ++ self.delayed ∨ req = sent) :
    (self.rpcIds.insert sent.requestKind).2.Minted req.id ∧
      ∀ kind, (self.rpcIds.insert sent.requestKind).2.get req.id = some kind → kind = req.requestKind := by
  rcases member with old | rfl
  · obtain ⟨minted,known⟩ := steady.posted req old
    refine ⟨minted.insert _,?_⟩
    intro kind found
    rw [SlotMap.get_insert,if_neg minted.ne_next] at found
    exact known kind found
  · rw [own]
    refine ⟨(SlotMap.minted_insert _ _ _).mpr (.inl rfl),?_⟩
    intro kind found
    rw [SlotMap.get_insert,if_pos rfl] at found
    exact (Option.some.inj found).symm

theorem flying_insert (self : Subscriptions) (steady : Steady self) (kind : RpcRequestKind) (id : RpcId)
    (present : (self.rpcIdsInFlight.insert self.rpcIds.next kind).lookup.get id ≠ none) :
    (self.rpcIds.insert kind).2.Minted id := by
  rw [SlotMap.minted_insert]
  simp only [RpcIdsInFlight.insert,HashMap.get_insert] at present
  split at present
  · next same => exact .inl same
  · exact .inr (steady.flying id present)

theorem Steady.sendSubscribe {self : Subscriptions} (steady : Steady self) (sent : SubscriptionKind)
    (connected : self.isConnected = true)
    (wanted : self.desired (SubscriptionCategory.ofKind sent) = some sent)
    (absent : ∀ id, ¬self.Awaits id sent) : Steady (self.sendSubscribe sent.params) := by
  have awaits := self.awaits_sendSubscribe sent
  rw [sendSubscribe_eq] at awaits ⊢
  refine ⟨?_,?_,?_,?_⟩
  · intro id kind awaiting
    simp only [RpcIdsInFlight.insert,SubscriptionKind.requestKind_params,
      SubscriptionCategory.tryFrom_requestKind,HashMap.get_insert]
    rcases (awaits id kind).mp awaiting with ⟨rfl,rfl⟩ | ⟨_,old⟩
    · exact ⟨wanted,by rw [if_pos rfl]⟩
    · obtain ⟨aimed,recent⟩ := steady.aimed id kind old
      refine ⟨aimed,?_⟩
      rw [if_neg]
      · exact recent
      · intro same
        rw [same,wanted] at aimed
        cases aimed
        exact absent id old
  · intro offline
    rw [connected] at offline
    cases offline
  · intro id present
    exact flying_insert self steady _ id present
  · intro req member
    apply posted_insert self steady (.subscribe self.rpcIds.next sent.params) req rfl
    simp only [List.mem_append,List.mem_singleton] at member ⊢
    tauto

theorem Steady.sendUnsubscribe {self : Subscriptions} (steady : Steady self) (subscriptionId : String)
    (delay : Option Nat) : Steady (self.sendUnsubscribe subscriptionId delay) := by
  have awaits := self.awaits_sendUnsubscribe subscriptionId delay
  rw [sendUnsubscribe_eq] at awaits ⊢
  refine ⟨?_,?_,?_,?_⟩
  · intro id kind awaiting
    exact steady.aimed id kind ((awaits id kind).mp awaiting).2
  · intro offline id kind awaiting
    exact steady.idle offline id kind ((awaits id kind).mp awaiting).2
  · intro id present
    exact flying_insert self steady _ id present
  · intro req member
    apply posted_insert self steady (.unsubscribe self.rpcIds.next subscriptionId) req rfl
    simp only [List.mem_append] at member ⊢
    cases delay <;> simp at member <;> tauto

theorem Steady.resubscribe {self : Subscriptions} (steady : Steady self) : Steady self.resubscribe :=
  resubscribe_keeps Steady (fun _ kind steady connected wanted absent =>
    steady.sendSubscribe kind connected wanted absent) self steady

theorem Steady.online {self : Subscriptions} (steady : Steady self) : Steady {self with isConnected := true} where
  aimed := steady.aimed
  idle disconnected := by cases disconnected
  flying := steady.flying
  posted := steady.posted

/-- A disconnection leaves nothing in flight. -/
theorem not_awaits_disconnected (self : Subscriptions) (id : RpcId) (kind : SubscriptionKind) :
    ¬(self.setIsConnected false).Awaits id kind := by
  intro awaits
  simp [Awaits,RpcIdsInFlight.Awaits,Subscriptions.setIsConnected,RpcIdsInFlight.default] at awaits

theorem Steady.setIsConnected {self : Subscriptions} (steady : Steady self) (value : Bool) :
    Steady (self.setIsConnected value) := by
  cases value with
  | true => exact steady.online.resubscribe
  | false =>
    have idle := self.not_awaits_disconnected
    refine ⟨fun id kind awaits => absurd awaits (idle id kind),fun _ => idle,?_,steady.posted⟩
    intro id present
    simp [Subscriptions.setIsConnected,RpcIdsInFlight.default] at present

/-- `resubscribe` leaves a request in flight for every desired kind. -/
theorem Steady.awaits_resubscribe {self : Subscriptions} (steady : Steady self)
    (connected : self.isConnected = true) (kind : SubscriptionKind)
    (wanted : self.desired (SubscriptionCategory.ofKind kind) = some kind) :
    ∃ id, self.resubscribe.Awaits id kind := by
  have keeps : ∀ (before : Subscriptions) (sent : SubscriptionKind), Steady before →
      before.isConnected = true → before.desired (SubscriptionCategory.ofKind sent) = some sent →
      (∀ id, ¬before.Awaits id sent) → Steady (before.sendSubscribe sent.params) :=
    fun _ sent steady connected wanted absent => steady.sendSubscribe sent connected wanted absent
  have still : ∀ (before : Subscriptions) (category : SubscriptionCategory), Steady before →
      (∃ id, before.Awaits id kind) → ∃ id, (before.subscribeCategory category).Awaits id kind := by
    rintro before category steady ⟨id,awaits⟩
    unfold subscribeCategory
    split
    · exact ⟨id,awaits⟩
    · unfold subscribeUnlessInFlight
      split
      · exact ⟨id,awaits⟩
      · exact ⟨id,(before.awaits_sendSubscribe _ id kind).mpr
          (.inr ⟨steady.awaits_ne_next id kind awaits,awaits⟩)⟩
  have wants : ∀ (before : Subscriptions) (category other : SubscriptionCategory),
      (before.subscribeCategory category).desired other = before.desired other := by
    intro before category other
    unfold subscribeCategory
    split
    · rfl
    · unfold subscribeUnlessInFlight
      split
      · rfl
      · rw [sendSubscribe_eq]
        cases other <;> rfl
  have sends : ∀ before : Subscriptions,
      before.desired (SubscriptionCategory.ofKind kind) = some kind →
      ∃ id, (before.subscribeCategory (SubscriptionCategory.ofKind kind)).Awaits id kind := by
    intro before wanted
    unfold subscribeCategory subscribeUnlessInFlight
    simp only [wanted]
    split
    · next present =>
      rw [RpcIdsInFlight.willSubscribe_iff,SubscriptionKind.requestKind_params] at present
      exact present
    · exact ⟨_,(before.awaits_sendSubscribe kind _ kind).mpr (.inl ⟨rfl,rfl⟩)⟩
  have all : ∀ (categories : List SubscriptionCategory) (before : Subscriptions), Steady before →
      before.isConnected = true → before.desired (SubscriptionCategory.ofKind kind) = some kind →
      SubscriptionCategory.ofKind kind ∈ categories ∨ (∃ id, before.Awaits id kind) →
      ∃ id, (categories.foldl subscribeCategory before).Awaits id kind := by
    intro categories
    induction categories with
    | nil =>
      rintro before _ _ _ (member | awaits)
      · cases member
      · exact awaits
    | cons category rest ih =>
      intro before steady connected wanted here
      obtain ⟨next,online⟩ := subscribeCategory_keeps Steady keeps before category ⟨steady,connected⟩
      apply ih _ next online (by rw [wants]; exact wanted)
      rcases here with member | awaits
      · rcases List.mem_cons.mp member with same | later
        · rw [← same]
          exact .inr (sends before wanted)
        · exact .inl later
      · exact .inr (still before category steady awaits)
  rw [resubscribe_eq,if_pos connected]
  apply all _ self steady connected wanted
  left
  cases kind <;> simp [SubscriptionCategory.ofKind]

/-- The subscriptions with other things desired. -/
def aimedAt (self : Subscriptions) (blocks : Bool) (logs : Option LogFilter) (pendingTransactions : Bool) :
    Subscriptions :=
  {self with blocks,logs,pendingTransactions}

theorem Steady.marked {self : Subscriptions} (steady : Steady self) (blocks : Bool)
    (logs : Option LogFilter) (pendingTransactions : Bool) (category : SubscriptionCategory)
    (others : ∀ other, other ≠ category →
      (self.aimedAt blocks logs pendingTransactions).desired other = self.desired other) :
    Steady ((self.aimedAt blocks logs pendingTransactions).marked category) := by
  refine ⟨?_,?_,?_,steady.posted⟩
  · intro id kind awaits
    obtain ⟨old,apart⟩ := (RpcIdsInFlight.awaits_setUnsubscribe _ _ _ _).mp awaits
    obtain ⟨aimed,recent⟩ := steady.aimed id kind old
    exact ⟨(others _ apart).trans aimed,recent⟩
  · intro offline id kind awaits
    exact steady.idle offline id kind ((RpcIdsInFlight.awaits_setUnsubscribe _ _ _ _).mp awaits).1
  · intro id present
    exact steady.flying id ((RpcIdsInFlight.get_setUnsubscribe_ne_none _ _ _).mp present)

end Subscriptions

namespace Call

def category : Call → SubscriptionCategory
  | .toggleBlockHeight _ => .newHeads
  | .togglePendingTransactions _ => .newPendingTransactions
  | _ => .allLogs

def unsubscribes : Call → Bool
  | .toggleBlockHeight toggle => !toggle
  | .togglePendingTransactions toggle => !toggle
  | _ => true

def resubscribes : Call → Bool
  | .toggleBlockHeight toggle => toggle
  | .togglePendingTransactions toggle => toggle
  | .disableAllLogs => false
  | _ => true

def filter (logs : Option LogFilter) : Call → Option LogFilter
  | .enableLogs addresses topics =>
    let filter := logs.getD ⟨∅,∅⟩
    some ⟨filter.addresses ∪ addresses.toFinset,filter.topics ∪ topics.toFinset⟩
  | .disableLogs addresses topics =>
    match logs with
    | none => none
    | some filter =>
      let filter : LogFilter := ⟨filter.addresses \ addresses.toFinset,filter.topics \ topics.toFinset⟩
      if filter.addresses = ∅ ∧ filter.topics = ∅ then none else some filter
  | .disableAllLogs => none
  | _ => logs

/-- What the call changes of the desired subscriptions. -/
def retarget (self : Subscriptions) (call : Call) : Subscriptions :=
  self.aimedAt
    (match call with
      | .toggleBlockHeight toggle => toggle
      | _ => self.blocks)
    (call.filter self.logs)
    (match call with
      | .togglePendingTransactions toggle => toggle
      | _ => self.pendingTransactions)

/-- The call has unsubscribed its category where it does so. -/
def left (self : Subscriptions) (call : Call) : Subscriptions :=
  if call.unsubscribes then (call.retarget self).unsubscribe call.category else call.retarget self

/-- A call aims at something else, then unsubscribes its category, then resubscribes. -/
theorem apply_eq (self : Subscriptions) (call : Call) :
    call.apply self = if call.resubscribes then (call.left self).resubscribe else call.left self := by
  cases call with
  | toggleBlockHeight toggle => cases toggle <;> rfl
  | togglePendingTransactions toggle => cases toggle <;> rfl
  | _ => rfl

theorem isConnected_left (self : Subscriptions) (call : Call) :
    (call.left self).isConnected = self.isConnected := by
  unfold left
  split
  · exact Subscriptions.isConnected_unsubscribe _ _
  · rfl

theorem desired_left (self : Subscriptions) (call : Call) (category : SubscriptionCategory) :
    (call.left self).desired category = (call.retarget self).desired category := by
  unfold left
  split
  · exact Subscriptions.desired_unsubscribe _ _ _
  · rfl

theorem desired_apply (self : Subscriptions) (call : Call) (category : SubscriptionCategory) :
    (call.apply self).desired category = (call.retarget self).desired category := by
  rw [apply_eq]
  split
  · rw [Subscriptions.desired_resubscribe,desired_left]
  · exact desired_left self call category

theorem unsubscribes_of_last (call : Call) (last : call.resubscribes = false) : call.unsubscribes = true := by
  cases call <;> simp_all [resubscribes,unsubscribes]

/-- A call that does not resubscribe has unsubscribed. -/
theorem left_of_last (self : Subscriptions) (call : Call) (last : call.resubscribes = false) :
    call.apply self = (call.retarget self).unsubscribe call.category := by
  rw [apply_eq,last,left,unsubscribes_of_last call last]
  rfl

theorem desired_retarget_other (self : Subscriptions) (call : Call) (other : SubscriptionCategory)
    (apart : other ≠ call.category) : (call.retarget self).desired other = self.desired other := by
  cases call <;> cases other <;> first | rfl | exact absurd rfl apart

theorem desired_retarget_none (self : Subscriptions) (call : Call) (left : call.resubscribes = false) :
    (call.retarget self).desired call.category = none := by
  cases call with
  | toggleBlockHeight toggle =>
    simp only [resubscribes] at left
    subst left
    rfl
  | togglePendingTransactions toggle =>
    simp only [resubscribes] at left
    subst left
    rfl
  | disableAllLogs => rfl
  | _ => cases left

theorem desired_retarget_stays (self : Subscriptions) (call : Call) (kind : SubscriptionKind)
    (stays : call.unsubscribes = false) (own : SubscriptionCategory.ofKind kind = call.category) :
    (call.retarget self).desired call.category = some kind := by
  cases call with
  | toggleBlockHeight toggle =>
    cases toggle with
    | false => cases stays
    | true =>
      cases kind with
      | newHeads => rfl
      | _ => cases own
  | togglePendingTransactions toggle =>
    cases toggle with
    | false => cases stays
    | true =>
      cases kind with
      | newPendingTransactions => rfl
      | _ => cases own
  | _ => cases stays

theorem steady_marked (self : Subscriptions) (call : Call) (steady : self.Steady) :
    ((call.retarget self).marked call.category).Steady :=
  steady.marked _ _ _ _ (fun other apart => desired_retarget_other self call other apart)

theorem steady_left (self : Subscriptions) (call : Call) (steady : self.Steady) : (call.left self).Steady := by
  unfold left
  split
  · rw [Subscriptions.unsubscribe_eq]
    apply Subscriptions.foldl_sendUnsubscribe Subscriptions.Steady _
      (fun _ id _ steady => steady.sendUnsubscribe id none)
    exact steady_marked self call steady
  · next stays =>
    refine ⟨?_,steady.idle,steady.flying,steady.posted⟩
    intro id kind awaits
    obtain ⟨aimed,recent⟩ := steady.aimed id kind awaits
    refine ⟨?_,recent⟩
    by_cases own : SubscriptionCategory.ofKind kind = call.category
    · rw [own]
      exact desired_retarget_stays self call kind (by simpa using stays) own
    · exact (desired_retarget_other self call _ own).trans aimed

theorem steady_apply (self : Subscriptions) (call : Call) (steady : self.Steady) : (call.apply self).Steady := by
  rw [apply_eq]
  split
  · exact (steady_left self call steady).resubscribe
  · exact steady_left self call steady

end Call

namespace Subscriptions

/-- The request has landed and is no longer in flight. -/
def landed (self : Subscriptions) (id : RpcId) : Subscriptions :=
  {self with rpcIdsInFlight := (self.rpcIdsInFlight.remove id).1}

/-- What a processed response can do. -/
inductive Received (self : Subscriptions) (id : RpcId) : RpcResponse → Subscriptions → Prop
  | ignored (response : RpcResponse)
      (noSubscription : ∀ kind subscriptionId, self.rpcIds.get id = some (SubscriptionKind.requestKind kind) →
        response ≠ .newSubscription subscriptionId)
      (noAck : ∀ subscriptionId success, self.rpcIds.get id = some (.unsubscribe subscriptionId) →
        response = .unsubscribeAck success → self.ids.lookup.get subscriptionId = none) :
      Received self id response (self.landed id)
  | unwanted (subscriptionId : String) (known : self.rpcIds.get id ≠ none)
      (marked : self.rpcIdsInFlight.lookup.get id = some .unsubscribeOnLand) :
      Received self id (.newSubscription subscriptionId) ((self.landed id).sendUnsubscribe subscriptionId none)
  | subscribed (subscriptionId : String) (kind : SubscriptionKind)
      (known : self.rpcIds.get id = some kind.requestKind)
      (unmarked : self.rpcIdsInFlight.lookup.get id ≠ some .unsubscribeOnLand) :
      Received self id (.newSubscription subscriptionId)
        {self.landed id with
          ids := self.ids.insert subscriptionId kind (self.rpcIdsInFlight.remove id).2.2.isSome}
  | unsubscribed (subscriptionId : String) (known : self.rpcIds.get id = some (.unsubscribe subscriptionId)) :
      Received self id (.unsubscribeAck true)
        {self.landed id with ids := self.ids.remove subscriptionId}
  | refused (subscriptionId : String) (known : self.rpcIds.get id = some (.unsubscribe subscriptionId))
      (tracked : self.ids.lookup.get subscriptionId ≠ none) :
      Received self id (.unsubscribeAck false)
        ((self.landed id).sendUnsubscribe subscriptionId (some unsubscribeRetrySecs))

theorem received (self : Subscriptions) (id : RpcId) (response : RpcResponse) :
    Received self id response (self.onReceivedRpcResponse id response) := by
  have state : (self.rpcIdsInFlight.remove id).2.1 = self.rpcIdsInFlight.lookup.get id :=
    (RpcIdsInFlight.remove_spec self.rpcIdsInFlight id).2.1
  unfold onReceivedRpcResponse
  simp only [state]
  cases found : self.rpcIds.get id with
  | none => exact .ignored response (by simp [found]) (by simp [found])
  | some requestKind =>
    cases response with
    | newSubscription subscriptionId =>
      simp only
      split
      · next marked => exact .unwanted subscriptionId (by simp [found]) marked
      · next unmarked =>
        rcases SubscriptionKind.request_cases requestKind with ⟨kind,same⟩ | ⟨target,same⟩
        · subst same
          simp only [SubscriptionKind.tryFrom_requestKind]
          exact .subscribed subscriptionId kind found unmarked
        · subst same
          refine .ignored _ ?_ (by simp)
          intro kind _ known
          rw [found,Option.some.injEq] at known
          exact absurd known.symm (kind.requestKind_ne_unsubscribe target)
    | unsubscribeAck success =>
      rcases SubscriptionKind.request_cases requestKind with ⟨kind,same⟩ | ⟨target,same⟩
      · have plain : ∀ target, requestKind ≠ .unsubscribe target := by
          rw [same]
          exact kind.requestKind_ne_unsubscribe
        have quiet := @Received.ignored self id (.unsubscribeAck success) (by simp)
          (by intro target _ known; rw [found,Option.some.injEq] at known; exact absurd known (plain target))
        cases requestKind with
        | unsubscribe target => exact absurd rfl (plain target)
        | _ => exact quiet
      · subst same
        cases success with
        | true => exact .unsubscribed target found
        | false =>
          simp only [Bool.false_eq_true,if_false]
          split
          · next tracked =>
            exact .refused target found (Option.isSome_iff_ne_none.mp tracked)
          · next untracked =>
            refine .ignored _ (by simp) ?_
            intro other _ known _
            rw [found,Option.some.injEq,RpcRequestKind.unsubscribe.injEq] at known
            subst known
            exact Option.not_isSome_iff_eq_none.mp untracked
    | other value => exact .ignored _ (by simp) (by simp)

theorem awaits_landed (self : Subscriptions) (id other : RpcId) (kind : SubscriptionKind) :
    (self.landed id).Awaits other kind ↔ other ≠ id ∧ self.Awaits other kind := by
  unfold Awaits RpcIdsInFlight.Awaits landed
  simp only [(RpcIdsInFlight.remove_spec self.rpcIdsInFlight id).1,HashMap.get_remove]
  split
  · next same => simp [same]
  · next differ => simp [differ]

theorem Received.awaits {self next : Subscriptions} {id : RpcId} {response : RpcResponse}
    (result : Received self id response next) (other : RpcId) (kind : SubscriptionKind)
    (awaits : next.Awaits other kind) : other ≠ id ∧ self.Awaits other kind := by
  have landed := self.awaits_landed id other kind
  cases result with
  | ignored => exact landed.mp awaits
  | unwanted => exact landed.mp ((awaits_sendUnsubscribe _ _ _ other kind).mp awaits).2
  | subscribed => exact landed.mp awaits
  | unsubscribed => exact landed.mp awaits
  | refused => exact landed.mp ((awaits_sendUnsubscribe _ _ _ other kind).mp awaits).2

theorem Steady.landed {self : Subscriptions} (steady : Steady self) (id : RpcId) : Steady (self.landed id) := by
  obtain ⟨lookup,_,category,recent⟩ := RpcIdsInFlight.remove_spec self.rpcIdsInFlight id
  refine ⟨?_,?_,?_,steady.posted⟩
  · intro other kind awaits
    obtain ⟨differ,awaits⟩ := (self.awaits_landed id other kind).mp awaits
    obtain ⟨aimed,own⟩ := steady.aimed other kind awaits
    refine ⟨aimed,?_⟩
    simp only [Subscriptions.landed,recent]
    rw [if_neg]
    · exact own
    · intro reported
      obtain ⟨last,_⟩ := (category _).mp reported
      rw [own] at last
      exact differ (Option.some.inj last)
  · intro offline other kind awaits
    exact steady.idle offline other kind ((self.awaits_landed id other kind).mp awaits).2
  · intro other present
    apply steady.flying other
    intro absent
    apply present
    simp only [Subscriptions.landed,lookup,HashMap.get_remove,absent,ite_self]

/-- The request that lands is the one recorded for its category. -/
theorem Steady.reports {self : Subscriptions} (steady : Steady self) (id : RpcId) (kind : SubscriptionKind)
    (awaits : self.Awaits id kind) :
    (self.rpcIdsInFlight.remove id).2.2 = some (SubscriptionCategory.ofKind kind) := by
  obtain ⟨_,_,category,_⟩ := RpcIdsInFlight.remove_spec self.rpcIdsInFlight id
  exact (category _).mpr ⟨(steady.aimed id kind awaits).2,kind,awaits,rfl⟩

theorem Steady.withIds {self : Subscriptions} (steady : Steady self) (ids : SubscriptionIds) :
    Steady {self with ids} :=
  ⟨steady.aimed,steady.idle,steady.flying,steady.posted⟩

theorem Received.aim {self next : Subscriptions} {id : RpcId} {response : RpcResponse}
    (result : Received self id response next) :
    (∀ category, next.desired category = self.desired category) ∧ next.isConnected = self.isConnected := by
  have plain : ∀ category, (self.landed id).desired category = self.desired category := by
    intro category
    cases category <;> rfl
  have kept : ∀ ids category, {self.landed id with ids}.desired category = self.desired category := by
    intro ids category
    cases category <;> rfl
  cases result with
  | ignored => exact ⟨plain,rfl⟩
  | unwanted subscriptionId =>
    refine ⟨fun category => (desired_sendUnsubscribe _ _ _ category).trans (plain category),?_⟩
    rw [sendUnsubscribe_eq]
    rfl
  | subscribed => exact ⟨kept _,rfl⟩
  | unsubscribed => exact ⟨kept _,rfl⟩
  | refused subscriptionId =>
    refine ⟨fun category => (desired_sendUnsubscribe _ _ _ category).trans (plain category),?_⟩
    rw [sendUnsubscribe_eq]
    rfl

theorem Steady.received {self next : Subscriptions} (steady : Steady self) (id : RpcId)
    (response : RpcResponse) (result : Received self id response next) : Steady next := by
  cases result with
  | ignored => exact steady.landed id
  | unwanted subscriptionId => exact (steady.landed id).sendUnsubscribe subscriptionId none
  | subscribed => exact (steady.landed id).withIds _
  | unsubscribed => exact (steady.landed id).withIds _
  | refused subscriptionId => exact (steady.landed id).sendUnsubscribe subscriptionId _

/-- New requests are posted, unsubscribe requests only for allowed subscriptions. -/
structure Posts (allowed : String → Prop) (before after : Subscriptions) : Prop where
  ids : after.ids = before.ids
  flag : after.isConnected = before.isConnected
  grows : before.rpcIds.Grows after.rpcIds
  older : ∀ id, before.rpcIds.Minted id → after.rpcIds.get id = before.rpcIds.get id
  asked : ∀ id subscriptionId, after.rpcIds.get id = some (.unsubscribe subscriptionId) →
    before.rpcIds.get id = some (.unsubscribe subscriptionId) ∨ allowed subscriptionId
  awaits : ∀ id kind, after.Awaits id kind →
    before.Awaits id kind ∨ after.rpcIds.get id = some kind.requestKind

namespace Posts

variable {allowed : String → Prop}

theorem trans {first second third : Subscriptions} (one : Posts allowed first second)
    (two : Posts allowed second third) : Posts allowed first third where
  ids := two.ids.trans one.ids
  flag := two.flag.trans one.flag
  grows := one.grows.trans two.grows
  older id minted := (two.older id (one.grows.minted minted)).trans (one.older id minted)
  asked id subscriptionId found := by
    rcases two.asked id subscriptionId found with before | new
    · exact one.asked id subscriptionId before
    · exact .inr new
  awaits id kind awaiting := by
    rcases two.awaits id kind awaiting with before | known
    · rcases one.awaits id kind before with old | known
      · exact .inl old
      · right
        rw [two.older id (second.rpcIds.minted_of_get id _ known)]
        exact known
    · exact .inr known

/-- Requests in flight whose rpc ids are known stay so. -/
theorem known {before after : Subscriptions} (posts : Posts allowed before after)
    (known : ∀ id kind, before.Awaits id kind → before.rpcIds.get id = some kind.requestKind) (id : RpcId)
    (kind : SubscriptionKind) (awaits : after.Awaits id kind) :
    after.rpcIds.get id = some kind.requestKind := by
  rcases posts.awaits id kind awaits with old | new
  · have found := known id kind old
    rw [posts.older id (before.rpcIds.minted_of_get id _ found)]
    exact found
  · exact new

theorem refl (self : Subscriptions) : Posts allowed self self :=
  ⟨rfl,rfl,.refl _,fun _ _ => rfl,fun _ _ found => .inl found,fun _ _ awaits => .inl awaits⟩

theorem sendSubscribe (self : Subscriptions) (kind : SubscriptionKind) :
    Posts allowed self (self.sendSubscribe kind.params) := by
  have awaits := self.awaits_sendSubscribe kind
  rw [sendSubscribe_eq] at awaits ⊢
  refine ⟨rfl,rfl,self.rpcIds.grows_insert _,?_,?_,?_⟩
  · intro id minted
    simp only [SlotMap.get_insert,if_neg minted.ne_next]
  · intro id subscriptionId found
    simp only [SlotMap.get_insert,SubscriptionKind.requestKind_params] at found
    split at found
    · exact absurd (Option.some.inj found) (kind.requestKind_ne_unsubscribe subscriptionId)
    · exact .inl found
  · intro id other awaiting
    rcases (awaits id other).mp awaiting with ⟨rfl,rfl⟩ | ⟨_,old⟩
    · right
      simp only [SlotMap.get_insert,SubscriptionKind.requestKind_params,if_true]
    · exact .inl old

theorem sendUnsubscribe (self : Subscriptions) (subscriptionId : String) (delay : Option Nat)
    (fine : allowed subscriptionId) : Posts allowed self (self.sendUnsubscribe subscriptionId delay) := by
  have awaits := self.awaits_sendUnsubscribe subscriptionId delay
  rw [sendUnsubscribe_eq] at awaits ⊢
  refine ⟨rfl,rfl,self.rpcIds.grows_insert _,?_,?_,?_⟩
  · intro id minted
    simp only [SlotMap.get_insert,if_neg minted.ne_next]
  · intro id target found
    simp only [SlotMap.get_insert] at found
    split at found
    · cases found
      exact .inr fine
    · exact .inl found
  · intro id kind awaiting
    exact .inl ((awaits id kind).mp awaiting).2

theorem resubscribe {start : Subscriptions} (self : Subscriptions) (posts : Posts allowed start self) :
    Posts allowed start self.resubscribe :=
  resubscribe_keeps (Posts allowed start)
    (fun before kind posts _ _ _ => posts.trans (.sendSubscribe before kind)) self posts

theorem online (self : Subscriptions) :
    Posts allowed {self with isConnected := true} (self.setIsConnected true) :=
  .resubscribe _ (.refl _)

/-- A call asks only for its own category's subscriptions to be removed. -/
theorem call (self : Subscriptions) (call : Call) :
    Posts (fun id => id ∈ self.ids.listByCategory call.category) self (call.apply self) := by
  have left : Posts (fun id => id ∈ self.ids.listByCategory call.category) self (call.left self) := by
    unfold Call.left
    split
    · rw [unsubscribe_eq]
      apply foldl_sendUnsubscribe (Posts _ self)
      · intro before id member posts
        exact posts.trans (.sendUnsubscribe before id none member)
      · exact ⟨rfl,rfl,.refl _,fun _ _ => rfl,fun _ _ found => .inl found,fun _ _ awaits =>
          .inl ((RpcIdsInFlight.awaits_setUnsubscribe _ _ _ _).mp awaits).1⟩
    · exact ⟨rfl,rfl,.refl _,fun _ _ => rfl,fun _ _ found => .inl found,fun _ _ awaits => .inl awaits⟩
  rw [Call.apply_eq]
  split
  · exact left.resubscribe _
  · exact left

end Posts

end Subscriptions

end Warpdrive.Trigger.EvmStream
