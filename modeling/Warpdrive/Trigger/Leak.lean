import Mathlib.Data.List.Chain
import Warpdrive.Trigger.Coverage

/-! Subscriptions that are opened twice. `resubscribe` goes over all three categories and
asks for each enabled one again unless a request for it is in flight, so a category that is
already subscribed gets a second subscription. A client is thrifty along a run whose
resubscribing calls meet no subscription of another category that is not being removed. -/
namespace Warpdrive.Trigger.EvmStream

open Warpdrive.Foundation Warpdrive.Types Warpdrive.Foundation.Execution

namespace Subscriptions

/-- A request in flight asks for the subscription to be removed. -/
def Asks (self : Subscriptions) (subscriptionId : String) : Prop :=
  ∃ id, self.rpcIdsInFlight.lookup.get id = some (.activateOnLand (.unsubscribe subscriptionId))

/-- An active subscription that is not being removed. -/
def Live (self : Subscriptions) (subscriptionId : String) (kind : SubscriptionKind) : Prop :=
  self.ids.lookup.get subscriptionId = some kind ∧ ¬self.Asks subscriptionId

/-- The live subscriptions. -/
def live (self : Subscriptions) : List (String × SubscriptionKind) :=
  self.ids.lookup.iter.filter (fun entry =>
    !self.rpcIdsInFlight.lookup.values.contains (.activateOnLand (.unsubscribe entry.1)))

theorem mem_live (self : Subscriptions) (subscriptionId : String) (kind : SubscriptionKind) :
    (subscriptionId,kind) ∈ self.live ↔ self.Live subscriptionId kind := by
  simp only [live,List.mem_filter,HashMap.mem_iter,Live,Asks,Bool.not_eq_true',← Bool.not_eq_true,
    List.contains_iff_mem,HashMap.mem_values]

theorem Steady.asks_insert {self : Subscriptions} (steady : Steady self) (kind : RpcRequestKind)
    (subscriptionId : String) (asks : self.Asks subscriptionId) :
    ∃ id, (self.rpcIdsInFlight.insert self.rpcIds.next kind).lookup.get id =
      some (.activateOnLand (.unsubscribe subscriptionId)) := by
  obtain ⟨id,found⟩ := asks
  refine ⟨id,?_⟩
  simp only [RpcIdsInFlight.insert]
  rw [HashMap.get_insert_ne]
  · exact found
  · exact (steady.flying id (by rw [found]; simp)).ne_next

theorem Steady.asks_sendSubscribe {self : Subscriptions} (steady : Steady self) (params : SubscribeParams)
    (subscriptionId : String) (asks : self.Asks subscriptionId) :
    (self.sendSubscribe params).Asks subscriptionId := by
  rw [sendSubscribe_eq]
  exact steady.asks_insert _ subscriptionId asks

theorem Steady.asks_sendUnsubscribe {self : Subscriptions} (steady : Steady self) (target : String)
    (delay : Option Nat) (subscriptionId : String) (asks : self.Asks subscriptionId ∨ subscriptionId = target) :
    (self.sendUnsubscribe target delay).Asks subscriptionId := by
  rw [sendUnsubscribe_eq]
  rcases asks with asks | rfl
  · exact steady.asks_insert _ subscriptionId asks
  · exact ⟨self.rpcIds.next,HashMap.get_insert_self _ _ _⟩

theorem get_setUnsubscribe_activate (inFlight : RpcIdsInFlight) (category : SubscriptionCategory) (id : RpcId)
    (kind : RpcRequestKind)
    (found : (inFlight.setUnsubscribe category).lookup.get id = some (.activateOnLand kind)) :
    inFlight.lookup.get id = some (.activateOnLand kind) := by
  simp only [RpcIdsInFlight.setUnsubscribe,HashMap.get_mapValues] at found
  cases held : inFlight.lookup.get id with
  | none =>
    rw [held] at found
    cases found
  | some state =>
    rw [held] at found
    cases state with
    | unsubscribeOnLand => cases found
    | activateOnLand requestKind =>
      simp only [Option.map_some,Option.some.injEq] at found
      split at found
      · split at found
        · cases found
        · rw [found]
      · rw [found]

theorem asks_marked (self : Subscriptions) (category : SubscriptionCategory) (subscriptionId : String)
    (asks : self.Asks subscriptionId) : (self.marked category).Asks subscriptionId := by
  obtain ⟨id,found⟩ := asks
  refine ⟨id,?_⟩
  simp only [marked,RpcIdsInFlight.setUnsubscribe,HashMap.get_mapValues,found]
  rfl

theorem asks_foldl (ids : List String) (self : Subscriptions) (steady : Steady self) (subscriptionId : String)
    (asks : self.Asks subscriptionId ∨ subscriptionId ∈ ids) :
    (ids.foldl (fun self id => self.sendUnsubscribe id none) self).Asks subscriptionId := by
  induction ids generalizing self with
  | nil =>
    rcases asks with asks | member
    · exact asks
    · cases member
  | cons id rest ih =>
    apply ih _ (steady.sendUnsubscribe id none)
    rcases asks with asks | member
    · exact .inl (steady.asks_sendUnsubscribe id none subscriptionId (.inl asks))
    · rcases List.mem_cons.mp member with same | later
      · exact .inl (steady.asks_sendUnsubscribe id none subscriptionId (.inr same))
      · exact .inr later

theorem Steady.asks_resubscribe {self : Subscriptions} (steady : Steady self) (subscriptionId : String)
    (asks : self.Asks subscriptionId) : self.resubscribe.Asks subscriptionId :=
  (resubscribe_keeps (fun after => after.Steady ∧ after.Asks subscriptionId)
    (fun _ kind held connected wanted absent => ⟨held.1.sendSubscribe kind connected wanted absent,
      held.1.asks_sendSubscribe kind.params subscriptionId held.2⟩) self ⟨steady,asks⟩).2

/-- What a call has left asked for stays so when it subscribes again. -/
theorem asks_again (self : Subscriptions) (call : Call) (steady : Steady self) (subscriptionId : String)
    (asks : (call.left self).Asks subscriptionId) : (call.apply self).Asks subscriptionId := by
  rw [Call.apply_eq]
  split
  · exact (Call.steady_left self call steady).asks_resubscribe subscriptionId asks
  · exact asks

theorem asks_call (self : Subscriptions) (call : Call) (steady : Steady self) (subscriptionId : String)
    (asks : self.Asks subscriptionId) : (call.apply self).Asks subscriptionId := by
  apply asks_again self call steady
  unfold Call.left
  split
  · rw [unsubscribe_eq]
    exact asks_foldl _ _ (Call.steady_marked self call steady) subscriptionId
      (.inl (asks_marked (call.retarget self) call.category _ asks))
  · exact asks

/-- What is live after a call was live before it, and is not of a category that the call
has unsubscribed. -/
theorem live_call (self : Subscriptions) (call : Call) (steady : Steady self) (tracks : self.ids.Tracks)
    (subscriptionId : String) (kind : SubscriptionKind) (live : (call.apply self).Live subscriptionId kind) :
    self.Live subscriptionId kind ∧
      (call.unsubscribes = true → SubscriptionCategory.ofKind kind ≠ call.category) := by
  have posts := Posts.call self call
  obtain ⟨tracked,standing⟩ := live
  rw [posts.ids] at tracked
  refine ⟨⟨tracked,fun asks => standing (asks_call self call steady subscriptionId asks)⟩,?_⟩
  intro unsubscribes own
  apply standing
  apply asks_again self call steady
  rw [Call.left,if_pos unsubscribes,unsubscribe_eq]
  exact asks_foldl _ _ (Call.steady_marked self call steady) subscriptionId
    (.inr ((tracks.listed _ _).mpr ⟨kind,tracked,own⟩))

end Subscriptions

namespace Client

/-- The rpc ids of the requests that are not answered or whose response is not processed. -/
def pending (self : Client) : List RpcId :=
  self.inner.connectionSendRpc.map RpcRequest.id ++
    (self.inner.delayed.map RpcRequest.id ++ self.data.map Prod.fst)

/-- Every request has its own rpc id, and a subscribe request whose rpc id is known is in
flight on the current connection. -/
structure Ordered (client : Client) : Prop where
  minted : ∀ id ∈ client.pending, client.inner.rpcIds.Minted id
  distinct : client.pending.Nodup
  waits : ∀ req ∈ client.inner.delayed, ∃ id subscriptionId, req = .unsubscribe id subscriptionId
  offline : client.inner.isConnected = false → (∀ id, client.inner.ids.lookup.get id = none) ∧
    ∀ id, client.inner.rpcIdsInFlight.lookup.get id = none
  owned : ∀ id ∈ client.pending, ∀ kind, client.inner.rpcIds.get id = some (SubscriptionKind.requestKind kind) →
    client.inner.rpcIdsInFlight.lookup.get id ≠ none ∧ client.inner.isConnected = true ∧
      .disconnected ∉ client.states
  agrees : .disconnected ∉ client.states → ∀ id kind,
    client.inner.rpcIdsInFlight.lookup.get id = some (.activateOnLand kind) →
      client.inner.rpcIds.get id = some kind

/-- A request with a new rpc id is posted. -/
theorem Ordered.insert {self : Client} (ordered : Ordered self) (kind : RpcRequestKind)
    (connected : self.inner.isConnected = true)
    (heard : ∀ subscription, kind = SubscriptionKind.requestKind subscription → .disconnected ∉ self.states)
    (connectionSendRpc delayed : List RpcRequest)
    (pending : (connectionSendRpc.map RpcRequest.id ++ (delayed.map RpcRequest.id ++ self.data.map Prod.fst)).Perm
      (self.inner.rpcIds.next::self.pending))
    (waits : ∀ req ∈ delayed, ∃ id subscriptionId, req = .unsubscribe id subscriptionId) :
    Ordered {self with inner := {self.inner with
      rpcIds := (self.inner.rpcIds.insert kind).2
      rpcIdsInFlight := self.inner.rpcIdsInFlight.insert self.inner.rpcIds.next kind
      connectionSendRpc
      delayed}} := by
  have online : ¬self.inner.isConnected = false := by simp [connected]
  refine ⟨?_,?_,waits,fun offline => absurd offline online,?_,?_⟩
  · intro id member
    rcases List.mem_cons.mp (pending.mem_iff.mp member) with rfl | old
    · exact (self.inner.rpcIds.minted_insert kind _).mpr (.inl rfl)
    · exact (ordered.minted id old).insert _
  · apply pending.nodup_iff.mpr
    refine List.nodup_cons.mpr ⟨?_,ordered.distinct⟩
    intro member
    exact self.inner.rpcIds.not_minted_next (ordered.minted _ member)
  · intro id member subscription found
    simp only [SlotMap.get_insert] at found
    simp only [RpcIdsInFlight.insert,HashMap.get_insert]
    split at found
    · next same =>
      rw [if_pos same]
      exact ⟨by simp,connected,heard subscription (Option.some.inj found)⟩
    · next differ =>
      rw [if_neg differ]
      rcases List.mem_cons.mp (pending.mem_iff.mp member) with same | old
      · exact absurd same differ
      · exact ordered.owned id old subscription found
  · intro heard id held found
    simp only [RpcIdsInFlight.insert,HashMap.get_insert] at found
    simp only [SlotMap.get_insert]
    split at found
    · next same =>
      rw [if_pos same]
      cases found
      rfl
    · next differ =>
      rw [if_neg differ]
      exact ordered.agrees heard id held found

theorem Ordered.sendSubscribe {self : Client} (ordered : Ordered self) (kind : SubscriptionKind)
    (connected : self.inner.isConnected = true) (heard : .disconnected ∉ self.states) :
    Ordered {self with inner := self.inner.sendSubscribe kind.params} := by
  rw [Subscriptions.sendSubscribe_eq]
  apply ordered.insert _ connected (fun _ _ => heard) _ _ _ ordered.waits
  simp only [List.map_append,List.map_cons,List.map_nil,List.append_assoc,List.singleton_append]
  exact List.perm_middle

theorem Ordered.sendUnsubscribe {self : Client} (ordered : Ordered self) (subscriptionId : String)
    (delay : Option Nat) (connected : self.inner.isConnected = true) :
    Ordered {self with inner := self.inner.sendUnsubscribe subscriptionId delay} := by
  rw [Subscriptions.sendUnsubscribe_eq]
  apply ordered.insert _ connected
  · intro subscription same
    exact absurd same.symm (subscription.requestKind_ne_unsubscribe subscriptionId)
  · cases delay with
    | none =>
      simp only [if_true,List.append_nil,List.map_append,List.map_cons,List.map_nil,List.append_assoc,
        List.singleton_append]
      exact List.perm_middle
    | some secs =>
      simp only [reduceCtorEq,if_false,List.append_nil,List.map_append,List.map_cons,List.map_nil,
        List.append_assoc,List.singleton_append,pending]
      exact (List.Perm.append_left _ List.perm_middle).trans List.perm_middle
  · intro req member
    rcases List.mem_append.mp member with old | new
    · exact ordered.waits req old
    · cases delay with
      | none => cases new
      | some secs => exact ⟨_,_,List.mem_singleton.mp new⟩

/-- Other things are desired and the requests in flight of a category are marked. -/
theorem Ordered.marked {self : Client} (ordered : Ordered self) (call : Call) :
    Ordered {self with inner := (call.retarget self.inner).marked call.category} := by
  have present : ∀ id, ((call.retarget self.inner).marked call.category).rpcIdsInFlight.lookup.get id ≠ none ↔
      self.inner.rpcIdsInFlight.lookup.get id ≠ none :=
    fun id => RpcIdsInFlight.get_setUnsubscribe_ne_none _ _ id
  refine ⟨ordered.minted,ordered.distinct,ordered.waits,?_,?_,?_⟩
  · intro offline
    obtain ⟨untracked,empty⟩ := ordered.offline offline
    refine ⟨untracked,fun id => ?_⟩
    by_contra held
    exact (present id).mp held (empty id)
  · intro id member kind found
    obtain ⟨held,rest⟩ := ordered.owned id member kind found
    exact ⟨(present id).mpr held,rest⟩
  · intro heard id kind found
    exact ordered.agrees heard id kind (Subscriptions.get_setUnsubscribe_activate _ _ id kind found)

theorem ordered_left (self : Client) (call : Call) (sound : Sound self) (ordered : Ordered self) :
    Ordered {self with inner := call.left self.inner} := by
  unfold Call.left
  split
  · rw [Subscriptions.unsubscribe_eq]
    refine (Subscriptions.foldl_sendUnsubscribe
      (fun after => Ordered {self with inner := after} ∧ after.isConnected = self.inner.isConnected) _ ?_ _
      ⟨ordered.marked call,rfl⟩).1
    rintro before id member ⟨held,flag⟩
    have connected : before.isConnected = true := by
      by_contra offline
      obtain ⟨kind,tracked,_⟩ := (sound.tracks.listed call.category id).mp member
      rw [(ordered.offline (by rw [← flag]; simpa using offline)).1 id] at tracked
      cases tracked
    refine ⟨held.sendUnsubscribe id none connected,?_⟩
    rw [Subscriptions.sendUnsubscribe_eq]
    exact flag
  · exact ⟨ordered.minted,ordered.distinct,ordered.waits,ordered.offline,ordered.owned,ordered.agrees⟩

theorem ordered_resubscribe (self : Client) (inner : Subscriptions)
    (heard : inner.isConnected = true → .disconnected ∉ self.states)
    (ordered : Ordered {self with inner}) : Ordered {self with inner := inner.resubscribe} :=
  (Subscriptions.resubscribe_keeps
    (fun after => Ordered {self with inner := after} ∧ after.isConnected = inner.isConnected)
    (fun before kind held connected _ _ =>
      ⟨held.1.sendSubscribe kind connected (heard (held.2.symm.trans connected)),by
        rw [Subscriptions.sendSubscribe_eq]
        exact held.2⟩) inner ⟨ordered,rfl⟩).1

theorem ordered_call (self : Client) (call : Call) (sound : Sound self) (ordered : Ordered self)
    (heard : call.resubscribes = true → self.inner.isConnected = true → .disconnected ∉ self.states) :
    Ordered {self with inner := call.apply self.inner} := by
  have left := ordered_left self call sound ordered
  rw [Call.apply_eq]
  split
  · next again =>
    apply ordered_resubscribe self _ _ left
    intro connected
    rw [Call.isConnected_left] at connected
    exact heard again connected
  · exact left

theorem ordered_processState (self : Client) (state : ConnectionState) (rest : List ConnectionState)
    (queued : self.states = state::rest) (ordered : Ordered self)
    (last : state = .connected → rest = []) :
    Ordered {self with
      inner := self.inner.setIsConnected (state = .connected)
      states := rest} := by
  have fewer : .disconnected ∉ self.states → .disconnected ∉ rest := by
    rw [queued]
    simp
  cases state with
  | connected =>
    have none := last rfl
    subst none
    apply ordered_resubscribe {self with states := []} {self.inner with isConnected := true}
      (fun _ => by simp)
    refine ⟨ordered.minted,ordered.distinct,ordered.waits,(nomatch ·),?_,?_⟩
    · intro id member kind found
      obtain ⟨held,_,heard⟩ := ordered.owned id member kind found
      exact ⟨held,rfl,fewer heard⟩
    · intro _
      apply ordered.agrees
      simp [queued]
  | disconnected =>
    refine ⟨ordered.minted,ordered.distinct,ordered.waits,fun _ => ⟨fun id => HashMap.get_new id,
      fun id => HashMap.get_new id⟩,?_,?_⟩
    · intro id member kind found
      obtain ⟨_,_,heard⟩ := ordered.owned id member kind found
      rw [queued] at heard
      exact absurd List.mem_cons_self heard
    · intro _ id kind found
      exact absurd ((HashMap.get_new id).symm.trans found) (by simp)

theorem pending_taken (self : Client) (index : Nat) (id : RpcId) (response : RpcResponse)
    (item : self.data[index]? = some (id,response)) :
    self.pending.Perm (id::(self.taken index id).pending) := by
  obtain ⟨bound,found⟩ := List.getElem?_eq_some_iff.mp item
  have perm := (List.getElem_cons_eraseIdx_perm bound).map Prod.fst
  rw [found] at perm
  unfold pending
  refine (List.Perm.append_left _ (List.Perm.append_left _ perm.symm)).trans ?_
  exact (List.Perm.append_left _ List.perm_middle).trans List.perm_middle

theorem Ordered.taken {self : Client} (ordered : Ordered self) (index : Nat) (id : RpcId)
    (response : RpcResponse) (item : self.data[index]? = some (id,response)) :
    Ordered (self.taken index id) := by
  have perm := pending_taken self index id response item
  have distinct := List.nodup_cons.mp (perm.nodup_iff.mp ordered.distinct)
  have before : ∀ other ∈ (self.taken index id).pending, other ∈ self.pending :=
    fun other member => perm.mem_iff.mpr (List.mem_cons_of_mem _ member)
  have lookup : ∀ other, (self.taken index id).inner.rpcIdsInFlight.lookup.get other =
      if other = id then none else self.inner.rpcIdsInFlight.lookup.get other := by
    intro other
    simp only [Client.taken,Subscriptions.landed,
      (RpcIdsInFlight.remove_spec self.inner.rpcIdsInFlight id).1,HashMap.get_remove]
  refine ⟨fun other member => ordered.minted other (before other member),distinct.2,ordered.waits,?_,?_,?_⟩
  · intro offline
    obtain ⟨untracked,empty⟩ := ordered.offline offline
    refine ⟨untracked,fun other => ?_⟩
    rw [lookup,empty,ite_self]
  · intro other member kind found
    rw [lookup,if_neg]
    · exact ordered.owned other (before other member) kind found
    · rintro rfl
      exact distinct.1 member
  · intro heard other kind found
    rw [lookup] at found
    split at found
    · cases found
    · exact ordered.agrees heard other kind found

theorem Ordered.connected {self : Client} (ordered : Ordered self)
    (busy : (∃ id, self.inner.ids.lookup.get id ≠ none) ∨ ∃ id, self.inner.rpcIdsInFlight.lookup.get id ≠ none) :
    self.inner.isConnected = true := by
  by_contra offline
  obtain ⟨untracked,empty⟩ := ordered.offline (by simpa using offline)
  rcases busy with ⟨id,tracked⟩ | ⟨id,held⟩
  · exact tracked (untracked id)
  · exact held (empty id)

theorem ordered_received (self : Client) (ordered : Ordered self) (index : Nat) (id : RpcId)
    (response : RpcResponse) (item : self.data[index]? = some (id,response)) (next : Subscriptions)
    (result : self.inner.Received id response next) :
    Ordered {self.taken index id with inner := next} := by
  have taken := ordered.taken index id response item
  have here : id ∈ self.pending :=
    (pending_taken self index id response item).mem_iff.mpr List.mem_cons_self
  cases result with
  | ignored => exact taken
  | unwanted subscriptionId _ marked =>
    exact taken.sendUnsubscribe subscriptionId none (ordered.connected (.inr ⟨id,by rw [marked]; simp⟩))
  | subscribed subscriptionId kind known =>
    have connected := (ordered.owned id here kind known).2.1
    refine ⟨taken.minted,taken.distinct,taken.waits,?_,taken.owned,taken.agrees⟩
    intro offline
    rw [show self.inner.isConnected = false from offline] at connected
    cases connected
  | unsubscribed subscriptionId =>
    refine ⟨taken.minted,taken.distinct,taken.waits,?_,taken.owned,taken.agrees⟩
    intro offline
    obtain ⟨untracked,empty⟩ := taken.offline offline
    refine ⟨fun other => ?_,empty⟩
    simp only [SubscriptionIds.remove,HashMap.get_remove]
    split
    · rfl
    · exact untracked other
  | refused subscriptionId _ tracked =>
    exact taken.sendUnsubscribe subscriptionId _ (ordered.connected (.inl ⟨subscriptionId,tracked⟩))

theorem ordered_clear (self : Client) (ordered : Ordered self) (up : Bool) (states : List ConnectionState)
    (heard : .disconnected ∉ states → self.inner.isConnected = false) :
    Ordered {self with
      inner := {self.inner with rpcIds := self.inner.rpcIds.clear}
      up
      states} := by
  refine ⟨ordered.minted,ordered.distinct,ordered.waits,ordered.offline,?_,?_⟩
  · intro id member kind found
    simp at found
  · intro absent id kind found
    have empty := (ordered.offline (heard absent)).2 id
    exact absurd (empty.symm.trans found) (by simp)

/-- A request that moves on or is lost. -/
theorem ordered_moved (self : Client) (ordered : Ordered self) (connectionSendRpc delayed : List RpcRequest)
    (data : List (RpcId × RpcResponse)) (opened : HashMap String Nat) (lost : List RpcId)
    (moved : self.pending.Perm (lost ++ (connectionSendRpc.map RpcRequest.id ++
      (delayed.map RpcRequest.id ++ data.map Prod.fst))))
    (waits : ∀ req ∈ delayed, req ∈ self.inner.delayed) :
    Ordered {self with
      inner := {self.inner with connectionSendRpc,delayed}
      data
      opened} := by
  have before : ∀ id ∈ connectionSendRpc.map RpcRequest.id ++ (delayed.map RpcRequest.id ++ data.map Prod.fst),
      id ∈ self.pending :=
    fun id member => moved.mem_iff.mpr (List.mem_append_right _ member)
  exact ⟨fun id member => ordered.minted id (before id member),
    (List.nodup_append.mp (moved.nodup_iff.mp ordered.distinct)).2.1,
    fun req member => ordered.waits req (waits req member),ordered.offline,
    fun id member => ordered.owned id (before id member),ordered.agrees⟩

theorem ordered_deliver (self next : Client) (subscriptionId : String) (success : Bool)
    (sent : self.deliver subscriptionId success = some next) (ordered : Ordered self) : Ordered next := by
  unfold deliver at sent
  split at sent
  · cases sent
  · next req rest queued =>
    have answered : ∀ response, self.pending.Perm ([] ++ (rest.map RpcRequest.id ++
        (self.inner.delayed.map RpcRequest.id ++ (self.data ++ [(req.id,response)]).map Prod.fst))) := by
      intro response
      simp only [pending,queued,List.map_cons,List.map_append,List.map_nil,List.nil_append,List.cons_append]
      simp only [← List.append_assoc]
      exact (List.perm_append_singleton _ _).symm
    simp only at sent
    split at sent
    · split at sent
      · split at sent
        · cases sent
          exact ordered_moved self ordered rest self.inner.delayed _ _ [] (answered _) (fun _ member => member)
        · cases sent
      · cases sent
        exact ordered_moved self ordered rest self.inner.delayed _ _ [] (answered _) (fun _ member => member)
    · cases sent
      refine ordered_moved self ordered rest self.inner.delayed self.data self.opened [req.id] ?_
        (fun _ member => member)
      simp only [pending,queued,List.map_cons,List.cons_append,List.nil_append,List.Perm.refl]

theorem ordered_delayPasses (self : Client) (index : Nat) (req : RpcRequest)
    (item : self.inner.delayed[index]? = some req) (ordered : Ordered self) :
    Ordered {self with
      inner := Subscriptions.sendDelayed {self.inner with delayed := self.inner.delayed.eraseIdx index} req} := by
  have fewer : ∀ other ∈ self.inner.delayed.eraseIdx index, other ∈ self.inner.delayed :=
    fun other member => List.mem_of_mem_eraseIdx member
  obtain ⟨bound,found⟩ := List.getElem?_eq_some_iff.mp item
  have perm := (List.getElem_cons_eraseIdx_perm bound).map RpcRequest.id
  rw [found] at perm
  have first : self.pending.Perm (req.id::(self.inner.connectionSendRpc.map RpcRequest.id ++
      ((self.inner.delayed.eraseIdx index).map RpcRequest.id ++ self.data.map Prod.fst))) := by
    unfold pending
    refine (List.Perm.append_left _ (List.Perm.append_right _ perm.symm)).trans ?_
    exact List.perm_middle
  rcases Subscriptions.sendDelayed_cases
    {self.inner with delayed := self.inner.delayed.eraseIdx index} req with sent | dropped
  · rw [sent]
    apply ordered_moved self ordered _ _ self.data self.opened [] _ fewer
    refine first.trans ?_
    simp only [List.map_append,List.map_cons,List.map_nil,List.nil_append,List.append_assoc,
      List.singleton_append]
    exact List.perm_middle.symm
  · rw [dropped]
    exact ordered_moved self ordered _ _ self.data self.opened [req.id] first fewer

theorem answers_unsubscribe (self : Client) (target : String) (response : RpcResponse)
    (answer : self.Answers (.unsubscribe target) response) : ∃ success, response = .unsubscribeAck success := by
  cases response with
  | unsubscribeAck success => exact ⟨success,rfl⟩
  | _ => cases answer

/-- What is live after a response was live before it, or is the subscription that the
response brings. -/
theorem live_received (self : Client) (sound : Sound self) (ordered : Ordered self)
    (heard : .disconnected ∉ self.states) (index : Nat) (id : RpcId) (response : RpcResponse)
    (item : self.data[index]? = some (id,response)) (next : Subscriptions)
    (result : self.inner.Received id response next) (subscriptionId : String) (kind : SubscriptionKind)
    (live : next.Live subscriptionId kind) :
    self.inner.Live subscriptionId kind ∨
      response = .newSubscription subscriptionId ∧ self.inner.Awaits id kind := by
  obtain ⟨tracked,standing⟩ := live
  have answered := (sound.wired.answered id response (List.mem_of_getElem? item)).2
  have steady := sound.steady.landed id
  have landed : ∀ target, self.inner.Asks target → (self.inner.landed id).Asks target ∨
      self.inner.rpcIds.get id = some (.unsubscribe target) ∧ ∃ success, response = .unsubscribeAck success := by
    rintro target ⟨other,found⟩
    by_cases same : other = id
    · subst same
      have known := ordered.agrees heard other _ found
      exact .inr ⟨known,answers_unsubscribe self target response (answered _ known).2⟩
    · refine .inl ⟨other,?_⟩
      simp only [Subscriptions.landed,(RpcIdsInFlight.remove_spec self.inner.rpcIdsInFlight id).1]
      rw [HashMap.get_remove_ne _ _ _ same]
      exact found
  cases result with
  | ignored _ _ noAck =>
    refine .inl ⟨tracked,fun asks => ?_⟩
    rcases landed subscriptionId asks with still | ⟨known,success,ack⟩
    · exact standing still
    · exact absurd ((noAck subscriptionId success known ack).symm.trans tracked) (by simp)
  | unwanted target =>
    rw [Subscriptions.sendUnsubscribe_eq] at tracked
    refine .inl ⟨tracked,fun asks => ?_⟩
    rcases landed subscriptionId asks with still | ⟨_,success,ack⟩
    · exact standing (steady.asks_sendUnsubscribe target none subscriptionId (.inl still))
    · cases ack
  | subscribed new subscription known unmarked =>
    simp only [SubscriptionIds.insert,HashMap.get_insert] at tracked
    split at tracked
    · next same =>
      subst same
      cases tracked
      refine .inr ⟨rfl,?_⟩
      obtain ⟨present,_,_⟩ := ordered.owned id
        ((pending_taken self index id _ item).mem_iff.mpr List.mem_cons_self) kind known
      obtain ⟨state,found⟩ := Option.ne_none_iff_exists'.mp present
      cases state with
      | unsubscribeOnLand => exact absurd found unmarked
      | activateOnLand requestKind =>
        have agreed := ordered.agrees heard id requestKind found
        rw [known] at agreed
        cases agreed
        exact found
    · refine .inl ⟨tracked,fun asks => ?_⟩
      rcases landed subscriptionId asks with still | ⟨_,success,ack⟩
      · exact standing still
      · cases ack
  | unsubscribed target known =>
    simp only [SubscriptionIds.remove,HashMap.get_remove] at tracked
    split at tracked
    · cases tracked
    · next apart =>
      refine .inl ⟨tracked,fun asks => ?_⟩
      rcases landed subscriptionId asks with still | ⟨same,_⟩
      · exact standing still
      · rw [known] at same
        cases same
        exact apart rfl
  | refused target known =>
    rw [Subscriptions.sendUnsubscribe_eq] at tracked
    refine .inl ⟨tracked,fun asks => ?_⟩
    apply standing
    apply steady.asks_sendUnsubscribe
    rcases landed subscriptionId asks with still | ⟨same,_⟩
    · exact .inl still
    · rw [known] at same
      cases same
      exact .inr rfl

/-- The invariant of a thrifty run: in each category at most one subscription is live, and
then the category is enabled and no request for it is in flight. -/
structure Thrifty (client : Client) : Prop where
  sound : Sound client
  ordered : Ordered client
  alternates : (stateOf client.inner.isConnected::client.states).IsChain
    (fun first second => first = .connected → second = .disconnected)
  single : .disconnected ∉ client.states → ∀ first second kind other, client.inner.Live first kind →
    client.inner.Live second other → SubscriptionCategory.ofKind kind = SubscriptionCategory.ofKind other →
    first = second
  alone : .disconnected ∉ client.states → ∀ id kind, client.inner.Live id kind →
    client.inner.desired (SubscriptionCategory.ofKind kind) ≠ none ∧
      ∀ rpcId other, client.inner.Awaits rpcId other →
        SubscriptionCategory.ofKind other ≠ SubscriptionCategory.ofKind kind

/-- A resubscribing call of a connected client finds no connection change unprocessed and
no live subscription that it does not itself remove, and a connection is processed with no
later change unprocessed. -/
def Frugal (self : Client) : Act → Prop
  | .call call => call.resubscribes = true → self.inner.isConnected = true → self.states = [] ∧
      ∀ entry ∈ self.inner.live, call.unsubscribes = true ∧ SubscriptionCategory.ofKind entry.2 = call.category
  | .processState => self.states.head? = some .connected → self.states = [.connected]
  | _ => True

theorem thrifty_call (self : Client) (call : Call) (thrifty : Thrifty self)
    (frugal : self.Frugal (.call call)) : Thrifty {self with inner := call.apply self.inner} := by
  have sound := thrifty.sound
  have posts := Subscriptions.Posts.call self.inner call
  have before := Subscriptions.live_call self.inner call sound.steady sound.tracks
  refine ⟨sound_call self call sound,ordered_call self call sound thrifty.ordered ?_,?_,?_,?_⟩
  · intro again connected
    simp [(frugal again connected).1]
  · simp only [posts.flag]
    exact thrifty.alternates
  · intro heard first second kind other live another
    exact thrifty.single heard first second kind other (before first kind live).1 (before second other another).1
  · intro heard id kind live
    obtain ⟨old,apart⟩ := before id kind live
    have connected := thrifty.ordered.connected (.inl ⟨id,by rw [old.1]; simp⟩)
    cases again : call.resubscribes with
    | true =>
      obtain ⟨removes,own⟩ := (frugal again connected).2 (id,kind) ((self.inner.mem_live id kind).mpr old)
      exact absurd own (apart removes)
    | false =>
      have other := apart (Call.unsubscribes_of_last call again)
      obtain ⟨enabled,quiet⟩ := thrifty.alone heard id kind old
      refine ⟨?_,?_⟩
      · simp only [Call.desired_apply,Call.desired_retarget_other self.inner call _ other]
        exact enabled
      · intro rpcId asked awaits
        simp only [Call.left_of_last self.inner call again] at awaits
        exact quiet rpcId asked (Subscriptions.awaits_unsubscribe _ _ _ _ awaits).1

theorem thrifty_processState (self : Client) (state : ConnectionState) (rest : List ConnectionState)
    (queued : self.states = state::rest) (thrifty : Thrifty self) (frugal : self.Frugal .processState) :
    Thrifty {self with
      inner := self.inner.setIsConnected (state = .connected)
      states := rest} := by
  have last : state = .connected → rest = [] := by
    rintro rfl
    have only := frugal (by rw [queued]; rfl)
    rw [queued,List.cons.injEq] at only
    exact only.2
  have ordered := ordered_processState self state rest queued thrifty.ordered last
  have chain := thrifty.alternates
  rw [queued,List.isChain_cons_cons] at chain
  have online : Subscriptions.Posts (fun _ => False) {self.inner with isConnected := true}
      (self.inner.setIsConnected true) := .online self.inner
  have untracked : ∀ id, (self.inner.setIsConnected (state = .connected)).ids.lookup.get id = none := by
    intro id
    cases state with
    | connected =>
      have offline : self.inner.isConnected = false := by
        by_contra connected
        have never := chain.1 (by rw [stateOf,if_pos (by simpa using connected)])
        cases never
      rw [show (self.inner.setIsConnected (ConnectionState.connected = .connected)).ids = self.inner.ids
        from online.ids]
      exact (thrifty.ordered.offline offline).1 id
    | disconnected => exact HashMap.get_new id
  have dead : ∀ id kind, ¬(self.inner.setIsConnected (state = .connected)).Live id kind := by
    rintro id kind ⟨tracked,_⟩
    rw [untracked] at tracked
    cases tracked
  refine ⟨sound_processState self state rest queued thrifty.sound,ordered,?_,
    fun _ first _ kind _ live => absurd live (dead first kind),fun _ id kind live => absurd live (dead id kind)⟩
  have flag : stateOf (self.inner.setIsConnected (state = .connected)).isConnected = state := by
    cases state with
    | connected =>
      rw [show (self.inner.setIsConnected (ConnectionState.connected = .connected)).isConnected = true
        from online.flag]
      rfl
    | disconnected => rfl
  rw [flag]
  exact chain.2

theorem thrifty_receive (self : Client) (thrifty : Thrifty self) (index : Nat) (id : RpcId)
    (response : RpcResponse) (item : self.data[index]? = some (id,response)) :
    Thrifty {self.taken index id with inner := self.inner.onReceivedRpcResponse id response} := by
  have result := self.inner.received id response
  obtain ⟨desired,flag⟩ := result.aim
  have sound := thrifty.sound
  have live := fun heard => live_received self sound thrifty.ordered heard index id response item _ result
  refine ⟨sound_receive self sound index id response item,
    ordered_received self thrifty.ordered index id response item _ result,by rw [flag]; exact thrifty.alternates,
    ?_,?_⟩
  · intro heard first second kind other one two same
    rcases live heard first kind one with old | ⟨new,awaiting⟩
    · rcases live heard second other two with older | ⟨new,awaiting⟩
      · exact thrifty.single heard first second kind other old older same
      · exact absurd same.symm ((thrifty.alone heard first kind old).2 id other awaiting)
    · rcases live heard second other two with old | ⟨again,_⟩
      · exact absurd same ((thrifty.alone heard second other old).2 id kind awaiting)
      · rw [new] at again
        cases again
        rfl
  · intro heard subscriptionId kind alive
    rw [desired]
    rcases live heard subscriptionId kind alive with old | ⟨_,awaiting⟩
    · obtain ⟨enabled,quiet⟩ := thrifty.alone heard subscriptionId kind old
      exact ⟨enabled,fun rpcId other after => quiet rpcId other (result.awaits rpcId other after).2⟩
    · obtain ⟨aimed,recent⟩ := sound.steady.aimed id kind awaiting
      refine ⟨by rw [aimed]; simp,?_⟩
      intro rpcId other after same
      obtain ⟨apart,before⟩ := result.awaits rpcId other after
      have held := (sound.steady.aimed rpcId other before).2
      rw [same,recent] at held
      exact apart (Option.some.inj held).symm

/-- A step that leaves the tracked ids, the requests in flight and what is desired. -/
theorem Thrifty.same {self next : Client} (thrifty : Thrifty self) (sound : Sound next) (ordered : Ordered next)
    (alternates : (stateOf next.inner.isConnected::next.states).IsChain
      (fun first second => first = .connected → second = .disconnected))
    (heard : .disconnected ∉ next.states → .disconnected ∉ self.states)
    (ids : next.inner.ids = self.inner.ids) (flights : next.inner.rpcIdsInFlight = self.inner.rpcIdsInFlight)
    (desired : ∀ category, next.inner.desired category = self.inner.desired category) : Thrifty next := by
  have live : ∀ id kind, next.inner.Live id kind → self.inner.Live id kind := by
    intro id kind live
    unfold Subscriptions.Live Subscriptions.Asks at live ⊢
    rw [ids,flights] at live
    exact live
  refine ⟨sound,ordered,alternates,?_,?_⟩
  · intro absent first second kind other one two
    exact thrifty.single (heard absent) first second kind other (live first kind one) (live second other two)
  · intro absent id kind alive
    obtain ⟨enabled,quiet⟩ := thrifty.alone (heard absent) id kind (live id kind alive)
    refine ⟨by rw [desired]; exact enabled,?_⟩
    intro rpcId other awaits
    unfold Subscriptions.Awaits at awaits
    rw [flights] at awaits
    exact quiet rpcId other awaits

theorem alternates_push (self : Client) (thrifty : Thrifty self) (state : ConnectionState)
    (fits : state = .connected → self.up = false) :
    (stateOf self.inner.isConnected::(self.states ++ [state])).IsChain
      (fun first second => first = .connected → second = .disconnected) := by
  rw [← List.cons_append,List.isChain_append]
  refine ⟨thrifty.alternates,List.isChain_singleton _,?_⟩
  intro first last second only connected
  rw [thrifty.sound.reported] at last
  cases last
  cases only
  cases state with
  | disconnected => rfl
  | connected =>
    rw [fits rfl] at connected
    cases connected

theorem deliver_inner (self next : Client) (subscriptionId : String) (success : Bool)
    (sent : self.deliver subscriptionId success = some next) :
    next.states = self.states ∧
      ∃ connectionSendRpc, next.inner = {self.inner with connectionSendRpc} := by
  unfold deliver at sent
  split at sent
  · cases sent
  · simp only at sent
    split at sent
    · split at sent
      · split at sent
        · cases sent
          exact ⟨rfl,_,rfl⟩
        · cases sent
      · cases sent
        exact ⟨rfl,_,rfl⟩
    · cases sent
      exact ⟨rfl,_,rfl⟩

/-- Connection states are pushed, with nothing lost on the way. -/
theorem Ordered.push {self : Client} (ordered : Ordered self) (up : Bool) (connection : Nat)
    (states : List ConnectionState) (heard : .disconnected ∉ states → .disconnected ∉ self.states)
    (kept : self.inner.isConnected = true → .disconnected ∉ self.states → .disconnected ∉ states) :
    Ordered {self with
      up
      connection
      states} :=
  ⟨ordered.minted,ordered.distinct,ordered.waits,ordered.offline,fun id member kind found =>
    have ⟨held,connected,absent⟩ := ordered.owned id member kind found
    ⟨held,connected,kept connected absent⟩,fun absent => ordered.agrees (heard absent)⟩

theorem thrifty_step (self next : Client) (act : Act) (stepped : self.step act = some next)
    (frugal : self.Frugal act) (thrifty : Thrifty self) : Thrifty next := by
  have sound := sound_step self next act stepped thrifty.sound
  have ordered := thrifty.ordered
  have appended : ∀ state, .disconnected ∉ self.states ++ [state] → .disconnected ∉ self.states :=
    fun _ absent member => absent (List.mem_append_left _ member)
  have desired : ∀ rpcIds connectionSendRpc delayed category,
      {self.inner with rpcIds,connectionSendRpc,delayed}.desired category = self.inner.desired category := by
    intro rpcIds connectionSendRpc delayed category
    cases category <;> rfl
  have offline : self.up = false → .disconnected ∉ self.states → self.inner.isConnected = false := by
    intro down heard
    by_contra connected
    have up := thrifty.sound.up heard (by simpa using connected)
    rw [down] at up
    cases up
  cases act with
  | call call =>
    cases stepped
    exact thrifty_call self call thrifty frugal
  | connect =>
    simp only [step] at stepped
    split at stepped
    · cases stepped
    · next down =>
      cases stepped
      refine thrifty.same sound ?_ (alternates_push self thrifty .connected (fun _ => by simpa using down))
        (appended _) rfl rfl (fun _ => rfl)
      exact ordered.push true _ _ (appended _) (fun _ absent => by simpa using absent)
  | disconnect =>
    simp only [step] at stepped
    split at stepped
    · cases stepped
      refine thrifty.same sound ?_
        (alternates_push self thrifty .disconnected (fun impossible => by cases impossible)) (appended _) rfl rfl
        (desired _ _ _)
      exact ordered_clear self ordered false _ (fun absent => absurd
        (List.mem_append_right _ List.mem_cons_self) absent)
    · cases stepped
  | connectFails =>
    simp only [step] at stepped
    split at stepped
    · cases stepped
    · next down =>
      cases stepped
      refine thrifty.same sound ?_
        (alternates_push self thrifty .disconnected (fun impossible => by cases impossible)) (appended _) rfl rfl
        (fun _ => rfl)
      refine ordered.push self.up _ _ (appended _) ?_
      intro connected heard
      rw [offline (by simpa using down) heard] at connected
      cases connected
  | clearAll =>
    simp only [step] at stepped
    split at stepped
    · cases stepped
    · next down =>
      cases stepped
      exact thrifty.same sound (ordered_clear self ordered self.up self.states (offline (by simpa using down)))
        thrifty.alternates (fun absent => absent) rfl rfl (desired _ _ _)
  | deliver subscriptionId success =>
    obtain ⟨states,connectionSendRpc,inner⟩ := deliver_inner self next subscriptionId success stepped
    refine thrifty.same sound (ordered_deliver self next subscriptionId success stepped ordered) ?_ ?_ ?_ ?_ ?_
    · rw [inner,states]
      exact thrifty.alternates
    · rw [states]
      exact fun absent => absent
    · rw [inner]
    · rw [inner]
    · rw [inner]
      exact desired _ _ _
  | processState =>
    simp only [step] at stepped
    split at stepped
    · cases stepped
    · next state rest queued =>
      cases stepped
      exact thrifty_processState self state rest queued thrifty frugal
  | receive index =>
    simp only [step] at stepped
    split at stepped
    · cases stepped
    · next id response item =>
      cases stepped
      exact thrifty_receive self thrifty index id response item
  | delayPasses index =>
    simp only [step] at stepped
    split at stepped
    · cases stepped
    · next req item =>
      cases stepped
      have moved := ordered_delayPasses self index req item ordered
      rcases Subscriptions.sendDelayed_cases
        {self.inner with delayed := self.inner.delayed.eraseIdx index} req with sent | dropped
      · rw [sent] at sound moved ⊢
        exact thrifty.same sound moved thrifty.alternates (fun absent => absent) rfl rfl (desired _ _ _)
      · rw [dropped] at sound moved ⊢
        exact thrifty.same sound moved thrifty.alternates (fun absent => absent) rfl rfl (desired _ _ _)

theorem thrifty_new (keys : SlotKeys) : Thrifty (new keys) := by
  have dead : ∀ id kind, ¬(new keys).inner.Live id kind := by
    rintro id kind ⟨tracked,_⟩
    exact absurd ((HashMap.get_new id).symm.trans tracked) (by simp)
  refine ⟨sound_new keys,⟨?_,List.nodup_nil,?_,?_,?_,?_⟩,List.isChain_singleton _,
    fun _ first _ kind _ live => absurd live (dead first kind),fun _ id kind live => absurd live (dead id kind)⟩
  · intro id member
    cases member
  · intro req member
    cases member
  · intro _
    exact ⟨fun id => HashMap.get_new id,fun id => HashMap.get_new id⟩
  · intro id member
    cases member
  · intro _ id kind found
    exact absurd ((HashMap.get_new id).symm.trans found) (by simp)

/-- A connected client without a request in flight tracks at most one subscription of a
category, and none of a disabled one. -/
theorem Thrifty.tracks_enabled {self : Client} (thrifty : Thrifty self) (connected : self.Connected)
    (quiet : self.Quiet) :
    (∀ first second kind other, self.inner.ids.lookup.get first = some kind →
        self.inner.ids.lookup.get second = some other →
        SubscriptionCategory.ofKind kind = SubscriptionCategory.ofKind other → first = second) ∧
      ∀ id kind, self.inner.ids.lookup.get id = some kind →
        self.inner.desired (SubscriptionCategory.ofKind kind) ≠ none := by
  have heard : .disconnected ∉ self.states := by simp [connected.2]
  have live : ∀ id kind, self.inner.ids.lookup.get id = some kind → self.inner.Live id kind := by
    intro id kind tracked
    refine ⟨tracked,?_⟩
    rintro ⟨rpcId,found⟩
    rw [quiet rpcId] at found
    cases found
  refine ⟨?_,?_⟩
  · intro first second kind other one two
    exact thrifty.single heard first second kind other (live first kind one) (live second other two)
  · intro id kind tracked
    exact (thrifty.alone heard id kind (live id kind tracked)).1

instance (self : Client) (act : Act) : Decidable (self.Frugal act) :=
  match act with
  | .call _ => inferInstanceAs (Decidable (_ → _))
  | .processState => inferInstanceAs (Decidable (_ → _))
  | .connect => .isTrue trivial
  | .disconnect => .isTrue trivial
  | .connectFails => .isTrue trivial
  | .clearAll => .isTrue trivial
  | .deliver _ _ => .isTrue trivial
  | .receive _ => .isTrue trivial
  | .delayPasses _ => .isTrue trivial

end Client

end Warpdrive.Trigger.EvmStream
