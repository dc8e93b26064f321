import Warpdrive.Trigger.Feed

/-! Which logs reach the consumer of an EVM stream client while the log filter is widened.
`enable_logs` removes the active subscription before it asks for the new one, and gives up a
subscription whose answer has not been received yet. So a log is passed on exactly once if it
was given to a subscription that the client has recorded, and not at all otherwise. -/
namespace Warpdrive.Trigger.EvmStream

open Warpdrive.Foundation Warpdrive.Types Warpdrive.Foundation.Execution Warpdrive.Foundation.Handover

namespace Subscriptions

/-- The requests without a received answer: those answered by a message under way, those
that wait for their delay and those not yet taken by the server. -/
def pending (self : Subscriptions) (data : List RpcInbound) : List RpcId :=
  data.filterMap RpcInbound.answers ++ (self.delayed.map RpcRequest.id ++
    self.connectionSendRpc.map RpcRequest.id)

/-- Every request without a received answer is in flight under an rpc id of its own. -/
structure Wired (inner : Subscriptions) (data : List RpcInbound) : Prop where
  steady : inner.Steady
  aware : inner.Aware
  known : ∀ req ∈ inner.connectionSendRpc ++ inner.delayed, inner.rpcIds.get req.id = some req.requestKind
  retries : ∀ req ∈ inner.delayed, ∃ id subscriptionId, req = .unsubscribe id subscriptionId
  distinct : (inner.pending data).Nodup
  flying : ∀ id ∈ inner.pending data, inner.rpcIdsInFlight.lookup.get id ≠ none

namespace Wired

variable {inner next : Subscriptions} {data : List RpcInbound}

theorem minted (wired : Wired inner data) (id : RpcId) (member : id ∈ inner.pending data) :
    inner.rpcIds.Minted id :=
  wired.steady.flying id (wired.flying id member)

theorem minted_data (wired : Wired inner data) (message : RpcInbound) (member : message ∈ data) (id : RpcId)
    (answers : id ∈ message.answers) : inner.rpcIds.Minted id :=
  wired.minted id (List.mem_append_left _ (List.mem_filterMap.mpr ⟨message,member,answers⟩))

theorem mem_pending (req : RpcRequest) (member : req ∈ inner.connectionSendRpc ++ inner.delayed) :
    req.id ∈ inner.pending data := by
  apply List.mem_append_right
  rcases List.mem_append.mp member with queued | waiting
  · exact List.mem_append_right _ (List.mem_map_of_mem queued)
  · exact List.mem_append_left _ (List.mem_map_of_mem waiting)

/-- Sent requests come after all others. -/
theorem sends {base : Subscriptions} (wired : Wired base data) {sent later : List RpcRequest}
    (sends : Sends base next sent later) (steady : next.Steady)
    (retries : ∀ req ∈ later, ∃ id subscriptionId, req = .unsubscribe id subscriptionId) :
    Wired next data := by
  have arranged : (next.pending data).Perm (base.pending data ++ (sent ++ later).map RpcRequest.id) := by
    unfold pending
    rw [sends.queue,sends.delayed,List.perm_iff_count]
    intro id
    simp only [List.map_append,List.count_append]
    omega
  have new : ∀ req ∈ sent ++ later, req.id ∉ base.pending data := by
    intro req member old
    exact (sends.id_minted req member).2 (wired.minted req.id old)
  refine ⟨steady,?_,?_,?_,?_,?_⟩
  · intro id kind state
    by_cases older : base.rpcIds.Minted id
    · rw [sends.flight id older] at state
      rw [sends.older id older]
      exact wired.aware id kind state
    · have flying := steady.flying id (by rw [state]; exact Option.some_ne_none _)
      obtain ⟨req,member,same⟩ := List.mem_map.mp ((sends.mem_ids id).mpr ⟨flying,older⟩)
      have found := sends.flying req member
      rw [same,state,Option.some.injEq,RpcFlightState.activateOnLand.injEq] at found
      rw [← same,sends.known req member,found]
  · intro req member
    rw [sends.queue,sends.delayed,List.mem_append,List.mem_append,List.mem_append] at member
    have cases : req ∈ base.connectionSendRpc ++ base.delayed ∨ req ∈ sent ++ later := by
      simp only [List.mem_append]
      tauto
    rcases cases with old | made
    · rw [sends.older req.id (wired.minted req.id (mem_pending req old))]
      exact wired.known req old
    · exact sends.known req made
  · intro req member
    rw [sends.delayed] at member
    rcases List.mem_append.mp member with old | made
    · exact wired.retries req old
    · exact retries req made
  · rw [arranged.nodup_iff,List.nodup_append]
    refine ⟨wired.distinct,sends.ids_nodup,?_⟩
    intro id old other made same
    subst same
    obtain ⟨req,member,rfl⟩ := List.mem_map.mp made
    exact new req member old
  · intro id member
    rcases List.mem_append.mp (arranged.mem_iff.mp member) with old | made
    · rw [sends.flight id (wired.minted id old)]
      exact wired.flying id old
    · obtain ⟨req,inside,rfl⟩ := List.mem_map.mp made
      rw [sends.flying req inside]
      exact Option.some_ne_none _

theorem activate_of_setUnsubscribe (self : RpcIdsInFlight) (category : SubscriptionCategory) (id : RpcId)
    (kind : RpcRequestKind)
    (found : (self.setUnsubscribe category).lookup.get id = some (.activateOnLand kind)) :
    self.lookup.get id = some (.activateOnLand kind) := by
  simp only [RpcIdsInFlight.setUnsubscribe,HashMap.get_mapValues] at found
  obtain ⟨state,held,same⟩ := Option.map_eq_some_iff.mp found
  rw [held]
  cases state with
  | unsubscribeOnLand => cases same
  | activateOnLand other =>
    simp only at same
    split at same
    · split at same
      · cases same
      · rw [same]
    · rw [same]

/-- A call marks what is in flight and sends its requests. -/
theorem marks (wired : Wired inner data) (call : Call) (leaves : call.unsubscribes = true) :
    Wired (call.base inner) data := by
  have same : call.base inner = (call.retarget inner).marked call.category := by
    rw [Call.base,if_pos leaves]
  rw [same]
  refine ⟨call.steady_marked inner wired.steady,?_,wired.known,wired.retries,wired.distinct,?_⟩
  · intro id kind state
    exact wired.aware id kind (activate_of_setUnsubscribe _ _ id kind state)
  · intro id member
    exact (RpcIdsInFlight.get_setUnsubscribe_ne_none _ _ id).mpr (wired.flying id member)

theorem call (wired : Wired inner data) (call : Call) (leaves : call.unsubscribes = true) :
    Wired (call.apply inner) data := by
  obtain ⟨asked,opened,sends,_⟩ := call.sends inner
  exact (wired.marks call leaves).sends sends (call.steady_apply inner wired.steady) (by simp)

/-- A response is received. -/
theorem landed (id : RpcId) (result : Except RpcError RpcResponse)
    (wired : Wired inner (.response id result::data)) (ids : SubscriptionIds) :
    Wired {inner.landed id with ids} data := by
  obtain ⟨apart,distinct⟩ := List.nodup_cons.mp wired.distinct
  have lookup : ∀ other, (inner.landed id).rpcIdsInFlight.lookup.get other =
      if other = id then none else inner.rpcIdsInFlight.lookup.get other := by
    intro other
    simp only [Subscriptions.landed,(RpcIdsInFlight.remove_spec _ id).1,HashMap.get_remove]
  refine ⟨(wired.steady.landed id).withIds ids,?_,wired.known,wired.retries,distinct,?_⟩
  · intro other kind state
    change (inner.landed id).rpcIdsInFlight.lookup.get other = _ at state
    rw [lookup other] at state
    split at state
    · cases state
    · exact wired.aware other kind state
  · intro other member
    change (inner.landed id).rpcIdsInFlight.lookup.get other ≠ none
    have differ : other ≠ id := fun same => apart (same ▸ member)
    rw [lookup other,if_neg differ]
    exact wired.flying other (List.mem_cons_of_mem _ member)

theorem response (id : RpcId) (response : RpcResponse) (wired : Wired inner (.response id (.ok response)::data)) :
    Wired (inner.onReceivedRpcResponse id response) data := by
  have result := inner.received id response
  obtain ⟨sent,later,sends,asks⟩ := result.sends
  exact (wired.landed id _ _).sends sends (wired.steady.received id response result)
    (fun req member => asks req (List.mem_append_right _ member))

/-- The delay of a request passes: it is queued, or it is dropped. -/
theorem delayPasses (wired : Wired inner data) (index : Nat) (passed : inner.delayPasses index = some next) :
    Wired next data := by
  have steady := wired.steady.delayPasses index passed
  obtain ⟨req,item,sent,choice,rfl⟩ := Subscriptions.delayPasses_cases inner next index passed
  have inside : ∀ other ∈ sent, other = req := by
    rcases choice with rfl | rfl <;> simp
  have fewer : ∀ other ∈ inner.connectionSendRpc ++ sent ++ inner.delayed.eraseIdx index,
      other ∈ inner.connectionSendRpc ++ inner.delayed := by
    intro other member
    rcases List.mem_append.mp member with queued | waiting
    · rcases List.mem_append.mp queued with old | made
      · exact List.mem_append_left _ old
      · rw [inside other made]
        exact List.mem_append_right _ (List.mem_of_getElem? item)
    · exact List.mem_append_right _ (List.mem_of_mem_eraseIdx waiting)
  have shuffled : (inner.delayed.eraseIdx index ++ sent).Subperm inner.delayed := by
    obtain ⟨inbounds,rfl⟩ := List.getElem?_eq_some_iff.mp item
    have whole := List.getElem_cons_eraseIdx_perm inbounds
    rcases choice with rfl | rfl
    · exact ((List.perm_append_singleton _ _).trans whole).subperm
    · rw [List.append_nil]
      exact (List.eraseIdx_sublist _ _).subperm
  have smaller : ({inner with
      connectionSendRpc := inner.connectionSendRpc ++ sent
      delayed := inner.delayed.eraseIdx index}.pending data).Subperm (inner.pending data) := by
    unfold pending
    rw [List.subperm_append_left]
    have arranged : ((inner.delayed.eraseIdx index).map RpcRequest.id ++
        (inner.connectionSendRpc ++ sent).map RpcRequest.id).Perm
          ((inner.delayed.eraseIdx index ++ sent).map RpcRequest.id ++ inner.connectionSendRpc.map RpcRequest.id) := by
      rw [List.perm_iff_count]
      intro id
      simp only [List.map_append,List.count_append]
      omega
    refine arranged.subperm.trans ?_
    rw [List.subperm_append_right]
    obtain ⟨list,perm,sub⟩ := shuffled
    exact ⟨list.map RpcRequest.id,perm.map RpcRequest.id,sub.map RpcRequest.id⟩
  refine ⟨steady,wired.aware,?_,?_,?_,?_⟩
  · intro other member
    exact wired.known other (fewer other member)
  · intro other member
    exact wired.retries other (List.mem_of_mem_eraseIdx member)
  · obtain ⟨list,perm,sub⟩ := smaller
    exact perm.nodup_iff.mp (wired.distinct.sublist sub)
  · intro id member
    exact wired.flying id (smaller.subset member)

/-- The server takes a request and answers it. -/
theorem handled (wired : Wired inner data) (req : RpcRequest) (rest : List RpcRequest)
    (queued : inner.connectionSendRpc = req::rest) (result : Except RpcError RpcResponse) :
    Wired {inner with connectionSendRpc := rest} (data ++ [.response req.id result]) := by
  have fewer : ∀ other ∈ rest ++ inner.delayed, other ∈ inner.connectionSendRpc ++ inner.delayed := by
    intro other member
    rw [queued]
    exact List.mem_cons_of_mem _ member
  have arranged : (pending {inner with connectionSendRpc := rest}
      (data ++ [RpcInbound.response req.id result])).Perm (inner.pending data) := by
    unfold pending
    rw [queued,List.perm_iff_count]
    intro id
    simp only [List.filterMap_append,List.filterMap_cons,List.filterMap_nil,RpcInbound.answers,
      List.map_cons,List.count_append,List.count_cons,List.count_nil]
    omega
  exact ⟨Client.steady_requests inner wired.steady rest inner.delayed fewer,wired.aware,
    fun other member => wired.known other (fewer other member),wired.retries,
    arranged.nodup_iff.mpr wired.distinct,fun id member => wired.flying id (arranged.mem_iff.mp member)⟩

/-- Messages that answer nothing change nothing. -/
theorem quiet (more : List RpcInbound) (plain : ∀ message ∈ more, message.answers = none) (first : List RpcInbound) :
    Wired inner (first ++ more) ↔ Wired inner first := by
  have same : inner.pending (first ++ more) = inner.pending first := by
    unfold pending
    rw [List.filterMap_append,List.filterMap_eq_nil_iff.mpr plain,List.append_nil]
  constructor
  · rintro ⟨steady,aware,known,retries,distinct,flying⟩
    exact ⟨steady,aware,known,retries,same ▸ distinct,same ▸ flying⟩
  · rintro ⟨steady,aware,known,retries,distinct,flying⟩
    exact ⟨steady,aware,known,retries,same.symm ▸ distinct,same.symm ▸ flying⟩

end Wired

/-- Two requests for logs that are to be activated are the same one. -/
theorem Steady.lands_unique {self : Subscriptions} (steady : self.Steady) (first second : RpcId)
    (one : self.lands first = true) (two : self.lands second = true) : first = second := by
  obtain ⟨_,_,awaits⟩ := (self.lands_iff first).mp one
  obtain ⟨_,_,again⟩ := (self.lands_iff second).mp two
  have recent := (steady.aimed first _ awaits).2
  have also := (steady.aimed second _ again).2
  exact Option.some.inj (recent.symm.trans also)

/-- A call that removes the log subscriptions gives up what is in flight for them. -/
theorem not_lands_call (self : Subscriptions) (call : Call) (leaves : call.unsubscribes = true)
    (logs : call.category = .allLogs) (id : RpcId) (minted : self.rpcIds.Minted id) :
    (call.apply self).lands id = false := by
  obtain ⟨asked,opened,sends,_⟩ := call.sends self
  obtain ⟨_,_,_,rpcIds,_⟩ := call.base_frame self
  rw [Bool.eq_false_iff]
  intro lands
  obtain ⟨addresses,topics,awaits⟩ := ((call.apply self).lands_iff id).mp lands
  unfold Awaits RpcIdsInFlight.Awaits at awaits
  rw [sends.flight id (rpcIds ▸ minted),Call.base,if_pos leaves] at awaits
  exact ((RpcIdsInFlight.awaits_setUnsubscribe _ _ _ _).mp awaits).2 logs.symm

end Subscriptions

namespace Feed

def turns (self : Feed) : List (Turn String Log) := self.data.map self.loop.inner.turn

/-- The subscriptions active at the server. -/
def sources (self : Feed) : Set String := {id | id ∈ self.active.map Prod.fst}

def landed (self : Feed) : Set String := {id | id ∈ self.tracked}

structure Sound (feed : Feed) : Prop where
  wired : feed.loop.inner.Wired feed.data
  tracks : feed.loop.inner.ids.Tracks
  landing : (feed.data.filterMap RpcInbound.opens).Nodup
  fresh : ∀ id ∈ feed.data.filterMap RpcInbound.opens, feed.loop.inner.ids.lookup.get id = none
  tracked : ∀ id ∈ feed.tracked, id ∈ feed.opened
  active : ∀ id ∈ feed.active.map Prod.fst, id ∈ feed.opened
  given : ∀ id ∈ feed.data.filterMap RpcInbound.opens, id ∈ feed.opened
  delivered : ∀ entry ∈ feed.deliveries, entry.1 ∈ feed.opened ∧ entry.2 ∈ feed.emitted
  known : ∀ id, feed.loop.inner.ids.lookup.get id ≠ none → id ∈ feed.opened
  recorded : ∀ id ∈ feed.loop.inner.ids.listByCategory .allLogs, id ∈ feed.tracked
  separate : (feed.active.map Prod.fst).Nodup
  orderly : Orderly feed.landed feed.sources (feed.loop.inner.ids.mostRecent .allLogs) feed.turns
  accounted : Accounted feed.landed feed.turns feed.deliveries feed.loop.logs
  waiting : ∀ first id params rest,
    feed.loop.inner.connectionSendRpc = first ++ .subscribe id params::rest →
      feed.loop.inner.lands id = true → ∀ source ∈ feed.sources, Kept feed.landed feed.turns source →
        ∃ rpcId, .unsubscribe rpcId source ∈ first

/-- What comes before an element that is not in the first part has all of the first part. -/
theorem mem_of_split {T : Type} (xs ys first rest : List T) (z : T) (split : xs ++ ys = first ++ z::rest)
    (absent : z ∉ xs) : ∀ x ∈ xs, x ∈ first := by
  rcases List.append_eq_append_iff.mp split with ⟨between,same,_⟩ | ⟨between,same,later⟩
  · intro x member
    rw [same]
    exact List.mem_append_left _ member
  · cases between with
    | nil =>
      rw [List.append_nil] at same
      exact fun x member => same ▸ member
    | cons head others =>
      cases later
      exact absurd (same ▸ List.mem_append_right _ List.mem_cons_self) absent

/-- An element that is not in the last part stands at the same place in the first. -/
theorem split_first {T : Type} (xs ys first rest : List T) (z : T) (split : xs ++ ys = first ++ z::rest)
    (absent : z ∉ ys) : ∃ others, xs = first ++ z::others := by
  rcases List.append_eq_append_iff.mp split with ⟨between,_,later⟩ | ⟨between,same,later⟩
  · exact absurd (later ▸ List.mem_append_right _ List.mem_cons_self) absent
  · cases between with
    | nil =>
      rw [List.nil_append] at later
      exact absurd (later ▸ List.mem_cons_self) absent
    | cons head others =>
      cases later
      exact ⟨others,same⟩

theorem turns_lands (self : Feed) (id : String) (lands : .lands id ∈ self.turns) :
    id ∈ self.data.filterMap RpcInbound.opens := by
  obtain ⟨message,member,same⟩ := List.mem_map.mp lands
  exact List.mem_filterMap.mpr ⟨message,member,Subscriptions.turn_lands _ _ _ same⟩

theorem Sound.turns_event {self : Feed} (sound : Sound self) (id : String) (log : Log)
    (event : .event id log ∈ self.turns) : id ∈ self.opened := by
  obtain ⟨done,split,_⟩ := sound.accounted.read
  apply (sound.delivered (id,log) _).1
  rw [split]
  exact List.mem_append_right _ (List.mem_filterMap.mpr ⟨_,event,rfl⟩)

theorem Sound.kept_opened {self : Feed} (sound : Sound self) (id : String)
    (kept : Kept self.landed self.turns id) : id ∈ self.opened := by
  rcases kept with held | lands
  · exact sound.tracked id held
  · exact sound.given id (self.turns_lands id lands)

/-- The filter is widened: what is under way loses its claim, the active subscriptions are
asked to leave, and only then the new one is asked for. -/
theorem Sound.enableLogs {self : Feed} (sound : Sound self) (addresses : List Address)
    (topics : List (FixedBytes 32)) : Sound (self.withInner (self.loop.inner.enableLogs addresses topics)) := by
  let call : Call := .enableLogs addresses topics
  change Sound (self.withInner (call.apply self.loop.inner))
  obtain ⟨asked,subscribes,sends,targets,leaving,_⟩ := call.sends self.loop.inner
  obtain ⟨queue,_,ids,rpcIds,_⟩ := call.base_frame self.loop.inner
  have sameIds : (call.apply self.loop.inner).ids = self.loop.inner.ids := sends.ids.trans ids
  have stays := Subscriptions.not_lands_call self.loop.inner call rfl rfl
  have turns : (self.withInner (call.apply self.loop.inner)).turns = self.turns.map Turn.mute := by
    unfold Feed.turns
    rw [List.map_map]
    apply List.map_congr_left
    intro message member
    apply Subscriptions.turn_mute self.loop.inner
    · intro id answers
      exact stays id (sound.wired.minted_data message member id answers)
    · intro id answers
      change (call.apply self.loop.inner).rpcIds.get id = _
      rw [sends.older id (rpcIds ▸ sound.wired.minted_data message member id answers),rpcIds]
  have orderly : Orderly self.landed self.sources (self.loop.inner.ids.mostRecent .allLogs)
      (self.turns.map Turn.mute) := sound.orderly.mute
  refine ⟨sound.wired.call call rfl,sameIds.symm ▸ sound.tracks,sound.landing,?_,sound.tracked,sound.active,
    sound.given,sound.delivered,?_,?_,sound.separate,?_,?_,?_⟩
  · intro id member
    change (call.apply self.loop.inner).ids.lookup.get id = none
    rw [sameIds]
    exact sound.fresh id member
  · intro id found
    change (call.apply self.loop.inner).ids.lookup.get id ≠ none at found
    rw [sameIds] at found
    exact sound.known id found
  · intro id member
    change id ∈ (call.apply self.loop.inner).ids.listByCategory .allLogs at member
    rw [sameIds] at member
    exact sound.recorded id member
  · rw [turns]
    change Orderly self.landed self.sources ((call.apply self.loop.inner).ids.mostRecent .allLogs) _
    rw [sameIds]
    exact orderly
  · rw [turns]
    exact sound.accounted.mute
  · intro first id params rest split lands source active kept
    rw [turns] at kept
    change (call.apply self.loop.inner).connectionSendRpc = _ at split
    rw [sends.queue,queue,← List.append_assoc] at split
    have absent : .subscribe id params ∉ self.loop.inner.connectionSendRpc ++ asked := by
      intro member
      rcases List.mem_append.mp member with old | leaves
      · have minted := sound.wired.minted id
          (Subscriptions.Wired.mem_pending (.subscribe id params) (List.mem_append_left _ old))
        have gone := stays id minted
        change (call.apply self.loop.inner).lands id = true at lands
        rw [gone] at lands
        cases lands
      · obtain ⟨_,_,same⟩ := leaving _ leaves
        cases same
    have silent : .lands source ∉ self.turns.map Turn.mute := by
      intro member
      obtain ⟨turn,_,same⟩ := List.mem_map.mp member
      exact turn.mute_ne_lands source same
    have follows := recent_start _ _ source silent (orderly.rests source active kept)
    obtain ⟨kind,found,category⟩ := sound.tracks.recent .allLogs source follows
    have listed := (sound.tracks.listed .allLogs source).mpr ⟨kind,found,category⟩
    obtain ⟨rpcId,request⟩ := (targets source).mpr ⟨rfl,listed⟩
    exact ⟨rpcId,mem_of_split _ _ first rest _ split absent _ (List.mem_append_right _ request)⟩

/-- An event of a kept subscription. -/
theorem Sound.emit {self : Feed} (sound : Sound self) (log : Log) (new : log ∉ self.emitted) :
    Sound (self.emit log) := by
  have plain : ∀ message ∈ (self.recipients log).map (fun id => RpcInbound.subscription id (.ok (.logs log))),
      message.answers = none := by
    intro message member
    obtain ⟨id,_,rfl⟩ := List.mem_map.mp member
    rfl
  have opens : (self.emit log).data.filterMap RpcInbound.opens = self.data.filterMap RpcInbound.opens := by
    have none : ((self.recipients log).map
        (fun id => RpcInbound.subscription id (.ok (.logs log)))).filterMap RpcInbound.opens = [] := by
      rw [List.filterMap_eq_nil_iff]
      intro message member
      obtain ⟨id,_,rfl⟩ := List.mem_map.mp member
      rfl
    exact (List.filterMap_append).trans (by rw [none,List.append_nil])
  have turns : (self.emit log).turns = self.turns ++ (self.recipients log).map (fun id => .event id log) := by
    unfold Feed.turns Feed.emit
    rw [List.map_append,List.map_map]
    rfl
  have members : ∀ id ∈ self.recipients log, id ∈ self.sources := by
    intro id member
    obtain ⟨entry,inside,rfl⟩ := List.mem_map.mp member
    exact List.mem_map_of_mem (List.mem_filter.mp inside).1
  have distinct : (self.recipients log).Nodup := sound.separate.sublist (List.filter_sublist.map _)
  refine ⟨(Subscriptions.Wired.quiet _ plain _).mpr sound.wired,sound.tracks,?_,?_,sound.tracked,sound.active,
    ?_,?_,sound.known,sound.recorded,sound.separate,?_,?_,?_⟩
  · rw [opens]
    exact sound.landing
  · rw [opens]
    exact sound.fresh
  · rw [opens]
    exact sound.given
  · intro entry member
    rcases List.mem_append.mp member with old | last
    · obtain ⟨opened,emitted⟩ := sound.delivered entry old
      exact ⟨opened,List.mem_append_left _ emitted⟩
    · obtain ⟨id,inside,rfl⟩ := List.mem_map.mp last
      exact ⟨sound.active id (members id inside),List.mem_append_right _ (List.mem_singleton_self log)⟩
  · rw [turns]
    exact sound.orderly.give _ log members
  · rw [turns]
    apply sound.accounted.give sound.orderly _ log distinct members
    intro entry member same
    exact new (same ▸ (sound.delivered entry member).2)
  · intro first id params rest split lands source active kept
    rw [turns] at kept
    apply sound.waiting first id params rest split lands source active
    rcases kept with held | landing
    · exact .inl held
    · exact .inr ((List.mem_append.mp landing).resolve_right (by simp))

theorem Sound.queue_nodup {self : Feed} (sound : Sound self) :
    (self.loop.inner.connectionSendRpc.map RpcRequest.id).Nodup := by
  have distinct := sound.wired.distinct
  unfold Subscriptions.pending at distinct
  exact (List.nodup_append.mp (List.nodup_append.mp distinct).2.1).2.1

/-- A subscription is opened. If its request is still wanted, no kept subscription is
active any more, since the request came after those that remove them. -/
theorem Sound.subscribe {self : Feed} (sound : Sound self) (id : RpcId) (params : SubscribeParams)
    (rest : List RpcRequest) (queued : self.loop.inner.connectionSendRpc = .subscribe id params::rest)
    (subscriptionId : String) (new : subscriptionId ∉ self.opened) :
    Sound {self.withInner {self.loop.inner with connectionSendRpc := rest} with
      active := self.active ++ [(subscriptionId,params.kind)]
      data := self.data ++ [.response id (.ok (.newSubscription subscriptionId))]
      opened := self.opened ++ [subscriptionId]} := by
  let message : RpcInbound := .response id (.ok (.newSubscription subscriptionId))
  let turn : Turn String Log := self.loop.inner.turn message
  have turns : (self.data ++ [message]).map self.loop.inner.turn = self.turns ++ [turn] := List.map_append
  have opens : (self.data ++ [message]).filterMap RpcInbound.opens =
      self.data.filterMap RpcInbound.opens ++ [subscriptionId] := List.filterMap_append
  have sources : ∀ source, source ∈ (self.active ++ [(subscriptionId,params.kind)]).map Prod.fst ↔
      source ∈ self.sources ∨ source = subscriptionId := by
    intro source
    rw [List.map_append,List.mem_append,List.map_singleton,List.mem_singleton]
    exact Iff.rfl
  have turn_eq : turn = if self.loop.inner.lands id then .lands subscriptionId else .idle := rfl
  have lands_only : ∀ other, turn = .lands other → other = subscriptionId ∧ self.loop.inner.lands id = true := by
    intro other same
    rw [turn_eq] at same
    split at same
    · next lands =>
      cases same
      exact ⟨rfl,lands⟩
    · cases same
  have unkept : ¬Kept self.landed self.turns subscriptionId := fun kept => new (sound.kept_opened _ kept)
  refine ⟨sound.wired.handled (.subscribe id params) rest queued _,sound.tracks,?_,?_,?_,?_,?_,?_,?_,
    sound.recorded,?_,?_,?_,?_⟩
  · rw [opens,List.nodup_append]
    refine ⟨sound.landing,List.nodup_singleton _,?_⟩
    intro other old last member same
    rw [List.mem_singleton.mp member] at same
    exact new (same ▸ sound.given other old)
  · intro other member
    rw [opens] at member
    rcases List.mem_append.mp member with old | last
    · exact sound.fresh other old
    · rw [List.mem_singleton.mp last]
      by_contra found
      exact new (sound.known subscriptionId found)
  · exact fun other member => List.mem_append_left _ (sound.tracked other member)
  · intro other member
    rcases (sources other).mp member with old | same
    · exact List.mem_append_left _ (sound.active other old)
    · exact List.mem_append_right _ (List.mem_singleton.mpr same)
  · intro other member
    rw [opens] at member
    exact (List.mem_append.mp member).elim (fun old => List.mem_append_left _ (sound.given other old))
      (List.mem_append_right _)
  · intro entry member
    obtain ⟨opened,emitted⟩ := sound.delivered entry member
    exact ⟨List.mem_append_left _ opened,emitted⟩
  · exact fun other found => List.mem_append_left _ (sound.known other found)
  · change ((self.active ++ [(subscriptionId,params.kind)]).map Prod.fst).Nodup
    rw [List.map_append,List.nodup_append]
    refine ⟨sound.separate,List.nodup_singleton _,?_⟩
    intro other old last member same
    rw [List.mem_singleton.mp member] at same
    change other = subscriptionId at same
    exact new (same ▸ sound.active other old)
  · change Orderly self.landed _ _ ((self.data ++ [message]).map self.loop.inner.turn)
    rw [turns]
    apply sound.orderly.extend turn
    · intro other item same
      rw [turn_eq] at same
      split at same <;> cases same
    · intro other same
      obtain ⟨rfl,_⟩ := lands_only other same
      exact ⟨fun held => new (sound.tracked _ held),
        fun lands => new (sound.given _ (self.turns_lands _ lands)),
        fun log event => new (sound.turns_event _ log event)⟩
    · intro source member kept
      by_cases lands : self.loop.inner.lands id = true
      · rw [turn_eq,if_pos lands] at kept ⊢
        rcases (sources source).mp member with old | same
        · rcases kept with held | last
          · obtain ⟨rpcId,never⟩ := sound.waiting [] id params rest queued lands source old held
            cases never
          · cases last
            rfl
        · rw [same]
          rfl
      · rw [turn_eq,if_neg lands] at kept ⊢
        have held := kept.resolve_right (by simp)
        rcases (sources source).mp member with old | same
        · exact sound.orderly.rests source old held
        · exact absurd (same ▸ held) unkept
  · change Accounted self.landed ((self.data ++ [message]).map self.loop.inner.turn) _ _
    rw [turns]
    apply sound.accounted.extend turn
    · rw [turn_eq]
      split <;> rfl
    · intro entry member same
      exact new ((lands_only _ same).1 ▸ (sound.delivered entry member).1)
  · intro first other otherParams later split lands source member kept
    change rest = _ at split
    change self.loop.inner.lands other = true at lands
    change Kept self.landed ((self.data ++ [message]).map self.loop.inner.turn) source at kept
    rw [turns] at kept
    rcases (kept_append _ _ _ _).mp kept with held | last
    · rcases (sources source).mp member with old | same
      · have whole : self.loop.inner.connectionSendRpc =
            (.subscribe id params::first) ++ .subscribe other otherParams::later := by
          rw [queued,split,List.cons_append]
        obtain ⟨rpcId,request⟩ := sound.waiting _ other otherParams later whole lands source old held
        refine ⟨rpcId,(List.mem_cons.mp request).resolve_left ?_⟩
        intro same
        cases same
      · exact absurd (same ▸ held) unkept
    · have unique := sound.wired.steady.lands_unique id other (lands_only _ last).2 lands
      have distinct := sound.queue_nodup
      rw [queued,split,List.map_cons,List.nodup_cons] at distinct
      refine absurd ?_ distinct.1
      rw [List.map_append,List.map_cons]
      exact List.mem_append_right _ (unique ▸ List.mem_cons_self)

/-- A subscription is removed, or was not there. -/
theorem Sound.unsubscribe {self : Feed} (sound : Sound self) (id : RpcId) (target : String)
    (rest : List RpcRequest) (queued : self.loop.inner.connectionSendRpc = .unsubscribe id target::rest) :
    Sound {self.withInner {self.loop.inner with connectionSendRpc := rest} with
      active := self.active.filter (fun entry => entry.1 ≠ target)
      data := self.data ++ [.response id (.ok (.unsubscribeAck (target ∈ self.active.map Prod.fst)))]} := by
  let message : RpcInbound := .response id (.ok (.unsubscribeAck (target ∈ self.active.map Prod.fst)))
  let turn : Turn String Log := self.loop.inner.turn message
  have turns : (self.data ++ [message]).map self.loop.inner.turn = self.turns ++ [turn] := List.map_append
  have opens : (self.data ++ [message]).filterMap RpcInbound.opens = self.data.filterMap RpcInbound.opens := by
    rw [List.filterMap_append]
    exact List.append_nil _
  have sources : ∀ source, source ∈ (self.active.filter (fun entry => entry.1 ≠ target)).map Prod.fst →
      source ∈ self.sources ∧ source ≠ target := by
    intro source member
    obtain ⟨entry,inside,rfl⟩ := List.mem_map.mp member
    obtain ⟨held,apart⟩ := List.mem_filter.mp inside
    exact ⟨List.mem_map_of_mem held,by simpa using apart⟩
  have kind : self.loop.inner.rpcIds.get id = some (.unsubscribe target) := by
    apply sound.wired.known (.unsubscribe id target)
    rw [queued]
    exact List.mem_append_left _ List.mem_cons_self
  have turn_eq : turn = .leaves target ∨ turn = .idle := by
    by_cases here : target ∈ self.active.map Prod.fst
    · left
      simp only [turn,message,here,decide_true,Subscriptions.turn,kind]
    · right
      simp only [turn,message,here,decide_false,Subscriptions.turn]
  have silent : ∀ other, turn ≠ .lands other := by
    intro other same
    rcases turn_eq with leaves | idle
    · rw [leaves] at same
      cases same
    · rw [idle] at same
      cases same
  have plain : ∀ other item, turn ≠ .event other item := by
    intro other item same
    rcases turn_eq with leaves | idle
    · rw [leaves] at same
      cases same
    · rw [idle] at same
      cases same
  refine ⟨sound.wired.handled (.unsubscribe id target) rest queued _,sound.tracks,?_,?_,sound.tracked,?_,?_,
    sound.delivered,sound.known,sound.recorded,?_,?_,?_,?_⟩
  · rw [opens]
    exact sound.landing
  · rw [opens]
    exact sound.fresh
  · exact fun source member => sound.active source (sources source member).1
  · rw [opens]
    exact sound.given
  · exact sound.separate.sublist (List.filter_sublist.map _)
  · change Orderly self.landed _ _ ((self.data ++ [message]).map self.loop.inner.turn)
    rw [turns]
    apply sound.orderly.extend turn _ plain (fun other same => absurd same (silent other))
    intro source member kept
    obtain ⟨active,apart⟩ := sources source member
    have follows := sound.orderly.rests source active (kept.resolve_right (silent source))
    rw [follows]
    rcases turn_eq with leaves | idle
    · rw [leaves,Turn.next,if_neg (fun same => apart (Option.some.inj same))]
    · rw [idle]
      rfl
  · change Accounted self.landed ((self.data ++ [message]).map self.loop.inner.turn) _ _
    rw [turns]
    apply sound.accounted.extend turn _ (fun entry _ => silent entry.1)
    rcases turn_eq with leaves | idle
    · rw [leaves]
      rfl
    · rw [idle]
      rfl
  · intro first other params later split lands source member kept
    change rest = _ at split
    change Kept self.landed ((self.data ++ [message]).map self.loop.inner.turn) source at kept
    rw [turns] at kept
    have held := ((kept_append _ _ _ _).mp kept).resolve_right (silent source)
    obtain ⟨active,apart⟩ := sources source member
    have whole : self.loop.inner.connectionSendRpc =
        (.unsubscribe id target::first) ++ .subscribe other params::later := by
      rw [queued,split,List.cons_append]
    obtain ⟨rpcId,request⟩ := sound.waiting _ other params later whole lands source active held
    refine ⟨rpcId,(List.mem_cons.mp request).resolve_left ?_⟩
    intro same
    cases same
    exact apart rfl

/-- A message is received: what is pending behind it stays as it is, and what it sends are
requests that remove subscriptions. -/
theorem Sound.receive_stable {self : Feed} (sound : Sound self) (message : RpcInbound) (rest : List RpcInbound)
    (queued : self.data = message::rest) :
    (∀ id ∈ self.loop.inner.pending rest,
      (self.loop.receive message).inner.lands id = self.loop.inner.lands id ∧
        (self.loop.receive message).inner.rpcIds.get id = self.loop.inner.rpcIds.get id) ∧
    ∃ sent, (self.loop.receive message).inner.connectionSendRpc = self.loop.inner.connectionSendRpc ++ sent ∧
      ∀ req ∈ sent, ∃ rpcId target, req = .unsubscribe rpcId target := by
  have wired := sound.wired
  rw [queued] at wired
  rcases self.loop.receive_inner message with ⟨id,response,rfl,inner⟩ | ⟨_,inner⟩
  · rw [inner]
    obtain ⟨sent,later,sends,asks⟩ := (self.loop.inner.received id response).sends
    refine ⟨?_,sent,sends.queue,fun req member => asks req (List.mem_append_left _ member)⟩
    intro other member
    have minted : self.loop.inner.rpcIds.Minted other := wired.minted other (List.mem_cons_of_mem _ member)
    have differ : other ≠ id := fun same => (List.nodup_cons.mp wired.distinct).1 (same ▸ member)
    refine ⟨?_,sends.older other minted⟩
    have flight : (self.loop.inner.onReceivedRpcResponse id response).rpcIdsInFlight.lookup.get other =
        self.loop.inner.rpcIdsInFlight.lookup.get other := by
      rw [sends.flight other minted]
      simp only [Subscriptions.landed,(RpcIdsInFlight.remove_spec _ id).1,HashMap.get_remove_ne _ _ _ differ]
    unfold Subscriptions.lands
    rw [flight]
  · rw [inner]
    exact ⟨fun _ _ => ⟨rfl,rfl⟩,[],(List.append_nil _).symm,by simp⟩

theorem Sound.wired_receive {self : Feed} (sound : Sound self) (message : RpcInbound) (rest : List RpcInbound)
    (queued : self.data = message::rest) : (self.loop.receive message).inner.Wired rest := by
  have wired := sound.wired
  rw [queued] at wired
  cases message with
  | subscription id result =>
    have same : (self.loop.receive (.subscription id result)).inner = self.loop.inner := by
      rcases self.loop.receive_inner (.subscription id result) with ⟨_,_,never,_⟩ | ⟨_,same⟩
      · cases never
      · exact same
    rw [same]
    obtain ⟨steady,aware,known,retries,distinct,flying⟩ := wired
    exact ⟨steady,aware,known,retries,distinct,flying⟩
  | response id result =>
    cases result with
    | ok response => exact wired.response id response
    | error failure =>
      obtain ⟨steady,aware,known,retries,distinct,flying⟩ := wired
      exact ⟨steady,aware,known,retries,(List.nodup_cons.mp distinct).2,
        fun other member => flying other (List.mem_cons_of_mem _ member)⟩

/-- The log subscriptions change as the turn of the message says. -/
theorem Sound.recorded_receive {self : Feed} (sound : Sound self) (message : RpcInbound)
    (rest : List RpcInbound) (queued : self.data = message::rest) :
    Subscriptions.Recorded self.loop.inner (self.loop.receive message).inner (self.loop.inner.turn message) := by
  rcases self.loop.receive_inner message with ⟨id,response,rfl,inner⟩ | ⟨plain,inner⟩
  · rw [inner]
    have wired := sound.wired
    rw [queued] at wired
    apply Subscriptions.recorded_response _ id response wired.steady sound.tracks wired.aware
      (wired.flying id List.mem_cons_self)
    intro subscriptionId same
    apply sound.fresh
    rw [queued,same]
    exact List.mem_cons_self
  · rw [inner]
    have still : ∀ recent, (self.loop.inner.turn message).next recent = recent ∧
        ∀ id, self.loop.inner.turn message ≠ .lands id := by
      intro recent
      cases message with
      | response id result =>
        cases result with
        | ok response => exact absurd rfl (plain id response)
        | error _ => exact ⟨rfl,by simp [Subscriptions.turn]⟩
      | subscription id result =>
        cases result with
        | error _ => exact ⟨rfl,by simp [Subscriptions.turn]⟩
        | ok event => cases event <;> exact ⟨rfl,by simp [Subscriptions.turn]⟩
    exact Subscriptions.Recorded.same _ rfl (still _).1 (still none).2 sound.tracks

/-- Only the subscription that a message opens becomes known by it. -/
theorem lookup_receive (loop : SubscriptionLoop) (message : RpcInbound) (id : String)
    (found : (loop.receive message).inner.ids.lookup.get id ≠ none) :
    loop.inner.ids.lookup.get id ≠ none ∨ message.opens = some id := by
  rcases loop.receive_inner message with ⟨rpcId,response,rfl,inner⟩ | ⟨_,inner⟩
  · rw [inner] at found
    have result := loop.inner.received rpcId response
    generalize loop.inner.onReceivedRpcResponse rpcId response = next at result found
    cases result with
    | ignored => exact .inl found
    | unwanted subscriptionId =>
      rw [(Subscriptions.Sends.unsubscribe (loop.inner.landed rpcId) subscriptionId none).ids] at found
      exact .inl found
    | refused subscriptionId =>
      rw [(Subscriptions.Sends.unsubscribe (loop.inner.landed rpcId) subscriptionId _).ids] at found
      exact .inl found
    | subscribed subscriptionId kind =>
      by_cases same : id = subscriptionId
      · exact .inr (congrArg some same.symm)
      · left
        change (HashMap.insert _ subscriptionId kind).get id ≠ none at found
        rw [HashMap.get_insert_ne _ _ _ _ same] at found
        exact found
    | unsubscribed subscriptionId =>
      left
      intro absent
      apply found
      simp only [SubscriptionIds.remove,HashMap.get_remove,absent,ite_self]
  · rw [inner] at found
    exact .inl found

/-- A log of a subscription is passed on if the client has recorded the subscription. -/
theorem Sound.forwards_iff {self : Feed} (sound : Sound self) (id : String) (log : Log)
    (rest : List (Turn String Log)) (now : self.turns = .event id log::rest) :
    self.loop.inner.forwards .allLogs id = true ↔ id ∈ self.tracked := by
  constructor
  · intro forwards
    apply sound.recorded
    rw [sound.tracks.listed]
    simp only [Subscriptions.forwards,SubscriptionIds.compare,Bool.and_eq_true] at forwards
    cases found : self.loop.inner.ids.lookup.get id with
    | none => simp [found] at forwards
    | some kind =>
      simp only [found,decide_eq_true_eq] at forwards
      exact ⟨kind,rfl,forwards.1⟩
  · intro tracked
    have orderly := sound.orderly
    rw [now] at orderly
    have follows := orderly.taken tracked
    obtain ⟨kind,found,category⟩ := sound.tracks.recent .allLogs id follows
    unfold SubscriptionIds.mostRecent at follows
    obtain ⟨entry,here,recent⟩ := Option.bind_eq_some_iff.mp follows
    simp [Subscriptions.forwards,SubscriptionIds.compare,SubscriptionIds.isMostRecent,found,category,here,recent]

theorem Sound.turns_receive {self : Feed} (sound : Sound self) (message : RpcInbound) (rest : List RpcInbound)
    (queued : self.data = message::rest) :
    self.turns = self.loop.inner.turn message::(self.received message rest).turns := by
  unfold Feed.turns
  rw [queued,List.map_cons]
  congr 1
  apply List.map_congr_left
  intro other member
  symm
  have stable := (sound.receive_stable message rest queued).1
  have inside : ∀ id ∈ other.answers, id ∈ self.loop.inner.pending rest := fun id answers =>
    List.mem_append_left _ (List.mem_filterMap.mpr ⟨other,member,answers⟩)
  exact Subscriptions.turn_congr _ _ other (fun id answers => (stable id (inside id answers)).1)
    (fun id answers => (stable id (inside id answers)).2)

/-- The recorded subscriptions grow by the one that lands. -/
theorem Sound.landed_receive {self : Feed} (sound : Sound self) (message : RpcInbound)
    (rest : List RpcInbound) (queued : self.data = message::rest) :
    (self.received message rest).landed = Handover.tracks self.landed (self.loop.inner.turn message) := by
  have change := sound.recorded_receive message rest queued
  ext id
  change id ∈ self.tracked ++ _ ↔ id ∈ self.tracked ∨ _
  rw [List.mem_append]
  constructor
  · intro member
    rcases member with old | listed
    · exact .inl old
    · rcases change.listed id listed with before | lands
      · exact .inl (sound.recorded id before)
      · exact .inr lands
  · intro member
    rcases member with old | lands
    · exact .inl old
    · exact .inr (change.landed id lands)

/-- What is passed on while a message is received. -/
theorem Sound.accounted_receive {self : Feed} (sound : Sound self) (message : RpcInbound)
    (rest : List RpcInbound) (queued : self.data = message::rest) :
    Accounted (self.received message rest).landed (self.received message rest).turns self.deliveries
      (self.loop.receive message).logs := by
  have turns := sound.turns_receive message rest queued
  have accounted := sound.accounted
  have orderly := sound.orderly
  rw [turns] at accounted orderly
  rw [sound.landed_receive message rest queued]
  by_cases event : ∃ id log, message = .subscription id (.ok (.logs log))
  · obtain ⟨id,log,rfl⟩ := event
    change Orderly _ _ _ (.event id log::_) at orderly
    change Accounted _ (.event id log::_) _ _ at accounted
    have still : Handover.tracks self.landed (self.loop.inner.turn (.subscription id (.ok (.logs log)))) =
        self.landed := by
      ext other
      simp [Handover.tracks,Subscriptions.turn]
    have picked : (self.loop.receive (.subscription id (.ok (.logs log)))).logs =
        self.loop.logs ++ open Classical in if id ∈ self.landed then [log] else [] := by
      have forwards := sound.forwards_iff id log _ turns
      by_cases tracked : id ∈ self.tracked
      · have yes := forwards.mpr tracked
        rw [if_pos (show id ∈ self.landed from tracked)]
        simp [SubscriptionLoop.receive,SubscriptionLoop.onReceivedSubscriptionEvent,yes]
      · have no : self.loop.inner.forwards .allLogs id = false := by
          rw [Bool.eq_false_iff]
          exact fun yes => tracked (forwards.mp yes)
        rw [if_neg (show id ∉ self.landed from tracked)]
        simp [SubscriptionLoop.receive,SubscriptionLoop.onReceivedSubscriptionEvent,no]
    rw [still,picked]
    exact accounted.read_item orderly.settled
  · have plain : (self.loop.inner.turn message).item? = none := by
      by_contra item
      obtain ⟨entry,found⟩ := Option.ne_none_iff_exists'.mp item
      exact event ⟨_,_,Subscriptions.turn_event _ _ _ _ ((Turn.item_eq_some _ _).mp found)⟩
    have same : (self.loop.receive message).logs = self.loop.logs := by
      cases message with
      | response id result => cases result <;> rfl
      | subscription id result =>
        cases result with
        | error _ => rfl
        | ok value =>
          cases value with
          | logs log => exact absurd ⟨id,log,rfl⟩ event
          | newHeads number =>
            simp only [SubscriptionLoop.receive,SubscriptionLoop.onReceivedSubscriptionEvent]
            split <;> rfl
          | newPendingTransaction tx =>
            simp only [SubscriptionLoop.receive,SubscriptionLoop.onReceivedSubscriptionEvent]
            split <;> rfl
    rw [same]
    exact accounted.shift plain

theorem Sound.received {self : Feed} (sound : Sound self) (message : RpcInbound) (rest : List RpcInbound)
    (queued : self.data = message::rest) : Sound (self.received message rest) := by
  have change := sound.recorded_receive message rest queued
  have turns := sound.turns_receive message rest queued
  have landed := sound.landed_receive message rest queued
  have fewer : (rest.filterMap RpcInbound.opens).Sublist (self.data.filterMap RpcInbound.opens) := by
    rw [queued]
    exact (List.sublist_cons_self message rest).filterMap _
  have found : ∀ id, (self.loop.receive message).inner.ids.lookup.get id ≠ none → id ∈ self.opened := by
    intro id present
    rcases lookup_receive self.loop message id present with before | opens
    · exact sound.known id before
    · apply sound.given
      rw [queued]
      exact List.mem_filterMap.mpr ⟨message,List.mem_cons_self,opens⟩
  have kept : ∀ id, Kept (self.received message rest).landed (self.received message rest).turns id →
      Kept self.landed self.turns id := by
    intro id kept
    rw [turns,kept_cons,← landed]
    exact kept
  refine ⟨sound.wired_receive message rest queued,change.tracks,sound.landing.sublist fewer,?_,?_,sound.active,
    fun id member => sound.given id (fewer.subset member),sound.delivered,found,?_,sound.separate,?_,
    sound.accounted_receive message rest queued,?_⟩
  · intro id member
    by_contra present
    rcases lookup_receive self.loop message id present with before | opens
    · exact before (sound.fresh id (fewer.subset member))
    · have landing := sound.landing
      rw [queued,List.filterMap_cons_some opens,List.nodup_cons] at landing
      exact landing.1 member
  · intro id member
    rcases List.mem_append.mp member with old | listed
    · exact sound.tracked id old
    · obtain ⟨kind,present,_⟩ := (change.tracks.listed .allLogs id).mp listed
      apply found id
      rw [present]
      exact Option.some_ne_none _
  · exact fun id member => List.mem_append_right _ member
  · have orderly := sound.orderly
    rw [turns] at orderly
    rw [landed]
    change Orderly _ _ ((self.loop.receive message).inner.ids.mostRecent .allLogs) _
    rw [change.recent]
    exact orderly.shift
  · intro first id params later split lands source active keeps
    obtain ⟨stable,sent,queue,asks⟩ := sound.receive_stable message rest queued
    change (self.loop.receive message).inner.connectionSendRpc = _ at split
    change (self.loop.receive message).inner.lands id = true at lands
    rw [queue] at split
    have absent : .subscribe id params ∉ sent := by
      intro member
      obtain ⟨_,_,same⟩ := asks _ member
      cases same
    obtain ⟨others,before⟩ := split_first _ _ first later _ split absent
    have pending : id ∈ self.loop.inner.pending rest := by
      apply Subscriptions.Wired.mem_pending (.subscribe id params)
      rw [before]
      exact List.mem_append_left _ (List.mem_append_right _ List.mem_cons_self)
    rw [(stable id pending).1] at lands
    exact sound.waiting first id params others before lands source active (kept source keeps)

theorem Sound.delayPasses {self : Feed} (sound : Sound self) (index : Nat) (inner : Subscriptions)
    (passed : self.loop.inner.delayPasses index = some inner) : Sound (self.withInner inner) := by
  have wired := sound.wired.delayPasses index passed
  obtain ⟨req,item,sent,choice,rfl⟩ := Subscriptions.delayPasses_cases self.loop.inner inner index passed
  obtain ⟨rpcId,target,retry⟩ := sound.wired.retries req (List.mem_of_getElem? item)
  refine ⟨wired,sound.tracks,sound.landing,sound.fresh,sound.tracked,sound.active,sound.given,
    sound.delivered,sound.known,sound.recorded,sound.separate,sound.orderly,sound.accounted,?_⟩
  intro first id params rest split lands source active kept
  have absent : .subscribe id params ∉ sent := by
    rcases choice with rfl | rfl
    · rw [retry]
      simp
    · simp
  change self.loop.inner.connectionSendRpc ++ sent = _ at split
  obtain ⟨others,same⟩ := split_first _ _ first rest _ split absent
  exact sound.waiting first id params others same lands source active kept

theorem sound_step (self next : Feed) (act : Act) (stepped : self.step act = some next) (sound : Sound self) :
    Sound next := by
  cases act with
  | enableLogs addresses topics =>
    cases stepped
    exact sound.enableLogs addresses topics
  | handle subscriptionId =>
    simp only [step,handle] at stepped
    split at stepped
    · cases stepped
    · next id params rest queued =>
      obtain ⟨new,same⟩ := Option.ite_none_left_eq_some.mp stepped
      cases same
      exact sound.subscribe id params rest queued subscriptionId new
    · next id target rest queued =>
      cases stepped
      exact sound.unsubscribe id target rest queued
  | emit log =>
    obtain ⟨new,same⟩ := Option.ite_none_left_eq_some.mp stepped
    cases same
    exact sound.emit log new
  | receive =>
    simp only [step] at stepped
    split at stepped
    · cases stepped
    · next message rest queued =>
      cases stepped
      exact sound.received message rest queued
  | delayPasses index =>
    obtain ⟨inner,passed,rfl⟩ := Option.map_eq_some_iff.mp stepped
    exact sound.delayPasses index inner passed

theorem sound_connected (keys : SlotKeys) (blocks : Bool) (logs : Option LogFilter) (pendingTransactions : Bool) :
    Sound (connected keys blocks logs pendingTransactions) := by
  let base : Subscriptions := {(Subscriptions.new keys).aimedAt blocks logs pendingTransactions with isConnected := true}
  obtain ⟨sent,sends,_⟩ := Subscriptions.Sends.resubscribes base
  have empty : ∀ id, base.rpcIdsInFlight.lookup.get id = none := fun id => HashMap.get_new id
  have idle : ∀ id kind, ¬base.Awaits id kind := by
    intro id kind awaits
    rw [Subscriptions.Awaits,RpcIdsInFlight.Awaits,empty id] at awaits
    cases awaits
  have steady : base.Steady := ⟨fun id kind awaits => absurd awaits (idle id kind),(fun impossible => by cases impossible),
    fun id present => absurd (empty id) present,fun req member => absurd member List.not_mem_nil⟩
  have wired : base.Wired [] := by
    refine ⟨steady,?_,fun req member => absurd member List.not_mem_nil,
      fun req member => absurd member List.not_mem_nil,List.nodup_nil,
      fun id member => absurd member List.not_mem_nil⟩
    intro id kind state
    rw [empty id] at state
    cases state
  have ids : (connected keys blocks logs pendingTransactions).loop.inner.ids = .default := sends.ids
  have unknown : ∀ id, (connected keys blocks logs pendingTransactions).loop.inner.ids.lookup.get id = none := by
    intro id
    rw [ids]
    exact HashMap.get_new id
  have orderly : Orderly (∅ : Set String) ∅ (connected keys blocks logs pendingTransactions |>.loop.inner.ids.mostRecent
      .allLogs) ([] : List (Turn String Log)) :=
    ⟨by simp,List.nodup_nil,List.Pairwise.nil,by simp,by simp⟩
  have tracks : (connected keys blocks logs pendingTransactions).loop.inner.ids.Tracks := by
    rw [ids]
    exact SubscriptionIds.tracks_default
  refine ⟨wired.sends sends steady.resubscribe (by simp),tracks,List.nodup_nil,by simp [connected],
    by simp [connected],by simp [connected],by simp [connected],by simp [connected],
    fun id present => absurd (unknown id) present,?_,List.nodup_nil,?_,?_,?_⟩
  · intro id member
    obtain ⟨kind,present,_⟩ := (tracks.listed .allLogs id).mp member
    rw [unknown id] at present
    cases present
  · have none : (connected keys blocks logs pendingTransactions).landed = ∅ := by
      ext id
      simp [landed,connected]
    have quiet : (connected keys blocks logs pendingTransactions).sources = ∅ := by
      ext id
      simp [sources,connected]
    rw [none,quiet]
    exact orderly
  · exact ⟨⟨[],rfl,rfl,by simp⟩,List.Pairwise.nil⟩
  · intro first id params rest _ _ source active
    simp [sources,connected] at active

/-- Over every run on one connection, no log is passed on twice, and once all messages are
received the logs passed on are those given to a subscription that the client has recorded. -/
theorem logs_forwarded_through_recorded (keys : SlotKeys) (blocks : Bool) (logs : Option LogFilter) (pendingTransactions : Bool)
    (acts : List Act) (feed : Feed)
    (reached : run step (connected keys blocks logs pendingTransactions) acts = some feed) :
    feed.loop.logs.Nodup ∧
      (feed.data = [] → ∀ log, log ∈ feed.loop.logs ↔ ∃ id ∈ feed.tracked, (id,log) ∈ feed.deliveries) := by
  have sound : Sound feed := invariant Sound
    (fun state act next stepped sound => sound_step state next act stepped sound) _ feed acts reached
    (sound_connected keys blocks logs pendingTransactions)
  refine ⟨sound.accounted.taken_nodup,?_⟩
  intro drained log
  apply sound.accounted.mem_taken
  unfold turns
  rw [drained]
  rfl

def watchedAddress : Address := .filled 20 1

def addedAddress : Address := .filled 20 2

def narrow : LogFilter := ⟨{watchedAddress},∅⟩

def wide : LogFilter := ⟨{watchedAddress} ∪ [addedAddress].toFinset,∅ ∪ [].toFinset⟩

def transferLog : Log := ⟨watchedAddress,⟨[],[]⟩,none,some 0⟩

/-- The log comes while the removal of the first subscription is on its way. -/
def coveredChange : List Act :=
  [.handle "0x1",.receive,.enableLogs [addedAddress] [],.emit transferLog,.handle "",.handle "0x2",
    .receive,.receive,.receive]

theorem coveredChange_forwards :
    ∃ feed, run step (connected .firstVersions false (some narrow) false) coveredChange = some feed ∧ feed.data = [] ∧
      feed.loop.logs.Nodup ∧ transferLog ∈ feed.loop.logs := by
  obtain ⟨feed,reached,found⟩ := run_any step (connected .firstVersions false (some narrow) false) coveredChange
    (fun feed => feed.data.isEmpty && decide ("0x1" ∈ feed.tracked) &&
      decide (("0x1",transferLog) ∈ feed.deliveries)) (by decide)
  simp only [Bool.and_eq_true,List.isEmpty_iff,decide_eq_true_eq] at found
  obtain ⟨⟨drained,tracked⟩,given⟩ := found
  have forwarded := logs_forwarded_through_recorded .firstVersions false (some narrow) false coveredChange feed reached
  exact ⟨feed,reached,drained,forwarded.1,(forwarded.2 drained transferLog).mpr ⟨"0x1",tracked,given⟩⟩

/-- The log comes between the removal of the first subscription and the second one. -/
def gapChange : List Act :=
  [.handle "0x1",.receive,.enableLogs [addedAddress] [],.handle "",.emit transferLog,.handle "0x2",
    .receive,.receive]

theorem log_between_subscriptions_missed :
    narrow.admits transferLog = true ∧ wide.admits transferLog = true ∧
      ∃ feed, run step (connected .firstVersions false (some narrow) false) gapChange = some feed ∧
        feed.loop.inner.logs = some wide ∧ feed.data = [] ∧ feed.loop.inner.connectionSendRpc = [] ∧
        transferLog ∈ feed.emitted ∧ transferLog ∉ feed.loop.logs := by
  refine ⟨by decide,by decide,?_⟩
  obtain ⟨feed,reached,found⟩ := run_any step (connected .firstVersions false (some narrow) false) gapChange
    (fun feed => decide (feed.loop.inner.logs = some wide) && feed.data.isEmpty &&
      decide (feed.loop.inner.connectionSendRpc = []) && decide (transferLog ∈ feed.emitted) &&
      decide (transferLog ∉ feed.loop.logs)) (by decide)
  simp only [Bool.and_eq_true,List.isEmpty_iff,decide_eq_true_eq] at found
  obtain ⟨⟨⟨⟨filter,drained⟩,handled⟩,emitted⟩,missed⟩ := found
  exact ⟨feed,reached,filter,drained,handled,emitted,missed⟩

end Feed

end Warpdrive.Trigger.EvmStream
