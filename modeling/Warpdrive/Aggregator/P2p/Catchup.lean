import Warpdrive.Aggregator.P2p.Storage

/-! The rate limit of the catch-up protocol. A request is entered under its service and its peer, but
an answer clears the peer under every service and an unsubscribe drops the whole entry. Where no
entry of an open request is lost before the service's next requests, the limit holds. -/
namespace Warpdrive.Aggregator.P2p

open Warpdrive.Foundation Warpdrive.Foundation.Execution Warpdrive.Types

variable (prim : Primitives) (serde : SubmissionSerde)

/-- The requests for a service that are sent and not answered. -/
def openFor (outstanding : List (PeerId × ServiceId)) (serviceId : ServiceId) : List (PeerId × ServiceId) :=
  outstanding.filter (fun request => request.2 = serviceId)

theorem length_openFor_concat (outstanding : List (PeerId × ServiceId)) (peer : PeerId) (asked serviceId : ServiceId) :
    (openFor (outstanding ++ [(peer,asked)]) serviceId).length =
      (openFor outstanding serviceId).length + if asked = serviceId then 1 else 0 := by
  rw [openFor,List.filter_append,List.length_append]
  by_cases same : asked = serviceId <;> simp [openFor,same]

structure RateLimited (config : P2pConfig) (outstanding : List (PeerId × ServiceId)) : Prop where
  few : ∀ serviceId, (openFor outstanding serviceId).length ≤ config.maxConcurrentCatchupRequestsPerService
  once : ∀ peer serviceId, outstanding.count (peer,serviceId) ≤ 1

/-- Every open request for the service is entered. -/
def Entered (state : EventLoopState) (outstanding : List (PeerId × ServiceId)) (serviceId : ServiceId) : Prop :=
  ∀ peer, (peer,serviceId) ∈ outstanding → peer ∈ state.requestedOf serviceId

/-- The event comes to send requests for the service. -/
def Asks (state : EventLoopState) (serviceId : ServiceId) : Event → Prop
  | .connectionEstablished _ => serviceId ∈ state.subscribedServices
  | .command (.subscribe other) _ swarm =>
    other = serviceId ∧ serviceTopicName other ∉ state.subscribedTopics ∧ swarm.subscribe = .ok ()
  | _ => False

instance decidableAsks (state : EventLoopState) (serviceId : ServiceId) : ∀ event, Decidable (Asks state serviceId event)
  | .connectionEstablished _ => inferInstanceAs (Decidable (_ ∈ _))
  | .command (.subscribe _) _ swarm =>
    have : Decidable (swarm.subscribe = .ok ()) := decEq _ _
    inferInstanceAs (Decidable (_ ∧ _ ∧ _))
  | .command (.publish _) _ _ => .isFalse id
  | .command (.unsubscribe _) _ _ => .isFalse id
  | .command .getStatus _ _ => .isFalse id
  | .gossip _ _ _ _ => .isFalse id
  | .catchupRequest _ _ _ => .isFalse id
  | .catchupResponse _ _ _ => .isFalse id
  | .outboundFailure _ _ => .isFalse id
  | .connectionClosed _ => .isFalse id
  | .mdnsExpired _ => .isFalse id
  | .newListenAddr _ => .isFalse id
  | .retryTick _ _ => .isFalse id
  | .cleanupTick _ => .isFalse id

variable {config : P2pConfig}

theorem RateLimited.nodup {outstanding : List (PeerId × ServiceId)} (limited : RateLimited config outstanding) :
    outstanding.Nodup :=
  List.nodup_iff_count_le_one.mpr (fun request => limited.once request.1 request.2)

theorem RateLimited.sublist {outstanding fewer : List (PeerId × ServiceId)} (limited : RateLimited config outstanding)
    (sub : fewer.Sublist outstanding) : RateLimited config fewer where
  few serviceId := ((sub.filter _).length_le).trans (limited.few serviceId)
  once peer serviceId := (sub.count_le _).trans (limited.once peer serviceId)

theorem requestedOf_insert (state : EventLoopState) (key other : ServiceId) (peers : HashSet PeerId) :
    ({state with catchupRequestedPeers := state.catchupRequestedPeers.insert key peers} : EventLoopState).requestedOf
      other = if other = key then peers else state.requestedOf other := by
  simp only [EventLoopState.requestedOf,HashMap.get_insert]
  split <;> rfl

/-- The peers of the open requests for a service are entered, so they are no more than the entries. -/
theorem Entered.length_le {state : EventLoopState} {outstanding : List (PeerId × ServiceId)} {serviceId : ServiceId}
    (entered : Entered state outstanding serviceId) (distinct : outstanding.Nodup) :
    (openFor outstanding serviceId).length ≤ (state.requestedOf serviceId).toList.length := by
  have peers : ((openFor outstanding serviceId).map Prod.fst).Nodup := by
    refine List.Nodup.map_on ?_ (distinct.filter _)
    intro first member second member' same
    have one := of_decide_eq_true (List.mem_filter.mp member).2
    have two := of_decide_eq_true (List.mem_filter.mp member').2
    exact Prod.ext same (one.trans two.symm)
  rw [← List.length_map Prod.fst]
  refine (peers.subperm ?_).length_le
  intro peer member
  obtain ⟨request,kept,rfl⟩ := List.mem_map.mp member
  obtain ⟨present,same⟩ := List.mem_filter.mp kept
  refine entered request.1 ?_
  rw [← of_decide_eq_true same]
  exact present

/-- One pass of the request loops keeps the limit, and the entries of the services it is about. -/
theorem RateLimited.requestCatchup {state : EventLoopState} {outstanding : List (PeerId × ServiceId)}
    (limited : RateLimited config outstanding) (settled : state.config = config) (asked : ServiceId → Prop)
    (entered : ∀ serviceId, asked serviceId → Entered state outstanding serviceId) (peer : PeerId)
    (serviceId : ServiceId) (asks : asked serviceId) :
    RateLimited config (outstanding ++ (state.requestCatchup peer serviceId).2.filterMap Effect.request?) ∧
      ∀ other, asked other → Entered (state.requestCatchup peer serviceId).1
        (outstanding ++ (state.requestCatchup peer serviceId).2.filterMap Effect.request?) other := by
  unfold EventLoopState.requestCatchup
  dsimp only
  split
  · refine ⟨by simpa using limited,?_⟩
    intro other ask one member
    rw [requestedOf_insert]
    have present := entered other ask one (by simpa using member)
    split
    · next same =>
      rw [← same]
      exact present
    · exact present
  · next room =>
    obtain ⟨fresh,small⟩ := not_or.mp room
    rw [settled] at small
    have count := (entered serviceId asks).length_le limited.nodup
    have unopened : (peer,serviceId) ∉ outstanding := fun member => fresh (entered serviceId asks peer member)
    change RateLimited config (outstanding ++ [(peer,serviceId)]) ∧
      ∀ other, asked other → Entered _ (outstanding ++ [(peer,serviceId)]) other
    refine ⟨⟨?_,?_⟩,?_⟩
    · intro other
      rw [length_openFor_concat]
      split
      · next same =>
        subst same
        omega
      · exact limited.few other
    · intro one other
      rw [List.count_append,List.count_singleton]
      split
      · next same =>
        obtain ⟨rfl,rfl⟩ := Prod.mk.inj (eq_of_beq same)
        rw [List.count_eq_zero_of_not_mem unopened]
      · exact limited.once one other
    · intro other ask one member
      rw [requestedOf_insert]
      rcases List.mem_append.mp member with earlier | last
      · have present := entered other ask one earlier
        split
        · next same =>
          rw [same] at present
          exact (HashSet.mem_insert _ _ _).mpr (.inr present)
        · exact present
      · obtain ⟨rfl,rfl⟩ := Prod.mk.inj (List.mem_singleton.mp last)
        rw [if_pos rfl]
        exact (HashSet.mem_insert _ _ _).mpr (.inl rfl)

theorem RateLimited.requestAll {outstanding : List (PeerId × ServiceId)} (limited : RateLimited config outstanding)
    (asked : ServiceId → Prop) (requests : List (PeerId × ServiceId)) (asks : ∀ request ∈ requests, asked request.2)
    (state : EventLoopState) (settled : state.config = config)
    (entered : ∀ serviceId, asked serviceId → Entered state outstanding serviceId) :
    RateLimited config (outstanding ++ (state.requestAll requests).2.filterMap Effect.request?) := by
  induction requests generalizing state outstanding with
  | nil => simpa [EventLoopState.requestAll] using limited
  | cons request rest ih =>
    obtain ⟨first,others⟩ := List.forall_mem_cons.mp asks
    obtain ⟨next,entered⟩ := limited.requestCatchup settled asked entered request.1 request.2 first
    have same : (state.requestCatchup request.1 request.2).1.config = config := by
      obtain ⟨requested,framed⟩ := EventLoopState.requestAll_frame [request] state
      change (state.requestAll [request]).1.config = config
      rw [framed]
      exact settled
    have later := ih next others _ same entered
    rw [List.append_assoc,← List.filterMap_append] at later
    exact later

/-- Whenever requests for a service are sent, every open request for it is still entered. -/
def Tracked (loop : P2pLoop) (event : Event) (_ : P2pLoop) : Prop :=
  ∀ request ∈ loop.outstanding, Asks loop.state request.2 event → request.1 ∈ loop.state.requestedOf request.2

instance (loop : P2pLoop) (event : Event) (next : P2pLoop) : Decidable (Tracked loop event next) :=
  inferInstanceAs (Decidable (∀ request ∈ loop.outstanding, _))

/-- Only a connection and a subscription send requests. -/
theorem handle_requests (state after : EventLoopState) (event : Event) (effects : List Effect)
    (handled : state.handle prim serde event = some (after,effects)) :
    effects.filterMap Effect.request? = [] ∨
      ∃ start requests, start.config = state.config ∧ start.catchupRequestedPeers = state.catchupRequestedPeers ∧
        effects = (EventLoopState.requestAll start requests).2 ∧
        (∀ request ∈ requests, Asks state request.2 event) ∧ event.answered = none := by
  cases event with
  | command call now swarm =>
    cases call with
    | publish submission =>
      obtain ⟨next,_,same⟩ := Option.map_eq_some_iff.mp handled
      cases same
      exact .inl rfl
    | subscribe serviceId =>
      have same := congrArg Prod.snd (Option.some.inj handled)
      subst same
      change (state.handleSubscribe serviceId swarm).2.filterMap _ = [] ∨ _
      unfold EventLoopState.handleSubscribe
      split
      · exact .inl rfl
      · next unknown =>
        split
        · exact .inl rfl
        · next answered =>
          refine .inr ⟨_,_,?_,?_,rfl,?_,rfl⟩
          · rfl
          · rfl
          · intro request member
            obtain ⟨peer,_,rfl⟩ := List.mem_map.mp member
            exact ⟨rfl,unknown,answered⟩
    | unsubscribe serviceId =>
      cases handled
      exact .inl rfl
    | getStatus =>
      cases handled
      exact .inl rfl
  | gossip source topic data now =>
    change state.handleGossipMessage prim serde source topic data now = _ at handled
    rcases handleGossip_cases prim serde state source topic data now with ⟨ignored,_⟩ | ⟨submission,_,stores⟩
    · rw [ignored] at handled
      cases handled
      exact .inl rfl
    · rw [stores] at handled
      obtain ⟨next,_,same⟩ := Option.map_eq_some_iff.mp handled
      cases same
      exact .inl rfl
  | connectionEstablished peer =>
    have same := congrArg Prod.snd (Option.some.inj handled)
    subst same
    refine .inr ⟨_,_,rfl,rfl,rfl,?_,rfl⟩
    intro request member
    obtain ⟨serviceId,subscribed,rfl⟩ := List.mem_map.mp member
    exact subscribed
  | catchupResponse peer asked submissions =>
    cases handled
    refine .inl (List.filterMap_eq_nil_iff.mpr ?_)
    intro effect member
    obtain ⟨submission,_,rfl⟩ := List.mem_map.mp member
    rfl
  | catchupRequest peer serviceId now =>
    cases handled
    exact .inl rfl
  | outboundFailure peer asked =>
    cases handled
    exact .inl rfl
  | connectionClosed peer =>
    cases handled
    exact .inl rfl
  | mdnsExpired peers =>
    cases handled
    exact .inl rfl
  | newListenAddr address =>
    cases handled
    exact .inl rfl
  | retryTick now swarm =>
    cases handled
    exact .inl rfl
  | cleanupTick now =>
    cases handled
    exact .inl rfl

theorem settle_sublist (loop : P2pLoop) (event : Event) (left : List (PeerId × ServiceId))
    (settled : loop.settle event = some left) : left.Sublist loop.outstanding := by
  unfold P2pLoop.settle at settled
  split at settled
  · cases settled
    exact List.Sublist.refl _
  · split at settled
    · cases settled
      exact List.erase_sublist
    · cases settled

theorem RateLimited.step {loop next : P2pLoop} (limited : RateLimited config loop.outstanding)
    (kept : Kept prim config loop.state) (event : Event)
    (taken : P2pLoop.step prim serde loop event = some next) (tracked : Tracked loop event next) :
    RateLimited config next.outstanding := by
  rcases (loop.step_cases prim serde next event taken).2 with ⟨_,rfl⟩ | ⟨state,effects,left,handled,settled,rfl⟩
  · exact limited
  have fewer := limited.sublist (settle_sublist loop event left settled)
  rcases handle_requests prim serde _ state event effects handled with
    none | ⟨start,requests,config',requested,rfl,asks,unanswered⟩
  · change RateLimited config (left ++ effects.filterMap _)
    rw [none,List.append_nil]
    exact fewer
  · refine fewer.requestAll (fun serviceId => Asks loop.state serviceId event) requests asks start
      (config'.trans kept.settled) ?_
    intro serviceId ask peer member
    have present := tracked (peer,serviceId) ((settle_sublist loop event left settled).subset member) ask
    rw [EventLoopState.requestedOf,requested]
    exact present

theorem catchup_rate_limited (config : P2pConfig) (events : List Event) (final : P2pLoop)
    (reached : run (P2pLoop.step prim serde) (.new config) events = some final)
    (tracked : Along (P2pLoop.step prim serde) Tracked (.new config) events) :
    RateLimited config final.outstanding := by
  have both : Kept prim config final.state ∧ RateLimited config final.outstanding := by
    refine invariant_along Tracked (fun loop => Kept prim config loop.state ∧ RateLimited config loop.outstanding)
      ?_ _ final events reached tracked ⟨kept_new prim,⟨fun _ => Nat.zero_le _,fun _ _ => Nat.zero_le _⟩⟩
    rintro loop event next taken tracked ⟨kept,limited⟩
    exact ⟨kept.step prim serde event taken,limited.step prim serde kept event taken tracked⟩
  exact both.2

def mirroredService : ServiceId := ⟨FixedBytes.filled 32 7⟩

/-- One peer is asked for two services and answers for the first; the answer clears both entries. -/
def twoServices : List Event :=
  [.command (.subscribe observedService) 1 (lonely [peer1]),.command (.subscribe mirroredService) 2 (lonely [peer1]),
    .catchupResponse peer1 observedService [],.connectionEstablished peer1]

theorem second_request_to_one_peer :
    ∃ final, run (P2pLoop.step deployedPrimitives deployedSerde) (.new plainConfig) twoServices = some final ∧
      final.outstanding.count (peer1,mirroredService) = 2 := by
  obtain ⟨final,reached,twice⟩ := run_any (P2pLoop.step deployedPrimitives deployedSerde) (.new plainConfig) twoServices
    (fun final => final.outstanding.count (peer1,mirroredService) = 2) (by decide +kernel)
  exact ⟨final,reached,of_decide_eq_true twice⟩

def twoPeers : List Event :=
  [.command (.subscribe observedService) 1 (lonely [peer1,peer2]),.catchupResponse peer1 observedService [],
    .connectionEstablished peer1]

theorem twoPeers_rate_limited :
    ∃ final, run (P2pLoop.step deployedPrimitives deployedSerde) (.new plainConfig) twoPeers = some final ∧
      final.outstanding = [(peer2,observedService),(peer1,observedService)] ∧
      RateLimited plainConfig final.outstanding := by
  obtain ⟨final,reached,sent⟩ := run_any (P2pLoop.step deployedPrimitives deployedSerde) (.new plainConfig) twoPeers
    (fun final => final.outstanding = [(peer2,observedService),(peer1,observedService)]) (by decide +kernel)
  exact ⟨final,reached,of_decide_eq_true sent,catchup_rate_limited deployedPrimitives deployedSerde plainConfig twoPeers
    final reached (by decide +kernel)⟩

end Warpdrive.Aggregator.P2p
