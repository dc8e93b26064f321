import Warpdrive.Aggregator.P2p.EventLoop

/-! What the loop keeps for catch-up: the topics are those of the services, a submission is stored
under its own service and once for each event and signer, and a response holds what is stored and
not expired. -/
namespace Warpdrive.Aggregator.P2p

open Warpdrive.Foundation Warpdrive.Foundation.Execution Warpdrive.Types

variable (prim : Primitives) (serde : SubmissionSerde)

theorem makeRoom_some (maxStored : Nat) (subs kept : List StoredSubmission) (made : makeRoom maxStored subs = some kept) :
    kept <:+ subs ∧ kept.length < maxStored := by
  induction subs with
  | nil =>
    unfold makeRoom at made
    split at made
    · cases made
    · next limit =>
      cases made
      exact ⟨List.suffix_rfl,by simpa [Nat.pos_iff_ne_zero] using limit⟩
  | cons oldest rest ih =>
    unfold makeRoom at made
    split at made
    · obtain ⟨suffix,small⟩ := ih made
      exact ⟨suffix.trans (List.suffix_cons oldest rest),small⟩
    · next small =>
      cases made
      exact ⟨List.suffix_rfl,by omega⟩

theorem makeRoom_eq_none (maxStored : Nat) (subs : List StoredSubmission) :
    makeRoom maxStored subs = none ↔ maxStored = 0 := by
  induction subs with
  | nil => simp [makeRoom]
  | cons oldest rest ih =>
    unfold makeRoom
    split
    · exact ih
    · next small => simp at small ⊢; omega

namespace EventLoopState

variable (self : EventLoopState)

theorem storedOf_insert (key other : ServiceId) (subs : List StoredSubmission) :
    ({self with storedSubmissions := self.storedSubmissions.insert key subs} : EventLoopState).storedOf other =
      if other = key then subs else self.storedOf other := by
  simp only [storedOf,HashMap.get_insert]
  split <;> rfl

/-- A store leaves the state, or appends to what is left of the service's submissions. -/
theorem storeSubmission_cases (now : Nat) (submission : Submission) (next : EventLoopState)
    (stored : self.storeSubmission prim now submission = some next) :
    next = self ∨ ∃ signer kept, submission.signer prim = .ok signer ∧
      (∀ s ∈ self.storedOf submission.serviceId,
        ¬(s.submission.eventId = submission.eventId ∧ s.submission.signer prim = .ok signer)) ∧
      makeRoom self.config.maxStoredSubmissionsPerService (self.storedOf submission.serviceId) = some kept ∧
      next = {self with storedSubmissions :=
        self.storedSubmissions.insert submission.serviceId (kept ++ [⟨submission,now⟩])} := by
  unfold storeSubmission at stored
  split at stored
  · cases stored
    exact .inl rfl
  · next signer recovered =>
    dsimp only at stored
    split at stored
    · cases stored
      exact .inl rfl
    · next fresh =>
      obtain ⟨kept,made,same⟩ := Option.map_eq_some_iff.mp stored
      refine .inr ⟨signer,kept,recovered,?_,made,same.symm⟩
      simpa using fresh

/-- A store panics for a valid signature under a limit of zero, unless it is a duplicate. -/
theorem storeSubmission_eq_none (now : Nat) (submission : Submission) :
    self.storeSubmission prim now submission = none ↔
      self.config.maxStoredSubmissionsPerService = 0 ∧ ∃ signer, submission.signer prim = .ok signer ∧
        ∀ s ∈ self.storedOf submission.serviceId,
          ¬(s.submission.eventId = submission.eventId ∧ s.submission.signer prim = .ok signer) := by
  unfold storeSubmission
  cases recovered : submission.signer prim with
  | error error => simp
  | ok signer =>
    dsimp only
    split
    · next found =>
      refine iff_of_false (by simp) ?_
      rintro ⟨_,other,same,fresh⟩
      cases same
      obtain ⟨s,member,equal⟩ := List.any_eq_true.mp found
      exact fresh s member (of_decide_eq_true equal)
    · next fresh =>
      rw [Option.map_eq_none_iff,makeRoom_eq_none]
      refine ⟨fun zero => ⟨zero,signer,rfl,by simpa using fresh⟩,And.left⟩

theorem storedOf_retained (now : Nat) (serviceId : ServiceId) :
    (self.cleanupExpiredSubmissions now).storedOf serviceId =
      (self.storedOf serviceId).filter (fun s => self.Unexpired now s) := by
  simp only [storedOf,cleanupExpiredSubmissions,HashMap.get_retain,HashMap.get_mapValues]
  cases self.storedSubmissions.get serviceId with
  | none => rfl
  | some subs =>
    rw [Option.map_some,Option.getD_some]
    cases subs.filter (fun s => self.Unexpired now s) <;> simp [Option.filter]

theorem storedOf_removed (next : EventLoopState) (serviceId other : ServiceId)
    (removed : next.storedSubmissions = self.storedSubmissions.remove serviceId) :
    next.storedOf other = if other = serviceId then [] else self.storedOf other := by
  simp only [storedOf,removed,HashMap.get_remove]
  split <;> rfl

theorem handleUnsubscribe_cases (serviceId : ServiceId) (swarm : SwarmAnswers) :
    (self.handleUnsubscribe serviceId swarm = self ∧
        (serviceTopicName serviceId ∉ self.subscribedTopics ∨ swarm.unsubscribe = false)) ∨
      serviceTopicName serviceId ∈ self.subscribedTopics ∧ self.handleUnsubscribe serviceId swarm = {self with
        subscribedTopics := self.subscribedTopics.remove (serviceTopicName serviceId)
        subscribedServices := self.subscribedServices.remove serviceId
        storedSubmissions := self.storedSubmissions.remove serviceId
        pendingPublishes := self.pendingPublishes.filter (fun p => p.topicName ≠ serviceTopicName serviceId)
        catchupRequestedPeers := self.catchupRequestedPeers.remove serviceId} := by
  unfold handleUnsubscribe
  split
  · next unknown => exact .inl ⟨rfl,.inl unknown⟩
  · next known =>
    split
    · next refused => exact .inl ⟨rfl,.inr (by simpa using refused)⟩
    · exact .inr ⟨not_not.mp known,rfl⟩

/-- Requests change the requested peers and nothing else. -/
theorem requestAll_frame (requests : List (PeerId × ServiceId)) (self : EventLoopState) :
    ∃ requested, (self.requestAll requests).1 = {self with catchupRequestedPeers := requested} := by
  induction requests generalizing self with
  | nil => exact ⟨_,rfl⟩
  | cons request rest ih =>
    obtain ⟨requested,first⟩ : ∃ requested, (self.requestCatchup request.1 request.2).1 =
        {self with catchupRequestedPeers := requested} := by
      unfold requestCatchup
      dsimp only
      split <;> exact ⟨_,rfl⟩
    obtain ⟨later,rest⟩ := ih (self.requestCatchup request.1 request.2).1
    exact ⟨later,rest.trans (by rw [first])⟩

theorem mem_requestAll (requests : List (PeerId × ServiceId)) (state : EventLoopState) (effect : Effect)
    (sent : effect ∈ (state.requestAll requests).2) :
    ∃ request ∈ requests, effect = .sendRequest request.1 request.2 := by
  induction requests generalizing state with
  | nil => cases sent
  | cons request rest ih =>
    rcases List.mem_append.mp sent with now | later
    · unfold requestCatchup at now
      dsimp only at now
      split at now
      · cases now
      · exact ⟨request,List.mem_cons_self,List.mem_singleton.mp now⟩
    · obtain ⟨other,member,same⟩ := ih _ later
      exact ⟨other,List.mem_cons_of_mem _ member,same⟩

theorem clearPeers_frame (peers : List PeerId) (self : EventLoopState) :
    ∃ requested, peers.foldl clearPeer self = {self with catchupRequestedPeers := requested} := by
  induction peers generalizing self with
  | nil => exact ⟨_,rfl⟩
  | cons peer rest ih =>
    obtain ⟨requested,same⟩ := ih (self.clearPeer peer)
    exact ⟨requested,same⟩

/-- A subscription that is known or refused changes nothing; otherwise requests follow it. -/
theorem handleSubscribe_cases (serviceId : ServiceId) (swarm : SwarmAnswers) :
    self.handleSubscribe serviceId swarm = (self,[]) ∨
      serviceTopicName serviceId ∉ self.subscribedTopics ∧ swarm.subscribe = .ok () ∧
        ∃ requested, (self.handleSubscribe serviceId swarm).1 =
          {self.subscribeTo serviceId with catchupRequestedPeers := requested} := by
  unfold handleSubscribe
  split
  · exact .inl rfl
  · next unknown =>
    split
    · exact .inl rfl
    · next answered =>
      obtain ⟨requested,same⟩ := requestAll_frame
        (swarm.connectedPeers.map (fun peer => (peer,serviceId))) (self.subscribeTo serviceId)
      exact .inr ⟨unknown,answered,requested,same⟩

end EventLoopState

/-- Events that touch the catch-up bookkeeping and the addresses at most. -/
def Event.quiet : Event → Bool
  | .command .getStatus _ _ => true
  | .command _ _ _ => false
  | .gossip _ _ _ _ => false
  | .retryTick _ _ => false
  | .cleanupTick _ => false
  | _ => true

theorem handle_quiet (state after : EventLoopState) (event : Event) (effects : List Effect) (quiet : event.quiet = true)
    (handled : state.handle prim serde event = some (after,effects)) :
    ∃ requested addresses,
      after = {state with catchupRequestedPeers := requested,listenAddresses := addresses} := by
  cases event with
  | command call now swarm =>
    cases call with
    | getStatus =>
      cases handled
      exact ⟨_,_,rfl⟩
    | publish submission => cases quiet
    | subscribe serviceId => cases quiet
    | unsubscribe serviceId => cases quiet
  | gossip source topic data now => cases quiet
  | retryTick now swarm => cases quiet
  | cleanupTick now => cases quiet
  | connectionEstablished peer =>
    have same := congrArg Prod.fst (Option.some.inj handled)
    obtain ⟨requested,framed⟩ := EventLoopState.requestAll_frame
      (state.subscribedServices.toList.map (fun serviceId => (peer,serviceId))) state
    exact ⟨requested,_,same.symm.trans framed⟩
  | mdnsExpired peers =>
    have same := congrArg Prod.fst (Option.some.inj handled)
    obtain ⟨requested,framed⟩ := EventLoopState.clearPeers_frame peers state
    exact ⟨requested,_,same.symm.trans framed⟩
  | newListenAddr address =>
    have same := congrArg Prod.fst (Option.some.inj handled)
    subst same
    dsimp only
    split <;> exact ⟨_,_,rfl⟩
  | catchupRequest peer serviceId now =>
    cases handled
    exact ⟨_,_,rfl⟩
  | catchupResponse peer asked submissions =>
    cases handled
    exact ⟨_,_,rfl⟩
  | outboundFailure peer asked =>
    cases handled
    exact ⟨_,_,rfl⟩
  | connectionClosed peer =>
    cases handled
    exact ⟨_,_,rfl⟩

/-- A gossip message that is for the topic of its submission. -/
def Gossips (submission : Submission) : Event → Prop
  | .gossip _ topic data _ => serde.fromSlice data = .ok submission ∧ topic = serviceTopicName submission.serviceId
  | _ => False

theorem handleGossip_cases (state : EventLoopState) (source : PeerId) (topic : String) (data : List UInt8) (now : Nat) :
    (state.handleGossipMessage prim serde source topic data now = some (state,[]) ∧
        ∀ submission, ¬Gossips serde submission (.gossip source topic data now)) ∨
      ∃ submission, Gossips serde submission (.gossip source topic data now) ∧
        state.handleGossipMessage prim serde source topic data now =
          (state.storeSubmission prim now submission).map
            (fun state => (state,[.receive submission (.other source.text)])) := by
  unfold EventLoopState.handleGossipMessage
  cases parsed : serde.fromSlice data with
  | error error =>
    refine .inl ⟨rfl,?_⟩
    rintro submission ⟨found,_⟩
    rw [parsed] at found
    cases found
  | ok submission =>
    dsimp only
    by_cases named : topic = serviceTopicName submission.serviceId
    · rw [if_neg (not_not.mpr named)]
      exact .inr ⟨submission,⟨parsed,named⟩,rfl⟩
    · rw [if_pos named]
      refine .inl ⟨rfl,?_⟩
      rintro other ⟨found,same⟩
      rw [parsed] at found
      cases found
      exact named same

/-- What an effect says about the event it comes from. -/
def Effect.From (state : EventLoopState) (event : Event) : Effect → Prop
  | .receive submission _ => Gossips serde submission event ∨
      (submission.serviceId ∈ state.subscribedServices ∧ event.quiet = true)
  | .sendResponse peer serviceId submissions => ∃ now, event = .catchupRequest peer serviceId now ∧
      submissions = state.getSubmissionsForCatchup now serviceId
  | _ => True

theorem effect_from (state after : EventLoopState) (event : Event) (effects : List Effect)
    (handled : state.handle prim serde event = some (after,effects)) (effect : Effect) (sent : effect ∈ effects) :
    effect.From serde state event := by
  have requested : ∀ requests state, effect ∈ (EventLoopState.requestAll state requests).2 →
      ∀ state event, effect.From serde state event := by
    intro requests state member other event
    obtain ⟨request,_,rfl⟩ := EventLoopState.mem_requestAll requests state effect member
    trivial
  cases event with
  | command call now swarm =>
    cases call with
    | publish submission =>
      obtain ⟨state,_,same⟩ := Option.map_eq_some_iff.mp handled
      cases same
      cases sent
    | subscribe other =>
      have same := congrArg Prod.snd (Option.some.inj handled)
      subst same
      unfold EventLoopState.handleSubscribe at sent
      split at sent
      · cases sent
      · split at sent
        · cases sent
        · exact requested _ _ sent _ _
    | unsubscribe other =>
      cases handled
      cases sent
    | getStatus =>
      cases handled
      cases List.mem_singleton.mp sent
      trivial
  | gossip source topic data now =>
    change state.handleGossipMessage prim serde source topic data now = _ at handled
    rcases handleGossip_cases prim serde state source topic data now with ⟨ignored,_⟩ | ⟨submission,named,stored⟩
    · rw [ignored] at handled
      cases handled
      cases sent
    · rw [stored] at handled
      obtain ⟨next,_,same⟩ := Option.map_eq_some_iff.mp handled
      cases same
      cases List.mem_singleton.mp sent
      exact .inl named
  | catchupRequest other asked now =>
    cases handled
    cases List.mem_singleton.mp sent
    exact ⟨now,rfl,rfl⟩
  | catchupResponse other asked answered =>
    cases handled
    obtain ⟨submission,member,rfl⟩ := List.mem_map.mp sent
    exact .inr ⟨of_decide_eq_true (List.mem_filter.mp member).2,rfl⟩
  | connectionEstablished other =>
    have same := congrArg Prod.snd (Option.some.inj handled)
    subst same
    exact requested _ _ sent _ _
  | outboundFailure other asked =>
    cases handled
    cases sent
  | connectionClosed other =>
    cases handled
    cases sent
  | mdnsExpired others =>
    cases handled
    cases sent
  | newListenAddr address =>
    cases handled
    cases sent
  | retryTick now swarm =>
    cases handled
    cases sent
  | cleanupTick now =>
    cases handled
    cases sent

/-- Two stored submissions are told apart by these. -/
def StoredSubmission.key (self : StoredSubmission) : EventId × Except SigningError ChainAddress :=
  (self.submission.eventId,self.submission.signer prim)

structure Kept (config : P2pConfig) (state : EventLoopState) : Prop where
  settled : state.config = config
  topics : ∀ topic, topic ∈ state.subscribedTopics ↔
    ∃ serviceId ∈ state.subscribedServices, serviceTopicName serviceId = topic
  filed : ∀ serviceId, ∀ stored ∈ state.storedOf serviceId, stored.submission.serviceId = serviceId
  signed : ∀ serviceId, ∀ stored ∈ state.storedOf serviceId, ∃ signer, stored.submission.signer prim = .ok signer
  distinct : ∀ serviceId, ((state.storedOf serviceId).map (StoredSubmission.key prim)).Nodup

variable {config : P2pConfig}

theorem Kept.mem_topics {state : EventLoopState} (kept : Kept prim config state) (serviceId : ServiceId) :
    serviceTopicName serviceId ∈ state.subscribedTopics ↔ serviceId ∈ state.subscribedServices := by
  rw [kept.topics]
  constructor
  · rintro ⟨other,member,same⟩
    rwa [← serviceTopicName_injective same]
  · exact fun member => ⟨serviceId,member,rfl⟩

theorem kept_new : Kept prim config (.new config) where
  settled := rfl
  topics topic := by simp [EventLoopState.new]
  filed _ _ member := absurd member List.not_mem_nil
  signed _ _ member := absurd member List.not_mem_nil
  distinct _ := List.nodup_nil

theorem Kept.subscribeTo {state : EventLoopState} (kept : Kept prim config state) (serviceId : ServiceId) :
    Kept prim config (state.subscribeTo serviceId) where
  topics topic := by
    simp only [EventLoopState.subscribeTo,HashSet.mem_insert,kept.topics]
    constructor
    · rintro (rfl | ⟨other,member,same⟩)
      · exact ⟨serviceId,.inl rfl,rfl⟩
      · exact ⟨other,.inr member,same⟩
    · rintro ⟨other,rfl | member,same⟩
      · exact .inl same.symm
      · exact .inr ⟨other,member,same⟩
  settled := kept.settled
  filed := kept.filed
  signed := kept.signed
  distinct := kept.distinct

theorem Kept.store {state next : EventLoopState} (kept : Kept prim config state) (now : Nat) (submission : Submission)
    (stored : state.storeSubmission prim now submission = some next) : Kept prim config next := by
  rcases state.storeSubmission_cases prim now submission next stored with
    rfl | ⟨signer,left,recovered,fresh,made,rfl⟩
  · exact kept
  obtain ⟨suffix,_⟩ := makeRoom_some _ _ _ made
  have sub := suffix.sublist
  refine ⟨kept.settled,kept.topics,?_,?_,?_⟩
  · intro serviceId s member
    rw [state.storedOf_insert] at member
    split at member
    · next same =>
      rcases List.mem_append.mp member with earlier | last
      · exact (kept.filed _ s (sub.subset earlier)).trans same.symm
      · rw [List.mem_singleton.mp last]
        exact same.symm
    · exact kept.filed serviceId s member
  · intro serviceId s member
    rw [state.storedOf_insert] at member
    split at member
    · rcases List.mem_append.mp member with earlier | last
      · exact kept.signed _ s (sub.subset earlier)
      · rw [List.mem_singleton.mp last]
        exact ⟨signer,recovered⟩
    · exact kept.signed serviceId s member
  · intro serviceId
    rw [state.storedOf_insert]
    split
    · rw [List.map_append,List.nodup_append]
      refine ⟨(kept.distinct _).sublist (sub.map _),List.nodup_singleton _,?_⟩
      intro key member last final same
      obtain ⟨s,present,rfl⟩ := List.mem_map.mp member
      rw [List.mem_singleton.mp final] at same
      have parts := Prod.mk.inj same
      exact fresh s (sub.subset present) ⟨parts.1,parts.2.trans recovered⟩
    · exact kept.distinct serviceId

theorem Kept.queuePublish {state : EventLoopState} (kept : Kept prim config state) (pending : PendingPublish) :
    Kept prim config (state.queuePublish pending) :=
  ⟨kept.settled,kept.topics,kept.filed,kept.signed,kept.distinct⟩

theorem Kept.publishSubscribed {state next : EventLoopState} (kept : Kept prim config state) (serviceId : ServiceId)
    (submission : Submission) (now : Nat) (swarm : SwarmAnswers)
    (published : state.publishSubscribed prim serde serviceId submission now swarm = some next) : Kept prim config next := by
  obtain ⟨middle,stored,same⟩ := Option.map_eq_some_iff.mp published
  have inside := kept.store prim now submission stored
  subst same
  split
  · exact inside
  · split
    · exact inside.queuePublish prim _
    · exact inside
    · exact inside

theorem Kept.unsubscribe {state : EventLoopState} (kept : Kept prim config state) (serviceId : ServiceId)
    (swarm : SwarmAnswers) : Kept prim config (state.handleUnsubscribe serviceId swarm) := by
  rcases state.handleUnsubscribe_cases serviceId swarm with ⟨same,_⟩ | ⟨_,dropped⟩
  · rw [same]
    exact kept
  have fewer : ∀ other, (state.handleUnsubscribe serviceId swarm).storedOf other =
      if other = serviceId then [] else state.storedOf other :=
    fun other => state.storedOf_removed _ serviceId other (by rw [dropped])
  constructor
  · rw [dropped]
    exact kept.settled
  · rw [dropped]
    intro topic
    simp only [HashSet.mem_remove,kept.topics]
    constructor
    · rintro ⟨differ,other,member,rfl⟩
      refine ⟨other,⟨?_,member⟩,rfl⟩
      rintro rfl
      exact differ rfl
    · rintro ⟨other,⟨differ,member⟩,rfl⟩
      exact ⟨fun same => differ (serviceTopicName_injective same),other,member,rfl⟩
  · intro other s member
    rw [fewer] at member
    split at member
    · cases member
    · exact kept.filed other s member
  · intro other s member
    rw [fewer] at member
    split at member
    · cases member
    · exact kept.signed other s member
  · intro other
    rw [fewer]
    split
    · exact List.nodup_nil
    · exact kept.distinct other

theorem Kept.cleanup {state : EventLoopState} (kept : Kept prim config state) (now : Nat) :
    Kept prim config (state.cleanupExpiredSubmissions now) := by
  refine ⟨kept.settled,kept.topics,?_,?_,?_⟩
  · intro serviceId s member
    rw [state.storedOf_retained] at member
    exact kept.filed serviceId s (List.mem_of_mem_filter member)
  · intro serviceId s member
    rw [state.storedOf_retained] at member
    exact kept.signed serviceId s (List.mem_of_mem_filter member)
  · intro serviceId
    rw [state.storedOf_retained]
    exact (kept.distinct serviceId).sublist (List.filter_sublist.map _)

theorem Kept.framed {state : EventLoopState} (kept : Kept prim config state)
    (requested : HashMap ServiceId (HashSet PeerId)) (addresses : List String) :
    Kept prim config {state with catchupRequestedPeers := requested,listenAddresses := addresses} :=
  ⟨kept.settled,kept.topics,kept.filed,kept.signed,kept.distinct⟩

theorem Kept.publish {state next : EventLoopState} (kept : Kept prim config state) (serviceId : ServiceId)
    (submission : Submission) (now : Nat) (swarm : SwarmAnswers)
    (published : state.handlePublish prim serde serviceId submission now swarm = some next) : Kept prim config next := by
  unfold EventLoopState.handlePublish at published
  split at published
  · exact kept.publishSubscribed prim serde serviceId submission now swarm published
  · split at published
    · cases published
      exact kept
    · exact (kept.subscribeTo prim serviceId).publishSubscribed prim serde serviceId submission now swarm published

theorem Kept.subscribe {state : EventLoopState} (kept : Kept prim config state) (serviceId : ServiceId)
    (swarm : SwarmAnswers) : Kept prim config (state.handleSubscribe serviceId swarm).1 := by
  rcases state.handleSubscribe_cases serviceId swarm with same | ⟨_,_,requested,same⟩
  · rw [same]
    exact kept
  · rw [same]
    exact (kept.subscribeTo prim serviceId).framed prim requested _

theorem Kept.handle {state next : EventLoopState} {effects : List Effect} (kept : Kept prim config state) (event : Event)
    (handled : state.handle prim serde event = some (next,effects)) : Kept prim config next := by
  have framed : event.quiet = true → Kept prim config next := by
    intro quiet
    obtain ⟨requested,addresses,rfl⟩ := handle_quiet prim serde state next event effects quiet handled
    exact kept.framed prim requested addresses
  cases event with
  | command call now swarm =>
    cases call with
    | publish submission =>
      obtain ⟨after,published,same⟩ := Option.map_eq_some_iff.mp handled
      cases same
      exact kept.publish prim serde _ submission now swarm published
    | subscribe serviceId =>
      have same := congrArg Prod.fst (Option.some.inj handled)
      subst same
      exact kept.subscribe prim serviceId swarm
    | unsubscribe serviceId =>
      cases handled
      exact kept.unsubscribe prim serviceId swarm
    | getStatus => exact framed rfl
  | gossip source topic data now =>
    change state.handleGossipMessage prim serde source topic data now = _ at handled
    rcases handleGossip_cases prim serde state source topic data now with ⟨ignored,_⟩ | ⟨submission,_,stored⟩
    · rw [ignored] at handled
      cases handled
      exact kept
    · rw [stored] at handled
      obtain ⟨after,stored,same⟩ := Option.map_eq_some_iff.mp handled
      cases same
      exact kept.store prim now submission stored
  | retryTick now swarm =>
    cases handled
    unfold EventLoopState.retryPendingPublishes
    split
    · exact kept
    · exact ⟨kept.settled,kept.topics,kept.filed,kept.signed,kept.distinct⟩
  | cleanupTick now =>
    cases handled
    exact kept.cleanup prim now
  | catchupRequest peer serviceId now => exact framed rfl
  | catchupResponse peer asked submissions => exact framed rfl
  | outboundFailure peer asked => exact framed rfl
  | connectionEstablished peer => exact framed rfl
  | connectionClosed peer => exact framed rfl
  | mdnsExpired peers => exact framed rfl
  | newListenAddr address => exact framed rfl

theorem Kept.step {loop next : P2pLoop} (kept : Kept prim config loop.state) (event : Event)
    (taken : P2pLoop.step prim serde loop event = some next) : Kept prim config next.state := by
  rcases (loop.step_cases prim serde next event taken).2 with ⟨_,rfl⟩ | ⟨state,effects,outstanding,handled,_,rfl⟩
  · exact kept
  · exact kept.handle prim serde event handled

/-- What a catch-up response for a service holds. -/
structure FromStore (config : P2pConfig) (state : EventLoopState) (now : Nat) (serviceId : ServiceId)
    (submissions : List Submission) : Prop where
  few : submissions.length ≤ config.maxCatchupSubmissions
  own : ∀ submission ∈ submissions, submission.serviceId = serviceId
  unexpired : ∀ submission ∈ submissions, ∃ stored ∈ state.storedOf serviceId, stored.submission = submission ∧
    now - stored.createdAt < fromSecs config.submissionTtlSecs

theorem Kept.fromStore {state : EventLoopState} (kept : Kept prim config state) (now : Nat) (serviceId : ServiceId) :
    FromStore config state now serviceId (state.getSubmissionsForCatchup now serviceId) := by
  have taken : ∀ submission ∈ state.getSubmissionsForCatchup now serviceId,
      ∃ stored ∈ state.storedOf serviceId, stored.submission = submission ∧ state.Unexpired now stored := by
    intro submission member
    obtain ⟨stored,present,same⟩ := List.mem_map.mp member
    obtain ⟨held,fresh⟩ := List.mem_filter.mp (List.mem_of_mem_take present)
    exact ⟨stored,held,same,of_decide_eq_true fresh⟩
  constructor
  · rw [EventLoopState.getSubmissionsForCatchup,List.length_map,← kept.settled]
    exact List.length_take_le _ _
  · intro submission member
    obtain ⟨stored,held,rfl,_⟩ := taken submission member
    exact kept.filed serviceId stored held
  · intro submission member
    rw [← kept.settled]
    exact taken submission member

theorem p2p_state_invariant (events : List Event) (final : P2pLoop)
    (reached : run (P2pLoop.step prim serde) (.new config) events = some final) :
    Kept prim config final.state ∧
      ∀ event after effects, final.state.handle prim serde event = some (after,effects) →
        ∀ peer serviceId submissions, .sendResponse peer serviceId submissions ∈ effects →
          ∃ now, event = .catchupRequest peer serviceId now ∧
            FromStore config final.state now serviceId submissions := by
  have kept : Kept prim config final.state :=
    invariant (fun loop => Kept prim config loop.state)
      (fun loop event next taken before => before.step prim serde event taken) _ final events reached (kept_new prim)
  refine ⟨kept,?_⟩
  intro event after effects handled peer serviceId submissions sent
  obtain ⟨now,asked,rfl⟩ := effect_from prim serde final.state after event effects handled _ sent
  exact ⟨now,asked,kept.fromStore prim now serviceId⟩

/-! ## A network of two operators -/

/-- The JSON of a submission of the deployed service with this signature. -/
def deployedJson (signature : FixedBytes 65) : String :=
  "\x7b\"trigger_action\":\x7b\"config\":\x7b\"service_id\":\"" ++ observedService.display ++
    "\",\"workflow_id\":\"flow1\",\"trigger\":\"manual\"\x7d,\"data\":\x7b\"Raw\":[1,2,3]\x7d\x7d," ++
    "\"operator_response\":\x7b\"payload\":\"0xcafe\",\"ordering\":null,\"event_id_salt\":null\x7d," ++
    "\"event_id\":\"0x" ++ hexEncode cafeEvent.bytes.toList ++
    "\",\"envelope\":\x7b\"evm\":\x7b\"data\":\x7b\"eventId\":\"0x" ++ hexEncode cafeEvent.bytes.toList ++
    "\",\"ordering\":\"0x000000000000000000000000\",\"payload\":\"0xcafe\"\x7d\x7d\x7d," ++
    "\"envelope_signature\":\x7b\"algorithm\":\"secp256k1\",\"signature\":\"0x" ++ hexEncode signature.toList ++
    "\",\"prefix\":\"eip191\"\x7d\x7d"

def json1 : List UInt8 := utf8 (deployedJson signature1)

def json2 : List UInt8 := utf8 (deployedJson signature2)

def deployedSerde : SubmissionSerde where
  toVec submission :=
    if submission = submission1 then .ok json1
    else if submission = submission2 then .ok json2
    else .error "not looked up"
  fromSlice data :=
    if data = json1 then .ok submission1
    else if data = json2 then .ok submission2
    else .error "expected value at line 1 column 1"

def deployedTopic : String := serviceTopicName observedService

def peer1 : PeerId := ⟨"12D3KooWPjceQrSwdWXPyLLeABRXmuqt69Rg3sBYbU1Nft9HyQ6X"⟩

def peer2 : PeerId := ⟨"12D3KooWH3uVF6wv47WnArKHk5p6cvgCJEb74UTmxztmQDc298L3"⟩

/-- Every call succeeds, but no peer takes a publish. -/
def lonely (connectedPeers : List PeerId) : SwarmAnswers :=
  ⟨⟨"12D3KooWQYhTNQdmr3ArTeUHRYzFg94BKyTkoWBDWez9kSCVe2Xo"⟩,connectedPeers,[],fun _ => 0,.ok (),true,
    fun _ => .error .noPeersSubscribedToTopic⟩

def plainConfig : P2pConfig := .localMode ⟨none,none,none,none,none,none⟩

def exchanged : List Event :=
  [.connectionEstablished peer1,.command (.subscribe observedService) 1 (lonely [peer1]),
    .command (.publish submission1) 2 (lonely [peer1]),.gossip peer1 deployedTopic json2 3,
    .gossip peer1 deployedTopic (utf8 "hello") 4,.gossip peer1 deployedTopic json1 5,.retryTick 6 (lonely [peer1]),
    .catchupRequest peer1 observedService 7,.catchupResponse peer1 observedService [submission2],.cleanupTick 8]

theorem exchanged_kept :
    ∃ final, run (P2pLoop.step deployedPrimitives deployedSerde) (.new plainConfig) exchanged = some final ∧
      ((final.state.storedOf observedService).map StoredSubmission.submission = [submission1,submission2]) ∧
      Kept deployedPrimitives plainConfig final.state := by
  obtain ⟨final,reached,stored⟩ := run_any (P2pLoop.step deployedPrimitives deployedSerde) (.new plainConfig) exchanged
    (fun final => (final.state.storedOf observedService).map StoredSubmission.submission = [submission1,submission2])
    (by decide +kernel)
  exact ⟨final,reached,of_decide_eq_true stored,
    (p2p_state_invariant deployedPrimitives deployedSerde exchanged final reached).1⟩

end Warpdrive.Aggregator.P2p
