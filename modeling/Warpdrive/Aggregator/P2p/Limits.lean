import Warpdrive.Aggregator.P2p.Storage

/-! The limits of the stored and the pending submissions. Under a limit of zero the eviction of a
store takes from an empty vector and panics, and a full queue of pending publishes is pushed to all
the same. Every other limit is kept. -/
namespace Warpdrive.Aggregator.P2p

open Warpdrive.Foundation Warpdrive.Foundation.Execution Warpdrive.Types

variable (prim : Primitives) (serde : SubmissionSerde)

/-- The publish of a service gets past the subscription to its topic. -/
def Admitted (state : EventLoopState) (serviceId : ServiceId) (swarm : SwarmAnswers) : Prop :=
  serviceTopicName serviceId ∈ state.subscribedTopics ∨ swarm.subscribe = .ok ()

/-- The submission that the event gives to `store_submission`. -/
def Stores (state : EventLoopState) (submission : Submission) : Event → Prop
  | .command (.publish published) _ swarm => Admitted state published.serviceId swarm ∧ published = submission
  | event => Gossips serde submission event

/-- The event comes to queue a publish. -/
def Queues (state : EventLoopState) : Event → Prop
  | .command (.publish published) _ swarm => Admitted state published.serviceId swarm ∧
      (∃ data, serde.toVec published = .ok data) ∧ swarm.publish 0 = .error .noPeersSubscribedToTopic
  | _ => False

/-- The limits leave room for what the event stores and queues. -/
structure Roomy (config : P2pConfig) (state : EventLoopState) (event : Event) : Prop where
  store : ∀ submission signer, Stores serde state submission event → submission.signer prim = .ok signer →
    config.maxStoredSubmissionsPerService ≠ 0
  queue : Queues serde state event → config.maxPendingPublishes ≠ 0

structure Within (config : P2pConfig) (state : EventLoopState) : Prop where
  settled : state.config = config
  stored : ∀ serviceId, (state.storedOf serviceId).length ≤ config.maxStoredSubmissionsPerService
  pending : state.pendingPublishes.length ≤ config.maxPendingPublishes

variable {config : P2pConfig}

theorem within_new : Within config (.new config) := ⟨rfl,fun _ => Nat.zero_le _,Nat.zero_le _⟩

theorem Within.framed {state : EventLoopState} (within : Within config state)
    (requested : HashMap ServiceId (HashSet PeerId)) (addresses : List String) :
    Within config {state with catchupRequestedPeers := requested,listenAddresses := addresses} :=
  ⟨within.settled,within.stored,within.pending⟩

theorem Within.subscribeTo {state : EventLoopState} (within : Within config state) (serviceId : ServiceId) :
    Within config (state.subscribeTo serviceId) :=
  ⟨within.settled,within.stored,within.pending⟩

theorem Within.store {state next : EventLoopState} (within : Within config state) (now : Nat) (submission : Submission)
    (stored : state.storeSubmission prim now submission = some next) : Within config next := by
  rcases state.storeSubmission_cases prim now submission next stored with rfl | ⟨signer,left,_,_,made,rfl⟩
  · exact within
  refine ⟨within.settled,?_,within.pending⟩
  intro serviceId
  rw [state.storedOf_insert]
  split
  · have small := (makeRoom_some _ _ _ made).2
    rw [within.settled] at small
    rw [List.length_append,List.length_singleton]
    exact small
  · exact within.stored serviceId

/-- Within the limits a limit of zero means an empty store, so nothing is a duplicate. -/
theorem Within.storeSubmission_eq_none {state : EventLoopState} (within : Within config state) (now : Nat)
    (submission : Submission) : state.storeSubmission prim now submission = none ↔
      config.maxStoredSubmissionsPerService = 0 ∧ ∃ signer, submission.signer prim = .ok signer := by
  rw [state.storeSubmission_eq_none,within.settled]
  constructor
  · rintro ⟨zero,signer,recovered,_⟩
    exact ⟨zero,signer,recovered⟩
  · rintro ⟨zero,signer,recovered⟩
    refine ⟨zero,signer,recovered,?_⟩
    have small := within.stored submission.serviceId
    rw [zero] at small
    rw [List.length_eq_zero_iff.mp (Nat.le_zero.mp small)]
    exact fun _ member => absurd member List.not_mem_nil

theorem Within.queuePublish_iff {state : EventLoopState} (within : Within config state) (pending : PendingPublish) :
    Within config (state.queuePublish pending) ↔ config.maxPendingPublishes ≠ 0 := by
  have room := within.pending
  have grown : (state.queuePublish pending).pendingPublishes.length ≤ config.maxPendingPublishes ↔
      config.maxPendingPublishes ≠ 0 := by
    simp only [EventLoopState.queuePublish,within.settled,List.length_append,List.length_singleton]
    split
    · rw [List.length_drop]
      omega
    · omega
  rw [← grown]
  exact ⟨Within.pending,fun few => ⟨within.settled,within.stored,few⟩⟩

/-- A publish on a topic that is subscribed to ends within the limits when they leave room. -/
theorem Within.publishSubscribed_iff {state : EventLoopState} (within : Within config state) (submission : Submission)
    (now : Nat) (swarm : SwarmAnswers) :
    (∃ next, state.publishSubscribed prim serde submission.serviceId submission now swarm = some next ∧
        Within config next) ↔
      ((∃ signer, submission.signer prim = .ok signer) → config.maxStoredSubmissionsPerService ≠ 0) ∧
        ((∃ data, serde.toVec submission = .ok data) ∧ swarm.publish 0 = .error .noPeersSubscribedToTopic →
          config.maxPendingPublishes ≠ 0) := by
  have panics := within.storeSubmission_eq_none prim now submission
  unfold EventLoopState.publishSubscribed
  cases stored : state.storeSubmission prim now submission with
  | none =>
    obtain ⟨zero,signed⟩ := panics.mp stored
    refine iff_of_false (by simp) ?_
    rintro ⟨room,_⟩
    exact room signed zero
  | some middle =>
    have room : (∃ signer, submission.signer prim = .ok signer) → config.maxStoredSubmissionsPerService ≠ 0 := by
      intro signed zero
      rw [panics.mpr ⟨zero,signed⟩] at stored
      cases stored
    rw [and_iff_right room]
    have inside := within.store prim now submission stored
    simp only [Option.map_some,Option.some.injEq,exists_eq_left']
    cases encoded : serde.toVec submission with
    | error error => simp [inside]
    | ok data =>
      cases answered : swarm.publish 0 with
      | ok done => simp [inside]
      | error error =>
        cases error with
        | noPeersSubscribedToTopic => simp [inside.queuePublish_iff]
        | other reason => simp [inside]

theorem Within.unsubscribe {state : EventLoopState} (within : Within config state) (serviceId : ServiceId)
    (swarm : SwarmAnswers) : Within config (state.handleUnsubscribe serviceId swarm) := by
  rcases state.handleUnsubscribe_cases serviceId swarm with ⟨same,_⟩ | ⟨_,dropped⟩
  · rw [same]
    exact within
  have fewer := fun other => state.storedOf_removed (state.handleUnsubscribe serviceId swarm) serviceId other
    (by rw [dropped])
  refine ⟨?_,?_,?_⟩
  · rw [dropped]
    exact within.settled
  · intro other
    rw [fewer]
    split
    · exact Nat.zero_le _
    · exact within.stored other
  · rw [dropped]
    exact (List.length_filter_le _ _).trans within.pending

theorem Within.cleanup {state : EventLoopState} (within : Within config state) (now : Nat) :
    Within config (state.cleanupExpiredSubmissions now) := by
  refine ⟨within.settled,?_,within.pending⟩
  intro serviceId
  rw [state.storedOf_retained]
  exact (List.length_filter_le _ _).trans (within.stored serviceId)

theorem length_retryItems (now maxAge : Nat) (publish : Nat → Except PublishError Unit) (call : Nat)
    (items : List PendingPublish) : (EventLoopState.retryItems now maxAge publish call items).length ≤ items.length := by
  induction items generalizing call with
  | nil => exact Nat.le_refl _
  | cons item rest ih =>
    unfold EventLoopState.retryItems
    split
    · exact (ih call).trans (Nat.le_succ _)
    · split
      · exact (ih (call + 1)).trans (Nat.le_succ _)
      · exact Nat.succ_le_succ (ih (call + 1))

theorem Within.retry {state : EventLoopState} (within : Within config state) (now : Nat) (swarm : SwarmAnswers) :
    Within config (state.retryPendingPublishes now swarm) := by
  unfold EventLoopState.retryPendingPublishes
  split
  · exact within
  · exact ⟨within.settled,within.stored,(length_retryItems _ _ _ _ _).trans within.pending⟩

theorem Within.subscribe {state : EventLoopState} (within : Within config state) (serviceId : ServiceId)
    (swarm : SwarmAnswers) : Within config (state.handleSubscribe serviceId swarm).1 := by
  rcases state.handleSubscribe_cases serviceId swarm with same | ⟨_,_,requested,same⟩
  · rw [same]
    exact within
  · rw [same]
    exact (within.subscribeTo serviceId).framed requested _

theorem roomy_publish_iff (state : EventLoopState) (submission : Submission) (now : Nat) (swarm : SwarmAnswers) :
    Roomy prim serde config state (.command (.publish submission) now swarm) ↔
      (Admitted state submission.serviceId swarm →
        ((∃ signer, submission.signer prim = .ok signer) → config.maxStoredSubmissionsPerService ≠ 0) ∧
          ((∃ data, serde.toVec submission = .ok data) ∧ swarm.publish 0 = .error .noPeersSubscribedToTopic →
            config.maxPendingPublishes ≠ 0)) := by
  constructor
  · rintro ⟨store,queue⟩ admitted
    refine ⟨?_,fun both => queue ⟨admitted,both⟩⟩
    rintro ⟨signer,recovered⟩
    exact store submission signer ⟨admitted,rfl⟩ recovered
  · intro room
    constructor
    · rintro _ signer ⟨admitted,rfl⟩ recovered
      exact (room admitted).1 ⟨signer,recovered⟩
    · rintro ⟨admitted,both⟩
      exact (room admitted).2 both

theorem Within.publish_iff {state : EventLoopState} (within : Within config state) (submission : Submission)
    (now : Nat) (swarm : SwarmAnswers) :
    (∃ after, state.handlePublish prim serde submission.serviceId submission now swarm = some after ∧
        Within config after) ↔ Roomy prim serde config state (.command (.publish submission) now swarm) := by
  rw [roomy_publish_iff]
  unfold EventLoopState.handlePublish
  by_cases known : serviceTopicName submission.serviceId ∈ state.subscribedTopics
  · simp only [Admitted,known,if_true,true_or,forall_const]
    exact within.publishSubscribed_iff prim serde submission now swarm
  · rw [if_neg known]
    cases answered : swarm.subscribe with
    | error error => simp [Admitted,known,answered,within]
    | ok done =>
      simp only [Admitted,known,answered,false_or,forall_const]
      exact (within.subscribeTo submission.serviceId).publishSubscribed_iff prim serde submission now swarm

theorem Within.gossip_iff {state : EventLoopState} (within : Within config state) (source : PeerId) (topic : String)
    (data : List UInt8) (now : Nat) :
    (∃ after effects, state.handleGossipMessage prim serde source topic data now = some (after,effects) ∧
        Within config after) ↔ Roomy prim serde config state (.gossip source topic data now) := by
  rcases handleGossip_cases prim serde state source topic data now with
    ⟨ignored,unnamed⟩ | ⟨submission,⟨parsed,named⟩,stores⟩
  · exact iff_of_true ⟨state,[],ignored,within⟩
      ⟨fun submission _ stored => (unnamed submission stored).elim,fun queued => queued.elim⟩
  rw [stores]
  have panics := within.storeSubmission_eq_none prim now submission
  cases stored : state.storeSubmission prim now submission with
  | none =>
    obtain ⟨zero,signer,recovered⟩ := panics.mp stored
    refine iff_of_false (by simp) ?_
    intro room
    exact room.store submission signer ⟨parsed,named⟩ recovered zero
  | some next =>
    refine iff_of_true ⟨next,_,rfl,within.store prim now submission stored⟩ ⟨?_,fun queued => queued.elim⟩
    rintro other signer ⟨found,_⟩ recovered zero
    rw [parsed] at found
    cases found
    rw [panics.mpr ⟨zero,signer,recovered⟩] at stored
    cases stored

/-- An event is handled without a panic and within the limits when they leave room for it. -/
theorem Within.handle_iff {state : EventLoopState} (within : Within config state) (event : Event) :
    (∃ after effects, state.handle prim serde event = some (after,effects) ∧ Within config after) ↔
      Roomy prim serde config state event := by
  have kept : ∀ after effects, state.handle prim serde event = some (after,effects) → Within config after →
      (∀ submission, ¬Stores serde state submission event) → ¬Queues serde state event →
      ((∃ after effects, state.handle prim serde event = some (after,effects) ∧ Within config after) ↔
        Roomy prim serde config state event) := by
    intro after effects handled inside stores queues
    exact iff_of_true ⟨after,effects,handled,inside⟩
      ⟨fun submission _ stored => (stores submission stored).elim,fun queued => (queues queued).elim⟩
  have framed : ∀ after effects, event.quiet = true → state.handle prim serde event = some (after,effects) →
      Within config after := by
    intro after effects quiet handled
    obtain ⟨requested,addresses,rfl⟩ := handle_quiet prim serde state after event effects quiet handled
    exact within.framed requested addresses
  cases event with
  | command call now swarm =>
    cases call with
    | publish submission =>
      rw [← within.publish_iff prim serde submission now swarm]
      constructor
      · rintro ⟨after,effects,handled,inside⟩
        obtain ⟨next,published,same⟩ := Option.map_eq_some_iff.mp handled
        cases same
        exact ⟨after,published,inside⟩
      · rintro ⟨after,published,inside⟩
        exact ⟨after,[],Option.map_eq_some_iff.mpr ⟨after,published,rfl⟩,inside⟩
    | subscribe serviceId => exact kept _ _ rfl (within.subscribe serviceId swarm) (fun _ => id) id
    | unsubscribe serviceId => exact kept _ _ rfl (within.unsubscribe serviceId swarm) (fun _ => id) id
    | getStatus => exact kept _ _ rfl within (fun _ => id) id
  | gossip source topic data now => exact within.gossip_iff prim serde source topic data now
  | retryTick now swarm => exact kept _ _ rfl (within.retry now swarm) (fun _ => id) id
  | cleanupTick now => exact kept _ _ rfl (within.cleanup now) (fun _ => id) id
  | catchupRequest peer serviceId now => exact kept _ _ rfl (framed _ _ rfl rfl) (fun _ => id) id
  | catchupResponse peer asked submissions => exact kept _ _ rfl (framed _ _ rfl rfl) (fun _ => id) id
  | outboundFailure peer asked => exact kept _ _ rfl (framed _ _ rfl rfl) (fun _ => id) id
  | connectionEstablished peer => exact kept _ _ rfl (framed _ _ rfl rfl) (fun _ => id) id
  | connectionClosed peer => exact kept _ _ rfl (framed _ _ rfl rfl) (fun _ => id) id
  | mdnsExpired peers => exact kept _ _ rfl (framed _ _ rfl rfl) (fun _ => id) id
  | newListenAddr address => exact kept _ _ rfl (framed _ _ rfl rfl) (fun _ => id) id

/-- Along every run the limits are kept and nothing panics, exactly when each step finds room. -/
theorem limits_kept_iff (config : P2pConfig) (events : List Event) :
    Along (P2pLoop.step prim serde) (fun _ _ next => next.running = true ∧ Within config next.state) (.new config)
        events ↔
      Along (P2pLoop.step prim serde) (fun loop event _ => Roomy prim serde config loop.state event) (.new config)
        events := by
  have agree : ∀ loop event next, P2pLoop.step prim serde loop event = some next → Within config loop.state →
      (next.running = true ∧ Within config next.state ↔ Roomy prim serde config loop.state event) := by
    intro loop event next taken within
    rw [← within.handle_iff prim serde event]
    rcases (loop.step_cases prim serde next event taken).2 with ⟨panicked,rfl⟩ | ⟨state,effects,_,handled,_,rfl⟩
    · rw [panicked]
      exact iff_of_false (by simp) (by simp)
    · rw [handled]
      constructor
      · rintro ⟨_,inside⟩
        exact ⟨state,effects,rfl,inside⟩
      · rintro ⟨after,sent,same,inside⟩
        cases same
        exact ⟨rfl,inside⟩
  refine along_iff_of_invariant _ _ (fun loop => Within config loop.state) agree ?_ _ events within_new
  intro loop event next taken room within
  exact ((agree loop event next taken within).mpr room).2

def storesNone : P2pConfig := .localMode ⟨none,none,none,none,some 0,none⟩

def queuesNone : P2pConfig := .localMode ⟨none,none,none,some 0,none,none⟩

/-- One gossip message ends the loop under a limit of zero, and one publish fills a queue that may
hold none. -/
theorem zero_limits_fail :
    (∃ final, run (P2pLoop.step deployedPrimitives deployedSerde) (.new storesNone)
        [.command (.subscribe observedService) 1 (lonely []),.gossip peer1 deployedTopic json2 2] = some final ∧
        final.running = false) ∧
      ∃ final, run (P2pLoop.step deployedPrimitives deployedSerde) (.new queuesNone)
        [.command (.publish submission1) 1 (lonely [peer1])] = some final ∧
        queuesNone.maxPendingPublishes = 0 ∧ final.state.pendingPublishes.length = 1 := by
  constructor
  · obtain ⟨final,reached,ended⟩ := run_any (P2pLoop.step deployedPrimitives deployedSerde) (.new storesNone)
      [.command (.subscribe observedService) 1 (lonely []),.gossip peer1 deployedTopic json2 2]
      (fun final => !final.running) (by decide +kernel)
    exact ⟨final,reached,by simpa using ended⟩
  · obtain ⟨final,reached,queued⟩ := run_any (P2pLoop.step deployedPrimitives deployedSerde) (.new queuesNone)
      [.command (.publish submission1) 1 (lonely [peer1])]
      (fun final => final.state.pendingPublishes.length = 1) (by decide +kernel)
    exact ⟨final,reached,rfl,of_decide_eq_true queued⟩

end Warpdrive.Aggregator.P2p
