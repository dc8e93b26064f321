import Warpdrive.Aggregator.P2p.Storage

/-! A service after its unsubscribe. The catch-up path checks the subscription and the gossip path
does not, so a gossip message that is handled after the unsubscribe is stored, forwarded and served
to other peers. Without such a message nothing of the service is left or comes back. -/
namespace Warpdrive.Aggregator.P2p

open Warpdrive.Foundation Warpdrive.Foundation.Execution Warpdrive.Types

variable (prim : Primitives) (serde : SubmissionSerde)

/-- Nothing stored and nothing pending. -/
structure Absent (serviceId : ServiceId) (state : EventLoopState) : Prop where
  stored : state.storedOf serviceId = []
  pending : ∀ item ∈ state.pendingPublishes, item.topicName ≠ serviceTopicName serviceId

/-- What is pending is on a topic that is subscribed to. -/
def PendingSubscribed (state : EventLoopState) : Prop :=
  ∀ item ∈ state.pendingPublishes, item.topicName ∈ state.subscribedTopics

/-- Nothing of the service is forwarded, a catch-up request for it is answered with nothing, and
nothing of it is left behind. -/
structure Silent (serviceId : ServiceId) (loop : P2pLoop) (event : Event) (next : P2pLoop) : Prop where
  forwards : ∀ after effects, loop.state.handle prim serde event = some (after,effects) →
    ∀ submission peer, .receive submission peer ∈ effects → submission.serviceId ≠ serviceId
  answers : ∀ after effects, loop.state.handle prim serde event = some (after,effects) →
    ∀ peer submissions, .sendResponse peer serviceId submissions ∈ effects → submissions = []
  absent : Absent serviceId next.state

/-- The loop handles a gossip message of the service. Where nothing may be stored a valid one
panics instead. -/
def Late (config : P2pConfig) (serviceId : ServiceId) (event : Event) : Prop :=
  ∃ submission, Gossips serde submission event ∧ submission.serviceId = serviceId ∧
    ¬(config.maxStoredSubmissionsPerService = 0 ∧ ∃ signer, submission.signer prim = .ok signer)

/-- A subscribe or a publish of the service. -/
def Readmits (serviceId : ServiceId) : Event → Prop
  | .command (.subscribe other) _ _ => other = serviceId
  | .command (.publish submission) _ _ => submission.serviceId = serviceId
  | _ => False

theorem storeSubmission_frame (state next : EventLoopState) (now : Nat) (submission : Submission)
    (stored : state.storeSubmission prim now submission = some next) :
    next.subscribedTopics = state.subscribedTopics ∧ next.subscribedServices = state.subscribedServices ∧
      next.pendingPublishes = state.pendingPublishes ∧
      ∀ other, other ≠ submission.serviceId → next.storedOf other = state.storedOf other := by
  rcases state.storeSubmission_cases prim now submission next stored with rfl | ⟨_,_,_,_,_,rfl⟩
  · exact ⟨rfl,rfl,rfl,fun _ _ => rfl⟩
  · refine ⟨rfl,rfl,rfl,?_⟩
    intro other differ
    rw [state.storedOf_insert,if_neg differ]

theorem publishSubscribed_frame (state next : EventLoopState) (serviceId : ServiceId) (submission : Submission)
    (now : Nat) (swarm : SwarmAnswers)
    (published : state.publishSubscribed prim serde serviceId submission now swarm = some next) :
    next.subscribedTopics = state.subscribedTopics ∧ next.subscribedServices = state.subscribedServices ∧
      (∀ item ∈ next.pendingPublishes, item ∈ state.pendingPublishes ∨ item.topicName = serviceTopicName serviceId) ∧
      ∀ other, other ≠ submission.serviceId → next.storedOf other = state.storedOf other := by
  obtain ⟨middle,stored,same⟩ := Option.map_eq_some_iff.mp published
  obtain ⟨topics,services,pending,others⟩ := storeSubmission_frame prim state middle now submission stored
  have unqueued : ∀ item ∈ middle.pendingPublishes,
      item ∈ state.pendingPublishes ∨ item.topicName = serviceTopicName serviceId := by
    intro item member
    exact .inl (pending ▸ member)
  subst same
  split
  · exact ⟨topics,services,unqueued,others⟩
  · split
    · refine ⟨topics,services,?_,others⟩
      intro item member
      rcases List.mem_append.mp member with earlier | last
      · refine unqueued item ?_
        split at earlier
        · exact List.mem_of_mem_drop earlier
        · exact earlier
      · rw [List.mem_singleton.mp last]
        exact .inr rfl
    · exact ⟨topics,services,unqueued,others⟩
    · exact ⟨topics,services,unqueued,others⟩

theorem mem_retryItems (now maxAge : Nat) (publish : Nat → Except PublishError Unit) (call : Nat)
    (items : List PendingPublish) (item : PendingPublish)
    (member : item ∈ EventLoopState.retryItems now maxAge publish call items) :
    ∃ earlier ∈ items, item.topicName = earlier.topicName := by
  induction items generalizing call with
  | nil => cases member
  | cons first rest ih =>
    have later : ∀ call, item ∈ EventLoopState.retryItems now maxAge publish call rest →
        ∃ earlier ∈ first::rest, item.topicName = earlier.topicName := by
      intro call member
      obtain ⟨earlier,present,same⟩ := ih call member
      exact ⟨earlier,List.mem_cons_of_mem first present,same⟩
    unfold EventLoopState.retryItems at member
    split at member
    · exact later call member
    · split at member
      · exact later _ member
      · rcases List.mem_cons.mp member with rfl | member
        · exact ⟨first,List.mem_cons_self,rfl⟩
        · exact later _ member

theorem mem_retryPendingPublishes (state : EventLoopState) (now : Nat) (swarm : SwarmAnswers) (item : PendingPublish)
    (member : item ∈ (state.retryPendingPublishes now swarm).pendingPublishes) :
    ∃ earlier ∈ state.pendingPublishes, item.topicName = earlier.topicName := by
  unfold EventLoopState.retryPendingPublishes at member
  split at member
  · exact ⟨item,member,rfl⟩
  · exact mem_retryItems _ _ _ _ _ item member

theorem retryPendingPublishes_frame (state : EventLoopState) (now : Nat) (swarm : SwarmAnswers) :
    ∃ pending, state.retryPendingPublishes now swarm = {state with pendingPublishes := pending} := by
  unfold EventLoopState.retryPendingPublishes
  split <;> exact ⟨_,rfl⟩

/-- How an event changes the subscriptions, the pending and the stored of a service, as far as
they can come from it. -/
structure Turn (serviceId : ServiceId) (state : EventLoopState) (event : Event) (after : EventLoopState) : Prop where
  subscribed : serviceId ∈ after.subscribedServices → serviceId ∈ state.subscribedServices ∨ Readmits serviceId event
  pending : (∃ item ∈ after.pendingPublishes, item.topicName = serviceTopicName serviceId) →
    (∃ item ∈ state.pendingPublishes, item.topicName = serviceTopicName serviceId) ∨ Readmits serviceId event
  stored : state.storedOf serviceId = [] → after.storedOf serviceId = [] ∨ Readmits serviceId event ∨
    ∃ submission, Gossips serde submission event ∧ submission.serviceId = serviceId

theorem turn_self (serviceId : ServiceId) (state : EventLoopState) (event : Event) :
    Turn serde serviceId state event state :=
  ⟨Or.inl,Or.inl,Or.inl⟩

theorem turn_subscribeTo (serviceId other : ServiceId) (state : EventLoopState) (event : Event)
    (readmits : other = serviceId → Readmits serviceId event) :
    Turn serde serviceId state event (state.subscribeTo other) where
  subscribed member := by
    rcases (HashSet.mem_insert _ _ _).mp member with rfl | earlier
    · exact .inr (readmits rfl)
    · exact .inl earlier
  pending := Or.inl
  stored := Or.inl

theorem Turn.trans {serviceId : ServiceId} {state middle after : EventLoopState} {event : Event}
    (first : Turn serde serviceId state event middle) (second : Turn serde serviceId middle event after) :
    Turn serde serviceId state event after where
  subscribed member := (second.subscribed member).elim first.subscribed Or.inr
  pending left := (second.pending left).elim first.pending Or.inr
  stored empty := (first.stored empty).elim second.stored Or.inr

theorem Turn.framed {serviceId : ServiceId} {state after : EventLoopState} {event : Event}
    (turn : Turn serde serviceId state event after) (requested : HashMap ServiceId (HashSet PeerId))
    (addresses : List String) :
    Turn serde serviceId state event
      {after with catchupRequestedPeers := requested,listenAddresses := addresses} :=
  ⟨turn.subscribed,turn.pending,turn.stored⟩

theorem turn_publish (serviceId : ServiceId) (state after : EventLoopState) (submission : Submission) (now : Nat)
    (swarm : SwarmAnswers)
    (published : state.handlePublish prim serde submission.serviceId submission now swarm = some after) :
    Turn serde serviceId state (.command (.publish submission) now swarm) after := by
  have inside : ∀ state, state.publishSubscribed prim serde submission.serviceId submission now swarm = some after →
      Turn serde serviceId state (.command (.publish submission) now swarm) after := by
    intro state published
    obtain ⟨_,services,pending,others⟩ := publishSubscribed_frame prim serde state after _ _ now swarm published
    refine ⟨fun member => .inl (services ▸ member),?_,?_⟩
    · rintro ⟨item,member,named⟩
      rcases pending item member with earlier | same
      · exact .inl ⟨item,earlier,named⟩
      · exact .inr (serviceTopicName_injective (same.symm.trans named))
    · intro empty
      by_cases same : serviceId = submission.serviceId
      · exact .inr (.inl same.symm)
      · exact .inl ((others serviceId same).trans empty)
  unfold EventLoopState.handlePublish at published
  split at published
  · exact inside state published
  · split at published
    · cases published
      exact turn_self serde serviceId state _
    · exact (turn_subscribeTo serde serviceId _ state _ id).trans serde (inside _ published)

theorem turn_unsubscribe (serviceId other : ServiceId) (state : EventLoopState) (event : Event)
    (swarm : SwarmAnswers) : Turn serde serviceId state event (state.handleUnsubscribe other swarm) := by
  rcases state.handleUnsubscribe_cases other swarm with ⟨same,_⟩ | ⟨_,dropped⟩
  · rw [same]
    exact turn_self serde serviceId state event
  have fewer := state.storedOf_removed (state.handleUnsubscribe other swarm) other serviceId (by rw [dropped])
  refine ⟨?_,?_,?_⟩
  · rw [dropped]
    intro member
    exact .inl ((HashSet.mem_remove _ _ _).mp member).2
  · rw [dropped]
    rintro ⟨item,member,named⟩
    exact .inl ⟨item,List.mem_of_mem_filter member,named⟩
  · intro empty
    rw [fewer]
    split
    · exact .inl rfl
    · exact .inl empty

theorem turn_handle (serviceId : ServiceId) (state after : EventLoopState) (event : Event) (effects : List Effect)
    (handled : state.handle prim serde event = some (after,effects)) : Turn serde serviceId state event after := by
  have framed : event.quiet = true → Turn serde serviceId state event after := by
    intro quiet
    obtain ⟨requested,addresses,rfl⟩ := handle_quiet prim serde state after event effects quiet handled
    exact (turn_self serde serviceId state event).framed serde requested addresses
  cases event with
  | command call now swarm =>
    cases call with
    | publish submission =>
      obtain ⟨next,published,same⟩ := Option.map_eq_some_iff.mp handled
      cases same
      exact turn_publish prim serde serviceId state after submission now swarm published
    | subscribe other =>
      have same := congrArg Prod.fst (Option.some.inj handled)
      subst same
      rcases state.handleSubscribe_cases other swarm with same | ⟨_,_,requested,same⟩
      · change Turn serde serviceId state _ (state.handleSubscribe other swarm).1
        rw [same]
        exact turn_self serde serviceId state _
      · change Turn serde serviceId state _ (state.handleSubscribe other swarm).1
        rw [same]
        exact (turn_subscribeTo serde serviceId other state _ id).framed serde requested _
    | unsubscribe other =>
      cases handled
      exact turn_unsubscribe serde serviceId other state _ swarm
    | getStatus => exact framed rfl
  | gossip source topic data now =>
    change state.handleGossipMessage prim serde source topic data now = _ at handled
    rcases handleGossip_cases prim serde state source topic data now with ⟨ignored,_⟩ | ⟨submission,named,stores⟩
    · rw [ignored] at handled
      cases handled
      exact turn_self serde serviceId state _
    · rw [stores] at handled
      obtain ⟨next,stored,same⟩ := Option.map_eq_some_iff.mp handled
      cases same
      obtain ⟨_,services,pending,others⟩ := storeSubmission_frame prim state after now submission stored
      refine ⟨fun member => .inl (services ▸ member),fun left => .inl (pending ▸ left),?_⟩
      intro empty
      by_cases same : serviceId = submission.serviceId
      · exact .inr (.inr ⟨submission,named,same.symm⟩)
      · exact .inl ((others serviceId same).trans empty)
  | retryTick now swarm =>
    cases handled
    obtain ⟨pending,same⟩ := retryPendingPublishes_frame state now swarm
    refine ⟨?_,?_,?_⟩
    · rw [same]
      exact Or.inl
    · rintro ⟨item,member,named⟩
      obtain ⟨earlier,present,equal⟩ := mem_retryPendingPublishes state now swarm item member
      exact .inl ⟨earlier,present,equal.symm.trans named⟩
    · rw [same]
      exact Or.inl
  | cleanupTick now =>
    cases handled
    refine ⟨Or.inl,Or.inl,?_⟩
    intro empty
    rw [state.storedOf_retained,empty]
    exact .inl rfl
  | catchupRequest peer asked now => exact framed rfl
  | catchupResponse peer asked submissions => exact framed rfl
  | outboundFailure peer asked => exact framed rfl
  | connectionEstablished peer => exact framed rfl
  | connectionClosed peer => exact framed rfl
  | mdnsExpired peers => exact framed rfl
  | newListenAddr address => exact framed rfl

theorem pendingSubscribed_publish (state after : EventLoopState) (submission : Submission) (now : Nat)
    (swarm : SwarmAnswers) (pending : PendingSubscribed state)
    (published : state.handlePublish prim serde submission.serviceId submission now swarm = some after) :
    PendingSubscribed after := by
  have inside : ∀ state : EventLoopState, PendingSubscribed state →
      serviceTopicName submission.serviceId ∈ state.subscribedTopics →
      state.publishSubscribed prim serde submission.serviceId submission now swarm = some after →
      PendingSubscribed after := by
    intro state pending known published
    obtain ⟨topics,_,items,_⟩ := publishSubscribed_frame prim serde state after _ _ now swarm published
    intro item member
    rw [topics]
    rcases items item member with earlier | named
    · exact pending item earlier
    · rw [named]
      exact known
  unfold EventLoopState.handlePublish at published
  split at published
  · next known => exact inside state pending known published
  · split at published
    · cases published
      exact pending
    · refine inside _ ?_ ?_ published
      · exact fun item member => (HashSet.mem_insert _ _ _).mpr (.inr (pending item member))
      · exact (HashSet.mem_insert _ _ _).mpr (.inl rfl)

theorem pendingSubscribed_handle (state after : EventLoopState) (event : Event) (effects : List Effect)
    (pending : PendingSubscribed state) (handled : state.handle prim serde event = some (after,effects)) :
    PendingSubscribed after := by
  have framed : event.quiet = true → PendingSubscribed after := by
    intro quiet
    obtain ⟨requested,addresses,rfl⟩ := handle_quiet prim serde state after event effects quiet handled
    exact pending
  cases event with
  | command call now swarm =>
    cases call with
    | publish submission =>
      obtain ⟨next,published,same⟩ := Option.map_eq_some_iff.mp handled
      cases same
      exact pendingSubscribed_publish prim serde state after submission now swarm pending published
    | subscribe other =>
      have same := congrArg Prod.fst (Option.some.inj handled)
      subst same
      change PendingSubscribed (state.handleSubscribe other swarm).1
      rcases state.handleSubscribe_cases other swarm with same | ⟨_,_,requested,same⟩
      · rw [same]
        exact pending
      · rw [same]
        exact fun item member => (HashSet.mem_insert _ _ _).mpr (.inr (pending item member))
    | unsubscribe other =>
      cases handled
      rcases state.handleUnsubscribe_cases other swarm with ⟨same,_⟩ | ⟨_,dropped⟩
      · rw [same]
        exact pending
      · rw [dropped]
        intro item member
        obtain ⟨held,differ⟩ := List.mem_filter.mp member
        exact (HashSet.mem_remove _ _ _).mpr ⟨of_decide_eq_true differ,pending item held⟩
    | getStatus => exact framed rfl
  | gossip source topic data now =>
    change state.handleGossipMessage prim serde source topic data now = _ at handled
    rcases handleGossip_cases prim serde state source topic data now with ⟨ignored,_⟩ | ⟨submission,_,stores⟩
    · rw [ignored] at handled
      cases handled
      exact pending
    · rw [stores] at handled
      obtain ⟨next,stored,same⟩ := Option.map_eq_some_iff.mp handled
      cases same
      obtain ⟨topics,_,items,_⟩ := storeSubmission_frame prim state after now submission stored
      unfold PendingSubscribed
      rw [topics,items]
      exact pending
  | retryTick now swarm =>
    cases handled
    intro item member
    obtain ⟨earlier,present,same⟩ := mem_retryPendingPublishes state now swarm item member
    obtain ⟨left,framed⟩ := retryPendingPublishes_frame state now swarm
    rw [framed,same]
    exact pending earlier present
  | cleanupTick now =>
    cases handled
    exact pending
  | catchupRequest peer asked now => exact framed rfl
  | catchupResponse peer asked submissions => exact framed rfl
  | outboundFailure peer asked => exact framed rfl
  | connectionEstablished peer => exact framed rfl
  | connectionClosed peer => exact framed rfl
  | mdnsExpired peers => exact framed rfl
  | newListenAddr address => exact framed rfl

variable {config : P2pConfig}

/-- The service is not subscribed to and nothing of it is held. -/
structure Gone (config : P2pConfig) (serviceId : ServiceId) (state : EventLoopState) : Prop
    extends Absent serviceId state where
  kept : Kept prim config state
  unsubscribed : serviceId ∉ state.subscribedServices

theorem Gone.next {serviceId : ServiceId} {loop next : P2pLoop} (gone : Gone prim config serviceId loop.state)
    (event : Event) (quiet : ¬Readmits serviceId event) (taken : P2pLoop.step prim serde loop event = some next)
    (absent : Absent serviceId next.state) : Gone prim config serviceId next.state := by
  refine {toAbsent := absent,kept := gone.kept.step prim serde event taken,unsubscribed := ?_}
  rcases (loop.step_cases prim serde next event taken).2 with ⟨_,rfl⟩ | ⟨state,effects,_,handled,_,rfl⟩
  · exact gone.unsubscribed
  · intro member
    rcases (turn_handle prim serde serviceId _ _ event effects handled).subscribed member with earlier | readmitted
    · exact gone.unsubscribed earlier
    · exact quiet readmitted

/-- Of a service that is gone a step stays silent unless it handles a late gossip message. -/
theorem Gone.silent_iff {serviceId : ServiceId} {loop next : P2pLoop} (gone : Gone prim config serviceId loop.state)
    (event : Event) (quiet : ¬Readmits serviceId event) (taken : P2pLoop.step prim serde loop event = some next) :
    Silent prim serde serviceId loop event next ↔ ¬Late prim serde config serviceId event := by
  constructor
  · rintro silent ⟨submission,named,own,room⟩
    cases event with
    | gossip source topic data now =>
      rcases handleGossip_cases prim serde loop.state source topic data now with ⟨_,unnamed⟩ | ⟨other,named',stores⟩
      · exact unnamed submission named
      · have same : other = submission := by
          have found := named'.1.symm.trans named.1
          exact Except.ok.inj found
        subst same
        cases stored : loop.state.storeSubmission prim now other with
        | none =>
          obtain ⟨zero,signer,recovered,_⟩ := (loop.state.storeSubmission_eq_none prim now other).mp stored
          rw [gone.kept.settled] at zero
          exact room ⟨zero,signer,recovered⟩
        | some state =>
          rw [stored] at stores
          exact silent.forwards state _ stores other _ List.mem_cons_self own
    | _ => exact named
  · intro timely
    have unnamed : ∀ submission, Gossips serde submission event → submission.serviceId = serviceId →
        loop.state.handle prim serde event = none := by
      intro submission named own
      have full : config.maxStoredSubmissionsPerService = 0 ∧ ∃ signer, submission.signer prim = .ok signer := by
        by_contra room
        exact timely ⟨submission,named,own,room⟩
      obtain ⟨zero,signer,recovered⟩ := full
      cases event with
      | gossip source topic data now =>
        rcases handleGossip_cases prim serde loop.state source topic data now with ⟨_,unnamed⟩ | ⟨other,named',stores⟩
        · exact (unnamed submission named).elim
        · have same : other = submission := Except.ok.inj (named'.1.symm.trans named.1)
          subst same
          have panics := (loop.state.storeSubmission_eq_none prim now other).mpr
            ⟨by rw [gone.kept.settled]; exact zero,signer,recovered,by
              rw [own,gone.stored]
              exact fun _ member => absurd member List.not_mem_nil⟩
          change loop.state.handleGossipMessage prim serde source topic data now = none
          rw [stores,panics]
          rfl
      | _ => exact named.elim
    refine ⟨?_,?_,?_⟩
    · intro after effects handled submission peer sent own
      rcases effect_from prim serde loop.state after event effects handled _ sent with named | ⟨subscribed,_⟩
      · rw [unnamed submission named own] at handled
        cases handled
      · rw [own] at subscribed
        exact gone.unsubscribed subscribed
    · intro after effects handled peer submissions sent
      obtain ⟨now,_,answered⟩ := effect_from prim serde loop.state after event effects handled _ sent
      rw [answered,EventLoopState.getSubmissionsForCatchup,gone.stored,List.filter_nil,List.take_nil,List.map_nil]
    · rcases (loop.step_cases prim serde next event taken).2 with ⟨_,rfl⟩ | ⟨state,effects,_,handled,_,rfl⟩
      · exact gone.toAbsent
      · have turn := turn_handle prim serde serviceId _ _ event effects handled
        constructor
        · rcases turn.stored gone.stored with empty | readmitted | ⟨submission,named,own⟩
          · exact empty
          · exact (quiet readmitted).elim
          · rw [unnamed submission named own] at handled
            cases handled
        · intro item member named
          rcases turn.pending ⟨item,member,named⟩ with ⟨earlier,present,same⟩ | readmitted
          · exact gone.pending earlier present same
          · exact quiet readmitted

theorem unsubscribed_stays_silent_iff (config : P2pConfig) (serviceId : ServiceId) (first rest : List Event)
    (before after : P2pLoop) (now : Nat) (swarm : SwarmAnswers)
    (reached : run (P2pLoop.step prim serde) (.new config) first = some before)
    (unsubscribed : P2pLoop.step prim serde before (.command (.unsubscribe serviceId) now swarm) = some after)
    (granted : swarm.unsubscribe = true) (untouched : ∀ event ∈ rest, ¬Readmits serviceId event) :
    (Absent serviceId after.state ∧ Along (P2pLoop.step prim serde) (Silent prim serde serviceId) after rest) ↔
      (serviceId ∈ before.state.subscribedServices ∨ before.state.storedOf serviceId = []) ∧
        Along (P2pLoop.step prim serde) (fun _ event _ => ¬Late prim serde config serviceId event) after rest := by
  have held : Kept prim config before.state ∧ PendingSubscribed before.state := by
    refine invariant (fun loop => Kept prim config loop.state ∧ PendingSubscribed loop.state) ?_ _ before first reached
      ⟨kept_new prim,fun _ member => absurd member List.not_mem_nil⟩
    rintro loop event next taken ⟨kept,pending⟩
    refine ⟨kept.step prim serde event taken,?_⟩
    rcases (loop.step_cases prim serde next event taken).2 with ⟨_,rfl⟩ | ⟨state,effects,_,handled,_,rfl⟩
    · exact pending
    · exact pendingSubscribed_handle prim serde _ _ event effects pending handled
  obtain ⟨kept,pending⟩ := held
  have outcome : after.state = before.state.handleUnsubscribe serviceId swarm := by
    rcases (before.step_cases prim serde after _ unsubscribed).2 with ⟨panicked,_⟩ | ⟨state,effects,_,handled,_,rfl⟩
    · cases panicked
    · cases handled
      rfl
  have dropped : serviceId ∉ after.state.subscribedServices ∧
      (Absent serviceId after.state ↔
        serviceId ∈ before.state.subscribedServices ∨ before.state.storedOf serviceId = []) := by
    rw [outcome]
    rcases before.state.handleUnsubscribe_cases serviceId swarm with ⟨same,unknown | refused⟩ | ⟨known,removed⟩
    · rw [kept.mem_topics] at unknown
      rw [same]
      refine ⟨unknown,fun absent => .inr absent.stored,?_⟩
      rintro (known | empty)
      · exact (unknown known).elim
      · refine ⟨empty,?_⟩
        intro item member named
        have subscribed := pending item member
        rw [named,kept.mem_topics] at subscribed
        exact unknown subscribed
    · rw [granted] at refused
      cases refused
    · rw [kept.mem_topics] at known
      rw [removed]
      refine ⟨fun member => ((HashSet.mem_remove _ _ _).mp member).1 rfl,iff_of_true ?_ (.inl known)⟩
      constructor
      · simp [EventLoopState.storedOf]
      · intro item member
        exact of_decide_eq_true (List.mem_filter.mp member).2
  rw [← dropped.2]
  refine and_congr_right ?_
  intro absent
  refine along_iff_of_allowed _ _ (fun loop => Gone prim config serviceId loop.state)
    (fun event => ¬Readmits serviceId event) ?_ ?_ after rest untouched
    {toAbsent := absent,kept := kept.step prim serde _ unsubscribed,unsubscribed := dropped.1}
  · intro loop event next quiet taken gone
    exact gone.silent_iff prim serde event quiet taken
  · intro loop event next quiet taken timely gone
    have silent := (gone.silent_iff prim serde event quiet taken).mpr timely
    exact gone.next prim serde event quiet taken silent.absent

def unsubscribing : Event := .command (.unsubscribe observedService) 3 (lonely [])

def subscribedOnce : List Event :=
  [.command (.subscribe observedService) 1 (lonely []),.gossip peer1 deployedTopic json1 2]

/-- A message that the swarm received before the unsubscribe is forwarded and served after it. -/
theorem late_gossip_served :
    ∃ after, run (P2pLoop.step deployedPrimitives deployedSerde) (.new plainConfig)
        (subscribedOnce ++ [unsubscribing]) = some after ∧
      (observedService ∉ after.state.subscribedServices ∧
        (after.state.handle deployedPrimitives deployedSerde (.gossip peer1 deployedTopic json2 4)).any
          (fun result => result.2 = [.receive submission2 (.other peer1.text)] ∧
            result.1.handleCatchupRequest peer2 observedService 5 =
              [.sendResponse peer2 observedService [submission2]]) = true) := by
  obtain ⟨after,reached,late⟩ := run_any (P2pLoop.step deployedPrimitives deployedSerde) (.new plainConfig)
    (subscribedOnce ++ [unsubscribing]) (fun after => observedService ∉ after.state.subscribedServices ∧
      (after.state.handle deployedPrimitives deployedSerde (.gossip peer1 deployedTopic json2 4)).any
        (fun result => result.2 = [.receive submission2 (.other peer1.text)] ∧
          result.1.handleCatchupRequest peer2 observedService 5 =
            [.sendResponse peer2 observedService [submission2]]) = true) (by decide +kernel)
  exact ⟨after,reached,of_decide_eq_true late⟩

theorem timely_gossip_silent :
    ∃ before after, run (P2pLoop.step deployedPrimitives deployedSerde) (.new plainConfig) subscribedOnce =
        some before ∧ P2pLoop.step deployedPrimitives deployedSerde before unsubscribing = some after ∧
      Absent observedService after.state ∧ Along (P2pLoop.step deployedPrimitives deployedSerde)
        (Silent deployedPrimitives deployedSerde observedService) after [.catchupRequest peer2 observedService 5] := by
  obtain ⟨before,reached,tests⟩ := run_any (P2pLoop.step deployedPrimitives deployedSerde) (.new plainConfig)
    subscribedOnce (fun before => observedService ∈ before.state.subscribedServices ∧
      (P2pLoop.step deployedPrimitives deployedSerde before unsubscribing).isSome) (by decide +kernel)
  obtain ⟨subscribed,enabled⟩ := of_decide_eq_true tests
  obtain ⟨after,taken⟩ := Option.isSome_iff_exists.mp enabled
  have untouched : ∀ event ∈ [Event.catchupRequest peer2 observedService 5], ¬Readmits observedService event := by
    intro event member
    rw [List.mem_singleton.mp member]
    exact id
  refine ⟨before,after,reached,taken,(unsubscribed_stays_silent_iff deployedPrimitives deployedSerde plainConfig
    observedService subscribedOnce _ before after 3 (lonely []) reached taken rfl untouched).mpr
      ⟨.inl subscribed,?_⟩⟩
  refine along_of_forall _ after _ ?_
  intro event member loop next
  rw [List.mem_singleton.mp member]
  rintro ⟨submission,named,_⟩
  exact named

end Warpdrive.Aggregator.P2p
