import Warpdrive.Foundation.Messages
import Warpdrive.Aggregator.P2p.Storage

/-! A network of nodes that run the event loop (`aggregator/p2p.rs`). Gossip, catch-up requests and responses
arrive late, again or never, and outsiders send what they like. What a node hands to its aggregator was given to
some node to publish, or came from an outsider. -/
namespace Warpdrive.Aggregator.P2p

open Warpdrive.Foundation Warpdrive.Foundation.Execution Warpdrive.Foundation.Messages Warpdrive.Types

variable (prim : Primitives) (serde : SubmissionSerde)

namespace EventLoopState

variable (self : EventLoopState)

/-- What stays in the queue is what was in it. -/
theorem mem_retryItems (now maxAge : Nat) (publish : Nat → Except PublishError Unit) (call : Nat)
    (items : List PendingPublish) (item : PendingPublish) (left : item ∈ retryItems now maxAge publish call items) :
    ∃ before ∈ items, before.data = item.data := by
  induction items generalizing call with
  | nil => cases left
  | cons first rest ih =>
    unfold retryItems at left
    have later : ∀ call, item ∈ retryItems now maxAge publish call rest →
        ∃ before ∈ first::rest, before.data = item.data := by
      intro call member
      obtain ⟨before,inside,same⟩ := ih call member
      exact ⟨before,List.mem_cons_of_mem _ inside,same⟩
    split at left
    · exact later _ left
    · split at left
      · exact later _ left
      · rcases List.mem_cons.mp left with rfl | rest
        · exact ⟨first,List.mem_cons_self,rfl⟩
        · exact later _ rest

end EventLoopState

/-- What is written of the submission is read as that submission, if at all. -/
def Faithful (submission : Submission) : Prop :=
  ∀ data read, serde.toVec submission = .ok data → serde.fromSlice data = .ok read → read = submission

/-- The bytes are read as a known submission, if at all. -/
def Speaks (known : Submission → Prop) (data : List UInt8) : Prop :=
  ∀ submission, serde.fromSlice data = .ok submission → known submission

structure Holds (known : Submission → Prop) (state : EventLoopState) : Prop where
  stored : ∀ serviceId, ∀ stored ∈ state.storedOf serviceId, known stored.submission
  pending : ∀ item ∈ state.pendingPublishes, Speaks serde known item.data

variable {prim serde} {known : Submission → Prop} {state next : EventLoopState}

theorem Holds.store (holds : Holds serde known state) (now : Nat) (submission : Submission) (fresh : known submission)
    (stored : state.storeSubmission prim now submission = some next) : Holds serde known next := by
  rcases state.storeSubmission_cases prim now submission next stored with rfl | ⟨signer,left,_,_,made,rfl⟩
  · exact holds
  obtain ⟨suffix,_⟩ := makeRoom_some _ _ _ made
  refine ⟨?_,holds.pending⟩
  intro serviceId s member
  rw [state.storedOf_insert] at member
  split at member
  · rcases List.mem_append.mp member with earlier | last
    · exact holds.stored _ s (suffix.sublist.subset earlier)
    · exact List.mem_singleton.mp last ▸ fresh
  · exact holds.stored serviceId s member

theorem Holds.publish (holds : Holds serde known state) (submission : Submission) (fresh : known submission)
    (faithful : Faithful serde submission) (now : Nat) (swarm : SwarmAnswers)
    (published : state.handlePublish prim serde submission.serviceId submission now swarm = some next) :
    Holds serde known next := by
  have subscribed : ∀ before : EventLoopState, Holds serde known before →
      before.publishSubscribed prim serde submission.serviceId submission now swarm = some next →
      Holds serde known next := by
    intro before held done
    obtain ⟨middle,stored,same⟩ := Option.map_eq_some_iff.mp done
    have inside := held.store now submission fresh stored
    subst same
    split
    · exact inside
    next data written =>
      split
      · refine ⟨inside.stored,?_⟩
        intro item member
        rcases List.mem_append.mp member with kept | last
        · refine inside.pending item ?_
          split at kept
          · exact List.mem_of_mem_drop kept
          · exact kept
        · rw [List.mem_singleton.mp last]
          intro other read
          rw [faithful data other written read]
          exact fresh
      · exact inside
      · exact inside
  unfold EventLoopState.handlePublish at published
  split at published
  · exact subscribed state holds published
  · split at published
    · cases published
      exact holds
    · exact subscribed (state.subscribeTo submission.serviceId) ⟨holds.stored,holds.pending⟩ published

theorem Holds.unsubscribe (holds : Holds serde known state) (serviceId : ServiceId) (swarm : SwarmAnswers) :
    Holds serde known (state.handleUnsubscribe serviceId swarm) := by
  rcases state.handleUnsubscribe_cases serviceId swarm with ⟨same,_⟩ | ⟨_,dropped⟩
  · rw [same]
    exact holds
  constructor
  · intro other s member
    rw [state.storedOf_removed _ serviceId other (by rw [dropped])] at member
    split at member
    · cases member
    · exact holds.stored other s member
  · rw [dropped]
    exact fun item member => holds.pending item (List.mem_of_mem_filter member)

/-- What an event brings to the node. -/
def Brings (serde : SubmissionSerde) (known : Submission → Prop) : Event → Prop
  | .command (.publish submission) _ _ => known submission ∧ Faithful serde submission
  | .gossip _ _ data _ => Speaks serde known data
  | .catchupResponse _ _ submissions => ∀ submission ∈ submissions, known submission
  | _ => True

theorem Holds.handle (holds : Holds serde known state) (event : Event) (brings : Brings serde known event)
    (effects : List Effect) (handled : state.handle prim serde event = some (next,effects)) :
    Holds serde known next := by
  have framed : event.quiet = true → Holds serde known next := by
    intro quiet
    obtain ⟨requested,addresses,rfl⟩ := handle_quiet prim serde state next event effects quiet handled
    exact ⟨holds.stored,holds.pending⟩
  cases event with
  | command call now swarm =>
    cases call with
    | publish submission =>
      obtain ⟨after,published,same⟩ := Option.map_eq_some_iff.mp handled
      cases same
      exact holds.publish submission brings.1 brings.2 now swarm published
    | subscribe serviceId =>
      have same := congrArg Prod.fst (Option.some.inj handled)
      subst same
      rcases state.handleSubscribe_cases serviceId swarm with same | ⟨_,_,requested,same⟩
      · rw [same]
        exact holds
      · rw [same]
        exact ⟨holds.stored,holds.pending⟩
    | unsubscribe serviceId =>
      cases handled
      exact holds.unsubscribe serviceId swarm
    | getStatus => exact framed rfl
  | gossip source topic data now =>
    change state.handleGossipMessage prim serde source topic data now = _ at handled
    rcases handleGossip_cases prim serde state source topic data now with ⟨ignored,_⟩ | ⟨submission,named,stored⟩
    · rw [ignored] at handled
      cases handled
      exact holds
    · rw [stored] at handled
      obtain ⟨after,stored,same⟩ := Option.map_eq_some_iff.mp handled
      cases same
      exact holds.store now submission (brings submission named.1) stored
  | retryTick now swarm =>
    cases handled
    unfold EventLoopState.retryPendingPublishes
    split
    · exact holds
    · refine ⟨holds.stored,?_⟩
      intro item member
      obtain ⟨before,inside,same⟩ := EventLoopState.mem_retryItems _ _ _ _ _ item member
      exact same ▸ holds.pending before inside
  | cleanupTick now =>
    cases handled
    refine ⟨?_,holds.pending⟩
    intro serviceId s member
    rw [state.storedOf_retained] at member
    exact holds.stored serviceId s (List.mem_of_mem_filter member)
  | catchupRequest peer serviceId now => exact framed rfl
  | catchupResponse peer asked submissions => exact framed rfl
  | outboundFailure peer asked => exact framed rfl
  | connectionEstablished peer => exact framed rfl
  | connectionClosed peer => exact framed rfl
  | mdnsExpired peers => exact framed rfl
  | newListenAddr address => exact framed rfl

/-- `handed` is what a node gives to its own aggregator. -/
inductive Message
  | gossip (topic : String) (data : List UInt8)
  | request (origin target : PeerId) (serviceId : ServiceId)
  | response (origin target : PeerId) (serviceId : ServiceId) (submissions : List Submission)
  | handed (node : PeerId) (submission : Submission) (peer : Peer)

def Effect.message (node : PeerId) : Effect → Option Message
  | .receive submission peer => some (.handed node submission peer)
  | .sendRequest peer serviceId => some (.request node peer serviceId)
  | .sendResponse peer serviceId submissions => some (.response node peer serviceId submissions)
  | .status _ => none

variable (prim serde)

/-- The submissions in a message are known. -/
def Carries (known : Submission → Prop) : Message → Prop
  | .gossip _ data => Speaks serde known data
  | .request _ _ _ => True
  | .response _ _ _ submissions => ∀ submission ∈ submissions, known submission
  | .handed _ submission _ => known submission

variable {prim serde}

/-- Every node as it starts. -/
def started (configs : PeerId → P2pConfig) : Network PeerId P2pLoop Message := ⟨fun node => .new (configs node),[]⟩

end Warpdrive.Aggregator.P2p
