import Warpdrive.Foundation.Execution
import Warpdrive.Foundation.Maps
import Warpdrive.Types.Hex
import Warpdrive.Types.Submission

/-! The event loop of the network layer (`aggregator/p2p.rs`): commands of the aggregator, messages
of gossipsub, the catch-up protocol, retries and clean-up over one state. What the swarm answers to
a call and the time are part of an event; `serde_json` is a parameter. An instant is a number of
nanoseconds. A handler that panics has no result, and the loop handles nothing after that. -/
namespace Warpdrive.Aggregator.P2p

open Warpdrive.Foundation Warpdrive.Foundation.Execution Warpdrive.Types

/-- The fields of `P2pConfig` that the handlers read. -/
structure P2pLimits where
  maxRetryDurationSecs : Option UInt64
  submissionTtlSecs : Option UInt64
  maxCatchupSubmissions : Option Nat
  maxPendingPublishes : Option Nat
  maxStoredSubmissionsPerService : Option Nat
  maxConcurrentCatchupRequestsPerService : Option Nat

inductive P2pConfig
  | disabled
  | localMode (limits : P2pLimits)
  | remoteMode (limits : P2pLimits)

namespace P2pConfig

def defaultMaxRetryDurationSecs : UInt64 := 10

def defaultSubmissionTtlSecs : UInt64 := 300

def defaultMaxCatchupSubmissions : Nat := 100

def defaultMaxPendingPublishes : Nat := 1000

def defaultMaxStoredSubmissionsPerService : Nat := 500

def defaultMaxConcurrentCatchupRequestsPerService : Nat := 3

def limits : P2pConfig → P2pLimits
  | .disabled => ⟨none,none,none,none,none,none⟩
  | .localMode limits => limits
  | .remoteMode limits => limits

variable (self : P2pConfig)

def maxRetryDurationSecs : UInt64 := self.limits.maxRetryDurationSecs.getD defaultMaxRetryDurationSecs

def submissionTtlSecs : UInt64 := self.limits.submissionTtlSecs.getD defaultSubmissionTtlSecs

def maxCatchupSubmissions : Nat := self.limits.maxCatchupSubmissions.getD defaultMaxCatchupSubmissions

def maxPendingPublishes : Nat := self.limits.maxPendingPublishes.getD defaultMaxPendingPublishes

def maxStoredSubmissionsPerService : Nat :=
  self.limits.maxStoredSubmissionsPerService.getD defaultMaxStoredSubmissionsPerService

def maxConcurrentCatchupRequestsPerService : Nat :=
  self.limits.maxConcurrentCatchupRequestsPerService.getD defaultMaxConcurrentCatchupRequestsPerService

end P2pConfig

/-- `Duration::from_secs`. -/
def fromSecs (secs : UInt64) : Nat := secs.toNat * 1000000000

structure PeerId where
  text : String
  deriving DecidableEq

inductive Peer
  | me
  | other (name : String)
  deriving DecidableEq

def serviceTopicName (serviceId : ServiceId) : String := "wavs/" ++ serviceId.display ++ "/topic/v1"

theorem serviceTopicName_injective : Function.Injective serviceTopicName := by
  intro first second same
  have chars := congrArg String.toList same
  simp only [serviceTopicName,String.toList_append] at chars
  have displays := List.append_cancel_left (List.append_cancel_right chars)
  exact ServiceId.display_injective (String.toList_inj.mp displays)

structure PendingPublish where
  topicName : String
  data : List UInt8
  createdAt : Nat
  retries : UInt32
  deriving DecidableEq

structure StoredSubmission where
  submission : Submission
  createdAt : Nat
  deriving DecidableEq

/-- `serde_json` on a submission. -/
structure SubmissionSerde where
  toVec : Submission → Except String (List UInt8)
  fromSlice : List UInt8 → Except String Submission

inductive PublishError
  | noPeersSubscribedToTopic
  | other (reason : String)
  deriving DecidableEq

/-- What the swarm answers during one event. `publish` is asked for the first call, the second and
so on. -/
structure SwarmAnswers where
  localPeerId : PeerId
  connectedPeers : List PeerId
  externalAddresses : List String
  meshPeers : String → Nat
  subscribe : Except String Unit
  unsubscribe : Bool
  publish : Nat → Except PublishError Unit

structure P2pStatus where
  enabled : Bool
  localPeerId : Option String
  listenAddresses : List String
  externalAddresses : List String
  connectedPeers : Nat
  peerIds : List String
  subscribedTopics : List String
  topicPeerCounts : List (String × Nat)
  deriving DecidableEq

inductive Effect
  | receive (submission : Submission) (peer : Peer)
  | sendRequest (peer : PeerId) (serviceId : ServiceId)
  | sendResponse (peer : PeerId) (serviceId : ServiceId) (submissions : List Submission)
  | status (status : P2pStatus)
  deriving DecidableEq

structure EventLoopState where
  subscribedTopics : HashSet String
  subscribedServices : HashSet ServiceId
  pendingPublishes : List PendingPublish
  storedSubmissions : HashMap ServiceId (List StoredSubmission)
  catchupRequestedPeers : HashMap ServiceId (HashSet PeerId)
  config : P2pConfig
  listenAddresses : List String

/-- `while subs.len() >= max_stored { subs.remove(0); }`, where the removal from an empty vector
panics. -/
def makeRoom (maxStored : Nat) : List StoredSubmission → Option (List StoredSubmission)
  | [] => if maxStored = 0 then none else some []
  | oldest::rest => if (oldest::rest).length ≥ maxStored then makeRoom maxStored rest else some (oldest::rest)

namespace EventLoopState

def new (config : P2pConfig) : EventLoopState := ⟨.empty,.empty,[],.new,.new,config,[]⟩

variable (prim : Primitives) (serde : SubmissionSerde) (self : EventLoopState)

def storedOf (serviceId : ServiceId) : List StoredSubmission := (self.storedSubmissions.get serviceId).getD []

def requestedOf (serviceId : ServiceId) : HashSet PeerId :=
  (self.catchupRequestedPeers.get serviceId).getD .empty

def storeSubmission (now : Nat) (submission : Submission) : Option EventLoopState :=
  match submission.signer prim with
  | .error _ => some self
  | .ok signerAddr =>
    let subs := self.storedOf submission.serviceId
    if subs.any (fun s => s.submission.eventId = submission.eventId ∧ s.submission.signer prim = .ok signerAddr) then
      some self
    else
      (makeRoom self.config.maxStoredSubmissionsPerService subs).map (fun subs =>
        {self with storedSubmissions :=
          self.storedSubmissions.insert submission.serviceId (subs ++ [⟨submission,now⟩])})

def Unexpired (now : Nat) (stored : StoredSubmission) : Prop :=
  now - stored.createdAt < fromSecs self.config.submissionTtlSecs

instance (now : Nat) (stored : StoredSubmission) : Decidable (self.Unexpired now stored) :=
  inferInstanceAs (Decidable (_ < _))

def getSubmissionsForCatchup (now : Nat) (serviceId : ServiceId) : List Submission :=
  (((self.storedOf serviceId).filter (fun s => self.Unexpired now s)).take
    self.config.maxCatchupSubmissions).map StoredSubmission.submission

def cleanupExpiredSubmissions (now : Nat) : EventLoopState :=
  let kept := self.storedSubmissions.mapValues (fun subs => subs.filter (fun s => self.Unexpired now s))
  {self with storedSubmissions := kept.retain (fun _ subs => !subs.isEmpty)}

/-- The loop of `retry_pending_publishes`, which asks for its `call`-th publish next. -/
def retryItems (now maxAge : Nat) (publish : Nat → Except PublishError Unit) :
    Nat → List PendingPublish → List PendingPublish
  | _,[] => []
  | call,item::rest =>
    if now - item.createdAt > maxAge then retryItems now maxAge publish call rest
    else
      match publish call with
      | .ok () => retryItems now maxAge publish (call + 1) rest
      | .error _ => {item with retries := item.retries + 1} :: retryItems now maxAge publish (call + 1) rest

def retryPendingPublishes (now : Nat) (swarm : SwarmAnswers) : EventLoopState :=
  if swarm.connectedPeers.isEmpty then self
  else
    {self with pendingPublishes :=
      retryItems now (fromSecs self.config.maxRetryDurationSecs) swarm.publish 0 self.pendingPublishes}

/-- One pass of the loops that request catch-up: once per peer and service, up to the limit. -/
def requestCatchup (peer : PeerId) (serviceId : ServiceId) : EventLoopState × List Effect :=
  let peerSet := self.requestedOf serviceId
  if peer ∈ peerSet ∨ peerSet.toList.length ≥ self.config.maxConcurrentCatchupRequestsPerService then
    ({self with catchupRequestedPeers := self.catchupRequestedPeers.insert serviceId peerSet},[])
  else
    ({self with catchupRequestedPeers := self.catchupRequestedPeers.insert serviceId (peerSet.insert peer)},
      [.sendRequest peer serviceId])

def requestAll (self : EventLoopState) : List (PeerId × ServiceId) → EventLoopState × List Effect
  | [] => (self,[])
  | (peer,serviceId)::rest =>
    let first := self.requestCatchup peer serviceId
    let later := first.1.requestAll rest
    (later.1,first.2 ++ later.2)

def requestCatchupFromPeer (peer : PeerId) : EventLoopState × List Effect :=
  self.requestAll (self.subscribedServices.toList.map (fun serviceId => (peer,serviceId)))

def handleCatchupRequest (peer : PeerId) (serviceId : ServiceId) (now : Nat) : List Effect :=
  [.sendResponse peer serviceId (self.getSubmissionsForCatchup now serviceId)]

def handleCatchupResponse (peer : PeerId) (submissions : List Submission) : List Effect :=
  (submissions.filter (fun submission => submission.serviceId ∈ self.subscribedServices)).map
    (fun submission => .receive submission (.other ("catchup:" ++ peer.text)))

/-- The peer is taken out of the set of every service. -/
def clearPeer (peer : PeerId) : EventLoopState :=
  {self with catchupRequestedPeers := self.catchupRequestedPeers.mapValues (fun peers => peers.remove peer)}

def handleGossipMessage (source : PeerId) (topic : String) (data : List UInt8) (now : Nat) :
    Option (EventLoopState × List Effect) :=
  match serde.fromSlice data with
  | .error _ => some (self,[])
  | .ok submission =>
    if topic ≠ serviceTopicName submission.serviceId then some (self,[])
    else
      (self.storeSubmission prim now submission).map (fun state =>
        (state,[.receive submission (.other source.text)]))

def subscribeTo (serviceId : ServiceId) : EventLoopState :=
  {self with
    subscribedTopics := self.subscribedTopics.insert (serviceTopicName serviceId)
    subscribedServices := self.subscribedServices.insert serviceId}

/-- The end of a publish that no peer takes. -/
def queuePublish (pending : PendingPublish) : EventLoopState :=
  let kept :=
    if self.pendingPublishes.length ≥ self.config.maxPendingPublishes then self.pendingPublishes.drop 1
    else self.pendingPublishes
  {self with pendingPublishes := kept ++ [pending]}

/-- A publish once the topic is subscribed to. -/
def publishSubscribed (serviceId : ServiceId) (submission : Submission) (now : Nat) (swarm : SwarmAnswers) :
    Option EventLoopState :=
  (self.storeSubmission prim now submission).map (fun state =>
    match serde.toVec submission with
    | .error _ => state
    | .ok data =>
      match swarm.publish 0 with
      | .error .noPeersSubscribedToTopic => state.queuePublish ⟨serviceTopicName serviceId,data,now,0⟩
      | .error (.other _) => state
      | .ok () => state)

def handlePublish (serviceId : ServiceId) (submission : Submission) (now : Nat) (swarm : SwarmAnswers) :
    Option EventLoopState :=
  if serviceTopicName serviceId ∈ self.subscribedTopics then
    self.publishSubscribed prim serde serviceId submission now swarm
  else
    match swarm.subscribe with
    | .error _ => some self
    | .ok () => (self.subscribeTo serviceId).publishSubscribed prim serde serviceId submission now swarm

def handleSubscribe (serviceId : ServiceId) (swarm : SwarmAnswers) : EventLoopState × List Effect :=
  if serviceTopicName serviceId ∈ self.subscribedTopics then (self,[])
  else
    match swarm.subscribe with
    | .error _ => (self,[])
    | .ok () =>
      (self.subscribeTo serviceId).requestAll (swarm.connectedPeers.map (fun peer => (peer,serviceId)))

def handleUnsubscribe (serviceId : ServiceId) (swarm : SwarmAnswers) : EventLoopState :=
  if serviceTopicName serviceId ∉ self.subscribedTopics then self
  else if !swarm.unsubscribe then self
  else
    {self with
      subscribedTopics := self.subscribedTopics.remove (serviceTopicName serviceId)
      subscribedServices := self.subscribedServices.remove serviceId
      storedSubmissions := self.storedSubmissions.remove serviceId
      pendingPublishes := self.pendingPublishes.filter (fun p => p.topicName ≠ serviceTopicName serviceId)
      catchupRequestedPeers := self.catchupRequestedPeers.remove serviceId}

def getStatus (swarm : SwarmAnswers) : P2pStatus where
  enabled := true
  localPeerId := some swarm.localPeerId.text
  listenAddresses := self.listenAddresses.map (fun addr => addr ++ "/p2p/" ++ swarm.localPeerId.text)
  externalAddresses := swarm.externalAddresses.map (fun addr => addr ++ "/p2p/" ++ swarm.localPeerId.text)
  connectedPeers := swarm.connectedPeers.length
  peerIds := swarm.connectedPeers.map PeerId.text
  subscribedTopics := self.subscribedTopics.toList
  topicPeerCounts := self.subscribedTopics.toList.map (fun topic => (topic,swarm.meshPeers topic))

end EventLoopState

inductive P2pCommand
  | publish (serviceId : ServiceId) (submission : Submission)
  | subscribe (serviceId : ServiceId)
  | unsubscribe (serviceId : ServiceId)
  | getStatus
  deriving DecidableEq

/-- The calls of `P2pHandle`. -/
inductive P2pCall
  | publish (submission : Submission)
  | subscribe (serviceId : ServiceId)
  | unsubscribe (serviceId : ServiceId)
  | getStatus
  deriving DecidableEq

def P2pCall.command : P2pCall → P2pCommand
  | .publish submission => .publish submission.serviceId submission
  | .subscribe serviceId => .subscribe serviceId
  | .unsubscribe serviceId => .unsubscribe serviceId
  | .getStatus => .getStatus

/-- Addresses bound to every interface cannot be dialled. -/
def isDialableAddress (addr : String) : Bool := ¬"/ip4/0.0.0.0/".toList <:+: addr.toList

inductive Event
  | command (call : P2pCall) (now : Nat) (swarm : SwarmAnswers)
  | gossip (source : PeerId) (topic : String) (data : List UInt8) (now : Nat)
  | catchupRequest (peer : PeerId) (serviceId : ServiceId) (now : Nat)
  | catchupResponse (peer : PeerId) (asked : ServiceId) (submissions : List Submission)
  | outboundFailure (peer : PeerId) (asked : ServiceId)
  | connectionEstablished (peer : PeerId)
  | connectionClosed (peer : PeerId)
  | mdnsExpired (peers : List PeerId)
  | newListenAddr (address : String)
  | retryTick (now : Nat) (swarm : SwarmAnswers)
  | cleanupTick (now : Nat)

namespace EventLoopState

variable (prim : Primitives) (serde : SubmissionSerde) (self : EventLoopState)

def handleCommand (command : P2pCommand) (now : Nat) (swarm : SwarmAnswers) : Option (EventLoopState × List Effect) :=
  match command with
  | .publish serviceId submission =>
    (self.handlePublish prim serde serviceId submission now swarm).map (fun state => (state,[]))
  | .subscribe serviceId => some (self.handleSubscribe serviceId swarm)
  | .unsubscribe serviceId => some (self.handleUnsubscribe serviceId swarm,[])
  | .getStatus => some (self,[.status (self.getStatus swarm)])

/-- One turn of the loop. A response or a failure names the peer, not the service that was asked for. -/
def handle : Event → Option (EventLoopState × List Effect)
  | .command call now swarm => self.handleCommand prim serde call.command now swarm
  | .gossip source topic data now => self.handleGossipMessage prim serde source topic data now
  | .catchupRequest peer serviceId now => some (self,self.handleCatchupRequest peer serviceId now)
  | .catchupResponse peer _ submissions => some (self.clearPeer peer,self.handleCatchupResponse peer submissions)
  | .outboundFailure peer _ => some (self.clearPeer peer,[])
  | .connectionEstablished peer => some (self.requestCatchupFromPeer peer)
  | .connectionClosed peer => some (self.clearPeer peer,[])
  | .mdnsExpired peers => some (peers.foldl clearPeer self,[])
  | .newListenAddr address =>
    some (if isDialableAddress address then {self with listenAddresses := self.listenAddresses ++ [address]}
      else self,[])
  | .retryTick now swarm => some (self.retryPendingPublishes now swarm,[])
  | .cleanupTick now => some (self.cleanupExpiredSubmissions now,[])

end EventLoopState

/-- The request that an event answers. -/
def Event.answered : Event → Option (PeerId × ServiceId)
  | .catchupResponse peer asked _ => some (peer,asked)
  | .outboundFailure peer asked => some (peer,asked)
  | _ => none

def Effect.request? : Effect → Option (PeerId × ServiceId)
  | .sendRequest peer serviceId => some (peer,serviceId)
  | _ => none

/-- The loop with the catch-up requests that it has sent and that are not answered yet. -/
structure P2pLoop where
  state : EventLoopState
  running : Bool
  outstanding : List (PeerId × ServiceId)

namespace P2pLoop

def new (config : P2pConfig) : P2pLoop := ⟨.new config,true,[]⟩

variable (prim : Primitives) (serde : SubmissionSerde)

/-- The outstanding requests without the one that the event answers; an answer needs one. -/
def settle (self : P2pLoop) (event : Event) : Option (List (PeerId × ServiceId)) :=
  match event.answered with
  | none => some self.outstanding
  | some request => if request ∈ self.outstanding then some (self.outstanding.erase request) else none

def step (self : P2pLoop) (event : Event) : Option P2pLoop :=
  if self.running then
    (self.settle event).map (fun outstanding =>
      match self.state.handle prim serde event with
      | none => {self with running := false}
      | some (state,effects) => ⟨state,true,outstanding ++ effects.filterMap Effect.request?⟩)
  else none

/-- A step is a turn of the loop that ends, or a panic. -/
theorem step_cases (self next : P2pLoop) (event : Event) (taken : step prim serde self event = some next) :
    self.running = true ∧
      ((self.state.handle prim serde event = none ∧ next = {self with running := false}) ∨
        ∃ state effects outstanding, self.state.handle prim serde event = some (state,effects) ∧
          self.settle event = some outstanding ∧
          next = ⟨state,true,outstanding ++ effects.filterMap Effect.request?⟩) := by
  unfold step at taken
  split at taken
  · next running =>
    refine ⟨running,?_⟩
    obtain ⟨outstanding,settled,same⟩ := Option.map_eq_some_iff.mp taken
    subst same
    cases handled : self.state.handle prim serde event with
    | none => exact .inl ⟨rfl,rfl⟩
    | some result => exact .inr ⟨result.1,result.2,outstanding,rfl,settled,rfl⟩
  · cases taken

end P2pLoop
end Warpdrive.Aggregator.P2p
