import Warpdrive.Foundation.Handover
import Warpdrive.Trigger.Traffic

/-! The logs of an EVM stream client while one connection stays up and the log filter is
widened by `enable_logs`. The server takes the requests in the order they were sent, answers
each at once and gives every log once to each subscription that is active and admits it. Its
messages are received in the order they were sent. -/
namespace Warpdrive.Trigger.EvmStream

open Warpdrive.Foundation Warpdrive.Types Warpdrive.Foundation.Execution Warpdrive.Foundation.Handover

/-- The filter as the server reads it: any of the addresses, and any of the topics in the
first place. An empty set allows everything. -/
def LogFilter.admits (self : LogFilter) (log : Log) : Bool :=
  (self.addresses = ∅ ∨ log.address ∈ self.addresses) ∧
    (self.topics = ∅ ∨ ∃ topic ∈ log.logData.topics.head?, topic ∈ self.topics)

def SubscriptionKind.admits (self : SubscriptionKind) (log : Log) : Bool :=
  match self with
  | .logs addresses topics => LogFilter.admits ⟨addresses,topics⟩ log
  | _ => false

def SubscribeParams.kind : SubscribeParams → SubscriptionKind
  | .newHeads => .newHeads
  | .logs addresses topics => .logs addresses topics
  | .newPendingTransactions => .newPendingTransactions

/-- The client with its server: the subscriptions active there, the messages under way, the
subscription ids given so far, the logs emitted so far, the subscriptions each was given to,
and the log subscriptions that the client has recorded at some time. -/
structure Feed where
  loop : SubscriptionLoop
  active : List (String × SubscriptionKind)
  data : List RpcInbound
  opened : List String
  emitted : List Log
  deliveries : List (String × Log)
  tracked : List String

namespace Feed

inductive Act
  | enableLogs (addresses : List Address) (topics : List (FixedBytes 32))
  | handle (subscriptionId : String)
  | emit (log : Log)
  | receive
  | delayPasses (index : Nat)

/-- The client when it has heard that the connection is up, with what was desired before. -/
def connected (keys : SlotKeys) (blocks : Bool) (logs : Option LogFilter) (pendingTransactions : Bool) : Feed :=
  ⟨{SubscriptionLoop.new keys with
      inner := ((Subscriptions.new keys).aimedAt blocks logs pendingTransactions).setIsConnected true},
    [],[],[],[],[],[]⟩

def withInner (self : Feed) (inner : Subscriptions) : Feed :=
  {self with loop := {self.loop with inner}}

/-- The server takes the next request. -/
def handle (self : Feed) (subscriptionId : String) : Option Feed :=
  match self.loop.inner.connectionSendRpc with
  | [] => none
  | .subscribe id params::rest =>
    if subscriptionId ∈ self.opened then none
    else some {self.withInner {self.loop.inner with connectionSendRpc := rest} with
      active := self.active ++ [(subscriptionId,params.kind)]
      data := self.data ++ [.response id (.ok (.newSubscription subscriptionId))]
      opened := self.opened ++ [subscriptionId]}
  | .unsubscribe id target::rest =>
    some {self.withInner {self.loop.inner with connectionSendRpc := rest} with
      active := self.active.filter (fun entry => entry.1 ≠ target)
      data := self.data ++ [.response id (.ok (.unsubscribeAck (target ∈ self.active.map Prod.fst)))]}

/-- The subscriptions that a log is given to. -/
def recipients (self : Feed) (log : Log) : List String :=
  (self.active.filter (fun entry => entry.2.admits log)).map Prod.fst

def emit (self : Feed) (log : Log) : Feed where
  loop := self.loop
  active := self.active
  data := self.data ++ (self.recipients log).map (fun id => .subscription id (.ok (.logs log)))
  opened := self.opened
  emitted := self.emitted ++ [log]
  deliveries := self.deliveries ++ (self.recipients log).map (fun id => (id,log))
  tracked := self.tracked

/-- The loop receives a message, and the log subscriptions it knows then are noted. -/
def received (self : Feed) (message : RpcInbound) (rest : List RpcInbound) : Feed where
  loop := self.loop.receive message
  active := self.active
  data := rest
  opened := self.opened
  emitted := self.emitted
  deliveries := self.deliveries
  tracked := self.tracked ++ (self.loop.receive message).inner.ids.listByCategory .allLogs

def step (self : Feed) : Act → Option Feed
  | .enableLogs addresses topics => some (self.withInner (self.loop.inner.enableLogs addresses topics))
  | .handle subscriptionId => self.handle subscriptionId
  | .emit log => if log ∈ self.emitted then none else some (self.emit log)
  | .receive =>
    match self.data with
    | [] => none
    | message::rest => some (self.received message rest)
  | .delayPasses index => (self.loop.inner.delayPasses index).map self.withInner

end Feed

/-- The request of an id is in flight, asks for logs and is to be activated. -/
def Subscriptions.lands (self : Subscriptions) (id : RpcId) : Bool :=
  match self.rpcIdsInFlight.lookup.get id with
  | some (.activateOnLand (.subscribeLogs _ _)) => true
  | _ => false

theorem Subscriptions.lands_iff (self : Subscriptions) (id : RpcId) :
    self.lands id = true ↔ ∃ addresses topics, self.Awaits id (.logs addresses topics) := by
  unfold lands Awaits RpcIdsInFlight.Awaits
  split
  · next addresses topics found => simp [found,SubscriptionKind.requestKind]
  · next other =>
    constructor
    · intro impossible
      cases impossible
    · rintro ⟨addresses,topics,found⟩
      exact absurd found (other addresses topics)

/-- What a message means to the log subscriptions. -/
def Subscriptions.turn (self : Subscriptions) : RpcInbound → Turn String Log
  | .response id (.ok (.newSubscription subscriptionId)) =>
    if self.lands id then .lands subscriptionId else .idle
  | .response id (.ok (.unsubscribeAck true)) =>
    match self.rpcIds.get id with
    | some (.unsubscribe subscriptionId) => .leaves subscriptionId
    | _ => .idle
  | .subscription subscriptionId (.ok (.logs log)) => .event subscriptionId log
  | _ => .idle

/-- The request that a message answers. -/
def RpcInbound.answers : RpcInbound → Option RpcId
  | .response id _ => some id
  | .subscription _ _ => none

/-- The subscription that a message opens. -/
def RpcInbound.opens : RpcInbound → Option String
  | .response _ (.ok (.newSubscription subscriptionId)) => some subscriptionId
  | _ => none

namespace Subscriptions

/-- The meaning of a message depends only on its request. -/
theorem turn_congr (first second : Subscriptions) (message : RpcInbound)
    (flight : ∀ id ∈ message.answers, second.lands id = first.lands id)
    (kinds : ∀ id ∈ message.answers, second.rpcIds.get id = first.rpcIds.get id) :
    second.turn message = first.turn message := by
  cases message with
  | subscription id result =>
    cases result with
    | error _ => rfl
    | ok event => cases event <;> rfl
  | response id result =>
    have lands := flight id rfl
    have kind := kinds id rfl
    cases result with
    | error _ => rfl
    | ok response =>
      cases response with
      | newSubscription subscriptionId => simp only [turn,lands]
      | unsubscribeAck success => cases success <;> simp only [turn,kind]
      | other value => rfl

/-- Nothing that is still to land is wanted any more. -/
theorem turn_mute (first second : Subscriptions) (message : RpcInbound)
    (flight : ∀ id ∈ message.answers, second.lands id = false)
    (kinds : ∀ id ∈ message.answers, second.rpcIds.get id = first.rpcIds.get id) :
    second.turn message = (first.turn message).mute := by
  cases message with
  | subscription id result =>
    cases result with
    | error _ => rfl
    | ok event => cases event <;> rfl
  | response id result =>
    have lands := flight id rfl
    have kind := kinds id rfl
    cases result with
    | error _ => rfl
    | ok response =>
      cases response with
      | newSubscription subscriptionId =>
        simp only [turn,lands,Bool.false_eq_true,if_false]
        split <;> rfl
      | unsubscribeAck success =>
        cases success with
        | true =>
          simp only [turn,kind]
          split <;> rfl
        | false => rfl
      | other value => rfl

theorem turn_lands (self : Subscriptions) (message : RpcInbound) (subscriptionId : String)
    (lands : self.turn message = .lands subscriptionId) : message.opens = some subscriptionId := by
  unfold turn at lands
  split at lands
  · split at lands
    · cases lands
      rfl
    · cases lands
  · split at lands <;> cases lands
  · cases lands
  · cases lands

theorem turn_event (self : Subscriptions) (message : RpcInbound) (subscriptionId : String) (log : Log)
    (event : self.turn message = .event subscriptionId log) :
    message = .subscription subscriptionId (.ok (.logs log)) := by
  unfold turn at event
  split at event
  · split at event <;> cases event
  · split at event <;> cases event
  · cases event
    rfl
  · cases event

/-- Every request in flight that is not marked is known by its rpc id. -/
def Aware (self : Subscriptions) : Prop :=
  ∀ id kind, self.rpcIdsInFlight.lookup.get id = some (.activateOnLand kind) → self.rpcIds.get id = some kind

/-- What the log subscriptions look like after a response to a request in flight. -/
structure Recorded (before after : Subscriptions) (turn : Turn String Log) : Prop where
  recent : after.ids.mostRecent .allLogs = turn.next (before.ids.mostRecent .allLogs)
  listed : ∀ id ∈ after.ids.listByCategory .allLogs, id ∈ before.ids.listByCategory .allLogs ∨ turn = .lands id
  landed : ∀ id, turn = .lands id → id ∈ after.ids.listByCategory .allLogs
  tracks : after.ids.Tracks

theorem Recorded.same {before after : Subscriptions} (turn : Turn String Log) (ids : after.ids = before.ids)
    (idle : turn.next (before.ids.mostRecent .allLogs) = before.ids.mostRecent .allLogs)
    (silent : ∀ id, turn ≠ .lands id) (tracks : before.ids.Tracks) : Recorded before after turn where
  recent := by rw [ids,idle]
  listed id member := .inl (ids ▸ member)
  landed id lands := absurd lands (silent id)
  tracks := ids ▸ tracks

theorem ofKind_allLogs (kind : SubscriptionKind) (logs : SubscriptionCategory.ofKind kind = .allLogs) :
    ∃ addresses topics, kind = .logs addresses topics := by
  cases kind with
  | logs addresses topics => exact ⟨addresses,topics,rfl⟩
  | newHeads => cases logs
  | newPendingTransactions => cases logs

/-- A landing subscription is recorded as the most recent of its category. -/
theorem recorded_subscribed (self : Subscriptions) (id : RpcId) (subscriptionId : String)
    (kind : SubscriptionKind) (steady : self.Steady) (tracks : self.ids.Tracks) (awaits : self.Awaits id kind)
    (new : self.ids.lookup.get subscriptionId = none) :
    Recorded self {self.landed id with
        ids := self.ids.insert subscriptionId kind (self.rpcIdsInFlight.remove id).2.2.isSome}
      (self.turn (.response id (.ok (.newSubscription subscriptionId)))) := by
  have reports := steady.reports id kind awaits
  have recent := SubscriptionIds.mostRecent_insert self.ids subscriptionId kind true .allLogs
  have listed := SubscriptionIds.mem_listByCategory_insert self.ids subscriptionId kind true .allLogs
  rw [reports,Option.isSome_some]
  by_cases logs : SubscriptionCategory.ofKind kind = .allLogs
  · obtain ⟨addresses,topics,rfl⟩ := ofKind_allLogs kind logs
    have lands : self.lands id = true := (self.lands_iff id).mpr ⟨addresses,topics,awaits⟩
    simp only [turn,lands,if_true]
    refine ⟨?_,?_,?_,tracks.insert_new subscriptionId _ true new⟩
    · rw [recent,if_pos ⟨rfl,rfl⟩]
      rfl
    · intro other member
      rcases (listed other).mp member with old | ⟨_,rfl⟩
      · exact .inl old
      · exact .inr rfl
    · intro other same
      cases same
      exact (listed subscriptionId).mpr (.inr ⟨rfl,rfl⟩)
  · have stays : self.lands id = false := by
      rw [Bool.eq_false_iff]
      intro lands
      obtain ⟨addresses,topics,other⟩ := (self.lands_iff id).mp lands
      rw [Awaits,RpcIdsInFlight.Awaits,awaits,Option.some.injEq,RpcFlightState.activateOnLand.injEq,
        SubscriptionKind.requestKind_injective] at other
      rw [other] at logs
      exact logs rfl
    simp only [turn,stays,Bool.false_eq_true,if_false]
    refine ⟨?_,?_,?_,tracks.insert_new subscriptionId _ true new⟩
    · rw [recent,if_neg (fun both => logs both.2.symm)]
      rfl
    · intro other member
      rcases (listed other).mp member with old | ⟨same,_⟩
      · exact .inl old
      · exact absurd same.symm logs
    · intro other same
      cases same

/-- A response to a request in flight changes the log subscriptions as its turn says. -/
theorem recorded_response (self : Subscriptions) (id : RpcId) (response : RpcResponse) (steady : self.Steady)
    (tracks : self.ids.Tracks) (aware : self.Aware) (flying : self.rpcIdsInFlight.lookup.get id ≠ none)
    (new : ∀ subscriptionId, response = .newSubscription subscriptionId →
      self.ids.lookup.get subscriptionId = none) :
    Recorded self (self.onReceivedRpcResponse id response) (self.turn (.response id (.ok response))) := by
  have result := self.received id response
  generalize self.onReceivedRpcResponse id response = next at result
  cases result with
  | ignored _ noSubscription noAck =>
    cases response with
    | newSubscription subscriptionId =>
      have stays : self.lands id = false := by
        rw [Bool.eq_false_iff]
        intro lands
        obtain ⟨addresses,topics,awaits⟩ := (self.lands_iff id).mp lands
        exact noSubscription _ subscriptionId (aware id _ awaits) rfl
      simp only [turn,stays,Bool.false_eq_true,if_false]
      exact Recorded.same _ rfl rfl (by simp) tracks
    | unsubscribeAck success =>
      cases success with
      | true =>
        simp only [turn]
        split
        · next target found =>
          refine Recorded.same _ rfl ?_ (by simp) tracks
          have gone := noAck target true found rfl
          rw [Turn.next,if_neg]
          intro recent
          obtain ⟨kind,held,_⟩ := tracks.recent .allLogs target recent
          rw [gone] at held
          cases held
        · exact Recorded.same _ rfl rfl (by simp) tracks
      | false => exact Recorded.same .idle rfl rfl (by simp) tracks
    | other value => exact Recorded.same .idle rfl rfl (by simp) tracks
  | unwanted subscriptionId _ marked =>
    have stays : self.lands id = false := by simp [lands,marked]
    simp only [turn,stays,Bool.false_eq_true,if_false]
    exact Recorded.same _ (Sends.unsubscribe (self.landed id) subscriptionId none).ids rfl (by simp) tracks
  | subscribed subscriptionId kind known unmarked =>
    have awaits : self.Awaits id kind := by
      cases state : self.rpcIdsInFlight.lookup.get id with
      | none => exact absurd state flying
      | some state' =>
        cases state' with
        | unsubscribeOnLand => exact absurd state unmarked
        | activateOnLand asked =>
          have same := aware id asked state
          rw [known,Option.some.injEq] at same
          rw [Awaits,RpcIdsInFlight.Awaits,same]
          exact state
    exact recorded_subscribed self id subscriptionId kind steady tracks awaits (new subscriptionId rfl)
  | unsubscribed subscriptionId known =>
    simp only [turn,known]
    have listed := SubscriptionIds.mem_listByCategory_remove self.ids subscriptionId
    refine ⟨SubscriptionIds.mostRecent_remove self.ids subscriptionId .allLogs,?_,by simp,tracks.remove subscriptionId⟩
    intro other member
    exact .inl ((listed other .allLogs).mp member).1
  | refused subscriptionId =>
    exact Recorded.same .idle (Sends.unsubscribe (self.landed id) subscriptionId _).ids rfl (by simp) tracks

end Subscriptions

end Warpdrive.Trigger.EvmStream
