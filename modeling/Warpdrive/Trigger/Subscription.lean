import Mathlib.Data.Finset.Basic
import Warpdrive.Foundation.Execution
import Warpdrive.Foundation.Maps
import Warpdrive.Types.Service

/-! The subscriptions of an EVM stream client (`evm_stream/client/subscription.rs`) and the
connection they talk through (`client/connection.rs`). A public call, a processed
connection state and a processed response are each one step. Requests go through a channel
to the connection, responses and connection states come back through two others, and a
connection that is lost clears the rpc ids before the client hears of it. Metrics are left
out, and an rpc error is only logged. -/
namespace Warpdrive.Trigger.EvmStream

open Warpdrive.Foundation Warpdrive.Types Warpdrive.Foundation.Execution

abbrev RpcId := Nat

structure LogFilter where
  addresses : Finset Address
  topics : Finset (FixedBytes 32)
  deriving DecidableEq

inductive RpcRequestKind
  | subscribeNewHeads
  | subscribeLogs (addresses : Finset Address) (topics : Finset (FixedBytes 32))
  | subscribeNewPendingTransactions
  | unsubscribe (subscriptionId : String)
  deriving DecidableEq

abbrev RpcIds := SlotMap RpcRequestKind

inductive SubscribeParams
  | newHeads
  | logs (addresses : Finset Address) (topics : Finset (FixedBytes 32))
  | newPendingTransactions
  deriving DecidableEq

inductive RpcRequest
  | subscribe (id : RpcId) (params : SubscribeParams)
  | unsubscribe (id : RpcId) (subscriptionId : String)
  deriving DecidableEq

def SubscribeParams.requestKind : SubscribeParams → RpcRequestKind
  | .newHeads => .subscribeNewHeads
  | .logs addresses topics => .subscribeLogs addresses topics
  | .newPendingTransactions => .subscribeNewPendingTransactions

namespace RpcRequest

def id : RpcRequest → RpcId
  | .subscribe id _ => id
  | .unsubscribe id _ => id

def requestKind : RpcRequest → RpcRequestKind
  | .subscribe _ params => params.requestKind
  | .unsubscribe _ subscriptionId => .unsubscribe subscriptionId

/-- `RpcRequest::subscribe`. -/
def newSubscribe (rpcIds : RpcIds) (params : SubscribeParams) : RpcRequest × RpcIds :=
  let (id,rpcIds) := rpcIds.insert params.requestKind
  (.subscribe id params,rpcIds)

/-- `RpcRequest::unsubscribe`. -/
def newUnsubscribe (rpcIds : RpcIds) (subscriptionId : String) : RpcRequest × RpcIds :=
  let (id,rpcIds) := rpcIds.insert (.unsubscribe subscriptionId)
  (.unsubscribe id subscriptionId,rpcIds)

end RpcRequest

inductive RpcResponse
  | newSubscription (subscriptionId : String)
  | unsubscribeAck (success : Bool)
  | other (value : JsonValue)
  deriving DecidableEq

inductive SubscriptionKind
  | newHeads
  | logs (addresses : Finset Address) (topics : Finset (FixedBytes 32))
  | newPendingTransactions
  deriving DecidableEq

def SubscriptionKind.tryFrom : RpcRequestKind → Except String SubscriptionKind
  | .subscribeNewHeads => .ok .newHeads
  | .subscribeLogs addresses topics => .ok (.logs addresses topics)
  | .subscribeNewPendingTransactions => .ok .newPendingTransactions
  | .unsubscribe _ => .error "Cannot convert Unsubscribe to SubscriptionKind"

inductive SubscriptionCategory
  | newHeads
  | allLogs
  | newPendingTransactions
  deriving DecidableEq

namespace SubscriptionCategory

def ofKind : SubscriptionKind → SubscriptionCategory
  | .newHeads => .newHeads
  | .logs _ _ => .allLogs
  | .newPendingTransactions => .newPendingTransactions

def tryFrom : RpcRequestKind → Except String SubscriptionCategory
  | .subscribeNewHeads => .ok .newHeads
  | .subscribeLogs _ _ => .ok .allLogs
  | .subscribeNewPendingTransactions => .ok .newPendingTransactions
  | .unsubscribe _ => .error "Cannot convert rpc request for Unsubscribe to SubscriptionCategory"

end SubscriptionCategory

structure SubscriptionIdCategories where
  ids : HashSet String
  mostRecent : Option String

structure SubscriptionIds where
  lookup : HashMap String SubscriptionKind
  categories : HashMap SubscriptionCategory SubscriptionIdCategories

namespace SubscriptionIds

def default : SubscriptionIds := ⟨.new,.new⟩

def insert (self : SubscriptionIds) (id : String) (kind : SubscriptionKind) (mostRecentCategory : Bool) :
    SubscriptionIds :=
  let category := SubscriptionCategory.ofKind kind
  let entry := (self.categories.get category).getD ⟨.empty,none⟩
  let entry := {entry with ids := entry.ids.insert id}
  let entry := if mostRecentCategory then {entry with mostRecent := some id} else entry
  ⟨self.lookup.insert id kind,self.categories.insert category entry⟩

def listByCategory (self : SubscriptionIds) (category : SubscriptionCategory) : List String :=
  match self.categories.get category with
  | some entry => entry.ids.toList
  | none => []

def isMostRecent (self : SubscriptionIds) (id : String) (category : SubscriptionCategory) : Bool :=
  match self.categories.get category with
  | some entry =>
    match entry.mostRecent with
    | some mostRecentId => mostRecentId = id
    | none => true
  | none => false

def remove (self : SubscriptionIds) (id : String) : SubscriptionIds where
  lookup := self.lookup.remove id
  categories := self.categories.mapValues (fun entry =>
    ⟨entry.ids.remove id,if entry.mostRecent = some id then none else entry.mostRecent⟩)

def compare (self : SubscriptionIds) (id : String) (test : SubscriptionKind → Bool) : Bool :=
  match self.lookup.get id with
  | none => false
  | some kind => test kind

def contains (self : SubscriptionIds) (id : String) : Bool := (self.lookup.get id).isSome

end SubscriptionIds

inductive RpcFlightState
  | activateOnLand (kind : RpcRequestKind)
  | unsubscribeOnLand
  deriving DecidableEq

structure RpcIdsInFlight where
  lookup : HashMap RpcId RpcFlightState
  mostRecentSubscriptionCategory : HashMap SubscriptionCategory RpcId

namespace RpcIdsInFlight

def default : RpcIdsInFlight := ⟨.new,.new⟩

def insert (self : RpcIdsInFlight) (id : RpcId) (kind : RpcRequestKind) : RpcIdsInFlight where
  lookup := self.lookup.insert id (.activateOnLand kind)
  mostRecentSubscriptionCategory :=
    match SubscriptionCategory.tryFrom kind with
    | .ok category => self.mostRecentSubscriptionCategory.insert category id
    | .error _ => self.mostRecentSubscriptionCategory

def setUnsubscribe (self : RpcIdsInFlight) (category : SubscriptionCategory) : RpcIdsInFlight :=
  {self with
    lookup := self.lookup.mapValues (fun
      | .activateOnLand kind =>
        match SubscriptionCategory.tryFrom kind with
        | .ok found => if found = category then .unsubscribeOnLand else .activateOnLand kind
        | .error _ => .activateOnLand kind
      | .unsubscribeOnLand => .unsubscribeOnLand)}

def willSubscribe (self : RpcIdsInFlight) (kind : RpcRequestKind) : Bool :=
  self.lookup.values.any (fun
    | .activateOnLand requestKind => requestKind = kind
    | .unsubscribeOnLand => false)

def remove (self : RpcIdsInFlight) (id : RpcId) :
    RpcIdsInFlight × Option RpcFlightState × Option SubscriptionCategory :=
  let removed := self.lookup.get id
  let self := {self with lookup := self.lookup.remove id}
  match removed with
  | some (.activateOnLand kind) =>
    match SubscriptionCategory.tryFrom kind with
    | .ok category =>
      if self.mostRecentSubscriptionCategory.get category = some id then
        ({self with mostRecentSubscriptionCategory :=
            self.mostRecentSubscriptionCategory.remove category},removed,some category)
      else (self,removed,none)
    | .error _ => (self,removed,none)
  | _ => (self,removed,none)

end RpcIdsInFlight

def unsubscribeRetrySecs : Nat := 5

/-- `SubscriptionsInner`, with the requests handed to the connection and those that wait
for their delay to pass. -/
structure Subscriptions where
  blocks : Bool
  logs : Option LogFilter
  pendingTransactions : Bool
  isConnected : Bool
  ids : SubscriptionIds
  rpcIds : RpcIds
  rpcIdsInFlight : RpcIdsInFlight
  connectionSendRpc : List RpcRequest
  delayed : List RpcRequest

namespace Subscriptions

def new (keys : SlotKeys) : Subscriptions where
  blocks := false
  logs := none
  pendingTransactions := false
  isConnected := false
  ids := .default
  rpcIds := .new keys
  rpcIdsInFlight := .default
  connectionSendRpc := []
  delayed := []

def sendRpc (self : Subscriptions) (req : RpcRequest) (delay : Option Nat) : Subscriptions :=
  match self.rpcIds.get req.id with
  | none => self
  | some kind =>
    let self := {self with rpcIdsInFlight := self.rpcIdsInFlight.insert req.id kind}
    match delay with
    | some _ => {self with delayed := self.delayed ++ [req]}
    | none => {self with connectionSendRpc := self.connectionSendRpc ++ [req]}

def sendSubscribe (self : Subscriptions) (params : SubscribeParams) : Subscriptions :=
  let (req,rpcIds) := RpcRequest.newSubscribe self.rpcIds params
  sendRpc {self with rpcIds} req none

def sendUnsubscribe (self : Subscriptions) (subscriptionId : String) (delay : Option Nat) : Subscriptions :=
  let (req,rpcIds) := RpcRequest.newUnsubscribe self.rpcIds subscriptionId
  sendRpc {self with rpcIds} req delay

/-- The delay of a request has passed: it is sent if it is still in flight. -/
def sendDelayed (self : Subscriptions) (req : RpcRequest) : Subscriptions :=
  let shouldSend : Bool := match self.rpcIdsInFlight.lookup.get req.id with
    | some (.activateOnLand (.unsubscribe subscriptionId)) =>
      match req with
      | .unsubscribe _ other => subscriptionId = other
      | .subscribe _ _ => false
    | some (.activateOnLand _) => true
    | _ => false
  if shouldSend then {self with connectionSendRpc := self.connectionSendRpc ++ [req]} else self

def unsubscribe (self : Subscriptions) (category : SubscriptionCategory) : Subscriptions :=
  let ids := self.ids.listByCategory category
  let self := {self with rpcIdsInFlight := self.rpcIdsInFlight.setUnsubscribe category}
  ids.foldl (fun self id => self.sendUnsubscribe id none) self

/-- One category of `resubscribe`. -/
def subscribeUnlessInFlight (self : Subscriptions) (params : SubscribeParams) : Subscriptions :=
  if self.rpcIdsInFlight.willSubscribe params.requestKind then self else self.sendSubscribe params

def resubscribe (self : Subscriptions) : Subscriptions :=
  if self.isConnected then
    let self := if self.blocks then self.subscribeUnlessInFlight .newHeads else self
    let self := match self.logs with
      | none => self
      | some filter => self.subscribeUnlessInFlight (.logs filter.addresses filter.topics)
    if self.pendingTransactions then self.subscribeUnlessInFlight .newPendingTransactions else self
  else self

def toggleBlockHeight (self : Subscriptions) (toggle : Bool) : Subscriptions :=
  let self := {self with blocks := toggle}
  if toggle then self.resubscribe else self.unsubscribe .newHeads

def enableLogs (self : Subscriptions) (addresses : List Address) (topics : List (FixedBytes 32)) :
    Subscriptions :=
  let filter := self.logs.getD ⟨∅,∅⟩
  let self := {self with
    logs := some ⟨filter.addresses ∪ addresses.toFinset,filter.topics ∪ topics.toFinset⟩}
  (self.unsubscribe .allLogs).resubscribe

def disableLogs (self : Subscriptions) (addresses : List Address) (topics : List (FixedBytes 32)) :
    Subscriptions :=
  let logs := match self.logs with
    | none => none
    | some filter =>
      let filter : LogFilter := ⟨filter.addresses \ addresses.toFinset,filter.topics \ topics.toFinset⟩
      if filter.addresses = ∅ ∧ filter.topics = ∅ then none else some filter
  let self := {self with logs}
  (self.unsubscribe .allLogs).resubscribe

def disableAllLogs (self : Subscriptions) : Subscriptions :=
  let self := {self with logs := none}
  self.unsubscribe .allLogs

def togglePendingTransactions (self : Subscriptions) (toggle : Bool) : Subscriptions :=
  let self := {self with pendingTransactions := toggle}
  if toggle then self.resubscribe else self.unsubscribe .newPendingTransactions

def setIsConnected (self : Subscriptions) (value : Bool) : Subscriptions :=
  let self := {self with isConnected := value}
  if value then self.resubscribe
  else {self with ids := .default,rpcIdsInFlight := .default}

def onReceivedRpcResponse (self : Subscriptions) (id : RpcId) (response : RpcResponse) : Subscriptions :=
  let (inFlight,state,category) := self.rpcIdsInFlight.remove id
  let self := {self with rpcIdsInFlight := inFlight}
  match self.rpcIds.get id with
  | none => self
  | some kind =>
    match response with
    | .newSubscription subscriptionId =>
      if state = some .unsubscribeOnLand then self.sendUnsubscribe subscriptionId none
      else
        match SubscriptionKind.tryFrom kind with
        | .ok kind => {self with ids := self.ids.insert subscriptionId kind category.isSome}
        | .error _ => self
    | .unsubscribeAck success =>
      match kind with
      | .unsubscribe subscriptionId =>
        if success then {self with ids := self.ids.remove subscriptionId}
        else if self.ids.contains subscriptionId then
          self.sendUnsubscribe subscriptionId (some unsubscribeRetrySecs)
        else self
      | _ => self
    | .other _ => self

/-- An event of a subscription, of the category that its payload says, is passed on. -/
def forwards (self : Subscriptions) (category : SubscriptionCategory) (subscriptionId : String) : Bool :=
  self.ids.compare subscriptionId (fun kind => SubscriptionCategory.ofKind kind = category) &&
    self.ids.isMostRecent subscriptionId category

/-- What a category is to be subscribed to. -/
def desired (self : Subscriptions) : SubscriptionCategory → Option SubscriptionKind
  | .newHeads => if self.blocks then some .newHeads else none
  | .allLogs => self.logs.map (fun filter => .logs filter.addresses filter.topics)
  | .newPendingTransactions => if self.pendingTransactions then some .newPendingTransactions else none

end Subscriptions

/-- The public calls. -/
inductive Call
  | toggleBlockHeight (toggle : Bool)
  | enableLogs (addresses : List Address) (topics : List (FixedBytes 32))
  | disableLogs (addresses : List Address) (topics : List (FixedBytes 32))
  | disableAllLogs
  | togglePendingTransactions (toggle : Bool)

def Call.apply (self : Subscriptions) : Call → Subscriptions
  | .toggleBlockHeight toggle => self.toggleBlockHeight toggle
  | .enableLogs addresses topics => self.enableLogs addresses topics
  | .disableLogs addresses topics => self.disableLogs addresses topics
  | .disableAllLogs => self.disableAllLogs
  | .togglePendingTransactions toggle => self.togglePendingTransactions toggle

inductive ConnectionState
  | connected
  | disconnected
  deriving DecidableEq

/-- The subscriptions with their connection: whether it is up, how many connections there
have been, the connection states and the responses not yet processed, and for each
subscription id that was answered the connection it was opened on. -/
structure Client where
  inner : Subscriptions
  up : Bool
  connection : Nat
  states : List ConnectionState
  data : List (RpcId × RpcResponse)
  opened : HashMap String Nat

inductive Act
  | call (call : Call)
  | connect
  | disconnect
  | connectFails
  | clearAll
  | deliver (subscriptionId : String) (success : Bool)
  | processState
  | receive (index : Nat)
  | delayPasses (index : Nat)

namespace Client

def new (keys : SlotKeys) : Client := ⟨.new keys,false,0,[],[],.new⟩

/-- The message loop takes the next request. Without a connection it is lost; else it is
answered, a subscribe request with a fresh subscription id. -/
def deliver (self : Client) (subscriptionId : String) (success : Bool) : Option Client :=
  match self.inner.connectionSendRpc with
  | [] => none
  | req::rest =>
    let next := {self with inner := {self.inner with connectionSendRpc := rest}}
    if self.up then
      match req with
      | .subscribe id _ =>
        if self.opened.get subscriptionId = none then
          some {next with
            data := self.data ++ [(id,.newSubscription subscriptionId)]
            opened := self.opened.insert subscriptionId self.connection}
        else none
      | .unsubscribe id _ => some {next with data := self.data ++ [(id,.unsubscribeAck success)]}
    else some next

def step (self : Client) : Act → Option Client
  | .call call => some {self with inner := call.apply self.inner}
  | .connect =>
    if self.up then none
    else some {self with
      up := true
      connection := self.connection + 1
      states := self.states ++ [.connected]}
  | .disconnect =>
    if self.up then
      some {self with
        up := false
        inner := {self.inner with rpcIds := self.inner.rpcIds.clear}
        states := self.states ++ [.disconnected]}
    else none
  | .connectFails => if self.up then none else some {self with states := self.states ++ [.disconnected]}
  | .clearAll =>
    if self.up then none
    else some {self with inner := {self.inner with rpcIds := self.inner.rpcIds.clear}}
  | .deliver subscriptionId success => self.deliver subscriptionId success
  | .processState =>
    match self.states with
    | [] => none
    | state::rest =>
      some {self with
        inner := self.inner.setIsConnected (state = .connected)
        states := rest}
  | .receive index =>
    match self.data[index]? with
    | none => none
    | some (id,response) =>
      some {self with
        inner := self.inner.onReceivedRpcResponse id response
        data := self.data.eraseIdx index}
  | .delayPasses index =>
    match self.inner.delayed[index]? with
    | none => none
    | some req =>
      let inner := {self.inner with delayed := self.inner.delayed.eraseIdx index}
      some {self with inner := inner.sendDelayed req}

/-- The client takes itself to be connected and has heard of every connection change. -/
def Connected (self : Client) : Prop := self.inner.isConnected = true ∧ self.states = []

/-- No request waits for its response. -/
def Quiet (self : Client) : Prop := ∀ id, self.inner.rpcIdsInFlight.lookup.get id = none

end Client
end Warpdrive.Trigger.EvmStream
