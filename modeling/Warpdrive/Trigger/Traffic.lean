import Warpdrive.Trigger.Coverage

/-! What travels between an EVM stream client and its server: the inbound messages
(`client/rpc_types/inbound.rs`) with the loop that receives them (`Subscriptions::new`),
and the requests that a call, a new connection or a response sends. -/
namespace Warpdrive.Trigger.EvmStream

open Warpdrive.Foundation Warpdrive.Types

structure RpcError where
  code : Int
  message : String
  data : Option JsonValue
  deriving DecidableEq

structure Log where
  address : Address
  logData : LogData
  blockHash : Option (FixedBytes 32)
  logIndex : Option UInt64
  deriving DecidableEq

inductive RpcSubscriptionEvent
  | newHeads (number : UInt64)
  | logs (log : Log)
  | newPendingTransaction (tx : FixedBytes 32)
  deriving DecidableEq

inductive RpcInbound
  | response (id : RpcId) (result : Except RpcError RpcResponse)
  | subscription (id : String) (result : Except RpcError RpcSubscriptionEvent)
  deriving DecidableEq

/-- The subscription loop with what it has sent to its three channels. -/
structure SubscriptionLoop where
  inner : Subscriptions
  blockHeights : List UInt64
  logs : List Log
  pendingTransactions : List (FixedBytes 32)

namespace SubscriptionLoop

def new (keys : SlotKeys) : SubscriptionLoop := ⟨.new keys,[],[],[]⟩

def onReceivedSubscriptionEvent (self : SubscriptionLoop) (subscriptionId : String) :
    RpcSubscriptionEvent → SubscriptionLoop
  | .newHeads number =>
    if self.inner.forwards .newHeads subscriptionId then
      {self with blockHeights := self.blockHeights ++ [number]}
    else self
  | .logs log =>
    if self.inner.forwards .allLogs subscriptionId then {self with logs := self.logs ++ [log]} else self
  | .newPendingTransaction tx =>
    if self.inner.forwards .newPendingTransactions subscriptionId then
      {self with pendingTransactions := self.pendingTransactions ++ [tx]}
    else self

/-- One inbound message. An error is only logged. -/
def receive (self : SubscriptionLoop) : RpcInbound → SubscriptionLoop
  | .response id (.ok response) => {self with inner := self.inner.onReceivedRpcResponse id response}
  | .response _ (.error _) => self
  | .subscription id (.ok event) => self.onReceivedSubscriptionEvent id event
  | .subscription _ (.error _) => self

theorem onReceivedSubscriptionEvent_inner (self : SubscriptionLoop) (subscriptionId : String)
    (event : RpcSubscriptionEvent) :
    (self.onReceivedSubscriptionEvent subscriptionId event).inner = self.inner := by
  unfold onReceivedSubscriptionEvent
  split <;> split <;> rfl

/-- What the tables of the client look like after a message. -/
theorem receive_inner (self : SubscriptionLoop) (message : RpcInbound) :
    (∃ id response, message = .response id (.ok response) ∧
      (self.receive message).inner = self.inner.onReceivedRpcResponse id response) ∨
    (∀ id response, message ≠ .response id (.ok response)) ∧ (self.receive message).inner = self.inner := by
  cases message with
  | response id result =>
    cases result with
    | ok response => exact .inl ⟨id,response,rfl,rfl⟩
    | error _ => exact .inr ⟨by simp,rfl⟩
  | subscription id result =>
    cases result with
    | ok event => exact .inr ⟨by simp,self.onReceivedSubscriptionEvent_inner id event⟩
    | error _ => exact .inr ⟨by simp,rfl⟩

end SubscriptionLoop

namespace Subscriptions

/-- Requests get the next rpc ids, in order, and are in flight. Those in `later` wait for
their delay. -/
structure Sends (before after : Subscriptions) (sent later : List RpcRequest) : Prop where
  queue : after.connectionSendRpc = before.connectionSendRpc ++ sent
  delayed : after.delayed = before.delayed ++ later
  ids : after.ids = before.ids
  grows : before.rpcIds.Grows after.rpcIds
  numbered : (sent ++ later).map RpcRequest.id = after.rpcIds.mintedSince before.rpcIds.count
  older : ∀ id, before.rpcIds.Minted id → after.rpcIds.get id = before.rpcIds.get id
  flight : ∀ id, before.rpcIds.Minted id →
    after.rpcIdsInFlight.lookup.get id = before.rpcIdsInFlight.lookup.get id
  known : ∀ req ∈ sent ++ later, after.rpcIds.get req.id = some req.requestKind
  flying : ∀ req ∈ sent ++ later,
    after.rpcIdsInFlight.lookup.get req.id = some (.activateOnLand req.requestKind)

namespace Sends

theorem refl (self : Subscriptions) : Sends self self [] [] where
  queue := (List.append_nil _).symm
  delayed := (List.append_nil _).symm
  ids := rfl
  grows := .refl _
  numbered := by simp [SlotMap.mintedSince]
  older _ _ := rfl
  flight _ _ := rfl
  known _ member := absurd member List.not_mem_nil
  flying _ member := absurd member List.not_mem_nil

theorem mem_ids {before after : Subscriptions} {sent later : List RpcRequest}
    (sends : Sends before after sent later) (id : RpcId) :
    id ∈ (sent ++ later).map RpcRequest.id ↔ after.rpcIds.Minted id ∧ ¬before.rpcIds.Minted id := by
  rw [sends.numbered]
  exact sends.grows.mem_mintedSince id

theorem id_minted {before after : Subscriptions} {sent later : List RpcRequest}
    (sends : Sends before after sent later) (req : RpcRequest) (member : req ∈ sent ++ later) :
    after.rpcIds.Minted req.id ∧ ¬before.rpcIds.Minted req.id :=
  (sends.mem_ids req.id).mp (List.mem_map_of_mem member)

theorem ids_nodup {before after : Subscriptions} {sent later : List RpcRequest}
    (sends : Sends before after sent later) : ((sent ++ later).map RpcRequest.id).Nodup := by
  rw [sends.numbered]
  exact (List.nodup_range' 1).map after.rpcIds.keys.distinct

theorem subscribe (self : Subscriptions) (params : SubscribeParams) :
    Sends self (self.sendSubscribe params) [.subscribe self.rpcIds.next params] [] := by
  rw [sendSubscribe_eq]
  refine ⟨rfl,(List.append_nil _).symm,rfl,self.rpcIds.grows_insert _,
    (self.rpcIds.mintedSince_insert _).symm,?_,?_,?_,?_⟩
  · intro id older
    simp only [SlotMap.get_insert,if_neg older.ne_next]
  · intro id older
    simp only [RpcIdsInFlight.insert,HashMap.get_insert,if_neg older.ne_next]
  · intro req member
    obtain rfl := List.mem_singleton.mp member
    exact (SlotMap.get_insert _ _ _).trans (if_pos rfl)
  · intro req member
    obtain rfl := List.mem_singleton.mp member
    exact (HashMap.get_insert _ _ _ _).trans (if_pos rfl)

theorem unsubscribe (self : Subscriptions) (subscriptionId : String) (delay : Option Nat) :
    Sends self (self.sendUnsubscribe subscriptionId delay)
      (if delay = none then [.unsubscribe self.rpcIds.next subscriptionId] else [])
      (if delay = none then [] else [.unsubscribe self.rpcIds.next subscriptionId]) := by
  have single : (if delay = none then [RpcRequest.unsubscribe self.rpcIds.next subscriptionId] else []) ++
      (if delay = none then [] else [RpcRequest.unsubscribe self.rpcIds.next subscriptionId]) =
        [.unsubscribe self.rpcIds.next subscriptionId] := by
    split <;> rfl
  rw [sendUnsubscribe_eq]
  constructor
  · rfl
  · rfl
  · rfl
  · exact self.rpcIds.grows_insert _
  · rw [single]
    exact (self.rpcIds.mintedSince_insert _).symm
  · intro id older
    simp only [SlotMap.get_insert,if_neg older.ne_next]
  · intro id older
    simp only [RpcIdsInFlight.insert,HashMap.get_insert,if_neg older.ne_next]
  · intro req member
    rw [single] at member
    obtain rfl := List.mem_singleton.mp member
    exact (SlotMap.get_insert _ _ _).trans (if_pos rfl)
  · intro req member
    rw [single] at member
    obtain rfl := List.mem_singleton.mp member
    exact (HashMap.get_insert _ _ _ _).trans (if_pos rfl)

/-- Requests of one batch after those of another, none of them delayed. -/
theorem trans {first second third : Subscriptions} {one two : List RpcRequest}
    (start : Sends first second one []) (rest : Sends second third two []) :
    Sends first third (one ++ two) [] := by
  constructor
  · rw [rest.queue,start.queue,List.append_assoc]
  · rw [rest.delayed,start.delayed,List.append_nil]
  · rw [rest.ids,start.ids]
  · exact start.grows.trans rest.grows
  · have before := start.numbered
    have after := rest.numbered
    simp only [List.append_nil] at before after ⊢
    rw [List.map_append,before,after]
    exact start.grows.mintedSince_append rest.grows
  · intro id older
    exact (rest.older id (start.grows.minted older)).trans (start.older id older)
  · intro id older
    exact (rest.flight id (start.grows.minted older)).trans (start.flight id older)
  · intro req member
    rw [List.append_nil,List.mem_append] at member
    rcases member with before | after
    · have inside : req ∈ one ++ [] := by simpa using before
      rw [rest.older _ (start.id_minted req inside).1]
      exact start.known req inside
    · exact rest.known req (by simpa using after)
  · intro req member
    rw [List.append_nil,List.mem_append] at member
    rcases member with before | after
    · have inside : req ∈ one ++ [] := by simpa using before
      rw [rest.flight _ (start.id_minted req inside).1]
      exact start.flying req inside
    · exact rest.flying req (by simpa using after)

/-- One request asks for each subscription of a list to be removed. -/
theorem unsubscribes (ids : List String) (self : Subscriptions) :
    ∃ sent, Sends self (ids.foldl (fun self id => self.sendUnsubscribe id none) self) sent [] ∧
      (∀ id, (∃ rpcId, .unsubscribe rpcId id ∈ sent) ↔ id ∈ ids) ∧
      ∀ req ∈ sent, ∃ rpcId id, req = .unsubscribe rpcId id := by
  induction ids generalizing self with
  | nil => exact ⟨[],.refl self,by simp,by simp⟩
  | cons first rest ih =>
    obtain ⟨sent,sends,asked,plain⟩ := ih (self.sendUnsubscribe first none)
    refine ⟨.unsubscribe self.rpcIds.next first :: sent,?_,?_,?_⟩
    · exact (Sends.unsubscribe self first none).trans sends
    · intro id
      simp only [List.mem_cons,exists_or,asked id]
      simp
    · intro req member
      rcases List.mem_cons.mp member with rfl | later
      · exact ⟨_,first,rfl⟩
      · exact plain req later

/-- `resubscribe` sends only subscribe requests, for what is desired. -/
theorem resubscribes (self : Subscriptions) :
    ∃ sent, Sends self self.resubscribe sent [] ∧
      ∀ req ∈ sent, ∃ rpcId kind, req = .subscribe rpcId (SubscriptionKind.params kind) ∧
        self.desired (SubscriptionCategory.ofKind kind) = some kind := by
  have all : (∃ sent, Sends self self.resubscribe sent [] ∧
      ∀ req ∈ sent, ∃ rpcId kind, req = .subscribe rpcId (SubscriptionKind.params kind) ∧
        self.desired (SubscriptionCategory.ofKind kind) = some kind) ∧
      ∀ category, self.resubscribe.desired category = self.desired category := by
    apply resubscribe_keeps (fun after => (∃ sent, Sends self after sent [] ∧
      ∀ req ∈ sent, ∃ rpcId kind, req = .subscribe rpcId (SubscriptionKind.params kind) ∧
        self.desired (SubscriptionCategory.ofKind kind) = some kind) ∧
      ∀ category, after.desired category = self.desired category)
    · intro before kind held _ wanted _
      obtain ⟨⟨sent,sends,plain⟩,same⟩ := held
      refine ⟨⟨sent ++ [.subscribe before.rpcIds.next kind.params],
        sends.trans (.subscribe before kind.params),?_⟩,?_⟩
      · intro req member
        rcases List.mem_append.mp member with earlier | last
        · exact plain req earlier
        · exact ⟨_,kind,List.mem_singleton.mp last,(same _).symm.trans wanted⟩
      · intro category
        rw [← same category,sendSubscribe_eq]
        cases category <;> rfl
    · exact ⟨⟨[],.refl self,by simp⟩,fun _ => rfl⟩
  exact all.1

end Sends

end Subscriptions

namespace Call

/-- The client once the desire and the marks are changed, before any request is sent. -/
def base (self : Subscriptions) (call : Call) : Subscriptions :=
  if call.unsubscribes then (call.retarget self).marked call.category else call.retarget self

theorem base_frame (self : Subscriptions) (call : Call) :
    (call.base self).connectionSendRpc = self.connectionSendRpc ∧ (call.base self).delayed = self.delayed ∧
      (call.base self).ids = self.ids ∧ (call.base self).rpcIds = self.rpcIds ∧
      (call.base self).isConnected = self.isConnected := by
  unfold base
  split <;> exact ⟨rfl,rfl,rfl,rfl,rfl⟩

/-- A call first asks for the subscriptions of its category to be removed, then subscribes
to what is desired. -/
theorem sends (self : Subscriptions) (call : Call) :
    ∃ asked opened, Subscriptions.Sends (call.base self) (call.apply self) (asked ++ opened) [] ∧
      (∀ id, (∃ rpcId, .unsubscribe rpcId id ∈ asked) ↔
        call.unsubscribes = true ∧ id ∈ self.ids.listByCategory call.category) ∧
      (∀ req ∈ asked, ∃ rpcId id, req = .unsubscribe rpcId id) ∧
      ∀ req ∈ opened, ∃ rpcId kind, req = .subscribe rpcId (SubscriptionKind.params kind) ∧
        (call.retarget self).desired (SubscriptionCategory.ofKind kind) = some kind := by
  have left : ∃ asked, Subscriptions.Sends (call.base self) (call.left self) asked [] ∧
      (∀ id, (∃ rpcId, .unsubscribe rpcId id ∈ asked) ↔
        call.unsubscribes = true ∧ id ∈ self.ids.listByCategory call.category) ∧
      ∀ req ∈ asked, ∃ rpcId id, req = .unsubscribe rpcId id := by
    unfold base Call.left
    split
    · next leaves =>
      rw [Subscriptions.unsubscribe_eq]
      obtain ⟨asked,sends,targets,plain⟩ := Subscriptions.Sends.unsubscribes
        (self.ids.listByCategory call.category) ((call.retarget self).marked call.category)
      exact ⟨asked,sends,by simpa [leaves] using targets,plain⟩
    · next stays => exact ⟨[],.refl _,by simp [stays],by simp⟩
  obtain ⟨asked,first,targets,plain⟩ := left
  rw [apply_eq]
  split
  · obtain ⟨opened,second,subscribes⟩ := Subscriptions.Sends.resubscribes (call.left self)
    refine ⟨asked,opened,first.trans second,targets,plain,?_⟩
    intro req member
    obtain ⟨rpcId,kind,same,wanted⟩ := subscribes req member
    exact ⟨rpcId,kind,same,(desired_left self call _).symm.trans wanted⟩
  · exact ⟨asked,[],by simpa using first,targets,plain,by simp⟩

end Call

namespace Subscriptions

/-- A response lands, its subscription is recorded or forgotten, and at most one request is
sent, which asks for a subscription to be removed. -/
theorem Received.sends {self next : Subscriptions} {id : RpcId} {response : RpcResponse}
    (result : Received self id response next) :
    ∃ sent later, Sends {self.landed id with ids := next.ids} next sent later ∧
      ∀ req ∈ sent ++ later, ∃ rpcId subscriptionId, req = .unsubscribe rpcId subscriptionId := by
  cases result with
  | ignored => exact ⟨[],[],.refl _,by simp⟩
  | subscribed => exact ⟨[],[],.refl _,by simp⟩
  | unsubscribed => exact ⟨[],[],.refl _,by simp⟩
  | unwanted subscriptionId =>
    have sends := Sends.unsubscribe (self.landed id) subscriptionId none
    rw [sends.ids]
    refine ⟨_,_,sends,?_⟩
    intro req member
    exact ⟨_,_,by simpa using member⟩
  | refused subscriptionId =>
    have sends := Sends.unsubscribe (self.landed id) subscriptionId (some unsubscribeRetrySecs)
    rw [sends.ids]
    refine ⟨_,_,sends,?_⟩
    intro req member
    exact ⟨_,_,by simpa using member⟩

/-- The delay of a waiting request passes. -/
def delayPasses (self : Subscriptions) (index : Nat) : Option Subscriptions :=
  self.delayed[index]?.map (fun req =>
    sendDelayed {self with delayed := self.delayed.eraseIdx index} req)

theorem delayPasses_cases (self next : Subscriptions) (index : Nat)
    (passed : self.delayPasses index = some next) :
    ∃ req, self.delayed[index]? = some req ∧ ∃ sent, (sent = [req] ∨ sent = []) ∧
      next = {self with
        connectionSendRpc := self.connectionSendRpc ++ sent
        delayed := self.delayed.eraseIdx index} := by
  obtain ⟨req,item,same⟩ := Option.map_eq_some_iff.mp passed
  refine ⟨req,item,?_⟩
  rcases sendDelayed_cases {self with delayed := self.delayed.eraseIdx index} req with sent | dropped
  · exact ⟨[req],.inl rfl,same.symm.trans sent⟩
  · refine ⟨[],.inr rfl,same.symm.trans ?_⟩
    rw [dropped,List.append_nil]

theorem Steady.delayPasses {self next : Subscriptions} (steady : Steady self) (index : Nat)
    (passed : self.delayPasses index = some next) : Steady next := by
  obtain ⟨req,item,sent,choice,rfl⟩ := delayPasses_cases self next index passed
  apply Client.steady_requests self steady
  intro other member
  rcases List.mem_append.mp member with queued | waiting
  · rcases List.mem_append.mp queued with old | new
    · exact List.mem_append_left _ old
    · rcases choice with rfl | rfl
      · obtain rfl := List.mem_singleton.mp new
        exact List.mem_append_right _ (List.mem_of_getElem? item)
      · cases new
  · exact List.mem_append_right _ (List.mem_of_mem_eraseIdx waiting)

theorem steady_new (keys : SlotKeys) : Steady (new keys) := by
  have idle : ∀ id kind, ¬(new keys).Awaits id kind := by
    intro id kind awaits
    simp [Awaits,RpcIdsInFlight.Awaits,new,RpcIdsInFlight.default] at awaits
  refine ⟨fun id kind awaits => absurd awaits (idle id kind),fun _ => idle,?_,?_⟩
  · intro id present
    simp [new,RpcIdsInFlight.default] at present
  · intro req member
    simp [new] at member

end Subscriptions

end Warpdrive.Trigger.EvmStream
