import Warpdrive.Trigger.Traffic

/-! The connections of an EVM stream client one after another (`connection_loop` and
`message_loop` of `client/connection.rs`), with the two channels to the subscription loop,
which it drains in any order. The connection task drops its sink, clears the rpc ids and
only then reports that the connection is lost, so what was received on a connection finds
neither its request nor its subscription once the loop has heard of the loss. -/
namespace Warpdrive.Trigger.EvmStream

open Warpdrive.Foundation Warpdrive.Types Warpdrive.Foundation.Execution

/-- Where the connection task stands. -/
inductive Phase
  | connecting
  | opened
  | reading
  | leaving
  | dropped
  | cleared
  | failed
  deriving DecidableEq

namespace Phase

/-- The message loop has a sink to write to. -/
def hasSink : Phase → Bool
  | .opened | .reading | .leaving => true
  | _ => false

/-- The rpc ids were cleared after the last connection was left. -/
def ended : Phase → Bool
  | .cleared | .connecting | .failed => true
  | _ => false

end Phase

/-- A connection state, with the connection it is about if there was one. -/
inductive Report
  | connected (connection : Nat)
  | disconnected (connection : Option Nat)
  deriving DecidableEq

/-- The subscription id that a message carries. -/
def RpcInbound.names : RpcInbound → Option String
  | .response _ (.ok (.newSubscription subscriptionId)) => some subscriptionId
  | .subscription subscriptionId _ => some subscriptionId
  | _ => none

/-- The subscription loop with the connection task: the connections made so far, what waits
in the two channels, the requests that went out on each connection, the connection that
each subscription id belongs to, and the connections the loop knows to be lost. -/
structure Link where
  loop : SubscriptionLoop
  phase : Phase
  connection : Nat
  states : List Report
  data : List (Nat × RpcInbound)
  delivered : List (Nat × RpcId)
  owner : HashMap String Nat
  closed : List Nat

namespace Link

inductive Act
  | call (call : Call)
  | openSink
  | reportConnected
  | leave
  | dropSink
  | clearAll
  | reportDisconnected
  | connectFails
  | clearAfterFailure
  | deliver
  | hear (message : RpcInbound)
  | processState
  | processData
  | delayPasses (index : Nat)

def new (keys : SlotKeys) : Link := ⟨.new keys,.connecting,0,[],[],[],.new,[]⟩

def withInner (self : Link) (inner : Subscriptions) : Link :=
  {self with loop := {self.loop with inner}}

/-- What the server may say: a response to a request it got on this connection, and the
subscription ids of this connection only. -/
def Speaks (self : Link) (message : RpcInbound) : Prop :=
  (∀ id result, message = .response id result → (self.connection,id) ∈ self.delivered) ∧
    ∀ subscriptionId ∈ message.names, ∀ connection ∈ self.owner.get subscriptionId,
      connection = self.connection

instance decidableAnswers (self : Link) (message : RpcInbound) :
    Decidable (∀ id result, message = .response id result → (self.connection,id) ∈ self.delivered) :=
  match message with
  | .response id result =>
    decidable_of_iff ((self.connection,id) ∈ self.delivered) (by
      constructor
      · intro known other otherResult same
        cases same
        exact known
      · intro known
        exact known id result rfl)
  | .subscription id result => .isTrue (by simp)

instance decidableSpeaks (self : Link) (message : RpcInbound) : Decidable (self.Speaks message) :=
  inferInstanceAs (Decidable (_ ∧ _))

def hear (self : Link) (message : RpcInbound) : Link where
  loop := self.loop
  phase := self.phase
  connection := self.connection
  states := self.states
  data := self.data ++ [(self.connection,message)]
  delivered := self.delivered
  owner := match message.names with
    | none => self.owner
    | some subscriptionId => self.owner.insert subscriptionId self.connection
  closed := self.closed

def processState (self : Link) : Option Link :=
  match self.states with
  | [] => none
  | .connected _::rest =>
    some {self.withInner (self.loop.inner.setIsConnected true) with states := rest}
  | .disconnected connection::rest =>
    some {self.withInner (self.loop.inner.setIsConnected false) with
      states := rest
      closed := self.closed ++ connection.toList}

def step (self : Link) : Act → Option Link
  | .call call => some (self.withInner (call.apply self.loop.inner))
  | .openSink =>
    if self.phase = .connecting then
      some {self with phase := .opened,connection := self.connection + 1}
    else none
  | .reportConnected =>
    if self.phase = .opened then
      some {self with phase := .reading,states := self.states ++ [.connected self.connection]}
    else none
  | .leave => if self.phase = .reading then some {self with phase := .leaving} else none
  | .dropSink => if self.phase = .leaving then some {self with phase := .dropped} else none
  | .clearAll =>
    if self.phase = .dropped then
      some {self.withInner {self.loop.inner with rpcIds := self.loop.inner.rpcIds.clear} with phase := .cleared}
    else none
  | .reportDisconnected =>
    if self.phase = .cleared then
      some {self with phase := .connecting,states := self.states ++ [.disconnected (some self.connection)]}
    else none
  | .connectFails =>
    if self.phase = .connecting then
      some {self with phase := .failed,states := self.states ++ [.disconnected none]}
    else none
  | .clearAfterFailure =>
    if self.phase = .failed then
      some {self.withInner {self.loop.inner with rpcIds := self.loop.inner.rpcIds.clear} with
        phase := .connecting}
    else none
  | .deliver =>
    match self.loop.inner.connectionSendRpc with
    | [] => none
    | req::rest =>
      let next := self.withInner {self.loop.inner with connectionSendRpc := rest}
      some (if self.phase.hasSink then
        {next with delivered := self.delivered ++ [(self.connection,req.id)]}
      else next)
  | .hear message => if self.phase = .reading ∧ self.Speaks message then some (self.hear message) else none
  | .processState => self.processState
  | .processData =>
    match self.data with
    | [] => none
    | (_,message)::rest => some {self with loop := self.loop.receive message,data := rest}
  | .delayPasses index => (self.loop.inner.delayPasses index).map self.withInner

/-- The connection was left and the rpc ids were cleared since. -/
def Ended (self : Link) (connection : Nat) : Prop :=
  connection < self.connection ∨ connection = self.connection ∧ self.phase.ended = true

structure Sound (link : Link) : Prop where
  steady : link.loop.inner.Steady
  minted : ∀ connection id, (connection,id) ∈ link.delivered → link.loop.inner.rpcIds.Minted id
  forgotten : ∀ connection id, (connection,id) ∈ link.delivered → link.Ended connection →
    link.loop.inner.rpcIds.get id = none
  answers : ∀ connection id result, (connection,.response id result) ∈ link.data →
    (connection,id) ∈ link.delivered
  named : ∀ connection message, (connection,message) ∈ link.data →
    ∀ subscriptionId ∈ message.names, link.owner.get subscriptionId = some connection
  reported : ∀ connection, .disconnected (some connection) ∈ link.states → link.Ended connection
  closed : ∀ connection ∈ link.closed, link.Ended connection
  tracked : ∀ subscriptionId, link.loop.inner.ids.lookup.get subscriptionId ≠ none →
    ∃ connection, link.owner.get subscriptionId = some connection ∧ connection ∉ link.closed

/-- Requests may be sent and subscriptions forgotten at any time. -/
theorem Sound.withInner {self : Link} (sound : Sound self) (inner : Subscriptions) (steady : inner.Steady)
    (grows : self.loop.inner.rpcIds.Grows inner.rpcIds)
    (older : ∀ id, self.loop.inner.rpcIds.Minted id → inner.rpcIds.get id = self.loop.inner.rpcIds.get id)
    (ids : ∀ subscriptionId, inner.ids.lookup.get subscriptionId ≠ none →
      self.loop.inner.ids.lookup.get subscriptionId ≠ none) : Sound (self.withInner inner) := by
  refine ⟨steady,?_,?_,sound.answers,sound.named,sound.reported,sound.closed,?_⟩
  · intro connection id sent
    exact grows.minted (sound.minted connection id sent)
  · intro connection id sent ended
    exact (older id (sound.minted connection id sent)).trans (sound.forgotten connection id sent ended)
  · intro subscriptionId known
    exact sound.tracked subscriptionId (ids subscriptionId known)

theorem Sound.sends {self : Link} (sound : Sound self) (base inner : Subscriptions)
    (sent later : List RpcRequest) (sends : Subscriptions.Sends base inner sent later) (steady : inner.Steady)
    (rpcIds : base.rpcIds = self.loop.inner.rpcIds) (ids : base.ids = self.loop.inner.ids) :
    Sound (self.withInner inner) := by
  apply sound.withInner inner steady
  · rw [← rpcIds]
    exact sends.grows
  · rw [← rpcIds]
    exact sends.older
  · rw [sends.ids,ids]
    exact fun _ known => known

theorem Sound.call {self : Link} (sound : Sound self) (call : Call) :
    Sound (self.withInner (call.apply self.loop.inner)) := by
  obtain ⟨asked,opened,sends,_⟩ := call.sends self.loop.inner
  obtain ⟨_,_,ids,rpcIds,_⟩ := call.base_frame self.loop.inner
  exact sound.sends _ _ _ _ sends (call.steady_apply _ sound.steady) rpcIds ids

/-- The phase and the reports change, and connections that had ended stay so. -/
theorem Sound.moved {self : Link} (sound : Sound self) (phase : Phase) (connection : Nat)
    (states : List Report) (same : ∀ ended, Ended {self with phase,connection,states} ended ↔ self.Ended ended)
    (reported : ∀ lost, .disconnected (some lost) ∈ states → self.Ended lost) :
    Sound {self with phase,connection,states} where
  steady := sound.steady
  minted := sound.minted
  forgotten lost id sent ended := sound.forgotten lost id sent ((same lost).mp ended)
  answers := sound.answers
  named := sound.named
  reported lost member := (same lost).mpr (reported lost member)
  closed lost member := (same lost).mpr (sound.closed lost member)
  tracked := sound.tracked

theorem Sound.clear {self : Link} (sound : Sound self) (phase : Phase) (ended : phase.ended = true) :
    Sound {self.withInner {self.loop.inner with rpcIds := self.loop.inner.rpcIds.clear} with phase} := by
  have later : ∀ connection, self.Ended connection →
      Ended {self.withInner {self.loop.inner with rpcIds := self.loop.inner.rpcIds.clear} with phase} connection := by
    intro connection before
    rcases before with earlier | ⟨same,_⟩
    · exact .inl earlier
    · exact .inr ⟨same,ended⟩
  exact ⟨Client.steady_clear _ sound.steady,sound.minted,fun _ id _ _ => SlotMap.get_clear _ id,
    sound.answers,sound.named,fun lost member => later lost (sound.reported lost member),
    fun lost member => later lost (sound.closed lost member),sound.tracked⟩

theorem Sound.deliver {self : Link} (sound : Sound self) (req : RpcRequest) (rest : List RpcRequest)
    (queued : self.loop.inner.connectionSendRpc = req::rest) :
    Sound (if self.phase.hasSink then
      {self.withInner {self.loop.inner with connectionSendRpc := rest} with
        delivered := self.delivered ++ [(self.connection,req.id)]}
    else self.withInner {self.loop.inner with connectionSendRpc := rest}) := by
  have steady := Client.steady_requests self.loop.inner sound.steady rest self.loop.inner.delayed (by
    intro other member
    rw [queued]
    exact List.mem_cons_of_mem _ member)
  have taken := sound.withInner {self.loop.inner with connectionSendRpc := rest} steady (.refl _)
    (fun _ _ => rfl) (fun _ known => known)
  have minted : self.loop.inner.rpcIds.Minted req.id := by
    apply (sound.steady.posted req _).1
    rw [queued]
    exact List.mem_append_left _ List.mem_cons_self
  split
  · next sink =>
    have going : self.phase.ended = false := by
      cases phase : self.phase <;> simp_all [Phase.hasSink,Phase.ended]
    refine ⟨steady,?_,?_,?_,sound.named,sound.reported,sound.closed,sound.tracked⟩
    · intro connection id member
      rcases List.mem_append.mp member with old | new
      · exact sound.minted connection id old
      · cases List.mem_singleton.mp new
        exact minted
    · intro connection id member ended
      rcases List.mem_append.mp member with old | new
      · exact sound.forgotten connection id old ended
      · cases List.mem_singleton.mp new
        rcases ended with earlier | ⟨_,finished⟩
        · exact absurd earlier (Nat.lt_irrefl _)
        · change self.phase.ended = true at finished
          rw [going] at finished
          cases finished
    · intro connection id result member
      exact List.mem_append_left _ (sound.answers connection id result member)
  · exact taken

theorem owner_hear (self : Link) (message : RpcInbound) (speaks : self.Speaks message) (subscriptionId : String)
    (connection : Nat) (owned : self.owner.get subscriptionId = some connection) :
    (self.hear message).owner.get subscriptionId = some connection := by
  unfold hear
  cases named : message.names with
  | none => exact owned
  | some other =>
    simp only [HashMap.get_insert]
    split
    · next same =>
      subst same
      rw [speaks.2 subscriptionId named connection owned]
    · exact owned

theorem Sound.hear {self : Link} (sound : Sound self) (message : RpcInbound) (speaks : self.Speaks message) :
    Sound (self.hear message) := by
  refine ⟨sound.steady,sound.minted,sound.forgotten,?_,?_,sound.reported,sound.closed,?_⟩
  · intro connection id result member
    rcases List.mem_append.mp member with old | new
    · exact sound.answers connection id result old
    · cases List.mem_singleton.mp new
      exact speaks.1 id result rfl
  · intro connection other member subscriptionId named
    rcases List.mem_append.mp member with old | new
    · exact self.owner_hear message speaks _ _ (sound.named connection other old subscriptionId named)
    · cases List.mem_singleton.mp new
      unfold Link.hear
      rw [Option.mem_def] at named
      simp only [named,HashMap.get_insert,if_true]
  · intro subscriptionId known
    obtain ⟨connection,owned,running⟩ := sound.tracked subscriptionId known
    exact ⟨connection,self.owner_hear message speaks _ _ owned,running⟩

theorem Sound.processState {self next : Link} (sound : Sound self) (stepped : self.processState = some next) :
    Sound next := by
  unfold Link.processState at stepped
  split at stepped
  · cases stepped
  · next connection rest queued =>
    cases stepped
    obtain ⟨sent,sends,_⟩ := Subscriptions.Sends.resubscribes {self.loop.inner with isConnected := true}
    have online := sound.sends _ _ _ _ sends (sound.steady.setIsConnected true) rfl rfl
    refine ⟨online.steady,online.minted,online.forgotten,online.answers,online.named,?_,online.closed,
      online.tracked⟩
    intro lost member
    apply sound.reported lost
    rw [queued]
    exact List.mem_cons_of_mem _ member
  · next connection rest queued =>
    cases stepped
    refine ⟨sound.steady.setIsConnected false,sound.minted,sound.forgotten,sound.answers,sound.named,?_,?_,?_⟩
    · intro lost member
      apply sound.reported lost
      rw [queued]
      exact List.mem_cons_of_mem _ member
    · intro lost member
      rcases List.mem_append.mp member with old | new
      · exact sound.closed lost old
      · apply sound.reported lost
        rw [queued,Option.mem_toList.mp new]
        exact List.mem_cons_self
    · intro subscriptionId known
      exact absurd (HashMap.get_new subscriptionId) known

/-- The first message leaves the data channel. -/
theorem Sound.shift {self : Link} (sound : Sound self) (item : Nat × RpcInbound) (rest : List (Nat × RpcInbound))
    (queued : self.data = item::rest) : Sound {self with data := rest} := by
  have held : ∀ other ∈ rest, other ∈ self.data := by
    intro other member
    rw [queued]
    exact List.mem_cons_of_mem _ member
  exact ⟨sound.steady,sound.minted,sound.forgotten,
    fun connection id result member => sound.answers connection id result (held _ member),
    fun connection message member => sound.named connection message (held _ member),
    sound.reported,sound.closed,sound.tracked⟩

/-- A response is recorded only while its connection has not ended. -/
theorem Sound.response {self : Link} (sound : Sound self) (connection : Nat) (id : RpcId)
    (response : RpcResponse) (delivered : (connection,id) ∈ self.delivered)
    (named : ∀ subscriptionId, response = .newSubscription subscriptionId →
      self.owner.get subscriptionId = some connection) :
    Sound (self.withInner (self.loop.inner.onReceivedRpcResponse id response)) := by
  have result := self.loop.inner.received id response
  have steady := sound.steady.received id response result
  generalize self.loop.inner.onReceivedRpcResponse id response = next at result steady
  cases result with
  | ignored => exact sound.withInner _ steady (.refl _) (fun _ _ => rfl) (fun _ known => known)
  | unwanted subscriptionId =>
    exact sound.sends _ _ _ _ (.unsubscribe (self.loop.inner.landed id) subscriptionId none) steady rfl rfl
  | refused subscriptionId =>
    exact sound.sends _ _ _ _ (.unsubscribe (self.loop.inner.landed id) subscriptionId _) steady rfl rfl
  | unsubscribed subscriptionId =>
    refine sound.withInner _ steady (.refl _) (fun _ _ => rfl) ?_
    intro other known absent
    apply known
    simp only [SubscriptionIds.remove,HashMap.get_remove,absent,ite_self]
  | subscribed subscriptionId kind known =>
    have plain := sound.withInner (self.loop.inner.landed id) (sound.steady.landed id) (.refl _)
      (fun _ _ => rfl) (fun _ known => known)
    refine ⟨steady,plain.minted,plain.forgotten,plain.answers,plain.named,plain.reported,plain.closed,?_⟩
    intro other tracked
    by_cases same : other = subscriptionId
    · subst same
      refine ⟨connection,named other rfl,?_⟩
      intro closed
      have gone := sound.forgotten connection id delivered (sound.closed connection closed)
      rw [gone] at known
      cases known
    · apply sound.tracked other
      intro absent
      apply tracked
      change (HashMap.insert _ subscriptionId kind).get other = none
      rw [HashMap.get_insert_ne _ _ _ _ same]
      exact absent

theorem Sound.processData {self : Link} (sound : Sound self) (connection : Nat) (message : RpcInbound)
    (rest : List (Nat × RpcInbound)) (queued : self.data = (connection,message)::rest) :
    Sound {self with loop := self.loop.receive message,data := rest} := by
  have head : (connection,message) ∈ self.data := by
    rw [queued]
    exact List.mem_cons_self
  have shifted := sound.shift _ rest queued
  have same : Sound {self.withInner (self.loop.receive message).inner with data := rest} := by
    rcases self.loop.receive_inner message with ⟨id,response,rfl,inner⟩ | ⟨_,inner⟩
    · rw [inner]
      apply shifted.response connection id response (sound.answers connection id _ head)
      intro subscriptionId same
      subst same
      exact sound.named connection _ head subscriptionId rfl
    · rw [inner]
      exact shifted
  exact ⟨same.steady,same.minted,same.forgotten,same.answers,same.named,same.reported,same.closed,same.tracked⟩

theorem sound_step (self next : Link) (act : Act) (stepped : self.step act = some next) (sound : Sound self) :
    Sound next := by
  cases act with
  | call call =>
    cases stepped
    exact sound.call call
  | openSink =>
    obtain ⟨phase,same⟩ := Option.ite_none_right_eq_some.mp stepped
    cases same
    have ended : ∀ connection, Ended {self with phase := .opened,connection := self.connection + 1} connection ↔
        self.Ended connection := by
      intro connection
      simp only [Ended,phase,Phase.ended,Nat.lt_succ_iff_lt_or_eq,Bool.false_eq_true,and_false,or_false,and_true]
    exact sound.moved .opened (self.connection + 1) self.states ended sound.reported
  | reportConnected =>
    obtain ⟨phase,same⟩ := Option.ite_none_right_eq_some.mp stepped
    cases same
    refine sound.moved .reading self.connection _ (fun _ => by simp only [Ended,phase,Phase.ended]) ?_
    intro lost member
    apply sound.reported lost
    simpa using member
  | leave =>
    obtain ⟨phase,same⟩ := Option.ite_none_right_eq_some.mp stepped
    cases same
    exact sound.moved .leaving self.connection self.states
      (fun _ => by simp only [Ended,phase,Phase.ended]) sound.reported
  | dropSink =>
    obtain ⟨phase,same⟩ := Option.ite_none_right_eq_some.mp stepped
    cases same
    exact sound.moved .dropped self.connection self.states
      (fun _ => by simp only [Ended,phase,Phase.ended]) sound.reported
  | clearAll =>
    obtain ⟨_,same⟩ := Option.ite_none_right_eq_some.mp stepped
    cases same
    exact sound.clear .cleared rfl
  | reportDisconnected =>
    obtain ⟨phase,same⟩ := Option.ite_none_right_eq_some.mp stepped
    cases same
    refine sound.moved .connecting self.connection _ (fun _ => by simp only [Ended,phase,Phase.ended]) ?_
    intro lost member
    rcases List.mem_append.mp member with old | new
    · exact sound.reported lost old
    · cases List.mem_singleton.mp new
      exact .inr ⟨rfl,by rw [phase]; rfl⟩
  | connectFails =>
    obtain ⟨phase,same⟩ := Option.ite_none_right_eq_some.mp stepped
    cases same
    refine sound.moved .failed self.connection _ (fun _ => by simp only [Ended,phase,Phase.ended]) ?_
    intro lost member
    apply sound.reported lost
    simpa using member
  | clearAfterFailure =>
    obtain ⟨_,same⟩ := Option.ite_none_right_eq_some.mp stepped
    cases same
    exact sound.clear .connecting rfl
  | deliver =>
    simp only [step] at stepped
    split at stepped
    · cases stepped
    · next req rest queued =>
      cases stepped
      exact sound.deliver req rest queued
  | hear message =>
    obtain ⟨⟨_,speaks⟩,same⟩ := Option.ite_none_right_eq_some.mp stepped
    cases same
    exact sound.hear message speaks
  | processState => exact sound.processState stepped
  | processData =>
    simp only [step] at stepped
    split at stepped
    · cases stepped
    · next connection message rest queued =>
      cases stepped
      exact sound.processData connection message rest queued
  | delayPasses index =>
    obtain ⟨inner,passed,rfl⟩ := Option.map_eq_some_iff.mp stepped
    have steady := sound.steady.delayPasses index passed
    obtain ⟨_,_,_,_,same⟩ := Subscriptions.delayPasses_cases _ _ _ passed
    exact sound.withInner inner steady (by rw [same]; exact .refl _) (by intro _ _; rw [same])
      (by intro _ known; rw [same] at known; exact known)

theorem sound_new (keys : SlotKeys) : Sound (new keys) := by
  refine ⟨Subscriptions.steady_new keys,?_,?_,?_,?_,?_,?_,?_⟩
  · simp [new]
  · simp [new]
  · simp [new]
  · simp [new]
  · simp [new]
  · simp [new]
  · intro subscriptionId known
    exact absurd (HashMap.get_new subscriptionId) known

/-- Nothing is recorded and nothing is forwarded. -/
def Unmoved (before after : SubscriptionLoop) : Prop :=
  after.inner.ids = before.inner.ids ∧ after.blockHeights = before.blockHeights ∧
    after.logs = before.logs ∧ after.pendingTransactions = before.pendingTransactions

theorem unmoved_unknown_response (loop : SubscriptionLoop) (id : RpcId) (response : RpcResponse)
    (forgotten : loop.inner.rpcIds.get id = none) :
    Unmoved loop (loop.receive (.response id (.ok response))) := by
  refine ⟨?_,rfl,rfl,rfl⟩
  change (loop.inner.onReceivedRpcResponse id response).ids = _
  unfold Subscriptions.onReceivedRpcResponse
  simp only [forgotten]

theorem unmoved_unknown_event (loop : SubscriptionLoop) (subscriptionId : String) (event : RpcSubscriptionEvent)
    (unknown : loop.inner.ids.lookup.get subscriptionId = none) :
    Unmoved loop (loop.receive (.subscription subscriptionId (.ok event))) := by
  have held : ∀ category, loop.inner.forwards category subscriptionId = false := by
    intro category
    simp [Subscriptions.forwards,SubscriptionIds.compare,unknown]
  cases event <;> simp [Unmoved,SubscriptionLoop.receive,SubscriptionLoop.onReceivedSubscriptionEvent,held]

/-- What was received on a connection that the loop knows to be lost does nothing. -/
theorem Sound.unmoved {self : Link} (sound : Sound self) (connection : Nat) (message : RpcInbound)
    (rest : List (Nat × RpcInbound)) (queued : self.data = (connection,message)::rest)
    (closed : connection ∈ self.closed) : Unmoved self.loop (self.loop.receive message) := by
  have head : (connection,message) ∈ self.data := by
    rw [queued]
    exact List.mem_cons_self
  cases message with
  | response id result =>
    cases result with
    | ok response =>
      have sent := sound.answers connection id _ head
      exact unmoved_unknown_response self.loop id response
        (sound.forgotten connection id sent (sound.closed connection closed))
    | error _ => exact ⟨rfl,rfl,rfl,rfl⟩
  | subscription subscriptionId result =>
    cases result with
    | ok event =>
      apply unmoved_unknown_event
      by_contra known
      obtain ⟨owner,owned,running⟩ := sound.tracked subscriptionId known
      rw [sound.named connection _ head subscriptionId rfl] at owned
      cases owned
      exact running closed
    | error _ => exact ⟨rfl,rfl,rfl,rfl⟩

/-- In every reachable state, no subscription of a connection that the loop knows to be
lost is recorded, and the next message, if it was received on such a connection, is neither
recorded nor forwarded. -/
theorem connections_isolated (keys : SlotKeys) (acts : List Act) (link : Link)
    (reached : run step (new keys) acts = some link) :
    (∀ connection ∈ link.closed, ∀ subscriptionId, link.owner.get subscriptionId = some connection →
      link.loop.inner.ids.lookup.get subscriptionId = none) ∧
    ∀ connection message rest, link.data = (connection,message)::rest → connection ∈ link.closed →
      Unmoved link.loop (link.loop.receive message) := by
  have sound : Sound link := invariant Sound
    (fun state act next stepped sound => sound_step state next act stepped sound) (new keys) link acts reached (sound_new keys)
  constructor
  · intro connection closed subscriptionId owned
    by_contra known
    obtain ⟨owner,same,running⟩ := sound.tracked subscriptionId known
    rw [owned] at same
    cases same
    exact running closed
  · intro connection message rest queued closed
    exact sound.unmoved connection message rest queued closed

/-- A subscription is answered and delivers a block on the first connection, and the loop
gets to both messages when the second connection is up. -/
def lateMessages : List Act :=
  [.call (.toggleBlockHeight true),.openSink,.reportConnected,.processState,.deliver,
    .hear (.response 4294967297 (.ok (.newSubscription "0x1"))),.hear (.subscription "0x1" (.ok (.newHeads 7))),
    .leave,.dropSink,.clearAll,.reportDisconnected,.processState,.openSink,.reportConnected,.processState]

theorem lateMessages_isolated :
    ∃ link, run step (new .reusedOnce) lateMessages = some link ∧ link.closed = [1] ∧
      link.data = [(1,.response 4294967297 (.ok (.newSubscription "0x1"))),(1,.subscription "0x1" (.ok (.newHeads 7)))] ∧
      Unmoved link.loop (link.loop.receive (.response 4294967297 (.ok (.newSubscription "0x1")))) := by
  obtain ⟨link,reached,tested⟩ := run_any step (new .reusedOnce) lateMessages
    (fun link => link.closed = [1] ∧ link.data =
      [(1,.response 4294967297 (.ok (.newSubscription "0x1"))),(1,.subscription "0x1" (.ok (.newHeads 7)))])
    (by decide +kernel)
  obtain ⟨closed,queued⟩ := of_decide_eq_true tested
  exact ⟨link,reached,closed,queued,
    (connections_isolated _ lateMessages link reached).2 1 _ _ queued (by simp [closed])⟩

end Link

end Warpdrive.Trigger.EvmStream
