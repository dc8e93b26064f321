import Warpdrive.Trigger.Leak
import Warpdrive.Trigger.Traffic

/-! The subscriptions that are open at the node an EVM stream client talks to. The node
opens one for each subscribe request that reaches it and closes it when it grants a request
to unsubscribe or the connection is lost. The client knows of each of them unless a
subscribe request left over from a lost connection is sent on the next one, or the node
refuses to close a subscription that the client does not track and will not ask for again. -/
namespace Warpdrive.Trigger.EvmStream

open Warpdrive.Foundation Warpdrive.Types Warpdrive.Foundation.Execution

namespace SubscriptionKind

theorem params_surjective (params : SubscribeParams) : ∃ kind : SubscriptionKind, kind.params = params := by
  cases params with
  | newHeads => exact ⟨.newHeads,rfl⟩
  | logs addresses topics => exact ⟨.logs addresses topics,rfl⟩
  | newPendingTransactions => exact ⟨.newPendingTransactions,rfl⟩

theorem params_injective (first second : SubscriptionKind) (same : first.params = second.params) :
    first = second := by
  rw [← requestKind_injective,← requestKind_params,← requestKind_params,same]

end SubscriptionKind

/-- A client with the subscriptions that are open at the node. -/
structure Session where
  client : Client
  atNode : HashMap String SubscribeParams

namespace Client

/-- The next request to be sent subscribes and is left over from a lost connection. -/
def leftOver (self : Client) : Bool :=
  match self.up,self.inner.connectionSendRpc with
  | true,.subscribe id _::_ => (self.inner.rpcIds.get id).isNone
  | _,_ => false

/-- The client tracks the subscription or has yet to process the response that brings it. -/
def Has (self : Client) (subscriptionId : String) (kind : SubscriptionKind) : Prop :=
  self.inner.ids.lookup.get subscriptionId = some kind ∨
    ∃ id, (id,.newSubscription subscriptionId) ∈ self.data ∧ self.inner.rpcIds.get id = some kind.requestKind

/-- What the client has was opened on some connection. -/
theorem Has.opened {self : Client} {subscriptionId : String} {kind : SubscriptionKind}
    (has : self.Has subscriptionId kind) (wired : self.Wired) : self.opened.get subscriptionId ≠ none := by
  rcases has with tracked | ⟨id,landing,_⟩
  · exact wired.tracked subscriptionId (by rw [tracked]; simp)
  · exact (wired.landing subscriptionId (List.mem_filterMap.mpr ⟨_,landing,rfl⟩)).1

/-- Posting requests changes nothing of what the client has. -/
theorem has_posts (self : Client) (wired : self.Wired) (client : Client) (data : client.data = self.data)
    (ids : client.inner.ids = self.inner.ids)
    (older : ∀ id, self.inner.rpcIds.Minted id → client.inner.rpcIds.get id = self.inner.rpcIds.get id)
    (subscriptionId : String) (kind : SubscriptionKind) :
    client.Has subscriptionId kind ↔ self.Has subscriptionId kind := by
  unfold Has
  rw [ids,data]
  apply or_congr_right
  apply exists_congr
  intro id
  apply and_congr_right
  intro landing
  rw [older id (wired.answered id _ landing).1]

theorem mem_taken (self : Client) (index : Nat) (id : RpcId) (response : RpcResponse)
    (item : self.data[index]? = some (id,response)) (message : RpcId × RpcResponse) :
    message ∈ self.data ↔ message = (id,response) ∨ message ∈ (self.taken index id).data := by
  obtain ⟨bound,found⟩ := List.getElem?_eq_some_iff.mp item
  have perm := List.getElem_cons_eraseIdx_perm bound
  rw [found] at perm
  rw [← perm.mem_iff,List.mem_cons]
  rfl

section Receiving

variable {self : Client} (sound : self.Sound) {index : Nat} {id : RpcId} {response : RpcResponse}
  (item : self.data[index]? = some (id,response)) {next : Subscriptions}
  (result : self.inner.Received id response next)

include sound item result

/-- A response brings only the subscription that it names. -/
theorem has_before (subscriptionId : String) (kind : SubscriptionKind)
    (has : Has {self.taken index id with inner := next} subscriptionId kind) : self.Has subscriptionId kind := by
  rcases has with tracked | ⟨rpcId,landing,asked⟩
  · cases result with
    | ignored => exact .inl tracked
    | unwanted target =>
      rw [Subscriptions.sendUnsubscribe_eq] at tracked
      exact .inl tracked
    | refused target =>
      rw [Subscriptions.sendUnsubscribe_eq] at tracked
      exact .inl tracked
    | subscribed new subscription known =>
      simp only [SubscriptionIds.insert,HashMap.get_insert] at tracked
      split at tracked
      · next same =>
        subst same
        cases tracked
        exact .inr ⟨id,List.mem_of_getElem? item,known⟩
      · exact .inl tracked
    | unsubscribed target =>
      simp only [SubscriptionIds.remove,HashMap.get_remove] at tracked
      split at tracked
      · cases tracked
      · exact .inl tracked
  · obtain ⟨sent,later,sends,_⟩ := result.sends
    have before := (self.mem_taken index id response item _).mpr (.inr landing)
    rw [sends.older rpcId (sound.wired.answered rpcId _ before).1] at asked
    exact .inr ⟨rpcId,before,asked⟩

/-- What the client has it keeps, asks to be removed or is told to be gone. -/
theorem has_after (subscriptionId : String) (kind : SubscriptionKind) (has : self.Has subscriptionId kind) :
    Has {self.taken index id with inner := next} subscriptionId kind ∨ next.Asks subscriptionId ∨
      self.inner.rpcIds.get id = some (.unsubscribe subscriptionId) ∧ response = .unsubscribeAck true := by
  rcases has with tracked | ⟨rpcId,landing,asked⟩
  · cases result with
    | ignored => exact .inl (.inl tracked)
    | unwanted target =>
      rw [Subscriptions.sendUnsubscribe_eq]
      exact .inl (.inl tracked)
    | refused target =>
      rw [Subscriptions.sendUnsubscribe_eq]
      exact .inl (.inl tracked)
    | subscribed new subscription known =>
      refine .inl (.inl ?_)
      have landing : new ∈ self.landing := List.mem_filterMap.mpr ⟨_,List.mem_of_getElem? item,rfl⟩
      simp only [SubscriptionIds.insert,HashMap.get_insert]
      rw [if_neg]
      · exact tracked
      · rintro rfl
        rw [(sound.wired.landing subscriptionId landing).2.1] at tracked
        cases tracked
    | unsubscribed target known =>
      by_cases same : subscriptionId = target
      · subst same
        exact .inr (.inr ⟨known,rfl⟩)
      · refine .inl (.inl ?_)
        simp only [SubscriptionIds.remove,HashMap.get_remove,if_neg same]
        exact tracked
  · rcases (self.mem_taken index id response item _).mp landing with same | waiting
    · cases same
      cases result with
      | ignored _ noSubscription => exact absurd rfl (noSubscription kind subscriptionId asked)
      | unwanted =>
        exact .inr (.inl ((sound.steady.landed id).asks_sendUnsubscribe subscriptionId none _ (.inr rfl)))
      | subscribed _ subscription known =>
        rw [asked,Option.some.injEq,SubscriptionKind.requestKind_injective] at known
        subst known
        exact .inl (.inl (HashMap.get_insert_self _ _ _))
    · obtain ⟨sent,later,sends,_⟩ := result.sends
      refine .inl (.inr ⟨rpcId,waiting,?_⟩)
      rw [sends.older rpcId (sound.wired.answered rpcId _ landing).1]
      exact asked

/-- What the client asks to be removed it goes on asking for until it is answered. -/
theorem asks_after (ordered : self.Ordered) (heard : .disconnected ∉ self.states) (subscriptionId : String)
    (asks : self.inner.Asks subscriptionId) : next.Asks subscriptionId ∨
      self.inner.rpcIds.get id = some (.unsubscribe subscriptionId) ∧ ∃ success, response = .unsubscribeAck success := by
  obtain ⟨rpcId,flying⟩ := asks
  by_cases same : rpcId = id
  · subst same
    have known := ordered.agrees heard rpcId _ flying
    have answer := (sound.wired.answered rpcId response (List.mem_of_getElem? item)).2 _ known
    exact .inr ⟨known,answers_unsubscribe self subscriptionId response answer.2⟩
  · obtain ⟨sent,later,sends,_⟩ := result.sends
    refine .inl ⟨rpcId,?_⟩
    rw [sends.flight rpcId (sound.steady.flying rpcId (by rw [flying]; simp))]
    simp only [Subscriptions.landed,(RpcIdsInFlight.remove_spec self.inner.rpcIdsInFlight id).1]
    rw [HashMap.get_remove_ne _ _ _ same]
    exact flying

end Receiving

end Client

namespace Session

def new (keys : SlotKeys) : Session := ⟨.new keys,.new⟩

/-- What is open when the node has taken the next request. -/
def served (self : Session) (subscriptionId : String) (success : Bool) : HashMap String SubscribeParams :=
  match self.client.up,self.client.inner.connectionSendRpc with
  | true,.subscribe _ params::_ => self.atNode.insert subscriptionId params
  | true,.unsubscribe _ target::_ => if success then self.atNode.remove target else self.atNode
  | _,_ => self.atNode

def after (self : Session) : Act → HashMap String SubscribeParams
  | .deliver subscriptionId success => self.served subscriptionId success
  | .disconnect => .new
  | _ => self.atNode

def step (self : Session) (act : Act) : Option Session :=
  (self.client.step act).map (fun client => ⟨client,self.after act⟩)

/-- A subscription that the client tracks or that is open at the node. -/
def Active (self : Session) (subscriptionId : String) (kind : SubscriptionKind) : Prop :=
  self.client.inner.ids.lookup.get subscriptionId = some kind ∨ self.atNode.get subscriptionId = some kind.params

/-- The response to process refuses to close a subscription that is open and not tracked. -/
def givesUp (self : Session) (index : Nat) : Bool :=
  match self.client.data[index]? with
  | some (id,.unsubscribeAck false) =>
    match self.client.inner.rpcIds.get id with
    | some (.unsubscribe target) => (self.atNode.get target).isSome && !self.client.inner.ids.contains target
    | _ => false
  | _ => false

/-- The step leaves a subscription open that the client does not know of. -/
def strays (self : Session) : Act → Bool
  | .deliver _ _ => self.client.leftOver
  | .receive index => self.givesUp index
  | _ => false

def Frugal (self : Session) (act : Act) : Prop := self.client.Frugal act ∧ self.strays act = false

instance (self : Session) (act : Act) : Decidable (self.Frugal act) := inferInstanceAs (Decidable (_ ∧ _))

/-- The invariant of a frugal run: the client has what is open, or asks for its removal. -/
structure Kept (session : Session) : Prop where
  thrifty : session.client.Thrifty
  online : ∀ id, session.atNode.get id ≠ none → session.client.up = true ∧
    session.client.inner.isConnected = true ∧ .disconnected ∉ session.client.states
  known : ∀ id kind, session.atNode.get id = some kind.params →
    session.client.Has id kind ∨ session.client.inner.Asks id
  agree : ∀ id kind other, session.atNode.get id = some kind.params → session.client.Has id other → other = kind
  closed : ∀ rpcId id, (rpcId,.unsubscribeAck true) ∈ session.client.data →
    session.client.inner.rpcIds.get rpcId = some (.unsubscribe id) → session.atNode.get id = none

theorem kept_closed (client : Client) (atNode : HashMap String SubscribeParams) (thrifty : client.Thrifty)
    (none : ∀ id, atNode.get id = none) : Kept ⟨client,atNode⟩ := by
  have nowhere : ∀ id params, atNode.get id ≠ some params := by
    intro id params present
    rw [none id] at present
    cases present
  exact ⟨thrifty,fun id present => absurd (none id) present,fun id _ present => absurd present (nowhere id _),
    fun id _ _ present => absurd present (nowhere id _),fun _ id _ _ => none id⟩

theorem Kept.down {self : Session} (kept : Kept self) (down : self.client.up = false) (id : String) :
    self.atNode.get id = none := by
  by_contra present
  have up := (kept.online id present).1
  rw [down] at up
  cases up

/-- The client posts requests and the node hears of none of them yet. -/
theorem Kept.posts {self : Session} (kept : Kept self) (client : Client) (thrifty : client.Thrifty)
    (data : client.data = self.client.data) (up : client.up = self.client.up)
    (ids : client.inner.ids = self.client.inner.ids)
    (older : ∀ id, self.client.inner.rpcIds.Minted id →
      client.inner.rpcIds.get id = self.client.inner.rpcIds.get id)
    (asks : ∀ id, self.client.inner.Asks id → client.inner.Asks id)
    (connected : self.client.inner.isConnected = true → client.inner.isConnected = true)
    (heard : .disconnected ∉ self.client.states → .disconnected ∉ client.states) :
    Kept ⟨client,self.atNode⟩ := by
  have has := self.client.has_posts kept.thrifty.sound.wired client data ids older
  refine ⟨thrifty,?_,?_,?_,?_⟩
  · intro id present
    obtain ⟨running,online,absent⟩ := kept.online id present
    exact ⟨up.trans running,connected online,heard absent⟩
  · intro id kind present
    rcases kept.known id kind present with held | removed
    · exact .inl ((has id kind).mpr held)
    · exact .inr (asks id removed)
  · intro id kind other present held
    exact kept.agree id kind other present ((has id other).mp held)
  · intro rpcId id answered asked
    rw [data] at answered
    rw [older rpcId (kept.thrifty.sound.wired.answered rpcId _ answered).1] at asked
    exact kept.closed rpcId id answered asked

theorem kept_call (self : Session) (call : Call) (kept : Kept self)
    (thrifty : Client.Thrifty {self.client with inner := call.apply self.client.inner}) :
    Kept ⟨{self.client with inner := call.apply self.client.inner},self.atNode⟩ := by
  have posts := Subscriptions.Posts.call self.client.inner call
  apply kept.posts _ thrifty rfl rfl posts.ids posts.older
  · exact fun id asks =>
      Subscriptions.asks_call self.client.inner call kept.thrifty.sound.steady id asks
  · intro connected
    rw [posts.flag]
    exact connected
  · exact fun heard => heard

theorem kept_processState (self : Session) (state : ConnectionState) (rest : List ConnectionState)
    (queued : self.client.states = state::rest) (kept : Kept self)
    (thrifty : Client.Thrifty {self.client with
      inner := self.client.inner.setIsConnected (state = .connected)
      states := rest}) :
    Kept ⟨{self.client with
      inner := self.client.inner.setIsConnected (state = .connected)
      states := rest},self.atNode⟩ := by
  cases state with
  | disconnected =>
    apply kept_closed _ _ thrifty
    intro id
    by_contra present
    apply (kept.online id present).2.2
    rw [queued]
    exact List.mem_cons_self
  | connected =>
    have posts := @Subscriptions.Posts.online (fun _ => True) self.client.inner
    have steady := kept.thrifty.sound.steady.online
    apply kept.posts _ thrifty rfl rfl posts.ids posts.older
    · exact fun id asks => steady.asks_resubscribe id asks
    · exact fun _ => posts.flag
    · rw [queued]
      simp

theorem kept_delayPasses (self : Session) (index : Nat) (req : RpcRequest) (kept : Kept self)
    (thrifty : Client.Thrifty {self.client with
      inner := Subscriptions.sendDelayed
        {self.client.inner with delayed := self.client.inner.delayed.eraseIdx index} req}) :
    Kept ⟨{self.client with
      inner := Subscriptions.sendDelayed
        {self.client.inner with delayed := self.client.inner.delayed.eraseIdx index} req},self.atNode⟩ := by
  rcases Subscriptions.sendDelayed_cases
    {self.client.inner with delayed := self.client.inner.delayed.eraseIdx index} req with same | same <;>
  · rw [same] at thrifty ⊢
    exact kept.posts _ thrifty rfl rfl rfl (fun _ _ => rfl) (fun _ asks => asks) (fun connected => connected)
      (fun heard => heard)

/-- A subscribe request that the client has not forgotten is served. -/
theorem kept_subscribe (self : Session) (id : RpcId) (params : SubscribeParams) (rest : List RpcRequest)
    (subscriptionId : String) (queued : self.client.inner.connectionSendRpc = .subscribe id params::rest)
    (up : self.client.up = true) (fresh : self.client.opened.get subscriptionId = none)
    (current : self.client.inner.rpcIds.get id ≠ none) (kept : Kept self)
    (client : Client) (thrifty : client.Thrifty) (states : client.states = self.client.states)
    (running : client.up = self.client.up)
    (inner : client.inner = {self.client.inner with connectionSendRpc := rest})
    (data : client.data = self.client.data ++ [(id,.newSubscription subscriptionId)]) :
    Kept ⟨client,self.atNode.insert subscriptionId params⟩ := by
  obtain ⟨kind,rfl⟩ := SubscriptionKind.params_surjective params
  have posted : RpcRequest.subscribe id kind.params ∈
      self.client.inner.connectionSendRpc ++ self.client.inner.delayed := by
    rw [queued]
    exact List.mem_cons_self
  have asked : self.client.inner.rpcIds.get id = some kind.requestKind := by
    obtain ⟨found,same⟩ := Option.ne_none_iff_exists'.mp current
    rw [same,(kept.thrifty.sound.steady.posted _ posted).2 found same]
    exact congrArg some kind.requestKind_params
  have pending : id ∈ self.client.pending := by
    apply List.mem_append_left
    rw [queued]
    exact List.mem_cons_self
  obtain ⟨_,connected,heard⟩ := kept.thrifty.ordered.owned id pending kind asked
  have has : ∀ other wanted, client.Has other wanted ↔
      self.client.Has other wanted ∨ other = subscriptionId ∧ wanted = kind := by
    intro other wanted
    unfold Client.Has
    rw [data,inner]
    simp only [List.mem_append,List.mem_singleton,Prod.mk.injEq,RpcResponse.newSubscription.injEq,or_and_right,
      exists_or,or_assoc]
    refine or_congr_right (or_congr_right ⟨?_,?_⟩)
    · rintro ⟨rpcId,⟨rfl,rfl⟩,found⟩
      rw [asked,Option.some.injEq,SubscriptionKind.requestKind_injective] at found
      exact ⟨rfl,found.symm⟩
    · rintro ⟨rfl,rfl⟩
      exact ⟨id,⟨rfl,rfl⟩,asked⟩
  refine ⟨thrifty,?_,?_,?_,?_⟩
  · intro other _
    rw [running,states,inner]
    exact ⟨up,connected,heard⟩
  · intro other wanted present
    rw [has]
    simp only [HashMap.get_insert] at present
    split at present
    · next same =>
      exact .inl (.inr ⟨same,(SubscriptionKind.params_injective kind wanted (Option.some.inj present)).symm⟩)
    · rcases kept.known other wanted present with held | removed
      · exact .inl (.inl held)
      · right
        rw [inner]
        exact removed
  · intro other wanted held present brought
    simp only [HashMap.get_insert] at present
    rcases (has other held).mp brought with old | ⟨rfl,rfl⟩
    · split at present
      · next same =>
        subst same
        exact absurd fresh (old.opened kept.thrifty.sound.wired)
      · exact kept.agree other wanted held present old
    · rw [if_pos rfl] at present
      exact SubscriptionKind.params_injective held wanted (Option.some.inj present)
  · intro rpcId other answered found
    rw [inner] at found
    rw [data] at answered
    rcases List.mem_append.mp answered with old | new
    · rw [HashMap.get_insert_ne]
      · exact kept.closed rpcId other old found
      · rintro rfl
        exact kept.thrifty.sound.wired.asked rpcId other found fresh
    · cases List.mem_singleton.mp new

theorem kept_unsubscribe (self : Session) (id : RpcId) (target : String) (rest : List RpcRequest)
    (success : Bool) (queued : self.client.inner.connectionSendRpc = .unsubscribe id target::rest)
    (kept : Kept self) (client : Client) (thrifty : client.Thrifty) (states : client.states = self.client.states)
    (running : client.up = self.client.up)
    (inner : client.inner = {self.client.inner with connectionSendRpc := rest})
    (data : client.data = self.client.data ++ [(id,.unsubscribeAck success)]) :
    Kept ⟨client,if success then self.atNode.remove target else self.atNode⟩ := by
  have open_before : ∀ other params,
      (if success then self.atNode.remove target else self.atNode).get other = some params →
        self.atNode.get other = some params := by
    intro other params present
    split at present
    · rw [HashMap.get_remove] at present
      split at present
      · cases present
      · exact present
    · exact present
  have posted : RpcRequest.unsubscribe id target ∈
      self.client.inner.connectionSendRpc ++ self.client.inner.delayed := by
    rw [queued]
    exact List.mem_cons_self
  have has : ∀ other kind, client.Has other kind ↔ self.client.Has other kind := by
    intro other kind
    unfold Client.Has
    rw [data,inner]
    simp
  refine ⟨thrifty,?_,?_,?_,?_⟩
  · intro other present
    obtain ⟨params,found⟩ := Option.ne_none_iff_exists'.mp present
    rw [running,states,inner]
    exact kept.online other (by rw [open_before other params found]; simp)
  · intro other kind present
    rw [has,inner]
    exact kept.known other kind (open_before other _ present)
  · intro other kind held present brought
    exact kept.agree other kind held (open_before other _ present) ((has other held).mp brought)
  · intro rpcId other answered found
    rw [inner] at found
    rw [data] at answered
    by_contra present
    obtain ⟨params,still⟩ := Option.ne_none_iff_exists'.mp present
    rcases List.mem_append.mp answered with old | new
    · have gone := kept.closed rpcId other old found
      rw [open_before other params still] at gone
      cases gone
    · cases List.mem_singleton.mp new
      have same := (kept.thrifty.sound.steady.posted _ posted).2 _ found
      cases same
      simp at present

theorem kept_deliver (self : Session) (subscriptionId : String) (success : Bool) (client : Client)
    (sent : self.client.deliver subscriptionId success = some client) (current : self.client.leftOver = false)
    (kept : Kept self) (thrifty : client.Thrifty) : Kept ⟨client,self.served subscriptionId success⟩ := by
  cases up : self.client.up with
  | false =>
    have unchanged : self.served subscriptionId success = self.atNode := by
      simp only [served,up]
    rw [unchanged]
    exact kept_closed client self.atNode thrifty (kept.down up)
  | true =>
    simp only [Client.deliver,up,if_true] at sent
    split at sent
    · cases sent
    · next req rest queued =>
      cases req with
      | subscribe id params =>
        obtain ⟨fresh,same⟩ := Option.ite_none_right_eq_some.mp sent
        have served : self.served subscriptionId success = self.atNode.insert subscriptionId params := by
          simp only [Session.served,up,queued]
        simp only [Client.leftOver,up,queued,Option.isNone_eq_false_iff,Option.isSome_iff_ne_none] at current
        rw [served]
        cases same
        exact kept_subscribe self id params rest subscriptionId queued up fresh current kept _ thrifty rfl up.symm rfl rfl
      | unsubscribe id target =>
        have served : self.served subscriptionId success =
            if success then self.atNode.remove target else self.atNode := by
          simp only [Session.served,up,queued]
        rw [served]
        cases sent
        exact kept_unsubscribe self id target rest success queued kept _ thrifty rfl up.symm rfl rfl

/-- A response that refuses to close a subscription finds it tracked if it is open. -/
theorem tracked_of_not_givesUp (self : Session) (index : Nat) (id : RpcId) (target : String)
    (item : self.client.data[index]? = some (id,.unsubscribeAck false))
    (asked : self.client.inner.rpcIds.get id = some (.unsubscribe target)) (spared : self.givesUp index = false)
    (present : self.atNode.get target ≠ none) : self.client.inner.ids.lookup.get target ≠ none := by
  have opened : (self.atNode.get target).isSome = true := Option.isSome_iff_ne_none.mpr present
  simp only [givesUp,item,asked,opened,Bool.true_and,Bool.not_eq_false'] at spared
  exact Option.isSome_iff_ne_none.mp spared

theorem kept_receive (self : Session) (index : Nat) (id : RpcId) (response : RpcResponse)
    (item : self.client.data[index]? = some (id,response)) (spared : self.givesUp index = false) (kept : Kept self)
    (thrifty : Client.Thrifty {self.client.taken index id with
      inner := self.client.inner.onReceivedRpcResponse id response}) :
    Kept ⟨{self.client.taken index id with
      inner := self.client.inner.onReceivedRpcResponse id response},self.atNode⟩ := by
  have result := self.client.inner.received id response
  generalize self.client.inner.onReceivedRpcResponse id response = next at result thrifty ⊢
  have sound := kept.thrifty.sound
  obtain ⟨sent,later,sends,_⟩ := result.sends
  refine ⟨thrifty,?_,?_,?_,?_⟩
  · intro other present
    obtain ⟨up,connected,heard⟩ := kept.online other present
    exact ⟨up,result.aim.2.trans connected,heard⟩
  · intro other kind present
    have heard := (kept.online other (by rw [present]; simp)).2.2
    have granted : ¬(self.client.inner.rpcIds.get id = some (.unsubscribe other) ∧
        response = .unsubscribeAck true) := by
      rintro ⟨asked,rfl⟩
      rw [kept.closed id other (List.mem_of_getElem? item) asked] at present
      cases present
    rcases kept.known other kind present with has | asks
    · rcases Client.has_after sound item result other kind has with held | asks | closed
      · exact .inl held
      · exact .inr asks
      · exact absurd closed granted
    · rcases Client.asks_after sound item result kept.thrifty.ordered heard other asks with still | ⟨asked,success,ack⟩
      · exact .inr still
      · subst ack
        cases success with
        | true => exact absurd ⟨asked,rfl⟩ granted
        | false =>
          obtain ⟨held,tracked⟩ := Option.ne_none_iff_exists'.mp
            (self.tracked_of_not_givesUp index id other item asked spared (by rw [present]; simp))
          have same := kept.agree other kind held present (.inl tracked)
          subst same
          rcases Client.has_after sound item result other held (.inl tracked) with held | asks | closed
          · exact .inl held
          · exact .inr asks
          · exact absurd closed granted
  · intro other kind held present brought
    exact kept.agree other kind held present (Client.has_before sound item result other held brought)
  · intro rpcId other answered asked
    have before := (self.client.mem_taken index id response item _).mpr (.inr answered)
    rw [sends.older rpcId (sound.wired.answered rpcId _ before).1] at asked
    exact kept.closed rpcId other before asked

theorem kept_step (self next : Session) (act : Act) (stepped : self.step act = some next)
    (frugal : self.Frugal act) (kept : Kept self) : Kept next := by
  obtain ⟨client,advanced,rfl⟩ := Option.map_eq_some_iff.mp stepped
  obtain ⟨saving,spared⟩ := frugal
  have thrifty := Client.thrifty_step self.client client act advanced saving kept.thrifty
  cases act with
  | call call =>
    cases advanced
    exact kept_call self call kept thrifty
  | connect =>
    obtain ⟨down,same⟩ := Option.ite_none_left_eq_some.mp advanced
    exact kept_closed client self.atNode thrifty (kept.down (by simpa using down))
  | disconnect => exact kept_closed client .new thrifty (fun id => HashMap.get_new id)
  | connectFails =>
    obtain ⟨down,same⟩ := Option.ite_none_left_eq_some.mp advanced
    exact kept_closed client self.atNode thrifty (kept.down (by simpa using down))
  | clearAll =>
    obtain ⟨down,same⟩ := Option.ite_none_left_eq_some.mp advanced
    exact kept_closed client self.atNode thrifty (kept.down (by simpa using down))
  | deliver subscriptionId success => exact kept_deliver self subscriptionId success client advanced spared kept thrifty
  | processState =>
    simp only [Client.step] at advanced
    split at advanced
    · cases advanced
    · next state rest queued =>
      cases advanced
      exact kept_processState self state rest queued kept thrifty
  | receive index =>
    simp only [Client.step] at advanced
    split at advanced
    · cases advanced
    · next id response item =>
      cases advanced
      exact kept_receive self index id response item spared kept thrifty
  | delayPasses index =>
    simp only [Client.step] at advanced
    split at advanced
    · cases advanced
    · next req item =>
      cases advanced
      exact kept_delayPasses self index req kept thrifty

/-- When nothing is in flight, what is open is tracked. -/
theorem Kept.tracked {self : Session} (kept : Kept self) (quiet : self.client.Quiet) (id : String)
    (kind : SubscriptionKind) (present : self.atNode.get id = some kind.params) :
    self.client.inner.ids.lookup.get id = some kind := by
  rcases kept.known id kind present with (tracked | ⟨rpcId,landing,asked⟩) | ⟨rpcId,flying⟩
  · exact tracked
  · have pending : rpcId ∈ self.client.pending :=
      List.mem_append_right _ (List.mem_append_right _ (List.mem_map_of_mem landing))
    exact absurd (quiet rpcId) (kept.thrifty.ordered.owned rpcId pending kind asked).1
  · rw [quiet rpcId] at flying
    cases flying

/-- In every state of a frugal run in which the client is connected and no request is in
flight, a category has at most one subscription that is tracked or open at the node, and
none if it is disabled. -/
theorem frugal_run_leaks_nothing (keys : SlotKeys) (acts : List Act) (final : Session)
    (reached : run step (new keys) acts = some final)
    (frugal : Along step (fun self act _ => self.Frugal act) (new keys) acts)
    (connected : final.client.Connected) (quiet : final.client.Quiet) :
    (∀ first second kind other, final.Active first kind → final.Active second other →
        SubscriptionCategory.ofKind kind = SubscriptionCategory.ofKind other → first = second) ∧
      ∀ id kind, final.Active id kind →
        final.client.inner.desired (SubscriptionCategory.ofKind kind) ≠ none := by
  have kept := invariant_along (fun self act _ => self.Frugal act) Kept
    (fun self act next stepped frugal kept => kept_step self next act stepped frugal kept)
    (new keys) final acts reached frugal
    (kept_closed _ _ (Client.thrifty_new keys) (fun id => HashMap.get_new id))
  obtain ⟨single,enabled⟩ := kept.thrifty.tracks_enabled connected quiet
  have tracked : ∀ id kind, final.Active id kind → final.client.inner.ids.lookup.get id = some kind := by
    intro id kind active
    rcases active with tracked | present
    · exact tracked
    · exact kept.tracked quiet id kind present
  refine ⟨?_,?_⟩
  · intro first second kind other one two
    exact single first second kind other (tracked first kind one) (tracked second other two)
  · intro id kind active
    exact enabled id kind (tracked id kind active)

/-- A log filter is replaced while only logs are subscribed; the unsubscribe request is
refused once and sent again. -/
def frugalSchedule : List Act :=
  [.connect,.processState,.call (.enableLogs [FixedBytes.filled 20 1] []),.deliver "0x1" true,.receive 0,
    .call (.enableLogs [FixedBytes.filled 20 2] []),.deliver "" false,.deliver "0x2" true,.receive 0,
    .receive 0,.delayPasses 0,.deliver "" true,.receive 0]

theorem frugalSchedule_leaks_nothing :
    ∃ final, run step (new .firstVersions) frugalSchedule = some final ∧ final.client.Connected ∧
      final.client.Quiet ∧ (final.atNode.get "0x2").isSome = true ∧
      ∀ first second kind other, final.Active first kind → final.Active second other →
        SubscriptionCategory.ofKind kind = SubscriptionCategory.ofKind other → first = second := by
  obtain ⟨final,reached,tested⟩ := run_any step (new .firstVersions) frugalSchedule
    (fun final => final.client.Connected ∧ final.client.Quiet ∧ (final.atNode.get "0x2").isSome = true)
    (by decide +kernel)
  obtain ⟨connected,quiet,active⟩ := of_decide_eq_true tested
  have frugal : Along step (fun self act _ => self.Frugal act) (new .firstVersions) frugalSchedule := by
    decide +kernel
  exact ⟨final,reached,connected,quiet,active,
    (frugal_run_leaks_nothing .firstVersions frugalSchedule final reached frugal connected quiet).1⟩

/-- Blocks are enabled twice; logs are enabled while blocks are subscribed. -/
def repeatedSchedule : List Act :=
  [.connect,.processState,.call (.toggleBlockHeight true),.deliver "0x1" true,.receive 0,
    .call (.toggleBlockHeight true),.deliver "0x2" true,.receive 0,
    .call (.enableLogs [FixedBytes.filled 20 1] []),.deliver "0x3" true,.deliver "0x4" true,.receive 0,.receive 0]

theorem repeated_toggle_opens_second_subscription :
    ∃ final, run step (new .firstVersions) repeatedSchedule = some final ∧ final.client.Connected ∧
      final.client.Quiet ∧ ∀ id ∈ ["0x1","0x2","0x3"],
        final.client.inner.ids.lookup.get id = some .newHeads ∧ final.atNode.get id = some .newHeads := by
  obtain ⟨final,reached,tested⟩ := run_any step (new .firstVersions) repeatedSchedule (fun final =>
    final.client.Connected ∧ final.client.Quiet ∧ ∀ id ∈ ["0x1","0x2","0x3"],
      final.client.inner.ids.lookup.get id = some .newHeads ∧ final.atNode.get id = some .newHeads)
    (by decide +kernel)
  exact ⟨final,reached,of_decide_eq_true tested⟩

end Session
end Warpdrive.Trigger.EvmStream
