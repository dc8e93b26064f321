import Warpdrive.Trigger.Traffic

/-! The requests in flight of an EVM stream client over every run. A request is issued when
it gets its rpc id and is answered when a result or an error for it is received. The table
of requests in flight holds exactly those that are issued and not answered as long as no
error answers one of them: an error leaves its request in the table, and the request keeps
back every later one of its kind until the connection is lost. -/
namespace Warpdrive.Trigger.EvmStream

open Warpdrive.Foundation Warpdrive.Types Warpdrive.Foundation.Execution

/-- The subscription loop with the requests issued and those answered since it last heard
that the connection was lost. -/
structure Ledger where
  loop : SubscriptionLoop
  issued : List RpcId
  answered : List RpcId

namespace Ledger

inductive Act
  | call (call : Call)
  | connectionState (state : ConnectionState)
  | receive (message : RpcInbound)
  | delayPasses (index : Nat)
  | takeRequest
  | clearAll

def new (keys : SlotKeys) : Ledger := ⟨.new keys,[],[]⟩

/-- The subscriptions of another state of the client, with the rpc ids made on the way. -/
def advance (self : Ledger) (loop : SubscriptionLoop) : Ledger where
  loop := loop
  issued := self.issued ++ loop.inner.rpcIds.mintedSince self.loop.inner.rpcIds.count
  answered := self.answered

def Unanswered (self : Ledger) (id : RpcId) : Prop := id ∈ self.issued ∧ id ∉ self.answered

instance (self : Ledger) (id : RpcId) : Decidable (self.Unanswered id) :=
  inferInstanceAs (Decidable (_ ∧ _))

/-- A response answers a request that was issued. -/
def hear (self : Ledger) : RpcInbound → Ledger
  | .response id _ => if id ∈ self.issued then {self with answered := self.answered ++ [id]} else self
  | .subscription _ _ => self

def step (self : Ledger) : Act → Option Ledger
  | .call call => some (self.advance {self.loop with inner := call.apply self.loop.inner})
  | .connectionState .connected =>
    some (self.advance {self.loop with inner := self.loop.inner.setIsConnected true})
  | .connectionState .disconnected =>
    some ⟨{self.loop with inner := self.loop.inner.setIsConnected false},[],[]⟩
  | .receive message => some ((self.hear message).advance (self.loop.receive message))
  | .delayPasses index =>
    (self.loop.inner.delayPasses index).map (fun inner => self.advance {self.loop with inner})
  | .takeRequest =>
    match self.loop.inner.connectionSendRpc with
    | [] => none
    | _::rest => some (self.advance {self.loop with inner := {self.loop.inner with connectionSendRpc := rest}})
  | .clearAll =>
    some (self.advance {self.loop with inner := {self.loop.inner with rpcIds := self.loop.inner.rpcIds.clear}})

/-- The table of requests in flight holds what is issued and not answered. -/
def Exact (self : Ledger) : Prop :=
  ∀ id, self.loop.inner.rpcIdsInFlight.lookup.get id ≠ none ↔ self.Unanswered id

/-- A call that subscribes sends a new request for everything desired, unless one that is
not answered is in flight for it. -/
def Retries (before : Ledger) (call : Call) (after : Ledger) : Prop :=
  call.resubscribes = true → before.loop.inner.isConnected = true →
    ∀ kind, after.loop.inner.desired (SubscriptionCategory.ofKind kind) = some kind →
      (∃ id, ¬before.loop.inner.rpcIds.Minted id ∧
        .subscribe id kind.params ∈ after.loop.inner.connectionSendRpc) ∨
      ∃ id, before.Unanswered id ∧ before.loop.inner.Awaits id kind

/-- No error answers a request that is still unanswered. -/
def Accepted (before : Ledger) (act : Act) : Prop :=
  ∀ id error, act = .receive (.response id (.error error)) → ¬before.Unanswered id

structure Sound (ledger : Ledger) : Prop where
  steady : ledger.loop.inner.Steady
  minted : ∀ id ∈ ledger.issued, ledger.loop.inner.rpcIds.Minted id
  heard : ∀ id ∈ ledger.answered, id ∈ ledger.issued
  exact : ledger.Exact

/-- What holds before requests are sent holds after. -/
theorem Sound.advance {self : Ledger} (loop : SubscriptionLoop) (base : Subscriptions)
    (sent later : List RpcRequest) (sends : Subscriptions.Sends base loop.inner sent later)
    (rpcIds : self.loop.inner.rpcIds.SameKeys base.rpcIds) (steady : loop.inner.Steady)
    (minted : ∀ id ∈ self.issued, self.loop.inner.rpcIds.Minted id)
    (heard : ∀ id ∈ self.answered, id ∈ self.issued)
    (exact : ∀ id, base.rpcIdsInFlight.lookup.get id ≠ none ↔ self.Unanswered id) :
    Sound (self.advance loop) := by
  have grows : self.loop.inner.rpcIds.Grows loop.inner.rpcIds := rpcIds.grows.trans sends.grows
  have new : ∀ id, id ∈ (self.advance loop).issued ↔ id ∈ self.issued ∨
      loop.inner.rpcIds.Minted id ∧ ¬self.loop.inner.rpcIds.Minted id := by
    intro id
    simp only [Ledger.advance,List.mem_append,grows.mem_mintedSince]
  refine ⟨steady,?_,?_,?_⟩
  · intro id member
    rcases (new id).mp member with old | made
    · exact grows.minted (minted id old)
    · exact made.1
  · intro id member
    exact (new id).mpr (.inl (heard id member))
  · intro id
    unfold Unanswered
    rw [new]
    change loop.inner.rpcIdsInFlight.lookup.get id ≠ none ↔
      (id ∈ self.issued ∨ loop.inner.rpcIds.Minted id ∧ ¬self.loop.inner.rpcIds.Minted id) ∧ id ∉ self.answered
    by_cases older : self.loop.inner.rpcIds.Minted id
    · rw [sends.flight id ((rpcIds.minted id).mp older),exact id]
      constructor
      · intro unanswered
        exact ⟨.inl unanswered.1,unanswered.2⟩
      · intro unanswered
        rcases unanswered.1 with old | made
        · exact ⟨old,unanswered.2⟩
        · exact absurd older made.2
    · have unissued : id ∉ self.issued := fun old => older (minted id old)
      have unanswered : id ∉ self.answered := fun old => unissued (heard id old)
      constructor
      · intro present
        exact ⟨.inr ⟨steady.flying id present,older⟩,unanswered⟩
      · intro made
        rcases made.1 with old | made
        · exact absurd old unissued
        · obtain ⟨req,member,same⟩ := List.mem_map.mp
            ((sends.mem_ids id).mpr ⟨made.1,fun old => older ((rpcIds.minted id).mpr old)⟩)
          rw [← same,sends.flying req member]
          exact Option.some_ne_none _

/-- A step that changes neither the rpc ids made nor the table keeps everything. -/
theorem Sound.still {self : Ledger} (sound : Sound self) (inner : Subscriptions) (steady : inner.Steady)
    (keys : self.loop.inner.rpcIds.SameKeys inner.rpcIds)
    (flight : inner.rpcIdsInFlight = self.loop.inner.rpcIdsInFlight) :
    Sound (self.advance {self.loop with inner}) := by
  apply Sound.advance {self.loop with inner} inner [] [] (.refl inner) keys steady sound.minted sound.heard
  rw [flight]
  exact sound.exact

theorem Sound.call {self : Ledger} (sound : Sound self) (call : Call) :
    Sound (self.advance {self.loop with inner := call.apply self.loop.inner}) := by
  obtain ⟨asked,opened,sends,_⟩ := call.sends self.loop.inner
  obtain ⟨_,_,_,rpcIds,_⟩ := call.base_frame self.loop.inner
  apply Sound.advance _ (call.base self.loop.inner) _ _ sends (.of_eq rpcIds)
    (call.steady_apply _ sound.steady) sound.minted sound.heard
  intro id
  rw [← sound.exact id]
  unfold Call.base
  split
  · exact RpcIdsInFlight.get_setUnsubscribe_ne_none _ _ id
  · exact Iff.rfl

theorem Sound.connected {self : Ledger} (sound : Sound self) :
    Sound (self.advance {self.loop with inner := self.loop.inner.setIsConnected true}) := by
  obtain ⟨sent,sends,_⟩ := Subscriptions.Sends.resubscribes {self.loop.inner with isConnected := true}
  exact Sound.advance _ _ _ _ sends (.refl _) (sound.steady.setIsConnected true) sound.minted sound.heard sound.exact

theorem Sound.disconnected {self : Ledger} (sound : Sound self) :
    Sound ⟨{self.loop with inner := self.loop.inner.setIsConnected false},[],[]⟩ := by
  refine ⟨sound.steady.setIsConnected false,by simp,by simp,?_⟩
  intro id
  simp [Unanswered,Subscriptions.setIsConnected,RpcIdsInFlight.default]

/-- An answer makes its request answered and no other. -/
theorem unanswered_hear (self : Ledger) (id other : RpcId)
    (result : Except RpcError RpcResponse) :
    (self.hear (.response id result)).Unanswered other ↔ other ≠ id ∧ self.Unanswered other := by
  simp only [hear,Unanswered]
  split
  · simp only [List.mem_append,List.mem_singleton,not_or]
    tauto
  · next stranger =>
    constructor
    · intro unanswered
      exact ⟨fun same => stranger (same ▸ unanswered.1),unanswered⟩
    · exact And.right

theorem hear_frame (self : Ledger) (message : RpcInbound) :
    (self.hear message).loop = self.loop ∧ (self.hear message).issued = self.issued := by
  unfold hear
  split
  · split <;> exact ⟨rfl,rfl⟩
  · exact ⟨rfl,rfl⟩

theorem heard_hear (self : Ledger) (sound : Sound self) (message : RpcInbound) :
    ∀ id ∈ (self.hear message).answered, id ∈ (self.hear message).issued := by
  rw [(self.hear_frame message).2]
  unfold hear
  split
  · split
    · next known =>
      intro other member
      rcases List.mem_append.mp member with old | new
      · exact sound.heard other old
      · rw [List.mem_singleton.mp new]
        exact known
    · exact sound.heard
  · exact sound.heard

theorem Sound.response {self : Ledger} (sound : Sound self) (id : RpcId) (response : RpcResponse) :
    Sound ((self.hear (.response id (.ok response))).advance
      (self.loop.receive (.response id (.ok response)))) := by
  obtain ⟨loop,issued⟩ := self.hear_frame (.response id (.ok response))
  have result := self.loop.inner.received id response
  obtain ⟨sent,later,sends,_⟩ := result.sends
  apply Sound.advance _ _ _ _ sends (by rw [loop]; exact .refl _) (sound.steady.received id response result)
    (by rw [loop,issued]; exact sound.minted) (self.heard_hear sound _)
  intro other
  rw [unanswered_hear self,← sound.exact other]
  simp only [Subscriptions.landed,(RpcIdsInFlight.remove_spec _ id).1,HashMap.get_remove]
  split
  · next same => simp [same]
  · next differ => simp [differ]

/-- A message that is no result, and answers nothing that is unanswered, changes nothing. -/
theorem Sound.other {self : Ledger} (sound : Sound self) (message : RpcInbound)
    (inner : (self.loop.receive message).inner = self.loop.inner)
    (accepted : Accepted self (.receive message))
    (error : ∀ id result, message = .response id result → ∃ error, result = .error error) :
    Sound ((self.hear message).advance (self.loop.receive message)) := by
  obtain ⟨loop,issued⟩ := self.hear_frame message
  have sends : Subscriptions.Sends self.loop.inner (self.loop.receive message).inner [] [] := by
    rw [inner]
    exact .refl _
  apply Sound.advance _ _ _ _ sends (by rw [loop]; exact .refl _) (inner ▸ sound.steady)
    (by rw [loop,issued]; exact sound.minted) (self.heard_hear sound _)
  intro other
  rw [sound.exact other]
  cases message with
  | subscription _ _ => exact Iff.rfl
  | response id result =>
    obtain ⟨failure,rfl⟩ := error id result rfl
    rw [unanswered_hear self]
    constructor
    · intro unanswered
      refine ⟨?_,unanswered⟩
      intro same
      exact accepted id failure rfl (same ▸ unanswered)
    · exact And.right

theorem Sound.receive {self : Ledger} (sound : Sound self) (message : RpcInbound)
    (accepted : Accepted self (.receive message)) :
    Sound ((self.hear message).advance (self.loop.receive message)) := by
  rcases self.loop.receive_inner message with ⟨id,response,rfl,_⟩ | ⟨plain,inner⟩
  · exact sound.response id response
  · apply sound.other message inner accepted
    intro id result same
    cases result with
    | ok response => exact absurd same (plain id response)
    | error failure => exact ⟨failure,rfl⟩

theorem sound_step (self next : Ledger) (act : Act) (stepped : self.step act = some next)
    (accepted : Accepted self act) (sound : Sound self) : Sound next := by
  cases act with
  | call call =>
    cases stepped
    exact sound.call call
  | connectionState state =>
    cases state with
    | connected =>
      cases stepped
      exact sound.connected
    | disconnected =>
      cases stepped
      exact sound.disconnected
  | receive message =>
    cases stepped
    exact sound.receive message accepted
  | delayPasses index =>
    obtain ⟨inner,passed,rfl⟩ := Option.map_eq_some_iff.mp stepped
    have steady := sound.steady.delayPasses index passed
    obtain ⟨_,_,_,_,same⟩ := Subscriptions.delayPasses_cases _ _ _ passed
    exact sound.still inner steady (by rw [same]; exact .refl _) (by rw [same])
  | takeRequest =>
    simp only [step] at stepped
    split at stepped
    · cases stepped
    · next queued =>
      cases stepped
      refine sound.still _ (Client.steady_requests _ sound.steady _ _ ?_) (.refl _) rfl
      intro req member
      rw [queued]
      exact List.mem_cons_of_mem _ member
  | clearAll =>
    cases stepped
    exact sound.still _ (Client.steady_clear _ sound.steady) ⟨rfl,rfl⟩ rfl

/-- A call subscribes to what it desires unless an unanswered request does. -/
theorem Sound.retries {self : Ledger} (sound : Sound self) (call : Call) :
    Retries self call (self.advance {self.loop with inner := call.apply self.loop.inner}) := by
  intro again connected kind wanted
  have online : (call.left self.loop.inner).isConnected = true :=
    (call.isConnected_left self.loop.inner).trans connected
  have applied : call.apply self.loop.inner = (call.left self.loop.inner).resubscribe := by
    rw [Call.apply_eq,if_pos again]
  have aimed : (call.left self.loop.inner).desired (SubscriptionCategory.ofKind kind) = some kind := by
    rw [← wanted]
    change _ = (call.apply self.loop.inner).desired _
    rw [applied,Subscriptions.desired_resubscribe]
  obtain ⟨id,awaits⟩ := (call.steady_left _ sound.steady).awaits_resubscribe online kind aimed
  rw [← applied] at awaits
  obtain ⟨asked,opened,sends,_⟩ := call.sends self.loop.inner
  obtain ⟨_,_,_,rpcIds,_⟩ := call.base_frame self.loop.inner
  by_cases older : self.loop.inner.rpcIds.Minted id
  · right
    have before : self.loop.inner.Awaits id kind := by
      unfold Subscriptions.Awaits RpcIdsInFlight.Awaits at awaits
      rw [sends.flight id (by rw [rpcIds]; exact older)] at awaits
      unfold Call.base at awaits
      split at awaits
      · exact ((RpcIdsInFlight.awaits_setUnsubscribe _ _ _ _).mp awaits).1
      · exact awaits
    refine ⟨id,(sound.exact id).mp ?_,before⟩
    rw [before]
    exact Option.some_ne_none _
  · left
    have flying := (call.steady_apply _ sound.steady).flying id (by rw [awaits]; exact Option.some_ne_none _)
    obtain ⟨req,member,same⟩ := List.mem_map.mp
      ((sends.mem_ids id).mpr ⟨flying,by rw [rpcIds]; exact older⟩)
    have state := sends.flying req member
    rw [same,awaits,Option.some.injEq,RpcFlightState.activateOnLand.injEq] at state
    rw [List.append_nil] at member
    refine ⟨id,older,?_⟩
    change _ ∈ (call.apply self.loop.inner).connectionSendRpc
    rw [sends.queue]
    apply List.mem_append_right
    have found : req = .subscribe id kind.params := by
      cases req with
      | subscribe rpcId params =>
        change rpcId = id at same
        have same : params = kind.params := by
          change kind.requestKind = params.requestKind at state
          cases params <;> cases kind <;> simp_all [SubscribeParams.requestKind,SubscriptionKind.requestKind,
            SubscriptionKind.params]
        simp_all
      | unsubscribe rpcId subscriptionId => exact absurd state (kind.requestKind_ne_unsubscribe subscriptionId)
    exact found ▸ member

/-- An error that answers an unanswered request leaves it in the table. -/
theorem not_exact_of_error (self : Ledger) (sound : Sound self) (id : RpcId) (error : RpcError)
    (unanswered : self.Unanswered id) :
    ¬Exact ((self.hear (.response id (.error error))).advance (self.loop.receive (.response id (.error error)))) := by
  intro exact
  have flying : self.loop.inner.rpcIdsInFlight.lookup.get id ≠ none := (sound.exact id).mpr unanswered
  have still := ((exact id).mp flying).2
  have known : id ∈ self.issued := unanswered.1
  change id ∉ (self.hear (.response id (.error error))).answered at still
  simp only [hear,if_pos known] at still
  exact still (List.mem_append_right _ (List.mem_singleton_self id))

theorem sound_new (keys : SlotKeys) : Sound (new keys) := by
  refine ⟨Subscriptions.steady_new keys,by simp [new],by simp [new],?_⟩
  intro id
  simp [new,SubscriptionLoop.new,Unanswered,Subscriptions.new,RpcIdsInFlight.default]

/-- What one step is to leave: an exact table, and after a call a request for everything
desired. -/
def Kept (before : Ledger) (act : Act) (after : Ledger) : Prop :=
  after.Exact ∧ ∀ call, act = .call call → Retries before call after

theorem kept_iff (self next : Ledger) (act : Act) (stepped : self.step act = some next) (sound : Sound self) :
    Kept self act next ↔ Accepted self act := by
  constructor
  · intro kept id error same unanswered
    subst same
    cases stepped
    exact not_exact_of_error self sound id error unanswered kept.1
  · intro accepted
    refine ⟨(sound_step self next act stepped accepted sound).exact,?_⟩
    intro call same
    subst same
    cases stepped
    exact sound.retries call

/-- Over a run the table of requests in flight stays exact, and every call that subscribes
asks for all that is desired, if and only if no error answers an unanswered request. -/
theorem in_flight_table_exact (keys : SlotKeys) (acts : List Act) :
    Along step Kept (new keys) acts ↔ Along step (fun before act _ => Accepted before act) (new keys) acts :=
  along_iff_of_invariant (fun before act _ => Accepted before act) Kept Sound
    (fun state act next stepped sound => kept_iff state next act stepped sound)
    (fun state act next stepped accepted sound => sound_step state next act stepped accepted sound)
    (new keys) acts (sound_new keys)

/-- The request for new heads is refused once, and the next call sends nothing. -/
def refusedHeads : List Act :=
  [.connectionState .connected,.call (.toggleBlockHeight true),.takeRequest,
    .receive (.response 4294967297 (.error ⟨-32005,"limit exceeded",none⟩)),.call (.toggleBlockHeight true)]

theorem error_keeps_request_in_flight :
    ∃ ledger, run step (new .firstVersions) refusedHeads = some ledger ∧
      ledger.loop.inner.rpcIdsInFlight.lookup.get 4294967297 = some (.activateOnLand .subscribeNewHeads) ∧
      ¬ledger.Unanswered 4294967297 ∧ ledger.loop.inner.connectionSendRpc = [] ∧
      ¬Along step Kept (new .firstVersions) refusedHeads := by
  have broken : ¬Along step Kept (new .firstVersions) refusedHeads := by
    intro kept
    rw [along_iff_of_invariant (fun before act _ => Accepted before act) Kept Sound
      (fun state act next stepped sound => kept_iff state next act stepped sound)
      (fun state act next stepped accepted sound => sound_step state next act stepped accepted sound)
      (new .firstVersions) refusedHeads (sound_new _)] at kept
    exact kept.2.2.2.1 4294967297 _ rfl (by decide)
  refine ⟨_,rfl,?_,?_,?_,broken⟩
  · decide
  · decide
  · decide

end Ledger

end Warpdrive.Trigger.EvmStream
