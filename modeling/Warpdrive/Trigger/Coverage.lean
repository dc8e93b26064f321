import Warpdrive.Trigger.Requests

/-! Coverage of the enabled categories. Once a request for a desired kind has landed, its
subscription is the most recent of its category until the category is unsubscribed. The
rpc ids of a connection are cleared with it, so a response that is still known was answered
on the current connection. -/
namespace Warpdrive.Trigger.EvmStream

open Warpdrive.Foundation Warpdrive.Types Warpdrive.Foundation.Execution

namespace Subscriptions

/-- The subscription is the most recent of its category, of the kind, and was not asked to
be removed. -/
structure Rests (inner : Subscriptions) (kind : SubscriptionKind) (subscriptionId : String) : Prop where
  recent : inner.ids.mostRecent (SubscriptionCategory.ofKind kind) = some subscriptionId
  tracked : inner.ids.lookup.get subscriptionId = some kind
  unasked : ∀ rpcId, inner.rpcIds.get rpcId ≠ some (.unsubscribe subscriptionId)

/-- A request for the kind is in flight, or a subscription of it rests. -/
def Covers (self : Subscriptions) (kind : SubscriptionKind) : Prop :=
  (∃ id, self.Awaits id kind) ∨ ∃ subscriptionId, self.Rests kind subscriptionId

theorem covers_sendUnsubscribe (self : Subscriptions) (kind : SubscriptionKind) (steady : Steady self)
    (covers : self.Covers kind) (subscriptionId : String) (delay : Option Nat)
    (other : ∀ last, self.Rests kind last → last ≠ subscriptionId) :
    (self.sendUnsubscribe subscriptionId delay).Covers kind := by
  rcases covers with ⟨id,awaits⟩ | ⟨last,rests⟩
  · exact .inl ⟨id,(self.awaits_sendUnsubscribe _ _ id kind).mpr
      ⟨steady.awaits_ne_next id kind awaits,awaits⟩⟩
  · have posts : Posts (fun id => id = subscriptionId) self (self.sendUnsubscribe subscriptionId delay) :=
      .sendUnsubscribe self subscriptionId delay rfl
    refine .inr ⟨last,by rw [posts.ids]; exact rests.recent,by rw [posts.ids]; exact rests.tracked,?_⟩
    intro rpcId found
    rcases posts.asked rpcId last found with before | same
    · exact rests.unasked rpcId before
    · exact other last rests same

/-- Unsubscribing one category leaves the others covered. -/
theorem covers_unsubscribe (self : Subscriptions) (kind : SubscriptionKind) (steady : Steady self)
    (tracks : self.ids.Tracks) (covers : self.Covers kind) (call : Call)
    (apart : SubscriptionCategory.ofKind kind ≠ call.category) :
    ((call.retarget self).unsubscribe call.category).Covers kind := by
  rw [unsubscribe_eq]
  refine (foldl_sendUnsubscribe (fun after => after.Steady ∧ after.ids = self.ids ∧ after.Covers kind) _ ?_ _
    ⟨Call.steady_marked self call steady,rfl,?_⟩).2.2
  · rintro before id member ⟨steady,ids,covers⟩
    refine ⟨steady.sendUnsubscribe id none,by rw [sendUnsubscribe_eq]; exact ids,?_⟩
    apply covers_sendUnsubscribe before kind steady covers
    rintro last rests rfl
    have found := rests.tracked
    rw [ids] at found
    obtain ⟨own,present,placed⟩ := (tracks.listed call.category last).mp member
    rw [found] at present
    cases present
    exact apart placed
  · rcases covers with ⟨id,awaits⟩ | ⟨last,rests⟩
    · exact .inl ⟨id,(RpcIdsInFlight.awaits_setUnsubscribe _ _ _ _).mpr ⟨awaits,apart⟩⟩
    · exact .inr ⟨last,rests.recent,rests.tracked,rests.unasked⟩

end Subscriptions

def RpcResponse.subscriptionId : RpcResponse → Option String
  | .newSubscription subscriptionId => some subscriptionId
  | _ => none

namespace Client

/-- The subscription ids in responses not yet processed. -/
def landing (self : Client) : List String := self.data.filterMap (fun item => item.2.subscriptionId)

/-- What a request of the kind is answered on the current connection. -/
def Answers (self : Client) : RpcRequestKind → RpcResponse → Prop
  | .unsubscribe _,.unsubscribeAck _ => True
  | .unsubscribe _,_ => False
  | _,.newSubscription subscriptionId => self.opened.get subscriptionId = some self.connection
  | _,_ => False

theorem answers_subscribe (self : Client) (kind : SubscriptionKind) (response : RpcResponse) :
    self.Answers kind.requestKind response ↔
      ∃ subscriptionId, response = .newSubscription subscriptionId ∧
        self.opened.get subscriptionId = some self.connection := by
  cases kind <;> cases response <;> simp [Answers,SubscriptionKind.requestKind]

/-- The responses on their way, and the subscription ids that were answered. -/
structure Wired (client : Client) : Prop where
  answered : ∀ id response, (id,response) ∈ client.data → client.inner.rpcIds.Minted id ∧
    ∀ kind, client.inner.rpcIds.get id = some kind → client.up = true ∧ client.Answers kind response
  distinct : client.landing.Nodup
  landing : ∀ id ∈ client.landing, client.opened.get id ≠ none ∧ client.inner.ids.lookup.get id = none ∧
    ∀ rpcId, client.inner.rpcIds.get rpcId ≠ some (.unsubscribe id)
  tracked : ∀ id, client.inner.ids.lookup.get id ≠ none → client.opened.get id ≠ none
  asked : ∀ rpcId id, client.inner.rpcIds.get rpcId = some (.unsubscribe id) → client.opened.get id ≠ none

theorem Wired.posts {self : Client} (wired : Wired self) {allowed : String → Prop} (inner : Subscriptions)
    (posts : Subscriptions.Posts allowed self.inner inner)
    (fine : ∀ id, allowed id → self.opened.get id ≠ none ∧ id ∉ self.landing) :
    Wired {self with inner} where
  answered id response member := by
    obtain ⟨minted,known⟩ := wired.answered id response member
    refine ⟨posts.grows.minted minted,?_⟩
    intro kind found
    simp only [posts.older id minted] at found
    exact known kind found
  distinct := wired.distinct
  landing id member := by
    obtain ⟨opened,untracked,unasked⟩ := wired.landing id member
    refine ⟨opened,by simp only [posts.ids]; exact untracked,?_⟩
    intro rpcId found
    rcases posts.asked rpcId id found with before | new
    · exact unasked rpcId before
    · exact (fine id new).2 member
  tracked id present := by
    simp only [posts.ids] at present
    exact wired.tracked id present
  asked rpcId id found := by
    rcases posts.asked rpcId id found with before | new
    · exact wired.asked rpcId id before
    · exact (fine id new).1

/-- A connection state as the flag that the client keeps of it. -/
def stateOf (flag : Bool) : ConnectionState := if flag then .connected else .disconnected

/-- The invariant of a client's runs. What it says of the current connection holds while no
lost connection is left unprocessed. -/
structure Sound (client : Client) : Prop where
  tracks : client.inner.ids.Tracks
  steady : client.inner.Steady
  wired : client.Wired
  reported : (stateOf client.inner.isConnected::client.states).getLast? = some (stateOf client.up)
  current : .disconnected ∉ client.states → ∀ id, client.inner.ids.lookup.get id ≠ none →
    client.up = true ∧ client.opened.get id = some client.connection
  known : .disconnected ∉ client.states → ∀ id kind, client.inner.Awaits id kind →
    client.inner.rpcIds.get id = some kind.requestKind
  covered : .disconnected ∉ client.states → client.inner.isConnected = true → ∀ kind,
    client.inner.desired (SubscriptionCategory.ofKind kind) = some kind → client.inner.Covers kind

theorem sound_call (self : Client) (call : Call) (sound : Sound self) :
    Sound {self with inner := call.apply self.inner} := by
  have posts := Subscriptions.Posts.call self.inner call
  have steady := Call.steady_apply self.inner call sound.steady
  refine ⟨by simp only [posts.ids]; exact sound.tracks,steady,?_,?_,?_,?_,?_⟩
  · apply sound.wired.posts _ posts
    intro id listed
    obtain ⟨kind,tracked,_⟩ := (sound.tracks.listed call.category id).mp listed
    refine ⟨sound.wired.tracked id (by rw [tracked]; simp),?_⟩
    intro landing
    rw [(sound.wired.landing id landing).2.1] at tracked
    cases tracked
  · simp only [posts.flag]
    exact sound.reported
  · intro heard id tracked
    simp only [posts.ids] at tracked
    exact sound.current heard id tracked
  · intro heard
    exact posts.known (sound.known heard)
  · intro heard connected kind wanted
    simp only [posts.flag] at connected
    simp only [Call.desired_apply] at wanted
    cases again : call.resubscribes with
    | true =>
      simp only [Call.apply_eq,again,if_true]
      left
      apply (Call.steady_left self.inner call sound.steady).awaits_resubscribe
      · rw [Call.isConnected_left]
        exact connected
      · rw [Call.desired_left]
        exact wanted
    | false =>
      have apart : SubscriptionCategory.ofKind kind ≠ call.category := by
        intro own
        rw [own,Call.desired_retarget_none self.inner call again] at wanted
        cases wanted
      simp only [Call.left_of_last self.inner call again]
      apply Subscriptions.covers_unsubscribe self.inner kind sound.steady sound.tracks _ call apart
      rw [Call.desired_retarget_other self.inner call _ apart] at wanted
      exact sound.covered heard connected kind wanted

theorem sound_processState (self : Client) (state : ConnectionState) (rest : List ConnectionState)
    (queued : self.states = state::rest) (sound : Sound self) :
    Sound {self with
      inner := self.inner.setIsConnected (state = .connected)
      states := rest} := by
  have reported : (state::rest).getLast? = some (stateOf self.up) := by
    have reported := sound.reported
    rw [queued,List.getLast?_cons_cons] at reported
    exact reported
  cases state with
  | connected =>
    let online : Subscriptions := {self.inner with isConnected := true}
    have same : self.inner.setIsConnected (ConnectionState.connected = .connected) = online.resubscribe := rfl
    have steady : online.Steady := sound.steady.online
    have posts : Subscriptions.Posts (fun _ => False) online online.resubscribe :=
      .resubscribe online (.refl online)
    have wired : Wired {self with inner := online} :=
      ⟨sound.wired.answered,sound.wired.distinct,sound.wired.landing,sound.wired.tracked,sound.wired.asked⟩
    have again := wired.posts _ posts (fun _ never => never.elim)
    have unheard : .disconnected ∉ rest → .disconnected ∉ self.states := by
      rw [queued]
      simp
    rw [same]
    refine ⟨by simp only [posts.ids]; exact sound.tracks,steady.resubscribe,
      ⟨again.answered,again.distinct,again.landing,again.tracked,again.asked⟩,?_,?_,?_,?_⟩
    · simp only [posts.flag]
      exact reported
    · intro heard id tracked
      simp only [posts.ids] at tracked
      exact sound.current (unheard heard) id tracked
    · intro heard
      exact posts.known (sound.known (unheard heard))
    · intro heard _ kind wanted
      rw [Subscriptions.desired_resubscribe] at wanted
      exact .inl (steady.awaits_resubscribe rfl kind wanted)
  | disconnected =>
    refine ⟨SubscriptionIds.tracks_default,sound.steady.setIsConnected false,?_,reported,?_,?_,?_⟩
    · refine ⟨sound.wired.answered,sound.wired.distinct,?_,?_,sound.wired.asked⟩
      · intro id landing
        obtain ⟨opened,_,unasked⟩ := sound.wired.landing id landing
        exact ⟨opened,HashMap.get_new id,unasked⟩
      · intro id tracked
        exact absurd (HashMap.get_new id) tracked
    · intro _ id tracked
      exact absurd (HashMap.get_new id) tracked
    · intro _ id kind awaits
      exact absurd awaits (self.inner.not_awaits_disconnected id kind)
    · intro _ connected
      cases connected

/-- The response is taken and its request is no longer in flight. -/
def taken (self : Client) (index : Nat) (id : RpcId) : Client :=
  {self with
    inner := self.inner.landed id
    data := self.data.eraseIdx index}

theorem landing_taken (self : Client) (wired : Wired self) (index : Nat) (id : RpcId) (response : RpcResponse)
    (item : self.data[index]? = some (id,response)) :
    (self.taken index id).landing.Nodup ∧ (∀ other ∈ (self.taken index id).landing, other ∈ self.landing) ∧
      ∀ subscriptionId, response = .newSubscription subscriptionId →
        subscriptionId ∈ self.landing ∧ subscriptionId ∉ (self.taken index id).landing := by
  obtain ⟨bound,found⟩ := List.getElem?_eq_some_iff.mp item
  have same : self.landing.Perm (response.subscriptionId.toList ++ (self.taken index id).landing) := by
    have perm := (List.getElem_cons_eraseIdx_perm bound).filterMap (fun item => item.2.subscriptionId)
    rw [found,List.filterMap_cons] at perm
    unfold landing taken
    cases answer : response.subscriptionId with
    | none =>
      rw [answer] at perm
      exact perm.symm
    | some subscriptionId =>
      rw [answer] at perm
      exact perm.symm
  have distinct := same.nodup_iff.mp wired.distinct
  refine ⟨(List.nodup_append.mp distinct).2.1,?_,?_⟩
  · intro other member
    exact same.mem_iff.mpr (List.mem_append_right _ member)
  · rintro subscriptionId rfl
    exact ⟨same.mem_iff.mpr List.mem_cons_self,(List.nodup_cons.mp distinct).1⟩

theorem Wired.taken {self : Client} (wired : Wired self) (index : Nat) (id : RpcId) (response : RpcResponse)
    (item : self.data[index]? = some (id,response)) : Wired (self.taken index id) := by
  obtain ⟨distinct,subset,_⟩ := landing_taken self wired index id response item
  refine ⟨?_,distinct,?_,wired.tracked,wired.asked⟩
  · intro other answer member
    exact wired.answered other answer (List.mem_of_mem_eraseIdx member)
  · intro other member
    exact wired.landing other (subset other member)

theorem wired_received (self : Client) (wired : Wired self) (index : Nat) (id : RpcId) (response : RpcResponse)
    (item : self.data[index]? = some (id,response)) (next : Subscriptions)
    (result : self.inner.Received id response next) :
    Wired {self.taken index id with inner := next} := by
  obtain ⟨_,subset,gone⟩ := landing_taken self wired index id response item
  have taken := wired.taken index id response item
  cases result with
  | ignored => exact taken
  | unwanted subscriptionId =>
    obtain ⟨was,isNot⟩ := gone subscriptionId rfl
    have posts : Subscriptions.Posts (· = subscriptionId) (self.taken index id).inner
        ((self.inner.landed id).sendUnsubscribe subscriptionId none) :=
      .sendUnsubscribe _ subscriptionId none rfl
    apply taken.posts _ posts
    intro other same
    subst same
    exact ⟨(wired.landing other was).1,isNot⟩
  | subscribed subscriptionId kind =>
    obtain ⟨was,isNot⟩ := gone subscriptionId rfl
    have lookup : ∀ other, (self.inner.ids.insert subscriptionId kind
        (self.inner.rpcIdsInFlight.remove id).2.2.isSome).lookup.get other =
        if other = subscriptionId then some kind else self.inner.ids.lookup.get other :=
      fun other => HashMap.get_insert _ _ _ _
    refine ⟨taken.answered,taken.distinct,?_,?_,taken.asked⟩
    · intro other member
      obtain ⟨opened,untracked,unasked⟩ := taken.landing other member
      refine ⟨opened,?_,unasked⟩
      simp only [lookup]
      rw [if_neg]
      · exact untracked
      · intro same
        subst same
        exact isNot member
    · intro other present
      simp only [lookup] at present
      split at present
      · next same =>
        subst same
        exact (wired.landing other was).1
      · exact wired.tracked other present
  | unsubscribed subscriptionId =>
    have lookup : ∀ other, (self.inner.ids.remove subscriptionId).lookup.get other =
        if other = subscriptionId then none else self.inner.ids.lookup.get other :=
      fun other => HashMap.get_remove _ _ _
    refine ⟨taken.answered,taken.distinct,?_,?_,taken.asked⟩
    · intro other member
      obtain ⟨opened,untracked,unasked⟩ := taken.landing other member
      refine ⟨opened,?_,unasked⟩
      simp only [lookup]
      split
      · rfl
      · exact untracked
    · intro other present
      simp only [lookup] at present
      split at present
      · exact absurd rfl present
      · exact wired.tracked other present
  | refused subscriptionId _ tracked =>
    have posts : Subscriptions.Posts (· = subscriptionId) (self.taken index id).inner
        ((self.inner.landed id).sendUnsubscribe subscriptionId (some unsubscribeRetrySecs)) :=
      .sendUnsubscribe _ subscriptionId _ rfl
    apply taken.posts _ posts
    intro other same
    subst same
    refine ⟨wired.tracked other tracked,?_⟩
    intro member
    exact tracked (wired.landing other (subset other member)).2.1

/-- The kinds stay covered: the request that lands brings the subscription that covers its
kind, and no other response touches a subscription that covers one. -/
theorem covers_received (self : Client) (sound : Sound self) (heard : .disconnected ∉ self.states)
    (index : Nat) (id : RpcId) (response : RpcResponse) (item : self.data[index]? = some (id,response))
    (next : Subscriptions) (result : self.inner.Received id response next) (kind : SubscriptionKind)
    (wanted : self.inner.desired (SubscriptionCategory.ofKind kind) = some kind)
    (covers : self.inner.Covers kind) : next.Covers kind := by
  obtain ⟨_,_,gone⟩ := landing_taken self sound.wired index id response item
  obtain ⟨_,answered⟩ := sound.wired.answered id response (List.mem_of_getElem? item)
  have steady := sound.steady.landed id
  -- the request that lands is for the kind itself
  by_cases own : self.inner.Awaits id kind
  · have known := sound.known heard id kind own
    obtain ⟨_,answer⟩ := answered _ known
    obtain ⟨subscriptionId,rfl,_⟩ := (self.answers_subscribe kind response).mp answer
    obtain ⟨_,untracked,unasked⟩ := sound.wired.landing subscriptionId (gone subscriptionId rfl).1
    cases result with
    | ignored _ noSubscription => exact absurd rfl (noSubscription kind subscriptionId known)
    | unwanted _ _ marked =>
      rw [own] at marked
      cases marked
    | subscribed _ other found =>
      rw [known,Option.some.injEq,SubscriptionKind.requestKind_injective] at found
      subst found
      refine .inr ⟨subscriptionId,?_,HashMap.get_insert_self _ _ _,unasked⟩
      simp only [SubscriptionIds.mostRecent_insert,sound.steady.reports id kind own,Option.isSome_some]
      simp
  -- another request lands: what covers the kind stays
  · have rest : (self.inner.landed id).Covers kind := by
      rcases covers with ⟨other,awaits⟩ | ⟨last,rests⟩
      · refine .inl ⟨other,(self.inner.awaits_landed id other kind).mpr ⟨?_,awaits⟩⟩
        intro same
        subst same
        exact own awaits
      · exact .inr ⟨last,rests.recent,rests.tracked,rests.unasked⟩
    cases result with
    | ignored => exact rest
    | unwanted subscriptionId =>
      apply Subscriptions.covers_sendUnsubscribe _ kind steady rest
      rintro last rests rfl
      have untracked := (sound.wired.landing last (gone last rfl).1).2.1
      exact absurd (untracked.symm.trans rests.tracked) (by simp)
    | subscribed subscriptionId other known unmarked =>
      rcases rest with awaits | ⟨last,rests⟩
      · exact .inl awaits
      · have untracked := (sound.wired.landing subscriptionId (gone subscriptionId rfl).1).2.1
        have apart : last ≠ subscriptionId := by
          rintro rfl
          exact absurd (untracked.symm.trans rests.tracked) (by simp)
        refine .inr ⟨last,?_,(HashMap.get_insert_ne _ _ _ _ apart).trans rests.tracked,rests.unasked⟩
        simp only [SubscriptionIds.mostRecent_insert]
        rw [if_neg]
        · exact rests.recent
        · rintro ⟨reported,placed⟩
          obtain ⟨category,reported⟩ := Option.isSome_iff_exists.mp reported
          obtain ⟨_,held,awaits,_⟩ :=
            ((RpcIdsInFlight.remove_spec self.inner.rpcIdsInFlight id).2.2.1 category).mp reported
          have same := sound.known heard id held awaits
          rw [known,Option.some.injEq,SubscriptionKind.requestKind_injective] at same
          subst same
          have aimed := (sound.steady.aimed id other awaits).1
          rw [← placed,wanted] at aimed
          cases aimed
          exact own awaits
    | unsubscribed subscriptionId known =>
      rcases rest with awaits | ⟨last,rests⟩
      · exact .inl awaits
      · have apart : last ≠ subscriptionId := by
          rintro rfl
          exact rests.unasked id known
        refine .inr ⟨last,?_,(HashMap.get_remove_ne _ _ _ apart).trans rests.tracked,rests.unasked⟩
        have recent : self.inner.ids.mostRecent (SubscriptionCategory.ofKind kind) = some last := rests.recent
        simp only [SubscriptionIds.mostRecent_remove,recent,Option.some.injEq,if_neg apart]
    | refused subscriptionId known =>
      apply Subscriptions.covers_sendUnsubscribe _ kind steady rest
      rintro last rests rfl
      exact rests.unasked id known

theorem tracks_received (self : Client) (sound : Sound self) (index : Nat) (id : RpcId)
    (response : RpcResponse) (item : self.data[index]? = some (id,response)) (next : Subscriptions)
    (result : self.inner.Received id response next) : next.ids.Tracks := by
  cases result with
  | ignored => exact sound.tracks
  | unwanted => rw [Subscriptions.sendUnsubscribe_eq]; exact sound.tracks
  | subscribed subscriptionId kind =>
    obtain ⟨_,_,gone⟩ := landing_taken self sound.wired index id _ item
    exact sound.tracks.insert_new subscriptionId kind _
      (sound.wired.landing subscriptionId (gone subscriptionId rfl).1).2.1
  | unsubscribed subscriptionId => exact sound.tracks.remove subscriptionId
  | refused => rw [Subscriptions.sendUnsubscribe_eq]; exact sound.tracks

/-- A response with a known rpc id was answered on the current connection. -/
theorem current_received (self : Client) (sound : Sound self) (heard : .disconnected ∉ self.states)
    (index : Nat) (id : RpcId) (response : RpcResponse) (item : self.data[index]? = some (id,response))
    (next : Subscriptions) (result : self.inner.Received id response next) (subscriptionId : String)
    (tracked : next.ids.lookup.get subscriptionId ≠ none) :
    self.up = true ∧ self.opened.get subscriptionId = some self.connection := by
  cases result with
  | ignored => exact sound.current heard subscriptionId tracked
  | unwanted =>
    rw [Subscriptions.sendUnsubscribe_eq] at tracked
    exact sound.current heard subscriptionId tracked
  | subscribed new kind known =>
    simp only [SubscriptionIds.insert,HashMap.get_insert] at tracked
    split at tracked
    · next same =>
      subst same
      obtain ⟨up,answer⟩ := (sound.wired.answered id _ (List.mem_of_getElem? item)).2 _ known
      obtain ⟨_,same,opened⟩ := (self.answers_subscribe kind _).mp answer
      cases same
      exact ⟨up,opened⟩
    · exact sound.current heard subscriptionId tracked
  | unsubscribed gone =>
    simp only [SubscriptionIds.remove,HashMap.get_remove] at tracked
    split at tracked
    · exact absurd rfl tracked
    · exact sound.current heard subscriptionId tracked
  | refused =>
    rw [Subscriptions.sendUnsubscribe_eq] at tracked
    exact sound.current heard subscriptionId tracked

theorem known_received (self : Client) (sound : Sound self) (heard : .disconnected ∉ self.states)
    (id : RpcId) (response : RpcResponse) (next : Subscriptions)
    (result : self.inner.Received id response next) (other : RpcId) (kind : SubscriptionKind)
    (awaits : next.Awaits other kind) : next.rpcIds.get other = some kind.requestKind := by
  have landed : ∀ other kind, (self.inner.landed id).Awaits other kind →
      (self.inner.landed id).rpcIds.get other = some kind.requestKind :=
    fun other kind awaits => sound.known heard other kind ((self.inner.awaits_landed id other kind).mp awaits).2
  cases result with
  | ignored => exact landed other kind awaits
  | unwanted subscriptionId =>
    have posts : Subscriptions.Posts (· = subscriptionId) (self.inner.landed id)
        ((self.inner.landed id).sendUnsubscribe subscriptionId none) :=
      .sendUnsubscribe _ subscriptionId none rfl
    exact posts.known landed other kind awaits
  | subscribed => exact landed other kind awaits
  | unsubscribed => exact landed other kind awaits
  | refused subscriptionId =>
    have posts : Subscriptions.Posts (· = subscriptionId) (self.inner.landed id)
        ((self.inner.landed id).sendUnsubscribe subscriptionId (some unsubscribeRetrySecs)) :=
      .sendUnsubscribe _ subscriptionId _ rfl
    exact posts.known landed other kind awaits

theorem sound_receive (self : Client) (sound : Sound self) (index : Nat) (id : RpcId) (response : RpcResponse)
    (item : self.data[index]? = some (id,response)) :
    Sound {self.taken index id with inner := self.inner.onReceivedRpcResponse id response} := by
  have result := self.inner.received id response
  obtain ⟨desired,flag⟩ := result.aim
  refine ⟨tracks_received self sound index id response item _ result,
    sound.steady.received id response result,
    wired_received self sound.wired index id response item _ result,by rw [flag]; exact sound.reported,
    fun heard => current_received self sound heard index id response item _ result,
    fun heard => known_received self sound heard id response _ result,?_⟩
  intro heard connected kind wanted
  rw [desired] at wanted
  rw [flag] at connected
  exact covers_received self sound heard index id response item _ result kind wanted
    (sound.covered heard connected kind wanted)

/-- A client that takes itself to be connected and has heard of every lost connection is. -/
theorem Sound.up {self : Client} (sound : Sound self) (heard : .disconnected ∉ self.states)
    (connected : self.inner.isConnected = true) : self.up = true := by
  have reported := sound.reported
  rw [connected] at reported
  have member := List.mem_of_getLast? reported
  cases up : self.up with
  | true => rfl
  | false =>
    rw [up] at member
    rcases List.mem_cons.mp member with never | lost
    · cases never
    · exact absurd lost heard

/-- Requests that were posted stay so when some of them leave. -/
theorem steady_requests (inner : Subscriptions) (steady : inner.Steady)
    (connectionSendRpc delayed : List RpcRequest)
    (posted : ∀ req ∈ connectionSendRpc ++ delayed, req ∈ inner.connectionSendRpc ++ inner.delayed) :
    Subscriptions.Steady {inner with connectionSendRpc,delayed} :=
  ⟨steady.aimed,steady.idle,steady.flying,fun req member => steady.posted req (posted req member)⟩

theorem covers_requests (inner : Subscriptions) (connectionSendRpc delayed : List RpcRequest)
    (kind : SubscriptionKind) (covers : inner.Covers kind) :
    Subscriptions.Covers {inner with connectionSendRpc,delayed} kind := by
  rcases covers with awaits | ⟨last,rests⟩
  · exact .inl awaits
  · exact .inr ⟨last,rests.recent,rests.tracked,rests.unasked⟩

theorem steady_clear (inner : Subscriptions) (steady : inner.Steady) :
    Subscriptions.Steady {inner with rpcIds := inner.rpcIds.clear} := by
  refine ⟨steady.aimed,steady.idle,steady.flying,?_⟩
  intro req member
  refine ⟨(steady.posted req member).1,?_⟩
  intro kind found
  rw [SlotMap.get_clear] at found
  cases found

theorem Wired.clear {self : Client} (wired : Wired self) (up : Bool) :
    Wired {self with
      inner := {self.inner with rpcIds := self.inner.rpcIds.clear}
      up} := by
  refine ⟨?_,wired.distinct,?_,wired.tracked,?_⟩
  · intro id response member
    refine ⟨(wired.answered id response member).1,?_⟩
    intro kind found
    simp at found
  · intro id member
    obtain ⟨opened,untracked,_⟩ := wired.landing id member
    exact ⟨opened,untracked,by simp⟩
  · intro rpcId id found
    simp at found

theorem sound_connect (self : Client) (sound : Sound self) (down : self.up = false) :
    Sound {self with
      up := true
      connection := self.connection + 1
      states := self.states ++ [.connected]} := by
  have heard : .disconnected ∉ self.states ++ [ConnectionState.connected] → .disconnected ∉ self.states :=
    fun absent member => absent (List.mem_append_left _ member)
  have gone : ¬self.up = true := by simp [down]
  refine ⟨sound.tracks,sound.steady,⟨?_,sound.wired.distinct,sound.wired.landing,sound.wired.tracked,
    sound.wired.asked⟩,?_,?_,fun absent => sound.known (heard absent),fun absent => sound.covered (heard absent)⟩
  · intro id response member
    obtain ⟨minted,known⟩ := sound.wired.answered id response member
    exact ⟨minted,fun kind found => absurd (known kind found).1 gone⟩
  · rw [← List.cons_append,List.getLast?_concat]
    rfl
  · intro absent id tracked
    exact absurd (sound.current (heard absent) id tracked).1 gone

theorem sound_disconnect (self : Client) (sound : Sound self) :
    Sound {self with
      up := false
      inner := {self.inner with rpcIds := self.inner.rpcIds.clear}
      states := self.states ++ [.disconnected]} := by
  have wired := sound.wired.clear false
  have pending : .disconnected ∈ self.states ++ [ConnectionState.disconnected] :=
    List.mem_append_right _ List.mem_cons_self
  refine ⟨sound.tracks,steady_clear self.inner sound.steady,⟨wired.answered,wired.distinct,wired.landing,
    wired.tracked,wired.asked⟩,?_,fun absent => absurd pending absent,fun absent => absurd pending absent,
    fun absent => absurd pending absent⟩
  rw [← List.cons_append,List.getLast?_concat]
  rfl

theorem sound_connectFails (self : Client) (sound : Sound self) (down : self.up = false) :
    Sound {self with states := self.states ++ [.disconnected]} := by
  have pending : .disconnected ∈ self.states ++ [ConnectionState.disconnected] :=
    List.mem_append_right _ List.mem_cons_self
  refine ⟨sound.tracks,sound.steady,⟨sound.wired.answered,sound.wired.distinct,sound.wired.landing,
    sound.wired.tracked,sound.wired.asked⟩,?_,fun absent => absurd pending absent,
    fun absent => absurd pending absent,fun absent => absurd pending absent⟩
  rw [← List.cons_append,List.getLast?_concat,down]
  rfl

theorem sound_clearAll (self : Client) (sound : Sound self) (down : self.up = false) :
    Sound {self with inner := {self.inner with rpcIds := self.inner.rpcIds.clear}} := by
  have offline : .disconnected ∉ self.states → self.inner.isConnected = false := by
    intro heard
    by_contra connected
    have up := sound.up heard (by simpa using connected)
    rw [down] at up
    cases up
  refine ⟨sound.tracks,steady_clear self.inner sound.steady,sound.wired.clear self.up,sound.reported,
    sound.current,?_,?_⟩
  · intro heard id kind awaits
    exact absurd awaits (sound.steady.idle (offline heard) id kind)
  · intro heard connected
    rw [offline heard] at connected
    cases connected

/-- A request that was not marked is answered with what it asked for. -/
theorem Wired.answer {self : Client} (wired : Wired self) (steady : self.inner.Steady) (up : self.up = true)
    (req : RpcRequest) (posted : req ∈ self.inner.connectionSendRpc ++ self.inner.delayed)
    (response : RpcResponse) (opened : HashMap String Nat)
    (answer : Answers {self with opened} req.requestKind response)
    (grown : ∀ id held, self.opened.get id = some held → opened.get id = some held)
    (fresh : ∀ id, response = .newSubscription id → self.opened.get id = none ∧ opened.get id ≠ none) :
    Wired {self with
      data := self.data ++ [(req.id,response)]
      opened} := by
  obtain ⟨minted,known⟩ := steady.posted req posted
  have kept : ∀ id, self.opened.get id ≠ none → opened.get id ≠ none := by
    intro id present
    obtain ⟨held,found⟩ := Option.ne_none_iff_exists'.mp present
    rw [grown id held found]
    simp
  have landing : (self.data ++ [(req.id,response)]).filterMap (fun item => item.2.subscriptionId) =
      self.landing ++ response.subscriptionId.toList := by
    rw [List.filterMap_append]
    cases response <;> rfl
  have new : ∀ id ∈ response.subscriptionId.toList, response = .newSubscription id := by
    intro id member
    cases response with
    | newSubscription subscriptionId =>
      rw [List.mem_singleton.mp member]
    | _ => cases member
  refine ⟨?_,?_,?_,fun id tracked => kept id (wired.tracked id tracked),
    fun rpcId id found => kept id (wired.asked rpcId id found)⟩
  · intro id answered member
    rcases List.mem_append.mp member with old | last
    · obtain ⟨minted,known⟩ := wired.answered id answered old
      refine ⟨minted,fun kind found => ⟨up,?_⟩⟩
      have before := (known kind found).2
      rcases SubscriptionKind.request_cases kind with ⟨subscription,rfl⟩ | ⟨target,rfl⟩
      · obtain ⟨subscriptionId,same,held⟩ := (self.answers_subscribe subscription answered).mp before
        exact (answers_subscribe _ subscription answered).mpr ⟨subscriptionId,same,grown _ _ held⟩
      · cases answered <;> exact before
    · cases List.mem_singleton.mp last
      refine ⟨minted,fun kind found => ⟨up,?_⟩⟩
      rw [known kind found]
      exact answer
  · unfold Client.landing
    simp only [landing]
    apply List.nodup_append.mpr
    refine ⟨wired.distinct,by cases response <;> simp [RpcResponse.subscriptionId],?_⟩
    intro id old other member same
    subst same
    exact (wired.landing id old).1 (fresh id (new id member)).1
  · intro id member
    unfold Client.landing at member
    simp only [landing] at member
    rcases List.mem_append.mp member with old | last
    · obtain ⟨opened,rest⟩ := wired.landing id old
      exact ⟨kept id opened,rest⟩
    · obtain ⟨unopened,opened⟩ := fresh id (new id last)
      refine ⟨opened,?_,?_⟩
      · by_contra tracked
        exact wired.tracked id tracked unopened
      · intro rpcId found
        exact wired.asked rpcId id found unopened

theorem sound_deliver (self next : Client) (subscriptionId : String) (success : Bool)
    (sent : self.deliver subscriptionId success = some next) (sound : Sound self) : Sound next := by
  unfold deliver at sent
  split at sent
  · cases sent
  · next req rest queued =>
    have fewer : ∀ other ∈ rest ++ self.inner.delayed,
        other ∈ self.inner.connectionSendRpc ++ self.inner.delayed := by
      intro other member
      rw [queued]
      exact List.mem_cons_of_mem _ member
    have steady := steady_requests self.inner sound.steady rest self.inner.delayed fewer
    have covered : .disconnected ∉ self.states → self.inner.isConnected = true → ∀ kind,
        self.inner.desired (SubscriptionCategory.ofKind kind) = some kind →
        Subscriptions.Covers {self.inner with connectionSendRpc := rest} kind :=
      fun heard connected kind wanted =>
        covers_requests self.inner rest self.inner.delayed kind (sound.covered heard connected kind wanted)
    have posted : req ∈ self.inner.connectionSendRpc ++ self.inner.delayed := by
      rw [queued]
      exact List.mem_cons_self
    simp only at sent
    split at sent
    · next up =>
      split at sent
      · next id params =>
        split at sent
        · next fresh =>
          cases sent
          have grown : ∀ other held, self.opened.get other = some held →
              (self.opened.insert subscriptionId self.connection).get other = some held := by
            intro other held found
            rw [HashMap.get_insert_ne]
            · exact found
            · rintro rfl
              rw [fresh] at found
              cases found
          have wired := sound.wired.answer sound.steady up _ posted (.newSubscription subscriptionId)
            (self.opened.insert subscriptionId self.connection)
            (by cases params <;> exact HashMap.get_insert_self _ _ _) grown
            (by rintro id ⟨⟩; exact ⟨fresh,by simp⟩)
          exact ⟨sound.tracks,steady,⟨wired.answered,wired.distinct,wired.landing,wired.tracked,wired.asked⟩,
            sound.reported,fun heard id tracked => ⟨up,grown _ _ (sound.current heard id tracked).2⟩,
            sound.known,covered⟩
        · cases sent
      · next id target =>
        cases sent
        have wired := sound.wired.answer sound.steady up _ posted (.unsubscribeAck success)
          self.opened trivial (fun _ _ found => found) (by rintro id ⟨⟩)
        exact ⟨sound.tracks,steady,⟨wired.answered,wired.distinct,wired.landing,wired.tracked,wired.asked⟩,
          sound.reported,sound.current,sound.known,covered⟩
    · cases sent
      exact ⟨sound.tracks,steady,⟨sound.wired.answered,sound.wired.distinct,sound.wired.landing,
        sound.wired.tracked,sound.wired.asked⟩,sound.reported,sound.current,sound.known,covered⟩

theorem sound_delayPasses (self : Client) (index : Nat) (req : RpcRequest)
    (item : self.inner.delayed[index]? = some req) (sound : Sound self) :
    Sound {self with
      inner := Subscriptions.sendDelayed {self.inner with delayed := self.inner.delayed.eraseIdx index} req} := by
  have held : req ∈ self.inner.delayed := List.mem_of_getElem? item
  have fewer : ∀ other ∈ self.inner.delayed.eraseIdx index, other ∈ self.inner.delayed :=
    fun other member => List.mem_of_mem_eraseIdx member
  have sends : ∀ connectionSendRpc : List RpcRequest,
      (∀ other ∈ connectionSendRpc, other ∈ self.inner.connectionSendRpc ∨ other = req) →
      Sound {self with inner := {self.inner with
        connectionSendRpc
        delayed := self.inner.delayed.eraseIdx index}} := by
    intro connectionSendRpc members
    have steady := steady_requests self.inner sound.steady connectionSendRpc
      (self.inner.delayed.eraseIdx index) (by
        intro other member
        rcases List.mem_append.mp member with sent | waiting
        · rcases members other sent with old | rfl
          · exact List.mem_append_left _ old
          · exact List.mem_append_right _ held
        · exact List.mem_append_right _ (fewer other waiting))
    exact ⟨sound.tracks,steady,⟨sound.wired.answered,sound.wired.distinct,sound.wired.landing,
      sound.wired.tracked,sound.wired.asked⟩,sound.reported,sound.current,sound.known,
      fun heard connected kind wanted =>
        covers_requests self.inner _ _ kind (sound.covered heard connected kind wanted)⟩
  rcases Subscriptions.sendDelayed_cases
    {self.inner with delayed := self.inner.delayed.eraseIdx index} req with sent | dropped
  · rw [sent]
    apply sends
    intro other member
    simpa using member
  · rw [dropped]
    apply sends
    intro other member
    exact .inl member

theorem sound_step (self next : Client) (act : Act) (stepped : self.step act = some next)
    (sound : Sound self) : Sound next := by
  cases act with
  | call call =>
    cases stepped
    exact sound_call self call sound
  | connect =>
    simp only [step] at stepped
    split at stepped
    · cases stepped
    · next down =>
      cases stepped
      exact sound_connect self sound (by simpa using down)
  | disconnect =>
    simp only [step] at stepped
    split at stepped
    · cases stepped
      exact sound_disconnect self sound
    · cases stepped
  | connectFails =>
    simp only [step] at stepped
    split at stepped
    · cases stepped
    · next down =>
      cases stepped
      exact sound_connectFails self sound (by simpa using down)
  | clearAll =>
    simp only [step] at stepped
    split at stepped
    · cases stepped
    · next down =>
      cases stepped
      exact sound_clearAll self sound (by simpa using down)
  | deliver subscriptionId success => exact sound_deliver self next subscriptionId success stepped sound
  | processState =>
    simp only [step] at stepped
    split at stepped
    · cases stepped
    · next state rest queued =>
      cases stepped
      exact sound_processState self state rest queued sound
  | receive index =>
    simp only [step] at stepped
    split at stepped
    · cases stepped
    · next id response item =>
      cases stepped
      exact sound_receive self sound index id response item
  | delayPasses index =>
    simp only [step] at stepped
    split at stepped
    · cases stepped
    · next req item =>
      cases stepped
      exact sound_delayPasses self index req item sound

theorem sound_new (keys : SlotKeys) : Sound (new keys) := by
  have untracked : ∀ id, (new keys).inner.ids.lookup.get id = none := fun id => HashMap.get_new id
  have idle : ∀ id kind, ¬(new keys).inner.Awaits id kind := by
    intro id kind awaits
    simp [new,Subscriptions.new,Subscriptions.Awaits,RpcIdsInFlight.Awaits,RpcIdsInFlight.default] at awaits
  have unknown : ∀ id, (new keys).inner.rpcIds.get id = none := fun id => HashMap.get_new id
  refine ⟨SubscriptionIds.tracks_default,⟨fun id kind awaits => absurd awaits (idle id kind),fun _ => idle,?_,?_⟩,
    ⟨?_,List.nodup_nil,?_,fun id tracked => absurd (untracked id) tracked,?_⟩,rfl,
    fun _ id tracked => absurd (untracked id) tracked,fun _ id kind awaits => absurd awaits (idle id kind),?_⟩
  · intro id present
    exact absurd (HashMap.get_new id) present
  · intro req member
    cases member
  · intro id response member
    cases member
  · intro id member
    cases member
  · intro rpcId id found
    rw [unknown] at found
    cases found
  · intro _ connected
    cases connected

theorem forwards_iff (inner : Subscriptions) (kind : SubscriptionKind) (last subscriptionId : String)
    (rests : inner.Rests kind last) :
    inner.forwards (SubscriptionCategory.ofKind kind) subscriptionId = true ↔ subscriptionId = last := by
  have recent : inner.ids.isMostRecent subscriptionId (SubscriptionCategory.ofKind kind) =
      decide (last = subscriptionId) := by
    obtain ⟨entry,found,most⟩ := Option.bind_eq_some_iff.mp rests.recent
    unfold SubscriptionIds.isMostRecent
    rw [found]
    simp only [most]
  unfold Subscriptions.forwards SubscriptionIds.compare
  rw [recent,Bool.and_eq_true,decide_eq_true_iff]
  constructor
  · rintro ⟨_,same⟩
    exact same.symm
  · rintro rfl
    rw [rests.tracked]
    simp

/-- In every state of a run in which the client is connected and no request is in flight,
each enabled category has a most recent subscription of the desired kind, opened on the
current connection, and of the category only its events are forwarded. -/
theorem enabled_categories_covered (keys : SlotKeys) (acts : List Act) (final : Client)
    (reached : run step (new keys) acts = some final) (connected : final.Connected) (quiet : final.Quiet)
    (category : SubscriptionCategory) (kind : SubscriptionKind)
    (enabled : final.inner.desired category = some kind) :
    ∃ subscriptionId, final.inner.ids.mostRecent category = some subscriptionId ∧
      final.inner.ids.lookup.get subscriptionId = some kind ∧
      final.up = true ∧ final.opened.get subscriptionId = some final.connection ∧
      ∀ other, final.inner.forwards category other = true ↔ other = subscriptionId := by
  have sound := invariant Sound (fun self act next stepped sound => sound_step self next act stepped sound)
    (new keys) final acts reached (sound_new keys)
  have heard : .disconnected ∉ final.states := by simp [connected.2]
  have placed := final.inner.desired_category category kind enabled
  subst placed
  rcases sound.covered heard connected.1 kind enabled with ⟨id,awaits⟩ | ⟨last,rests⟩
  · rw [Subscriptions.Awaits,RpcIdsInFlight.Awaits,quiet id] at awaits
    cases awaits
  · obtain ⟨up,opened⟩ := sound.current heard last (by rw [rests.tracked]; simp)
    exact ⟨last,rests.recent,rests.tracked,up,opened,fun other => forwards_iff final.inner kind last other rests⟩

instance (self : Client) : Decidable self.Connected := inferInstanceAs (Decidable (_ ∧ _))

instance (self : Client) : Decidable self.Quiet := decidable_of_iff _ (HashMap.values_eq_nil _)

/-- Blocks and two log filters are enabled, the connection is lost while the second filter's
requests are on their way, and the responses on the next connection are processed in the
other order. -/
def reconnectSchedule : List Act :=
  [.call (.toggleBlockHeight true),.connect,.processState,.deliver "0x1" true,.receive 0,
    .call (.enableLogs [FixedBytes.filled 20 1] [FixedBytes.filled 32 1]),.deliver "0x2" true,
    .deliver "0x3" true,.receive 1,.receive 0,
    .call (.enableLogs [FixedBytes.filled 20 2] [FixedBytes.filled 32 1]),.disconnect,.deliver "" true,
    .deliver "" true,.deliver "" true,.processState,.connect,.processState,.deliver "0x4" true,
    .deliver "0x5" true,.receive 1,.receive 0]

theorem reconnectSchedule_covered :
    ∃ final, run step (new (.reused 6 (by decide))) reconnectSchedule = some final ∧ final.Connected ∧ final.Quiet ∧
      ∃ subscriptionId, final.inner.ids.mostRecent .allLogs = some subscriptionId ∧
        final.inner.ids.lookup.get subscriptionId = some (.logs {FixedBytes.filled 20 1,FixedBytes.filled 20 2}
          {FixedBytes.filled 32 1}) := by
  obtain ⟨final,reached,tested⟩ := run_any step (new (.reused 6 (by decide))) reconnectSchedule (fun final =>
    final.Connected ∧ final.Quiet ∧ final.inner.desired .allLogs = some (.logs {FixedBytes.filled 20 1,
      FixedBytes.filled 20 2} {FixedBytes.filled 32 1})) (by decide +kernel)
  obtain ⟨connected,quiet,enabled⟩ := of_decide_eq_true tested
  obtain ⟨subscriptionId,recent,tracked,_⟩ :=
    enabled_categories_covered (.reused 6 (by decide)) reconnectSchedule final reached connected quiet .allLogs _ enabled
  exact ⟨final,reached,connected,quiet,subscriptionId,recent,tracked⟩

end Client

end Warpdrive.Trigger.EvmStream
