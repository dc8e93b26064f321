import Warpdrive.Trigger.Connection

/-! The reconnect policy of a connection without a priority endpoint. The loop follows the retry
policy over its endpoints: what it has attempted says where its index, its failures and its backoff
stand at each point of the loop. -/
namespace Warpdrive.Trigger.EvmStream

open Warpdrive.Foundation Warpdrive.Foundation.Execution Warpdrive.Foundation.Retry

/-- A connect attempt, with what is slept after it when it fails. -/
structure Attempt where
  endpoint : String
  slept : Option Nat
deriving DecidableEq

def Attempt.succeeded (self : Attempt) : Bool := self.slept.isNone

def outcomes (log : List Attempt) : List Bool := log.map Attempt.succeeded

namespace Connection

/-- The attempt that an action ends. -/
def attempt (loop : ConnectionLoop) (act : ConnectionAct) : List Attempt :=
  match act,loop.phase with
  | .connectError,.connecting endpoint => [⟨endpoint,some loop.currentBackoff⟩]
  | .connectOk,.connecting endpoint => [⟨endpoint,none⟩]
  | _,_ => []

def attempts (self : Connection) (acts : List ConnectionAct) : List Attempt :=
  emitted self.step attempt self.start acts

/-- The endpoints are gone over in turns, up to the backoff cap. -/
def policy (self : Connection) (nonempty : self.endpoints ≠ []) : Policy :=
  ⟨self.endpoints.length,backoffCap,List.length_pos_of_ne_nil nonempty,by decide⟩

variable (self : Connection) (nonempty : self.endpoints ≠ [])

/-- Attempts that the policy plans: each at the next endpoint, with the delay of the failures before it. -/
inductive Planned : List Attempt → Prop where
  | nil : Planned []
  | snoc (log : List Attempt) (attempt : Attempt) (planned : Planned log)
    (endpoint : self.endpoints[log.length % self.endpoints.length]? = some attempt.endpoint)
    (slept : ∀ seconds ∈ attempt.slept, seconds = (self.policy nonempty).delayAt
      (streak (outcomes log) / self.endpoints.length)) : Planned (log ++ [attempt])

theorem planned_at (log : List Attempt) (planned : self.Planned nonempty log) (i : Nat) (attempt : Attempt)
    (found : log[i]? = some attempt) :
    self.endpoints[i % self.endpoints.length]? = some attempt.endpoint ∧
      ∀ seconds ∈ attempt.slept, seconds = (self.policy nonempty).delayAt
        (streak (outcomes (log.take i)) / self.endpoints.length) := by
  induction planned with
  | nil => simp at found
  | snoc log last planned endpoint slept ih =>
    by_cases earlier : i < log.length
    · rw [List.getElem?_append_left earlier] at found
      rw [List.take_append_of_le_length (by omega)]
      exact ih found
    · have bound := List.getElem?_eq_some_iff.mp found
      obtain ⟨low,_⟩ := bound
      rw [List.length_append,List.length_singleton] at low
      have newest : i = log.length := by omega
      subst newest
      rw [List.getElem?_concat_length] at found
      cases found
      rw [List.take_left']
      · exact ⟨endpoint,slept⟩
      · rfl

def counters (loop : ConnectionLoop) : Counters :=
  ⟨loop.endpointIdx,loop.failuresInCycle,loop.currentBackoff⟩

/-- Where the loop stands after the attempts: a connection that ends and a sleep that is over leave the
counters of the policy. -/
def Stands (log : List Attempt) (loop : ConnectionLoop) : Prop :=
  let after := (self.policy nonempty).after (outcomes log)
  match loop.phase with
  | .choosing => counters loop = after
  | .connecting endpoint => counters loop = after ∧ self.endpoints[loop.endpointIdx]? = some endpoint
  | .connected _ => counters (self.onDisconnected loop) = after
  | .sleeping => counters (self.onAwake loop) = after
  | .exited => True
  | .panicked => False

structure Follows (connection : Connection) (nonempty : connection.endpoints ≠ []) (log : List Attempt)
    (loop : ConnectionLoop) : Prop where
  planned : connection.Planned nonempty log
  forceSwitchFlag : loop.forceSwitchFlag = false
  isUsingPriority : loop.isUsingPriority = false
  notified : loop.notified = false
  checking : loop.checking = false
  stands : connection.Stands nonempty log loop

theorem counters_onConnected (loop : ConnectionLoop) (endpoint : String) :
    counters (self.onDisconnected (self.onConnected loop endpoint)) =
      (self.policy nonempty).next (counters loop) true := rfl

theorem counters_onConnectError (loop : ConnectionLoop) :
    counters (self.onAwake (self.onConnectError loop)) = (self.policy nonempty).next (counters loop) false := by
  by_cases full : self.endpoints.length ≤ loop.failuresInCycle + 1
  · simp [onAwake,onConnectError,counters,Policy.next,policy,full]
  · simp [onAwake,onConnectError,counters,Policy.next,policy,full]

theorem outcomes_append (log : List Attempt) (attempt : Attempt) :
    outcomes (log ++ [attempt]) = outcomes log ++ [attempt.succeeded] := by
  simp [outcomes]

theorem planned_snoc (log : List Attempt) (planned : self.Planned nonempty log) (loop : ConnectionLoop)
    (attempt : Attempt) (standing : counters loop = (self.policy nonempty).after (outcomes log))
    (found : self.endpoints[loop.endpointIdx]? = some attempt.endpoint)
    (slept : ∀ seconds ∈ attempt.slept, seconds = loop.currentBackoff) :
    self.Planned nonempty (log ++ [attempt]) := by
  rw [Policy.after_eq] at standing
  obtain ⟨place,failures,delay⟩ := Counters.mk.inj standing
  refine .snoc log attempt planned ?_ ?_
  · rw [← found,place]
    simp [outcomes,policy]
  · intro seconds some
    rw [slept seconds some,delay]
    rfl

theorem follows_step (unprioritised : self.priorityEndpointIndex = none) (log : List Attempt)
    (loop : ConnectionLoop) (act : ConnectionAct) (next : ConnectionLoop) (taken : self.step loop act = some next)
    (follows : self.Follows nonempty log loop) : self.Follows nonempty (log ++ attempt loop act) next := by
  obtain ⟨planned,flag,using_,notified,checking,stands⟩ := follows
  unfold Stands at stands
  cases self.moves_of_step loop next act taken with
  | choose point =>
    rw [point] at stands
    have plain : self.honored loop = loop.endpointIdx := by simp [honored,unprioritised]
    have place := (Counters.mk.inj (stands.trans (Policy.after_eq _ _))).1
    have low : self.honored loop < self.endpoints.length := by
      rw [plain,place]
      exact Nat.mod_lt _ (List.length_pos_of_ne_nil nonempty)
    rw [choose_of_lt self loop low]
    simp only [attempt,List.append_nil]
    refine ⟨planned,flag,using_,notified,checking,?_,?_⟩
    · simp only [counters,plain]
      exact stands
    · exact List.getElem?_eq_getElem low
  | connectError endpoint point =>
    rw [point] at stands
    obtain ⟨standing,found⟩ := stands
    simp only [attempt,point]
    refine ⟨self.planned_snoc nonempty log planned loop _ standing found ?_,?_,?_,notified,checking,?_⟩
    · simp
    · simp [onConnectError,flag]
    · simp [onConnectError,using_]
    · have counted := self.counters_onConnectError nonempty loop
      rw [standing,← Policy.after_append] at counted
      simp only [Stands,onConnectError,outcomes_append]
      exact counted
  | connectOk endpoint point =>
    rw [point] at stands
    obtain ⟨standing,found⟩ := stands
    simp only [attempt,point]
    refine ⟨self.planned_snoc nonempty log planned loop _ standing found ?_,?_,?_,notified,checking,?_⟩
    · simp
    · simp [onConnected,flag]
    · simp [onConnected,unprioritised]
    · have counted := self.counters_onConnected nonempty loop endpoint
      rw [standing,← Policy.after_append] at counted
      simp only [Stands,onConnected,outcomes_append]
      exact counted
  | wake point =>
    rw [point] at stands
    simp only [attempt,List.append_nil]
    unfold onAwake at stands ⊢
    split
    next full =>
      rw [if_pos full] at stands
      exact ⟨planned,flag,using_,notified,checking,stands⟩
    next some =>
      rw [if_neg some] at stands
      exact ⟨planned,flag,using_,notified,checking,stands⟩
  | message endpoint point =>
    rw [point] at stands
    simp only [attempt,point,List.append_nil]
    refine ⟨planned,flag,using_,rfl,checking,?_⟩
    simp only [Stands]
    exact stands
  | forceSwitch endpoint point told =>
    rw [notified] at told
    cases told
  | disconnect endpoint point =>
    rw [point] at stands
    simp only [attempt,List.append_nil]
    exact ⟨planned,flag,rfl,rfl,checking,stands⟩
  | shutdown =>
    simp only [attempt,List.append_nil]
    exact ⟨planned,flag,using_,notified,checking,trivial⟩
  | healthTick checked =>
    simp [healthChecked,unprioritised] at checked
  | healthAnswer healthy asked =>
    rw [checking] at asked
    cases asked

theorem follows_run (unprioritised : self.priorityEndpointIndex = none) (acts : List ConnectionAct)
    (final : ConnectionLoop) (reached : run self.step self.start acts = some final) :
    self.Follows nonempty (self.attempts acts) final := by
  refine invariant_emitted attempt (self.Follows nonempty) (self.follows_step nonempty unprioritised) []
    self.start final acts reached ?_
  refine ⟨.nil,?_,rfl,rfl,rfl,?_⟩
  · simp [start,unprioritised]
  · simp [Stands,start,counters,outcomes,Policy.after,backoffBase]

/-- A full turn of failures from a point where the last turn is over. -/
theorem planned_turn (log before window later : List Attempt) (planned : self.Planned nonempty log)
    (split : log = before ++ window ++ later) (turn : window.length = self.endpoints.length)
    (failed : ∀ attempt ∈ window, attempt.succeeded = false)
    (fresh : self.endpoints.length ∣ streak (outcomes before)) :
    (window.map Attempt.endpoint).Perm self.endpoints ∧ ∀ attempt ∈ window,
      attempt.slept = some ((self.policy nonempty).delayAt (streak (outcomes before) / self.endpoints.length)) := by
  constructor
  · have walk : window.map Attempt.endpoint = self.endpoints.rotate (before.map Attempt.endpoint).length := by
      apply rotate_of_cyclic self.endpoints (log.map Attempt.endpoint)
      · intro i low
        rw [List.length_map] at low
        rw [List.getElem?_map,List.getElem?_eq_getElem low,
          (self.planned_at nonempty log planned i _ (List.getElem?_eq_getElem low)).1]
        rfl
      · exact ⟨later.map Attempt.endpoint,by simp [split]⟩
      · rw [List.length_map,turn]
    rw [walk]
    exact List.rotate_perm _ _
  · intro attempt member
    obtain ⟨j,low,rfl⟩ := List.getElem_of_mem member
    have found : log[before.length + j]? = some window[j] := by
      rw [split,List.append_assoc,List.getElem?_append_right (by omega),Nat.add_sub_cancel_left,
        List.getElem?_append_left low,List.getElem?_eq_getElem low]
    have slept := (self.planned_at nonempty log planned _ _ found).2
    have failing : outcomes (window.take j) = List.replicate j false := by
      rw [List.eq_replicate_iff]
      refine ⟨by simp [outcomes]; omega,?_⟩
      intro outcome kept
      obtain ⟨other,taken,rfl⟩ := List.mem_map.mp kept
      exact failed other (List.mem_of_mem_take taken)
    have stem : outcomes (log.take (before.length + j)) = outcomes before ++ List.replicate j false := by
      rw [← failing,split,List.append_assoc,List.take_length_add_append,List.take_append_of_le_length (by omega)]
      simp [outcomes]
    have level := (self.policy nonempty).delay_turn (outcomes before) j fresh (by rw [turn] at low; exact low)
    rw [Policy.after_eq] at level
    cases sleeps : window[j].slept with
    | none =>
      have contra := failed window[j] member
      rw [Attempt.succeeded,sleeps] at contra
      cases contra
    | some seconds =>
      rw [slept seconds (by simp [sleeps]),stem]
      exact congrArg some level

/-- Without a priority endpoint the endpoints are attempted in cyclic order, a failure sleeps the
backoff of the complete turns of failures since the last success, every complete turn attempts each
endpoint once with one backoff, and a connection that has ended leaves the loop as it starts, at the
next endpoint. -/
theorem reconnect_policy (unprioritised : self.priorityEndpointIndex = none) (nonempty : self.endpoints ≠ [])
    (acts : List ConnectionAct) (final : ConnectionLoop)
    (reached : run self.step self.start acts = some final) :
    (∀ i attempt, (self.attempts acts)[i]? = some attempt →
      self.endpoints[i % self.endpoints.length]? = some attempt.endpoint ∧
        ∀ seconds ∈ attempt.slept, seconds =
          min (2 ^ (streak (outcomes ((self.attempts acts).take i)) / self.endpoints.length)) 30) ∧
    (∀ before window later, self.attempts acts = before ++ window ++ later →
      window.length = self.endpoints.length → (∀ attempt ∈ window, attempt.succeeded = false) →
      self.endpoints.length ∣ streak (outcomes before) →
      (window.map Attempt.endpoint).Perm self.endpoints ∧ ∀ attempt ∈ window,
        attempt.slept = some (min (2 ^ (streak (outcomes before) / self.endpoints.length)) 30)) ∧
    ((∃ before endpoint, self.attempts acts = before ++ [⟨endpoint,none⟩]) → final.phase = .choosing →
      final = { self.start with
        endpointIdx := (self.attempts acts).length % self.endpoints.length }) := by
  have follows := self.follows_run nonempty unprioritised acts final reached
  refine ⟨self.planned_at nonempty _ follows.planned,?_,?_⟩
  · intro before window later split turn failed fresh
    exact self.planned_turn nonempty _ before window later follows.planned split turn failed fresh
  · intro last point
    obtain ⟨before,endpoint,split⟩ := last
    have stands := follows.stands
    unfold Stands at stands
    rw [point] at stands
    dsimp only at stands
    rw [Policy.after_eq,split,outcomes_append,Attempt.succeeded,Option.isNone_none,streak_succeed] at stands
    obtain ⟨place,failures,delay⟩ := Counters.mk.inj stands
    rw [Nat.zero_mod] at failures
    rw [Nat.zero_div,Policy.delayAt_zero] at delay
    have flags := follows.forceSwitchFlag
    have using_ := follows.isUsingPriority
    have notified := follows.notified
    have checking := follows.checking
    cases final
    simp only [start,unprioritised] at *
    subst failures delay flags using_ notified checking point
    rw [place,split]
    simp [outcomes,policy,backoffBase]

/-- A turn of failures, a success and a disconnect. -/
theorem reconnect_two : ∃ final,
    run (step ⟨["ws://one:8546","ws://two:8546"],none,fun _ => true⟩)
      (start ⟨["ws://one:8546","ws://two:8546"],none,fun _ => true⟩)
      [.choose,.connectError,.wake,.choose,.connectError,.wake,.choose,.connectOk,.disconnect] = some final ∧
    final = { start ⟨["ws://one:8546","ws://two:8546"],none,fun _ => true⟩ with endpointIdx := 1 } := by
  refine ⟨_,rfl,?_⟩
  have policy := reconnect_policy ⟨["ws://one:8546","ws://two:8546"],none,fun _ => true⟩ rfl (by simp)
    [.choose,.connectError,.wake,.choose,.connectError,.wake,.choose,.connectOk,.disconnect] _ rfl
  exact policy.2.2 ⟨[⟨"ws://one:8546",some 1⟩,⟨"ws://two:8546",some 1⟩],"ws://one:8546",rfl⟩ rfl

end Connection

end Warpdrive.Trigger.EvmStream
