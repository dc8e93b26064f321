import Warpdrive.Foundation.Execution
import Warpdrive.Foundation.Retry

/-! The websocket connection of an EVM stream. The connection loop and the health check of the
priority endpoint are two tasks that share a flag and a notification. The steps are what the loop
does between two points where it waits and what the health check does at its ticks and answers. -/
namespace Warpdrive.Trigger.EvmStream

open Warpdrive.Foundation Warpdrive.Foundation.Execution

/-- The arguments of `Connection::new`. `newWs` is whether `EvmEndpoint::new_ws` accepts a url. -/
structure Connection where
  endpoints : List String
  priorityEndpointIndex : Option Nat
  newWs : String → Bool

inductive ConnectionPhase where
  | choosing
  | connecting (endpoint : String)
  | connected (endpoint : String)
  | sleeping
  | exited
  | panicked
deriving DecidableEq

/-- The variables of `connection_loop` and what it shares with the health check. `notified` says that
the loop waits and `notify_waiters` has been called, `checking` that a health query is not answered. -/
structure ConnectionLoop where
  endpointIdx : Nat
  currentBackoff : Nat
  failuresInCycle : Nat
  forceSwitchFlag : Bool
  isUsingPriority : Bool
  notified : Bool
  checking : Bool
  phase : ConnectionPhase
deriving DecidableEq

inductive ConnectionAct where
  | choose
  | connectError
  | connectOk
  | wake
  | message
  | forceSwitch
  | disconnect
  | healthTick
  | healthAnswer (healthy : Bool)
  | shutdown

namespace Connection

/-- In seconds. -/
def backoffBase : Nat := 1

def backoffCap : Nat := 30

def start (self : Connection) : ConnectionLoop :=
  ⟨0,backoffBase,0,self.priorityEndpointIndex.isSome,false,false,false,.choosing⟩

/-- The index that the loop takes, with the force switch request honored. -/
def honored (self : Connection) (loop : ConnectionLoop) : Nat :=
  match self.priorityEndpointIndex with
  | some priorityIndex => if loop.forceSwitchFlag then priorityIndex else loop.endpointIdx
  | none => loop.endpointIdx

/-- Indexing past the endpoints panics. -/
def choose (self : Connection) (loop : ConnectionLoop) : ConnectionLoop :=
  match self.endpoints[self.honored loop]? with
  | some endpoint =>
    { loop with
      endpointIdx := self.honored loop
      phase := .connecting endpoint }
  | none =>
    { loop with
      endpointIdx := self.honored loop
      phase := .panicked }

def onConnected (self : Connection) (loop : ConnectionLoop) (endpoint : String) : ConnectionLoop :=
  let usingPriority := self.priorityEndpointIndex == some loop.endpointIdx
  { loop with
    currentBackoff := backoffBase
    failuresInCycle := 0
    isUsingPriority := usingPriority
    forceSwitchFlag := if usingPriority then false else loop.forceSwitchFlag
    phase := .connected endpoint }

def onConnectError (self : Connection) (loop : ConnectionLoop) : ConnectionLoop :=
  let failedPriority := self.priorityEndpointIndex == some loop.endpointIdx
  { loop with
    forceSwitchFlag := if failedPriority then false else loop.forceSwitchFlag
    isUsingPriority := if failedPriority then false else loop.isUsingPriority
    failuresInCycle := loop.failuresInCycle + 1
    endpointIdx := (loop.endpointIdx + 1) % self.endpoints.length
    phase := .sleeping }

def onAwake (self : Connection) (loop : ConnectionLoop) : ConnectionLoop :=
  if self.endpoints.length ≤ loop.failuresInCycle then
    { loop with
      currentBackoff := min (loop.currentBackoff * 2) backoffCap
      failuresInCycle := 0
      phase := .choosing }
  else { loop with phase := .choosing }

/-- The branch of `force_switch_notify.notified()`. -/
def onNotified (self : Connection) (loop : ConnectionLoop) : ConnectionLoop :=
  match self.priorityEndpointIndex with
  | some priorityIndex =>
    if loop.forceSwitchFlag && !loop.isUsingPriority then
      { loop with
        endpointIdx := priorityIndex
        currentBackoff := backoffBase
        failuresInCycle := 0
        isUsingPriority := false
        notified := false
        phase := .choosing }
    else { loop with notified := false }
  | none => { loop with notified := false }

def onDisconnected (self : Connection) (loop : ConnectionLoop) : ConnectionLoop :=
  { loop with
    endpointIdx := (loop.endpointIdx + 1) % self.endpoints.length
    isUsingPriority := false
    notified := false
    phase := .choosing }

/-- Whether `Connection::new` spawns the health check. -/
def healthChecked (self : Connection) : Bool :=
  match self.priorityEndpointIndex with
  | some priorityIndex => self.endpoints[priorityIndex]?.any self.newWs
  | none => false

def onHealth (loop : ConnectionLoop) (healthy : Bool) : ConnectionLoop :=
  let notifies := healthy && !loop.forceSwitchFlag && loop.phase matches .connected _
  { loop with
    forceSwitchFlag := loop.forceSwitchFlag || healthy
    notified := loop.notified || notifies
    checking := false }

def step (self : Connection) (loop : ConnectionLoop) (act : ConnectionAct) : Option ConnectionLoop :=
  match act,loop.phase with
  | .choose,.choosing => some (self.choose loop)
  | .connectError,.connecting _ => some (self.onConnectError loop)
  | .connectOk,.connecting endpoint => some (self.onConnected loop endpoint)
  | .wake,.sleeping => some (self.onAwake loop)
  -- a notification that is ready together with a message is lost with its future
  | .message,.connected _ => some { loop with notified := false }
  | .forceSwitch,.connected _ => if loop.notified then some (self.onNotified loop) else none
  | .disconnect,.connected _ => some (self.onDisconnected loop)
  | .shutdown,.choosing => some { loop with phase := .exited }
  | .shutdown,.connecting _ => some { loop with phase := .exited }
  | .shutdown,.connected _ => some { loop with phase := .exited }
  | .healthTick,_ =>
    if self.healthChecked && !loop.checking then some { loop with checking := !loop.isUsingPriority } else none
  | .healthAnswer healthy,_ => if loop.checking then some (onHealth loop healthy) else none
  | _,_ => none

/-- What a step does, with the point of the loop at which it does it. -/
inductive Moves (self : Connection) (loop : ConnectionLoop) : ConnectionAct → ConnectionLoop → Prop where
  | choose (point : loop.phase = .choosing) : Moves self loop .choose (self.choose loop)
  | connectError (endpoint : String) (point : loop.phase = .connecting endpoint) :
    Moves self loop .connectError (self.onConnectError loop)
  | connectOk (endpoint : String) (point : loop.phase = .connecting endpoint) :
    Moves self loop .connectOk (self.onConnected loop endpoint)
  | wake (point : loop.phase = .sleeping) : Moves self loop .wake (self.onAwake loop)
  | message (endpoint : String) (point : loop.phase = .connected endpoint) :
    Moves self loop .message { loop with notified := false }
  | forceSwitch (endpoint : String) (point : loop.phase = .connected endpoint) (notified : loop.notified = true) :
    Moves self loop .forceSwitch (self.onNotified loop)
  | disconnect (endpoint : String) (point : loop.phase = .connected endpoint) :
    Moves self loop .disconnect (self.onDisconnected loop)
  | shutdown : Moves self loop .shutdown { loop with phase := .exited }
  | healthTick (checked : self.healthChecked = true) :
    Moves self loop .healthTick { loop with checking := !loop.isUsingPriority }
  | healthAnswer (healthy : Bool) (checking : loop.checking = true) :
    Moves self loop (.healthAnswer healthy) (onHealth loop healthy)

theorem moves_of_step (self : Connection) (loop next : ConnectionLoop) (act : ConnectionAct)
    (taken : self.step loop act = some next) : Moves self loop act next := by
  unfold step at taken
  split at taken
  next point => cases taken; exact .choose point
  next endpoint point => cases taken; exact .connectError endpoint point
  next endpoint point => cases taken; exact .connectOk endpoint point
  next point => cases taken; exact .wake point
  next endpoint point => cases taken; exact .message endpoint point
  next endpoint point =>
    split at taken
    next notified => cases taken; exact .forceSwitch endpoint point notified
    next => cases taken
  next endpoint point => cases taken; exact .disconnect endpoint point
  next => cases taken; exact .shutdown
  next => cases taken; exact .shutdown
  next => cases taken; exact .shutdown
  next =>
    split at taken
    next ticks =>
      cases taken
      exact .healthTick (by simp at ticks; exact ticks.1)
    next => cases taken
  next healthy =>
    split at taken
    next checking => cases taken; exact .healthAnswer _ checking
    next => cases taken
  next => cases taken

structure Safe (connection : Connection) (loop : ConnectionLoop) : Prop where
  indexes : loop.phase = .choosing → connection.honored loop < connection.endpoints.length
  running : loop.phase ≠ .panicked

structure InRange (connection : Connection) (loop : ConnectionLoop) : Prop where
  endpointIdx : loop.endpointIdx < connection.endpoints.length
  running : loop.phase ≠ .panicked

theorem honored_lt (self : Connection) (loop : ConnectionLoop)
    (within : ∀ priorityIndex ∈ self.priorityEndpointIndex, priorityIndex < self.endpoints.length)
    (low : loop.endpointIdx < self.endpoints.length) : self.honored loop < self.endpoints.length := by
  unfold honored
  split
  next priorityIndex configured =>
    split
    · exact within priorityIndex configured
    · exact low
  next => exact low

theorem choose_of_lt (self : Connection) (loop : ConnectionLoop) (low : self.honored loop < self.endpoints.length) :
    self.choose loop =
      { loop with
        endpointIdx := self.honored loop
        phase := .connecting self.endpoints[self.honored loop] } := by
  simp [choose,low]

theorem inRange_step (self : Connection)
    (within : ∀ priorityIndex ∈ self.priorityEndpointIndex, priorityIndex < self.endpoints.length)
    (loop next : ConnectionLoop) (act : ConnectionAct) (taken : self.step loop act = some next)
    (inRange : self.InRange loop) : self.InRange next := by
  obtain ⟨low,running⟩ := inRange
  have wraps : (loop.endpointIdx + 1) % self.endpoints.length < self.endpoints.length :=
    Nat.mod_lt _ (by omega)
  cases self.moves_of_step loop next act taken with
  | choose point =>
    have chosen := self.honored_lt loop within low
    rw [choose_of_lt self loop chosen]
    exact ⟨chosen,by simp⟩
  | connectError endpoint point => exact ⟨wraps,by simp [onConnectError]⟩
  | connectOk endpoint point => exact ⟨low,by simp [onConnected]⟩
  | wake point =>
    unfold onAwake
    split
    · exact ⟨low,by simp⟩
    · exact ⟨low,by simp⟩
  | message endpoint point => exact ⟨low,running⟩
  | forceSwitch endpoint point notified =>
    unfold onNotified
    split
    next priorityIndex configured =>
      split
      · exact ⟨within priorityIndex configured,by simp⟩
      · exact ⟨low,running⟩
    next => exact ⟨low,running⟩
  | disconnect endpoint point => exact ⟨wraps,by simp [onDisconnected]⟩
  | shutdown => exact ⟨low,by simp⟩
  | healthTick checked => exact ⟨low,running⟩
  | healthAnswer healthy checking => exact ⟨low,running⟩

theorem safe_of_inRange (self : Connection)
    (within : ∀ priorityIndex ∈ self.priorityEndpointIndex, priorityIndex < self.endpoints.length)
    (loop : ConnectionLoop) (inRange : self.InRange loop) : self.Safe loop :=
  ⟨fun _ => self.honored_lt loop within inRange.endpointIdx,inRange.running⟩

/-- With an endpoint, the loop is safe along every run exactly when the configured index is one of an
endpoint. The force switch flag is set from the start, so an index past the end is used at once. -/
theorem safe_iff (self : Connection) (nonempty : self.endpoints ≠ []) :
    (∀ acts loop, run self.step self.start acts = some loop → self.Safe loop) ↔
      ∀ priorityIndex ∈ self.priorityEndpointIndex, priorityIndex < self.endpoints.length := by
  constructor
  · intro safe priorityIndex configured
    have initial := safe [] self.start rfl
    have flagged : self.honored self.start = priorityIndex := by
      simp only [Option.mem_def] at configured
      simp [honored,start,configured]
    rw [← flagged]
    exact initial.indexes rfl
  · intro within acts loop reached
    have inRange := invariant self.InRange
      (fun loop act next taken inRange => self.inRange_step within loop next act taken inRange)
      self.start loop acts reached ⟨List.length_pos_of_ne_nil nonempty,by simp [start]⟩
    exact self.safe_of_inRange within loop inRange

def secondOfTwo : Connection := ⟨["ws://one:8546","ws://two:8546"],some 1,fun _ => true⟩

theorem safe_two : secondOfTwo.endpoints ≠ [] ∧
    ((∀ acts loop, run secondOfTwo.step secondOfTwo.start acts = some loop → secondOfTwo.Safe loop) ↔
      ∀ priorityIndex ∈ secondOfTwo.priorityEndpointIndex, priorityIndex < secondOfTwo.endpoints.length) :=
  ⟨by decide,safe_iff secondOfTwo (by decide)⟩

/-- The second endpoint is preferred and there is one only. -/
def outside : Connection := ⟨["ws://one:8546"],some 1,fun _ => true⟩

theorem outside_panics : ¬∀ acts loop, run outside.step outside.start acts = some loop → outside.Safe loop := by
  intro safe
  have chosen := safe [.choose] (outside.choose outside.start) (by decide)
  exact chosen.running (by decide)

end Connection

end Warpdrive.Trigger.EvmStream
