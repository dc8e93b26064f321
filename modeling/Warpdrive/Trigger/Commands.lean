import Warpdrive.Foundation.Execution
import Warpdrive.Trigger.Watcher

/-! `TriggerManager::add_service` and `remove_service` beside the watcher (`trigger.rs`). The
calls run concurrently, each up to its next command, wait or change of the lookup maps; their
commands travel to the watcher through one queue. Chains are configured at any time
(`http/handlers/chain/add.rs`), and the connections of the EVM controllers work on. -/
namespace Warpdrive.Trigger

open Warpdrive.Foundation Warpdrive.Types Warpdrive.Foundation.Execution

/-- What `add_service` does before it registers: it starts a chain, or waits for the
controller of a Stellar chain. -/
inductive Wait
  | start (chain : ChainKey)
  | controller (chain : ChainKey)
  deriving DecidableEq

/-- A call in progress: `add_service` before the registration, with the commands that it
will send after it; a call that has only its commands to send; `remove_service` after the
service has left the lookup maps. -/
inductive Call
  | adding (service : Service) (waits : List Wait) (commands : List TriggerCommand)
  | sending (commands : List TriggerCommand)
  | removing (serviceId : ServiceId)

namespace Call

/-- What a call has only to send. -/
def unsent : Call → List TriggerCommand
  | .sending commands => commands
  | _ => []

variable (prim : IdPrimitives)

def workflowCommands (chainConfigs : ChainConfigs) (service : Service) : List TriggerCommand :=
  (Lookup.serviceTriggers (service.id prim) service).flatMap
    (fun config => TriggerCommand.map config chainConfigs)

def stellarChainsToWaitFor (chainConfigs : ChainConfigs) (commands : List TriggerCommand) : HashSet ChainKey :=
  commands.foldl (fun chains command =>
    match command with
    | .startListeningChain chain =>
      match chainConfigs.getChain chain with
      | some (.stellar _) => chains.insert chain
      | _ => chains
    | _ => chains) .empty

def managerCommands (service : Service) : List TriggerCommand :=
  match service.manager with
  | .evm chain address => [.watchEvmContractEvents chain [address] [serviceUriUpdatedHash]]
  | .cosmos _ _ => []
  | .stellar chain address => [.watchStellarServiceUri (service.id prim) chain address]

/-- `add_service` with its snapshot of the chain configurations. -/
def addService (chainConfigs : ChainConfigs) (service : Service) : Call :=
  let workflowCommands := workflowCommands prim chainConfigs service
  let chains := (stellarChainsToWaitFor chainConfigs workflowCommands).toList
  .adding service (.start service.manager.chain :: chains.map .start ++ chains.map .controller)
    (managerCommands prim service ++ workflowCommands)

end Call

/-- The watcher, its command queue and the calls in progress. Kept beside them are the
managers of the registered services, the watch commands that found no controller or were
left out for a missing configuration, and for each handle that a service URI was watched
with the service and its project root. -/
structure System where
  watcher : Watcher
  queue : List TriggerCommand
  calls : HashMap Nat Call
  managers : HashMap ServiceId ServiceManager
  dropped : List TriggerCommand
  owners : ChainKey → StellarRpcId → Option (ServiceId × FixedBytes 32)

namespace System

inductive Act
  | addService (call : Nat) (service : Service)
  | removeService (call : Nat) (serviceId : ServiceId)
  | advance (call : Nat)
  | timeout (call : Nat)
  | addChain (key : ChainKey) (config : AnyChainConfig)
  | notify (chain : ChainKey)
  | process (connecting : Connecting)
  | connection (chain : ChainKey) (act : EvmStream.Act)

def new (chainConfigs : ChainConfigs) (disableNetworking : Bool) : System where
  watcher := (Manager.new chainConfigs disableNetworking).watch
  queue := []
  calls := .new
  managers := .new
  dropped := []
  owners _ _ := none

def setCall (self : System) (call : Nat) (state : Option Call) : System :=
  match state with
  | some state => {self with calls := self.calls.insert call state}
  | none => {self with calls := self.calls.remove call}

def setLookup (self : System) (lookup : Lookup) : System :=
  {self with watcher := self.watcher.sharing {self.watcher.toManager with lookup := lookup}}

def send (self : System) (command : TriggerCommand) : System :=
  {self with queue := self.queue ++ [command]}

/-- The block triggers of a service whose chain has no configuration, for which
`TriggerCommand::map` makes no command. -/
def unwatchedBlocks (chainConfigs : ChainConfigs) (service : Service) : List TriggerCommand :=
  service.workflows.entries.filterMap (fun entry =>
    match entry.2.trigger with
    | .blockInterval chain _ _ _ =>
      if (chainConfigs.getChain chain).isNone then some (.watchEvmBlocks chain) else none
    | _ => none)

/-- A watch command finds the controller of its chain. -/
def finds (self : Watcher) : TriggerCommand → Bool
  | .watchEvmBlocks chain => (self.evmControllers.get chain).isSome
  | .watchEvmContractEvents chain _ _ => (self.evmControllers.get chain).isSome
  | .watchStellarServiceUri _ chain _ => (self.lookup.stellarControllers.get chain).isSome
  | _ => true

/-- The handle that a watched service URI gets is its own. -/
def claimHandle (self : System) : TriggerCommand → ChainKey → StellarRpcId → Option (ServiceId × FixedBytes 32)
  | .watchStellarServiceUri serviceId chain projectRoot =>
    match self.watcher.lookup.stellarControllers.get chain with
    | some controller =>
      Function.update self.owners chain (Function.update (self.owners chain)
        controller.eventFilters.list.next (some (serviceId,projectRoot)))
    | none => self.owners
  | _ => self.owners

/-- The command is in the queue, or in a call that has only its commands to send. -/
def Pending (self : System) (command : TriggerCommand) : Prop :=
  command ∈ self.queue ∨ ∃ call commands, self.calls.get call = some (.sending commands) ∧ command ∈ commands

variable (cron : CronLib) (prim : IdPrimitives) (lib : EventLib)

def beginAdd (self : System) (call : Nat) (service : Service) : System :=
  let self := self.setCall call (some (.addService prim self.watcher.chainConfigs service))
  {self with dropped := self.dropped ++ unwatchedBlocks self.watcher.chainConfigs service}

def register (self : System) (call : Nat) (service : Service) (commands : List TriggerCommand) : System :=
  let (lookup,result) := self.watcher.lookup.addService cron prim service
  let self := self.setLookup lookup
  let self := {self with managers := self.managers.insert (service.id prim) service.manager}
  match result with
  | .ok () => self.setCall call (some (.sending commands))
  | .error _ => self.setCall call none

def unregister (self : System) (call : Nat) (serviceId : ServiceId) : System :=
  let (lookup,result) := self.watcher.lookup.removeService cron serviceId
  let self := self.setLookup lookup
  let self := {self with managers := self.managers.remove serviceId}
  match result with
  | .ok () => self.setCall call (some (.removing serviceId))
  | .error _ => self

def advance (self : System) (call : Nat) : Call → Option System
  | .adding service (.start chain::waits) commands =>
    some ((self.send (.startListeningChain chain)).setCall call (some (.adding service waits commands)))
  | .adding service (.controller chain::waits) commands =>
    if (self.watcher.lookup.stellarControllers.get chain).isSome then
      some (self.setCall call (some (.adding service waits commands)))
    else none
  | .adding service [] commands => some (self.register cron prim call service commands)
  | .sending (command::commands) =>
    some ((self.send command).setCall call (some (.sending commands)))
  | .sending [] => some (self.setCall call none)
  | .removing serviceId =>
    if (self.watcher.stellarUriSubscriptions.get serviceId).isSome then
      some (self.setCall call (some (.sending [.unwatchStellarServiceUri serviceId])))
    else some (self.setCall call none)

/-- The watcher takes the next command. A command that ends it has no next state. -/
def process (self : System) (connecting : Connecting) (command : TriggerCommand)
    (queue : List TriggerCommand) : Option System :=
  match self.watcher.onLocalCommand lib connecting command with
  | (watcher,.sent _) =>
    some {self with
      watcher := watcher
      queue := queue
      dropped := if finds self.watcher command then self.dropped else self.dropped ++ [command]
      owners := self.claimHandle command}
  | _ => none

/-- A step of the connection of an EVM controller, which makes no calls. -/
def connect (self : System) (chain : ChainKey) (act : EvmStream.Act) : Option System :=
  match act with
  | .call _ => none
  | act =>
    match self.watcher.evmControllers.get chain with
    | none => none
    | some client =>
      match client.step act with
      | none => none
      | some next =>
        some {self with watcher := self.watcher.sharing {self.watcher.toManager with
          evmControllers := self.watcher.evmControllers.insert chain next}}

def step (self : System) : Act → Option System
  | .addService call service =>
    if (self.calls.get call).isNone then some (self.beginAdd prim call service) else none
  | .removeService call serviceId =>
    if (self.calls.get call).isNone then some (self.unregister cron call serviceId) else none
  | .advance call =>
    match self.calls.get call with
    | none => none
    | some state => self.advance cron prim call state
  | .timeout call =>
    match self.calls.get call with
    | some (.adding _ (.controller chain::_) _) =>
      if (self.watcher.lookup.stellarControllers.get chain).isNone then some (self.setCall call none)
      else none
    | _ => none
  | .addChain key config =>
    match self.watcher.chainConfigs.addChain key config with
    | .error _ => some self
    | .ok chainConfigs =>
      some {self with watcher := self.watcher.sharing {self.watcher.toManager with chainConfigs}}
  | .notify chain => some (self.send (.startListeningChain chain))
  | .process connecting =>
    match self.queue with
    | [] => none
    | command::queue => self.process lib connecting command queue
  | .connection chain act => self.connect chain act

theorem calls_setCall (self : System) (call other : Nat) (state : Option Call) :
    (self.setCall call state).calls.get other = if other = call then state else self.calls.get other := by
  cases state with
  | none => exact HashMap.get_remove self.calls call other
  | some state => exact HashMap.get_insert self.calls call other state

@[simp] theorem watcher_setCall (self : System) (call : Nat) (state : Option Call) :
    (self.setCall call state).watcher = self.watcher := by
  cases state <;> rfl

@[simp] theorem queue_setCall (self : System) (call : Nat) (state : Option Call) :
    (self.setCall call state).queue = self.queue := by
  cases state <;> rfl

@[simp] theorem managers_setCall (self : System) (call : Nat) (state : Option Call) :
    (self.setCall call state).managers = self.managers := by
  cases state <;> rfl

@[simp] theorem dropped_setCall (self : System) (call : Nat) (state : Option Call) :
    (self.setCall call state).dropped = self.dropped := by
  cases state <;> rfl

@[simp] theorem owners_setCall (self : System) (call : Nat) (state : Option Call) :
    (self.setCall call state).owners = self.owners := by
  cases state <;> rfl

/-- What a step can do. -/
inductive Moves (self : System) : Act → System → Prop
  | begins (call : Nat) (service : Service) (free : self.calls.get call = none) :
      Moves self (.addService call service) (self.beginAdd prim call service)
  | starts (call : Nat) (service : Service) (chain : ChainKey) (waits : List Wait)
      (commands : List TriggerCommand)
      (current : self.calls.get call = some (.adding service (.start chain::waits) commands)) :
      Moves self (.advance call)
        ((self.send (.startListeningChain chain)).setCall call (some (.adding service waits commands)))
  | waits (call : Nat) (service : Service) (chain : ChainKey) (waits : List Wait)
      (commands : List TriggerCommand)
      (current : self.calls.get call = some (.adding service (.controller chain::waits) commands)) :
      Moves self (.advance call) (self.setCall call (some (.adding service waits commands)))
  | registers (call : Nat) (service : Service) (commands : List TriggerCommand)
      (current : self.calls.get call = some (.adding service [] commands)) :
      Moves self (.advance call) (self.register cron prim call service commands)
  | sends (call : Nat) (command : TriggerCommand) (commands : List TriggerCommand)
      (current : self.calls.get call = some (.sending (command::commands))) :
      Moves self (.advance call) ((self.send command).setCall call (some (.sending commands)))
  | returns (call : Nat) (current : self.calls.get call = some (.sending [])) :
      Moves self (.advance call) (self.setCall call none)
  | tracked (call : Nat) (serviceId : ServiceId) (current : self.calls.get call = some (.removing serviceId))
      (held : self.watcher.stellarUriSubscriptions.get serviceId ≠ none) :
      Moves self (.advance call)
        (self.setCall call (some (.sending [.unwatchStellarServiceUri serviceId])))
  | untracked (call : Nat) (serviceId : ServiceId) (current : self.calls.get call = some (.removing serviceId))
      (missing : self.watcher.stellarUriSubscriptions.get serviceId = none) :
      Moves self (.advance call) (self.setCall call none)
  | givesUp (call : Nat) (service : Service) (waits : List Wait) (commands : List TriggerCommand)
      (current : self.calls.get call = some (.adding service waits commands)) :
      Moves self (.timeout call) (self.setCall call none)
  | unregisters (call : Nat) (serviceId : ServiceId) (free : self.calls.get call = none) :
      Moves self (.removeService call serviceId) (self.unregister cron call serviceId)
  | configures (key : ChainKey) (config : AnyChainConfig) (chainConfigs : ChainConfigs)
      (added : self.watcher.chainConfigs.addChain key config = .ok chainConfigs) :
      Moves self (.addChain key config)
        {self with watcher := self.watcher.sharing {self.watcher.toManager with chainConfigs}}
  | refuses (key : ChainKey) (config : AnyChainConfig) : Moves self (.addChain key config) self
  | notifies (chain : ChainKey) : Moves self (.notify chain) (self.send (.startListeningChain chain))
  | processes (connecting : Connecting) (command : TriggerCommand) (queue : List TriggerCommand)
      (watcher : Watcher) (commands : List DispatcherCommand) (first : self.queue = command::queue)
      (handled : self.watcher.onLocalCommand lib connecting command = (watcher,.sent commands)) :
      Moves self (.process connecting) {self with
        watcher := watcher
        queue := queue
        dropped := if finds self.watcher command then self.dropped else self.dropped ++ [command]
        owners := self.claimHandle command}
  | connects (chain : ChainKey) (act : EvmStream.Act) (client next : EvmStream.Client)
      (quiet : ∀ call, act ≠ .call call) (found : self.watcher.evmControllers.get chain = some client)
      (taken : client.step act = some next) :
      Moves self (.connection chain act) {self with
        watcher := self.watcher.sharing {self.watcher.toManager with
          evmControllers := self.watcher.evmControllers.insert chain next}}

theorem moves (self next : System) (act : Act) (taken : self.step cron prim lib act = some next) :
    self.Moves cron prim lib act next := by
  cases act with
  | addService call service =>
    simp only [step] at taken
    split at taken
    · next free =>
      cases taken
      exact .begins call service (Option.isNone_iff_eq_none.mp free)
    · cases taken
  | removeService call serviceId =>
    simp only [step] at taken
    split at taken
    · next free =>
      cases taken
      exact .unregisters call serviceId (Option.isNone_iff_eq_none.mp free)
    · cases taken
  | advance call =>
    simp only [step] at taken
    split at taken
    · cases taken
    · next state current =>
      rcases state with ⟨service,_ | ⟨chain | chain,waits⟩,commands⟩ | ⟨_ | ⟨command,commands⟩⟩ | serviceId
      · cases taken
        exact .registers call service commands current
      · cases taken
        exact .starts call service chain waits commands current
      · simp only [advance] at taken
        split at taken
        · cases taken
          exact .waits call service chain waits commands current
        · cases taken
      · cases taken
        exact .returns call current
      · cases taken
        exact .sends call command commands current
      · simp only [advance] at taken
        split at taken
        · next held =>
          cases taken
          exact .tracked call serviceId current (Option.isSome_iff_ne_none.mp held)
        · next missing =>
          cases taken
          exact .untracked call serviceId current (by simpa using missing)
  | timeout call =>
    simp only [step] at taken
    split at taken
    · next service chain waits commands current =>
      split at taken
      · cases taken
        exact .givesUp call service _ commands current
      · cases taken
    · cases taken
  | addChain key config =>
    simp only [step] at taken
    split at taken
    · cases taken
      exact .refuses key config
    · next chainConfigs added =>
      cases taken
      exact .configures key config chainConfigs added
  | notify chain =>
    cases taken
    exact .notifies chain
  | process connecting =>
    simp only [step] at taken
    split at taken
    · cases taken
    · next command queue first =>
      unfold process at taken
      split at taken
      · next watcher commands handled =>
        cases taken
        exact .processes connecting command queue watcher commands first handled
      · cases taken
  | connection chain act =>
    simp only [step,connect] at taken
    split at taken
    · cases taken
    · next quiet =>
      split at taken
      · cases taken
      · next client found =>
        split at taken
        · cases taken
        · next after moved =>
          cases taken
          exact .connects chain act client after quiet found moved

end System
end Warpdrive.Trigger
