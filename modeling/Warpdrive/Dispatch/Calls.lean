import Warpdrive.Dispatch.Services
import Warpdrive.Trigger.Commands

/-! The calls of the dispatcher that add, change and remove a service (`dispatcher.rs`), with what
the trigger manager does in them (`subsystems/trigger.rs`). Each call is the sequence of its
fallible steps over the five stores it writes. What the outside decides on the way, from the
answer of a chain to the write of a file, is given with the call as its `Outcomes`. -/
namespace Warpdrive.Dispatch

open Warpdrive.Foundation Warpdrive.Types Warpdrive.Trigger

structure EngineError where
  reason : String
  deriving DecidableEq

/-- `RpcError<TransportErrorKind>`: the node answers with an error, or no answer is had. -/
inductive TransportError
  | errorResp (code : Int) (message : String)
  | nullResp
  | serError (reason : String)
  | deserError (reason : String)
  | transport (reason : String)
  deriving DecidableEq

/-- `alloy_contract::Error`. -/
inductive AlloyContractError
  | unknownFunction (name : String)
  | unknownSelector (selector : FixedBytes 4)
  | notADeploymentTransaction
  | contractNotDeployed
  | zeroData (function reason : String)
  | abiError (reason : String)
  | transportError (error : TransportError)
  | pendingTransactionError (reason : String)
  deriving DecidableEq

inductive DispatcherError
  | serviceRegistered (id : ServiceId)
  | uriCreation (text : String)
  | unknownService (error : ServicesError)
  | engine (error : EngineError)
  | trigger (error : TriggerError)
  | submission (error : SubmissionError)
  | alloyContract (error : AlloyContractError)
  | config (text : String)
  | changeIdMismatch (oldId newId : ServiceId)
  | fetchService (reason : String)
  | service (reason : String)
  | addressConversion (reason : String)
  | cosmosQuery (reason : String)
  | registry (error : RegistryError)
  deriving DecidableEq

inductive AggregatorCommand
  | subscribeService (id : ServiceId)
  | unsubscribeService (id : ServiceId)
  deriving DecidableEq

/-- The last command about a service subscribes it. -/
def Subscribed (commands : List AggregatorCommand) (id : ServiceId) : Bool :=
  commands.foldl (fun subscribed command =>
    match command with
    | .subscribeService other => if other = id then true else subscribed
    | .unsubscribeService other => if other = id then false else subscribed) false

theorem subscribed_subscribe (commands : List AggregatorCommand) (id other : ServiceId) :
    Subscribed (commands ++ [.subscribeService id]) other = if id = other then true else Subscribed commands other := by
  simp only [Subscribed,List.foldl_append,List.foldl_cons,List.foldl_nil]

theorem subscribed_unsubscribe (commands : List AggregatorCommand) (id other : ServiceId) :
    Subscribed (commands ++ [.unsubscribeService id]) other =
      if id = other then false else Subscribed commands other := by
  simp only [Subscribed,List.foldl_append,List.foldl_cons,List.foldl_nil]

/-- The trigger manager as the dispatcher calls it, with the commands it has sent to the watcher. -/
structure TriggerManager extends Manager where
  commands : List TriggerCommand

/-- What the outside decides during one call: the writes of the registry file, the download of a
component, the hash of a definition, the answers of a Stellar project root, the controllers that
the watcher connects while the call waits for them, and how many commands the watcher still
takes (all, when it does not end). -/
structure Outcomes where
  appendWrite : Except RegistryError Unit
  removeWrite : Except RegistryError Unit
  storeComponentFromSource : ComponentSource → Except EngineError Unit
  hash : Service → Except String Unit
  projectRoot : ProjectRoot
  connected : List (ChainKey × StellarStreamController)
  unwatchTaken : Option Nat
  taken : Option Nat

namespace TriggerManager

/-- Sends to the watcher. The sends fail from the command on that the watcher does not take. -/
def sendAll (taken : Option Nat) (commands : List TriggerCommand) :
    Attempt TriggerManager TriggerError (Option Nat) := fun self =>
  match taken with
  | none => ({self with commands := self.commands ++ commands},.ok none)
  | some room =>
    if commands.length ≤ room then
      ({self with commands := self.commands ++ commands},.ok (some (room - commands.length)))
    else ({self with commands := self.commands ++ commands.take room},.error .localCommandError)

/-- The watcher registers the controller of a chain, where it has none. -/
def connect (chain : ChainKey) (controller : StellarStreamController) (self : TriggerManager) : TriggerManager :=
  if (self.lookup.stellarControllers.get chain).isSome then self
  else {self with toManager := self.setStellarControllers (self.lookup.stellarControllers.insert chain controller)}

def connectAll (connected : List (ChainKey × StellarStreamController)) (self : TriggerManager) : TriggerManager :=
  connected.foldl (fun self entry => self.connect entry.1 entry.2) self

def setLookup (self : TriggerManager) (lookup : Lookup) : TriggerManager :=
  {self with toManager := {self.toManager with lookup := lookup}}

def onLookup (call : Attempt Lookup TriggerError Unit) : Attempt TriggerManager TriggerError Unit :=
  .within (fun self => self.lookup) (fun lookup self => self.setLookup lookup) id call

/-- The first of these chains that has no controller yet. -/
def unconnected (self : TriggerManager) (chains : List ChainKey) : Option ChainKey :=
  chains.find? (fun chain => (self.lookup.stellarControllers.get chain).isNone)

section Add

variable (cron : CronLib) (prim : IdPrimitives)

/-- The Stellar chains that `add_service` waits for. -/
def chainsToWaitFor (chainConfigs : ChainConfigs) (service : Service) : List ChainKey :=
  (Call.stellarChainsToWaitFor chainConfigs (Call.workflowCommands prim chainConfigs service)).toList

/-- `add_service` up to the wait for the controllers. -/
def startChains (taken : Option Nat) (service : Service) : Attempt TriggerManager TriggerError (Option Nat) := do
  let chains ← .reads (fun self => chainsToWaitFor prim self.chainConfigs service)
  sendAll taken ((service.manager.chain :: chains).map .startListeningChain)

/-- The end of the wait: every controller is there, or the time for one is up. -/
def awaitControllers (service : Service) : Attempt TriggerManager TriggerError Unit :=
  .checks (fun self =>
    match self.unconnected (chainsToWaitFor prim self.chainConfigs service) with
    | none => .ok ()
    | some chain => .error (.stellarMissingClient chain))

/-- `add_service` from the registration in the lookup maps on. -/
def register (taken : Option Nat) (service : Service) : Attempt TriggerManager TriggerError Unit := do
  onLookup (fun lookup => lookup.addService cron prim service)
  let commands ← .reads (fun self => Call.workflowCommands prim self.chainConfigs service)
  let taken ← sendAll taken (Call.managerCommands prim service)
  let _ ← sendAll taken commands

def addService (outcomes : Outcomes) (service : Service) : Attempt TriggerManager TriggerError Unit := do
  let taken ← startChains prim outcomes.taken service
  .changes (connectAll outcomes.connected)
  awaitControllers prim service
  register cron prim taken service

def removeService (taken : Option Nat) (id : ServiceId) : Attempt TriggerManager TriggerError Unit := do
  onLookup (fun lookup => lookup.removeService cron id)
  let watched ← .reads (fun self => (self.stellarUriSubscriptions.get id).isSome)
  if watched then
    let _ ← sendAll taken [.unwatchStellarServiceUri id]
  else pure ()

end Add

/-- The watcher takes all of these commands. -/
def Takes (taken : Option Nat) (commands : List TriggerCommand) : Prop :=
  ∀ room, taken = some room → commands.length ≤ room

theorem sendAll_cases (taken : Option Nat) (commands : List TriggerCommand) (self : TriggerManager) :
    (∃ after, sendAll taken commands self = (after,.error .localCommandError) ∧
        after.toManager = self.toManager ∧ ¬Takes taken commands) ∨
      ∃ after, sendAll taken commands self = (after,.ok (taken.map (fun room => room - commands.length))) ∧
        after.toManager = self.toManager ∧ Takes taken commands := by
  unfold sendAll
  cases taken with
  | none => exact .inr ⟨_,rfl,rfl,nofun⟩
  | some room =>
    by_cases fits : commands.length ≤ room
    · refine .inr ⟨_,if_pos fits,rfl,?_⟩
      intro other same
      cases same
      exact fits
    · exact .inl ⟨_,if_neg fits,rfl,fun takes => fits (takes room rfl)⟩

theorem takes_append (taken : Option Nat) (first second : List TriggerCommand) :
    Takes taken (first ++ second) ↔
      Takes taken first ∧ Takes (taken.map (fun room => room - first.length)) second := by
  unfold Takes
  cases taken with
  | none => simp
  | some room =>
    simp only [Option.some.injEq,Option.map_some,forall_eq',List.length_append]
    omega

theorem get_connect (self : TriggerManager) (chain other : ChainKey) (controller : StellarStreamController) :
    (self.connect chain controller).lookup.stellarControllers.get other = none ↔
      self.lookup.stellarControllers.get other = none ∧ other ≠ chain := by
  unfold connect
  split
  · next present =>
    refine ⟨fun absent => ⟨absent,?_⟩,And.left⟩
    rintro rfl
    rw [absent] at present
    cases present
  · simp only [Manager.setStellarControllers,HashMap.get_insert]
    by_cases same : other = chain
    · simp [same]
    · simp [same]

/-- After connecting, a chain has a controller when it had one or one came up. -/
theorem get_connectAll (connected : List (ChainKey × StellarStreamController)) (self : TriggerManager)
    (chain : ChainKey) : (self.connectAll connected).lookup.stellarControllers.get chain = none ↔
      self.lookup.stellarControllers.get chain = none ∧ chain ∉ connected.map Prod.fst := by
  unfold connectAll
  induction connected generalizing self with
  | nil => simp
  | cons entry rest ih =>
    rw [List.foldl_cons,ih,get_connect,List.map_cons,List.mem_cons,not_or,and_assoc]

theorem maps_connect (self : TriggerManager) (chain : ChainKey) (controller : StellarStreamController) :
    (self.connect chain controller).lookup.toLookupMaps = self.lookup.toLookupMaps ∧
      (self.connect chain controller).chainConfigs = self.chainConfigs := by
  unfold connect
  split <;> exact ⟨rfl,rfl⟩

/-- A controller that is there stays. -/
theorem kept_connect (self : TriggerManager) (on : ChainKey) (new : StellarStreamController) (chain : ChainKey)
    (controller : StellarStreamController) (found : self.lookup.stellarControllers.get chain = some controller) :
    (self.connect on new).lookup.stellarControllers.get chain = some controller := by
  unfold connect
  split
  · exact found
  · next absent =>
    have apart : chain ≠ on := by
      rintro rfl
      rw [found] at absent
      exact absent rfl
    simp only [Manager.setStellarControllers,HashMap.get_insert_ne _ _ _ _ apart]
    exact found

theorem kept_connectAll (connected : List (ChainKey × StellarStreamController)) (self : TriggerManager)
    (chain : ChainKey) (controller : StellarStreamController)
    (found : self.lookup.stellarControllers.get chain = some controller) :
    (self.connectAll connected).lookup.stellarControllers.get chain = some controller := by
  unfold connectAll
  induction connected generalizing self with
  | nil => exact found
  | cons entry rest ih => exact ih _ (self.kept_connect entry.1 entry.2 chain controller found)

theorem maps_connectAll (connected : List (ChainKey × StellarStreamController)) (self : TriggerManager) :
    (self.connectAll connected).lookup.toLookupMaps = self.lookup.toLookupMaps ∧
      (self.connectAll connected).chainConfigs = self.chainConfigs := by
  unfold connectAll
  induction connected generalizing self with
  | nil => exact ⟨rfl,rfl⟩
  | cons entry rest ih =>
    obtain ⟨maps,configs⟩ := ih (self.connect entry.1 entry.2)
    obtain ⟨first,same⟩ := self.maps_connect entry.1 entry.2
    exact ⟨maps.trans first,configs.trans same⟩

theorem manager_connectAll (connected : List (ChainKey × StellarStreamController)) (self other : TriggerManager)
    (same : other.toManager = self.toManager) :
    (other.connectAll connected).toManager = (self.connectAll connected).toManager := by
  unfold connectAll
  induction connected generalizing self other with
  | nil => exact same
  | cons entry rest ih =>
    apply ih
    simp only [connect,same]
    split
    · exact same
    · rfl

theorem unconnected_eq_none (self : TriggerManager) (chains : List ChainKey) :
    self.unconnected chains = none ↔ ∀ chain ∈ chains, self.lookup.stellarControllers.get chain ≠ none := by
  simp [unconnected,Option.isNone_iff_eq_none]

section Add

variable (cron : CronLib) (prim : IdPrimitives)

/-- Every command that `add_service` sends. -/
def addCommands (chainConfigs : ChainConfigs) (service : Service) : List TriggerCommand :=
  (service.manager.chain :: chainsToWaitFor prim chainConfigs service).map .startListeningChain ++
    (Call.managerCommands prim service ++ Call.workflowCommands prim chainConfigs service)

/-- `register` succeeds exactly when the lookup maps add the service and the watcher takes the
commands, and it fails without them. -/
theorem register_ok (taken : Option Nat) (service : Service) (self : TriggerManager) :
    ((register cron prim taken service self).2 = .ok () ↔
        (self.lookup.addService cron prim service).2 = .ok () ∧
        Takes taken (Call.managerCommands prim service ++ Call.workflowCommands prim self.chainConfigs service)) ∧
      (register cron prim taken service self).1.toManager =
        {self.toManager with lookup := (self.lookup.addService cron prim service).1} := by
  rw [takes_append]
  cases added : self.lookup.addService cron prim service with
  | mk lookup outcome =>
    cases outcome with
    | error error =>
      have stopped : onLookup (fun lookup => lookup.addService cron prim service) self =
          (self.setLookup lookup,.error error) := by
        simp [onLookup,Attempt.within,added,Except.mapError]
      rw [register,Attempt.bind_of_error _ _ _ _ _ stopped]
      exact ⟨by simp,rfl⟩
    | ok done =>
      have moved : onLookup (fun lookup => lookup.addService cron prim service) self =
          (self.setLookup lookup,.ok ()) := by
        simp [onLookup,Attempt.within,added,Except.mapError]
      have configs : (self.setLookup lookup).chainConfigs = self.chainConfigs := rfl
      rw [register,Attempt.bind_of_ok _ _ _ _ _ moved,Attempt.bind_of_ok _ _ _ _ _ (Attempt.reads_run _ _),configs]
      rcases sendAll_cases taken (Call.managerCommands prim service) (self.setLookup lookup) with
        ⟨after,failed,same,refused⟩ | ⟨middle,sent,first,takes⟩
      · rw [Attempt.bind_of_error _ _ _ _ _ failed]
        exact ⟨by simp [refused],same⟩
      rw [Attempt.bind_of_ok _ _ _ _ _ sent]
      rcases sendAll_cases (taken.map (fun room => room - (Call.managerCommands prim service).length))
          (Call.workflowCommands prim self.chainConfigs service) middle with
        ⟨after,failed,same,refused⟩ | ⟨after,again,same,more⟩
      · rw [Attempt.bind_of_error _ _ _ _ _ failed]
        exact ⟨by simp [refused],same.trans first⟩
      · rw [Attempt.bind_of_ok _ _ _ _ _ again]
        exact ⟨by simp [takes,more],same.trans first⟩

/-- `add_service` succeeds exactly when the watcher takes its commands, the controllers it waits for
come up and the lookup maps accept its triggers. -/
theorem addService_ok (outcomes : Outcomes) (service : Service) (self : TriggerManager) :
    ((addService cron prim outcomes service self).2 = .ok () ↔
        Takes outcomes.taken (addCommands prim self.chainConfigs service) ∧
        (self.connectAll outcomes.connected).unconnected (chainsToWaitFor prim self.chainConfigs service) = none ∧
        ((self.connectAll outcomes.connected).lookup.addService cron prim service).2 = .ok ()) ∧
      ((addService cron prim outcomes service self).2 = .ok () →
        (addService cron prim outcomes service self).1.lookup =
          ((self.connectAll outcomes.connected).lookup.addService cron prim service).1 ∧
        (addService cron prim outcomes service self).1.chainConfigs = self.chainConfigs) := by
  rw [addCommands,takes_append]
  have start : startChains prim outcomes.taken service self = sendAll outcomes.taken
      ((service.manager.chain :: chainsToWaitFor prim self.chainConfigs service).map .startListeningChain) self := rfl
  rcases sendAll_cases outcomes.taken ((service.manager.chain ::
      chainsToWaitFor prim self.chainConfigs service).map .startListeningChain) self with
    ⟨after,failed,_,refused⟩ | ⟨middle,sent,same,takes⟩
  · rw [addService,Attempt.bind_of_error _ _ _ _ _ (start.trans failed)]
    exact ⟨iff_of_false (fun impossible => nomatch impossible) (fun claim => refused claim.1.1),
      fun impossible => nomatch impossible⟩
  have joined := manager_connectAll outcomes.connected self middle same
  obtain ⟨_,configs⟩ := maps_connectAll outcomes.connected self
  have configs' : (middle.connectAll outcomes.connected).chainConfigs = self.chainConfigs := by
    rw [joined]
    exact configs
  have chains : (middle.connectAll outcomes.connected).unconnected (chainsToWaitFor prim self.chainConfigs service) =
      (self.connectAll outcomes.connected).unconnected (chainsToWaitFor prim self.chainConfigs service) := by
    unfold unconnected
    rw [joined]
  rw [addService,Attempt.bind_of_ok _ _ _ _ _ (start.trans sent),
    Attempt.bind_of_ok _ _ _ _ _ (Attempt.changes_run _ _)]
  cases waiting : (self.connectAll outcomes.connected).unconnected
      (chainsToWaitFor prim self.chainConfigs service) with
  | some chain =>
    have stopped : awaitControllers prim service (middle.connectAll outcomes.connected) =
        (middle.connectAll outcomes.connected,.error (.stellarMissingClient chain)) := by
      rw [awaitControllers,Attempt.checks_run,configs',chains,waiting]
    rw [Attempt.bind_of_error _ _ _ _ _ stopped]
    exact ⟨iff_of_false (fun impossible => nomatch impossible) (fun claim => nomatch claim.2.1),
      fun impossible => nomatch impossible⟩
  | none =>
    have passed : awaitControllers prim service (middle.connectAll outcomes.connected) =
        (middle.connectAll outcomes.connected,.ok ()) := by
      rw [awaitControllers,Attempt.checks_run,configs',chains,waiting]
    rw [Attempt.bind_of_ok _ _ _ _ _ passed]
    obtain ⟨ok,manager⟩ := register_ok cron prim (outcomes.taken.map (fun room => room -
      ((service.manager.chain :: chainsToWaitFor prim self.chainConfigs service).map
        TriggerCommand.startListeningChain).length)) service (middle.connectAll outcomes.connected)
    rw [configs',joined] at ok
    rw [ok,manager,joined]
    refine ⟨?_,fun _ => ⟨rfl,configs⟩⟩
    constructor
    · rintro ⟨added,more⟩
      exact ⟨⟨takes,more⟩,rfl,added⟩
    · rintro ⟨⟨_,more⟩,_,added⟩
      exact ⟨added,more⟩

end Add
end TriggerManager

/-- The stores of the dispatcher, and the commands it has sent to the aggregator. -/
structure Dispatcher where
  services : Services
  serviceRegistry : ServiceRegistry
  submissionManager : SubmissionManager
  triggerManager : TriggerManager
  aggregatorCommands : List AggregatorCommand

/-- `store_components_for_service`: the components of the workflows in turn, each with the
aggregator component of its submit. -/
def storeComponentsForService (store : ComponentSource → Except EngineError Unit) (service : Service) :
    Except EngineError Unit :=
  service.workflows.entries.forM (fun entry => do
    store entry.2.component.source
    match entry.2.submit with
    | .aggregator component => store component.source
    | .none => pure ())

namespace Dispatcher

abbrev Call := Attempt Dispatcher DispatcherError

def onServices {A : Type} (call : Attempt Services ServicesError A) : Call A :=
  .within services (fun part self => {self with services := part}) .unknownService call

def onRegistry {A : Type} (call : Attempt ServiceRegistry RegistryError A) : Call A :=
  .within serviceRegistry (fun part self => {self with serviceRegistry := part}) .registry call

def onSubmissions {A : Type} (call : Attempt SubmissionManager SubmissionError A) : Call A :=
  .within submissionManager (fun part self => {self with submissionManager := part}) .submission call

def onTriggers {A : Type} (call : Attempt TriggerManager TriggerError A) : Call A :=
  .within triggerManager (fun part self => {self with triggerManager := part}) .trigger call

def send (command : AggregatorCommand) (self : Dispatcher) : Dispatcher :=
  {self with aggregatorCommands := self.aggregatorCommands ++ [command]}

def storeComponents (outcomes : Outcomes) (service : Service) : Call Unit :=
  .checks (fun _ => (storeComponentsForService outcomes.storeComponentFromSource service).mapError .engine)

variable (cron : CronLib) (prim : IdPrimitives) (mnemonic : Mnemonic)

def addServiceKey (id : ServiceId) (hdIndex : Option UInt32) : Call Unit := do
  let services ← .reads services
  onSubmissions (SubmissionManager.addServiceKey mnemonic services id hdIndex)

def saveService (outcomes : Outcomes) (service : Service) : Call Unit := do
  let chainConfigs ← .reads (fun self => self.triggerManager.chainConfigs)
  onServices (Services.save prim chainConfigs outcomes.projectRoot service)

def addServiceToManagers (outcomes : Outcomes) (service : Service) (hdIndex : Option UInt32) : Call Unit := do
  addServiceKey mnemonic (service.id prim) hdIndex
  onTriggers (TriggerManager.addService cron prim outcomes service)
  .changes (send (.subscribeService (service.id prim)))

def addServiceDirect (outcomes : Outcomes) (service : Service) (hdIndex : Option UInt32) : Call Unit := do
  .checks (fun self =>
    if self.services.contains (service.id prim) then .error (.serviceRegistered (service.id prim)) else .ok ())
  storeComponents outcomes service
  saveService prim outcomes service
  addServiceToManagers cron prim mnemonic outcomes service hdIndex

def registerAndAddService (outcomes : Outcomes) (service : Service) : Call Unit := do
  let hdIndex ← onRegistry (ServiceRegistry.append outcomes.appendWrite service.manager)
  Attempt.undoing (addServiceDirect cron prim mnemonic outcomes service (some hdIndex))
    (fun self => (onRegistry (ServiceRegistry.remove outcomes.removeWrite service.manager) self).1)

/-- `add_service`, with the document that the query of the manager has fetched. -/
def addService (outcomes : Outcomes) (fetched : Except DispatcherError Service) : Call Service := do
  let service ← .checks (fun _ => fetched)
  registerAndAddService cron prim mnemonic outcomes service
  pure service

def removeServiceInner (outcomes : Outcomes) (id : ServiceId) : Call Unit := do
  .changes (fun self => {self with services := self.services.remove id})
  onTriggers (TriggerManager.removeService cron outcomes.unwatchTaken id)
  .changes (send (.unsubscribeService id))

/-- The manager whose registry entry `remove_service` removes. -/
def managerToRemove (self : Dispatcher) (id : ServiceId) : Option ServiceManager :=
  match self.services.services.getCloned id with
  | some service => some service.manager
  | none => (self.serviceRegistry.entries.find?
      (fun entry => .ofManager prim entry.serviceManager = id)).map RegistryEntry.serviceManager

def removeService (outcomes : Outcomes) (id : ServiceId) : Call Unit := do
  let manager ← .reads (fun self => self.managerToRemove prim id)
  match manager with
  | some manager => onRegistry (ServiceRegistry.remove outcomes.removeWrite manager)
  | none => pure ()
  removeServiceInner cron outcomes id

/-- `change_service_inner` up to the download of the components. -/
def checkChange (info : Bool) (outcomes : Outcomes) (id : ServiceId) (service : Service) : Call UInt32 := do
  .checks (fun _ =>
    if service.id prim = id then .ok () else .error (.changeIdMismatch id (service.id prim)))
  let signer ← .checks (fun self => (self.submissionManager.getServiceSigner id).mapError .submission)
  if info then
    let oldService ← .checks (fun self => (self.services.get id).mapError .unknownService)
    .checks (fun _ => (outcomes.hash oldService).mapError .service)
    .checks (fun _ => (outcomes.hash service).mapError .service)
    pure signer.hdIndex
  else pure signer.hdIndex

def changeServiceInner (info : Bool) (outcomes : Outcomes) (id : ServiceId) (service : Service) : Call Unit := do
  let hdIndex ← checkChange prim info outcomes id service
  storeComponents outcomes service
  removeServiceInner cron outcomes id
  saveService prim outcomes service
  addServiceToManagers cron prim mnemonic outcomes service (some hdIndex)

/-- `change_service`, with the document that was fetched from the URI. -/
def changeService (info : Bool) (outcomes : Outcomes) (id : ServiceId) (fetched : Except String Service) :
    Call Unit := do
  let service ← .checks (fun _ => fetched.mapError .fetchService)
  changeServiceInner cron prim mnemonic info outcomes id service

section Run

variable (outcomes : Outcomes) (service : Service) (id : ServiceId) (self : Dispatcher)

theorem onRegistry_run {A : Type} (call : Attempt ServiceRegistry RegistryError A) :
    onRegistry call self = ({self with serviceRegistry := (call self.serviceRegistry).1},
      (call self.serviceRegistry).2.mapError .registry) := rfl

theorem onTriggers_run {A : Type} (call : Attempt TriggerManager TriggerError A) :
    onTriggers call self = ({self with triggerManager := (call self.triggerManager).1},
      (call self.triggerManager).2.mapError .trigger) := rfl

theorem addServiceKey_run (hdIndex : Option UInt32) : addServiceKey mnemonic id hdIndex self =
    ({self with submissionManager := (SubmissionManager.addServiceKey mnemonic self.services id hdIndex
        self.submissionManager).1},
      (SubmissionManager.addServiceKey mnemonic self.services id hdIndex
        self.submissionManager).2.mapError .submission) := rfl

theorem saveService_run : saveService prim outcomes service self =
    ({self with services := (Services.save prim self.triggerManager.chainConfigs outcomes.projectRoot service
        self.services).1},
      (Services.save prim self.triggerManager.chainConfigs outcomes.projectRoot service
        self.services).2.mapError .unknownService) := rfl

theorem services_saveService : (saveService prim outcomes service self).1.services.services =
    self.services.services.insert (service.id prim) service :=
  Services.services_save prim _ _ service self.services

theorem storeComponents_run : storeComponents outcomes service self =
    (self,(storeComponentsForService outcomes.storeComponentFromSource service).mapError .engine) := rfl

/-- `append` refuses and the call changes nothing; or the manager is entered, and the call ends with a
failed write, or goes on and takes the manager out again when the rest fails. -/
theorem registerAndAddService_cases :
    (∃ reason, registerAndAddService cron prim mnemonic outcomes service self = (self,.error (.registry reason)) ∧
        (self.serviceRegistry.state.Lists service.manager ∨
          checkedSucc self.serviceRegistry.state.nextHdIndex = none)) ∨
      ∃ (free : ¬self.serviceRegistry.state.Lists service.manager) (next : UInt32) (registry : ServiceRegistry),
        checkedSucc self.serviceRegistry.state.nextHdIndex = some next ∧
        registry.state = self.serviceRegistry.state.push service.manager next free ∧
        ((∃ reason, outcomes.appendWrite = .error reason ∧
            registerAndAddService cron prim mnemonic outcomes service self =
              ({self with serviceRegistry := registry},.error (.registry reason))) ∨
          outcomes.appendWrite = .ok () ∧
            registerAndAddService cron prim mnemonic outcomes service self =
              Attempt.undoing (addServiceDirect cron prim mnemonic outcomes service
                  (some self.serviceRegistry.state.nextHdIndex))
                (fun self => (onRegistry (ServiceRegistry.remove outcomes.removeWrite service.manager) self).1)
                {self with serviceRegistry := registry}) := by
  rcases ServiceRegistry.append_cases outcomes.appendWrite service.manager self.serviceRegistry with
    ⟨reason,refused,cause⟩ | ⟨free,next,fits,pushed,outcome⟩
  · have stopped : onRegistry (ServiceRegistry.append outcomes.appendWrite service.manager) self =
        (self,.error (.registry reason)) := by
      rw [onRegistry_run,refused]
      rfl
    exact .inl ⟨reason,Attempt.bind_of_error _ _ _ _ _ stopped,cause⟩
  · refine .inr ⟨free,next,_,fits,pushed,?_⟩
    cases written : outcomes.appendWrite with
    | error reason =>
      rw [written] at outcome
      have stopped : onRegistry (ServiceRegistry.append outcomes.appendWrite service.manager) self =
          ({self with serviceRegistry := (ServiceRegistry.append (.error reason) service.manager
            self.serviceRegistry).1},.error (.registry reason)) := by
        rw [onRegistry_run,written,outcome]
        rfl
      exact .inl ⟨reason,rfl,Attempt.bind_of_error _ _ _ _ _ stopped⟩
    | ok done =>
      rw [written] at outcome
      have entered : onRegistry (ServiceRegistry.append outcomes.appendWrite service.manager) self =
          ({self with serviceRegistry := (ServiceRegistry.append (.ok ()) service.manager
            self.serviceRegistry).1},.ok self.serviceRegistry.state.nextHdIndex) := by
        rw [onRegistry_run,written,outcome]
        rfl
      exact .inr ⟨rfl,Attempt.bind_of_ok _ _ _ _ _ entered⟩

/-- The managers do not touch the services table and the registry. -/
theorem leaves_addServiceToManagers (hdIndex : Option UInt32) :
    Attempt.Leaves (fun before after : Dispatcher => after.services = before.services ∧
        after.serviceRegistry = before.serviceRegistry)
      (addServiceToManagers cron prim mnemonic outcomes service hdIndex) := by
  have trans : ∀ first second third : Dispatcher,
      (second.services = first.services ∧ second.serviceRegistry = first.serviceRegistry) →
      (third.services = second.services ∧ third.serviceRegistry = second.serviceRegistry) →
      third.services = first.services ∧ third.serviceRegistry = first.serviceRegistry := by
    intro first second third one two
    exact ⟨two.1.trans one.1,two.2.trans one.2⟩
  apply Attempt.leaves_bind trans
  · intro state
    exact ⟨rfl,rfl⟩
  intro _
  apply Attempt.leaves_bind trans
  · intro state
    exact ⟨rfl,rfl⟩
  intro _ state
  exact ⟨rfl,rfl⟩

/-- The managers take a stored service exactly when its key is made and the trigger manager adds it. -/
theorem addServiceToManagers_ok (hdIndex : UInt32)
    (stored : self.services.services.getCloned (service.id prim) = some service) :
    ((addServiceToManagers cron prim mnemonic outcomes service (some hdIndex) self).2 = .ok () ↔
        SubmissionManager.Derives mnemonic service.signatureKind hdIndex ∧
        (TriggerManager.addService cron prim outcomes service self.triggerManager).2 = .ok ()) ∧
      ((addServiceToManagers cron prim mnemonic outcomes service (some hdIndex) self).2 = .ok () →
        ∃ submissions signer,
          (addServiceToManagers cron prim mnemonic outcomes service (some hdIndex) self).1 =
            {self with
              submissionManager := submissions
              triggerManager := (TriggerManager.addService cron prim outcomes service self.triggerManager).1
              aggregatorCommands := self.aggregatorCommands ++ [.subscribeService (service.id prim)]} ∧
          submissions.signers = self.submissionManager.signers.insert (service.id prim) ⟨signer,hdIndex⟩) := by
  have derives := SubmissionManager.addServiceKey_ok_iff mnemonic self.services (service.id prim) service hdIndex
    self.submissionManager stored
  rw [← derives]
  rcases SubmissionManager.addServiceKey_cases mnemonic self.services (service.id prim) hdIndex
      self.submissionManager with ⟨error,failed,_⟩ | ⟨signer,made,signers⟩
  · have stopped : addServiceKey mnemonic (service.id prim) (some hdIndex) self =
        ((addServiceKey mnemonic (service.id prim) (some hdIndex) self).1,.error (.submission error)) := by
      rw [addServiceKey_run,failed]
      rfl
    rw [addServiceToManagers,Attempt.bind_of_error _ _ _ _ _ stopped,failed]
    exact ⟨by simp,fun impossible => nomatch impossible⟩
  have keyed : addServiceKey mnemonic (service.id prim) (some hdIndex) self =
      ({self with submissionManager := (SubmissionManager.addServiceKey mnemonic self.services (service.id prim)
        (some hdIndex) self.submissionManager).1},.ok ()) := by
    rw [addServiceKey_run,made]
    rfl
  rw [addServiceToManagers,Attempt.bind_of_ok _ _ _ _ _ keyed,made]
  cases added : (TriggerManager.addService cron prim outcomes service self.triggerManager).2 with
  | error error =>
    rw [Attempt.bind_of_error _ _ _ _ _ (by rw [onTriggers_run,added]; rfl)]
    exact ⟨by simp,fun impossible => nomatch impossible⟩
  | ok done =>
    rw [Attempt.bind_of_ok _ _ _ _ _ (by rw [onTriggers_run,added]; rfl)]
    exact ⟨by simp,fun _ => ⟨_,signer,rfl,signers⟩⟩

/-- The subscription is the last step of the managers. -/
theorem addServiceToManagers_error (hdIndex : Option UInt32) (after : Dispatcher) (error : DispatcherError)
    (failed : addServiceToManagers cron prim mnemonic outcomes service hdIndex self = (after,.error error)) :
    after.aggregatorCommands = self.aggregatorCommands := by
  rcases (Attempt.bind_error _ _ _ _ _).mp failed with unkeyed | ⟨_,middle,keyed,failed⟩
  · have reached : after = (addServiceKey mnemonic (service.id prim) hdIndex self).1 := by rw [unkeyed]
    rw [reached,addServiceKey_run]
  have first : middle = (addServiceKey mnemonic (service.id prim) hdIndex self).1 := by rw [keyed]
  rcases (Attempt.bind_error _ _ _ _ _).mp failed with refused | ⟨_,_,_,impossible⟩
  · have reached : after = (onTriggers (TriggerManager.addService cron prim outcomes service) middle).1 := by
      rw [refused]
    rw [reached,onTriggers_run,first,addServiceKey_run]
  · cases impossible

/-- The removal takes the definition out of the table first and unsubscribes last. -/
theorem removeServiceInner_cases :
    (∃ after error, removeServiceInner cron outcomes id self = (after,.error error) ∧
        after.services = self.services.remove id) ∨
      ∃ after, removeServiceInner cron outcomes id self = (after,.ok ()) ∧
        after.services = self.services.remove id ∧
        after.aggregatorCommands = self.aggregatorCommands ++ [.unsubscribeService id] := by
  rw [removeServiceInner,Attempt.bind_of_ok _ _ _ _ _ (Attempt.changes_run _ self)]
  cases called : onTriggers (TriggerManager.removeService cron outcomes.unwatchTaken id)
      {self with services := self.services.remove id} with
  | mk middle outcome =>
    have reached : middle = (onTriggers (TriggerManager.removeService cron outcomes.unwatchTaken id)
        {self with services := self.services.remove id}).1 := by rw [called]
    rw [onTriggers_run] at reached
    cases outcome with
    | error error =>
      refine .inl ⟨middle,error,Attempt.bind_of_error _ _ _ _ _ called,?_⟩
      rw [reached]
    | ok done =>
      refine .inr ⟨_,Attempt.bind_of_ok _ _ _ _ _ called,?_,?_⟩
      · rw [reached]
        rfl
      · rw [reached]
        rfl

end Run

/-- The dispatcher of a new process, with what the registry file holds. -/
def new (chainConfigs : ChainConfigs) (file : Option RegistryState) : Dispatcher where
  services := .new
  serviceRegistry := .load file
  submissionManager := .new
  triggerManager := ⟨Manager.new chainConfigs false,[]⟩
  aggregatorCommands := []

end Dispatcher

instance decidableDocument {E : Type} (found : Option (Except E Service)) (holds : Service → Prop)
    [DecidablePred holds] : Decidable (∀ service, found = some (.ok service) → holds service) :=
  match found with
  | some (.ok service) => decidable_of_iff (holds service) (by simp)
  | some (.error _) => .isTrue nofun
  | none => .isTrue nofun

instance decidableFetched {E : Type} (found : Except E Service) (holds : Service → Prop) [DecidablePred holds] :
    Decidable (∀ service, found = .ok service → holds service) :=
  match found with
  | .ok service => decidable_of_iff (holds service) (by simp)
  | .error _ => .isTrue nofun

/-- A registry file that is written and a network on which everything is found at once, but for the
controllers of Stellar chains. -/
def reachable : Outcomes where
  appendWrite := .ok ()
  removeWrite := .ok ()
  storeComponentFromSource _ := .ok ()
  hash _ := .ok ()
  projectRoot := ⟨.ok (),.ok (FixedBytes.filled 32 1),.ok (FixedBytes.filled 32 2)⟩
  connected := []
  unwatchTaken := none
  taken := none

/-- Every index gives the key of the first operator. -/
def operatorMnemonic : Mnemonic where
  makeSigner _ := .ok (fun hash => if hash = cafeEip191Hash then .ok signature1.toList else .error "not looked up")
  makeStellarSigner _ := .error "not looked up"

end Warpdrive.Dispatch
