import Warpdrive.Dispatch.Calls
import Warpdrive.Trigger.Tracking

/-! The restore of the registered services at startup (`Dispatcher::start` and
`query_service_from_address`). The entries of the registry are queried side by side; the loop then
handles them one after the other in the order in which the queries ended. A query has no result
when it panics, and then the loop is not entered. -/
namespace Warpdrive.Dispatch

open Warpdrive.Foundation Warpdrive.Types Warpdrive.Trigger

/-- What the outside answers to the query of one service manager. -/
structure Replies where
  providerCached : Bool
  isEndpoint : String → Bool
  getServiceUri : Except AlloyContractError String
  cosmosClient : Except String Unit
  warpDriveServiceUri : Except String String
  sorobanEnv : Except String Unit
  projectSpecRepo : Except String String
  contractDisplay : FixedBytes 32 → String
  isUri : String → Bool
  fetchService : String → Except String Service

namespace Replies

/-- The provider of an EVM chain: cached, or made from the HTTP endpoint of its configuration. -/
def provider (self : Replies) (chain : ChainKey) (config : EvmChainConfig) : Option (Except DispatcherError Unit) :=
  if self.providerCached then some (.ok ())
  else
    match config.httpEndpoint with
    | none => some (.error (.config ("No HTTP endpoint configured for chain " ++ chain.display)))
    | some endpoint => if self.isEndpoint endpoint then some (.ok ()) else none

/-- `address.try_into()` to an EVM address. -/
def evmAddress : ServiceManager → Except DispatcherError Unit
  | .evm _ _ => .ok ()
  | _ => .error (.addressConversion "expected EVM address")

def cosmosServiceUri (self : Replies) : Except DispatcherError String := do
  self.cosmosClient.mapError .cosmosQuery
  self.warpDriveServiceUri.mapError .cosmosQuery

def stellarServiceUri (self : Replies) (chainConfigs : ChainConfigs) (chain : ChainKey) (projectRoot : FixedBytes 32) :
    Except DispatcherError String :=
  match chainConfigs.getChain chain with
  | some (.stellar _) => do
    self.sorobanEnv.mapError (fun reason => .config ("building soroban env: " ++ reason))
    self.projectSpecRepo.mapError (fun reason => .config ("ProjectRoot::project_spec_repo on " ++
      self.contractDisplay projectRoot ++ " failed: " ++ reason))
  | _ => .error (.config ("No stellar chain config for chain " ++ chain.display))

/-- The service URI that the manager answers with. -/
def serviceUri (self : Replies) (chainConfigs : ChainConfigs) (manager : ServiceManager) :
    Option (Except DispatcherError String) :=
  match manager with
  | .stellar chain projectRoot => some (self.stellarServiceUri chainConfigs chain projectRoot)
  | manager =>
    match chainConfigs.getChain manager.chain with
    | none => some (.error (.config ("Could not get chain config for chain " ++ manager.chain.display)))
    | some (.evm config) =>
      (self.provider manager.chain config).map (fun provider => do
        provider
        evmAddress manager
        self.getServiceUri.mapError .alloyContract)
    | some (.cosmos _) => some self.cosmosServiceUri
    | some (.stellar _) => none

def queryServiceFromAddress (self : Replies) (chainConfigs : ChainConfigs) (manager : ServiceManager) :
    Option (Except DispatcherError Service) :=
  (self.serviceUri chainConfigs manager).map (fun uri => do
    let uri ← uri
    if self.isUri uri then (self.fetchService uri).mapError .fetchService
    else .error (.uriCreation uri))

end Replies

def DispatcherError.isGenuineStale : DispatcherError → Bool
  | .alloyContract _ => true
  | .uriCreation _ => true
  | _ => false

abbrev Fetched := RegistryEntry × Except DispatcherError Service

/-- What the outside decides during a restore: the answers to each query, the outcomes of the
steps of each entry, and the Stellar chains whose controllers come up. -/
structure Startup where
  replies : RegistryEntry → Replies
  outcomes : RegistryEntry → Outcomes
  connected : List (ChainKey × StellarStreamController)

namespace Startup

/-- The outcomes of the steps of one entry. -/
def outcomesOf (self : Startup) (entry : RegistryEntry) : Outcomes :=
  {self.outcomes entry with connected := self.connected}

def query (self : Startup) (chainConfigs : ChainConfigs) (entry : RegistryEntry) :
    Option (Except DispatcherError Service) :=
  (self.replies entry).queryServiceFromAddress chainConfigs entry.serviceManager

/-- The queries of the entries, in the order in which they end. -/
def fetchAll (self : Startup) (chainConfigs : ChainConfigs) (order : List RegistryEntry) : Option (List Fetched) :=
  order.mapM (fun entry => (self.query chainConfigs entry).map (fun result => (entry,result)))

end Startup

namespace Dispatcher

variable (cron : CronLib) (prim : IdPrimitives) (mnemonic : Mnemonic) (startup : Startup)

def restoreService (entry : RegistryEntry) (service : Service) : Call Unit := do
  let alreadyInMemory ← .reads (fun self => self.services.contains (service.id prim))
  saveService prim (startup.outcomesOf entry) service
  storeComponents (startup.outcomesOf entry) service
  if alreadyInMemory then pure ()
  else addServiceToManagers cron prim mnemonic (startup.outcomesOf entry) service (some entry.hdIndex)

def forget (entry : RegistryEntry) (self : Dispatcher) : Dispatcher :=
  (onRegistry (ServiceRegistry.remove (startup.outcomesOf entry).removeWrite entry.serviceManager) self).1

def restoreEntry (fetched : Fetched) : Call (List Service) :=
  match fetched.2 with
  | .ok service => do
    restoreService cron prim mnemonic startup fetched.1 service
    pure [service]
  | .error error =>
    if error.isGenuineStale then do
      .changes (forget startup fetched.1)
      pure []
    else pure []

def restoreAll : List Fetched → Call (List Service)
  | [] => pure []
  | fetched::rest => do
    let service ← restoreEntry cron prim mnemonic startup fetched
    let services ← restoreAll rest
    pure (service ++ services)

/-- The restore, with the queries ended in this order. -/
def restore (order : List RegistryEntry) (self : Dispatcher) :
    Option (Dispatcher × Except DispatcherError (List Service)) :=
  (startup.fetchAll self.triggerManager.chainConfigs order).map
    (fun fetched => restoreAll cron prim mnemonic startup fetched self)

section Conditions

variable (chainConfigs : ChainConfigs)

/-- The Stellar project root answers `save`, and every component is to be had. -/
structure Saves (entry : RegistryEntry) (service : Service) : Prop where
  answers : ∃ contracts, Services.queryContracts chainConfigs (startup.outcomes entry).projectRoot
    service.manager = .ok contracts
  downloads : storeComponentsForService (startup.outcomes entry).storeComponentFromSource service = .ok ()

/-- The lookup maps of a new process with the controllers that come up. -/
def connectedLookup : Lookup := ((new chainConfigs none).triggerManager.connectAll startup.connected).lookup

/-- The managers take the service: its key is made, the watcher takes the commands, the controllers
come up that are waited for, and every trigger is accepted. -/
structure Registers (entry : RegistryEntry) (service : Service) : Prop where
  derives : SubmissionManager.Derives mnemonic service.signatureKind entry.hdIndex
  takes : TriggerManager.Takes (startup.outcomes entry).taken (TriggerManager.addCommands prim chainConfigs service)
  connects : ∀ chain ∈ TriggerManager.chainsToWaitFor prim chainConfigs service,
    chain ∈ startup.connected.map Prod.fst
  accepts : ∀ workflow ∈ service.workflows.entries,
    (connectedLookup startup chainConfigs).Accepts cron workflow.2.trigger

/-- Among these the service of this id was fetched. -/
def Fetches (fetched : List Fetched) (id : ServiceId) : Prop :=
  ∃ earlier ∈ fetched, ∃ service, earlier.2 = .ok service ∧ service.id prim = id

/-- The steps of an entry succeed after those of the entries before it, one of which may have put
the service in memory. -/
def Restorable (earlier : List Fetched) (fetched : Fetched) : Prop :=
  ∀ service, fetched.2 = .ok service → Saves startup chainConfigs fetched.1 service ∧
    (Registers cron prim mnemonic startup chainConfigs fetched.1 service ∨ Fetches prim earlier (service.id prim))

/-- The steps of every entry succeed that was fetched. -/
def RestoresFrom (earlier : List Fetched) : List Fetched → Prop
  | [] => True
  | fetched::rest =>
    Restorable cron prim mnemonic startup chainConfigs earlier fetched ∧ RestoresFrom (earlier ++ [fetched]) rest

end Conditions

/-- The service is stored, has its key, its triggers and its subscription. -/
structure Running (state : Dispatcher) (id : ServiceId) : Prop where
  stored : state.services.contains id = true
  keyed : state.submissionManager.signers.get id ≠ none
  triggers : ∃ service, service.id prim = id ∧
    ∀ config ∈ Lookup.serviceTriggers id service, state.triggerManager.lookup.Tracked config
  subscribed : Subscribed state.aggregatorCommands id = true

/-- What the loop has reached when it has handled these entries. -/
structure Restoring (chainConfigs : ChainConfigs) (handled : List Fetched) (state : Dispatcher) : Prop where
  configs : state.triggerManager.chainConfigs = chainConfigs
  controllers : ∀ chain, state.triggerManager.lookup.stellarControllers.get chain ≠ none →
    chain ∈ startup.connected.map Prod.fst
  stored : ∀ id, state.services.contains id = true ↔ Fetches prim handled id
  own : ∀ id, state.services.contains id = true → ∃ fetched ∈ handled, ∃ service, fetched.2 = .ok service ∧
    service.id prim = id ∧ Saves startup chainConfigs fetched.1 service ∧
    Registers cron prim mnemonic startup chainConfigs fetched.1 service
  runs : ∀ id, state.services.contains id = true → Running prim state id
  subscribed : ∀ id, Subscribed state.aggregatorCommands id = true → state.services.contains id = true

theorem restoring_new (chainConfigs : ChainConfigs) (file : Option RegistryState) :
    Restoring cron prim mnemonic startup chainConfigs [] (new chainConfigs file) where
  configs := rfl
  controllers chain present := by simp [new,Manager.new] at present
  stored id := by simp [new,Services.new,Services.contains,Fetches]
  own id stored := by simp [new,Services.new,Services.contains] at stored
  runs id stored := by simp [new,Services.new,Services.contains] at stored
  subscribed id subscribed := by simp [new,Subscribed] at subscribed

variable {cron prim mnemonic startup}

theorem fetches_append (handled : List Fetched) (fetched : Fetched) (id : ServiceId) :
    Fetches prim (handled ++ [fetched]) id ↔
      Fetches prim handled id ∨ ∃ service, fetched.2 = .ok service ∧ service.id prim = id := by
  unfold Fetches
  simp only [List.mem_append,List.mem_singleton]
  constructor
  · rintro ⟨earlier,member | rfl,found⟩
    · exact .inl ⟨earlier,member,found⟩
    · exact .inr found
  · rintro (⟨earlier,member,found⟩ | found)
    · exact ⟨earlier,.inl member,found⟩
    · exact ⟨fetched,.inr rfl,found⟩

/-- The trigger manager takes the service exactly when nothing of `Registers` but the key is missing. -/
theorem addService_ok_iff (chainConfigs : ChainConfigs) (handled : List Fetched) (entry : RegistryEntry)
    (service : Service) (self : Dispatcher)
    (inv : Restoring cron prim mnemonic startup chainConfigs handled self) :
    (TriggerManager.addService cron prim (startup.outcomesOf entry) service self.triggerManager).2 = .ok () ↔
      TriggerManager.Takes (startup.outcomes entry).taken (TriggerManager.addCommands prim chainConfigs service) ∧
      (∀ chain ∈ TriggerManager.chainsToWaitFor prim chainConfigs service, chain ∈ startup.connected.map Prod.fst) ∧
      ∀ workflow ∈ service.workflows.entries,
        (connectedLookup startup chainConfigs).Accepts cron workflow.2.trigger := by
  have present : ∀ chain, (self.triggerManager.connectAll startup.connected).lookup.stellarControllers.get chain ≠
      none ↔ chain ∈ startup.connected.map Prod.fst := by
    intro chain
    rw [Ne,TriggerManager.get_connectAll,not_and_or,not_not]
    constructor
    · rintro (before | up)
      · exact inv.controllers chain before
      · exact up
    · exact .inr
  have fresh : ∀ chain, (connectedLookup startup chainConfigs).stellarControllers.get chain ≠ none ↔
      chain ∈ startup.connected.map Prod.fst := by
    intro chain
    rw [connectedLookup,Ne,TriggerManager.get_connectAll,not_and_or,not_not]
    simp [new,Manager.new]
  rw [(TriggerManager.addService_ok cron prim _ service self.triggerManager).1,
    TriggerManager.unconnected_eq_none,Lookup.addService_ok_iff,inv.configs]
  refine and_congr Iff.rfl (and_congr ?_ ?_)
  · exact forall₂_congr (fun chain _ => present chain)
  · refine forall₂_congr (fun workflow _ => ⟨?_,?_⟩)
    · intro accepts
      exact accepts.of_controllers cron (fun chain up => (fresh chain).mpr ((present chain).mp up))
    · intro accepts
      exact accepts.of_controllers cron (fun chain up => (present chain).mpr ((fresh chain).mp up))

/-- A running service is still running when another one is added. -/
theorem Running.add {before : Dispatcher} {id : ServiceId} (running : Running prim before id)
    (outcomes : Outcomes) (service : Service) (services : Services) (submissions : SubmissionManager)
    (info : SignerInfo) (other : id ≠ service.id prim)
    (stored : services.services = before.services.services.insert (service.id prim) service)
    (signers : submissions.signers = before.submissionManager.signers.insert (service.id prim) info)
    (added : (TriggerManager.addService cron prim outcomes service before.triggerManager).2 = .ok ()) :
    Running prim {before with
      services := services
      submissionManager := submissions
      triggerManager := (TriggerManager.addService cron prim outcomes service before.triggerManager).1
      aggregatorCommands := before.aggregatorCommands ++ [.subscribeService (service.id prim)]} id := by
  obtain ⟨lookup,_⟩ := (TriggerManager.addService_ok cron prim outcomes service before.triggerManager).2 added
  obtain ⟨maps,_⟩ := TriggerManager.maps_connectAll outcomes.connected before.triggerManager
  refine ⟨?_,?_,?_,?_⟩
  · simp only [Services.contains,stored,WavsDbTable.getCloned_insert_ne _ _ _ _ other]
    exact running.stored
  · simp only [signers,HashMap.get_insert_ne _ _ _ _ other]
    exact running.keyed
  · obtain ⟨registered,named,tracked⟩ := running.triggers
    refine ⟨registered,named,?_⟩
    intro config member
    change (TriggerManager.addService cron prim outcomes service before.triggerManager).1.lookup.Tracked config
    rw [lookup]
    apply Lookup.tracked_addService_other
    · unfold Lookup.Tracked
      rw [maps]
      exact tracked config member
    · obtain ⟨entry,_,rfl⟩ := List.mem_map.mp member
      exact other
  · rw [subscribed_subscribe,if_neg (Ne.symm other)]
    exact running.subscribed

/-- The service that is added runs. -/
theorem running_added (before : Dispatcher) (outcomes : Outcomes) (service : Service) (services : Services)
    (submissions : SubmissionManager) (info : SignerInfo)
    (stored : services.services = before.services.services.insert (service.id prim) service)
    (signers : submissions.signers = before.submissionManager.signers.insert (service.id prim) info)
    (added : (TriggerManager.addService cron prim outcomes service before.triggerManager).2 = .ok ()) :
    Running prim {before with
      services := services
      submissionManager := submissions
      triggerManager := (TriggerManager.addService cron prim outcomes service before.triggerManager).1
      aggregatorCommands := before.aggregatorCommands ++ [.subscribeService (service.id prim)]}
      (service.id prim) := by
  obtain ⟨ok,after⟩ := TriggerManager.addService_ok cron prim outcomes service before.triggerManager
  refine ⟨?_,?_,⟨service,rfl,?_⟩,?_⟩
  · simp [Services.contains,stored]
  · simp [signers]
  · intro config member
    change (TriggerManager.addService cron prim outcomes service before.triggerManager).1.lookup.Tracked config
    rw [(after added).1]
    exact Lookup.tracked_addService cron prim _ _ service (Prod.ext rfl (ok.mp added).2.2) config member
  · rw [subscribed_subscribe,if_pos rfl]

theorem contains_saveService (outcomes : Outcomes) (service : Service) (self : Dispatcher) (id : ServiceId) :
    (saveService prim outcomes service self).1.services.contains id = true ↔
      id = service.id prim ∨ self.services.contains id = true := by
  unfold Services.contains
  rw [services_saveService]
  by_cases same : id = service.id prim
  · simp [same]
  · simp [same,WavsDbTable.getCloned_insert_ne _ _ _ _ same]

/-- A service in memory is saved anew, and runs on as it was. -/
theorem Restoring.save {chainConfigs : ChainConfigs} {handled : List Fetched} {self : Dispatcher}
    (inv : Restoring cron prim mnemonic startup chainConfigs handled self) (entry : RegistryEntry)
    (service : Service) (outcomes : Outcomes) (present : self.services.contains (service.id prim) = true) :
    Restoring cron prim mnemonic startup chainConfigs (handled ++ [(entry,.ok service)])
      (saveService prim outcomes service self).1 := by
  have same : ∀ id, (saveService prim outcomes service self).1.services.contains id = true ↔
      self.services.contains id = true := by
    intro id
    rw [contains_saveService]
    constructor
    · rintro (rfl | before)
      · exact present
      · exact before
    · exact .inr
  refine ⟨inv.configs,inv.controllers,?_,?_,?_,?_⟩
  · intro id
    rw [same,inv.stored,fetches_append]
    refine ⟨.inl,?_⟩
    rintro (before | ⟨other,found,rfl⟩)
    · exact before
    · cases found
      exact (inv.stored _).mp present
  · intro id stored
    obtain ⟨fetched,member,found⟩ := inv.own id ((same id).mp stored)
    exact ⟨fetched,List.mem_append_left _ member,found⟩
  · intro id stored
    have running := inv.runs id ((same id).mp stored)
    exact ⟨stored,running.keyed,running.triggers,running.subscribed⟩
  · intro id subscribed
    exact (same id).mpr (inv.subscribed id subscribed)

/-- A service that is not in memory runs once the managers have taken it. -/
theorem Restoring.add {chainConfigs : ChainConfigs} {handled : List Fetched} {self : Dispatcher}
    (inv : Restoring cron prim mnemonic startup chainConfigs handled self) (entry : RegistryEntry)
    (service : Service) (services : Services) (submissions : SubmissionManager) (info : SignerInfo)
    (saves : Saves startup chainConfigs entry service)
    (registers : Registers cron prim mnemonic startup chainConfigs entry service)
    (stored : services.services = self.services.services.insert (service.id prim) service)
    (signers : submissions.signers = self.submissionManager.signers.insert (service.id prim) info)
    (added : (TriggerManager.addService cron prim (startup.outcomesOf entry) service self.triggerManager).2 = .ok ()) :
    Restoring cron prim mnemonic startup chainConfigs (handled ++ [(entry,.ok service)]) {self with
      services := services
      submissionManager := submissions
      triggerManager := (TriggerManager.addService cron prim (startup.outcomesOf entry) service
        self.triggerManager).1
      aggregatorCommands := self.aggregatorCommands ++ [.subscribeService (service.id prim)]} := by
  obtain ⟨lookup,configs⟩ :=
    (TriggerManager.addService_ok cron prim (startup.outcomesOf entry) service self.triggerManager).2 added
  have contains : ∀ id, services.contains id = true ↔ id = service.id prim ∨ self.services.contains id = true := by
    intro id
    unfold Services.contains
    rw [stored]
    by_cases same : id = service.id prim
    · simp [same]
    · simp [same,WavsDbTable.getCloned_insert_ne _ _ _ _ same]
  refine ⟨configs.trans inv.configs,?_,?_,?_,?_,?_⟩
  · intro chain present
    change (TriggerManager.addService cron prim (startup.outcomesOf entry) service
      self.triggerManager).1.lookup.stellarControllers.get chain ≠ none at present
    rw [lookup] at present
    have before := (Lookup.addTriggers_controllers cron _ _ chain).not.mp present
    change ¬(self.triggerManager.connectAll startup.connected).lookup.stellarControllers.get chain = none at before
    rw [TriggerManager.get_connectAll,not_and_or,not_not] at before
    rcases before with before | up
    · exact inv.controllers chain before
    · exact up
  · intro id
    rw [contains,inv.stored,fetches_append]
    constructor
    · rintro (rfl | before)
      · exact .inr ⟨service,rfl,rfl⟩
      · exact .inl before
    · rintro (before | ⟨other,found,rfl⟩)
      · exact .inr before
      · cases found
        exact .inl rfl
  · intro id held
    rcases (contains id).mp held with rfl | before
    · exact ⟨_,List.mem_append_right _ List.mem_cons_self,service,rfl,rfl,saves,registers⟩
    · obtain ⟨fetched,member,found⟩ := inv.own id before
      exact ⟨fetched,List.mem_append_left _ member,found⟩
  · intro id held
    by_cases same : id = service.id prim
    · subst same
      exact running_added self _ service services submissions info stored signers added
    · have before := ((contains id).mp held).resolve_left same
      exact (inv.runs id before).add _ service services submissions info same stored signers added
  · intro id subscribed
    rw [subscribed_subscribe] at subscribed
    rw [contains]
    split at subscribed
    · next same => exact .inl same.symm
    · exact .inr (inv.subscribed id subscribed)

/-- The steps of an entry succeed exactly when they are to be expected to, and leave the service
running. -/
theorem restoreService_ok (chainConfigs : ChainConfigs) (handled : List Fetched) (entry : RegistryEntry)
    (service : Service) (self : Dispatcher)
    (inv : Restoring cron prim mnemonic startup chainConfigs handled self) :
    ((restoreService cron prim mnemonic startup entry service self).2 = .ok () ↔
        Saves startup chainConfigs entry service ∧
        (Registers cron prim mnemonic startup chainConfigs entry service ∨
          Fetches prim handled (service.id prim))) ∧
      ((restoreService cron prim mnemonic startup entry service self).2 = .ok () →
        Restoring cron prim mnemonic startup chainConfigs (handled ++ [(entry,.ok service)])
          (restoreService cron prim mnemonic startup entry service self).1) := by
  have outcome : (saveService prim (startup.outcomesOf entry) service self).2 =
      ((Services.queryContracts chainConfigs (startup.outcomes entry).projectRoot service.manager).map
        (fun _ => ())).mapError .unknownService := by
    rw [saveService_run,Services.outcome_save,inv.configs]
    rfl
  rw [restoreService,Attempt.bind_of_ok _ _ _ _ _ (Attempt.reads_run _ self)]
  cases answers : Services.queryContracts chainConfigs (startup.outcomes entry).projectRoot service.manager with
  | error error =>
    rw [answers] at outcome
    have stopped : saveService prim (startup.outcomesOf entry) service self =
        ((saveService prim (startup.outcomesOf entry) service self).1,.error (.unknownService error)) :=
      Prod.ext rfl outcome
    rw [Attempt.bind_of_error _ _ _ _ _ stopped]
    refine ⟨iff_of_false (fun impossible => nomatch impossible) ?_,fun impossible => nomatch impossible⟩
    intro claim
    obtain ⟨contracts,found⟩ := claim.1.answers
    cases answers.symm.trans found
  | ok contracts =>
    rw [answers] at outcome
    have saved : saveService prim (startup.outcomesOf entry) service self =
        ((saveService prim (startup.outcomesOf entry) service self).1,.ok ()) := Prod.ext rfl outcome
    rw [Attempt.bind_of_ok _ _ _ _ _ saved]
    cases downloads : storeComponentsForService (startup.outcomes entry).storeComponentFromSource service with
    | error error =>
      have stopped := storeComponents_run (startup.outcomesOf entry) service
        (saveService prim (startup.outcomesOf entry) service self).1
      change _ = (_,(storeComponentsForService (startup.outcomes entry).storeComponentFromSource service).mapError _)
        at stopped
      rw [downloads] at stopped
      rw [Attempt.bind_of_error _ _ _ _ _ stopped]
      refine ⟨iff_of_false (fun impossible => nomatch impossible) ?_,fun impossible => nomatch impossible⟩
      intro claim
      cases downloads.symm.trans claim.1.downloads
    | ok done =>
      have saves : Saves startup chainConfigs entry service := ⟨⟨contracts,answers⟩,downloads⟩
      have stored := storeComponents_run (startup.outcomesOf entry) service
        (saveService prim (startup.outcomesOf entry) service self).1
      change _ = (_,(storeComponentsForService (startup.outcomes entry).storeComponentFromSource service).mapError _)
        at stored
      rw [downloads] at stored
      rw [Attempt.bind_of_ok _ _ _ _ _ stored]
      cases present : self.services.contains (service.id prim) with
      | true =>
        exact ⟨iff_of_true rfl ⟨saves,.inr ((inv.stored _).mp present)⟩,
          fun _ => inv.save entry service _ present⟩
      | false =>
        have absent : ¬Fetches prim handled (service.id prim) := by
          intro found
          rw [(inv.stored _).mpr found] at present
          cases present
        have inserted := services_saveService prim (startup.outcomesOf entry) service self
        obtain ⟨ok,after⟩ := addServiceToManagers_ok cron prim mnemonic (startup.outcomesOf entry) service
          (saveService prim (startup.outcomesOf entry) service self).1 entry.hdIndex (by rw [inserted]; simp)
        have triggers := addService_ok_iff chainConfigs handled entry service self inv
        simp only [Bool.false_eq_true,if_false]
        constructor
        · rw [ok]
          constructor
          · rintro ⟨derives,added⟩
            obtain ⟨takes,connects,accepts⟩ := triggers.mp added
            exact ⟨saves,.inl ⟨derives,takes,connects,accepts⟩⟩
          · rintro ⟨_,registers | found⟩
            · exact ⟨registers.derives,triggers.mpr ⟨registers.takes,registers.connects,registers.accepts⟩⟩
            · exact absurd found absent
        · intro returned
          obtain ⟨derives,added⟩ := ok.mp returned
          obtain ⟨takes,connects,accepts⟩ := triggers.mp added
          obtain ⟨submissions,signer,reached,signers⟩ := after returned
          rw [reached]
          exact inv.add entry service _ submissions _ saves ⟨derives,takes,connects,accepts⟩ inserted signers added

theorem Restoring.forget {chainConfigs : ChainConfigs} {handled : List Fetched} {self : Dispatcher}
    (inv : Restoring cron prim mnemonic startup chainConfigs handled self) (entry : RegistryEntry)
    (error : DispatcherError) (registry : ServiceRegistry) :
    Restoring cron prim mnemonic startup chainConfigs (handled ++ [(entry,.error error)])
      {self with serviceRegistry := registry} := by
  refine ⟨inv.configs,inv.controllers,?_,?_,?_,inv.subscribed⟩
  · intro id
    rw [fetches_append]
    refine (inv.stored id).trans ⟨.inl,?_⟩
    rintro (before | ⟨service,found,_⟩)
    · exact before
    · cases found
  · intro id stored
    obtain ⟨fetched,member,found⟩ := inv.own id stored
    exact ⟨fetched,List.mem_append_left _ member,found⟩
  · intro id stored
    have running := inv.runs id stored
    exact ⟨running.stored,running.keyed,running.triggers,running.subscribed⟩

theorem restoreEntry_ok (chainConfigs : ChainConfigs) (handled : List Fetched) (fetched : Fetched)
    (self : Dispatcher) (inv : Restoring cron prim mnemonic startup chainConfigs handled self) :
    ((∃ services, (restoreEntry cron prim mnemonic startup fetched self).2 = .ok services) ↔
        Restorable cron prim mnemonic startup chainConfigs handled fetched) ∧
      (∀ services, (restoreEntry cron prim mnemonic startup fetched self).2 = .ok services →
        Restoring cron prim mnemonic startup chainConfigs (handled ++ [fetched])
          (restoreEntry cron prim mnemonic startup fetched self).1) := by
  obtain ⟨entry,result⟩ := fetched
  cases result with
  | error error =>
    have nothing : Restorable cron prim mnemonic startup chainConfigs handled (entry,.error error) := by
      intro service found
      cases found
    unfold restoreEntry
    simp only
    split
    · exact ⟨iff_of_true ⟨[],rfl⟩ nothing,fun _ _ => inv.forget entry error _⟩
    · exact ⟨iff_of_true ⟨[],rfl⟩ nothing,fun _ _ => inv.forget entry error self.serviceRegistry⟩
  | ok service =>
    obtain ⟨ok,after⟩ := restoreService_ok chainConfigs handled entry service self inv
    have meaning : Restorable cron prim mnemonic startup chainConfigs handled (entry,.ok service) ↔
        (restoreService cron prim mnemonic startup entry service self).2 = .ok () := by
      rw [ok]
      constructor
      · intro restorable
        exact restorable service rfl
      · rintro claim other found
        cases found
        exact claim
    rw [meaning]
    change ((∃ services, ((restoreService cron prim mnemonic startup entry service >>= fun _ => pure [service] :
      Call (List Service)) self).2 = .ok services) ↔ _) ∧ ∀ services, ((restoreService cron prim mnemonic startup
        entry service >>= fun _ => pure [service] : Call (List Service)) self).2 = .ok services →
      Restoring cron prim mnemonic startup chainConfigs _ ((restoreService cron prim mnemonic startup entry service >>=
        fun _ => pure [service] : Call (List Service)) self).1
    cases called : restoreService cron prim mnemonic startup entry service self with
    | mk middle outcome =>
      rw [called] at after
      cases outcome with
      | error error =>
        rw [Attempt.bind_of_error _ _ _ _ _ called]
        exact ⟨by simp,fun _ impossible => nomatch impossible⟩
      | ok done =>
        rw [Attempt.bind_of_ok _ _ _ _ _ called]
        exact ⟨by simp,fun _ _ => after rfl⟩

/-- The loop ends with every entry handled exactly when the steps of each succeed. -/
theorem restoreAll_ok (chainConfigs : ChainConfigs) (rest handled : List Fetched) (self : Dispatcher)
    (inv : Restoring cron prim mnemonic startup chainConfigs handled self) :
    ((∃ services, (restoreAll cron prim mnemonic startup rest self).2 = .ok services) ↔
        RestoresFrom cron prim mnemonic startup chainConfigs handled rest) ∧
      (∀ services, (restoreAll cron prim mnemonic startup rest self).2 = .ok services →
        Restoring cron prim mnemonic startup chainConfigs (handled ++ rest)
          (restoreAll cron prim mnemonic startup rest self).1) := by
  induction rest generalizing handled self with
  | nil =>
    refine ⟨iff_of_true ⟨[],rfl⟩ trivial,?_⟩
    intro _ _
    rw [List.append_nil]
    exact inv
  | cons fetched rest ih =>
    obtain ⟨ok,after⟩ := restoreEntry_ok chainConfigs handled fetched self inv
    unfold restoreAll RestoresFrom
    rw [← ok]
    cases called : restoreEntry cron prim mnemonic startup fetched self with
    | mk middle outcome =>
      rw [called] at after
      cases outcome with
      | error error =>
        rw [Attempt.bind_of_error _ _ _ _ _ called]
        exact ⟨by simp,fun _ impossible => nomatch impossible⟩
      | ok services =>
        obtain ⟨more,finish⟩ := ih (handled ++ [fetched]) middle (after services rfl)
        rw [Attempt.bind_of_ok _ _ _ _ _ called,← more]
        cases again : restoreAll cron prim mnemonic startup rest middle with
        | mk last outcome =>
          rw [again] at finish
          cases outcome with
          | error error =>
            rw [Attempt.bind_of_error _ _ _ _ _ again]
            exact ⟨by simp,fun _ impossible => nomatch impossible⟩
          | ok others =>
            rw [Attempt.bind_of_ok _ _ _ _ _ again]
            refine ⟨by simp,fun _ _ => ?_⟩
            have finished := finish others rfl
            rw [List.append_assoc,List.singleton_append] at finished
            exact finished

end Dispatcher

theorem Startup.fetchAll_iff (startup : Startup) (chainConfigs : ChainConfigs) (order : List RegistryEntry)
    (fetched : List Fetched) : startup.fetchAll chainConfigs order = some fetched ↔
      fetched.map Prod.fst = order ∧ ∀ one ∈ fetched, startup.query chainConfigs one.1 = some one.2 := by
  unfold fetchAll
  induction order generalizing fetched with
  | nil =>
    constructor
    · intro found
      cases found
      refine ⟨rfl,?_⟩
      intro one member
      cases member
    · rintro ⟨empty,_⟩
      rw [List.map_eq_nil_iff.mp empty]
      rfl
  | cons entry rest ih =>
    rw [List.mapM_cons]
    constructor
    · intro found
      obtain ⟨first,answered,found⟩ := Option.bind_eq_some_iff.mp found
      obtain ⟨others,all,found⟩ := Option.bind_eq_some_iff.mp found
      obtain ⟨result,asked,rfl⟩ := Option.map_eq_some_iff.mp answered
      cases found
      obtain ⟨names,answers⟩ := (ih others).mp all
      refine ⟨by rw [List.map_cons,names],?_⟩
      intro one member
      rcases List.mem_cons.mp member with rfl | member
      · exact asked
      · exact answers one member
    · rintro ⟨names,answers⟩
      obtain ⟨first,others,rfl,rfl,rfl⟩ := List.map_eq_cons_iff.mp names
      rw [answers first List.mem_cons_self,(ih others).mpr
        ⟨rfl,fun one member => answers one (List.mem_cons_of_mem _ member)⟩]
      rfl

namespace Dispatcher

variable (cron : CronLib) (prim : IdPrimitives) (mnemonic : Mnemonic) (startup : Startup)

/-- The dispatcher starts, and the services that run are those of the entries whose own steps
succeed. -/
def RestoredIndependently (chainConfigs : ChainConfigs) (file : Option RegistryState)
    (order : List RegistryEntry) : Prop :=
  ∃ after services, restore cron prim mnemonic startup order (new chainConfigs file) = some (after,.ok services) ∧
    ∀ id, Running prim after id ↔ ∃ entry ∈ (ServiceRegistry.load file).entries, ∃ service,
      startup.query chainConfigs entry = some (.ok service) ∧ service.id prim = id ∧
        Saves startup chainConfigs entry service ∧ Registers cron prim mnemonic startup chainConfigs entry service

/-- The entries are restored independently exactly when none stands in the way of the others: no
query panics, and the later steps of every fetched entry succeed. -/
theorem restored_independently_iff (chainConfigs : ChainConfigs) (file : Option RegistryState)
    (order : List RegistryEntry) (complete : order.Perm (ServiceRegistry.load file).entries) :
    RestoredIndependently cron prim mnemonic startup chainConfigs file order ↔
      ∃ fetched, startup.fetchAll chainConfigs order = some fetched ∧
        RestoresFrom cron prim mnemonic startup chainConfigs [] fetched := by
  have initial := restoring_new cron prim mnemonic startup chainConfigs file
  constructor
  · rintro ⟨after,services,restored,_⟩
    obtain ⟨fetched,answered,result⟩ := Option.map_eq_some_iff.mp restored
    obtain ⟨ok,_⟩ := restoreAll_ok chainConfigs fetched [] _ initial
    exact ⟨fetched,answered,ok.mp ⟨services,by rw [result]⟩⟩
  · rintro ⟨fetched,answered,restores⟩
    obtain ⟨ok,reached⟩ := restoreAll_ok chainConfigs fetched [] _ initial
    obtain ⟨services,returned⟩ := ok.mpr restores
    have inv := reached services returned
    obtain ⟨names,answers⟩ := (startup.fetchAll_iff chainConfigs order fetched).mp answered
    refine ⟨(restoreAll cron prim mnemonic startup fetched (new chainConfigs file)).1,services,?_,?_⟩
    · exact Option.map_eq_some_iff.mpr ⟨fetched,answered,Prod.ext rfl returned⟩
    · intro id
      constructor
      · intro running
        obtain ⟨one,member,service,found,named,saves,registers⟩ := inv.own id running.stored
        refine ⟨one.1,?_,service,?_,named,saves,registers⟩
        · rw [← complete.mem_iff,← names]
          exact List.mem_map_of_mem member
        · rw [answers one member,found]
      · rintro ⟨entry,listed,service,asked,named,_,_⟩
        rw [← complete.mem_iff,← names] at listed
        obtain ⟨one,member,rfl⟩ := List.mem_map.mp listed
        have found : one.2 = .ok service := by
          rw [answers one member] at asked
          exact Option.some.inj asked
        exact inv.runs id ((inv.stored id).mpr ⟨one,member,service,found,named⟩)

end Dispatcher

def secondManager : Address := FixedBytes.ofNat 20 0xe7f1725e7734ce288f8367e1bb143e90bb3f0512

def secondId : ServiceId :=
  ⟨FixedBytes.ofNat 32 0x203e80dd34296dee5079fa7290dc3b92458caf731573be9f4846473564ad8f3b⟩

/-- SHA-256 on the preimages of the two deployed managers. -/
def bothIds : IdPrimitives where
  sha256 bytes :=
    if bytes = utf8 "evmevm:31337" ++ deployedManager.toList then deployedId.inner
    else if bytes = utf8 "evmevm:31337" ++ secondManager.toList then secondId.inner
    else FixedBytes.filled 32 0
  cosmosBytes _ := []

def secondService : Service := {deployedService with manager := .evm localChain secondManager}

def localConfigs : ChainConfigs :=
  ⟨.new,HashMap.new.insert anvilId ⟨["ws://localhost:8545"],some "http://localhost:8545",none,none⟩,
    .new,.new⟩

def firstEntry : RegistryEntry := ⟨.evm localChain deployedManager,1⟩

def secondEntry : RegistryEntry := ⟨.evm localChain secondManager,2⟩

def bothRegistered : RegistryState := ⟨[firstEntry,secondEntry],3,by decide⟩

/-- The chain answers with a URI, at which this document is. -/
def publishes (service : Service) : Replies where
  providerCached := false
  isEndpoint _ := true
  getServiceUri := .ok "https://services.local/service.json"
  cosmosClient := .error "not looked up"
  warpDriveServiceUri := .error "not looked up"
  sorobanEnv := .error "not looked up"
  projectSpecRepo := .error "not looked up"
  contractDisplay _ := ""
  isUri _ := true
  fetchService _ := .ok service

/-- A start at which the first entry has this document. -/
def startsWith (service : Service) : Startup where
  replies entry := if entry = firstEntry then publishes service else publishes secondService
  outcomes _ := reachable
  connected := []

namespace Dispatcher

theorem restores_second (earlier : List Fetched) (service : Service) :
    Restorable everyMinute bothIds operatorMnemonic (startsWith service) localConfigs earlier
      (secondEntry,.ok secondService) := by
  intro other found
  cases found
  have downloads : storeComponentsForService reachable.storeComponentFromSource secondService = .ok () := by
    decide +kernel
  have unconnected : TriggerManager.chainsToWaitFor bothIds localConfigs secondService = [] := by decide +kernel
  have accepts : ∀ workflow ∈ secondService.workflows.entries,
      (connectedLookup (startsWith deployedService) localConfigs).Accepts everyMinute workflow.2.trigger := by
    decide +kernel
  refine ⟨⟨⟨none,rfl⟩,downloads⟩,.inl ⟨⟨by decide,_,rfl⟩,nofun,?_,accepts⟩⟩
  rw [unconnected]
  exact nofun

theorem both_restored :
    [secondEntry,firstEntry].Perm (ServiceRegistry.load (some bothRegistered)).entries ∧
      RestoredIndependently everyMinute bothIds operatorMnemonic (startsWith deployedService) localConfigs
        (some bothRegistered) [secondEntry,firstEntry] := by
  have complete : [secondEntry,firstEntry].Perm (ServiceRegistry.load (some bothRegistered)).entries :=
    List.Perm.swap _ _ _
  refine ⟨complete,(restored_independently_iff _ _ _ _ _ _ _ complete).mpr
    ⟨[(secondEntry,.ok secondService),(firstEntry,.ok deployedService)],by decide +kernel,
      restores_second _ _,?_,trivial⟩⟩
  intro other found
  cases found
  exact ⟨⟨⟨none,rfl⟩,by decide +kernel⟩,.inl ⟨⟨by decide,_,rfl⟩,nofun,by decide +kernel,by decide +kernel⟩⟩

theorem neighbour_stops_restore :
    [firstEntry,secondEntry].Perm (ServiceRegistry.load (some bothRegistered)).entries ∧
      ¬RestoredIndependently everyMinute bothIds operatorMnemonic (startsWith watchingService) localConfigs
        (some bothRegistered) [firstEntry,secondEntry] ∧
      Saves (startsWith watchingService) localConfigs secondEntry secondService ∧
      Registers everyMinute bothIds operatorMnemonic (startsWith watchingService) localConfigs secondEntry
        secondService ∧
      (restore everyMinute bothIds operatorMnemonic (startsWith watchingService) [firstEntry,secondEntry]
        (new localConfigs (some bothRegistered))).map Prod.snd =
          some (.error (.trigger (.stellarMissingClient testnet))) := by
  have stopped : (restore everyMinute bothIds operatorMnemonic (startsWith watchingService) [firstEntry,secondEntry]
      (new localConfigs (some bothRegistered))).map Prod.snd =
        some (.error (.trigger (.stellarMissingClient testnet))) := by
    decide +kernel
  obtain ⟨saves,registers⟩ := restores_second [] watchingService secondService rfl
  refine ⟨List.Perm.refl _,?_,saves,registers.resolve_right ?_,stopped⟩
  · rintro ⟨after,services,restored,_⟩
    rw [restored] at stopped
    cases stopped
  · rintro ⟨earlier,member,_⟩
    cases member

end Dispatcher
end Warpdrive.Dispatch
