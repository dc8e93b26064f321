import Warpdrive.Trigger.Consistency
import Warpdrive.Trigger.Survival

/-! Which service an announced URI goes to. Services are registered and removed in the
lookup maps while the watcher takes its items. The managers of the registered services are
kept beside the watcher; the code has only their addresses. A service is registered from
the call of `add_service` on, also where one of its triggers is refused. -/
namespace Warpdrive.Trigger

open Warpdrive.Foundation Warpdrive.Types Warpdrive.Foundation.Execution

namespace Lookup

variable (cron : CronLib)

theorem insertTrigger_serviceManager (self : Lookup) (lookupId : LookupId) (trigger : Trigger) :
    (insertTrigger cron self lookupId trigger).1.serviceManager = self.serviceManager := by
  cases trigger with
  | evmContractEvent address chain eventHash => rfl
  | cosmosContractEvent address chain eventType => rfl
  | manual => rfl
  | stellarContractEvent chain contractId topicSegments =>
    simp only [insertTrigger]
    split
    · rfl
    · split <;> rfl
  | blockInterval chain nBlocks startBlock endBlock =>
    simp only [insertTrigger]
    split <;> rfl
  | cron schedule startTime endTime =>
    simp only [insertTrigger]
    split
    · rfl
    · split <;> rfl
  | atProtoEvent collection repoDid action =>
    simp only [insertTrigger]
    split <;> rfl

theorem addTriggers_serviceManager (configs : List TriggerConfig) (self : Lookup) :
    (addTriggers cron self configs).1.serviceManager = self.serviceManager := by
  induction configs generalizing self with
  | nil => rfl
  | cons config configs ih =>
    have inserted := insertTrigger_serviceManager cron {self with lookupId := self.lookupId + 1}
      self.lookupId config.trigger
    simp only [addTriggers,addTrigger]
    rcases result : insertTrigger cron {self with lookupId := self.lookupId + 1} self.lookupId config.trigger
      with ⟨next,_ | _⟩
    · simpa [result] using inserted
    · simp only
      rw [ih]
      simpa [result] using inserted

theorem addService_serviceManager (prim : IdPrimitives) (self : Lookup) (service : Service) :
    (addService cron prim self service).1.serviceManager =
      self.serviceManager.insert (service.id prim) service.manager.address := by
  unfold addService
  rw [addTriggers_serviceManager]

theorem removeTrigger_serviceManager (self : Lookup) (lookupId : LookupId) (trigger : Trigger) :
    (removeTrigger cron self lookupId trigger).1.serviceManager = self.serviceManager := by
  cases trigger with
  | evmContractEvent address chain eventHash => rfl
  | cosmosContractEvent address chain eventType => rfl
  | manual => rfl
  | cron schedule startTime endTime => rfl
  | stellarContractEvent chain contractId topicSegments =>
    simp only [removeTrigger]
    split
    · rfl
    · split <;> rfl
  | blockInterval chain nBlocks startBlock endBlock =>
    simp only [removeTrigger]
    split <;> rfl
  | atProtoEvent collection repoDid action =>
    simp only [removeTrigger]
    split <;> rfl

theorem removeTriggers_serviceManager (lookupIds : List LookupId) (self : Lookup) :
    (removeTriggers cron self lookupIds).1.serviceManager = self.serviceManager := by
  induction lookupIds generalizing self with
  | nil => rfl
  | cons lookupId lookupIds ih =>
    have removed : (removeLookup cron self lookupId).1.serviceManager = self.serviceManager := by
      unfold removeLookup
      split
      · rfl
      · exact removeTrigger_serviceManager cron self lookupId _
    simp only [removeTriggers]
    rcases result : removeLookup cron self lookupId with ⟨next,_ | _⟩
    · simpa [result] using removed
    · simp only
      rw [ih]
      simpa [result] using removed

theorem removeService_serviceManager (self : Lookup) (serviceId : ServiceId) :
    (removeService cron self serviceId).1.serviceManager = self.serviceManager.removeByLeft serviceId := by
  simp only [removeService]
  split
  · rfl
  · next workflows _ =>
    have removed := removeTriggers_serviceManager cron (workflows.entries.map Prod.snd)
      {self with serviceManager := self.serviceManager.removeByLeft serviceId}
    split
    · next result => simpa [result] using removed
    · next result => simpa [result] using removed

end Lookup

namespace Manager

theorem processBlocks_serviceManager (isActive : ServiceId → Bool) (self : Manager) (chain : ChainKey)
    (blockHeight : UInt64) :
    (self.processBlocks isActive chain blockHeight).1.lookup.serviceManager = self.lookup.serviceManager := by
  unfold processBlocks
  split
  · rfl
  · split <;> rfl

theorem mem_changeServiceUri (self : Manager) (address : ChainAddress) (uri other : String) (serviceId : ServiceId) :
    .changeServiceUri serviceId other ∈ self.changeServiceUri address uri ↔
      self.lookup.serviceManager.Relates serviceId address ∧ other = uri := by
  rw [← BiMap.getByRight_iff]
  unfold changeServiceUri
  cases self.lookup.serviceManager.getByRight address <;> simp [eq_comm]

theorem not_mem_triggerActions (isActive : ServiceId → Bool) (self : Manager) (lookupIds : List LookupId)
    (data : TriggerData) (serviceId : ServiceId) (uri : String) :
    .changeServiceUri serviceId uri ∉ self.triggerActions isActive lookupIds data := by
  simp [triggerActions]

theorem not_mem_indexedActions (isActive : ServiceId → Bool) (self : Manager)
    (found : Option (HashSet LookupId)) (data : TriggerData) (serviceId : ServiceId) (uri : String) :
    .changeServiceUri serviceId uri ∉ self.indexedActions isActive found data := by
  cases found with
  | none => exact List.not_mem_nil
  | some lookupIds => exact self.not_mem_triggerActions isActive lookupIds.toList data serviceId uri

theorem not_mem_processBlocks (isActive : ServiceId → Bool) (self : Manager) (chain : ChainKey)
    (blockHeight : UInt64) (serviceId : ServiceId) (uri : String) :
    .changeServiceUri serviceId uri ∉ (self.processBlocks isActive chain blockHeight).2 := by
  unfold processBlocks
  split
  · exact List.not_mem_nil
  · split
    · exact List.not_mem_nil
    · exact self.not_mem_triggerActions isActive _ _ serviceId uri

end Manager

namespace Watcher

theorem handle_serviceManager (lib : EventLib) (isActive : ServiceId → Bool) (connecting : Connecting)
    (self : Watcher) (item : Except TriggerError StreamTriggers) :
    (self.handle lib isActive connecting item).1.lookup.serviceManager = self.lookup.serviceManager := by
  cases item with
  | error error => rfl
  | ok item =>
    cases item with
    | evm event =>
      simp only [handle]
      split <;> rfl
    | localCommand command =>
      exact congrArg LookupMaps.serviceManager (onLocalCommand_lookupMaps lib connecting self command)
    | cosmos chain contractEvents blockHeight =>
      exact self.toManager.processBlocks_serviceManager isActive chain blockHeight
    | evmBlock chain blockHeight =>
      exact self.toManager.processBlocks_serviceManager isActive chain blockHeight
    | stellarLedgerSequence chain ledger =>
      exact self.toManager.processBlocks_serviceManager isActive chain ledger.toUInt64
    | _ => rfl

end Watcher

/-- The URIs that an item announces, each with the chain and the address it comes from. -/
def updates (lib : EventLib) : Except TriggerError StreamTriggers → List (ChainKey × ChainAddress × String)
  | .ok (.evm event) =>
    match Manager.evmServiceUri lib event with
    | .ok (some uri) => [(event.chain,.evm event.contractAddress,uri)]
    | _ => []
  | .ok (.stellarEvent event _) =>
    match Manager.stellarServiceUri lib event with
    | some (contract,uri) => [(event.chain,.stellarContract contract,uri)]
    | none => []
  | .ok (.cosmos chain contractEvents _) =>
    contractEvents.filterMap (fun contractEvent =>
      if lib.isType contractEvent.event wavsServiceUriUpdatedEvent then
        (Manager.cosmosServiceUri lib contractEvent.event).map
          (fun uri => (chain,.cosmos contractEvent.contractAddress,uri))
      else none)
  | _ => []

namespace Watcher

theorem mem_onCosmosEvent (lib : EventLib) (isActive : ServiceId → Bool) (self : Manager) (chain : ChainKey)
    (blockHeight : UInt64) (contractEvent : StreamTriggerCosmosContractEvent) (serviceId : ServiceId)
    (uri : String) :
    .changeServiceUri serviceId uri ∈ self.onCosmosEvent lib isActive chain blockHeight contractEvent ↔
      lib.isType contractEvent.event wavsServiceUriUpdatedEvent = true ∧
        Manager.cosmosServiceUri lib contractEvent.event = some uri ∧
        self.lookup.serviceManager.Relates serviceId (.cosmos contractEvent.contractAddress) := by
  have triggers := self.not_mem_indexedActions isActive
    (self.lookup.triggersByCosmosContractEvent.get
      (chain,contractEvent.contractAddress,contractEvent.event.ty))
    (.cosmosContractEvent ⟨contractEvent.contractAddress,chain,contractEvent.event,blockHeight,
      contractEvent.eventIndex⟩) serviceId uri
  simp only [Manager.onCosmosEvent]
  split
  · next typed =>
    cases decoded : Manager.cosmosServiceUri lib contractEvent.event with
    | none => simp
    | some text =>
      simp only [List.mem_append,triggers,or_false,Manager.mem_changeServiceUri,typed,true_and,
        Option.some.injEq]
      rw [and_comm,eq_comm]
  · next typed => simp [triggers,typed]

/-- An announced URI goes to the service that the lookup maps have for the address. -/
theorem mem_handle (lib : EventLib) (isActive : ServiceId → Bool) (connecting : Connecting) (self : Watcher)
    (item : Except TriggerError StreamTriggers) (serviceId : ServiceId) (uri : String) :
    .changeServiceUri serviceId uri ∈ (self.handle lib isActive connecting item).2.commands ↔
      ∃ chain address, (chain,address,uri) ∈ updates lib item ∧
        self.lookup.serviceManager.Relates serviceId address := by
  cases item with
  | error error => simp [handle,updates,Reply.commands]
  | ok item =>
    cases item with
    | cron hits => simp [handle,updates,Reply.commands,Manager.onCron]
    | atProto event =>
      simp [handle,updates,Reply.commands,Manager.onAtProto,Manager.not_mem_triggerActions]
    | evmBlock chain blockHeight =>
      simp [handle,updates,Reply.commands,Manager.not_mem_processBlocks]
    | stellarLedgerSequence chain ledger =>
      simp [handle,updates,Reply.commands,Manager.not_mem_processBlocks]
    | localCommand command =>
      have none_ : .changeServiceUri serviceId uri ∉ (self.onLocalCommand lib connecting command).2.commands := by
        cases command with
        | startListeningChain chain =>
          simp only [onLocalCommand]
          split <;> simp [Reply.commands]
        | _ => simp [onLocalCommand,Reply.commands]
      simpa [handle,updates] using none_
    | evm event =>
      simp only [handle,updates,Manager.onEvm]
      cases topic : event.logData.topics.head? with
      | none => simp [Reply.commands,Manager.evmServiceUri,topic]
      | some eventHash =>
        rcases decoded : Manager.evmServiceUri lib event with error | _ | text
        · simp [Reply.commands]
        · simp [Reply.commands,Manager.not_mem_indexedActions]
        · simp [Reply.commands,Manager.not_mem_indexedActions,Manager.mem_changeServiceUri,and_comm]
    | stellarEvent event rpcIds =>
      simp only [handle,Reply.commands,Manager.onStellarEvent,List.mem_append,
        Manager.not_mem_triggerActions,or_false,updates]
      cases decoded : Manager.stellarServiceUri lib event with
      | none => simp
      | some found => simp [Manager.mem_changeServiceUri,and_comm]
    | cosmos chain contractEvents blockHeight =>
      simp only [handle,Reply.commands,List.mem_append,Manager.not_mem_processBlocks,or_false,updates,
        List.mem_flatMap,mem_onCosmosEvent,List.mem_filterMap]
      constructor
      · rintro ⟨contractEvent,member,typed,decoded,related⟩
        exact ⟨chain,_,⟨contractEvent,member,by simp [typed,decoded]⟩,related⟩
      · rintro ⟨_,address,⟨contractEvent,member,announced⟩,related⟩
        split at announced
        · next typed =>
          simp only [Option.map_eq_some_iff,Prod.mk.injEq] at announced
          obtain ⟨text,decoded,_,rfl,rfl⟩ := announced
          exact ⟨contractEvent,member,typed,decoded,related⟩
        · cases announced

end Watcher

/-- The watcher with the managers of the registered services. -/
structure Registry where
  watcher : Watcher
  managers : HashMap ServiceId ServiceManager

namespace Registry

inductive Act
  | addService (service : Service)
  | removeService (serviceId : ServiceId)
  | arrive (isActive : ServiceId → Bool) (connecting : Connecting)
      (item : Except TriggerError StreamTriggers)

variable (cron : CronLib) (prim : IdPrimitives) (lib : EventLib)

def setLookup (self : Registry) (lookup : Lookup) : Registry :=
  {self with watcher := self.watcher.sharing {self.watcher.toManager with lookup := lookup}}

def step (self : Registry) : Act → Option Registry
  | .addService service =>
    let self := self.setLookup (self.watcher.lookup.addService cron prim service).1
    some {self with managers := self.managers.insert (service.id prim) service.manager}
  | .removeService serviceId =>
    let self := self.setLookup (self.watcher.lookup.removeService cron serviceId).1
    some {self with managers := self.managers.remove serviceId}
  | .arrive isActive connecting item =>
    match self.watcher.handle lib isActive connecting item with
    | (watcher,.sent _) => some {self with watcher}
    | _ => none

/-- An announced URI goes to the registered services whose manager is at the address on the
chain that announces it and to no others, and a service that is added displaces no entry of
another one. -/
def RoutesRightly (self : Registry) (act : Act) (next : Registry) : Prop :=
  match act with
  | .addService service => ∀ serviceId address, serviceId ≠ service.id prim →
    self.watcher.lookup.serviceManager.Relates serviceId address →
      next.watcher.lookup.serviceManager.Relates serviceId address
  | .removeService _ => True
  | .arrive isActive connecting item => ∀ serviceId uri,
    .changeServiceUri serviceId uri ∈ (self.watcher.handle lib isActive connecting item).2.commands ↔
      ∃ manager, self.managers.get serviceId = some manager ∧
        (manager.chain,manager.address,uri) ∈ updates lib item

/-- A service that is added has its address to itself among the registered ones, and no
registered service has on another chain an address that announces a URI. -/
def Distinct (self : Registry) : Act → Prop
  | .addService service => ∀ serviceId manager, self.managers.get serviceId = some manager →
    serviceId ≠ service.id prim → manager.address ≠ service.manager.address
  | .removeService _ => True
  | .arrive _ _ item => ∀ serviceId manager chain uri, self.managers.get serviceId = some manager →
    (chain,manager.address,uri) ∈ updates lib item → manager.chain = chain

/-- The entries of `service_manager` are the addresses of the registered managers. -/
def Recorded (self : Registry) : Prop :=
  ∀ serviceId address, self.watcher.lookup.serviceManager.Relates serviceId address ↔
    ∃ manager, self.managers.get serviceId = some manager ∧ manager.address = address

theorem updates_chain (item : Except TriggerError StreamTriggers) :
    ∃ chain, ∀ update ∈ updates lib item, update.1 = chain := by
  have nowhere : ∃ chain : ChainKey, ∀ update ∈ ([] : List (ChainKey × ChainAddress × String)),
      update.1 = chain := ⟨⟨.dev,⟨"0",by decide⟩⟩,by simp⟩
  cases item with
  | error error => exact nowhere
  | ok item =>
    cases item with
    | evm event =>
      refine ⟨event.chain,fun update member => ?_⟩
      simp only [updates] at member
      split at member
      · rw [List.mem_singleton.mp member]
      · cases member
    | stellarEvent event rpcIds =>
      refine ⟨event.chain,fun update member => ?_⟩
      simp only [updates] at member
      split at member
      · rw [List.mem_singleton.mp member]
      · cases member
    | cosmos chain contractEvents blockHeight =>
      refine ⟨chain,fun update member => ?_⟩
      obtain ⟨contractEvent,_,announced⟩ := List.mem_filterMap.mp member
      split at announced
      · obtain ⟨uri,_,rfl⟩ := Option.map_eq_some_iff.mp announced
        rfl
      · cases announced
    | _ => exact nowhere

theorem routes_arrive_iff (self : Registry) (recorded : self.Recorded) (isActive : ServiceId → Bool)
    (connecting : Connecting) (item : Except TriggerError StreamTriggers) (next : Registry) :
    self.RoutesRightly prim lib (.arrive isActive connecting item) next ↔
      self.Distinct prim lib (.arrive isActive connecting item) := by
  constructor
  · intro routes serviceId manager chain uri registered announced
    have related : self.watcher.lookup.serviceManager.Relates serviceId manager.address :=
      (recorded serviceId manager.address).mpr ⟨manager,registered,rfl⟩
    have sent := (Watcher.mem_handle lib isActive connecting self.watcher item serviceId uri).mpr
      ⟨chain,manager.address,announced,related⟩
    obtain ⟨other,same,own⟩ := (routes serviceId uri).mp sent
    rw [registered] at same
    cases same
    obtain ⟨only,all⟩ := updates_chain lib item
    exact (all _ own).trans (all _ announced).symm
  · intro distinct serviceId uri
    rw [Watcher.mem_handle]
    constructor
    · rintro ⟨chain,address,announced,related⟩
      obtain ⟨manager,registered,rfl⟩ := (recorded serviceId address).mp related
      rw [← distinct serviceId manager chain uri registered announced] at announced
      exact ⟨manager,registered,announced⟩
    · rintro ⟨manager,registered,announced⟩
      exact ⟨manager.chain,manager.address,announced,
        (recorded serviceId manager.address).mpr ⟨manager,registered,rfl⟩⟩

theorem routes_iff_distinct (self next : Registry) (act : Act) (taken : self.step cron prim lib act = some next)
    (recorded : self.Recorded) : self.RoutesRightly prim lib act next ↔ self.Distinct prim lib act := by
  cases act with
  | removeService serviceId => exact Iff.rfl
  | arrive isActive connecting item =>
    exact routes_arrive_iff prim lib self recorded isActive connecting item next
  | addService service =>
    cases taken
    have entries := Lookup.addService_serviceManager cron prim self.watcher.lookup service
    simp only [RoutesRightly,Distinct,setLookup,Watcher.sharing,entries,BiMap.relates_insert]
    constructor
    · intro keeps serviceId manager registered apart
      have related := (recorded serviceId manager.address).mpr ⟨manager,registered,rfl⟩
      rcases keeps serviceId manager.address apart related with ⟨same,_⟩ | ⟨_,differs,_⟩
      · exact absurd same apart
      · exact differs
    · intro distinct serviceId address apart related
      obtain ⟨manager,registered,rfl⟩ := (recorded serviceId address).mp related
      exact .inr ⟨apart,distinct serviceId manager registered apart,related⟩

theorem recorded_step (self next : Registry) (act : Act) (taken : self.step cron prim lib act = some next)
    (distinct : self.Distinct prim lib act) (recorded : self.Recorded) : next.Recorded := by
  cases act with
  | addService service =>
    cases taken
    have entries := Lookup.addService_serviceManager cron prim self.watcher.lookup service
    intro serviceId address
    simp only [setLookup,Watcher.sharing,entries,BiMap.relates_insert,HashMap.get_insert]
    by_cases same : serviceId = service.id prim
    · simp [same,eq_comm]
    · simp only [same,false_and,false_or,if_false,recorded serviceId address]
      constructor
      · exact fun kept => kept.2.2
      · rintro ⟨manager,registered,rfl⟩
        exact ⟨same,distinct serviceId manager registered same,manager,registered,rfl⟩
  | removeService removed =>
    cases taken
    have entries := Lookup.removeService_serviceManager cron self.watcher.lookup removed
    intro serviceId address
    simp only [setLookup,Watcher.sharing,entries,BiMap.relates_removeByLeft,HashMap.get_remove]
    by_cases same : serviceId = removed
    · simp [same]
    · simp [same,recorded serviceId address]
  | arrive isActive connecting item =>
    have entries := Watcher.handle_serviceManager lib isActive connecting self.watcher item
    simp only [step] at taken
    split at taken
    · next watcher commands handled =>
      cases taken
      rw [handled] at entries
      intro serviceId address
      rw [← recorded serviceId address,← entries]
    · cases taken

def fresh (chainConfigs : ChainConfigs) (disableNetworking : Bool) : Registry :=
  ⟨(Manager.new chainConfigs disableNetworking).watch,.new⟩

theorem recorded_fresh (chainConfigs : ChainConfigs) (disableNetworking : Bool) :
    (fresh chainConfigs disableNetworking).Recorded := by
  intro serviceId address
  simp [fresh,Manager.new,Manager.watch,LookupMaps.new]

/-- Along a run, every URI is routed to the services it is for exactly when at each step the
addresses of the registered services are distinct and announce on their own chains only. -/
theorem uris_routed_iff_distinct (chainConfigs : ChainConfigs) (disableNetworking : Bool)
    (acts : List Act) :
    Along (step cron prim lib) (RoutesRightly prim lib) (fresh chainConfigs disableNetworking) acts ↔
      Along (step cron prim lib) (fun self act _ => self.Distinct prim lib act)
        (fresh chainConfigs disableNetworking) acts :=
  along_iff_of_invariant _ _ Recorded
    (fun self act next taken recorded => routes_iff_distinct cron prim lib self next act taken recorded)
    (fun self act next taken distinct recorded => recorded_step cron prim lib self next act taken distinct recorded)
    _ acts (recorded_fresh chainConfigs disableNetworking)

end Registry

def twinChain : ChainKey := ⟨.evm,⟨"31338",by decide⟩⟩

/-- The service of a manager that is deployed to the same address on a second chain. -/
def twinService : Service := {deployedService with manager := .evm twinChain deployedManager}

def twinId : ServiceId :=
  ⟨FixedBytes.ofNat 32 0x7b2c22515e33e70cee79164b6d8d13ff0da1ef2d1fa9e149bd4bea4385e098b4⟩

/-- SHA-256 on the preimages of the two services. -/
def twinIds : IdPrimitives where
  sha256 bytes :=
    if bytes = utf8 "evmevm:31337" ++ deployedManager.toList then deployedId.inner
    else if bytes = utf8 "evmevm:31338" ++ deployedManager.toList then twinId.inner
    else FixedBytes.filled 32 0
  cosmosBytes _ := []

/-- The log of the manager on the first chain. -/
def deployedLog : Except TriggerError StreamTriggers :=
  .ok (.evm {Watcher.uriLog (Watcher.abiString "ipfs://spec") with contractAddress := deployedManager})

def twinSchedule : List Registry.Act := [.addService deployedService,.addService twinService]

/-- The URI that the manager of the one service announces goes to the other service. -/
theorem twin_receives_foreign_uri :
    ((run (Registry.step everyMinute twinIds Watcher.twoStrings)
        (Registry.fresh ⟨.new,.new,.new,.new⟩ false) twinSchedule).any (fun self =>
      self.managers.get deployedId = some (.evm localChain deployedManager) ∧
      self.managers.get twinId = some (.evm twinChain deployedManager) ∧
      (updates Watcher.twoStrings deployedLog) = [(localChain,.evm deployedManager,"ipfs://spec")] ∧
      (self.watcher.handle Watcher.twoStrings (fun _ => true) .succeeds deployedLog).2.commands =
        [.changeServiceUri twinId "ipfs://spec"] ∧
      ¬self.watcher.lookup.serviceManager.Relates deployedId (.evm deployedManager))) = true := by
  decide +kernel

end Warpdrive.Trigger
