import Warpdrive.Types.ChainConfig
import Warpdrive.Trigger.Schedulers

/-! The trigger lookup maps (`trigger/lookup.rs`) and the event filters of a Stellar
stream client (`stellar_stream/filters.rs`). An operation takes the maps together
with the Stellar controllers it is handed and leaves both with its result, also when
it fails. A lookup id counts up without bound. -/
namespace Warpdrive.Trigger

open Warpdrive.Foundation Warpdrive.Types

abbrev StellarRpcId := Nat

structure StellarEventFilter where
  contractId : String
  topicSegmentsXdrBase64 : List String
  deriving DecidableEq

def base64Digit (value : Nat) : Char :=
  if value < 26 then Char.ofNat (65 + value)
  else if value < 52 then Char.ofNat (71 + value)
  else if value < 62 then Char.ofNat (value - 4)
  else if value = 62 then '+'
  else '/'

def base64Encode : List UInt8 → List Char
  | a::b::c::rest =>
    [base64Digit (a.toNat / 4),base64Digit (a.toNat % 4 * 16 + b.toNat / 16),
      base64Digit (b.toNat % 16 * 4 + c.toNat / 64),base64Digit (c.toNat % 64)] ++ base64Encode rest
  | [a,b] =>
    [base64Digit (a.toNat / 4),base64Digit (a.toNat % 4 * 16 + b.toNat / 16),
      base64Digit (b.toNat % 16 * 4),'=']
  | [a] => [base64Digit (a.toNat / 4),base64Digit (a.toNat % 4 * 16),'=','=']
  | [] => []

namespace StellarEventFilter

def encodeTopicSegment : StellarTopicSegment → Except StellarClientError String
  | .exact scval => .ok (String.ofList (base64Encode scval.xdr))
  | .wildcard => .ok "*"
  | .restWildcard => .error (.invalidWildcard "**")

def new (contractId : String) (topicSegments : List StellarTopicSegment) :
    Except StellarClientError StellarEventFilter := do
  let topicSegmentsXdrBase64 ← topicSegments.mapM encodeTopicSegment
  pure ⟨contractId,topicSegmentsXdrBase64⟩

end StellarEventFilter

structure EventFilters where
  list : SlotMap StellarEventFilter
  dedupeList : HashMap StellarEventFilter (List StellarRpcId)

namespace EventFilters

def new (keys : SlotKeys) : EventFilters := ⟨.new keys,.new⟩

def addFilter (self : EventFilters) (filter : StellarEventFilter) : StellarRpcId × EventFilters :=
  let (id,list) := self.list.insert filter
  (id,⟨list,self.dedupeList.insert filter (((self.dedupeList.get filter).getD []) ++ [id])⟩)

def removeFilterById (self : EventFilters) (id : StellarRpcId) : EventFilters :=
  match self.list.get id with
  | none => self
  | some filter =>
    let list := self.list.remove id
    match self.dedupeList.get filter with
    | none => ⟨list,self.dedupeList⟩
    | some ids =>
      let ids := ids.filter (fun existing => existing ≠ id)
      if ids.isEmpty then ⟨list,self.dedupeList.remove filter⟩
      else ⟨list,self.dedupeList.insert filter ids⟩

/-- The handle names the filter in the client, in both of its views. -/
def Handles (self : EventFilters) (id : StellarRpcId) (filter : StellarEventFilter) : Prop :=
  self.list.get id = some filter ∧ ∃ ids, self.dedupeList.get filter = some ids ∧ id ∈ ids

theorem addFilter_fst (self : EventFilters) (filter : StellarEventFilter) :
    (self.addFilter filter).1 = self.list.next := rfl

theorem list_addFilter (self : EventFilters) (filter : StellarEventFilter) (id : StellarRpcId) :
    (self.addFilter filter).2.list.get id =
      if id = self.list.next then some filter else self.list.get id :=
  self.list.get_insert filter id

theorem list_removeFilterById (self : EventFilters) (id other : StellarRpcId) :
    (self.removeFilterById id).list.get other = if other = id then none else self.list.get other := by
  unfold removeFilterById
  split
  · next missing =>
    by_cases same : other = id
    · simp [same,missing]
    · simp [same]
  · simp only
    split
    · exact self.list.get_remove id other
    · split
      · exact self.list.get_remove id other
      · exact self.list.get_remove id other

theorem handles_addFilter (self : EventFilters) (filter : StellarEventFilter) :
    (self.addFilter filter).2.Handles self.list.next filter := by
  refine ⟨by simp [list_addFilter],_,HashMap.get_insert_self _ _ _,?_⟩
  exact List.mem_append_right _ List.mem_cons_self

/-- Adding a filter leaves every other handle, also of the same filter. -/
theorem handles_addFilter_other (self : EventFilters) (filter other : StellarEventFilter)
    (id : StellarRpcId) (apart : id ≠ self.list.next) :
    (self.addFilter filter).2.Handles id other ↔ self.Handles id other := by
  unfold Handles
  rw [list_addFilter,if_neg apart]
  apply and_congr_right
  intro _
  unfold addFilter
  simp only [HashMap.get_insert]
  by_cases same : other = filter
  · subst other
    have minted : (self.list.insert filter).1 = self.list.next := rfl
    cases found : self.dedupeList.get filter <;> simp [minted,apart]
  · simp [same]

/-- Removing a handle leaves every other one, also of the same filter. -/
theorem handles_removeFilterById (self : EventFilters) (id other : StellarRpcId)
    (filter : StellarEventFilter) (apart : other ≠ id) :
    (self.removeFilterById id).Handles other filter ↔ self.Handles other filter := by
  unfold Handles
  rw [list_removeFilterById,if_neg apart]
  apply and_congr_right
  intro _
  unfold removeFilterById
  split
  · rfl
  · next removed _ =>
    simp only
    split
    · rfl
    · next ids found =>
      split
      · next empty =>
        simp only [HashMap.get_remove]
        by_cases same : filter = removed
        · subst filter
          have gone : other ∉ ids := by
            intro member
            have kept : other ∈ ids.filter (fun existing => existing ≠ id) := by
              simp [member,apart]
            rw [List.isEmpty_iff.mp empty] at kept
            cases kept
          simp [found,gone]
        · simp [same]
      · simp only [HashMap.get_insert]
        by_cases same : filter = removed
        · subst filter
          simp [found,apart]
        · simp [same]

end EventFilters

/-- `StellarStreamController`, with the filters of its client. -/
structure StellarStreamController where
  ledgerPollingEnabled : Bool
  eventFilters : EventFilters

abbrev StellarControllers := HashMap ChainKey StellarStreamController

/-- `update_event_filters` of the client of one controller. -/
def StellarControllers.updateEventFilters (self : StellarControllers) (chain : ChainKey)
    (controller : StellarStreamController) (filters : EventFilters) : StellarControllers :=
  self.insert chain {controller with eventFilters := filters}

abbrev AtProtoIndexKey := String × Option String × Option AtProtoAction

structure LookupMaps where
  triggerConfigs : HashMap LookupId TriggerConfig
  triggersByCosmosContractEvent : Index (ChainKey × CosmosAddr × String) LookupId
  triggersByEvmContractEvent : Index (ChainKey × Address × FixedBytes 32) LookupId
  triggersByStellarContractEvent : BiMap StellarRpcId LookupId
  triggersByAtprotoEventExact : Index AtProtoIndexKey LookupId
  triggersByAtprotoEventPattern : Index AtProtoIndexKey LookupId
  serviceManager : BiMap ServiceId ChainAddress
  blockSchedulers : HashMap ChainKey BlockScheduler
  triggersByServiceWorkflow : HashMap ServiceId (BTreeMap WorkflowId LookupId)
  lookupId : LookupId
  cronScheduler : CronScheduler

/-- The lookup maps and the Stellar controllers their operations are handed. -/
structure Lookup extends LookupMaps where
  stellarControllers : StellarControllers

def LookupMaps.new : LookupMaps where
  triggerConfigs := .new
  triggersByCosmosContractEvent := .new
  triggersByEvmContractEvent := .new
  triggersByStellarContractEvent := .new
  triggersByAtprotoEventExact := .new
  triggersByAtprotoEventPattern := .new
  serviceManager := .new
  blockSchedulers := .new
  triggersByServiceWorkflow := .new
  lookupId := 0
  cronScheduler := .new

/-- `collection.contains('*')`. -/
def isCollectionPattern (collection : String) : Bool := collection.toList.contains '*'

namespace LookupMaps

def getTriggerConfig (isActive : ServiceId → Bool) (self : LookupMaps) (lookupId : LookupId) :
    Option TriggerConfig :=
  (self.triggerConfigs.get lookupId).filter (fun config => isActive config.serviceId)

def getTriggerConfigs (isActive : ServiceId → Bool) (self : LookupMaps) (lookupIds : List LookupId) :
    List TriggerConfig :=
  (lookupIds.filterMap self.triggerConfigs.get).filter (fun config => isActive config.serviceId)

/-- The lookup id of a workflow. -/
def workflowLookup (self : LookupMaps) (serviceId : ServiceId) (workflowId : WorkflowId) : Option LookupId :=
  (self.triggersByServiceWorkflow.get serviceId).bind (fun workflows => workflows.get workflowId)

def configsForService (self : LookupMaps) (serviceId : ServiceId) :
    Except TriggerError (List TriggerConfig) :=
  match self.triggersByServiceWorkflow.get serviceId with
  | none => .error (.noSuchService serviceId)
  | some workflows =>
    workflows.entries.mapM (fun entry =>
      match self.triggerConfigs.get entry.2 with
      | none => .error (.noSuchTriggerData entry.2)
      | some config => .ok config)

end LookupMaps

namespace Lookup

variable (cron : CronLib)

/-- The arms of `add_trigger`: the lookup id goes into the index or scheduler of its
trigger. -/
def insertTrigger (self : Lookup) (lookupId : LookupId) : Trigger → Lookup × Except TriggerError Unit
  | .evmContractEvent address chain eventHash =>
    ({self with triggersByEvmContractEvent :=
        self.triggersByEvmContractEvent.add (chain,address,eventHash) lookupId},.ok ())
  | .cosmosContractEvent address chain eventType =>
    ({self with triggersByCosmosContractEvent :=
        self.triggersByCosmosContractEvent.add (chain,address,eventType) lookupId},.ok ())
  | .stellarContractEvent chain contractId topicSegments =>
    match StellarEventFilter.new contractId topicSegments with
    | .error error => (self,.error (.stellarClient error))
    | .ok filter =>
      match self.stellarControllers.get chain with
      | none => (self,.error (.stellarMissingClient chain))
      | some controller =>
        let (rpcId,filters) := controller.eventFilters.addFilter filter
        ({self with
          stellarControllers := self.stellarControllers.updateEventFilters chain controller filters
          triggersByStellarContractEvent :=
            self.triggersByStellarContractEvent.insert rpcId lookupId},.ok ())
  | .blockInterval chain nBlocks startBlock endBlock =>
    let scheduler := (self.blockSchedulers.get chain).getD .new
    match scheduler.addTrigger blockInterval
        (.new lookupId nBlocks (startBlock.map .mk) (endBlock.map .mk)) with
    | .error error =>
      ({self with blockSchedulers := self.blockSchedulers.insert chain scheduler},.error error)
    | .ok (_,scheduler) =>
      ({self with blockSchedulers := self.blockSchedulers.insert chain scheduler},.ok ())
  | .cron schedule startTime endTime =>
    match cron.parse schedule with
    | .error reason => (self,.error (.cron schedule reason))
    | .ok () =>
      match self.cronScheduler.addTrigger (cronInterval cron)
          (.new lookupId schedule startTime endTime) with
      | .error error => (self,.error error)
      | .ok (_,scheduler) => ({self with cronScheduler := scheduler},.ok ())
  | .atProtoEvent collection repoDid action =>
    if isCollectionPattern collection then
      ({self with triggersByAtprotoEventPattern :=
          self.triggersByAtprotoEventPattern.add (collection,repoDid,action) lookupId},.ok ())
    else
      ({self with triggersByAtprotoEventExact :=
          self.triggersByAtprotoEventExact.add (collection,repoDid,action) lookupId},.ok ())
  | .manual => (self,.ok ())

def addTrigger (self : Lookup) (config : TriggerConfig) : Lookup × Except TriggerError Unit :=
  let lookupId := self.lookupId
  let self := {self with lookupId := lookupId + 1}
  match insertTrigger cron self lookupId config.trigger with
  | (self,.error error) => (self,.error error)
  | (self,.ok ()) =>
    let workflows := (self.triggersByServiceWorkflow.get config.serviceId).getD ⟨[],List.Pairwise.nil⟩
    ({self with
      triggersByServiceWorkflow := self.triggersByServiceWorkflow.insert config.serviceId
        (workflows.insert config.workflowId lookupId)
      triggerConfigs := self.triggerConfigs.insert lookupId config},.ok ())

def addTriggers (self : Lookup) : List TriggerConfig → Lookup × Except TriggerError Unit
  | [] => (self,.ok ())
  | config::configs =>
    match addTrigger cron self config with
    | (self,.error error) => (self,.error error)
    | (self,.ok ()) => addTriggers self configs

/-- The trigger of each workflow of a service, in the order of `service.workflows`. -/
def serviceTriggers (id : ServiceId) (service : Service) : List TriggerConfig :=
  service.workflows.entries.map (fun entry => ⟨id,entry.1,entry.2.trigger⟩)

def addService (prim : IdPrimitives) (self : Lookup) (service : Service) :
    Lookup × Except TriggerError Unit :=
  let self := {self with serviceManager :=
    self.serviceManager.insert (service.id prim) service.manager.address}
  addTriggers cron self (serviceTriggers (service.id prim) service)

/-- The arms of `remove_workflow` and of `remove_service`: the lookup id leaves the
index or scheduler of its trigger. -/
def removeTrigger (self : Lookup) (lookupId : LookupId) : Trigger → Lookup × Except TriggerError Unit
  | .evmContractEvent address chain eventHash =>
    ({self with triggersByEvmContractEvent :=
        self.triggersByEvmContractEvent.drop (chain,address,eventHash) lookupId},.ok ())
  | .cosmosContractEvent address chain eventType =>
    ({self with triggersByCosmosContractEvent :=
        self.triggersByCosmosContractEvent.drop (chain,address,eventType) lookupId},.ok ())
  | .stellarContractEvent chain _ _ =>
    match self.triggersByStellarContractEvent.getByRight lookupId with
    | none => (self,.ok ())
    | some rpcId =>
      let self := {self with triggersByStellarContractEvent :=
        self.triggersByStellarContractEvent.removeByRight lookupId}
      match self.stellarControllers.get chain with
      | none => (self,.error (.stellarMissingClient chain))
      | some controller =>
        let filters := controller.eventFilters.removeFilterById rpcId
        ({self with
          stellarControllers :=
            self.stellarControllers.updateEventFilters chain controller filters},.ok ())
  | .blockInterval chain _ _ _ =>
    match self.blockSchedulers.get chain with
    | none => (self,.ok ())
    | some scheduler =>
      ({self with blockSchedulers :=
          self.blockSchedulers.insert chain (scheduler.removeTrigger blockInterval lookupId)},.ok ())
  | .cron _ _ _ =>
    ({self with cronScheduler := self.cronScheduler.removeTrigger (cronInterval cron) lookupId},.ok ())
  | .manual => (self,.ok ())
  | .atProtoEvent collection repoDid action =>
    if isCollectionPattern collection then
      ({self with triggersByAtprotoEventPattern :=
          self.triggersByAtprotoEventPattern.drop (collection,repoDid,action) lookupId},.ok ())
    else
      ({self with triggersByAtprotoEventExact :=
          self.triggersByAtprotoEventExact.drop (collection,repoDid,action) lookupId},.ok ())

/-- The lookup id leaves the index or scheduler of its trigger, when it has one. -/
def removeLookup (self : Lookup) (lookupId : LookupId) : Lookup × Except TriggerError Unit :=
  match self.triggerConfigs.get lookupId with
  | none => (self,.ok ())
  | some config => removeTrigger cron self lookupId config.trigger

def removeWorkflow (self : Lookup) (serviceId : ServiceId) (workflowId : WorkflowId) :
    Lookup × Except TriggerError Unit :=
  match self.triggersByServiceWorkflow.get serviceId with
  | none => (self,.error (.noSuchService serviceId))
  | some workflows =>
    match workflows.get workflowId with
    | none => (self,.error (.noSuchWorkflow serviceId workflowId))
    | some lookupId =>
      let self := {self with triggersByServiceWorkflow :=
        self.triggersByServiceWorkflow.insert serviceId (workflows.remove workflowId)}
      match removeLookup cron self lookupId with
      | (self,.error error) => (self,.error error)
      | (self,.ok ()) => ({self with triggerConfigs := self.triggerConfigs.remove lookupId},.ok ())

/-- The loop of `remove_service` over the lookup ids of a service. -/
def removeTriggers (self : Lookup) : List LookupId → Lookup × Except TriggerError Unit
  | [] => (self,.ok ())
  | lookupId::lookupIds =>
    match removeLookup cron self lookupId with
    | (self,.error error) => (self,.error error)
    | (self,.ok ()) => removeTriggers self lookupIds

def removeService (self : Lookup) (serviceId : ServiceId) : Lookup × Except TriggerError Unit :=
  let self := {self with serviceManager := self.serviceManager.removeByLeft serviceId}
  match self.triggersByServiceWorkflow.get serviceId with
  | none => (self,.ok ())
  | some workflows =>
    let lookupIds := workflows.entries.map Prod.snd
    match removeTriggers cron self lookupIds with
    | (self,.error error) => (self,.error error)
    | (self,.ok ()) =>
      ({self with
        triggerConfigs := lookupIds.foldl (fun configs lookupId => configs.remove lookupId)
          self.triggerConfigs
        triggersByServiceWorkflow := self.triggersByServiceWorkflow.remove serviceId},.ok ())

end Lookup
end Warpdrive.Trigger
