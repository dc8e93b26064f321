import Warpdrive.Engine.KeyValue
import Warpdrive.Types.Id
import Warpdrive.Types.ServiceBuilder

/-! What `service validate` finds in a service definition (`cli/src/service_json.rs`), without the queries it sends to
chains and to the registry. -/
namespace Warpdrive.Cli

open Warpdrive.Foundation Warpdrive.Types
open Warpdrive.Engine (startsWith)

def envPrefix : String := "WARPDRIVE_ENV"

/-- The cron parser and the EIP-55 check of the text of an address; each gives the error it returns. -/
structure Parsers where
  schedule : String → Option String
  checksum : Address → Option String

inductive CronConfigError
  | startAfterEnd
  | endInPast
  deriving DecidableEq

def CronConfigError.text : CronConfigError → String
  | .startAfterEnd => "start_time must be before or equal to end_time"
  | .endInPast => "end_time must be in the future"

def validateCronConfig (now : Timestamp) (startTime endTime : Option Timestamp) : Except CronConfigError Unit :=
  let ordered := startTime.all (fun first => endTime.all (fun last => first.nanos ≤ last.nanos))
  if !ordered then .error .startAfterEnd
  else if endTime.any (fun last => last.nanos < now.nanos) then .error .endInPast
  else .ok ()

def validateBlockIntervalConfig (startBlock endBlock : Option NonZeroU64) : Except String Unit :=
  if startBlock.all (fun first => endBlock.all (fun last => first.1 ≤ last.1)) then .ok ()
  else .error "start_block must be before or equal to end_block"

inductive Fault
  | emptyName
  | unsetComponent (workflow : WorkflowId)
  | zeroFuel (workflow : WorkflowId)
  | foreignEnvKey (workflow : WorkflowId) (key : String)
  | unsetTrigger (workflow : WorkflowId)
  | emptyEventType (workflow : WorkflowId)
  | invalidAddress (workflow : WorkflowId) (error : String)
  | eventHashLength (workflow : WorkflowId) (length : Nat)
  | emptyContractId (workflow : WorkflowId)
  | emptyTopicSegments (workflow : WorkflowId)
  | tooManySegments (workflow : WorkflowId) (length : Nat)
  | invalidSchedule (workflow : WorkflowId) (error : String)
  | invalidCron (workflow : WorkflowId) (error : CronConfigError)
  | invalidBlockInterval (workflow : WorkflowId) (error : String)
  | unsetSubmit (workflow : WorkflowId)
  | unsetAggregatorComponent (workflow : WorkflowId)
  | aggregatorZeroFuel (workflow : WorkflowId)
  | aggregatorForeignEnvKey (workflow : WorkflowId) (key : String)
  | unsetManager
  deriving DecidableEq

def Fault.text : Fault → String
  | .emptyName => "Service name cannot be empty"
  | .unsetComponent workflow => "Workflow '" ++ workflow.text ++ "' has an unset component"
  | .zeroFuel workflow =>
    "Workflow '" ++ workflow.text ++ "' has a fuel limit of zero, which will prevent execution"
  | .foreignEnvKey workflow key =>
    "Workflow '" ++ workflow.text ++ "' has environment variable '" ++ key ++ "' that doesn't start with '" ++
      envPrefix ++ "'"
  | .unsetTrigger workflow => "Workflow '" ++ workflow.text ++ "' has an unset trigger"
  | .emptyEventType workflow => "Workflow '" ++ workflow.text ++ "' has an empty event type in Cosmos trigger"
  | .invalidAddress workflow error => "Workflow '" ++ workflow.text ++ "' has an invalid EVM address format: " ++ error
  | .eventHashLength workflow length =>
    "Workflow '" ++ workflow.text ++ "' has an invalid event hash length: expected 32 bytes but got " ++
      toString length ++ " bytes"
  | .emptyContractId workflow => "Workflow '" ++ workflow.text ++ "' has an empty contract ID in Stellar trigger"
  | .emptyTopicSegments workflow => "Workflow '" ++ workflow.text ++ "' has empty topic segments in Stellar trigger"
  | .tooManySegments workflow length =>
    "Workflow '" ++ workflow.text ++ "' has too many topic segments in Stellar trigger: expected at most 4 but got " ++
      toString length
  | .invalidSchedule workflow error =>
    "Workflow '" ++ workflow.text ++ "' has an invalid cron trigger schedule: " ++ error
  | .invalidCron workflow error => "Workflow '" ++ workflow.text ++ "' has an invalid cron trigger: " ++ error.text
  | .invalidBlockInterval workflow error =>
    "Workflow '" ++ workflow.text ++ "' has an invalid block-interval trigger: " ++ error
  | .unsetSubmit workflow => "Workflow '" ++ workflow.text ++ "' has an unset submit"
  | .unsetAggregatorComponent workflow => "Workflow '" ++ workflow.text ++ "' has an unset aggregator component"
  | .aggregatorZeroFuel workflow =>
    "Workflow '" ++ workflow.text ++
      "' has an aggregator component with a fuel limit of zero, which will prevent execution"
  | .aggregatorForeignEnvKey workflow key =>
    "Workflow '" ++ workflow.text ++ "' has aggregator component environment variable '" ++ key ++
      "' that doesn't start with '" ++ envPrefix ++ "'"
  | .unsetManager => "Service has an unset service manager"

/-- The two checks of a component, with the fault that each reports. -/
def componentFaults (zeroFuel : Fault) (foreignEnvKey : String → Fault) (component : Component) : List Fault :=
  (if component.fuelLimit = some 0 then [zeroFuel] else []) ++
    ((component.envKeys.entries.map Prod.fst).filter (fun key => !startsWith key envPrefix)).map foreignEnvKey

def componentBuilderFaults (id : WorkflowId) : ComponentBuilder → List Fault
  | .builder _ => [.unsetComponent id]
  | .component component => componentFaults (.zeroFuel id) (.foreignEnvKey id) component

def triggerFaults (parsers : Parsers) (now : Timestamp) (id : WorkflowId) : TriggerBuilder → List Fault
  | .builder _ => [.unsetTrigger id]
  | .trigger (.cosmosContractEvent _ _ eventType) => if eventType.isEmpty then [.emptyEventType id] else []
  | .trigger (.evmContractEvent address _ eventHash) =>
    ((parsers.checksum address).map (Fault.invalidAddress id)).toList ++
      (if eventHash.toList.length ≠ 32 then [.eventHashLength id eventHash.toList.length] else [])
  | .trigger (.stellarContractEvent _ contractId topicSegments) =>
    (if contractId.isEmpty then [.emptyContractId id] else []) ++
      (if topicSegments.isEmpty then [.emptyTopicSegments id] else []) ++
      (if topicSegments.length > 4 then [.tooManySegments id topicSegments.length] else [])
  | .trigger (.cron schedule startTime endTime) =>
    ((parsers.schedule schedule).map (Fault.invalidSchedule id)).toList ++
      (match validateCronConfig now startTime endTime with
      | .error error => [.invalidCron id error]
      | .ok () => [])
  | .trigger (.blockInterval _ _ startBlock endBlock) =>
    match validateBlockIntervalConfig startBlock endBlock with
    | .error error => [.invalidBlockInterval id error]
    | .ok () => []
  | .trigger .manual => []
  | .trigger (.atProtoEvent _ _ _) => []

def submitFaults (id : WorkflowId) : SubmitBuilder → List Fault
  | .builder _ => [.unsetSubmit id]
  | .aggregatorBuilder (.aggregator (.builder _) _) => [.unsetAggregatorComponent id]
  | .aggregatorBuilder (.aggregator (.component _) _) => []
  | .submit .none => []
  | .submit (.aggregator component) =>
    componentFaults (.aggregatorZeroFuel id) (.aggregatorForeignEnvKey id) component

def workflowFaults (parsers : Parsers) (now : Timestamp) (id : WorkflowId) (workflow : WorkflowBuilder) :
    List Fault :=
  componentBuilderFaults id workflow.component ++ triggerFaults parsers now id workflow.trigger ++
    submitFaults id workflow.submit

def managerFaults : ServiceManagerBuilder → List Fault
  | .builder _ => [.unsetManager]
  | .manager _ => []

/-- `ServiceJsonExt::validate`. -/
def validate (parsers : Parsers) (now : Timestamp) (service : ServiceBuilder) : List Fault :=
  (if service.name.isEmpty then [.emptyName] else []) ++
    service.workflows.entries.flatMap (fun entry => workflowFaults parsers now entry.1 entry.2) ++
    managerFaults service.manager

end Warpdrive.Cli
