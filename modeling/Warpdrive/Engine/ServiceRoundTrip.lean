import Mathlib.Algebra.Group.Nat.Defs
import Warpdrive.Engine.ServiceBoundary

/-! A service definition comes back from a component as it was given to it, with every workflow, limit and permission
in it. -/
namespace Warpdrive.Engine

open Warpdrive.Foundation Warpdrive.Types

/-- The address has a prefix to cut, whose length a `u32` holds. The prefix of a bech32 address has at most 83
characters. -/
def HasPrefix (address : CosmosAddr) : Prop :=
  ∃ stem, sliceTo address.bech32Addr address.prefixLen = some stem ∧ stem.utf8ByteSize < 2 ^ 32

namespace Crates

variable (crates : Crates)

/-! The values that a crate's type has: a text of it is read as what displays it, and a value that is written as JSON
is read back. -/

def HoldsTopic : StellarTopicSegment → Prop
  | .exact lit => ∃ json, crates.scValToString lit = .ok json ∧ crates.scValFromStr json = .ok lit
  | .wildcard => True
  | .restWildcard => True

def HoldsTrigger : Trigger → Prop
  | .cosmosContractEvent address _ _ => HasPrefix address
  | .stellarContractEvent _ _ topicSegments => ∀ segment ∈ topicSegments, crates.HoldsTopic segment
  | _ => True

def HoldsSource : ComponentSource → Prop
  | .download uri _ => crates.uriTryFrom uri = .ok uri
  | .registry registry =>
    (∀ version, registry.version = some version → crates.versionFromStr version = .ok version) ∧
      crates.packageTryFrom registry.package = .ok registry.package
  | .digest _ => True

def HoldsSubmit : Submit → Prop
  | .none => True
  | .aggregator component => crates.HoldsSource component.source

structure HoldsWorkflow (workflow : Workflow) : Prop where
  trigger : crates.HoldsTrigger workflow.trigger
  component : crates.HoldsSource workflow.component.source
  submit : crates.HoldsSubmit workflow.submit

def HoldsManager : ServiceManager → Prop
  | .cosmos _ address => HasPrefix address
  | _ => True

/-- Every value of a crate's type in the service is one. -/
structure Holds (service : Service) : Prop where
  workflows : ∀ entry ∈ service.workflows.entries, crates.HoldsWorkflow entry.2
  manager : HoldsManager service.manager

end Crates

variable (crates : Crates)

theorem chainKey_display (chain : ChainKey) : ComponentToWarpdrive.chainKey chain.display = .ok chain := by
  exact Outcome.ofExcept_mapError_ok _ _ _ ((ChainKey.new_eq_ok chain.display chain).mpr rfl)

theorem componentDigest_display (digest : ComponentDigest) :
    ComponentToWarpdrive.componentDigest digest.display = .ok digest := by
  exact Outcome.ofExcept_mapError_ok _ _ _ (ComponentDigest.fromStr_display digest)

theorem ofList?_toList {n : Nat} (bytes : FixedBytes n) : FixedBytes.ofList? n bytes.toList = some bytes :=
  (ofList?_eq_some n bytes.toList bytes).mpr rfl

theorem evmAddress_survives (address : Address) :
    ComponentToWarpdrive.evmAddress (WarpdriveToComponent.evmAddress address) = .ok address := by
  unfold ComponentToWarpdrive.evmAddress WarpdriveToComponent.evmAddress
  rw [ofList?_toList]

theorem stellarAddress_survives (contract : FixedBytes 32) :
    ComponentToWarpdrive.stellarContract (WarpdriveToComponent.stellarAddress contract) = .ok contract := by
  unfold ComponentToWarpdrive.stellarContract WarpdriveToComponent.stellarAddress
  rw [ofList?_toList]

theorem byteArray_toList {n : Nat} (bytes : FixedBytes n) : ComponentToWarpdrive.byteArray n bytes.toList = .ok bytes := by
  unfold ComponentToWarpdrive.byteArray
  rw [ofList?_toList]

theorem cosmosAddress_survives (address : CosmosAddr) (held : HasPrefix address) :
    ∃ image, WarpdriveToComponent.cosmosAddress address = .ok image ∧ ComponentToWarpdrive.cosmosAddr image = address := by
  obtain ⟨stem,cut,short⟩ := held
  obtain ⟨rest,_,size⟩ := (sliceTo_eq_some _ _ _).mp cut
  refine ⟨⟨address.bech32Addr,UInt32.ofNat stem.utf8ByteSize⟩,?_,?_⟩
  · unfold WarpdriveToComponent.cosmosAddress
    rw [cut]
  · unfold ComponentToWarpdrive.cosmosAddr
    rw [UInt32.toNat_ofNat_of_lt' short,size]

theorem nonZeroU32_val (n : NonZeroU32) : ComponentToWarpdrive.nonZeroU32 n.val = .ok n := dif_pos n.property

theorem optional_nonZeroU64 (block : Option NonZeroU64) :
    Outcome.optional ComponentToWarpdrive.nonZeroU64 (block.map Subtype.val) = .ok block := by
  apply Outcome.optional_map
  intro n _
  exact dif_pos n.property

theorem optional_timestamp (time : Option Timestamp) :
    (time.map WarpdriveToComponent.timestamp).map ComponentToWarpdrive.timestamp = time := by
  cases time with
  | none => rfl
  | some time => rfl

theorem optional_atProtoAction (action : Option AtProtoAction) :
    Outcome.optional ComponentToWarpdrive.atProtoAction (action.map AtProtoAction.display) = .ok action := by
  apply Outcome.optional_map
  intro known _
  have parsed : AtProtoAction.fromStr known.display = .ok known := by
    cases known <;> decide +kernel
  exact Outcome.ofExcept_mapError_ok _ _ _ parsed

theorem stellarTopicSegment_survives (segment : StellarTopicSegment) (held : crates.HoldsTopic segment) :
    Survives (WarpdriveToComponent.stellarTopicSegment crates) (ComponentToWarpdrive.stellarTopicSegment crates)
      segment := by
  cases segment with
  | wildcard => exact ⟨_,rfl,rfl⟩
  | restWildcard => exact ⟨_,rfl,rfl⟩
  | exact lit =>
    obtain ⟨json,written,read⟩ := held
    refine ⟨.exact json,?_,?_⟩
    · unfold WarpdriveToComponent.stellarTopicSegment
      dsimp only
      rw [Outcome.ofExcept_mapError_ok _ _ _ written,Outcome.map_ok]
    · unfold ComponentToWarpdrive.stellarTopicSegment
      dsimp only
      rw [Outcome.ofExcept_mapError_ok _ _ _ read,Outcome.map_ok]

theorem trigger_survives (trigger : Trigger) (held : crates.HoldsTrigger trigger) :
    Survives (WarpdriveToComponent.trigger crates) (ComponentToWarpdrive.trigger crates) trigger := by
  cases trigger with
  | cosmosContractEvent address chain eventType =>
    obtain ⟨image,there,again⟩ := cosmosAddress_survives address held
    refine ⟨.cosmosContractEvent ⟨image,chain.display,eventType⟩,?_,?_⟩
    · simp only [WarpdriveToComponent.trigger,there,Outcome.map_ok]
    · simp only [ComponentToWarpdrive.trigger,chainKey_display,again,Outcome.map_ok]
  | evmContractEvent address chain eventHash =>
    refine ⟨_,rfl,?_⟩
    simp only [ComponentToWarpdrive.trigger,evmAddress_survives,chainKey_display,byteArray_toList,Outcome.bind_ok,
      Outcome.map_ok]
  | stellarContractEvent chain contractId topicSegments =>
    obtain ⟨image,there,again⟩ := Survives.collect topicSegments
      (fun segment member => stellarTopicSegment_survives crates segment (held segment member))
    refine ⟨.stellarContractEvent ⟨contractId,chain.display,image⟩,?_,?_⟩
    · simp only [WarpdriveToComponent.trigger,there,Outcome.map_ok]
    · simp only [ComponentToWarpdrive.trigger,chainKey_display,again,Outcome.bind_ok,Outcome.map_ok]
  | blockInterval chain nBlocks startBlock endBlock =>
    refine ⟨_,rfl,?_⟩
    simp only [ComponentToWarpdrive.trigger,chainKey_display,nonZeroU32_val,optional_nonZeroU64,Outcome.bind_ok,
      Outcome.map_ok]
  | cron schedule startTime endTime =>
    refine ⟨_,rfl,?_⟩
    simp only [ComponentToWarpdrive.trigger,optional_timestamp]
  | atProtoEvent collection repoDid action =>
    refine ⟨_,rfl,?_⟩
    simp only [ComponentToWarpdrive.trigger,optional_atProtoAction,Outcome.map_ok]
  | manual => exact ⟨_,rfl,rfl⟩

theorem registry_survives (registry : Registry) (held : crates.HoldsSource (.registry registry)) :
    ComponentToWarpdrive.registry crates (WarpdriveToComponent.registry registry) = .ok registry := by
  obtain ⟨versions,packages⟩ := held
  have version : Outcome.optional (fun version => Outcome.ofExcept
      ((crates.versionFromStr version).mapError BoundaryError.external)) registry.version = .ok registry.version := by
    have read := Outcome.optional_map id (fun version => Outcome.ofExcept
      ((crates.versionFromStr version).mapError BoundaryError.external)) registry.version
      (fun version known => Outcome.ofExcept_mapError_ok _ _ _ (versions version known))
    rw [Option.map_id] at read
    exact read
  unfold ComponentToWarpdrive.registry WarpdriveToComponent.registry
  dsimp only
  rw [componentDigest_display,Outcome.bind_ok,version,Outcome.bind_ok,Outcome.ofExcept_mapError_ok _ _ _ packages,
    Outcome.map_ok]

theorem componentSource_survives (source : ComponentSource) (held : crates.HoldsSource source) :
    ComponentToWarpdrive.componentSource crates (WarpdriveToComponent.componentSource source) = .ok source := by
  cases source with
  | download uri digest =>
    unfold ComponentToWarpdrive.componentSource WarpdriveToComponent.componentSource
    dsimp only
    rw [Outcome.ofExcept_mapError_ok _ _ _ held,Outcome.bind_ok,componentDigest_display,Outcome.map_ok]
  | registry registry =>
    simp only [ComponentToWarpdrive.componentSource,WarpdriveToComponent.componentSource,
      registry_survives crates registry held,Outcome.map_ok]
  | digest digest =>
    simp only [ComponentToWarpdrive.componentSource,WarpdriveToComponent.componentSource,componentDigest_display,
      Outcome.map_ok]

theorem permissions_survive (permissions : Permissions) :
    ComponentToWarpdrive.permissions (WarpdriveToComponent.permissions permissions) = permissions := by
  obtain ⟨hosts,fileSystem,rawSockets,dnsResolution⟩ := permissions
  cases hosts with
  | all => rfl
  | only hosts => rfl
  | none => rfl

theorem envKeys_survive (keys : BTreeMap String Unit) :
    BTreeMap.ofIter ((keys.entries.map Prod.fst).map (fun key => (key,()))) = keys := by
  have same : (keys.entries.map Prod.fst).map (fun key => (key,())) = keys.entries := by
    rw [List.map_map]
    exact List.map_id _
  rw [same,BTreeMap.ofIter_entries]

theorem component_survives (component : Component) (held : crates.HoldsSource component.source) :
    ComponentToWarpdrive.component crates (WarpdriveToComponent.component component) = .ok component := by
  simp only [ComponentToWarpdrive.component,WarpdriveToComponent.component,componentSource_survives crates _ held,
    permissions_survive,envKeys_survive,BTreeMap.ofIter_entries,Outcome.map_ok]

theorem submit_survives (submit : Submit) (held : crates.HoldsSubmit submit) :
    ComponentToWarpdrive.submit crates (WarpdriveToComponent.submit submit) = .ok submit := by
  cases submit with
  | none => rfl
  | aggregator component =>
    simp only [ComponentToWarpdrive.submit,WarpdriveToComponent.submit,component_survives crates component held]

theorem workflow_survives (workflow : Workflow) (held : crates.HoldsWorkflow workflow) :
    Survives (WarpdriveToComponent.workflow crates) (ComponentToWarpdrive.workflow crates) workflow := by
  obtain ⟨image,there,again⟩ := trigger_survives crates workflow.trigger held.trigger
  refine ⟨⟨image,WarpdriveToComponent.component workflow.component,WarpdriveToComponent.submit workflow.submit⟩,?_,?_⟩
  · simp only [WarpdriveToComponent.workflow,there,Outcome.map_ok]
  · simp only [ComponentToWarpdrive.workflow,again,component_survives crates _ held.component,
      submit_survives crates _ held.submit,Outcome.bind_ok,Outcome.map_ok]

theorem workflowId_display (id : WorkflowId) : ComponentToWarpdrive.workflowId id.display = .ok id := by
  have read : WorkflowId.fromStr id.display = .ok id := (WorkflowId.new_eq_ok id.display id).mpr ⟨id.valid,rfl⟩
  exact Outcome.ofExcept_mapError_ok _ _ _ read

theorem serviceManager_survives (manager : ServiceManager) (held : Crates.HoldsManager manager) :
    Survives WarpdriveToComponent.serviceManager ComponentToWarpdrive.serviceManager manager := by
  cases manager with
  | evm chain address =>
    refine ⟨_,rfl,?_⟩
    simp only [ComponentToWarpdrive.serviceManager,chainKey_display,evmAddress_survives,Outcome.bind_ok,Outcome.map_ok]
  | cosmos chain address =>
    obtain ⟨image,there,again⟩ := cosmosAddress_survives address held
    refine ⟨.cosmos ⟨chain.display,image⟩,?_,?_⟩
    · simp only [WarpdriveToComponent.serviceManager,there,Outcome.map_ok]
    · simp only [ComponentToWarpdrive.serviceManager,chainKey_display,again,Outcome.map_ok]
  | stellar chain address =>
    refine ⟨_,rfl,?_⟩
    simp only [ComponentToWarpdrive.serviceManager,chainKey_display,stellarAddress_survives,Outcome.bind_ok,
      Outcome.map_ok]

theorem serviceStatus_survives (status : ServiceStatus) :
    ComponentToWarpdrive.serviceStatus (WarpdriveToComponent.serviceStatus status) = status := by
  cases status with
  | active => rfl
  | paused => rfl

theorem signatureKind_survives (kind : SignatureKind) :
    ComponentToWarpdrive.signatureKind (WarpdriveToComponent.signatureKind kind) = kind := by
  obtain ⟨algorithm,messagePrefix⟩ := kind
  rcases messagePrefix with _ | (_ | _) <;> cases algorithm <;> rfl

theorem entry_survives (entry : WorkflowId × Workflow) (held : crates.HoldsWorkflow entry.2) :
    Survives
      (fun entry : WorkflowId × Workflow =>
        (WarpdriveToComponent.workflow crates entry.2).map (fun workflow => (entry.1.display,workflow)))
      (fun entry : String × ComponentService.Workflow => (ComponentToWarpdrive.workflowId entry.1).bind (fun id =>
        (ComponentToWarpdrive.workflow crates entry.2).map (fun workflow => (id,workflow)))) entry := by
  obtain ⟨image,there,again⟩ := workflow_survives crates entry.2 held
  refine ⟨(entry.1.display,image),?_,?_⟩
  · simp only [there,Outcome.map_ok]
  · simp only [workflowId_display,again,Outcome.bind_ok,Outcome.map_ok]

/-- A service definition is converted, and the component's definition is converted back into it. -/
theorem service_survives (service : Service) (held : crates.Holds service) :
    ∃ image, WarpdriveToComponent.service crates service = .ok image ∧
      ComponentToWarpdrive.service crates image = .ok service := by
  obtain ⟨workflows,there,again⟩ := Survives.collect service.workflows.entries
    (fun entry member => entry_survives crates entry (held.workflows entry member))
  obtain ⟨manager,out,back⟩ := serviceManager_survives service.manager held.manager
  refine ⟨⟨service.name,workflows,WarpdriveToComponent.serviceStatus service.status,manager,
    WarpdriveToComponent.signatureKind service.signatureKind⟩,?_,?_⟩
  · unfold WarpdriveToComponent.service
    rw [there,Outcome.bind_ok,out,Outcome.map_ok]
  · unfold ComponentToWarpdrive.service
    rw [again,Outcome.bind_ok,back,Outcome.map_ok,BTreeMap.ofIter_entries,serviceStatus_survives,
      signatureKind_survives]

/-- The texts and the value that occur in `oracleService`. -/
def oracleCrates : Crates where
  uriTryFrom text := if text = "https://example.com/oracle.wasm" then .ok text else .error "not looked up"
  versionFromStr text := if text = "1.2.3" then .ok text else .error "not looked up"
  packageTryFrom text := if text = "example:oracle" then .ok text else .error "not looked up"
  scValToString lit := if lit = ⟨[0,0,0,1]⟩ then .ok "\"void\"" else .error "not looked up"
  scValFromStr json := if json = "\"void\"" then .ok ⟨[0,0,0,1]⟩ else .error "not looked up"

def oracleManager : CosmosAddr := ⟨"cosmos1qypqxpq9qcrsszg2pvxq6rs0zqg3yyc5lzv7xu",6⟩

def downloadedComponent : Component :=
  {noopComponent with
    source := .download "https://example.com/oracle.wasm" ⟨FixedBytes.filled 32 7⟩
    fuelLimit := some 1000
    config := ⟨[("pair","eth")],by simp⟩
    envKeys := ⟨[("WARPDRIVE_ENV_KEY",())],by simp⟩}

def registeredComponent : Component :=
  {noopComponent with source := .registry ⟨⟨FixedBytes.filled 32 7⟩,none,some "1.2.3","example:oracle"⟩}

def oracleService : Service :=
  {deployedService with
    workflows := ⟨[(observedWorkflow,⟨.stellarContractEvent localChain "CA" [.exact ⟨[0,0,0,1]⟩,.restWildcard],
      downloadedComponent,.aggregator registeredComponent⟩)],by simp⟩
    manager := .cosmos localChain oracleManager}

theorem oracleService_survives : ∃ image, WarpdriveToComponent.service oracleCrates oracleService = .ok image ∧
    ComponentToWarpdrive.service oracleCrates image = .ok oracleService := by
  apply service_survives
  constructor
  · intro entry member
    rw [List.mem_singleton.mp member]
    refine ⟨?_,rfl,?_,rfl⟩
    · intro segment member
      rcases List.mem_cons.mp member with rfl | member
      · exact ⟨"\"void\"",rfl,rfl⟩
      · rw [List.mem_singleton.mp member]
        trivial
    · intro version known
      cases known
      rfl
  · exact ⟨"cosmos",(sliceTo_eq_some _ _ _).mpr ⟨"1qypqxpq9qcrsszg2pvxq6rs0zqg3yyc5lzv7xu",by decide +kernel,
      by decide +kernel⟩,by decide +kernel⟩

end Warpdrive.Engine
