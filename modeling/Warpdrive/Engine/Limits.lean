import Warpdrive.Engine.ContentAddressed
import Warpdrive.Foundation.Outcome
import Warpdrive.Types.Submission

/-! The limits of an execution: what `InstanceDepsBuilder::build` (`worlds/instance.rs`) gives to the store and the
timeout, and how the four entry points of `wasm_engine.rs` reach it. An execution is the call of an export of the
component under these limits. What the linker, the file system and the store answer is given to each call. -/
namespace Warpdrive.Engine

open Warpdrive.Foundation Warpdrive.Types

def defaultFuelLimit : UInt64 := 18446744073709551615

def defaultTimeLimitSeconds : UInt64 := 18446744073709551615

inductive HostComponentLogger
  | operatorHostComponentLogger
  | aggregatorHostComponentLogger
  deriving DecidableEq

inductive InstanceData
  | vector (triggerData : TriggerData)
  | aggregator (eventId : EventId)
  deriving DecidableEq

inductive InstanceError
  | mismatchedInstanceDataAndLogger (data logger : String)
  | workflowNotFound (serviceId : ServiceId) (workflowId : WorkflowId)
  | addToLinker (reason : String)
  | filesystem (reason : String)
  | store (reason : String)
  | input (reason : String)
  deriving DecidableEq

/-- What the surroundings of one call answer. -/
structure Host where
  chainConfigs : Except String Unit
  load : Reading
  addKeyValueToLinker : Except String Unit
  addTlsToLinker : Except String Unit
  createDataDir : Except String Unit
  preopenedDir : Except String Unit
  setFuel : UInt64 → Except String Unit
  input : Except String Unit

def Host.working : Host :=
  ⟨.ok (),.working,.ok (),.ok (),.ok (),.ok (),fun _ => .ok (),.ok ()⟩

structure ComponentStore where
  world : HostComponentLogger
  fuel : UInt64
  deriving DecidableEq

structure InstanceDeps (wasmtime : Wasmtime) where
  store : ComponentStore
  component : wasmtime.WasmComponent
  timeLimitSeconds : UInt64

structure InstanceDepsBuilder (wasmtime : Wasmtime) where
  component : wasmtime.WasmComponent
  service : Service
  workflowId : WorkflowId
  data : InstanceData
  log : HostComponentLogger

variable {wasmtime : Wasmtime}

namespace InstanceDepsBuilder

/-- The component of the service whose permissions and limits are taken. A workflow that submits nothing is not
expected where the aggregator is. -/
def wavsComponent (log : HostComponentLogger) (workflow : Workflow) : Option Component :=
  match log with
  | .operatorHostComponentLogger => some workflow.component
  | .aggregatorHostComponentLogger =>
    match workflow.submit with
    | .none => none
    | .aggregator component => some component

def allowFileSystem (host : Host) (permissions : Permissions) : Except InstanceError Unit :=
  if permissions.fileSystem then do
    host.createDataDir.mapError .filesystem
    host.preopenedDir.mapError .filesystem
  else .ok ()

def configure (host : Host) (component : Component) : Except InstanceError UInt64 := do
  host.addKeyValueToLinker.mapError .addToLinker
  host.addTlsToLinker.mapError .addToLinker
  allowFileSystem host component.permissions
  let fuelLimit := component.fuelLimit.getD defaultFuelLimit
  (host.setFuel fuelLimit).mapError .store
  return fuelLimit

def build (prim : IdPrimitives) (host : Host) (self : InstanceDepsBuilder wasmtime) :
    Outcome InstanceError (InstanceDeps wasmtime) :=
  match self.data,self.log with
  | .vector _,.aggregatorHostComponentLogger => .error (.mismatchedInstanceDataAndLogger "Vector" "Aggregator")
  | .aggregator _,.operatorHostComponentLogger => .error (.mismatchedInstanceDataAndLogger "Aggregator" "Vector")
  | _,_ =>
    match self.service.workflows.get self.workflowId with
    | none => .error (.workflowNotFound (self.service.id prim) self.workflowId)
    | some workflow =>
      match wavsComponent self.log workflow with
      | none => .panicked
      | some component =>
        (Outcome.ofExcept (configure host component)).map (fun fuelLimit =>
          ⟨⟨self.log,fuelLimit⟩,self.component,component.timeLimitSeconds.getD defaultTimeLimitSeconds⟩)

end InstanceDepsBuilder

inductive Export
  | run
  | processInput
  | handleTimerCallback
  | handleSubmitCallback
  deriving DecidableEq

structure Execution (wasmtime : Wasmtime) where
  callee : Export
  component : wasmtime.WasmComponent
  fuel : UInt64
  timeout : UInt64

/-- The input is converted before the timeout starts. -/
def callExport (callee : Export) (host : Host) (deps : InstanceDeps wasmtime) :
    Outcome InstanceError (Execution wasmtime) :=
  (Outcome.ofExcept (host.input.mapError .input)).map (fun _ =>
    ⟨callee,deps.component,deps.store.fuel,deps.timeLimitSeconds⟩)

/-- `worlds/operator/execute.rs`. -/
def execute (host : Host) (deps : InstanceDeps wasmtime) : Outcome InstanceError (Execution wasmtime) :=
  callExport .run host deps

def executeInput (host : Host) (deps : InstanceDeps wasmtime) : Outcome InstanceError (Execution wasmtime) :=
  callExport .processInput host deps

def executeTimerCallback (host : Host) (deps : InstanceDeps wasmtime) : Outcome InstanceError (Execution wasmtime) :=
  callExport .handleTimerCallback host deps

def executeSubmitCallback (host : Host) (deps : InstanceDeps wasmtime) : Outcome InstanceError (Execution wasmtime) :=
  callExport .handleSubmitCallback host deps

inductive ExecutionError
  | unknownWorkflow (serviceId : ServiceId) (workflowId : WorkflowId)
  | engine (error : EngineError)
  | build (error : InstanceError)
  deriving DecidableEq

/-- `WasmEngine`, with the limits of the node that its `BaseEngine` carries. -/
structure WasmEngine (wasmtime : Wasmtime) extends BaseEngine wasmtime where
  maxWasmFuel : Option UInt64
  maxExecutionSeconds : Option UInt64

namespace WasmEngine

variable (prim : IdPrimitives) (host : Host)

def new (storage : FileStorage) (lruSize : Nat) (maxWasmFuel maxExecutionSeconds : Option UInt64) :
    WasmEngine wasmtime :=
  ⟨.new lruSize storage,maxWasmFuel,maxExecutionSeconds⟩

/-- The chain configurations are read and the component is loaded before the instance is built. -/
def loadComponent (digest : ComponentDigest) (self : WasmEngine wasmtime) :
    WasmEngine wasmtime × Outcome ExecutionError wasmtime.WasmComponent :=
  match host.chainConfigs with
  | .error reason => (self,.error (.engine (.storageError ("Chain configs lock poisoned: " ++ reason) none)))
  | .ok () =>
    let (engine,loaded) := BaseEngine.loadComponent host.load digest self.toBaseEngine
    ({self with toBaseEngine := engine},.ofExcept (loaded.mapError .engine))

def executeOperatorComponent (service : Service) (triggerAction : TriggerAction) (self : WasmEngine wasmtime) :
    WasmEngine wasmtime × Outcome ExecutionError (Execution wasmtime) :=
  match service.workflows.get triggerAction.config.workflowId with
  | none => (self,.error (.unknownWorkflow (service.id prim) triggerAction.config.workflowId))
  | some workflow =>
    let (self,loaded) := self.loadComponent host (sourceDigest workflow.component.source)
    (self,loaded.bind (fun component =>
      ((InstanceDepsBuilder.build prim host ⟨component,service,triggerAction.config.workflowId,
        .vector triggerAction.data,.operatorHostComponentLogger⟩).bind (execute host)).mapError .build))

def getAggregatorDeps (service : Service) (triggerAction : TriggerAction) (eventId : EventId)
    (self : WasmEngine wasmtime) : WasmEngine wasmtime × Outcome ExecutionError (Option (InstanceDeps wasmtime)) :=
  match service.workflows.get triggerAction.config.workflowId with
  | none => (self,.error (.unknownWorkflow (service.id prim) triggerAction.config.workflowId))
  | some workflow =>
    match workflow.submit with
    | .none => (self,.ok none)
    | .aggregator submitter =>
      let (self,loaded) := self.loadComponent host (sourceDigest submitter.source)
      (self,loaded.bind (fun component =>
        ((InstanceDepsBuilder.build prim host ⟨component,service,triggerAction.config.workflowId,
          .aggregator eventId,.aggregatorHostComponentLogger⟩).map some).mapError .build))

/-- Without an instance nothing is executed. -/
def withAggregatorDeps (execute : Host → InstanceDeps wasmtime → Outcome InstanceError (Execution wasmtime))
    (service : Service) (triggerAction : TriggerAction) (eventId : EventId) (self : WasmEngine wasmtime) :
    WasmEngine wasmtime × Outcome ExecutionError (Option (Execution wasmtime)) :=
  let (self,built) := self.getAggregatorDeps prim host service triggerAction eventId
  (self,built.bind (fun
    | none => .ok none
    | some deps => ((execute host deps).map some).mapError .build))

def executeAggregatorComponent (service : Service) (triggerAction : TriggerAction) (eventId : EventId) :
    WasmEngine wasmtime → WasmEngine wasmtime × Outcome ExecutionError (Option (Execution wasmtime)) :=
  withAggregatorDeps prim host executeInput service triggerAction eventId

def executeAggregatorComponentTimerCallback (service : Service) (triggerAction : TriggerAction) (eventId : EventId) :
    WasmEngine wasmtime → WasmEngine wasmtime × Outcome ExecutionError (Option (Execution wasmtime)) :=
  withAggregatorDeps prim host executeTimerCallback service triggerAction eventId

def executeAggregatorComponentSubmitCallback (service : Service) (triggerAction : TriggerAction) (eventId : EventId) :
    WasmEngine wasmtime → WasmEngine wasmtime × Outcome ExecutionError (Option (Execution wasmtime)) :=
  withAggregatorDeps prim host executeSubmitCallback service triggerAction eventId

def call (callee : Export) (service : Service) (triggerAction : TriggerAction) (eventId : EventId)
    (self : WasmEngine wasmtime) : WasmEngine wasmtime × Outcome ExecutionError (Option (Execution wasmtime)) :=
  match callee with
  | .run =>
    ((self.executeOperatorComponent prim host service triggerAction).1,
      (self.executeOperatorComponent prim host service triggerAction).2.map some)
  | .processInput => self.executeAggregatorComponent prim host service triggerAction eventId
  | .handleTimerCallback => self.executeAggregatorComponentTimerCallback prim host service triggerAction eventId
  | .handleSubmitCallback => self.executeAggregatorComponentSubmitCallback prim host service triggerAction eventId

end WasmEngine

theorem configure_eq_ok (host : Host) (component : Component) (fuel : UInt64)
    (made : InstanceDepsBuilder.configure host component = .ok fuel) :
    fuel = component.fuelLimit.getD defaultFuelLimit := by
  unfold InstanceDepsBuilder.configure at made
  simp only [bind,Except.bind] at made
  split at made
  · cases made
  · split at made
    · cases made
    · split at made
      · cases made
      · split at made
        · cases made
        · cases made
          rfl

theorem build_eq_ok (prim : IdPrimitives) (host : Host) (builder : InstanceDepsBuilder wasmtime)
    (deps : InstanceDeps wasmtime) (built : builder.build prim host = .ok deps) :
    ∃ workflow component, builder.service.workflows.get builder.workflowId = some workflow ∧
      InstanceDepsBuilder.wavsComponent builder.log workflow = some component ∧ deps.component = builder.component ∧
      deps.store.fuel = component.fuelLimit.getD defaultFuelLimit ∧
      deps.timeLimitSeconds = component.timeLimitSeconds.getD defaultTimeLimitSeconds := by
  unfold InstanceDepsBuilder.build at built
  split at built
  · cases built
  · cases built
  · split at built
    · cases built
    · next workflow found =>
      split at built
      · cases built
      · next component taken =>
        obtain ⟨fuel,made,rfl⟩ := (Outcome.map_eq_ok _ _ _).mp built
        have limit := configure_eq_ok host component fuel ((Outcome.ofExcept_eq_ok _ _).mp made)
        exact ⟨workflow,component,found,taken,rfl,limit,rfl⟩

theorem callExport_eq_ok (callee : Export) (host : Host) (deps : InstanceDeps wasmtime) (execution : Execution wasmtime)
    (called : callExport callee host deps = .ok execution) :
    execution = ⟨callee,deps.component,deps.store.fuel,deps.timeLimitSeconds⟩ := by
  obtain ⟨_,_,same⟩ := (Outcome.map_eq_ok _ _ _).mp called
  exact same.symm

/-- The component that an export is called of: the workflow's, or the one it submits through. -/
def Export.definition (callee : Export) (workflow : Workflow) : Option Component :=
  match callee,workflow.submit with
  | .run,_ => some workflow.component
  | _,.none => none
  | _,.aggregator component => some component

/-- An execution of the component that is under the digest of its definition, with the limits of this definition. -/
structure Execution.Limited (engine : WasmEngine wasmtime) (host : Host) (component : Component)
    (execution : Execution wasmtime) : Prop where
  loaded : (BaseEngine.loadComponent host.load (sourceDigest component.source) engine.toBaseEngine).2 =
    .ok execution.component
  fuel : execution.fuel = component.fuelLimit.getD defaultFuelLimit
  timeout : execution.timeout = component.timeLimitSeconds.getD defaultTimeLimitSeconds

/-- And these are within the limits of the node. -/
structure Execution.Bounded (engine : WasmEngine wasmtime) (host : Host) (component : Component)
    (execution : Execution wasmtime) : Prop extends Execution.Limited engine host component execution where
  maxWasmFuel : ∀ max, engine.maxWasmFuel = some max → execution.fuel ≤ max
  maxExecutionSeconds : ∀ max, engine.maxExecutionSeconds = some max → execution.timeout ≤ max

/-- The limits that a component sets, or the defaults, are within the node's. -/
def Fits (maxWasmFuel maxExecutionSeconds : Option UInt64) (component : Component) : Prop :=
  (∀ max, maxWasmFuel = some max → component.fuelLimit.getD defaultFuelLimit ≤ max) ∧
    ∀ max, maxExecutionSeconds = some max → component.timeLimitSeconds.getD defaultTimeLimitSeconds ≤ max

namespace WasmEngine

variable (prim : IdPrimitives) (host : Host)

theorem loadComponent_eq_ok (digest : ComponentDigest) (self : WasmEngine wasmtime) (component : wasmtime.WasmComponent)
    (loaded : (self.loadComponent host digest).2 = .ok component) :
    (BaseEngine.loadComponent host.load digest self.toBaseEngine).2 = .ok component := by
  unfold loadComponent at loaded
  split at loaded
  · cases loaded
  · have read := (Outcome.ofExcept_eq_ok _ _).mp loaded
    cases found : (BaseEngine.loadComponent host.load digest self.toBaseEngine).2 with
    | error error =>
      rw [found] at read
      cases read
    | ok value =>
      rw [found] at read
      cases read
      rfl

/-- The component that is loaded, instantiated and called is one. -/
theorem executed (callee : Export) (service : Service) (workflowId : WorkflowId) (data : InstanceData)
    (log : HostComponentLogger) (component : Component) (workflow : Workflow) (self : WasmEngine wasmtime)
    (loaded : wasmtime.WasmComponent) (deps : InstanceDeps wasmtime) (execution : Execution wasmtime)
    (found : service.workflows.get workflowId = some workflow)
    (taken : InstanceDepsBuilder.wavsComponent log workflow = some component)
    (read : (self.loadComponent host (sourceDigest component.source)).2 = .ok loaded)
    (built : InstanceDepsBuilder.build prim host ⟨loaded,service,workflowId,data,log⟩ = .ok deps)
    (called : callExport callee host deps = .ok execution) : execution.Limited self host component := by
  obtain ⟨again,definition,foundAgain,takenAgain,same,fuel,time⟩ := build_eq_ok prim host _ deps built
  cases found.symm.trans foundAgain
  cases taken.symm.trans takenAgain
  cases callExport_eq_ok callee host deps execution called
  refine ⟨?_,fuel,time⟩
  rw [same]
  exact self.loadComponent_eq_ok host _ loaded read

theorem executeOperatorComponent_limited (service : Service) (triggerAction : TriggerAction) (self : WasmEngine wasmtime)
    (execution : Execution wasmtime)
    (result : (self.executeOperatorComponent prim host service triggerAction).2 = .ok execution) :
    ∃ workflow, service.workflows.get triggerAction.config.workflowId = some workflow ∧
      execution.Limited self host workflow.component := by
  unfold executeOperatorComponent at result
  split at result
  · cases result
  · next workflow found =>
    obtain ⟨loaded,read,rest⟩ := (Outcome.bind_eq_ok _ _ _).mp result
    obtain ⟨deps,built,called⟩ := (Outcome.bind_eq_ok _ _ _).mp ((Outcome.mapError_eq_ok _ _ _).mp rest)
    exact ⟨workflow,found,executed prim host _ _ _ _ _ _ _ self loaded deps execution found rfl read built called⟩

theorem withAggregatorDeps_limited (callee : Export) (service : Service) (triggerAction : TriggerAction)
    (eventId : EventId) (self : WasmEngine wasmtime) (execution : Execution wasmtime)
    (result : (self.withAggregatorDeps prim host (callExport callee) service triggerAction eventId).2 =
      .ok (some execution)) :
    ∃ workflow component, service.workflows.get triggerAction.config.workflowId = some workflow ∧
      workflow.submit = .aggregator component ∧ execution.Limited self host component := by
  obtain ⟨held,prepared,rest⟩ := (Outcome.bind_eq_ok _ _ _).mp result
  cases held with
  | none => cases rest
  | some deps =>
    obtain ⟨_,called,same⟩ := (Outcome.map_eq_ok _ _ _).mp ((Outcome.mapError_eq_ok _ _ _).mp rest)
    cases same
    have prepared : (self.getAggregatorDeps prim host service triggerAction eventId).2 = .ok (some deps) := prepared
    unfold getAggregatorDeps at prepared
    split at prepared
    · cases prepared
    · next workflow found =>
      split at prepared
      · cases prepared
      · next submitter submits =>
        obtain ⟨loaded,read,rest⟩ := (Outcome.bind_eq_ok _ _ _).mp prepared
        obtain ⟨_,built,same⟩ := (Outcome.map_eq_ok _ _ _).mp ((Outcome.mapError_eq_ok _ _ _).mp rest)
        cases same
        have taken : InstanceDepsBuilder.wavsComponent .aggregatorHostComponentLogger workflow = some submitter := by
          unfold InstanceDepsBuilder.wavsComponent
          rw [submits]
        exact ⟨workflow,submitter,found,submits,
          executed prim host callee _ _ _ _ _ _ self loaded deps execution found taken read built called⟩

theorem definition_eq_some (callee : Export) (other : callee ≠ .run) (workflow : Workflow) (component : Component) :
    callee.definition workflow = some component ↔ workflow.submit = .aggregator component := by
  unfold Export.definition
  cases callee with
  | run => exact absurd rfl other
  | processInput => cases workflow.submit <;> simp
  | handleTimerCallback => cases workflow.submit <;> simp
  | handleSubmitCallback => cases workflow.submit <;> simp

theorem call_limited (callee : Export) (service : Service) (triggerAction : TriggerAction) (eventId : EventId)
    (self next : WasmEngine wasmtime) (execution : Execution wasmtime)
    (result : self.call prim host callee service triggerAction eventId = (next,.ok (some execution))) :
    ∃ workflow component, service.workflows.get triggerAction.config.workflowId = some workflow ∧
      callee.definition workflow = some component ∧ execution.Limited self host component := by
  have outcome := congrArg Prod.snd result
  have submitted : callee ≠ .run →
      (self.withAggregatorDeps prim host (callExport callee) service triggerAction eventId).2 = .ok (some execution) →
      ∃ workflow component, service.workflows.get triggerAction.config.workflowId = some workflow ∧
        callee.definition workflow = some component ∧ execution.Limited self host component := by
    intro other result
    obtain ⟨workflow,component,found,submits,limited⟩ :=
      withAggregatorDeps_limited prim host callee service triggerAction eventId self execution result
    exact ⟨workflow,component,found,(definition_eq_some callee other workflow component).mpr submits,limited⟩
  cases callee with
  | run =>
    obtain ⟨_,ran,same⟩ := (Outcome.map_eq_ok _ _ _).mp outcome
    cases same
    obtain ⟨workflow,found,limited⟩ := executeOperatorComponent_limited prim host service triggerAction self execution ran
    exact ⟨workflow,workflow.component,found,rfl,limited⟩
  | processInput => exact submitted (by simp) outcome
  | handleTimerCallback => exact submitted (by simp) outcome
  | handleSubmitCallback => exact submitted (by simp) outcome

def caching (digest : ComponentDigest) (component : wasmtime.WasmComponent)
    (maxWasmFuel maxExecutionSeconds : Option UInt64) : WasmEngine wasmtime :=
  ⟨⟨⟨1,[(digest,component)]⟩,.new⟩,maxWasmFuel,maxExecutionSeconds⟩

theorem loadComponent_caching (digest : ComponentDigest) (component : wasmtime.WasmComponent)
    (maxWasmFuel maxExecutionSeconds : Option UInt64) :
    ((caching digest component maxWasmFuel maxExecutionSeconds).loadComponent .working digest).2 = .ok component := by
  have cached : (LruCache.get digest (⟨1,[(digest,component)]⟩ : LruCache _ wasmtime.WasmComponent)).1 =
      some component := by
    simp [LruCache.get]
  have hits : ∃ middle, BaseEngine.cacheGet digest (⟨⟨1,[(digest,component)]⟩,.new⟩ : BaseEngine wasmtime) =
      (middle,.ok (some component)) := by
    unfold BaseEngine.cacheGet
    rw [cached]
    exact ⟨_,rfl⟩
  obtain ⟨middle,hits⟩ := hits
  have read : BaseEngine.loadComponent Reading.working digest (⟨⟨1,[(digest,component)]⟩,.new⟩ : BaseEngine wasmtime) =
      (middle,.ok component) := (Attempt.bind_ok _ _ _ _ _).mpr ⟨some component,middle,hits,rfl⟩
  change Outcome.ofExcept ((BaseEngine.loadComponent Reading.working digest
    (⟨⟨1,[(digest,component)]⟩,.new⟩ : BaseEngine wasmtime)).2.mapError ExecutionError.engine) = .ok component
  rw [read]
  rfl

theorem configure_working (component : Component) : InstanceDepsBuilder.configure .working component =
    .ok (component.fuelLimit.getD defaultFuelLimit) := by
  unfold InstanceDepsBuilder.configure InstanceDepsBuilder.allowFileSystem
  cases component.permissions.fileSystem with
  | true => rfl
  | false => rfl

/-- Where nothing fails, the component of the definition is executed. -/
theorem call_caching (callee : Export) (service : Service) (triggerAction : TriggerAction) (eventId : EventId)
    (workflow : Workflow) (component : Component) (compiled : wasmtime.WasmComponent)
    (maxWasmFuel maxExecutionSeconds : Option UInt64)
    (found : service.workflows.get triggerAction.config.workflowId = some workflow)
    (taken : callee.definition workflow = some component) :
    ∃ next execution, (caching (sourceDigest component.source) compiled maxWasmFuel maxExecutionSeconds).call prim
      .working callee service triggerAction eventId = (next,.ok (some execution)) := by
  have loaded := loadComponent_caching (sourceDigest component.source) compiled maxWasmFuel maxExecutionSeconds
  have submitted : callee ≠ .run → ∃ execution,
      ((caching (sourceDigest component.source) compiled maxWasmFuel maxExecutionSeconds).withAggregatorDeps prim
        .working (callExport callee) service triggerAction eventId).2 = .ok (some execution) := by
    intro other
    have submits := (definition_eq_some callee other workflow component).mp taken
    refine ⟨⟨callee,compiled,component.fuelLimit.getD defaultFuelLimit,
      component.timeLimitSeconds.getD defaultTimeLimitSeconds⟩,?_⟩
    simp only [withAggregatorDeps,getAggregatorDeps,found,submits,loaded,Outcome.bind,InstanceDepsBuilder.build,
      InstanceDepsBuilder.wavsComponent,configure_working]
    rfl
  cases callee with
  | run =>
    cases taken
    refine ⟨_,⟨.run,compiled,workflow.component.fuelLimit.getD defaultFuelLimit,
      workflow.component.timeLimitSeconds.getD defaultTimeLimitSeconds⟩,Prod.ext rfl ?_⟩
    simp only [call,executeOperatorComponent,found,loaded,Outcome.bind,InstanceDepsBuilder.build,
      InstanceDepsBuilder.wavsComponent,configure_working]
    rfl
  | processInput =>
    obtain ⟨execution,result⟩ := submitted (by simp)
    exact ⟨_,execution,Prod.ext rfl result⟩
  | handleTimerCallback =>
    obtain ⟨execution,result⟩ := submitted (by simp)
    exact ⟨_,execution,Prod.ext rfl result⟩
  | handleSubmitCallback =>
    obtain ⟨execution,result⟩ := submitted (by simp)
    exact ⟨_,execution,Prod.ext rfl result⟩

/-- Every execution of an export, with whatever surroundings, is bounded exactly when the limits of the component that
is executed fit into the node's. The node's limits are not looked at. -/
theorem executions_bounded_iff [Inhabited wasmtime.WasmComponent] (maxWasmFuel maxExecutionSeconds : Option UInt64)
    (callee : Export) (service : Service) (triggerAction : TriggerAction) (eventId : EventId) :
    (∀ (host : Host) (self next : WasmEngine wasmtime) (execution : Execution wasmtime),
      self.maxWasmFuel = maxWasmFuel → self.maxExecutionSeconds = maxExecutionSeconds →
      self.call prim host callee service triggerAction eventId = (next,.ok (some execution)) →
      ∃ workflow component, service.workflows.get triggerAction.config.workflowId = some workflow ∧
        callee.definition workflow = some component ∧ execution.Bounded self host component) ↔
    ∀ workflow component, service.workflows.get triggerAction.config.workflowId = some workflow →
      callee.definition workflow = some component → Fits maxWasmFuel maxExecutionSeconds component := by
  constructor
  · intro bounded workflow component found taken
    obtain ⟨next,execution,result⟩ := call_caching prim callee service triggerAction eventId workflow component
      (default : wasmtime.WasmComponent) maxWasmFuel maxExecutionSeconds found taken
    obtain ⟨again,definition,foundAgain,takenAgain,within⟩ := bounded _ _ next execution rfl rfl result
    cases found.symm.trans foundAgain
    cases taken.symm.trans takenAgain
    constructor
    · intro max limit
      rw [← within.fuel]
      exact within.maxWasmFuel max limit
    · intro max limit
      rw [← within.timeout]
      exact within.maxExecutionSeconds max limit
  · intro fits host self next execution fuelLimit timeLimit result
    obtain ⟨workflow,component,found,taken,limited⟩ :=
      call_limited prim host callee service triggerAction eventId self next execution result
    obtain ⟨fuel,time⟩ := fits workflow component found taken
    refine ⟨workflow,component,found,taken,limited,?_,?_⟩
    · intro max limit
      rw [limited.fuel]
      exact fuel max (fuelLimit.symm.trans limit)
    · intro max limit
      rw [limited.timeout]
      exact time max (timeLimit.symm.trans limit)

/-- A node that allows 1000 units of fuel and 60 seconds. -/
def cappedNode : WasmEngine BaseEngine.observedWasmtime :=
  caching (sourceDigest noopComponent.source) () (some 1000) (some 60)

theorem default_limits_exceed : ∃ next execution,
    cappedNode.call BaseEngine.observedDigests .working .run deployedService raw1 cafeEvent =
      (next,.ok (some execution)) ∧
    ¬∃ workflow component, deployedService.workflows.get raw1.config.workflowId = some workflow ∧
      Export.run.definition workflow = some component ∧ execution.Bounded cappedNode .working component := by
  have ran : ∃ next execution, cappedNode.call BaseEngine.observedDigests .working .run deployedService raw1 cafeEvent =
      (next,.ok (some execution)) := by
    unfold cappedNode
    exact call_caching _ .run _ _ _ ⟨.manual,noopComponent,.aggregator noopComponent⟩ noopComponent _ _ _ rfl rfl
  obtain ⟨next,execution,result⟩ := ran
  refine ⟨next,execution,result,?_⟩
  rintro ⟨workflow,component,found,taken,bounded⟩
  cases (show some _ = some workflow from found)
  cases taken
  have within := bounded.maxWasmFuel 1000 rfl
  rw [bounded.fuel] at within
  exact absurd within (by decide)

end WasmEngine
end Warpdrive.Engine
