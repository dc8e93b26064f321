import Warpdrive.Aggregator.Underway
import Warpdrive.Dispatch.Services

/-! The way of a trigger through the node: the loop of the dispatcher (`Dispatcher::start`), the
executions of the engine (`EngineManager::start`, `run_trigger` and `run_aggregator`) and the
tasks of the submission manager (`SubmissionManager::start`), around the aggregator. The engine,
the submission manager and the aggregator spawn a task for each command as it comes, so any task
may be the next to go on. An execution finds its service active and starts the component in one
action; what the component returns is arbitrary, an execution that fails returns nothing, and
each response is sent by itself. The channels do not close. -/
namespace Warpdrive.Dispatch

open Warpdrive.Foundation Warpdrive.Foundation.Execution Warpdrive.Types Warpdrive.Aggregator

inductive DispatcherCommand
  | trigger (action : TriggerAction)
  | vector (request : SubmissionRequest)
  | submissionResponse (submission : Submission)
  | aggregatorExecute (command : AggregatorExecute)

inductive EngineCommand
  | executeOperator (action : TriggerAction) (service : Service)
  | executeAggregator (command : AggregatorExecute)

/-- The service of an aggregator execution, which nothing checks again. -/
def DispatcherCommand.executes : DispatcherCommand → Option ServiceId
  | .aggregatorExecute command => some command.submission.serviceId
  | _ => none

def EngineCommand.executes : EngineCommand → Option ServiceId
  | .executeAggregator command => some command.submission.serviceId
  | _ => none

/-- A task of the submission manager: begun, with its service found active, or with its
submission signed. -/
inductive SubmissionTask
  | begun (request : SubmissionRequest)
  | signing (request : SubmissionRequest)
  | signed (submission : Submission)

/-- The aggregator with the queues before the dispatcher, the engine and the submission
manager, the responses not yet sent, the submission tasks, the submissions handed to the
aggregator and the commands that its component was run for. -/
structure Pipeline (ι : Type) where
  system : System ι
  commands : List DispatcherCommand
  engine : List EngineCommand
  responses : List SubmissionRequest
  requests : List SubmissionRequest
  tasks : List SubmissionTask
  submissions : List Submission
  executed : List AggregatorExecute

namespace Pipeline

variable {ι : Type}

def new (burnedQueueTtlSecs : UInt64) : Pipeline ι := ⟨.new burnedQueueTtlSecs,[],[],[],[],[],[],[]⟩

def services (self : Pipeline ι) : Services := ⟨self.system.services,.new⟩

def isActive (self : Pipeline ι) (id : ServiceId) : Bool := self.services.isActive id

inductive Act (ι : Type)
  | trigger (action : TriggerAction)
  | dispatch
  | execute (n : Nat) (responses : List WasmResponse)
  | respond (n : Nat)
  | submit
  | advance (n : Nat) (signers : ServiceId → Option VectrSigner)
  | broadcast (n : Nat)
  | system (act : System.Act ι)

def handleCommand (self : Pipeline ι) : DispatcherCommand → Pipeline ι
  | .trigger action =>
    match self.services.get action.config.serviceId with
    | .error _ => self
    | .ok service =>
      if self.isActive action.config.serviceId then
        {self with engine := self.engine ++ [.executeOperator action service]}
      else self
  | .vector request =>
    match request.service.workflows.get request.triggerAction.config.workflowId with
    | none => self
    | some workflow =>
      if workflow.submit = .none then self else {self with requests := self.requests ++ [request]}
  | .submissionResponse submission => {self with submissions := self.submissions ++ [submission]}
  | .aggregatorExecute command => {self with engine := self.engine ++ [.executeAggregator command]}

/-- The operator component that `run_trigger` starts. -/
def runTrigger (self : Pipeline ι) (action : TriggerAction) (service : Service) : Option Component :=
  if self.isActive action.config.serviceId then
    (service.workflows.get action.config.workflowId).map (fun workflow => workflow.component)
  else none

def runEngine (self : Pipeline ι) (responses : List WasmResponse) : EngineCommand → Pipeline ι
  | .executeOperator action service =>
    match self.runTrigger action service with
    | none => self
    | some _ =>
      {self with responses := self.responses ++ responses.map (fun response => ⟨action,response,service⟩)}
  | .executeAggregator command => {self with executed := self.executed ++ [command]}

/-- The aggregator handles a submission of the node's own, which is dropped where its service
does not take it. -/
def broadcast (self : Pipeline ι) (submission : Submission) : Pipeline ι :=
  match self.system.handleBroadcast submission with
  | none => self
  | some system => {self with system}

variable [DecidableEq ι] (prim : Primitives)

/-- A submission of the node's own comes from its task, and actions come from an execution. -/
def enabled (self : Pipeline ι) : System.Act ι → Bool
  | .broadcast _ _ => false
  | .actions _ submission _ =>
    self.executed.any (fun command => command.kind.returnsActions && command.submission = submission)
  | _ => true

omit [DecidableEq ι] in
/-- The next step of a task that was taken out of the list. -/
def advanceTask (self : Pipeline ι) (signers : ServiceId → Option VectrSigner) : SubmissionTask → Pipeline ι
  | .begun request =>
    if self.isActive request.triggerAction.config.serviceId then
      {self with tasks := self.tasks ++ [.signing request]}
    else self
  | .signing request =>
    match signRequest prim signers request with
    | .error _ => self
    | .ok submission => {self with tasks := self.tasks ++ [.signed submission]}
  | .signed submission => {self with commands := self.commands ++ [.submissionResponse submission]}

def step (self : Pipeline ι) : Act ι → Option (Pipeline ι)
  | .trigger action => some {self with commands := self.commands ++ [.trigger action]}
  | .dispatch =>
    match self.commands with
    | [] => none
    | command::commands => some ({self with commands := commands}.handleCommand command)
  | .execute n responses =>
    (self.engine[n]?).map (fun command => {self with engine := self.engine.eraseIdx n}.runEngine responses command)
  | .respond n =>
    (self.responses[n]?).map (fun request =>
      {self with
        responses := self.responses.eraseIdx n
        commands := self.commands ++ [.vector request]})
  | .submit =>
    match self.requests with
    | [] => none
    | request::requests => some {self with
        requests := requests
        tasks := self.tasks ++ [.begun request]}
  | .advance n signers =>
    (self.tasks[n]?).map (fun task => {self with tasks := self.tasks.eraseIdx n}.advanceTask prim signers task)
  | .broadcast n =>
    (self.submissions[n]?).map (fun submission =>
      {self with submissions := self.submissions.eraseIdx n}.broadcast submission)
  | .system act =>
    if self.enabled act then
      (self.system.step prim act).map (fun system =>
        let sent : List DispatcherCommand := (System.sent self.system system).map .aggregatorExecute
        {self with system, commands := self.commands ++ sent})
    else none

/-- The call makes an on-chain submission. -/
def submits : Query → Bool
  | .sendEnvelopeSignatures _ _ _ _ _ => true
  | .warpDriveHandleSignedEnvelope _ _ _ _ => true
  | .verifyEth _ _ _ _ _ _ => true
  | .verifyXlm _ _ _ _ _ _ => true
  | _ => false

/-- The service that a step starts a component of or makes an on-chain submission for. -/
def starts (self : Pipeline ι) : Act ι → Option ServiceId
  | .execute n _ =>
    match self.engine[n]? with
    | some (.executeOperator action service) =>
      (self.runTrigger action service).map (fun _ => action.config.serviceId)
    | some (.executeAggregator command) => some command.submission.serviceId
    | none => none
  | .system (.submitting (.answer i reply)) =>
    if submits reply.1 then (self.system.submitting.tasks i).map (fun task => task.submission.serviceId)
    else none
  | _ => none

def Inert (self : Pipeline ι) (act : Act ι) (_ : Pipeline ι) : Prop :=
  ∀ id ∈ self.starts act, self.isActive id = true

/-! ## Work in flight

What was begun for a service while it was active runs to its end whatever becomes of the
service. -/

omit [DecidableEq ι] in
def InFlight (self : Pipeline ι) (id : ServiceId) : Prop :=
  (∃ i, (self.system.receiving.calls i).any
    (fun call => call.underway && call.submission.serviceId = id) = true) ∨
  (∃ i, (self.system.submitting.tasks i).any
    (fun task => task.underway && task.submission.serviceId = id) = true) ∨
  (∃ command ∈ self.commands, command.executes = some id) ∨
  ∃ command ∈ self.engine, command.executes = some id

omit [DecidableEq ι] in
structure Confined (holds : ServiceId → Prop) (state : Pipeline ι) : Prop where
  work : System.Underway holds state.system
  commands : ∀ command ∈ state.commands, ∀ id ∈ command.executes, holds id
  engine : ∀ command ∈ state.engine, ∀ id ∈ command.executes, holds id

omit [DecidableEq ι] in
theorem Confined.of_inFlight (holds : ServiceId → Prop) (self : Pipeline ι)
    (all : ∀ id, self.InFlight id → holds id) : Confined holds self := by
  refine ⟨⟨?_,?_⟩,?_,?_⟩
  · intro i call found late
    exact all _ (.inl ⟨i,by simp [found,late]⟩)
  · intro i task found late
    exact all _ (.inr (.inl ⟨i,by simp [found,late]⟩))
  · intro command member id executes
    exact all id (.inr (.inr (.inl ⟨command,member,executes⟩)))
  · intro command member id executes
    exact all id (.inr (.inr (.inr ⟨command,member,executes⟩)))

omit [DecidableEq ι] in
theorem Confined.inFlight (holds : ServiceId → Prop) (self : Pipeline ι) (confined : Confined holds self)
    (id : ServiceId) (flying : self.InFlight id) : holds id := by
  rcases flying with ⟨i,late⟩ | ⟨i,late⟩ | ⟨command,member,executes⟩ | ⟨command,member,executes⟩
  · simp only [Option.any_eq_true,Bool.and_eq_true,decide_eq_true_eq] at late
    obtain ⟨call,found,late,same⟩ := late
    rw [← same]
    exact confined.work.receiving i call found late
  · simp only [Option.any_eq_true,Bool.and_eq_true,decide_eq_true_eq] at late
    obtain ⟨task,found,late,same⟩ := late
    rw [← same]
    exact confined.work.submitting i task found late
  · exact confined.commands command member id executes
  · exact confined.engine command member id executes

def Act.admits : Act ι → Option ServiceId
  | .system act => act.admits
  | _ => none

def Act.sets : Act ι → Option ServiceId
  | .system act => act.sets
  | _ => none

omit [DecidableEq ι] in
theorem handleCommand_confined (self : Pipeline ι) (command : DispatcherCommand) (holds : ServiceId → Prop)
    (own : ∀ id ∈ command.executes, holds id) (confined : Confined holds self) :
    Confined holds (self.handleCommand command) := by
  have longer : ∀ added : EngineCommand, (∀ id ∈ added.executes, holds id) →
      ∀ command ∈ self.engine ++ [added], ∀ id ∈ command.executes, holds id := by
    intro added last command member id executes
    rcases List.mem_append.mp member with before | new
    · exact confined.engine command before id executes
    · rw [List.mem_singleton.mp new] at executes
      exact last id executes
  cases command with
  | trigger action =>
    simp only [handleCommand]
    split
    · exact confined
    · split
      · exact ⟨confined.work,confined.commands,longer _ (fun id executes => by cases executes)⟩
      · exact confined
  | vector request =>
    simp only [handleCommand]
    split
    · exact confined
    · split
      · exact confined
      · exact ⟨confined.work,confined.commands,confined.engine⟩
  | submissionResponse submission => exact ⟨confined.work,confined.commands,confined.engine⟩
  | aggregatorExecute command =>
    exact ⟨confined.work,confined.commands,longer _ own⟩

omit [DecidableEq ι] in
theorem runEngine_confined (self : Pipeline ι) (responses : List WasmResponse) (command : EngineCommand)
    (holds : ServiceId → Prop) (confined : Confined holds self) :
    Confined holds (self.runEngine responses command) := by
  cases command with
  | executeOperator action service =>
    simp only [runEngine]
    split
    · exact confined
    · exact ⟨confined.work,confined.commands,confined.engine⟩
  | executeAggregator command => exact ⟨confined.work,confined.commands,confined.engine⟩

omit [DecidableEq ι] in
/-- The dispatcher is sent a command that executes nothing. -/
theorem Confined.send {self : Pipeline ι} {holds : ServiceId → Prop} (confined : Confined holds self)
    (added : DispatcherCommand) (plain : added.executes = none) :
    ∀ command ∈ self.commands ++ [added], ∀ id ∈ command.executes, holds id := by
  intro command member id executes
  rcases List.mem_append.mp member with before | new
  · exact confined.commands command before id executes
  · rw [List.mem_singleton.mp new,plain] at executes
    cases executes

omit [DecidableEq ι] in
theorem advanceTask_confined (self : Pipeline ι) (signers : ServiceId → Option VectrSigner) (task : SubmissionTask)
    (holds : ServiceId → Prop) (confined : Confined holds self) :
    Confined holds (self.advanceTask prim signers task) := by
  cases task with
  | begun request =>
    simp only [advanceTask]
    split
    · exact ⟨confined.work,confined.commands,confined.engine⟩
    · exact confined
  | signing request =>
    simp only [advanceTask]
    split
    · exact confined
    · exact ⟨confined.work,confined.commands,confined.engine⟩
  | signed submission => exact ⟨confined.work,confined.send _ rfl,confined.engine⟩

omit [DecidableEq ι] in
theorem broadcast_confined (self : Pipeline ι) (submission : Submission) (holds : ServiceId → Prop)
    (confined : Confined holds self) : Confined holds (self.broadcast submission) := by
  unfold broadcast
  split
  · exact confined
  · next system handled =>
    obtain ⟨_,_,same⟩ := Option.map_eq_some_iff.mp handled
    subst same
    exact ⟨⟨confined.work.receiving,confined.work.submitting⟩,confined.commands,confined.engine⟩

theorem step_confined (self : Pipeline ι) (act : Act ι) (next : Pipeline ι)
    (taken : self.step prim act = some next) (holds : ServiceId → Prop)
    (admits : ∀ id ∈ act.admits, holds id) (confined : Confined holds self) : Confined holds next := by
  cases act with
  | trigger action =>
    cases taken
    exact ⟨confined.work,confined.send _ rfl,confined.engine⟩
  | dispatch =>
    simp only [step] at taken
    split at taken
    · cases taken
    next command commands queued =>
      cases taken
      have own := confined.commands command (by simp [queued])
      refine handleCommand_confined _ command holds own ⟨confined.work,?_,confined.engine⟩
      intro other member
      exact confined.commands other (by simp [queued,member])
  | execute n responses =>
    simp only [step,Option.map_eq_some_iff] at taken
    obtain ⟨command,queued,same⟩ := taken
    subst same
    refine runEngine_confined _ responses command holds ⟨confined.work,confined.commands,?_⟩
    intro other member
    exact confined.engine other (List.mem_of_mem_eraseIdx member)
  | respond n =>
    obtain ⟨request,_,same⟩ := Option.map_eq_some_iff.mp taken
    subst same
    exact ⟨confined.work,confined.send _ rfl,confined.engine⟩
  | submit =>
    simp only [step] at taken
    split at taken <;> cases taken
    exact ⟨confined.work,confined.commands,confined.engine⟩
  | advance n signers =>
    obtain ⟨task,_,same⟩ := Option.map_eq_some_iff.mp taken
    subst same
    exact advanceTask_confined prim _ signers task holds ⟨confined.work,confined.commands,confined.engine⟩
  | broadcast n =>
    obtain ⟨submission,_,same⟩ := Option.map_eq_some_iff.mp taken
    subst same
    exact broadcast_confined _ submission holds ⟨confined.work,confined.commands,confined.engine⟩
  | system act =>
    simp only [step] at taken
    split at taken
    · simp only [Option.map_eq_some_iff] at taken
      obtain ⟨system,stepped,same⟩ := taken
      subst same
      obtain ⟨work,sent⟩ := System.step_underway prim self.system act system stepped holds admits confined.work
      refine ⟨work,?_,confined.engine⟩
      intro command member id executes
      rcases List.mem_append.mp member with before | new
      · exact confined.commands command before id executes
      · obtain ⟨execute,found,same⟩ := List.mem_map.mp new
        rw [← same] at executes
        cases executes
        exact sent execute found
    · cases taken

omit [DecidableEq ι] in
theorem isActive_congr (self next : Pipeline ι) (id : ServiceId)
    (same : next.system.services.getCloned id = self.system.services.getCloned id) :
    next.isActive id = self.isActive id := by
  unfold isActive Services.isActive services
  simp only [same]

omit [DecidableEq ι] in
theorem handleCommand_system (self : Pipeline ι) (command : DispatcherCommand) :
    (self.handleCommand command).system = self.system := by
  cases command <;> simp only [handleCommand]
  · split
    · rfl
    · split <;> rfl
  · split
    · rfl
    · split <;> rfl

omit [DecidableEq ι] in
theorem advanceTask_system (self : Pipeline ι) (signers : ServiceId → Option VectrSigner) (task : SubmissionTask) :
    (self.advanceTask prim signers task).system = self.system := by
  cases task <;> simp only [advanceTask]
  · split <;> rfl
  · split <;> rfl

omit [DecidableEq ι] in
theorem broadcast_stored (self : Pipeline ι) (submission : Submission) :
    (self.broadcast submission).system.services = self.system.services := by
  unfold broadcast
  split
  · rfl
  · next system handled =>
    obtain ⟨_,_,same⟩ := Option.map_eq_some_iff.mp handled
    subst same
    rfl

omit [DecidableEq ι] in
theorem runEngine_system (self : Pipeline ι) (responses : List WasmResponse) (command : EngineCommand) :
    (self.runEngine responses command).system = self.system := by
  cases command <;> simp only [runEngine]
  split <;> rfl

theorem step_isActive (self : Pipeline ι) (act : Act ι) (next : Pipeline ι)
    (taken : self.step prim act = some next) (id : ServiceId) (unset : id ∉ act.sets) :
    next.isActive id = self.isActive id := by
  apply isActive_congr
  cases act with
  | trigger action =>
    cases taken
    rfl
  | dispatch =>
    simp only [step] at taken
    split at taken
    · cases taken
    · cases taken
      rw [handleCommand_system]
  | execute n responses =>
    simp only [step,Option.map_eq_some_iff] at taken
    obtain ⟨command,_,same⟩ := taken
    subst same
    rw [runEngine_system]
  | respond n =>
    obtain ⟨request,_,same⟩ := Option.map_eq_some_iff.mp taken
    subst same
    rfl
  | submit =>
    simp only [step] at taken
    split at taken <;> cases taken
    rfl
  | advance n signers =>
    obtain ⟨task,_,same⟩ := Option.map_eq_some_iff.mp taken
    subst same
    rw [advanceTask_system]
  | broadcast n =>
    obtain ⟨submission,_,same⟩ := Option.map_eq_some_iff.mp taken
    subst same
    rw [broadcast_stored]
  | system act =>
    simp only [step] at taken
    split at taken
    · simp only [Option.map_eq_some_iff] at taken
      obtain ⟨system,stepped,same⟩ := taken
      subst same
      exact System.step_stored prim self.system act system stepped id unset
    · cases taken

/-- Work is begun for an active service, and a service that stops being active has no work in
flight. -/
def Quiet (self : Pipeline ι) (act : Act ι) (next : Pipeline ι) : Prop :=
  (∀ id ∈ act.admits, self.isActive id = true) ∧
    ∀ id ∈ act.sets, next.isActive id = true ∨ ¬self.InFlight id

omit [DecidableEq ι] in
def Settled (self : Pipeline ι) : Prop := Confined (fun id => self.isActive id = true) self

omit [DecidableEq ι] in
theorem new_settled (ttlSecs : UInt64) : (new ttlSecs : Pipeline ι).Settled := by
  refine ⟨⟨?_,?_⟩,?_,?_⟩
  · intro i call found
    cases found
  · intro i task found
    cases found
  · intro command member
    cases member
  · intro command member
    cases member

theorem step_settled (self : Pipeline ι) (act : Act ι) (next : Pipeline ι)
    (taken : self.step prim act = some next) (quiet : Quiet self act next) (settled : self.Settled) :
    next.Settled := by
  obtain ⟨admitted,spared⟩ := quiet
  have still : ∀ id, id ∉ act.sets → self.isActive id = true → next.isActive id = true := by
    intro id unset active
    rw [step_isActive prim self act next taken id unset]
    exact active
  refine step_confined prim self act next taken _ ?_ ?_
  · intro id admits
    refine still id ?_ (admitted id admits)
    intro sets
    cases act with
    | system act => cases act <;> cases admits <;> cases sets
    | _ => cases admits
  · apply Confined.of_inFlight
    intro id flying
    by_cases sets : id ∈ act.sets
    · rcases spared id sets with active | idle
      · exact active
      · exact absurd flying idle
    · exact still id sets (Confined.inFlight _ self settled id flying)

omit [DecidableEq ι] in
instance decidableInFlight [Fintype ι] (self : Pipeline ι) (id : ServiceId) : Decidable (self.InFlight id) := by
  unfold InFlight
  infer_instance

omit [DecidableEq ι] in
instance decidableQuiet [Fintype ι] (self : Pipeline ι) (act : Act ι) (next : Pipeline ι) :
    Decidable (Quiet self act next) := by
  unfold Quiet
  infer_instance

omit [DecidableEq ι] in
instance decidableInert (self : Pipeline ι) (act : Act ι) (next : Pipeline ι) :
    Decidable (Inert self act next) :=
  Option.decidableForallMem (self.starts act)

/-- A trigger from the operator's component to the chain, and a second one after the service is
paused. -/
def pausedAfterwards : List (Act Caller) :=
  List.flatten [[.system (.setService observedService (some deployedService)),.trigger raw1,.dispatch,
      .execute 0 [cafe],.respond 0,.dispatch,.submit,.advance 0 signers1,.advance 0 signers1,.advance 0 signers1,
      .dispatch,.broadcast 0,.system (.receive .first .me submission1)],
    (Receiving.admission .first cafeEvent operator1 none).map (fun act => .system (.receiving act)),
    [.dispatch,.execute 0 []],
    System.firstBurn.map .system,
    [.dispatch,.execute 0 [],
      .system (.setService observedService (some {deployedService with status := .paused})),
      .trigger raw1,.dispatch]]

end Pipeline
end Warpdrive.Dispatch
