import Warpdrive.Cli.ServiceRuns
import Warpdrive.Foundation.Noninterference

/-! Commands on different parts of a service file do not interfere, unless one is cut short as it writes. Whatever the
file is at first, a workflow, the name, the status and the manager are after a run what they are after the commands
on that part alone, and these commands succeed or fail alike. -/
namespace Warpdrive.Cli

open Warpdrive.Foundation Warpdrive.Foundation.Noninterference Warpdrive.Types

inductive Part
  | name
  | workflow (id : WorkflowId)
  | status
  | manager
  deriving DecidableEq

def Part.Same (part : Part) (first second : ServiceBuilder) : Prop :=
  match part with
  | .name => first.name = second.name
  | .workflow id => first.workflows.get id = second.workflows.get id
  | .status => first.status = second.status
  | .manager => first.manager = second.manager

/-- The workflow that a command is on. -/
def WorkflowCommand.target (outside : Outside) : WorkflowCommand → Option WorkflowId
  | .add id => (newWorkflowId outside id).toOption
  | .delete id => some id
  | .component id _ => some id
  | .trigger id _ => some id
  | .submit id _ => some id

/-- Whether a command is on the part. `init` is on every part. -/
def Part.concerns (part : Part) (act : ServiceCommand × Outside) : Bool :=
  match act.1 with
  | .init _ => true
  | .workflow command => (command.target act.2).any (fun id => part = .workflow id)
  | .manager _ => part = .manager
  | .updateStatus _ => part = .status

theorem Part.same_refl (part : Part) (service : ServiceBuilder) : part.Same service service := by
  cases part <;> rfl

theorem Part.same_symm (part : Part) (first second : ServiceBuilder) (same : part.Same first second) :
    part.Same second first := by
  cases part <;> exact Eq.symm same

theorem Part.same_trans (part : Part) (first second third : ServiceBuilder) (same : part.Same first second)
    (next : part.Same second third) : part.Same first third := by
  cases part <;> exact Eq.trans same next

theorem Part.same_stored (part : Part) (first second : ServiceBuilder) (same : part.Same first second) :
    part.Same first.stored second.stored := by
  cases part with
  | workflow id =>
    change first.stored.workflows.get id = second.stored.workflows.get id
    simp only [ServiceBuilder.stored,BTreeMap.get_mapValues]
    exact congrArg (Option.map WorkflowBuilder.stored) same
  | name => exact same
  | status => exact same
  | manager => exact same

/-- Two answers of a change: the same failure, or services with the same part. -/
def AnswersAlike (part : Part) (first second : Except Failure ServiceBuilder) : Prop :=
  match first,second with
  | .ok first,.ok second => part.Same first second
  | .error first,.error second => first = second
  | _,_ => False

/-- A change that looks at no more than the part. -/
def Local (part : Part) (modifier : ServiceBuilder → Except Failure ServiceBuilder) : Prop :=
  ∀ first second, part.Same first second → AnswersAlike part (modifier first) (modifier second)

/-- A change that leaves the part as it is. -/
def Keeps (part : Part) (modifier : ServiceBuilder → Except Failure ServiceBuilder) : Prop :=
  ∀ service updated, modifier service = .ok updated → part.Same updated service

/-- A change of the workflows at one id is seen in no other part. -/
theorem Part.same_workflows (part : Part) (id : WorkflowId) (other : part ≠ .workflow id) (service : ServiceBuilder)
    (workflows : BTreeMap WorkflowId WorkflowBuilder)
    (elsewhere : ∀ held, held ≠ id → workflows.get held = service.workflows.get held) :
    part.Same {service with workflows := workflows} service := by
  cases part with
  | workflow held =>
    apply elsewhere
    rintro rfl
    exact other rfl
  | name => rfl
  | status => rfl
  | manager => rfl

theorem onWorkflow_local (id : WorkflowId) (change : WorkflowBuilder → Except Failure WorkflowBuilder) :
    Local (.workflow id) (onWorkflow id change) := by
  intro first second same
  change first.workflows.get id = second.workflows.get id at same
  simp only [onWorkflow,same]
  cases second.workflows.get id with
  | none => rfl
  | some workflow =>
    cases changed : change workflow with
    | error failure => simp [AnswersAlike,changed,Except.map]
    | ok made => simp [AnswersAlike,changed,Except.map,Part.Same,BTreeMap.get_insert]

theorem onWorkflow_keeps (part : Part) (id : WorkflowId) (change : WorkflowBuilder → Except Failure WorkflowBuilder)
    (other : part ≠ .workflow id) : Keeps part (onWorkflow id change) := by
  intro service updated changed
  unfold onWorkflow at changed
  split at changed
  · cases changed
  · obtain ⟨made,_,rfl⟩ := except_map_eq_ok _ _ _ changed
    refine part.same_workflows id other service _ ?_
    intro held differ
    rw [BTreeMap.get_insert,if_neg differ]

theorem workflowCommand_local (parsers : Parsers) (outside : Outside) (command : WorkflowCommand) (id : WorkflowId)
    (on : command.target outside = some id) (modifier : ServiceBuilder → Except Failure ServiceBuilder)
    (prepared : workflowCommand parsers outside command = .ok modifier) : Local (.workflow id) modifier := by
  cases command with
  | add given =>
    cases prepared
    intro first second same
    simp only [WorkflowCommand.target] at on
    cases made : newWorkflowId outside given with
    | error failure =>
      rw [made] at on
      cases on
    | ok fresh =>
      rw [made] at on
      cases on
      simp [AnswersAlike,Except.map,Part.Same,BTreeMap.get_insert]
  | delete given =>
    cases prepared
    cases on
    intro first second same
    change first.workflows.get id = second.workflows.get id at same
    simp only [same]
    cases second.workflows.get id with
    | none => rfl
    | some workflow => simp [AnswersAlike,Part.Same,BTreeMap.get_remove]
  | component given command =>
    cases on
    obtain ⟨change,_,rfl⟩ := except_map_eq_ok _ _ _ prepared
    exact onWorkflow_local id change
  | trigger given command =>
    cases on
    obtain ⟨trigger,_,rfl⟩ := except_map_eq_ok _ _ _ prepared
    exact onWorkflow_local id _
  | submit given command =>
    cases on
    obtain ⟨change,_,rfl⟩ := except_map_eq_ok _ _ _ prepared
    exact onWorkflow_local id change

theorem workflowCommand_keeps (parsers : Parsers) (outside : Outside) (command : WorkflowCommand) (part : Part)
    (off : ∀ id, command.target outside = some id → part ≠ .workflow id)
    (modifier : ServiceBuilder → Except Failure ServiceBuilder)
    (prepared : workflowCommand parsers outside command = .ok modifier) : Keeps part modifier := by
  cases command with
  | add given =>
    cases prepared
    intro service updated changed
    obtain ⟨fresh,made,rfl⟩ := except_map_eq_ok _ _ _ changed
    refine part.same_workflows fresh (off fresh ?_) service _ ?_
    · rw [WorkflowCommand.target,made]
      rfl
    · intro held differ
      rw [BTreeMap.get_insert,if_neg differ]
  | delete given =>
    cases prepared
    intro service updated changed
    simp only at changed
    split at changed
    · cases changed
    · cases changed
      refine part.same_workflows given (off given rfl) service _ ?_
      intro held differ
      rw [BTreeMap.get_remove,if_neg differ]
  | component given command =>
    obtain ⟨change,_,rfl⟩ := except_map_eq_ok _ _ _ prepared
    exact onWorkflow_keeps part given change (off given rfl)
  | trigger given command =>
    obtain ⟨trigger,_,rfl⟩ := except_map_eq_ok _ _ _ prepared
    exact onWorkflow_keeps part given _ (off given rfl)
  | submit given command =>
    obtain ⟨change,_,rfl⟩ := except_map_eq_ok _ _ _ prepared
    exact onWorkflow_keeps part given change (off given rfl)

theorem managerCommand_local (outside : Outside) (command : ManagerCommand)
    (modifier : ServiceBuilder → Except Failure ServiceBuilder)
    (prepared : managerCommand outside command = .ok modifier) : Local .manager modifier := by
  cases command with
  | setEvm chain address =>
    cases prepared
    exact fun first second same => rfl
  | setStellar chain address =>
    simp only [managerCommand] at prepared
    split at prepared
    · cases prepared
    · cases prepared
      exact fun first second same => rfl

theorem managerCommand_keeps (outside : Outside) (command : ManagerCommand) (part : Part) (other : part ≠ .manager)
    (modifier : ServiceBuilder → Except Failure ServiceBuilder)
    (prepared : managerCommand outside command = .ok modifier) : Keeps part modifier := by
  intro service updated changed
  obtain ⟨name,workflows,status⟩ := managerCommand_workflows outside command modifier prepared service updated changed
  cases part with
  | workflow id => exact congrArg (fun map => BTreeMap.get map id) workflows
  | name => exact name
  | status => exact status
  | manager => exact absurd rfl other

section file

variable (formats : Formats) (parsers : Parsers)

/-- What is in two files: the same that is no JSON, JSON that neither is a service, or services with the same part. -/
inductive ContentsSame (part : Part) : Contents → Contents → Prop
  | json (first second) (same : Option.Rel part.Same (ServiceBuilder.read formats first)
      (ServiceBuilder.read formats second)) : ContentsSame part (.json first) (.json second)
  | garbled (left) : ContentsSame part (.garbled left) (.garbled left)

def FileSame (part : Part) (first second : Option Contents) : Prop :=
  Option.Rel (ContentsSame formats part) first second

theorem FileSame.refl (part : Part) (file : Option Contents) : FileSame formats part file file := by
  cases file with
  | none => exact .none
  | some contents =>
    cases contents with
    | garbled left => exact .some (.garbled left)
    | json json =>
      refine .some (.json json json ?_)
      cases ServiceBuilder.read formats json with
      | none => exact .none
      | some service => exact .some (part.same_refl service)

theorem FileSame.symm (part : Part) (first second : Option Contents) (same : FileSame formats part first second) :
    FileSame formats part second first := by
  cases same with
  | none => exact .none
  | some same =>
    cases same with
    | garbled left => exact .some (.garbled left)
    | json first second same =>
      refine .some (.json second first ?_)
      generalize ServiceBuilder.read formats first = one at same ⊢
      generalize ServiceBuilder.read formats second = other at same ⊢
      cases same with
      | none => exact .none
      | some same => exact .some (part.same_symm _ _ same)

theorem readServiceFile_alike (part : Part) (outside : Outside) (first second : Option Contents)
    (same : FileSame formats part first second) :
    AnswersAlike part (readServiceFile formats outside first) (readServiceFile formats outside second) := by
  unfold readServiceFile
  split
  · rfl
  · cases same with
    | none => rfl
    | some same =>
      cases same with
      | garbled left => cases left <;> rfl
      | json first second same =>
        simp only
        generalize ServiceBuilder.read formats first = one at same ⊢
        generalize ServiceBuilder.read formats second = other at same ⊢
        cases same with
        | none => rfl
        | some same => exact same

theorem fileSame_written (part : Part) (first second : ServiceBuilder) (same : part.Same first second) :
    FileSame formats part (some (.json (first.write formats))) (some (.json (second.write formats))) := by
  refine .some (.json _ _ ?_)
  simp only [ServiceBuilder.read_write]
  exact .some (part.same_stored first second same)

theorem writeServiceFile_local (part : Part) (outside : Outside) (first second : Option Contents)
    (updated other : ServiceBuilder) (same : FileSame formats part first second) (alike : part.Same updated other) :
    (writeServiceFile formats outside first updated).2 = (writeServiceFile formats outside second other).2 ∧
      FileSame formats part (writeServiceFile formats outside first updated).1
        (writeServiceFile formats outside second other).1 := by
  unfold writeServiceFile
  cases outside.writing with
  | done => exact ⟨rfl,fileSame_written formats part updated other alike⟩
  | unopened => exact ⟨rfl,same⟩
  | cut left => exact ⟨rfl,.some (.garbled left)⟩

theorem editFile_local (part : Part) (outside : Outside) (first second : Option Contents)
    (prepared : Except Failure (ServiceBuilder → Except Failure ServiceBuilder))
    (on : ∀ modifier, prepared = .ok modifier → Local part modifier) (same : FileSame formats part first second) :
    (editFile formats outside first prepared).2 = (editFile formats outside second prepared).2 ∧
      FileSame formats part (editFile formats outside first prepared).1
        (editFile formats outside second prepared).1 := by
  cases prepared with
  | error failure => exact ⟨rfl,same⟩
  | ok modifier =>
    have loaded := readServiceFile_alike formats part outside first second same
    simp only [editFile,modifyServiceFile]
    generalize readServiceFile formats outside first = one at loaded ⊢
    generalize readServiceFile formats outside second = other at loaded ⊢
    cases one with
    | error failure =>
      cases other with
      | error other => exact ⟨congrArg Except.error loaded,same⟩
      | ok service => exact loaded.elim
    | ok service =>
      cases other with
      | error failure => exact loaded.elim
      | ok otherService =>
        have answers := on modifier rfl service otherService loaded
        simp only
        generalize modifier service = changed at answers ⊢
        generalize modifier otherService = otherChanged at answers ⊢
        cases changed with
        | error failure =>
          cases otherChanged with
          | error other => exact ⟨congrArg Except.error answers,same⟩
          | ok updated => exact answers.elim
        | ok updated =>
          cases otherChanged with
          | error failure => exact answers.elim
          | ok otherUpdated =>
            exact writeServiceFile_local formats part outside first second updated otherUpdated same answers

theorem editFile_keeps (part : Part) (outside : Outside) (first second : Option Contents)
    (prepared : Except Failure (ServiceBuilder → Except Failure ServiceBuilder))
    (off : ∀ modifier, prepared = .ok modifier → Keeps part modifier) (uncut : outside.writing.isCut = false)
    (same : FileSame formats part first second) :
    FileSame formats part (editFile formats outside first prepared).1 second := by
  rcases editFile_cases formats outside first prepared with
    ⟨failure,failed⟩ | ⟨json,service,modifier,updated,rfl,read,made,changed,done⟩
  · rw [failed]
    exact same
  · rw [done]
    unfold writeServiceFile
    cases ended : outside.writing with
    | cut left =>
      rw [ended] at uncut
      cases uncut
    | unopened => exact same
    | done =>
      have kept := part.same_stored updated service (off modifier made service updated changed)
      rw [ServiceBuilder.read_stored formats json service read] at kept
      cases same with
      | some same =>
        cases same with
        | json _ other same =>
          refine .some (.json _ other ?_)
          rw [read] at same
          rw [ServiceBuilder.read_write]
          generalize ServiceBuilder.read formats other = found at same ⊢
          cases same with
          | some same => exact .some (part.same_trans _ service _ kept same)

theorem unwinding (part : Part) : Unwinding (step formats parsers) part.concerns true
    (fun act => act.2.writing.isCut = false) (FileSame formats part) where
  symm := FileSame.symm formats part
  consistent := by
    intro first second act on same
    obtain ⟨command,outside⟩ := act
    cases command with
    | init name =>
      exact writeServiceFile_local formats part outside first second _ _ same (part.same_refl (initService name))
    | workflow command =>
      refine editFile_local formats part outside first second _ ?_ same
      intro modifier prepared
      simp only [Part.concerns,Option.any_eq_true] at on
      obtain ⟨id,targeted,here⟩ := on
      rw [of_decide_eq_true here]
      exact workflowCommand_local parsers outside command id targeted modifier prepared
    | manager command =>
      refine editFile_local formats part outside first second _ ?_ same
      intro modifier prepared
      rw [of_decide_eq_true on]
      exact managerCommand_local outside command modifier prepared
    | updateStatus status =>
      refine editFile_local formats part outside first second _ ?_ same
      intro modifier prepared
      cases prepared
      rw [of_decide_eq_true on]
      exact fun one other _ => rfl
  respects := by
    intro first second act uncut off same
    obtain ⟨command,outside⟩ := act
    cases command with
    | init name => exact absurd rfl off
    | workflow command =>
      refine editFile_keeps formats part outside first second _ ?_ uncut same
      intro modifier prepared
      refine workflowCommand_keeps parsers outside command part ?_ modifier prepared
      intro id targeted here
      exact off (by simp [Part.concerns,targeted,here])
    | manager command =>
      refine editFile_keeps formats part outside first second _ ?_ uncut same
      intro modifier prepared
      refine managerCommand_keeps outside command part ?_ modifier prepared
      intro here
      exact off (by simp [Part.concerns,here])
    | updateStatus status =>
      refine editFile_keeps formats part outside first second _ ?_ uncut same
      intro modifier prepared service updated changed
      cases prepared
      cases changed
      cases part with
      | status => exact absurd rfl off
      | workflow id => rfl
      | name => rfl
      | manager => rfl

end file

end Warpdrive.Cli
