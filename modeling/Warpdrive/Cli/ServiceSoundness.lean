import Mathlib.Tactic.Common
import Warpdrive.Cli.ServiceCommands
import Warpdrive.Foundation.Async

/-! What holds of a service file that only the commands have written: every later command can read it, and of the
faults that `service validate` knows it shows none that a command refuses to write. What remains is to be set, is
empty or zero, or has become late. -/
namespace Warpdrive.Cli

open Warpdrive.Foundation Warpdrive.Types
open Warpdrive.Engine (startsWith)

def HostsSound : AllowedHostPermission → Prop
  | .only hosts => hosts ≠ [] ∧ hosts ≠ ["*"] ∧ ∀ host ∈ hosts, host.isEmpty = false ∧ trim host = host
  | _ => True

structure ComponentSound (component : Component) : Prop where
  envKeys : ∀ entry ∈ component.envKeys.entries, startsWith entry.1 envPrefix = true
  hosts : HostsSound component.permissions.allowedHttpHosts

def TriggerSound (parsers : Parsers) : Trigger → Prop
  | .stellarContractEvent _ _ segments => segments.length ≤ 4 ∧ .restWildcard ∉ segments.dropLast
  | .blockInterval _ _ startBlock endBlock => ∀ first, startBlock = some first → ∀ last, endBlock = some last →
      first.1 ≤ last.1
  | .cron schedule startTime endTime => parsers.schedule schedule = none ∧
      ∀ first, startTime = some first → ∀ last, endTime = some last → first.nanos ≤ last.nanos
  | .atProtoEvent collection repoDid _ => '.' ∈ collection.toList ∧
      ∀ did, repoDid = some did → startsWith did "did:" = true
  | _ => True

def aggregatorComponent : SubmitBuilder → Option Component
  | .submit (.aggregator component) => some component
  | .aggregatorBuilder (.aggregator (.component component) _) => some component
  | _ => none

structure WorkflowSound (parsers : Parsers) (workflow : WorkflowBuilder) : Prop where
  trigger : ∀ trigger, workflow.trigger = .trigger trigger → TriggerSound parsers trigger
  component : ∀ component, workflow.component = .component component → ComponentSound component
  submit : ∀ component, aggregatorComponent workflow.submit = some component → ComponentSound component

def ServiceSound (parsers : Parsers) (service : ServiceBuilder) : Prop :=
  ∀ id workflow, service.workflows.get id = some workflow → WorkflowSound parsers workflow

theorem trim_trim (text : String) : trim (trim text) = trim text := by
  have stable : ∀ chars : List Char, ((chars.dropWhile isWhitespace).rdropWhile isWhitespace).dropWhile isWhitespace =
      (chars.dropWhile isWhitespace).rdropWhile isWhitespace := by
    intro chars
    rw [List.dropWhile_eq_self_iff]
    intro nonempty
    obtain ⟨tail,whole⟩ := List.rdropWhile_prefix isWhitespace (chars.dropWhile isWhitespace)
    have first : ((chars.dropWhile isWhitespace).rdropWhile isWhitespace)[0]? =
        (chars.dropWhile isWhitespace)[0]? := by
      conv_rhs => rw [← whole]
      rw [List.getElem?_append_left nonempty]
    rw [List.getElem?_eq_getElem nonempty,← List.head?_eq_getElem?] at first
    have head := List.head?_dropWhile_not isWhitespace chars
    rw [← first] at head
    simpa using head
  simp only [trim,String.toList_ofList,stable,List.rdropWhile_idempotent]

theorem allowedHosts_sound (hosts : List String) : HostsSound (allowedHosts hosts) := by
  unfold allowedHosts
  simp only
  split
  · trivial
  next nonempty =>
    split
    · trivial
    next several =>
      refine ⟨by simpa using nonempty,several,?_⟩
      intro host member
      obtain ⟨member,filled⟩ := List.mem_filter.mp member
      obtain ⟨text,_,rfl⟩ := List.mem_map.mp member
      exact ⟨by simpa using filled,trim_trim text⟩

theorem envKeys_sound (values : List String) (keys made : BTreeMap String Unit)
    (before : ∀ entry ∈ keys.entries, startsWith entry.1 envPrefix = true) (taken : envKeys values keys = .ok made) :
    ∀ entry ∈ made.entries, startsWith entry.1 envPrefix = true := by
  induction values generalizing keys with
  | nil =>
    cases taken
    exact before
  | cons value values ih =>
    unfold envKeys at taken
    split at taken
    · exact ih keys before taken
    split at taken
    · cases taken
    next starts =>
      refine ih _ ?_ taken
      intro entry member
      rcases BTreeMap.mem_insert_entries keys (trim value) () entry member with rfl | member
      · simpa using starts
      · exact before entry member

theorem newComponent_sound (source : ComponentSource) : ComponentSound (newComponent source) :=
  ⟨by simp [newComponent,BTreeMap.ofIter],trivial⟩

theorem ComponentSound.withSource {component : Component} (sound : ComponentSound component)
    (source : ComponentSource) : ComponentSound {component with source := source} := ⟨sound.envKeys,sound.hosts⟩

theorem except_map_eq_ok {E A B : Type} (f : A → B) (result : Except E A) (image : B)
    (mapped : result.map f = .ok image) : ∃ value, result = .ok value ∧ f value = image := by
  cases result with
  | error failure => cases mapped
  | ok value => exact ⟨value,rfl,Except.ok.inj mapped⟩

theorem applyComponentCommand_sound (outside : Outside) (component changed : Component) (command : ComponentCommand)
    (sound : ComponentSound component) (applied : applyComponentCommand outside component command = .ok changed) :
    ComponentSound changed := by
  cases command with
  | setSourceUri uri => cases applied
  | setSourceDigest digest => cases applied
  | setSourceRegistry domain package version => cases applied
  | permissions httpHosts fileSystem =>
    cases applied
    refine ⟨sound.envKeys,?_⟩
    cases httpHosts with
    | none => exact sound.hosts
    | some hosts => exact allowedHosts_sound hosts
  | fuelLimit fuel =>
    cases applied
    exact ⟨sound.envKeys,sound.hosts⟩
  | timeLimit seconds =>
    cases applied
    exact ⟨sound.envKeys,sound.hosts⟩
  | config values configFile =>
    cases configFile with
    | some path =>
      obtain ⟨config,_,rfl⟩ := except_map_eq_ok _ _ _ applied
      exact ⟨sound.envKeys,sound.hosts⟩
    | none =>
      cases values with
      | some values =>
        obtain ⟨config,_,rfl⟩ := except_map_eq_ok _ _ _ applied
        exact ⟨sound.envKeys,sound.hosts⟩
      | none =>
        cases applied
        exact ⟨sound.envKeys,sound.hosts⟩
  | env values =>
    cases values with
    | none =>
      cases applied
      exact ⟨by simp [BTreeMap.ofIter],sound.hosts⟩
    | some values =>
      obtain ⟨keys,made,rfl⟩ := except_map_eq_ok _ _ _ applied
      exact ⟨envKeys_sound values _ keys (by simp [BTreeMap.ofIter]) made,sound.hosts⟩

def TargetSound : ComponentTarget → Prop
  | .direct component => ComponentSound component
  | .json (.component component) => ComponentSound component
  | .json (.builder _) => True

theorem getTargetComponent_sound (parsers : Parsers) (workflow : WorkflowBuilder) (context : ComponentContext)
    (target : ComponentTarget) (sound : WorkflowSound parsers workflow)
    (found : getTargetComponent workflow context = .ok target) : TargetSound target := by
  cases context with
  | workflow =>
    cases found
    cases set : workflow.component with
    | component component => exact sound.component component set
    | builder builder => trivial
  | aggregator =>
    unfold getTargetComponent at found
    split at found
    next => rename_i impossible; cases impossible
    next =>
      split at found
      next component set =>
        cases found
        exact sound.submit component (by rw [set]; rfl)
      next component kind set =>
        cases found
        cases component with
        | component component => exact sound.submit component (by rw [set]; rfl)
        | builder builder => trivial
      next => cases found

theorem putComponent_sound (parsers : Parsers) (workflow : WorkflowBuilder) (component : Component)
    (context : ComponentContext) (sound : WorkflowSound parsers workflow) (whole : ComponentSound component) :
    WorkflowSound parsers (putComponent workflow component context) := by
  cases context with
  | workflow =>
    refine ⟨sound.trigger,?_,sound.submit⟩
    intro other same
    cases same
    exact whole
  | aggregator =>
    unfold putComponent
    simp only
    split
    · refine ⟨sound.trigger,sound.component,?_⟩
      intro other same
      cases same
      exact whole
    · refine ⟨sound.trigger,sound.component,?_⟩
      intro other same
      cases same
      exact whole
    · exact sound

theorem setLookedUpSource_sound (source : ComponentSource) (target : ComponentTarget) (sound : TargetSound target) :
    ComponentSound (setLookedUpSource source target) := by
  cases target with
  | direct component => exact ComponentSound.withSource sound source
  | json component => exact newComponent_sound source

theorem executeSyncCommand_sound (outside : Outside) (target : ComponentTarget) (command : ComponentCommand)
    (component : Component) (sound : TargetSound target)
    (executed : executeSyncCommand outside target command = .ok component) : ComponentSound component := by
  unfold executeSyncCommand at executed
  split at executed
  · split at executed
    · cases executed
      exact ComponentSound.withSource sound _
    · cases executed
      exact ComponentSound.withSource sound _
    · cases executed
      exact newComponent_sound _
  · split at executed
    next component => exact applyComponentCommand_sound outside component _ command sound executed
    next component => exact applyComponentCommand_sound outside component _ command sound executed
    next => cases executed

/-- A change of a workflow that keeps it sound wherever it succeeds. -/
def KeepsSound (parsers : Parsers) (change : WorkflowBuilder → Except Failure WorkflowBuilder) : Prop :=
  ∀ workflow changed, WorkflowSound parsers workflow → change workflow = .ok changed → WorkflowSound parsers changed

theorem updateComponent_sound (parsers : Parsers) (outside : Outside) (context : ComponentContext)
    (command : ComponentCommand) (change : WorkflowBuilder → Except Failure WorkflowBuilder)
    (prepared : updateComponent outside context command = .ok change) : KeepsSound parsers change := by
  have changed : ∀ update : ComponentTarget → Except Failure Component,
      (∀ target component, TargetSound target → update target = .ok component → ComponentSound component) →
      KeepsSound parsers (fun workflow => do
        let target ← getTargetComponent workflow context
        let component ← update target
        return putComponent workflow component context) := by
    intro update keeps workflow changed sound done
    obtain ⟨target,found,done⟩ := (except_bind_ok _ _ _).mp done
    obtain ⟨component,updated,done⟩ := (except_bind_ok _ _ _).mp done
    cases done
    exact putComponent_sound parsers workflow component context sound
      (keeps target component (getTargetComponent_sound parsers workflow context target sound found) updated)
  -- a source that was looked up replaces the one before
  have lookedUp : ∀ (source : ComponentSource) (target : ComponentTarget) (component : Component), TargetSound target →
      (.ok (setLookedUpSource source target) : Except Failure Component) = .ok component → ComponentSound component := by
    intro source target component sound updated
    cases updated
    exact setLookedUpSource_sound source target sound
  unfold updateComponent at prepared
  simp only at prepared
  split at prepared
  · split at prepared
    · cases prepared
    · cases prepared
      exact changed _ (lookedUp _)
  · split at prepared
    · cases prepared
    · cases prepared
      exact changed _ (lookedUp _)
  · cases prepared
    refine changed _ ?_
    intro target component sound updated
    exact executeSyncCommand_sound outside target command component sound updated

theorem validateCronConfig_ordered (now : Timestamp) (startTime endTime : Option Timestamp)
    (valid : validateCronConfig now startTime endTime = .ok ()) :
    ∀ first, startTime = some first → ∀ last, endTime = some last → first.nanos ≤ last.nanos := by
  rintro first rfl last rfl
  simp only [validateCronConfig,Option.all_some] at valid
  split at valid
  · cases valid
  next ordered => simpa using ordered

theorem validateBlockIntervalConfig_eq_ok (startBlock endBlock : Option NonZeroU64) :
    validateBlockIntervalConfig startBlock endBlock = .ok () ↔
      ∀ first, startBlock = some first → ∀ last, endBlock = some last → first.1 ≤ last.1 := by
  unfold validateBlockIntervalConfig
  cases startBlock <;> cases endBlock <;> simp

theorem setTrigger_sound (parsers : Parsers) (outside : Outside) (command : TriggerCommand) (trigger : Trigger)
    (set : setTrigger parsers outside command = .ok (.ok trigger)) : TriggerSound parsers trigger := by
  cases command with
  | setCosmos address chain eventType =>
    obtain ⟨parsed,_,same⟩ := except_map_eq_ok _ _ _ set
    cases same
    trivial
  | setEvm address chain text =>
    obtain ⟨hash,_,same⟩ := except_map_eq_ok _ _ _ set
    cases same
    trivial
  | setStellar contractId chain topics =>
    obtain ⟨segments,_,set⟩ := (except_bind_ok _ _ _).mp set
    split at set
    · cases set
    next few =>
      split at set
      · cases set
      next last =>
        cases set
        exact ⟨by omega,last⟩
  | setBlockInterval chain nBlocks startBlock endBlock =>
    obtain ⟨_,valid,same⟩ := except_map_eq_ok _ _ _ (Except.ok.inj set)
    cases same
    exact (validateBlockIntervalConfig_eq_ok startBlock endBlock).mp ((except_mapError_ok _ _ _).mp valid)
  | setCron schedule startTime endTime =>
    simp only [setTrigger] at set
    split at set
    · cases set
    next parsed =>
      obtain ⟨_,valid,same⟩ := except_map_eq_ok _ _ _ (Except.ok.inj set)
      cases same
      exact ⟨parsed,validateCronConfig_ordered outside.now startTime endTime ((except_mapError_ok _ _ _).mp valid)⟩
  | setAtProtocol collection repoDid action =>
    have set := Except.ok.inj set
    split at set
    · cases set
    next dotted =>
      simp only [not_not] at dotted
      split at set
      · cases set
        exact ⟨dotted,by simp⟩
      next did =>
        split at set
        · cases set
        next starts =>
          cases set
          refine ⟨dotted,?_⟩
          rintro other same
          cases same
          simpa using starts

theorem ServiceSound.insert {parsers : Parsers} {service : ServiceBuilder} (sound : ServiceSound parsers service)
    (id : WorkflowId) (workflow : WorkflowBuilder) (whole : WorkflowSound parsers workflow) :
    ServiceSound parsers {service with workflows := service.workflows.insert id workflow} := by
  intro other found got
  simp only [BTreeMap.get_insert] at got
  split at got
  · cases got
    exact whole
  · exact sound other found got

theorem defaultWorkflow_sound (parsers : Parsers) : WorkflowSound parsers .default := by
  refine ⟨?_,?_,?_⟩
  · intro trigger set
    cases set
  · intro component set
    cases set
  · intro component set
    cases set

theorem onWorkflow_sound (parsers : Parsers) (id : WorkflowId)
    (change : WorkflowBuilder → Except Failure WorkflowBuilder) (keeps : KeepsSound parsers change)
    (service updated : ServiceBuilder) (sound : ServiceSound parsers service)
    (changed : onWorkflow id change service = .ok updated) : ServiceSound parsers updated := by
  unfold onWorkflow at changed
  split at changed
  · cases changed
  next workflow present =>
    obtain ⟨made,done,rfl⟩ := except_map_eq_ok _ _ _ changed
    exact sound.insert id made (keeps workflow made (sound id workflow present) done)

theorem workflowCommand_sound (parsers : Parsers) (outside : Outside) (command : WorkflowCommand)
    (modifier : ServiceBuilder → Except Failure ServiceBuilder)
    (prepared : workflowCommand parsers outside command = .ok modifier) (service updated : ServiceBuilder)
    (sound : ServiceSound parsers service) (changed : modifier service = .ok updated) :
    ServiceSound parsers updated := by
  cases command with
  | add id =>
    cases prepared
    obtain ⟨made,_,rfl⟩ := except_map_eq_ok _ _ _ changed
    exact sound.insert made .default (defaultWorkflow_sound parsers)
  | delete id =>
    cases prepared
    simp only at changed
    split at changed
    · cases changed
    · cases changed
      intro other found got
      simp only [BTreeMap.get_remove] at got
      split at got
      · cases got
      · exact sound other found got
  | component id command =>
    obtain ⟨change,made,rfl⟩ := except_map_eq_ok _ _ _ prepared
    exact onWorkflow_sound parsers id change (updateComponent_sound parsers outside .workflow command change made)
      service updated sound changed
  | trigger id command =>
    obtain ⟨trigger,made,rfl⟩ := except_map_eq_ok _ _ _ prepared
    refine onWorkflow_sound parsers id _ ?_ service updated sound changed
    intro workflow changed sound done
    obtain ⟨trigger,rfl,rfl⟩ := except_map_eq_ok _ _ _ done
    refine ⟨?_,sound.component,sound.submit⟩
    intro other same
    cases same
    exact setTrigger_sound parsers outside command trigger made
  | submit id command =>
    obtain ⟨change,made,rfl⟩ := except_map_eq_ok _ _ _ prepared
    refine onWorkflow_sound parsers id change ?_ service updated sound changed
    cases command with
    | setAggregator =>
      cases made
      intro workflow changed sound done
      cases done
      exact ⟨sound.trigger,sound.component,by simp [aggregatorComponent]⟩
    | setNone =>
      cases made
      intro workflow changed sound done
      cases done
      exact ⟨sound.trigger,sound.component,by simp [aggregatorComponent]⟩
    | component command => exact updateComponent_sound parsers outside .aggregator command change made

theorem managerCommand_workflows (outside : Outside) (command : ManagerCommand)
    (modifier : ServiceBuilder → Except Failure ServiceBuilder) (prepared : managerCommand outside command = .ok modifier)
    (service updated : ServiceBuilder) (changed : modifier service = .ok updated) :
    updated.name = service.name ∧ updated.workflows = service.workflows ∧ updated.status = service.status := by
  cases command with
  | setEvm chain address =>
    cases prepared
    cases changed
    exact ⟨rfl,rfl,rfl⟩
  | setStellar chain address =>
    simp only [managerCommand] at prepared
    split at prepared
    · cases prepared
    · cases prepared
      cases changed
      exact ⟨rfl,rfl,rfl⟩

theorem aggregatorComponent_stored (submit : SubmitBuilder) :
    aggregatorComponent submit.stored = aggregatorComponent submit := by
  unfold SubmitBuilder.stored
  split <;> rfl

theorem ServiceSound.stored {parsers : Parsers} {service : ServiceBuilder} (sound : ServiceSound parsers service) :
    ServiceSound parsers service.stored := by
  intro id workflow got
  simp only [ServiceBuilder.stored,BTreeMap.get_mapValues,Option.map_eq_some_iff] at got
  obtain ⟨written,got,rfl⟩ := got
  have whole := sound id written got
  refine ⟨whole.trigger,whole.component,?_⟩
  intro component set
  exact whole.submit component (by rw [← aggregatorComponent_stored]; exact set)

end Warpdrive.Cli
