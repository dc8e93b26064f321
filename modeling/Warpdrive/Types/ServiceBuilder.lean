import Warpdrive.Types.ServiceFormat

/-! The service definition that the CLI builds up (`types/src/service_builder.rs`) and its JSON. Several of its
enumerations are untagged: what is written for an aggregator whose component is set reads back as a finished
`Submit`, without the signature kind. -/
namespace Warpdrive.Types

open Warpdrive.Foundation

inductive Builder
  | unset
  deriving DecidableEq

inductive ComponentBuilder
  | component (component : Component)
  | builder (builder : Builder)
  deriving DecidableEq

inductive TriggerBuilder
  | trigger (trigger : Trigger)
  | builder (builder : Builder)
  deriving DecidableEq

inductive AggregatorBuilder
  | aggregator (component : ComponentBuilder) (signatureKind : SignatureKind)
  deriving DecidableEq

inductive SubmitBuilder
  | submit (submit : Submit)
  | builder (builder : Builder)
  | aggregatorBuilder (builder : AggregatorBuilder)
  deriving DecidableEq

inductive ServiceManagerBuilder
  | manager (manager : ServiceManager)
  | builder (builder : Builder)
  deriving DecidableEq

structure WorkflowBuilder where
  trigger : TriggerBuilder
  component : ComponentBuilder
  submit : SubmitBuilder
  deriving DecidableEq

structure ServiceBuilder where
  name : String
  workflows : BTreeMap WorkflowId WorkflowBuilder
  status : ServiceStatus
  manager : ServiceManagerBuilder
  deriving DecidableEq

/-- Every `Default` of the builders: nothing is set. -/
def WorkflowBuilder.default : WorkflowBuilder := ⟨.builder .unset,.builder .unset,.builder .unset⟩

def Builder.codec : Codec Builder where
  write
    | .unset => .string "unset"
  read := Json.unit .unset "unset"
  read_write _ := rfl

def ComponentBuilder.codec : Codec ComponentBuilder where
  write
    | .component value => Component.codec.write value
    | .builder value => Builder.codec.write value
  read := Json.firstOf [fun json => (Component.codec.read json).map .component,
    fun json => (Builder.codec.read json).map .builder]
  read_write value := by
    cases value with
    | component component => simp [Codec.read_write]
    | builder builder => simp [Builder.codec,Formats.component_unset,Json.unit]

section formats

variable (formats : Formats)

def TriggerBuilder.codec : Codec TriggerBuilder where
  write
    | .trigger value => formats.trigger.write value
    | .builder value => Builder.codec.write value
  read := Json.firstOf [fun json => (formats.trigger.read json).map .trigger,
    fun json => (Builder.codec.read json).map .builder]
  read_write value := by
    cases value with
    | trigger trigger => simp [Codec.read_write]
    | builder builder => simp [Builder.codec,Formats.trigger_unset,Json.unit]

def ServiceManagerBuilder.codec : Codec ServiceManagerBuilder where
  write
    | .manager value => formats.manager.write value
    | .builder value => Builder.codec.write value
  read := Json.firstOf [fun json => (formats.manager.read json).map .manager,
    fun json => (Builder.codec.read json).map .builder]
  read_write value := by
    cases value with
    | manager manager => simp [Codec.read_write]
    | builder builder => simp [Builder.codec,Formats.manager_unset,Json.unit]

end formats

def AggregatorBuilder.codec : Codec AggregatorBuilder where
  write
    | .aggregator component signatureKind => .object [("aggregator",.object [
        ("component",ComponentBuilder.codec.write component),
        ("signature_kind",SignatureKind.codec.write signatureKind)])]
  read := Json.variant (fun body => do
    let component ← body.field ComponentBuilder.codec.read "component"
    let signatureKind ← body.field SignatureKind.codec.read "signature_kind"
    return .aggregator component signatureKind) "aggregator"
  read_write value := by
    simp [Json.variant,Json.field,Json.fields,Codec.read_write]

def SubmitBuilder.write : SubmitBuilder → Json
  | .submit value => Submit.codec.write value
  | .builder value => Builder.codec.write value
  | .aggregatorBuilder value => AggregatorBuilder.codec.write value

def SubmitBuilder.read : Json → Option SubmitBuilder :=
  Json.firstOf [fun json => (Submit.codec.read json).map .submit,fun json => (Builder.codec.read json).map .builder,
    fun json => (AggregatorBuilder.codec.read json).map .aggregatorBuilder]

/-- What is read back of what was written. -/
def SubmitBuilder.stored : SubmitBuilder → SubmitBuilder
  | .aggregatorBuilder (.aggregator (.component component) _) => .submit (.aggregator component)
  | other => other

theorem SubmitBuilder.read_finished (submit : SubmitBuilder) (finished : Submit) (set : submit.stored = .submit finished) :
    Submit.codec.read submit.write = some finished := by
  cases submit with
  | submit submit =>
    cases set
    simp [write,Codec.read_write]
  | builder builder => cases set
  | aggregatorBuilder builder =>
    obtain ⟨component,signatureKind⟩ := builder
    cases component with
    | component component =>
      cases set
      simp [write,AggregatorBuilder.codec,ComponentBuilder.codec,Submit.codec,Json.unit,Json.variant,Json.field,Json.fields,
        Codec.read_write]
    | builder builder => cases set

/-- The first alternative takes an aggregator whose component is set, whatever its signature kind. -/
theorem SubmitBuilder.read_write (submit : SubmitBuilder) : read submit.write = some submit.stored := by
  cases submit with
  | submit submit => simp [read,write,stored,Codec.read_write]
  | builder builder => simp [read,write,stored,Builder.codec,Formats.submit_unset,Json.unit]
  | aggregatorBuilder builder =>
    obtain ⟨component,signatureKind⟩ := builder
    cases component with
    | component component =>
      have finished := read_finished (.aggregatorBuilder (.aggregator (.component component) signatureKind))
        (.aggregator component) rfl
      simp [read,stored,finished]
    | builder builder =>
      have unfinished : Submit.codec.read (AggregatorBuilder.codec.write (.aggregator (.builder builder) signatureKind)) =
          none := by
        cases builder
        simp [AggregatorBuilder.codec,ComponentBuilder.codec,Builder.codec,Submit.codec,Json.unit,Json.variant,Json.field,
          Json.fields,Formats.component_unset]
      have other : Builder.codec.read (AggregatorBuilder.codec.write (.aggregator (.builder builder) signatureKind)) =
          none := rfl
      simp [read,write,stored,unfinished,other,Codec.read_write]

/-- What reads as an aggregator to be finished was refused as a finished one. -/
theorem SubmitBuilder.read_stored (json : Json) (submit : SubmitBuilder) (taken : read json = some submit) :
    submit.stored = submit := by
  simp only [read,Json.firstOf_cons,Json.firstOf_nil,Option.or_none] at taken
  cases first : Submit.codec.read json with
  | some finished =>
    simp only [first,Option.map_some,Option.some_or,Option.some.injEq] at taken
    subst taken
    rfl
  | none =>
    cases second : Builder.codec.read json with
    | some builder =>
      simp only [first,second,Option.map_none,Option.map_some,Option.none_or,Option.some_or,Option.some.injEq] at taken
      subst taken
      rfl
    | none =>
      simp only [first,second,Option.map_none,Option.none_or,Option.map_eq_some_iff] at taken
      obtain ⟨builder,third,rfl⟩ := taken
      obtain ⟨component,signatureKind⟩ := builder
      cases component with
      | builder builder => rfl
      | component component =>
        obtain ⟨body,rfl,parts⟩ := (Json.variant_eq_some _ _ _ _).mp third
        simp only [Option.bind_eq_bind,Option.bind_eq_some_iff,Option.pure_def,Option.some.injEq] at parts
        obtain ⟨found,taken,kind,_,same⟩ := parts
        cases same
        obtain ⟨value,only,taken⟩ := (Json.field_eq_some _ _ _ _).mp taken
        have whole : Component.codec.read value = some component := by
          simp only [ComponentBuilder.codec,Json.firstOf_cons,Json.firstOf_nil,Option.or_none,
            Option.or_eq_some_iff,Option.map_eq_some_iff] at taken
          rcases taken with ⟨read,plain,same⟩ | ⟨_,read,_,same⟩
          · cases same
            exact plain
          · cases same
        have finished : Submit.codec.read (.object [("aggregator",body)]) = some (.aggregator component) := by
          have field := (Json.field_eq_some _ _ _ _).mpr ⟨value,only,whole⟩
          simp [Submit.codec,Json.unit,Json.variant,field]
        rw [first] at finished
        cases finished

section formats

variable (formats : Formats)

def WorkflowBuilder.write (self : WorkflowBuilder) : Json :=
  .object [("trigger",(TriggerBuilder.codec formats).write self.trigger),
    ("component",ComponentBuilder.codec.write self.component),("submit",self.submit.write)]

def WorkflowBuilder.read (json : Json) : Option WorkflowBuilder := do
  let trigger ← json.field (TriggerBuilder.codec formats).read "trigger"
  let component ← json.field ComponentBuilder.codec.read "component"
  let submit ← json.field SubmitBuilder.read "submit"
  return ⟨trigger,component,submit⟩

def ServiceBuilder.write (self : ServiceBuilder) : Json :=
  .object [("name",Codec.text.write self.name),
    ("workflows",writeMap WorkflowId.text (WorkflowBuilder.write formats) self.workflows),
    ("status",ServiceStatus.codec.write self.status),("manager",(ServiceManagerBuilder.codec formats).write self.manager)]

def ServiceBuilder.read (json : Json) : Option ServiceBuilder := do
  let name ← json.field Codec.text.read "name"
  let workflows ← json.field (readMap WorkflowId.readKey (WorkflowBuilder.read formats)) "workflows"
  let status ← json.field ServiceStatus.codec.read "status"
  let manager ← json.field (ServiceManagerBuilder.codec formats).read "manager"
  return ⟨name,workflows,status,manager⟩

def WorkflowBuilder.stored (self : WorkflowBuilder) : WorkflowBuilder := {self with submit := self.submit.stored}

def ServiceBuilder.stored (self : ServiceBuilder) : ServiceBuilder :=
  {self with workflows := self.workflows.mapValues WorkflowBuilder.stored}

theorem WorkflowBuilder.read_write (workflow : WorkflowBuilder) :
    WorkflowBuilder.read formats (workflow.write formats) = some workflow.stored := by
  simp [WorkflowBuilder.read,WorkflowBuilder.write,WorkflowBuilder.stored,Json.field,Json.fields,Codec.read_write,
    SubmitBuilder.read_write]

theorem ServiceBuilder.read_write (service : ServiceBuilder) :
    ServiceBuilder.read formats (service.write formats) = some service.stored := by
  have workflows := readMap_writeMap WorkflowId.text WorkflowId.readKey (WorkflowBuilder.write formats)
    (WorkflowBuilder.read formats) WorkflowBuilder.stored service.workflows WorkflowId.readKey_text
    (fun entry _ => WorkflowBuilder.read_write formats entry.2)
  simp [ServiceBuilder.read,ServiceBuilder.write,ServiceBuilder.stored,Json.field,Json.fields,workflows,Codec.read_write]

theorem WorkflowBuilder.read_stored (json : Json) (workflow : WorkflowBuilder)
    (taken : WorkflowBuilder.read formats json = some workflow) : workflow.stored = workflow := by
  simp only [WorkflowBuilder.read,Option.bind_eq_bind,Option.bind_eq_some_iff,Option.pure_def,
    Option.some.injEq] at taken
  obtain ⟨trigger,_,component,_,submit,read,rfl⟩ := taken
  obtain ⟨value,_,read⟩ := (Json.field_eq_some _ _ _ _).mp read
  simp only [WorkflowBuilder.stored,SubmitBuilder.read_stored value submit read]

theorem ServiceBuilder.read_stored (json : Json) (service : ServiceBuilder)
    (taken : ServiceBuilder.read formats json = some service) : service.stored = service := by
  simp only [ServiceBuilder.read,Option.bind_eq_bind,Option.bind_eq_some_iff,Option.pure_def,
    Option.some.injEq] at taken
  obtain ⟨name,_,workflows,read,status,_,manager,_,rfl⟩ := taken
  obtain ⟨value,_,read⟩ := (Json.field_eq_some _ _ _ _).mp read
  have each := readMap_values WorkflowId.readKey (WorkflowBuilder.read formats) value workflows read
  have same : workflows.entries.map (fun entry => (entry.1,entry.2.stored)) = workflows.entries := by
    conv_rhs => rw [← List.map_id workflows.entries]
    refine List.map_congr_left ?_
    intro entry member
    obtain ⟨json,read⟩ := each entry member
    rw [WorkflowBuilder.read_stored formats json entry.2 read]
    rfl
  simp only [ServiceBuilder.stored,BTreeMap.mapValues,same]

end formats
end Warpdrive.Types
