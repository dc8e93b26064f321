import Warpdrive.Cli.ServiceSoundness

/-! Runs of commands on a service file that was not there before: what `service validate` can still find in it, and
how far it is from a definition that a node reads. The builder has no signature kind, so a node reads no file of
the CLI; with the kind added it reads each one in which nothing is found. -/
namespace Warpdrive.Cli

open Warpdrive.Foundation Warpdrive.Types
open Warpdrive.Engine (startsWith)

/-- The faults that a file of the commands may show. -/
def Fault.pending : Fault → Bool
  | .foreignEnvKey _ _ => false
  | .eventHashLength _ _ => false
  | .tooManySegments _ _ => false
  | .invalidSchedule _ _ => false
  | .invalidCron _ error => error = .endInPast
  | .invalidBlockInterval _ _ => false
  | .aggregatorForeignEnvKey _ _ => false
  | _ => true

theorem componentFaults_pending (zeroFuel : Fault) (foreignEnvKey : String → Fault) (component : Component)
    (zero : zeroFuel.pending = true) (sound : ComponentSound component) :
    ∀ fault ∈ componentFaults zeroFuel foreignEnvKey component, fault.pending = true := by
  intro fault member
  rcases List.mem_append.mp member with limit | keys
  · split at limit
    · rw [List.mem_singleton.mp limit]
      exact zero
    · cases limit
  · obtain ⟨key,listed,rfl⟩ := List.mem_map.mp keys
    obtain ⟨listed,foreign⟩ := List.mem_filter.mp listed
    obtain ⟨entry,held,rfl⟩ := List.mem_map.mp listed
    rw [sound.envKeys entry held] at foreign
    cases foreign

theorem triggerFaults_pending (parsers : Parsers) (now : Timestamp) (id : WorkflowId) (trigger : TriggerBuilder)
    (sound : ∀ set, trigger = .trigger set → TriggerSound parsers set) :
    ∀ fault ∈ triggerFaults parsers now id trigger, fault.pending = true := by
  intro fault member
  cases trigger with
  | builder builder =>
    rw [List.mem_singleton.mp member]
    rfl
  | trigger trigger =>
    have whole := sound trigger rfl
    cases trigger with
    | cosmosContractEvent address chain eventType =>
      simp only [triggerFaults] at member
      split at member
      · rw [List.mem_singleton.mp member]
        rfl
      · cases member
    | evmContractEvent address chain eventHash =>
      simp only [triggerFaults,eventHash.size,ne_eq,not_true_eq_false,if_false,List.append_nil,
        Option.mem_toList,Option.map_eq_some_iff] at member
      obtain ⟨error,_,rfl⟩ := member
      rfl
    | stellarContractEvent chain contractId topicSegments =>
      have few : ¬ topicSegments.length > 4 := Nat.not_lt.mpr whole.1
      simp only [triggerFaults,few,if_false,List.append_nil] at member
      rcases List.mem_append.mp member with contract | segments
      · split at contract
        · rw [List.mem_singleton.mp contract]
          rfl
        · cases contract
      · split at segments
        · rw [List.mem_singleton.mp segments]
          rfl
        · cases segments
    | blockInterval chain nBlocks startBlock endBlock =>
      rw [triggerFaults,(validateBlockIntervalConfig_eq_ok startBlock endBlock).mpr whole] at member
      cases member
    | cron schedule startTime endTime =>
      simp only [triggerFaults,whole.1,Option.map_none,Option.toList_none,List.nil_append] at member
      split at member
      next error invalid =>
        rw [List.mem_singleton.mp member]
        have ordered : startTime.all (fun first => endTime.all (fun last => first.nanos ≤ last.nanos)) = true := by
          cases startTime with
          | none => rfl
          | some first =>
            cases endTime with
            | none => rfl
            | some last => simpa using whole.2 first rfl last rfl
        simp only [validateCronConfig,ordered,Bool.not_true,Bool.false_eq_true,if_false] at invalid
        split at invalid
        · cases invalid
          rfl
        · cases invalid
      next => cases member
    | atProtoEvent collection repoDid action => cases member
    | manual => cases member

theorem submitFaults_pending (id : WorkflowId) (submit : SubmitBuilder)
    (sound : ∀ component, aggregatorComponent submit = some component → ComponentSound component) :
    ∀ fault ∈ submitFaults id submit, fault.pending = true := by
  intro fault member
  unfold submitFaults at member
  split at member
  · rw [List.mem_singleton.mp member]
    rfl
  · rw [List.mem_singleton.mp member]
    rfl
  · cases member
  · cases member
  next component => exact componentFaults_pending _ _ component rfl (sound component rfl) fault member

theorem validate_pending (parsers : Parsers) (now : Timestamp) (service : ServiceBuilder)
    (sound : ServiceSound parsers service) : ∀ fault ∈ validate parsers now service, fault.pending = true := by
  intro fault member
  rcases List.mem_append.mp member with parts | manager
  · rcases List.mem_append.mp parts with name | workflows
    · split at name
      · rw [List.mem_singleton.mp name]
        rfl
      · cases name
    · obtain ⟨entry,held,member⟩ := List.mem_flatMap.mp workflows
      have whole := sound entry.1 entry.2 ((BTreeMap.get_iff service.workflows entry.1 entry.2).mpr held)
      rcases List.mem_append.mp member with parts | submit
      · rcases List.mem_append.mp parts with component | trigger
        · cases set : entry.2.component with
          | builder builder =>
            rw [set] at component
            rw [List.mem_singleton.mp component]
            rfl
          | component made =>
            rw [set] at component
            exact componentFaults_pending _ _ made rfl (whole.component made set) fault component
        · exact triggerFaults_pending parsers now entry.1 entry.2.trigger whole.trigger fault trigger
      · exact submitFaults_pending entry.1 entry.2.submit whole.submit fault submit
  · unfold managerFaults at manager
    split at manager
    · rw [List.mem_singleton.mp manager]
      rfl
    · cases manager

/-- The builder of a definition, in which every part is set. -/
def workflowBuilder (workflow : Workflow) : WorkflowBuilder :=
  ⟨.trigger workflow.trigger,.component workflow.component,.submit workflow.submit⟩

def serviceBuilder (service : Service) : ServiceBuilder :=
  ⟨service.name,service.workflows.mapValues workflowBuilder,service.status,.manager service.manager⟩

/-- The workflow that a builder reads back as, where every part is set. -/
def finish (workflow : WorkflowBuilder) : Option Workflow :=
  match workflow.trigger,workflow.component,workflow.submit.stored with
  | .trigger trigger,.component component,.submit submit => some ⟨trigger,component,submit⟩
  | _,_,_ => none

theorem finish_eq_some (workflow : WorkflowBuilder) (made : Workflow) (finished : finish workflow = some made) :
    workflow.trigger = .trigger made.trigger ∧ workflow.component = .component made.component ∧
      workflow.submit.stored = .submit made.submit := by
  unfold finish at finished
  split at finished
  next trigger component submit first second third =>
    cases finished
    exact ⟨first,second,third⟩
  next => cases finished

theorem finish_of_faults (parsers : Parsers) (now : Timestamp) (id : WorkflowId) (workflow : WorkflowBuilder)
    (clean : workflowFaults parsers now id workflow.stored = []) : ∃ made, finish workflow = some made := by
  obtain ⟨trigger,component,submit⟩ := workflow
  simp only [workflowFaults,WorkflowBuilder.stored,List.append_eq_nil_iff] at clean
  obtain ⟨⟨componentSet,triggerSet⟩,submitSet⟩ := clean
  cases component with
  | builder builder => cases componentSet
  | component component =>
    cases trigger with
    | builder builder => cases triggerSet
    | trigger trigger =>
      cases submit with
      | submit submit => exact ⟨_,rfl⟩
      | builder builder => cases submitSet
      | aggregatorBuilder builder =>
        obtain ⟨component,signatureKind⟩ := builder
        cases component with
        | component component => exact ⟨_,rfl⟩
        | builder builder => cases submitSet

section file

variable (formats : Formats) (parsers : Parsers)

/-- The JSON in the file is a sound service as the commands write it. -/
def Written (file : Option Contents) : Prop :=
  ∀ json, file = some (.json json) →
    ∃ service, json = ServiceBuilder.write formats service ∧ ServiceSound parsers service

theorem writeServiceFile_written (outside : Outside) (file : Option Contents) (service : ServiceBuilder)
    (sound : ServiceSound parsers service) (written : Written formats parsers file) :
    Written formats parsers (writeServiceFile formats outside file service).1 := by
  unfold writeServiceFile
  split
  · intro json same
    cases same
    exact ⟨service,rfl,sound⟩
  · exact written
  · intro json same
    cases same

theorem editFile_written (outside : Outside) (file : Option Contents)
    (prepared : Except Failure (ServiceBuilder → Except Failure ServiceBuilder))
    (keeps : ∀ modifier, prepared = .ok modifier → ∀ service updated, ServiceSound parsers service →
      modifier service = .ok updated → ServiceSound parsers updated)
    (written : Written formats parsers file) : Written formats parsers (editFile formats outside file prepared).1 := by
  rcases editFile_cases formats outside file prepared with
    ⟨failure,failed⟩ | ⟨json,service,modifier,updated,held,read,made,changed,done⟩
  · rw [failed]
    exact written
  · rw [done]
    obtain ⟨before,rfl,sound⟩ := written json held
    rw [ServiceBuilder.read_write] at read
    cases read
    exact writeServiceFile_written formats parsers outside file updated
      (keeps modifier made before.stored updated sound.stored changed) written

theorem step_written (file : Option Contents) (act : ServiceCommand × Outside) (written : Written formats parsers file) :
    Written formats parsers (step formats parsers file act).1 := by
  obtain ⟨command,outside⟩ := act
  cases command with
  | init name =>
    refine writeServiceFile_written formats parsers outside file (initService name) ?_ written
    simp [ServiceSound,initService,BTreeMap.ofIter]
  | workflow command =>
    refine editFile_written formats parsers outside file _ ?_ written
    intro modifier prepared service updated sound changed
    exact workflowCommand_sound parsers outside command modifier prepared service updated sound changed
  | manager command =>
    refine editFile_written formats parsers outside file _ ?_ written
    intro modifier prepared service updated sound changed
    have same := (managerCommand_workflows outside command modifier prepared service updated changed).2.1
    intro id workflow got
    exact sound id workflow (by rw [← same]; exact got)
  | updateStatus status =>
    refine editFile_written formats parsers outside file _ ?_ written
    intro modifier prepared service updated sound changed
    cases prepared
    cases changed
    exact sound

theorem run_written (acts : List (ServiceCommand × Outside)) (file : Option Contents)
    (written : Written formats parsers file) : Written formats parsers (run formats parsers file acts) := by
  induction acts generalizing file with
  | nil => exact written
  | cons act acts ih => exact ih _ (step_written formats parsers file act written)

theorem run_append (file : Option Contents) (first second : List (ServiceCommand × Outside)) :
    run formats parsers file (first ++ second) = run formats parsers (run formats parsers file first) second :=
  List.foldl_append

/-- A command failed in the middle of its write, and no `init` after it has opened the file. -/
def CutShort (acts : List (ServiceCommand × Outside)) (left : Garbled) : Prop :=
  ∃ before act after, acts = before ++ act::after ∧ act.2.writing = .cut left ∧
    step formats parsers (run formats parsers none before) act = (some (.garbled left),.error .io) ∧
    ∀ later ∈ after, ∀ name, later.1 = .init name → later.2.writing = .unopened

theorem writeServiceFile_garbled (outside : Outside) (file : Option Contents) (service : ServiceBuilder)
    (left : Garbled) (garbled : (writeServiceFile formats outside file service).1 = some (.garbled left)) :
    outside.writing = .cut left ∧
        writeServiceFile formats outside file service = (some (.garbled left),.error .io) ∨
      file = some (.garbled left) ∧ outside.writing = .unopened := by
  unfold writeServiceFile at garbled ⊢
  cases ended : outside.writing with
  | done =>
    rw [ended] at garbled
    cases garbled
  | unopened =>
    rw [ended] at garbled
    exact .inr ⟨garbled,rfl⟩
  | cut cut =>
    rw [ended] at garbled
    cases garbled
    exact .inl ⟨rfl,rfl⟩

theorem editFile_garbled (outside : Outside) (file : Option Contents)
    (prepared : Except Failure (ServiceBuilder → Except Failure ServiceBuilder)) (left : Garbled)
    (garbled : (editFile formats outside file prepared).1 = some (.garbled left)) :
    outside.writing = .cut left ∧ editFile formats outside file prepared = (some (.garbled left),.error .io) ∨
      file = some (.garbled left) := by
  rcases editFile_cases formats outside file prepared with
    ⟨failure,failed⟩ | ⟨json,service,modifier,updated,held,read,made,changed,done⟩
  · rw [failed] at garbled
    exact .inr garbled
  · rw [done] at garbled ⊢
    rcases writeServiceFile_garbled formats outside file updated left garbled with cut | ⟨same,_⟩
    · exact .inl cut
    · exact .inr same

/-- A file that is garbled after a command was cut short by it, or was garbled before. -/
theorem step_garbled (file : Option Contents) (act : ServiceCommand × Outside) (left : Garbled)
    (garbled : (step formats parsers file act).1 = some (.garbled left)) :
    act.2.writing = .cut left ∧ step formats parsers file act = (some (.garbled left),.error .io) ∨
      file = some (.garbled left) ∧ ∀ name, act.1 = .init name → act.2.writing = .unopened := by
  obtain ⟨command,outside⟩ := act
  cases command with
  | init name =>
    rcases writeServiceFile_garbled formats outside file (initService name) left garbled with cut | ⟨same,unopened⟩
    · exact .inl cut
    · exact .inr ⟨same,fun _ _ => unopened⟩
  | workflow command => exact (editFile_garbled formats outside file _ left garbled).imp id (fun same => ⟨same,by simp⟩)
  | manager command => exact (editFile_garbled formats outside file _ left garbled).imp id (fun same => ⟨same,by simp⟩)
  | updateStatus status =>
    exact (editFile_garbled formats outside file _ left garbled).imp id (fun same => ⟨same,by simp⟩)

theorem run_garbled (acts : List (ServiceCommand × Outside)) (left : Garbled)
    (garbled : run formats parsers none acts = some (.garbled left)) : CutShort formats parsers acts left := by
  induction acts using List.reverseRecOn with
  | nil => cases garbled
  | append_singleton acts act ih =>
    rw [run_append] at garbled
    rcases step_garbled formats parsers _ act left garbled with ⟨writing,cut⟩ | ⟨same,kept⟩
    · exact ⟨acts,act,[],rfl,writing,cut,by simp⟩
    · obtain ⟨before,cutting,after,rfl,writing,cut,unopened⟩ := ih same
      refine ⟨before,cutting,after ++ [act],by simp,writing,cut,?_⟩
      intro later member
      rcases List.mem_append.mp member with earlier | last
      · exact unopened later earlier
      · rw [List.mem_singleton.mp last]
        exact kept

/-- A file that commands have left can be read, and shows no fault that they refuse, unless it was cut short in a
write that failed. -/
theorem run_leaves_pending (acts : List (ServiceCommand × Outside)) (file : Contents)
    (left : run formats parsers none acts = some file) :
    (∀ json, file = .json json → ∃ service, ServiceBuilder.read formats json = some service ∧
      ServiceSound parsers service ∧ ∀ now, ∀ fault ∈ validate parsers now service, fault.pending = true) ∧
      ∀ garbled, file = .garbled garbled → CutShort formats parsers acts garbled := by
  constructor
  · rintro json rfl
    obtain ⟨service,rfl,sound⟩ := run_written formats parsers acts none (by simp [Written]) json left
    exact ⟨service.stored,ServiceBuilder.read_write formats service,sound.stored,
      fun now => validate_pending parsers now service.stored sound.stored⟩
  · rintro garbled rfl
    exact run_garbled formats parsers acts garbled left

theorem readWorkflow_finished (workflow : WorkflowBuilder) (made : Workflow) (finished : finish workflow = some made) :
    formats.workflow.read (workflow.write formats) = some made := by
  obtain ⟨trigger,component,submit⟩ := finish_eq_some workflow made finished
  have submitted := SubmitBuilder.read_finished workflow.submit made.submit submit
  simp [Formats.workflow,WorkflowBuilder.write,Json.field,Json.fields,trigger,component,submitted,TriggerBuilder.codec,
    ComponentBuilder.codec,Codec.read_write]

/-- A stand-in for workflows that a map does not have. -/
def blankWorkflow : Workflow := ⟨.manual,newComponent (.digest ⟨.filled 32 0⟩),.none⟩

theorem readService_unkinded (service : ServiceBuilder) : formats.readService (service.write formats) = none := by
  have absent : (service.write formats).field SignatureKind.codec.read "signature_kind" = none := by
    simp [ServiceBuilder.write,Json.field,Json.fields]
  simp [Formats.readService,absent]

theorem readService_finished (now : Timestamp) (service : ServiceBuilder)
    (clean : validate parsers now service.stored = []) (kind : SignatureKind) :
    ∃ definition, service.stored = serviceBuilder definition ∧ definition.signatureKind = kind ∧
      formats.readService ((service.write formats).extend "signature_kind" (SignatureKind.codec.write kind)) =
        some definition := by
  simp only [validate,List.append_eq_nil_iff,List.flatMap_eq_nil_iff] at clean
  obtain ⟨⟨_,workflows⟩,managed⟩ := clean
  cases set : service.manager with
  | builder builder =>
    simp only [ServiceBuilder.stored,set,managerFaults] at managed
    cases managed
  | manager manager =>
    have finished : ∀ entry ∈ service.workflows.entries, ∃ made, finish entry.2 = some made := by
      intro entry member
      refine finish_of_faults parsers now entry.1 entry.2 ?_
      exact workflows (entry.1,entry.2.stored) (List.mem_map.mpr ⟨entry,member,rfl⟩)
    have made : ∀ entry ∈ service.workflows.entries, finish entry.2 = some ((finish entry.2).getD blankWorkflow) := by
      intro entry member
      obtain ⟨made,found⟩ := finished entry member
      rw [found,Option.getD_some]
    refine ⟨⟨service.name,service.workflows.mapValues (fun workflow => (finish workflow).getD blankWorkflow),
      service.status,manager,kind⟩,?_,rfl,?_⟩
    · have same : (service.workflows.mapValues WorkflowBuilder.stored).entries =
          ((service.workflows.mapValues (fun workflow => (finish workflow).getD blankWorkflow)).mapValues
            workflowBuilder).entries := by
        simp only [BTreeMap.mapValues,List.map_map]
        refine List.map_congr_left ?_
        intro entry member
        obtain ⟨trigger,component,submit⟩ := finish_eq_some entry.2 _ (made entry member)
        simp only [Function.comp_apply,Prod.mk.injEq,true_and]
        rw [WorkflowBuilder.stored,workflowBuilder,← trigger,← component,← submit]
      simp only [serviceBuilder,ServiceBuilder.stored,set,ServiceBuilder.mk.injEq,true_and,and_true]
      cases first : service.workflows.mapValues WorkflowBuilder.stored
      cases second : (service.workflows.mapValues (fun workflow => (finish workflow).getD blankWorkflow)).mapValues
        workflowBuilder
      rw [first,second] at same
      cases same
      rfl
    · have taken := readMap_writeMap WorkflowId.text WorkflowId.readKey (WorkflowBuilder.write formats)
        formats.workflow.read (fun workflow => (finish workflow).getD blankWorkflow) service.workflows
        WorkflowId.readKey_text (fun entry member => readWorkflow_finished formats entry.2 _ (made entry member))
      simp [Formats.readService,ServiceBuilder.write,Json.extend,Json.field,Json.fields,Codec.read_write,taken,set,
        ServiceManagerBuilder.codec]

/-- A node reads no file that commands have left. Where nothing is found in one, it lacks no more than the signature
kind. -/
theorem run_lacks_kind (acts : List (ServiceCommand × Outside)) (file : Contents)
    (left : run formats parsers none acts = some file) :
    file.parsed.bind formats.readService = none ∧
      ∀ json, file = .json json → ∀ service now, ServiceBuilder.read formats json = some service →
        validate parsers now service = [] →
        ∀ kind, ∃ definition, service = serviceBuilder definition ∧ definition.signatureKind = kind ∧
          formats.readService (json.extend "signature_kind" (SignatureKind.codec.write kind)) = some definition := by
  cases file with
  | garbled garbled => exact ⟨rfl,by simp⟩
  | json json =>
    obtain ⟨written,rfl,_⟩ := run_written formats parsers acts none (by simp [Written]) json left
    refine ⟨readService_unkinded formats written,?_⟩
    intro json same service now read clean kind
    cases same
    rw [ServiceBuilder.read_write] at read
    cases read
    exact readService_finished formats parsers now written clean kind

end file

def byteCodec : Codec UInt8 :=
  (Codec.below 256).equiv (fun byte => ⟨byte.toNat,byte.toNat_lt⟩) (fun value => .ofNat value.1) (fun _ => UInt8.ofNat_toNat)

/-- Formats that spell out what an address and an `ScVal` consist of. -/
def plainFormats : Formats where
  cosmosAddr := {
    write := fun address => .array [.string address.bech32Addr,.integer address.prefixLen]
    read := fun
      | .array [.string text,.integer (.ofNat length)] => some ⟨text,length⟩
      | _ => none
    read_write := fun _ => rfl}
  contract := FixedBytes.codec 32
  scVal := byteCodec.list.equiv ScVal.xdr ScVal.mk (fun _ => rfl)

def everyMinute : Parsers where
  schedule text := if text = "0 * * * * *" then none else some "Invalid expression"
  checksum _ := none

def offline : Outside where
  uuid := "0199a8f4-8a6b-7c1d-9e2f-3a4b5c6d7e8f"
  now := ⟨1760000000000000000⟩
  fetchDigest _ := .error "Failed to fetch data"
  registryDigest _ _ _ := .error "Failed to fetch data"
  parseAddress _ _ := .error "chain id not found"
  parseContract _ := none
  eventSelector _ := .error "Invalid event signature format"
  scString _ := .error "xdr value max length exceeded"
  scSymbol _ := .error "xdr value max length exceeded"
  configFile _ := .error "Failed to read config file"
  jsonText _ := ""
  readable := true
  writing := .done

def draftedFlow : WorkflowId := ⟨"flow-1",by decide⟩

/-- A service with one workflow, set up from nothing. -/
def drafted : List (ServiceCommand × Outside) :=
  [.init "echo",.workflow (.add (some draftedFlow)),
    .workflow (.component draftedFlow (.setSourceDigest ⟨.filled 32 7⟩)),
    .workflow (.component draftedFlow (.env (some [" WARPDRIVE_ENV_KEY ",""]))),
    .workflow (.trigger draftedFlow (.setCron "0 * * * * *" none none)),.workflow (.submit draftedFlow .setAggregator),
    .workflow (.submit draftedFlow (.component (.setSourceDigest ⟨.filled 32 9⟩))),
    .workflow (.submit draftedFlow (.component (.fuelLimit (some 1000)))),
    .manager (.setEvm ⟨.evm,anvilId⟩ .zero)].map (fun command => (command,offline))

theorem drafted_clean : ((run plainFormats everyMinute none drafted).bind (fun file =>
    file.parsed.bind (ServiceBuilder.read plainFormats))).map (validate everyMinute offline.now) = some [] := by
  decide +kernel

/-- The disk is full when the last command but one writes. -/
def interrupted : List (ServiceCommand × Outside) :=
  drafted ++ [(.updateStatus .paused,{offline with writing := .cut .text}),(.updateStatus .active,offline)]

theorem interrupted_garbled :
    (run plainFormats everyMinute none interrupted).any (fun file => file.parsed.isNone) = true := by
  decide +kernel

theorem drafted_leaves_pending :
    (∃ json service, run plainFormats everyMinute none drafted = some (.json json) ∧
      ServiceBuilder.read plainFormats json = some service ∧ ServiceSound everyMinute service ∧
      ∀ now, ∀ fault ∈ validate everyMinute now service, fault.pending = true) ∧
    ∃ garbled, run plainFormats everyMinute none interrupted = some (.garbled garbled) ∧
      CutShort plainFormats everyMinute interrupted garbled := by
  constructor
  · obtain ⟨_,found,_⟩ := Option.map_eq_some_iff.mp drafted_clean
    obtain ⟨file,left,found⟩ := Option.bind_eq_some_iff.mp found
    obtain ⟨json,whole,_⟩ := Option.bind_eq_some_iff.mp found
    cases file with
    | garbled garbled => cases whole
    | json json =>
      obtain ⟨service,kept⟩ := (run_leaves_pending plainFormats everyMinute drafted _ left).1 json rfl
      exact ⟨json,service,left,kept⟩
  · obtain ⟨file,left,unparsed⟩ := (Option.any_eq_true _ _).mp interrupted_garbled
    cases file with
    | json json => cases unparsed
    | garbled garbled =>
      exact ⟨garbled,left,(run_leaves_pending plainFormats everyMinute interrupted _ left).2 garbled rfl⟩

theorem drafted_lacks_kind : ∃ json definition, run plainFormats everyMinute none drafted = some (.json json) ∧
    plainFormats.readService json = none ∧
    plainFormats.readService (json.extend "signature_kind" (SignatureKind.codec.write .evmDefault)) =
      some definition := by
  obtain ⟨service,found,clean⟩ := Option.map_eq_some_iff.mp drafted_clean
  obtain ⟨file,left,found⟩ := Option.bind_eq_some_iff.mp found
  obtain ⟨json,whole,read⟩ := Option.bind_eq_some_iff.mp found
  cases file with
  | garbled garbled => cases whole
  | json json =>
    cases whole
    obtain ⟨unread,lacking⟩ := run_lacks_kind plainFormats everyMinute drafted (.json json) left
    obtain ⟨definition,_,_,found⟩ := lacking json rfl service offline.now read clean .evmDefault
    exact ⟨json,definition,left,unread,found⟩

end Warpdrive.Cli
