import Mathlib.Data.List.DropRight
import Warpdrive.Cli.ServiceJson
import Warpdrive.Foundation.Separator
import Warpdrive.Types.Digest

/-! The commands that edit a service file (`cli/src/command/service.rs`). Each reads the whole file, changes the
service and writes the file again. `File::create` empties the file first, so a command that fails while it writes
leaves the file cut short; one that fails before leaves it as it was. What a command gets from elsewhere (the clock,
downloads, parsers of other crates, a configuration file, the file system) is given to it with the command. -/
namespace Warpdrive.Cli

open Warpdrive.Foundation Warpdrive.Types
open Warpdrive.Engine (startsWith)

/-- `char::is_whitespace`. -/
def isWhitespace (c : Char) : Bool :=
  (9 ≤ c.toNat && c.toNat ≤ 13) || c.toNat == 0x20 || c.toNat == 0x85 || c.toNat == 0xA0 || c.toNat == 0x1680 ||
    (0x2000 ≤ c.toNat && c.toNat ≤ 0x200A) || c.toNat == 0x2028 || c.toNat == 0x2029 || c.toNat == 0x202F ||
    c.toNat == 0x205F || c.toNat == 0x3000

/-- `str::trim`. -/
def trim (text : String) : String := String.ofList ((text.toList.dropWhile isWhitespace).rdropWhile isWhitespace)

inductive ComponentCommand
  | setSourceUri (uri : String)
  | setSourceDigest (digest : ComponentDigest)
  | setSourceRegistry (domain : Option String) (package : String) (version : Option String)
  | permissions (httpHosts : Option (List String)) (fileSystem : Option Bool)
  | fuelLimit (fuel : Option UInt64)
  | timeLimit (seconds : Option UInt64)
  | config (values : Option (List String)) (configFile : Option String)
  | env (values : Option (List String))

inductive TriggerCommand
  | setCosmos (address : String) (chain : ChainKey) (eventType : String)
  | setEvm (address : Address) (chain : ChainKey) (eventHash : String)
  | setStellar (contractId : String) (chain : ChainKey) (topics : List String)
  | setBlockInterval (chain : ChainKey) (nBlocks : NonZeroU32) (startBlock endBlock : Option NonZeroU64)
  | setCron (schedule : String) (startTime endTime : Option Timestamp)
  | setAtProtocol (collection : String) (repoDid : Option String) (action : Option AtProtoAction)

inductive SubmitCommand
  | setAggregator
  | setNone
  | component (component : ComponentCommand)

inductive WorkflowCommand
  | add (id : Option WorkflowId)
  | delete (id : WorkflowId)
  | component (id : WorkflowId) (command : ComponentCommand)
  | trigger (id : WorkflowId) (command : TriggerCommand)
  | submit (id : WorkflowId) (command : SubmitCommand)

inductive ManagerCommand
  | setEvm (chain : ChainKey) (address : Address)
  | setStellar (chain : ChainKey) (address : String)

/-- The commands that write the file. -/
inductive ServiceCommand
  | init (name : String)
  | workflow (command : WorkflowCommand)
  | manager (command : ManagerCommand)
  | updateStatus (status : ServiceStatus)

inductive Failure
  | io
  | json
  | message (text : String)
  | panicked
  deriving DecidableEq

/-- A file that holds no JSON: its bytes are no text, or its text is no JSON. A file that was cut short is either,
since the text of an object begins with no other JSON. -/
inductive Garbled
  | bytes
  | text
  deriving DecidableEq

inductive Contents
  | json (whole : Json)
  | garbled (garbled : Garbled)

def Contents.parsed : Contents → Option Json
  | .json whole => some whole
  | .garbled _ => none

/-- How the writing of the file ends. It may fail before the file is open, or when part of the text is written. -/
inductive Writing
  | done
  | unopened
  | cut (left : Garbled)
  deriving DecidableEq

def Writing.isCut : Writing → Bool
  | .cut _ => true
  | _ => false

/-- What a command gets from outside: a new UUID, the time, the digest of what a URI or a registry serves, addresses
and event signatures as their crates parse them, the topic values that fit into an `ScVal`, a configuration file with
the text of its nested values, and whether the service file can be read and written. -/
structure Outside where
  uuid : String
  now : Timestamp
  fetchDigest : String → Except String ComponentDigest
  registryDigest : Option String → String → Option String → Except String ComponentDigest
  parseAddress : String → ChainKey → Except String CosmosAddr
  parseContract : String → Option (FixedBytes 32)
  eventSelector : String → Except String (FixedBytes 32)
  scString : String → Except String ScVal
  scSymbol : String → Except String ScVal
  configFile : String → Except String Json
  jsonText : Json → String
  readable : Bool
  writing : Writing

def notFound (id : WorkflowId) : Failure := .message ("Workflow with ID '" ++ id.text ++ "' not found in service")

/-- `Component::new`. -/
def newComponent (source : ComponentSource) : Component := ⟨source,{},none,none,.ofIter [],.ofIter []⟩

/-- The hosts of `--http-hosts`. -/
def allowedHosts (hosts : List String) : AllowedHostPermission :=
  let hosts := (hosts.map trim).filter (fun host => !host.isEmpty)
  if hosts.isEmpty then .none
  else if hosts = ["*"] then .all
  else .only hosts

/-- The values of `--values key=value`. -/
def configPairs : List String → BTreeMap String String → Except Failure (BTreeMap String String)
  | [],pairs => .ok pairs
  | value::values,pairs =>
    match Separator.splitOnce '=' value with
    | none => .error (.message ("Invalid config format: '" ++ value ++ "'. Expected 'key=value'"))
    | some (key,value) =>
      if (trim key).isEmpty then .error (.message ("Empty key in config value: '" ++ trim value ++ "'"))
      else configPairs values (pairs.insert (trim key) (trim value))

def configEntries (jsonText : Json → String) : List (String × Json) → BTreeMap String String →
    Except Failure (BTreeMap String String)
  | [],pairs => .ok pairs
  | (key,.string text)::entries,pairs => configEntries jsonText entries (pairs.insert key text)
  | (key,.null)::_,_ =>
    .error (.message ("Config key '" ++ key ++ "' has null value. All keys must have string values"))
  | (key,value)::entries,pairs => configEntries jsonText entries (pairs.insert key (jsonText value))

def parseConfigFromFile (outside : Outside) (path : String) : Except Failure (BTreeMap String String) :=
  match outside.configFile path with
  | .error text => .error (.message text)
  | .ok (.object members) => configEntries outside.jsonText (BTreeMap.ofIter members).entries (.ofIter [])
  | .ok _ => .error (.message "Config file must contain a JSON object with key-value pairs")

def envKeys : List String → BTreeMap String Unit → Except Failure (BTreeMap String Unit)
  | [],keys => .ok keys
  | value::values,keys =>
    if (trim value).isEmpty then envKeys values keys
    else if !startsWith (trim value) envPrefix then
      .error (.message ("Environment variable '" ++ trim value ++ "' must start with '" ++ envPrefix ++ "'"))
    else envKeys values (keys.insert (trim value) ())

/-- `apply_component_command`; the commands for the source do not get here. -/
def applyComponentCommand (outside : Outside) (component : Component) : ComponentCommand → Except Failure Component
  | .setSourceUri _ => .error .panicked
  | .setSourceDigest _ => .error .panicked
  | .setSourceRegistry _ _ _ => .error .panicked
  | .permissions httpHosts fileSystem =>
    .ok {component with permissions := {component.permissions with
      allowedHttpHosts := (httpHosts.map allowedHosts).getD component.permissions.allowedHttpHosts
      fileSystem := fileSystem.getD component.permissions.fileSystem}}
  | .fuelLimit fuel => .ok {component with fuelLimit := fuel}
  | .timeLimit seconds => .ok {component with timeLimitSeconds := seconds}
  | .config _ (some configFile) =>
    (parseConfigFromFile outside configFile).map (fun config => {component with config := config})
  | .config (some values) none => (configPairs values (.ofIter [])).map (fun config => {component with config := config})
  | .config none none => .ok {component with config := .ofIter []}
  | .env (some values) => (envKeys values (.ofIter [])).map (fun keys => {component with envKeys := keys})
  | .env none => .ok {component with envKeys := .ofIter []}

/-- The component that a command changes: one that is there, or one that may be unset. -/
inductive ComponentTarget
  | direct (component : Component)
  | json (component : ComponentBuilder)

inductive ComponentContext
  | workflow
  | aggregator
  deriving DecidableEq

def getTargetComponent (workflow : WorkflowBuilder) : ComponentContext → Except Failure ComponentTarget
  | .workflow => .ok (.json workflow.component)
  | .aggregator =>
    match workflow.submit with
    | .submit (.aggregator component) => .ok (.direct component)
    | .aggregatorBuilder (.aggregator component _) => .ok (.json component)
    | _ => .error (.message
      "Cannot modify aggregator component when the workflow's submit is not set to aggregator")

/-- The workflow with the component put back where it came from. -/
def putComponent (workflow : WorkflowBuilder) (component : Component) : ComponentContext → WorkflowBuilder
  | .workflow => {workflow with component := .component component}
  | .aggregator =>
    match workflow.submit with
    | .submit (.aggregator _) => {workflow with submit := .submit (.aggregator component)}
    | .aggregatorBuilder (.aggregator _ kind) =>
      {workflow with submit := .aggregatorBuilder (.aggregator (.component component) kind)}
    | _ => workflow

/-- A source that was looked up. It keeps the settings of a component that is there for sure, and of no other. -/
def setLookedUpSource (source : ComponentSource) : ComponentTarget → Component
  | .direct component => {component with source := source}
  | .json _ => newComponent source

/-- `execute_sync_command`. -/
def executeSyncCommand (outside : Outside) (target : ComponentTarget) (command : ComponentCommand) :
    Except Failure Component :=
  match command with
  | .setSourceDigest digest =>
    match target with
    | .direct component => .ok {component with source := .digest digest}
    | .json (.component component) => .ok {component with source := .digest digest}
    | .json (.builder _) => .ok (newComponent (.digest digest))
  | other =>
    match target with
    | .direct component => applyComponentCommand outside component other
    | .json (.component component) => applyComponentCommand outside component other
    | .json (.builder _) => .error (.message "Component is unset. Set the component source first.")

/-- The change that `update_component` makes to the workflow, after the look-up that a source may need. -/
def updateComponent (outside : Outside) (context : ComponentContext) (command : ComponentCommand) :
    Except Failure (WorkflowBuilder → Except Failure WorkflowBuilder) :=
  let changed (change : ComponentTarget → Except Failure Component) (workflow : WorkflowBuilder) := do
    let target ← getTargetComponent workflow context
    let component ← change target
    return putComponent workflow component context
  match command with
  | .setSourceRegistry domain package version =>
    match outside.registryDigest domain package version with
    | .error text => .error (.message text)
    | .ok digest => .ok (changed (fun target =>
      .ok (setLookedUpSource (.registry ⟨digest,domain,version,package⟩) target)))
  | .setSourceUri uri =>
    match outside.fetchDigest uri with
    | .error text => .error (.message text)
    | .ok digest => .ok (changed (fun target => .ok (setLookedUpSource (.download uri digest) target)))
  | other => .ok (changed (fun target => executeSyncCommand outside target other))

def parseStellarTopicSegment (outside : Outside) (text : String) : Except Failure StellarTopicSegment :=
  if text = "wildcard" then .ok .wildcard
  else if text = "rest-wildcard" then .ok .restWildcard
  else
    match Separator.splitOnce ':' text with
    | none => .error (.message ("invalid topic segment '" ++ text ++ "'"))
    | some (kind,value) =>
      if kind = "string" then ((outside.scString value).mapError Failure.message).map .exact
      else if kind = "symbol" then ((outside.scSymbol value).mapError Failure.message).map .exact
      else .error (.message
        ("unknown topic kind '" ++ kind ++ "', expected string|symbol|wildcard|rest-wildcard"))

/-- `const_hex::decode`. -/
def decodeHex (input : List UInt8) : Option (List UInt8) :=
  if input.length % 2 ≠ 0 then none else (decodeDigits 0 (stripMarker input)).toOption

/-- The event hash of `set_evm_trigger`. Text that decodes to another length makes `copy_from_slice` panic. -/
def eventHash (outside : Outside) (text : String) : Except Failure (FixedBytes 32) :=
  let named : Except Failure String :=
    if startsWith text "0x" || (decodeHex (utf8 text)).isSome then .ok text
    else ((outside.eventSelector text).mapError Failure.message).map (fun hash => "0x" ++ hexEncode hash.toList)
  named.bind (fun text =>
    match decodeHex (utf8 text) with
    | none => .error (.message "invalid hex")
    | some bytes =>
      match FixedBytes.ofList? 32 bytes with
      | none => .error .panicked
      | some hash => .ok hash)

/-- The trigger that a command sets: what fails before the file is read, and what fails after. The schedule is
parsed with the arguments. -/
def setTrigger (parsers : Parsers) (outside : Outside) : TriggerCommand → Except Failure (Except Failure Trigger)
  | .setCosmos address chain eventType =>
    ((outside.parseAddress address chain).mapError Failure.message).map
      (fun address => .ok (.cosmosContractEvent address chain eventType))
  | .setEvm address chain text => (eventHash outside text).map (fun hash => .ok (.evmContractEvent address chain hash))
  | .setStellar contractId chain topics =>
    (topics.mapM (parseStellarTopicSegment outside)).bind (fun segments =>
      if segments.length > 4 then
        .error (.message ("at most 4 topic segments allowed, got " ++ toString segments.length))
      else if .restWildcard ∈ segments.dropLast then
        .error (.message "rest-wildcard must be the last topic segment")
      else .ok (.ok (.stellarContractEvent chain contractId segments)))
  | .setBlockInterval chain nBlocks startBlock endBlock =>
    .ok (((validateBlockIntervalConfig startBlock endBlock).mapError Failure.message).map
      (fun _ => .blockInterval chain nBlocks startBlock endBlock))
  | .setCron schedule startTime endTime =>
    match parsers.schedule schedule with
    | some error => .error (.message error)
    | none => .ok (((validateCronConfig outside.now startTime endTime).mapError
        (fun error => Failure.message error.text)).map (fun _ => .cron schedule startTime endTime))
  | .setAtProtocol collection repoDid action =>
    .ok (if '.' ∉ collection.toList then .error (.message
        ("Invalid collection format '" ++ collection ++ "'. Expected NSID format like 'app.bsky.feed.post'"))
      else
        match repoDid with
        | none => .ok (.atProtoEvent collection none action)
        | some did =>
          if !startsWith did "did:" then
            .error (.message ("Invalid DID format '" ++ did ++ "'. Must start with 'did:'"))
          else .ok (.atProtoEvent collection (some did) action))

/-- A change of one workflow, which has to be there. -/
def onWorkflow (id : WorkflowId) (change : WorkflowBuilder → Except Failure WorkflowBuilder)
    (service : ServiceBuilder) : Except Failure ServiceBuilder :=
  match service.workflows.get id with
  | none => .error (notFound id)
  | some workflow =>
    (change workflow).map (fun workflow => {service with workflows := service.workflows.insert id workflow})

/-- The id that `add_workflow` uses. -/
def newWorkflowId (outside : Outside) : Option WorkflowId → Except Failure WorkflowId
  | some id => .ok id
  | none => (WorkflowId.new outside.uuid).mapError (fun error => .message error.text)

def submitCommand (outside : Outside) :
    SubmitCommand → Except Failure (WorkflowBuilder → Except Failure WorkflowBuilder)
  | .setAggregator => .ok (fun workflow =>
    .ok {workflow with submit := .aggregatorBuilder (.aggregator (.builder .unset) .evmDefault)})
  | .setNone => .ok (fun workflow => .ok {workflow with submit := .submit .none})
  | .component command => updateComponent outside .aggregator command

/-- The change of the service that a command makes, once what precedes the reading of the file has succeeded. -/
def workflowCommand (parsers : Parsers) (outside : Outside) :
    WorkflowCommand → Except Failure (ServiceBuilder → Except Failure ServiceBuilder)
  | .add id => .ok (fun service => (newWorkflowId outside id).map (fun id =>
    {service with workflows := service.workflows.insert id .default}))
  | .delete id => .ok (fun service =>
    match service.workflows.get id with
    | none => .error (notFound id)
    | some _ => .ok {service with workflows := service.workflows.remove id})
  | .component id command => (updateComponent outside .workflow command).map (onWorkflow id)
  | .trigger id command => (setTrigger parsers outside command).map (fun trigger => onWorkflow id (fun workflow =>
    trigger.map (fun trigger => {workflow with trigger := .trigger trigger})))
  | .submit id command => (submitCommand outside command).map (onWorkflow id)

def managerCommand (outside : Outside) : ManagerCommand → Except Failure (ServiceBuilder → Except Failure ServiceBuilder)
  | .setEvm chain address => .ok (fun service => .ok {service with manager := .manager (.evm chain address)})
  | .setStellar chain address =>
    match outside.parseContract address with
    | none => .error (.message ("invalid Stellar contract C-address '" ++ address ++ "'"))
    | some parsed => .ok (fun service => .ok {service with manager := .manager (.stellar chain parsed)})

section file

variable (formats : Formats) (parsers : Parsers)

/-- `read_to_string` and `from_str`. -/
def readServiceFile (outside : Outside) (file : Option Contents) : Except Failure ServiceBuilder :=
  if !outside.readable then .error .io
  else
    match file with
    | none => .error .io
    | some (.garbled .bytes) => .error .io
    | some (.garbled .text) => .error .json
    | some (.json json) =>
      match ServiceBuilder.read formats json with
      | none => .error .json
      | some service => .ok service

/-- `File::create` and `write_all`. -/
def writeServiceFile (outside : Outside) (file : Option Contents) (service : ServiceBuilder) :
    Option Contents × Except Failure Unit :=
  match outside.writing with
  | .done => (some (.json (service.write formats)),.ok ())
  | .unopened => (file,.error .io)
  | .cut left => (some (.garbled left),.error .io)

/-- `modify_service_file`: the file afterwards and whether the command succeeds. -/
def modifyServiceFile (outside : Outside) (file : Option Contents)
    (modifier : ServiceBuilder → Except Failure ServiceBuilder) : Option Contents × Except Failure Unit :=
  match readServiceFile formats outside file with
  | .error failure => (file,.error failure)
  | .ok service =>
    match modifier service with
    | .error failure => (file,.error failure)
    | .ok updated => writeServiceFile formats outside file updated

def initService (name : String) : ServiceBuilder := ⟨name,.ofIter [],.active,.builder .unset⟩

/-- A command on the file, after what it does before it reads the file. -/
def editFile (outside : Outside) (file : Option Contents)
    (prepared : Except Failure (ServiceBuilder → Except Failure ServiceBuilder)) :
    Option Contents × Except Failure Unit :=
  match prepared with
  | .error failure => (file,.error failure)
  | .ok modifier => modifyServiceFile formats outside file modifier

/-- One command on the file. `init` writes a new one whatever is there. -/
def step (file : Option Contents) (act : ServiceCommand × Outside) : Option Contents × Except Failure Unit :=
  match act.1 with
  | .init name => writeServiceFile formats act.2 file (initService name)
  | .workflow command => editFile formats act.2 file (workflowCommand parsers act.2 command)
  | .manager command => editFile formats act.2 file (managerCommand act.2 command)
  | .updateStatus status => editFile formats act.2 file (.ok (fun service => .ok {service with status := status}))

/-- The file after a run of commands. -/
def run (file : Option Contents) (acts : List (ServiceCommand × Outside)) : Option Contents :=
  acts.foldl (fun file act => (step formats parsers file act).1) file

theorem readServiceFile_eq_ok (outside : Outside) (file : Option Contents) (service : ServiceBuilder)
    (read : readServiceFile formats outside file = .ok service) :
    ∃ json, file = some (.json json) ∧ ServiceBuilder.read formats json = some service := by
  unfold readServiceFile at read
  split at read
  · cases read
  · split at read
    · cases read
    · cases read
    · cases read
    next json =>
      split at read
      · cases read
      next found =>
        cases read
        exact ⟨json,rfl,found⟩

/-- What an edit does: it fails and leaves the file, or it writes the changed service. -/
theorem editFile_cases (outside : Outside) (file : Option Contents)
    (prepared : Except Failure (ServiceBuilder → Except Failure ServiceBuilder)) :
    (∃ failure, editFile formats outside file prepared = (file,.error failure)) ∨
      ∃ json service modifier updated, file = some (.json json) ∧ ServiceBuilder.read formats json = some service ∧
        prepared = .ok modifier ∧ modifier service = .ok updated ∧
        editFile formats outside file prepared = writeServiceFile formats outside file updated := by
  cases prepared with
  | error failure => exact .inl ⟨failure,rfl⟩
  | ok modifier =>
    simp only [editFile,modifyServiceFile]
    cases read : readServiceFile formats outside file with
    | error failure => exact .inl ⟨failure,rfl⟩
    | ok service =>
      obtain ⟨json,rfl,found⟩ := readServiceFile_eq_ok formats outside file service read
      cases changed : modifier service with
      | error failure => exact .inl ⟨failure,by simp [changed]⟩
      | ok updated => exact .inr ⟨json,service,modifier,updated,rfl,found,rfl,changed,by simp [changed]⟩

end file
end Warpdrive.Cli
