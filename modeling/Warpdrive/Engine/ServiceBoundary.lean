import Warpdrive.Engine.ComponentActions
import Warpdrive.Foundation.RoundTrip
import Warpdrive.Types.WorkflowGrammar

/-! The definition of a service as a component sees it (`warpdrive:types/service`), and its conversions in both
directions (`engine/src/bindings/types/warpdrive_to_component.rs` and `component_to_warpdrive.rs`). The crates that
read a URI, a version and a package reference, and that write an `ScVal` as JSON, are parameters. -/
namespace Warpdrive.Engine

open Warpdrive.Foundation

/-! ## The component's types -/

namespace ComponentService

structure EvmAddress where
  rawBytes : List UInt8
  deriving DecidableEq

structure CosmosAddress where
  bech32Addr : String
  prefixLen : UInt32
  deriving DecidableEq

structure StellarAddress where
  rawBytes : List UInt8
  deriving DecidableEq

structure Timestamp where
  nanos : UInt64
  deriving DecidableEq

inductive StellarTopicSegment
  | exact (json : String)
  | wildcard
  | restWildcard
  deriving DecidableEq

structure TriggerEvmContractEvent where
  address : EvmAddress
  chain : String
  eventHash : List UInt8
  deriving DecidableEq

structure TriggerCosmosContractEvent where
  address : CosmosAddress
  chain : String
  eventType : String
  deriving DecidableEq

structure TriggerStellarContractEvent where
  contractId : String
  chain : String
  topicSegments : List StellarTopicSegment
  deriving DecidableEq

structure TriggerBlockInterval where
  chain : String
  nBlocks : UInt32
  startBlock : Option UInt64
  endBlock : Option UInt64
  deriving DecidableEq

structure TriggerCron where
  schedule : String
  startTime : Option Timestamp
  endTime : Option Timestamp
  deriving DecidableEq

structure TriggerAtprotoEvent where
  collection : String
  repoDid : Option String
  action : Option String
  deriving DecidableEq

inductive Trigger
  | evmContractEvent (source : TriggerEvmContractEvent)
  | cosmosContractEvent (source : TriggerCosmosContractEvent)
  | stellarContractEvent (source : TriggerStellarContractEvent)
  | blockInterval (source : TriggerBlockInterval)
  | cron (source : TriggerCron)
  | atprotoEvent (source : TriggerAtprotoEvent)
  | manual
  deriving DecidableEq

inductive AllowedHostPermission
  | all
  | only (hosts : List String)
  | none
  deriving DecidableEq

structure Permissions where
  allowedHttpHosts : AllowedHostPermission
  fileSystem : Bool
  rawSockets : Bool
  dnsResolution : Bool
  deriving DecidableEq

structure Registry where
  digest : String
  domain : Option String
  version : Option String
  pkg : String
  deriving DecidableEq

structure ComponentSourceDownload where
  uri : String
  digest : String
  deriving DecidableEq

inductive ComponentSource
  | download (download : ComponentSourceDownload)
  | registry (registry : Registry)
  | digest (digest : String)
  deriving DecidableEq

structure Component where
  source : ComponentSource
  permissions : Permissions
  fuelLimit : Option UInt64
  timeLimitSeconds : Option UInt64
  config : List (String × String)
  envKeys : List String
  deriving DecidableEq

structure AggregatorSubmit where
  component : Component
  deriving DecidableEq

inductive Submit
  | none
  | aggregator (submit : AggregatorSubmit)
  deriving DecidableEq

structure Workflow where
  trigger : Trigger
  component : Component
  submit : Submit
  deriving DecidableEq

inductive ServiceStatus
  | active
  | paused
  deriving DecidableEq

structure EvmManager where
  chain : String
  address : EvmAddress
  deriving DecidableEq

structure CosmosManager where
  chain : String
  address : CosmosAddress
  deriving DecidableEq

structure StellarManager where
  chain : String
  address : StellarAddress
  deriving DecidableEq

inductive ServiceManager
  | evm (manager : EvmManager)
  | cosmos (manager : CosmosManager)
  | stellar (manager : StellarManager)
  deriving DecidableEq

inductive SignatureAlgorithm
  | secp256k1
  | ed25519
  deriving DecidableEq

inductive SignaturePrefix
  | eip191
  | sep53
  deriving DecidableEq

structure SignatureKind where
  algorithm : SignatureAlgorithm
  messagePrefix : Option SignaturePrefix
  deriving DecidableEq

structure Service where
  name : String
  workflows : List (String × Workflow)
  status : ServiceStatus
  manager : ServiceManager
  signatureKind : SignatureKind
  deriving DecidableEq

end ComponentService

/-- An `anyhow::Error`, by what it is made from. -/
inductive BoundaryError
  | chainKey (error : Types.ChainKeyError)
  | workflowId (error : Types.WorkflowIdError)
  | digest (error : Types.FromHexError)
  | byteArray (length : Nat)
  | tryFromInt
  | message (text : String)
  | external (reason : String)
  deriving DecidableEq

/-- `UriString::try_from`, the parsers of semver and of package references, and serde_json on an `ScVal`. A URI, a
version and a package reference are kept as the text that they display. -/
structure Crates where
  uriTryFrom : String → Except String String
  versionFromStr : String → Except String String
  packageTryFrom : String → Except String String
  scValToString : Types.ScVal → Except String String
  scValFromStr : String → Except String Types.ScVal

/-! ## From the node to a component -/

namespace WarpdriveToComponent

open Warpdrive.Types

variable (crates : Crates)

/-- `CosmosAddr::prefix` cuts the address at its length. -/
def cosmosAddress (address : CosmosAddr) : Outcome BoundaryError ComponentService.CosmosAddress :=
  match sliceTo address.bech32Addr address.prefixLen with
  | none => .panicked
  | some stem => .ok ⟨address.bech32Addr,UInt32.ofNat stem.utf8ByteSize⟩

def evmAddress (address : Address) : ComponentService.EvmAddress := ⟨address.toList⟩

def stellarAddress (contract : FixedBytes 32) : ComponentService.StellarAddress := ⟨contract.toList⟩

def timestamp (src : Timestamp) : ComponentService.Timestamp := ⟨src.nanos⟩

def stellarTopicSegment : StellarTopicSegment → Outcome BoundaryError ComponentService.StellarTopicSegment
  | .wildcard => .ok .wildcard
  | .restWildcard => .ok .restWildcard
  | .exact lit => (Outcome.ofExcept ((crates.scValToString lit).mapError .external)).map .exact

def trigger : Trigger → Outcome BoundaryError ComponentService.Trigger
  | .cosmosContractEvent address chain eventType =>
    (cosmosAddress address).map (fun address => .cosmosContractEvent ⟨address,chain.display,eventType⟩)
  | .evmContractEvent address chain eventHash =>
    .ok (.evmContractEvent ⟨evmAddress address,chain.display,eventHash.toList⟩)
  | .stellarContractEvent chain contractId topicSegments =>
    (Outcome.collect (stellarTopicSegment crates) topicSegments).map (fun topicSegments =>
      .stellarContractEvent ⟨contractId,chain.display,topicSegments⟩)
  | .blockInterval chain nBlocks startBlock endBlock =>
    .ok (.blockInterval ⟨chain.display,nBlocks.val,startBlock.map Subtype.val,endBlock.map Subtype.val⟩)
  | .manual => .ok .manual
  | .cron schedule startTime endTime => .ok (.cron ⟨schedule,startTime.map timestamp,endTime.map timestamp⟩)
  | .atProtoEvent collection repoDid action =>
    .ok (.atprotoEvent ⟨collection,repoDid,action.map AtProtoAction.display⟩)

def registry (src : Registry) : ComponentService.Registry :=
  ⟨src.digest.display,src.domain,src.version,src.package⟩

def componentSource : ComponentSource → ComponentService.ComponentSource
  | .digest digest => .digest digest.display
  | .download uri digest => .download ⟨uri,digest.display⟩
  | .registry source => .registry (registry source)

def allowedHostPermission : AllowedHostPermission → ComponentService.AllowedHostPermission
  | .all => .all
  | .none => .none
  | .only hosts => .only hosts

def permissions (src : Permissions) : ComponentService.Permissions :=
  ⟨allowedHostPermission src.allowedHttpHosts,src.fileSystem,src.rawSockets,src.dnsResolution⟩

def component (src : Component) : ComponentService.Component :=
  ⟨componentSource src.source,permissions src.permissions,src.fuelLimit,src.timeLimitSeconds,src.config.entries,
    src.envKeys.entries.map Prod.fst⟩

def submit : Submit → ComponentService.Submit
  | .none => .none
  | .aggregator submitter => .aggregator ⟨component submitter⟩

def workflow (src : Workflow) : Outcome BoundaryError ComponentService.Workflow :=
  (trigger crates src.trigger).map (fun trigger => ⟨trigger,component src.component,submit src.submit⟩)

def serviceStatus : ServiceStatus → ComponentService.ServiceStatus
  | .active => .active
  | .paused => .paused

def serviceManager : ServiceManager → Outcome BoundaryError ComponentService.ServiceManager
  | .evm chain address => .ok (.evm ⟨chain.display,evmAddress address⟩)
  | .cosmos chain address => (cosmosAddress address).map (fun address => .cosmos ⟨chain.display,address⟩)
  | .stellar chain address => .ok (.stellar ⟨chain.display,stellarAddress address⟩)

def signatureAlgorithm : SignatureAlgorithm → ComponentService.SignatureAlgorithm
  | .secp256k1 => .secp256k1
  | .ed25519 => .ed25519

def signaturePrefix : SignaturePrefix → ComponentService.SignaturePrefix
  | .eip191 => .eip191
  | .sep53 => .sep53

def signatureKind (src : SignatureKind) : ComponentService.SignatureKind :=
  ⟨signatureAlgorithm src.algorithm,src.messagePrefix.map signaturePrefix⟩

def service (src : Service) : Outcome BoundaryError ComponentService.Service :=
  (Outcome.collect (fun entry : WorkflowId × Workflow =>
    (workflow crates entry.2).map (fun workflow => (entry.1.display,workflow))) src.workflows.entries).bind
  (fun workflows => (serviceManager src.manager).map (fun manager =>
    ⟨src.name,workflows,serviceStatus src.status,manager,signatureKind src.signatureKind⟩))

end WarpdriveToComponent

/-! ## From a component to the node -/

namespace ComponentToWarpdrive

open Warpdrive.Types

variable (crates : Crates)

/-- `CosmosAddr::new_unchecked`. -/
def cosmosAddr (address : ComponentService.CosmosAddress) : CosmosAddr :=
  ⟨address.bech32Addr,address.prefixLen.toNat⟩

/-- `Address::from_slice` panics on any other length. -/
def evmAddress (address : ComponentService.EvmAddress) : Outcome BoundaryError Address :=
  match FixedBytes.ofList? 20 address.rawBytes with
  | none => .panicked
  | some bytes => .ok bytes

def stellarContract (address : ComponentService.StellarAddress) : Outcome BoundaryError (FixedBytes 32) :=
  match FixedBytes.ofList? 32 address.rawBytes with
  | none => .error (.message ("stellar contract id must be 32 bytes, got " ++ toString address.rawBytes.length))
  | some bytes => .ok bytes

def timestamp (src : ComponentService.Timestamp) : Timestamp := ⟨src.nanos⟩

def chainKey (chain : String) : Outcome BoundaryError ChainKey :=
  .ofExcept ((ChainKey.new chain).mapError .chainKey)

def byteArray (n : Nat) (bytes : List UInt8) : Outcome BoundaryError (FixedBytes n) :=
  match FixedBytes.ofList? n bytes with
  | none => .error (.byteArray n)
  | some bytes => .ok bytes

def nonZeroU32 (n : UInt32) : Outcome BoundaryError NonZeroU32 :=
  if nonzero : n ≠ 0 then .ok ⟨n,nonzero⟩ else .error .tryFromInt

def nonZeroU64 (n : UInt64) : Outcome BoundaryError NonZeroU64 :=
  if nonzero : n ≠ 0 then .ok ⟨n,nonzero⟩ else .error .tryFromInt

def atProtoAction (action : String) : Outcome BoundaryError AtProtoAction :=
  .ofExcept ((AtProtoAction.fromStr action).mapError .message)

def componentDigest (digest : String) : Outcome BoundaryError ComponentDigest :=
  .ofExcept ((ComponentDigest.fromStr digest).mapError .digest)

def stellarTopicSegment : ComponentService.StellarTopicSegment → Outcome BoundaryError StellarTopicSegment
  | .wildcard => .ok .wildcard
  | .restWildcard => .ok .restWildcard
  | .exact json => (Outcome.ofExcept ((crates.scValFromStr json).mapError .external)).map .exact

def trigger : ComponentService.Trigger → Outcome BoundaryError Trigger
  | .cosmosContractEvent source =>
    (chainKey source.chain).map (fun chain =>
      .cosmosContractEvent (cosmosAddr source.address) chain source.eventType)
  | .evmContractEvent source =>
    (evmAddress source.address).bind (fun address => (chainKey source.chain).bind (fun chain =>
      (byteArray 32 source.eventHash).map (fun eventHash => .evmContractEvent address chain eventHash)))
  | .stellarContractEvent source =>
    (chainKey source.chain).bind (fun chain =>
      (Outcome.collect (stellarTopicSegment crates) source.topicSegments).map (fun topicSegments =>
        .stellarContractEvent chain source.contractId topicSegments))
  | .blockInterval source =>
    (chainKey source.chain).bind (fun chain => (nonZeroU32 source.nBlocks).bind (fun nBlocks =>
      (Outcome.optional nonZeroU64 source.startBlock).bind (fun startBlock =>
        (Outcome.optional nonZeroU64 source.endBlock).map (fun endBlock =>
          .blockInterval chain nBlocks startBlock endBlock))))
  | .manual => .ok .manual
  | .cron source => .ok (.cron source.schedule (source.startTime.map timestamp) (source.endTime.map timestamp))
  | .atprotoEvent source =>
    (Outcome.optional atProtoAction source.action).map (fun action =>
      .atProtoEvent source.collection source.repoDid action)

def registry (src : ComponentService.Registry) : Outcome BoundaryError Registry :=
  (componentDigest src.digest).bind (fun digest =>
    (Outcome.optional (fun version => .ofExcept ((crates.versionFromStr version).mapError .external)) src.version).bind
      (fun version => (Outcome.ofExcept ((crates.packageTryFrom src.pkg).mapError .external)).map (fun package =>
        ⟨digest,src.domain,version,package⟩)))

def componentSource : ComponentService.ComponentSource → Outcome BoundaryError ComponentSource
  | .digest digest => (componentDigest digest).map .digest
  | .download download =>
    (Outcome.ofExcept ((crates.uriTryFrom download.uri).mapError .external)).bind (fun uri =>
      (componentDigest download.digest).map (fun digest => .download uri digest))
  | .registry source => (registry crates source).map .registry

def allowedHostPermission : ComponentService.AllowedHostPermission → AllowedHostPermission
  | .all => .all
  | .none => .none
  | .only hosts => .only hosts

def permissions (src : ComponentService.Permissions) : Permissions :=
  ⟨allowedHostPermission src.allowedHttpHosts,src.fileSystem,src.rawSockets,src.dnsResolution⟩

def component (src : ComponentService.Component) : Outcome BoundaryError Component :=
  (componentSource crates src.source).map (fun source =>
    ⟨source,permissions src.permissions,src.fuelLimit,src.timeLimitSeconds,.ofIter src.config,
      .ofIter (src.envKeys.map (fun key => (key,())))⟩)

/-- The conversion of the component is unwrapped. -/
def submit : ComponentService.Submit → Outcome BoundaryError Submit
  | .none => .ok .none
  | .aggregator submitter =>
    match component crates submitter.component with
    | .ok component => .ok (.aggregator component)
    | _ => .panicked

def workflow (src : ComponentService.Workflow) : Outcome BoundaryError Workflow :=
  (trigger crates src.trigger).bind (fun trigger => (component crates src.component).bind (fun component =>
    (submit crates src.submit).map (fun submit => ⟨trigger,component,submit⟩)))

def serviceStatus : ComponentService.ServiceStatus → ServiceStatus
  | .active => .active
  | .paused => .paused

def serviceManager : ComponentService.ServiceManager → Outcome BoundaryError ServiceManager
  | .evm manager =>
    (chainKey manager.chain).bind (fun chain => (evmAddress manager.address).map (fun address => .evm chain address))
  | .cosmos manager => (chainKey manager.chain).map (fun chain => .cosmos chain (cosmosAddr manager.address))
  | .stellar manager =>
    (chainKey manager.chain).bind (fun chain =>
      (stellarContract manager.address).map (fun address => .stellar chain address))

def signatureAlgorithm : ComponentService.SignatureAlgorithm → SignatureAlgorithm
  | .secp256k1 => .secp256k1
  | .ed25519 => .ed25519

def signaturePrefix : ComponentService.SignaturePrefix → SignaturePrefix
  | .eip191 => .eip191
  | .sep53 => .sep53

def signatureKind (src : ComponentService.SignatureKind) : SignatureKind :=
  ⟨signatureAlgorithm src.algorithm,src.messagePrefix.map signaturePrefix⟩

def workflowId (id : String) : Outcome BoundaryError WorkflowId :=
  .ofExcept ((WorkflowId.fromStr id).mapError .workflowId)

def service (src : ComponentService.Service) : Outcome BoundaryError Service :=
  (Outcome.collect (fun entry : String × ComponentService.Workflow =>
    (workflowId entry.1).bind (fun id => (workflow crates entry.2).map (fun workflow => (id,workflow))))
      src.workflows).bind
  (fun workflows => (serviceManager src.manager).map (fun manager =>
    ⟨src.name,.ofIter workflows,serviceStatus src.status,manager,signatureKind src.signatureKind⟩))

end ComponentToWarpdrive

end Warpdrive.Engine
