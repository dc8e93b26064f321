import Warpdrive.Types.Id

/-! Services, triggers and the data that triggers carry (`types/src/service.rs`).
Values of crates outside the repository are kept in a canonical form: an `ScVal`
as its XDR bytes, a `serde_json::Value` as its serialized text, a URI, a package
reference and a version as text. A `CosmosAddr` is its bech32 text with the length
of its prefix, as layer-climb keeps it. -/
namespace Warpdrive.Types

abbrev Address := FixedBytes 20

def Address.zero : Address := FixedBytes.filled 20 0

structure CosmosAddr where
  bech32Addr : String
  prefixLen : Nat
  deriving DecidableEq

abbrev NonZeroU32 := {n : UInt32 // n ≠ 0}

abbrev NonZeroU64 := {n : UInt64 // n ≠ 0}

structure Timestamp where
  nanos : UInt64
  deriving DecidableEq

inductive AtProtoAction
  | create
  | update
  | delete
  deriving DecidableEq

def AtProtoAction.display : AtProtoAction → String
  | .create => "create"
  | .update => "update"
  | .delete => "delete"

-- `to_lowercase` turns no letter outside ASCII into one of these words.
def AtProtoAction.fromStr (s : String) : Except String AtProtoAction :=
  match s.toLower with
  | "create" => .ok .create
  | "update" => .ok .update
  | "delete" => .ok .delete
  | _ => .error ("Invalid action '" ++ s ++ "'. Must be one of: create, update, delete")

structure ScVal where
  xdr : List UInt8
  deriving DecidableEq

structure JsonValue where
  text : String
  deriving DecidableEq

inductive StellarTopicSegment
  | exact (value : ScVal)
  | wildcard
  | restWildcard
  deriving DecidableEq

inductive Trigger
  | cosmosContractEvent (address : CosmosAddr) (chain : ChainKey) (eventType : String)
  | evmContractEvent (address : Address) (chain : ChainKey) (eventHash : FixedBytes 32)
  | stellarContractEvent (chain : ChainKey) (contractId : String)
      (topicSegments : List StellarTopicSegment)
  | blockInterval (chain : ChainKey) (nBlocks : NonZeroU32) (startBlock endBlock : Option NonZeroU64)
  | cron (schedule : String) (startTime endTime : Option Timestamp)
  | atProtoEvent (collection : String) (repoDid : Option String) (action : Option AtProtoAction)
  | manual
  deriving DecidableEq

structure CosmosAttribute where
  key : String
  value : String
  deriving DecidableEq

structure CosmosEvent where
  ty : String
  attributes : List CosmosAttribute
  deriving DecidableEq

structure LogData where
  topics : List (FixedBytes 32)
  data : List UInt8
  deriving DecidableEq

structure CosmosContractEvent where
  contractAddress : CosmosAddr
  chain : ChainKey
  event : CosmosEvent
  blockHeight : UInt64
  eventIndex : UInt64
  deriving DecidableEq

structure EvmContractEvent where
  chain : ChainKey
  contractAddress : Address
  logData : LogData
  txHash : FixedBytes 32
  blockNumber : UInt64
  logIndex : UInt64
  blockHash : FixedBytes 32
  blockTimestamp : Option UInt64
  txIndex : UInt64
  deriving DecidableEq

structure StellarContractEvent where
  chain : ChainKey
  contractId : String
  eventType : String
  ledger : UInt32
  ledgerClosedAt : String
  eventId : String
  operationIndex : Option UInt32
  transactionIndex : Option UInt32
  txHash : String
  topicSegments : List String
  value : String
  deriving DecidableEq

structure AtProtoEvent where
  sequence : Int64
  timestamp : Int64
  repo : String
  collection : String
  rkey : String
  action : AtProtoAction
  cid : Option String
  record : Option JsonValue
  rev : Option String
  opIndex : Option UInt32
  deriving DecidableEq

inductive TriggerData
  | cosmosContractEvent (event : CosmosContractEvent)
  | evmContractEvent (event : EvmContractEvent)
  | stellarContractEvent (event : StellarContractEvent)
  | blockInterval (chain : ChainKey) (blockHeight : UInt64)
  | cron (triggerTime : Timestamp)
  | atProtoEvent (event : AtProtoEvent)
  | raw (data : List UInt8)
  deriving DecidableEq

structure TriggerConfig where
  serviceId : ServiceId
  workflowId : WorkflowId
  trigger : Trigger
  deriving DecidableEq

structure TriggerAction where
  config : TriggerConfig
  data : TriggerData
  deriving DecidableEq

inductive AllowedHostPermission
  | all
  | only (hosts : List String)
  | none
  deriving DecidableEq

structure Permissions where
  allowedHttpHosts : AllowedHostPermission := .none
  fileSystem : Bool := false
  rawSockets : Bool := false
  dnsResolution : Bool := false
  deriving DecidableEq

structure Registry where
  digest : ComponentDigest
  domain : Option String
  version : Option String
  package : String
  deriving DecidableEq

inductive ComponentSource
  | download (uri : String) (digest : ComponentDigest)
  | registry (registry : Registry)
  | digest (digest : ComponentDigest)
  deriving DecidableEq

structure Component where
  source : ComponentSource
  permissions : Permissions
  fuelLimit : Option UInt64
  timeLimitSeconds : Option UInt64
  config : BTreeMap String String
  envKeys : BTreeMap String Unit
  deriving DecidableEq

inductive Submit
  | none
  | aggregator (component : Component)
  deriving DecidableEq

def Submit.isAggregator : Submit → Bool
  | .none => false
  | .aggregator _ => true

structure Workflow where
  trigger : Trigger
  component : Component
  submit : Submit
  deriving DecidableEq

inductive ServiceStatus
  | active
  | paused
  deriving DecidableEq

inductive SignatureAlgorithm
  | secp256k1
  | ed25519
  deriving DecidableEq

inductive SignaturePrefix
  | eip191
  | sep53
  deriving DecidableEq

structure SignatureKind where
  algorithm : SignatureAlgorithm
  messagePrefix : Option SignaturePrefix
  deriving DecidableEq

def SignatureKind.evmDefault : SignatureKind := ⟨.secp256k1,some .eip191⟩

inductive ServiceManager
  | evm (chain : ChainKey) (address : Address)
  | cosmos (chain : ChainKey) (address : CosmosAddr)
  | stellar (chain : ChainKey) (address : FixedBytes 32)
  deriving DecidableEq

def ServiceManager.chain : ServiceManager → ChainKey
  | .evm chain _ => chain
  | .cosmos chain _ => chain
  | .stellar chain _ => chain

structure Service where
  name : String
  workflows : BTreeMap WorkflowId Workflow
  status : ServiceStatus
  manager : ServiceManager
  signatureKind : SignatureKind
  deriving DecidableEq

structure WasmResponse where
  payload : List UInt8
  ordering : Option UInt64
  eventIdSalt : Option (List UInt8)
  deriving DecidableEq

end Warpdrive.Types
