import Warpdrive.Foundation.Json
import Warpdrive.Types.ManagerId
import Warpdrive.Types.Service

/-! The JSON of a service definition (`types/src/service.rs`, `bytes.rs`, `id`). What other crates write for a Cosmos
address, a Stellar contract and an `ScVal` is given by codecs. -/
namespace Warpdrive.Types

open Warpdrive.Foundation

def uint64 : Codec UInt64 :=
  (Codec.below (2^64)).equiv (fun value => ⟨value.toNat,value.toNat_lt⟩) (fun value => .ofNat value.1)
    (fun _ => UInt64.ofNat_toNat)

def uint32 : Codec UInt32 :=
  (Codec.below (2^32)).equiv (fun value => ⟨value.toNat,value.toNat_lt⟩) (fun value => .ofNat value.1)
    (fun _ => UInt32.ofNat_toNat)

theorem uint64_present (value : UInt64) : uint64.write value ≠ .null := by
  intro null
  cases null

def nonZeroU64 : Codec NonZeroU64 := uint64.subtype (fun value => value ≠ 0)

def nonZeroU32 : Codec NonZeroU32 := uint32.subtype (fun value => value ≠ 0)

theorem nonZeroU64_present (value : NonZeroU64) : nonZeroU64.write value ≠ .null := uint64_present value.1

def Timestamp.codec : Codec Timestamp := uint64.equiv Timestamp.nanos Timestamp.mk (fun _ => rfl)

theorem Timestamp.codec_present (value : Timestamp) : Timestamp.codec.write value ≠ .null := uint64_present value.nanos

theorem text_present (value : String) : Codec.text.write value ≠ .null := by
  intro null
  cases null

def ComponentDigest.codec : Codec ComponentDigest :=
  .ofText display (fun text => (fromStr text).toOption) (by
    intro digest
    rw [ComponentDigest.fromStr_display]
    rfl)

def ChainKey.codec : Codec ChainKey :=
  .ofText display (fun text => (new text).toOption) (by
    intro key
    rw [(ChainKey.new_eq_ok key.display key).mpr rfl]
    rfl)

/-- An `alloy_primitives::Address` or a `ByteArray`. -/
def FixedBytes.codec (n : Nat) : Codec (FixedBytes n) :=
  .ofText (fun bytes => "0x" ++ hexEncode bytes.toList) (fun text => (decodeToSlice n (utf8 text)).toOption) (by
    intro bytes
    have marker : utf8 "0x" = [48,120] := by rfl
    have plain := decodeToSlice_hexEncode bytes
    have encoded := utf8_hexEncode bytes.toList
    have size : (utf8 (hexEncode bytes.toList)).length = 2 * n := by
      rw [encoded]
      simp [bytes.size,Nat.mul_comm]
    have marked : decodeToSlice n (utf8 ("0x" ++ hexEncode bytes.toList)) = .ok bytes := by
      unfold decodeToSlice at plain ⊢
      rw [encoded,stripMarker_encoded,← encoded] at plain
      rw [utf8_append,marker,List.cons_append,List.cons_append,List.nil_append,stripMarker]
      rw [if_neg (by omega)] at plain
      rw [if_neg (by simp only [List.length_cons]; omega)]
      exact plain
    rw [marked]
    rfl)

section maps

variable {K V : Type} [LT K]

/-- A `BTreeMap` as an object. -/
def writeMap (keyText : K → String) (writeValue : V → Json) (map : BTreeMap K V) : Json :=
  .object (map.entries.map (fun entry => (keyText entry.1,writeValue entry.2)))

variable [DecidableLT K] [IsStrictTotalOrder K (· < ·)]

/-- The last of the members with a key counts. -/
def readMap (readKey : String → Option K) (readValue : Json → Option V) : Json → Option (BTreeMap K V)
  | .object members => (Json.members readKey readValue members).map BTreeMap.ofIter
  | _ => none

end maps

def BTreeMap.mapValues {K V W : Type} [LT K] (self : BTreeMap K V) (f : V → W) : BTreeMap K W where
  entries := self.entries.map (fun entry => (entry.1,f entry.2))
  ascending := by
    rw [List.pairwise_map]
    exact self.ascending

theorem readMap_writeMap {K V W : Type} [LT K] [DecidableLT K] [IsStrictTotalOrder K (· < ·)] (keyText : K → String)
    (readKey : String → Option K) (write : V → Json) (read : Json → Option W) (back : V → W) (map : BTreeMap K V)
    (keys : ∀ key, readKey (keyText key) = some key)
    (values : ∀ entry ∈ map.entries, read (write entry.2) = some (back entry.2)) :
    readMap readKey read (writeMap keyText write map) = some (map.mapValues back) := by
  have taken := Json.members_map keyText write back map.entries (fun entry _ => keys entry.1) values
  rw [writeMap,readMap,taken,Option.map_some]
  exact congrArg some (BTreeMap.ofIter_entries (map.mapValues back))

theorem BTreeMap.get_mapValues {K V W : Type} [LT K] [DecidableEq K] (self : BTreeMap K V) (f : V → W) (key : K) :
    (self.mapValues f).get key = (self.get key).map f := by
  change (self.entries.map (fun entry => (entry.1,f entry.2))).lookup key = (self.entries.lookup key).map f
  induction self.entries with
  | nil => rfl
  | cons entry entries ih =>
    rw [List.map_cons,List.lookup_cons,List.lookup_cons,ih]
    cases key == entry.1 <;> rfl

theorem BTreeMap.mem_insert_entries {K V : Type} [LT K] [DecidableLT K] [IsStrictTotalOrder K (· < ·)]
    (self : BTreeMap K V) (key : K) (value : V) :
    ∀ entry ∈ (self.insert key value).entries, entry = (key,value) ∨ entry ∈ self.entries := by
  intro entry member
  simp only [BTreeMap.insert,List.mem_append,List.mem_filter,List.mem_cons] at member
  rcases member with ⟨held,_⟩ | rfl | ⟨held,_⟩
  · exact .inr held
  · exact .inl rfl
  · exact .inr held

theorem BTreeMap.mem_ofIter {K V : Type} [LT K] [DecidableLT K] [IsStrictTotalOrder K (· < ·)] (items : List (K × V)) :
    ∀ entry ∈ (BTreeMap.ofIter items).entries, entry ∈ items := by
  have grown : ∀ (items : List (K × V)) (map : BTreeMap K V),
      ∀ entry ∈ (items.foldl (fun map item => map.insert item.1 item.2) map).entries,
        entry ∈ map.entries ∨ entry ∈ items := by
    intro items
    induction items with
    | nil => exact fun map entry member => .inl member
    | cons item items ih =>
      intro map entry member
      rcases ih _ entry member with before | later
      · rcases BTreeMap.mem_insert_entries map item.1 item.2 entry before with rfl | held
        · exact .inr List.mem_cons_self
        · exact .inl held
      · exact .inr (List.mem_cons_of_mem item later)
  intro entry member
  simpa using grown items _ entry member

theorem readMap_values {K V : Type} [LT K] [DecidableLT K] [IsStrictTotalOrder K (· < ·)] (readKey : String → Option K)
    (read : Json → Option V) (json : Json) (map : BTreeMap K V) (taken : readMap readKey read json = some map) :
    ∀ entry ∈ map.entries, ∃ json, read json = some entry.2 := by
  cases json with
  | object members =>
    simp only [readMap,Option.map_eq_some_iff] at taken
    obtain ⟨pairs,taken,rfl⟩ := taken
    intro entry member
    exact Json.members_read members pairs taken entry (BTreeMap.mem_ofIter pairs entry member)
  | _ => cases taken

def stringMap : Codec (BTreeMap String String) where
  write := writeMap id Codec.text.write
  read := readMap some Codec.text.read
  read_write map := by
    have taken := readMap_writeMap id some Codec.text.write Codec.text.read id map (fun _ => rfl)
      (fun entry _ => Codec.text.read_write entry.2)
    rw [taken]
    simp [BTreeMap.mapValues]

/-- A `BTreeSet` of strings as an array. -/
def stringSet : Codec (BTreeMap String Unit) where
  write keys := Codec.text.list.write (keys.entries.map Prod.fst)
  read json := (Codec.text.list.read json).map (fun keys => BTreeMap.ofIter (keys.map (fun key => (key,()))))
  read_write keys := by
    rw [Codec.read_write,Option.map_some,List.map_map]
    have same : keys.entries.map ((fun key => (key,())) ∘ Prod.fst) = keys.entries := by
      conv_rhs => rw [← List.map_id keys.entries]
      rfl
    rw [same,BTreeMap.ofIter_entries]

def AllowedHostPermission.codec : Codec AllowedHostPermission where
  write
    | .all => .string "all"
    | .only hosts => .object [("only",Codec.text.list.write hosts)]
    | .none => .string "none"
  read := Json.firstOf [Json.unit .all "all",fun json => (json.variant Codec.text.list.read "only").map .only,
    Json.unit .none "none"]
  read_write value := by
    cases value <;> simp [Json.unit,Json.variant,Codec.read_write]

def Permissions.codec : Codec Permissions where
  write self := .object [("allowed_http_hosts",AllowedHostPermission.codec.write self.allowedHttpHosts),
    ("file_system",Codec.bool.write self.fileSystem),("raw_sockets",Codec.bool.write self.rawSockets),
    ("dns_resolution",Codec.bool.write self.dnsResolution)]
  read json := do
    let allowedHttpHosts ← json.defaultField AllowedHostPermission.codec.read "allowed_http_hosts" .none
    let fileSystem ← json.defaultField Codec.bool.read "file_system" false
    let rawSockets ← json.defaultField Codec.bool.read "raw_sockets" false
    let dnsResolution ← json.defaultField Codec.bool.read "dns_resolution" false
    return ⟨allowedHttpHosts,fileSystem,rawSockets,dnsResolution⟩
  read_write value := by
    simp [Json.defaultField,Json.fields,Codec.read_write]

def optionalText : Codec (Option String) := Codec.text.option text_present

def optionalU64 : Codec (Option UInt64) := uint64.option uint64_present

def Registry.codec : Codec Registry where
  write self := .object [("digest",ComponentDigest.codec.write self.digest),("domain",optionalText.write self.domain),
    ("version",optionalText.write self.version),("package",Codec.text.write self.package)]
  read json := do
    let digest ← json.field ComponentDigest.codec.read "digest"
    let domain ← json.defaultField optionalText.read "domain" none
    let version ← json.defaultField optionalText.read "version" none
    let package ← json.field Codec.text.read "package"
    return ⟨digest,domain,version,package⟩
  read_write value := by
    simp [Json.field,Json.defaultField,Json.fields,Codec.read_write]

def ComponentSource.codec : Codec ComponentSource where
  write
    | .download uri hash => .object [("download",.object [("uri",Codec.text.write uri),
        ("digest",ComponentDigest.codec.write hash)])]
    | .registry value => .object [("registry",Registry.codec.write value)]
    | .digest value => .object [("digest",ComponentDigest.codec.write value)]
  read := Json.firstOf [
    Json.variant (fun body => do
      let uri ← body.field Codec.text.read "uri"
      let digest ← body.field ComponentDigest.codec.read "digest"
      return .download uri digest) "download",
    Json.variant (fun body => (Registry.codec.read body).map .registry) "registry",
    Json.variant (fun body => (ComponentDigest.codec.read body).map .digest) "digest"]
  read_write value := by
    cases value <;> simp [Json.variant,Json.field,Json.fields,Codec.read_write]

def Component.codec : Codec Component where
  write self := .object [("source",ComponentSource.codec.write self.source),
    ("permissions",Permissions.codec.write self.permissions),("fuel_limit",optionalU64.write self.fuelLimit),
    ("time_limit_seconds",optionalU64.write self.timeLimitSeconds),("config",stringMap.write self.config),
    ("env_keys",stringSet.write self.envKeys)]
  read json := do
    let source ← json.field ComponentSource.codec.read "source"
    let permissions ← json.field Permissions.codec.read "permissions"
    let fuelLimit ← json.defaultField optionalU64.read "fuel_limit" none
    let timeLimitSeconds ← json.defaultField optionalU64.read "time_limit_seconds" none
    let config ← json.field stringMap.read "config"
    let envKeys ← json.field stringSet.read "env_keys"
    return ⟨source,permissions,fuelLimit,timeLimitSeconds,config,envKeys⟩
  read_write value := by
    simp [Json.field,Json.defaultField,Json.fields,Codec.read_write]

def ServiceStatus.codec : Codec ServiceStatus where
  write
    | .active => .string "active"
    | .paused => .string "paused"
  read := Json.firstOf [Json.unit .active "active",Json.unit .paused "paused"]
  read_write value := by
    cases value <;> rfl

def SignatureAlgorithm.codec : Codec SignatureAlgorithm where
  write
    | .secp256k1 => .string "secp256k1"
    | .ed25519 => .string "ed25519"
  read := Json.firstOf [Json.unit .secp256k1 "secp256k1",Json.unit .ed25519 "ed25519"]
  read_write value := by
    cases value <;> rfl

def SignaturePrefix.codec : Codec SignaturePrefix where
  write
    | .eip191 => .string "eip191"
    | .sep53 => .string "sep53"
  read := Json.firstOf [Json.unit .eip191 "eip191",Json.unit .sep53 "sep53"]
  read_write value := by
    cases value <;> rfl

theorem SignaturePrefix.codec_present (value : SignaturePrefix) : codec.write value ≠ .null := by
  cases value <;> simp [codec]

def SignatureKind.codec : Codec SignatureKind where
  write self := .object [("algorithm",SignatureAlgorithm.codec.write self.algorithm),
    ("prefix",(SignaturePrefix.codec.option SignaturePrefix.codec_present).write self.messagePrefix)]
  read json := do
    let algorithm ← json.field SignatureAlgorithm.codec.read "algorithm"
    let messagePrefix ← json.defaultField (SignaturePrefix.codec.option SignaturePrefix.codec_present).read "prefix" none
    return ⟨algorithm,messagePrefix⟩
  read_write value := by
    simp [Json.field,Json.defaultField,Json.fields,Codec.read_write]

def Submit.codec : Codec Submit where
  write
    | .none => .string "none"
    | .aggregator component => .object [("aggregator",.object [("component",Component.codec.write component)])]
  read := Json.firstOf [Json.unit .none "none",
    fun json => (json.variant (Json.field Component.codec.read "component") "aggregator").map .aggregator]
  read_write value := by
    cases value <;> simp [Json.unit,Json.variant,Json.field,Json.fields,Codec.read_write]

def WorkflowId.readKey (name : String) : Option WorkflowId := (WorkflowId.new name).toOption

theorem WorkflowId.readKey_text (id : WorkflowId) : readKey id.text = some id := by
  have made : new id.text = .ok id := by
    unfold new
    split
    next error failed =>
      rw [id.valid] at failed
      cases failed
    next => rfl
  rw [readKey,made]
  rfl

/-- How other crates write their types. -/
structure Formats where
  cosmosAddr : Codec CosmosAddr
  contract : Codec (FixedBytes 32)
  scVal : Codec ScVal

namespace Formats

variable (formats : Formats)

def topicSegment : Codec StellarTopicSegment where
  write
    | .exact value => .object [("exact",formats.scVal.write value)]
    | .wildcard => .string "wildcard"
    | .restWildcard => .string "rest_wildcard"
  read := Json.firstOf [fun json => (json.variant formats.scVal.read "exact").map .exact,
    Json.unit .wildcard "wildcard",Json.unit .restWildcard "rest_wildcard"]
  read_write value := by
    cases value <;> simp [Json.unit,Json.variant,Codec.read_write]

def atProtoAction : Codec AtProtoAction where
  write action := .string action.display
  read := Json.firstOf [Json.unit .create "create",Json.unit .update "update",Json.unit .delete "delete"]
  read_write value := by
    cases value <;> rfl

theorem atProtoAction_present (value : AtProtoAction) : atProtoAction.write value ≠ .null := by
  intro null
  cases null

def readCosmosContractEvent (body : Json) : Option Trigger := do
  let address ← body.field formats.cosmosAddr.read "address"
  let chain ← body.field ChainKey.codec.read "chain"
  let eventType ← body.field Codec.text.read "event_type"
  return .cosmosContractEvent address chain eventType

def readEvmContractEvent (body : Json) : Option Trigger := do
  let address ← body.field (FixedBytes.codec 20).read "address"
  let chain ← body.field ChainKey.codec.read "chain"
  let eventHash ← body.field (FixedBytes.codec 32).read "event_hash"
  return .evmContractEvent address chain eventHash

def readStellarContractEvent (body : Json) : Option Trigger := do
  let chain ← body.field ChainKey.codec.read "chain"
  let contractId ← body.field Codec.text.read "contract_id"
  let topicSegments ← body.field formats.topicSegment.list.read "topic_segments"
  return .stellarContractEvent chain contractId topicSegments

def readBlockInterval (body : Json) : Option Trigger := do
  let chain ← body.field ChainKey.codec.read "chain"
  let nBlocks ← body.field nonZeroU32.read "n_blocks"
  let startBlock ← body.defaultField (nonZeroU64.option nonZeroU64_present).read "start_block" none
  let endBlock ← body.defaultField (nonZeroU64.option nonZeroU64_present).read "end_block" none
  return .blockInterval chain nBlocks startBlock endBlock

def readCron (body : Json) : Option Trigger := do
  let schedule ← body.field Codec.text.read "schedule"
  let startTime ← body.defaultField (Timestamp.codec.option Timestamp.codec_present).read "start_time" none
  let endTime ← body.defaultField (Timestamp.codec.option Timestamp.codec_present).read "end_time" none
  return .cron schedule startTime endTime

def readAtProtoEvent (body : Json) : Option Trigger := do
  let collection ← body.field Codec.text.read "collection"
  let repoDid ← body.defaultField optionalText.read "repo_did" none
  let action ← body.defaultField (atProtoAction.option atProtoAction_present).read "action" none
  return .atProtoEvent collection repoDid action

def trigger : Codec Trigger where
  write
    | .cosmosContractEvent address chain eventType => .object [("cosmos_contract_event",.object [
        ("address",formats.cosmosAddr.write address),("chain",ChainKey.codec.write chain),
        ("event_type",Codec.text.write eventType)])]
    | .evmContractEvent address chain eventHash => .object [("evm_contract_event",.object [
        ("address",(FixedBytes.codec 20).write address),("chain",ChainKey.codec.write chain),
        ("event_hash",(FixedBytes.codec 32).write eventHash)])]
    | .stellarContractEvent chain contractId topicSegments => .object [("stellar_contract_event",.object [
        ("chain",ChainKey.codec.write chain),("contract_id",Codec.text.write contractId),
        ("topic_segments",formats.topicSegment.list.write topicSegments)])]
    | .blockInterval chain nBlocks startBlock endBlock => .object [("block_interval",.object [
        ("chain",ChainKey.codec.write chain),("n_blocks",nonZeroU32.write nBlocks),
        ("start_block",(nonZeroU64.option nonZeroU64_present).write startBlock),
        ("end_block",(nonZeroU64.option nonZeroU64_present).write endBlock)])]
    | .cron schedule startTime endTime => .object [("cron",.object [("schedule",Codec.text.write schedule),
        ("start_time",(Timestamp.codec.option Timestamp.codec_present).write startTime),
        ("end_time",(Timestamp.codec.option Timestamp.codec_present).write endTime)])]
    | .atProtoEvent collection repoDid action => .object [("at_proto_event",.object [
        ("collection",Codec.text.write collection),("repo_did",optionalText.write repoDid),
        ("action",(atProtoAction.option atProtoAction_present).write action)])]
    | .manual => .string "manual"
  read := Json.firstOf [
    Json.variant formats.readCosmosContractEvent "cosmos_contract_event",
    Json.variant readEvmContractEvent "evm_contract_event",
    Json.variant formats.readStellarContractEvent "stellar_contract_event",
    Json.variant readBlockInterval "block_interval",
    Json.variant readCron "cron",
    Json.variant readAtProtoEvent "at_proto_event",
    Json.unit .manual "manual"]
  read_write value := by
    cases value with
    | cosmosContractEvent => simp [Json.variant_object,readCosmosContractEvent,Json.field,Json.fields,Codec.read_write]
    | evmContractEvent => simp [Json.variant_object,readEvmContractEvent,Json.field,Json.fields,Codec.read_write]
    | stellarContractEvent => simp [Json.variant_object,readStellarContractEvent,Json.field,Json.fields,Codec.read_write]
    | blockInterval => simp [Json.variant_object,readBlockInterval,Json.field,Json.defaultField,Json.fields,Codec.read_write]
    | cron => simp [Json.variant_object,readCron,Json.field,Json.defaultField,Json.fields,Codec.read_write]
    | atProtoEvent => simp [Json.variant_object,readAtProtoEvent,Json.field,Json.defaultField,Json.fields,Codec.read_write]
    | manual => simp [Json.unit,Json.variant_string]

def manager : Codec ServiceManager where
  write
    | .evm chain address => .object [("evm",.object [("chain",ChainKey.codec.write chain),
        ("address",(FixedBytes.codec 20).write address)])]
    | .cosmos chain address => .object [("cosmos",.object [("chain",ChainKey.codec.write chain),
        ("address",formats.cosmosAddr.write address)])]
    | .stellar chain address => .object [("stellar",.object [("chain",ChainKey.codec.write chain),
        ("address",formats.contract.write address)])]
  read := Json.firstOf [
    Json.variant (fun body => do
      let chain ← body.field ChainKey.codec.read "chain"
      let address ← body.field (FixedBytes.codec 20).read "address"
      return .evm chain address) "evm",
    Json.variant (fun body => do
      let chain ← body.field ChainKey.codec.read "chain"
      let address ← body.field formats.cosmosAddr.read "address"
      return .cosmos chain address) "cosmos",
    Json.variant (fun body => do
      let chain ← body.field ChainKey.codec.read "chain"
      let address ← body.field formats.contract.read "address"
      return .stellar chain address) "stellar"]
  read_write value := by
    cases value <;> simp [Json.variant,Json.field,Json.fields,Codec.read_write]

theorem trigger_unset : formats.trigger.read (.string "unset") = none := by
  simp [trigger,Json.unit,Json.variant]

theorem component_unset : Component.codec.read (.string "unset") = none := by
  simp [Component.codec,Json.field,Json.fields]

theorem submit_unset : Submit.codec.read (.string "unset") = none := by
  simp [Submit.codec,Json.unit,Json.variant]

theorem manager_unset : formats.manager.read (.string "unset") = none := by
  simp [manager,Json.variant]

def workflow : Codec Workflow where
  write self := .object [("trigger",formats.trigger.write self.trigger),
    ("component",Component.codec.write self.component),("submit",Submit.codec.write self.submit)]
  read json := do
    let trigger ← json.field formats.trigger.read "trigger"
    let component ← json.field Component.codec.read "component"
    let submit ← json.field Submit.codec.read "submit"
    return ⟨trigger,component,submit⟩
  read_write value := by
    simp [Json.field,Json.fields,Codec.read_write]

def readService (json : Json) : Option Service := do
  let name ← json.field Codec.text.read "name"
  let workflows ← json.field (readMap WorkflowId.readKey formats.workflow.read) "workflows"
  let status ← json.field ServiceStatus.codec.read "status"
  let manager ← json.field formats.manager.read "manager"
  let signatureKind ← json.field SignatureKind.codec.read "signature_kind"
  return ⟨name,workflows,status,manager,signatureKind⟩

def writeService (self : Service) : Json :=
  .object [("name",Codec.text.write self.name),
    ("workflows",writeMap WorkflowId.text formats.workflow.write self.workflows),
    ("status",ServiceStatus.codec.write self.status),("manager",formats.manager.write self.manager),
    ("signature_kind",SignatureKind.codec.write self.signatureKind)]

/-- A service definition comes back from its JSON. -/
theorem readService_writeService (service : Service) :
    formats.readService (formats.writeService service) = some service := by
  have workflows := readMap_writeMap WorkflowId.text WorkflowId.readKey formats.workflow.write formats.workflow.read id
    service.workflows WorkflowId.readKey_text (fun entry _ => formats.workflow.read_write entry.2)
  have same : service.workflows.mapValues id = service.workflows := by
    simp [BTreeMap.mapValues]
  simp [readService,writeService,Json.field,Json.fields,Codec.read_write,workflows,same]

end Formats
end Warpdrive.Types
