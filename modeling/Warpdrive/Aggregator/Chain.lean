import Warpdrive.Types.Submission
import Mathlib.Data.List.Infix

/-! What the aggregator asks of the outside and how it fails
(`aggregator/error.rs`, with the calls of `aggregator/validate.rs` and
`aggregator/submit.rs`). Every awaited call is a `Query` with the type of its
answer; the answers come from chains, clients and configuration, and nothing is
assumed about them. Errors of other crates are their debug texts. A block height
keeps the chain whose head it was derived from, which the code does not record:
`observedOn` is there to state where a height comes from, and no computation reads
it. -/
namespace Warpdrive.Aggregator
open Warpdrive.Foundation Warpdrive.Types

structure Height where
  value : UInt64
  observedOn : ChainKey
  deriving DecidableEq

def saturatingSub (a b : UInt64) : UInt64 := if b ≤ a then a - b else 0

inductive ChainKind
  | evm
  | cosmos
  | stellar
  deriving DecidableEq

def ChainKind.text : ChainKind → String
  | .evm => "EVM"
  | .cosmos => "Cosmos"
  | .stellar => "Stellar"

def managerKind : ServiceManager → ChainKind
  | .evm _ _ => .evm
  | .cosmos _ _ => .cosmos
  | .stellar _ _ => .stellar

inductive ChainConfigError
  | expectedEvmChain
  | expectedCosmosChain
  deriving DecidableEq

inductive WavsValidateError
  | invalidSignatureLength
  | invalidSignatureOrder
  | invalidSignature (text : String)
  | insufficientQuorumZero
  | insufficientQuorum (signerWeight thresholdWeight totalWeight : Nat)
  | invalidQuorumParameters
  deriving DecidableEq

/-- An `alloy_contract::Error` of a service-manager call, as the code reads it: an
error of the manager's interface, other revert data, or neither. -/
inductive EvmCallError
  | insufficientQuorum (signerWeight thresholdWeight totalWeight : Nat)
  | decoded (text : String)
  | revert (raw : String)
  | other (text : String)
  deriving DecidableEq

inductive AggregatorError
  | evmClient (text : String)
  | cosmosClient (text : String)
  | sendCommandToDispatcher
  | config (error : ChainConfigError)
  | createEvmClient (text : String)
  | cosmosServiceManagerValidate (error : WavsValidateError)
  | evmServiceManagerValidateKnown (text : String)
  | evmServiceManagerValidateAnyRevert (raw : String)
  | evmServiceManagerValidateUnknown (text : String)
  | insufficientQuorum (signerWeight thresholdWeight totalWeight : String)
  | evmServiceManagerLookup (text : String)
  | blockNumber (text : String)
  | unknownServiceForStellarServiceManager (serviceId : ServiceId)
  | signing (error : SigningError)
  | envelopeDiff (id : QuorumQueueId)
  | stellar (text : String)
  | signerNotRegistered (text : String)
  | missingCredential (chainKind : ChainKind) (chain : ChainKey) (detail : String)
  | missingChainConfig (chain : ChainKey)
  | invalidPacketSignature (text : String)
  | signerUnregisteredAtReceive (chain : ChainKey) (signerPubkeyHex : String) (block : UInt64)
  | receiveValidationChainQuery (chain : ChainKey) (detail : String)
  | emptySubmissionQueue (chainKind : ChainKind)
  | unexpectedEnvelopeKind (expected received : String)
  deriving DecidableEq

inductive Query
  | pinnedReferenceBlock (eventId : EventId)
  | chainConfig (chain : ChainKey)
  | evmQueryClient (chain : ChainKey)
  | ethBlockNumber (chain : ChainKey)
  | getLatestOperatorForSigningKey (chain : ChainKey) (manager signer : Address) (block : Height)
  | getOperatorWeight (chain : ChainKey) (manager operator : Address) (block : Height)
  | cosmosQueryClient (chain : ChainKey)
  | cosmosBlockHeight (chain : ChainKey)
  | warpDriveLatestOperatorForSigningKey (chain : ChainKey) (manager : CosmosAddr) (signer : Address)
  | warpDriveOperatorWeight (chain : ChainKey) (manager : CosmosAddr) (operator : Address)
  | sorobanEnv (chain : ChainKey)
  | stellarRpcClient (chain : ChainKey)
  | getLatestLedger (chain : ChainKey)
  | stellarVerifier (serviceId : ServiceId)
  | checkOneSecp256k1 (chain : ChainKey) (verifier : FixedBytes 32) (envelope : List UInt8)
      (signature : FixedBytes 65) (pubkey : FixedBytes 33) (referenceBlock : UInt32)
  | checkOneEd25519 (chain : ChainKey) (verifier : FixedBytes 32) (envelope : List UInt8)
      (signature : FixedBytes 64) (pubkey : FixedBytes 32) (referenceBlock : UInt32)
  | evmSubmissionClient (chain : ChainKey)
  | cosmosSubmissionClient (chain : ChainKey)
  | credential (chainKind : ChainKind)
  | signingClientConfig (chain : ChainKey)
  | newEvmSigningClient (chain : ChainKey)
  | newCosmosSigningClient (chain : ChainKey)
  | parseStellarCredential
  | getServiceManager (chain : ChainKey) (handler : Address)
  | evmValidate (chain : ChainKey) (manager : Address) (envelope : EvmEnvelope)
      (signatureData : SignatureData) (reference : Height)
  | sendEnvelopeSignatures (chain : ChainKey) (envelope : Envelope) (signatureData : SignatureData)
      (handler : Address) (gasPrice : Option Nat)
  | warpDriveServiceManager (chain : ChainKey) (handler : CosmosAddr)
  | warpDriveValidate (chain : ChainKey) (manager : CosmosAddr) (envelope : EvmEnvelope)
      (signatureData : SignatureData) (reference : Height)
  | warpDriveHandleSignedEnvelope (chain : ChainKey) (handler : CosmosAddr) (envelope : EvmEnvelope)
      (signatureData : SignatureData)
  | verifyEth (chain : ChainKey) (handler : FixedBytes 32) (envelope : List UInt8)
      (signers : List (FixedBytes 33)) (signatures : List (FixedBytes 65)) (referenceBlock : UInt32)
  | verifyXlm (chain : ChainKey) (handler : FixedBytes 32) (envelope : List UInt8)
      (signers : List (FixedBytes 32)) (signatures : List (FixedBytes 64)) (referenceBlock : UInt32)
  deriving DecidableEq

@[reducible] def Query.Answer : Query → Type
  | .pinnedReferenceBlock _ => Option Height
  | .chainConfig _ => Option ChainKind
  | .evmQueryClient _ => Except String Unit
  | .ethBlockNumber _ => Except String UInt64
  | .getLatestOperatorForSigningKey _ _ _ _ => Except String Address
  | .getOperatorWeight _ _ _ _ => Except String Nat
  | .cosmosQueryClient _ => Except String Unit
  | .cosmosBlockHeight _ => Except String UInt64
  | .warpDriveLatestOperatorForSigningKey _ _ _ => Except String (Option Address)
  | .warpDriveOperatorWeight _ _ _ => Except String Nat
  | .sorobanEnv _ => Except String Unit
  | .stellarRpcClient _ => Except String Unit
  | .getLatestLedger _ => Except String UInt32
  | .stellarVerifier _ => Option (FixedBytes 32)
  | .checkOneSecp256k1 _ _ _ _ _ _ => Except String Nat
  | .checkOneEd25519 _ _ _ _ _ _ => Except String Nat
  | .evmSubmissionClient _ => Bool
  | .cosmosSubmissionClient _ => Bool
  | .credential _ => Bool
  | .signingClientConfig _ => Except String Unit
  | .newEvmSigningClient _ => Except String Unit
  | .newCosmosSigningClient _ => Except String Unit
  | .parseStellarCredential => Except String Unit
  | .getServiceManager _ _ => Except String Address
  | .evmValidate _ _ _ _ _ => Except EvmCallError Unit
  | .sendEnvelopeSignatures _ _ _ _ _ => Except String (FixedBytes 32)
  | .warpDriveServiceManager _ _ => Except String CosmosAddr
  | .warpDriveValidate _ _ _ _ _ => Except String (Except WavsValidateError Unit)
  | .warpDriveHandleSignedEnvelope _ _ _ _ => Except String String
  | .verifyEth _ _ _ _ _ _ => Except String String
  | .verifyXlm _ _ _ _ _ _ => Except String String

abbrev Fallible := Async Query Query.Answer AggregatorError

abbrev Reply := (query : Query) × query.Answer

def orFail {ε α : Type} (result : Except ε α) (wrap : ε → AggregatorError) : Fallible α :=
  .returned (result.mapError wrap)

def orMissing {α : Type} (value : Option α) (error : AggregatorError) : Fallible α :=
  .returned (value.elim (.error error) .ok)

section Rules

variable {ε α β : Type} (history : History Query.Answer)

@[simp] theorem yields_orFail (result : Except ε α) (wrap : ε → AggregatorError) (value : α) :
    (orFail result wrap).Yields history value ↔ history = [] ∧ result = .ok value := by
  simp [orFail,except_mapError_ok]

@[simp] theorem yields_orFail_bind (result : Except ε α) (wrap : ε → AggregatorError)
    (next : α → Fallible β) (value : β) :
    (orFail result wrap >>= next).Yields history value ↔
      ∃ middle, result = .ok middle ∧ (next middle).Yields history value := by
  cases result with
  | error error => simp [orFail,Except.mapError]
  | ok middle => simp [orFail,Except.mapError]

@[simp] theorem yields_orMissing_bind (given : Option α) (error : AggregatorError)
    (next : α → Fallible β) (value : β) :
    (orMissing given error >>= next).Yields history value ↔
      ∃ middle, given = some middle ∧ (next middle).Yields history value := by
  cases given with
  | none => simp [orMissing]
  | some found => simp [orMissing]

@[simp] theorem reaches_orFail_bind (result : Except ε α) (wrap : ε → AggregatorError)
    (next : α → Fallible β) : (orFail result wrap >>= next).Reaches history ↔
      history = [] ∨ ∃ middle, result = .ok middle ∧ (next middle).Reaches history := by
  rw [Async.reaches_bind]
  simp [orFail,except_mapError_ok]

@[simp] theorem reaches_orMissing_bind (given : Option α) (error : AggregatorError)
    (next : α → Fallible β) : (orMissing given error >>= next).Reaches history ↔
      history = [] ∨ ∃ middle, given = some middle ∧ (next middle).Reaches history := by
  rw [Async.reaches_bind]
  cases given with
  | none => simp [orMissing]
  | some found => simp [orMissing]

omit history in
@[simp] theorem avoids_orFail (bad : Query → Prop) (result : Except ε α) (wrap : ε → AggregatorError) :
    (orFail result wrap).Avoids bad := trivial

omit history in
@[simp] theorem avoids_orFail_bind (bad : Query → Prop) (result : Except ε α) (wrap : ε → AggregatorError)
    (next : α → Fallible β) : (orFail result wrap >>= next).Avoids bad ↔
      ∀ middle, result = .ok middle → (next middle).Avoids bad := by
  cases result with
  | error error => simp [orFail,Except.mapError,Async.Avoids]
  | ok middle => simp [orFail,Except.mapError]

omit history in
@[simp] theorem avoids_orMissing_bind (bad : Query → Prop) (given : Option α) (error : AggregatorError)
    (next : α → Fallible β) : (orMissing given error >>= next).Avoids bad ↔
      ∀ middle, given = some middle → (next middle).Avoids bad := by
  cases given with
  | none => simp [orMissing,Async.Avoids]
  | some found => simp [orMissing]

end Rules

/-- Whether `text` occurs in a string, `str::contains`. -/
def contains (text part : String) : Bool := decide (part.toList <:+: text.toList)

/-! ## What the dispatcher is sent -/

inductive AnyTxHash
  | evm (bytes : List UInt8)
  | cosmos (txHash : String)
  | stellar (txHash : String)

/-- The result of a submit callback keeps the error whose text is sent. -/
inductive AggregatorExecuteKind
  | standard
  | timerCallback
  | submitCallback (result : Except AggregatorError AnyTxHash)

/-- The one command that the aggregator sends to the dispatcher. -/
structure AggregatorExecute where
  submission : Submission
  service : Service
  kind : AggregatorExecuteKind

/-- The pin that an answer reports, with its event. -/
def pinRead : Reply → Option (EventId × Option Height)
  | ⟨.pinnedReferenceBlock eventId,pinned⟩ => some (eventId,pinned)
  | _ => none

/-- The pin that an answer reports is the stored one. Every other answer is the
outside's. -/
def Truthful (pins : WavsDbTable EventId Height) (reply : Reply) : Prop :=
  ∀ read ∈ pinRead reply, pins.getCloned read.1 = read.2

instance decidableTruthful (pins : WavsDbTable EventId Height) (reply : Reply) :
    Decidable (Truthful pins reply) :=
  inferInstanceAs (Decidable (∀ read ∈ pinRead reply, pins.getCloned read.1 = read.2))

theorem truthful_pin (pins : WavsDbTable EventId Height) (eventId : EventId) (pinned : Option Height) :
    Truthful pins ⟨.pinnedReferenceBlock eventId,pinned⟩ ↔ pins.getCloned eventId = pinned := by
  simp [Truthful,pinRead]

end Warpdrive.Aggregator
