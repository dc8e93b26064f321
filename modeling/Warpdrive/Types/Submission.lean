import Warpdrive.Types.EventId
import Warpdrive.Foundation.Async
import Mathlib.Data.Fintype.Basic

/-! Submissions, aggregator actions and quorum queues (`types/src/submission.rs`
and `types/src/aggregator_types.rs`), with the signing of a submission
(`SubmissionManager::sign_request` and `VectrSigner::sign_envelope`), which is where
a local submission gets its event id, its envelope and its signature. A signer is
given by what its key computes. -/
namespace Warpdrive.Types
open Warpdrive.Foundation

def Envelope.evm? : Envelope → Option EvmEnvelope
  | .evm data => some data
  | .stellar _ => none

structure Submission where
  triggerAction : TriggerAction
  operatorResponse : WasmResponse
  eventId : EventId
  envelope : Envelope
  envelopeSignature : WavsSignature
  deriving DecidableEq

namespace Submission

def serviceId (self : Submission) : ServiceId := self.triggerAction.config.serviceId

def workflowId (self : Submission) : WorkflowId := self.triggerAction.config.workflowId

def signer (prim : Primitives) (self : Submission) : Except SigningError ChainAddress :=
  self.envelopeSignature.signerAddress prim self.envelope

/-- The event id field is the id that the trigger and the response derive, and an
EVM envelope carries it. -/
structure Consistent (prim : Primitives) (submission : Submission) : Prop where
  derived : AggregatorInput.eventId prim ⟨submission.triggerAction,submission.operatorResponse⟩ =
    .ok submission.eventId
  enveloped : ∀ data, submission.envelope = .evm data → data.eventId = submission.eventId.bytes

instance decidableConsistent (prim : Primitives) (self : Submission) : Decidable (self.Consistent prim) :=
  decidable_of_iff (AggregatorInput.eventId prim ⟨self.triggerAction,self.operatorResponse⟩ = .ok self.eventId ∧
      ∀ data ∈ self.envelope.evm?, data.eventId = self.eventId.bytes) (by
    constructor
    · intro both
      refine ⟨both.1,?_⟩
      intro data shaped
      exact both.2 data (by rw [shaped]; rfl)
    · intro consistent
      refine ⟨consistent.derived,?_⟩
      intro data shaped
      apply consistent.enveloped
      cases envelope : self.envelope with
      | evm found =>
        rw [envelope] at shaped
        cases shaped
        rfl
      | stellar bytes =>
        rw [envelope] at shaped
        cases shaped)

end Submission

structure EvmSubmitAction where
  chain : ChainKey
  address : Address
  gasPrice : Option Nat
  deriving DecidableEq

structure CosmosSubmitAction where
  chain : ChainKey
  address : CosmosAddr
  gasPrice : Option Nat
  deriving DecidableEq

structure StellarSubmitAction where
  chain : ChainKey
  address : FixedBytes 32
  deriving DecidableEq

inductive SubmitAction
  | evm (action : EvmSubmitAction)
  | cosmos (action : CosmosSubmitAction)
  | stellar (action : StellarSubmitAction)
  deriving DecidableEq

def SubmitAction.chain : SubmitAction → ChainKey
  | .evm action => action.chain
  | .cosmos action => action.chain
  | .stellar action => action.chain

inductive AggregatorAction
  | submit (action : SubmitAction)
  | timer (delaySecs : UInt64)
  deriving DecidableEq

structure QuorumQueueId where
  eventId : EventId
  action : SubmitAction
  deriving DecidableEq

inductive QuorumQueue
  | burned (timestamp : UInt64)
  | active (submissions : List Submission)
  deriving DecidableEq

/-! ## Signing -/

structure SubmissionRequest where
  triggerAction : TriggerAction
  operatorResponse : WasmResponse
  service : Service
  deriving DecidableEq

def SubmissionRequest.eventId (prim : Primitives) (self : SubmissionRequest) : Except String EventId :=
  match self.operatorResponse.eventIdSalt with
  | some salt => EventId.new prim self.triggerAction.config.serviceId
      self.triggerAction.config.workflowId (.wasmResponse salt)
  | none => EventId.new prim self.triggerAction.config.serviceId
      self.triggerAction.config.workflowId (.trigger self.triggerAction.data)

inductive VectrSigner
  | evm (signHash : FixedBytes 32 → Except String (List UInt8))
  | evmNoPrefix (signHash : FixedBytes 32 → Except String (List UInt8))
  | stellar (sign : FixedBytes 32 → FixedBytes 64) (verifyingKey : FixedBytes 32)

def recoverable (signature : List UInt8) : Except String (FixedBytes 65) :=
  if size : signature.length = 65 then .ok ⟨signature,size⟩
  else .error "Recoverable Secp256k1 expects signature length of 65"

def VectrSigner.signEnvelope (prim : Primitives) (self : VectrSigner) (envelope : Envelope) :
    Except String WavsSignature :=
  match self with
  | .evm signHash => do
    let hash ← envelope.prefixEip191Hash prim
    let signature ← recoverable (← signHash hash)
    pure (.secp256k1 signature (some .eip191))
  | .evmNoPrefix signHash => do
    let hash ← envelope.unprefixedHash prim
    let signature ← recoverable (← signHash hash)
    pure (.secp256k1 signature none)
  | .stellar sign verifyingKey => do
    let hash ← envelope.prefixSep53Hash prim
    pure (.ed25519 (sign hash) verifyingKey)

inductive ServicesError
  | unknownService (serviceId : ServiceId)
  | missingChainConfig (chain : ChainKey)
  | stellarChainQuery (chain : ChainKey) (detail : String)
  deriving DecidableEq

inductive SubmissionError
  | missingServiceKey (serviceId : ServiceId)
  | failedToSignEnvelope (error : String)
  | missingEvmSigner (serviceId : ServiceId)
  | failedToCreateEvmSigner (serviceId : ServiceId) (error : String)
  | failedToCreateStellarSigner (serviceId : ServiceId) (error : String)
  | services (error : ServicesError)
  | encodeEventId (error : String)
  | hdIndexOverflow
  | sorobanClient (error : String)
  deriving DecidableEq

def orderingBytes : Option UInt64 → FixedBytes 12
  | some ordering => (EventOrder.newU64 ordering).bytes
  | none => FixedBytes.filled 12 0

def SubmissionRequest.envelope (prim : Primitives) (req : SubmissionRequest) (eventId : EventId) :
    Except SubmissionError Envelope :=
  let payload := req.operatorResponse.payload
  let ordering := orderingBytes req.operatorResponse.ordering
  match req.service.signatureKind.algorithm with
  | .secp256k1 => .ok (.evm ⟨eventId.bytes,ordering,payload⟩)
  | .ed25519 => ((prim.encodeXlmEnvelope payload eventId.bytes ordering).map .stellar).mapError .sorobanClient

def signRequest (prim : Primitives) (signers : ServiceId → Option VectrSigner) (req : SubmissionRequest) :
    Except SubmissionError Submission := do
  let serviceId := req.triggerAction.config.serviceId
  let eventId ← (req.eventId prim).mapError .encodeEventId
  let envelope ← req.envelope prim eventId
  let some signer := signers serviceId
    | throw (.missingEvmSigner serviceId)
  let envelopeSignature ← (signer.signEnvelope prim envelope).mapError .failedToSignEnvelope
  pure ⟨req.triggerAction,req.operatorResponse,eventId,envelope,envelopeSignature⟩

theorem SubmissionRequest.envelope_eventId (prim : Primitives) (req : SubmissionRequest) (eventId : EventId)
    (data : EvmEnvelope) (shaped : req.envelope prim eventId = .ok (.evm data)) :
    data.eventId = eventId.bytes := by
  unfold SubmissionRequest.envelope at shaped
  split at shaped
  · cases shaped
    rfl
  · rw [except_mapError_ok] at shaped
    cases encoded : prim.encodeXlmEnvelope req.operatorResponse.payload eventId.bytes
      (orderingBytes req.operatorResponse.ordering) <;> simp [encoded,Except.map] at shaped

theorem SubmissionRequest.eventId_eq (prim : Primitives) (req : SubmissionRequest) :
    req.eventId prim = AggregatorInput.eventId prim ⟨req.triggerAction,req.operatorResponse⟩ := by
  unfold SubmissionRequest.eventId AggregatorInput.eventId
  cases req.operatorResponse.eventIdSalt with
  | none => rfl
  | some salt => rfl

/-- A submission that the node signs itself is filed under the event of its envelope. -/
theorem signRequest_consistent (prim : Primitives) (signers : ServiceId → Option VectrSigner)
    (req : SubmissionRequest) (submission : Submission)
    (signed : signRequest prim signers req = .ok submission) : submission.Consistent prim := by
  simp only [signRequest,except_bind_ok,except_mapError_ok] at signed
  obtain ⟨eventId,derived,envelope,shaped,signed⟩ := signed
  cases found : signers req.triggerAction.config.serviceId with
  | none => simp [found,throw,throwThe,MonadExceptOf.throw] at signed
  | some signer =>
    simp only [found,except_bind_ok,except_mapError_ok] at signed
    obtain ⟨signature,_,built⟩ := signed
    cases built
    refine ⟨?_,?_⟩
    · rw [← derived,SubmissionRequest.eventId_eq]
    · intro data evm
      subst evm
      exact SubmissionRequest.envelope_eventId prim req eventId data shaped

/-! ## A signed submission

One workflow with a manual trigger, and two operators that sign the same response. The
values are those of the real functions. -/

def raw1 : TriggerAction := ⟨⟨observedService,observedWorkflow,.manual⟩,.raw [1,2,3]⟩

def cafe : WasmResponse := ⟨[0xca,0xfe],none,none⟩

def cafeEvent : EventId := ⟨FixedBytes.ofNat 20 0xb827c303d25355a2ee440662d84b6213e1460b05⟩

def cafeEnvelope : EvmEnvelope := ⟨cafeEvent.bytes,FixedBytes.filled 12 0,[0xca,0xfe]⟩

/-- The ABI encoding of an envelope: an offset, the two fixed fields, the offset of the
payload and the payload with its length. -/
def abiEncodeEnvelope (envelope : EvmEnvelope) : List UInt8 :=
  beBytes 32 0x20 ++ (envelope.eventId.toList ++ List.replicate 12 0) ++
    (envelope.ordering.toList ++ List.replicate 20 0) ++ beBytes 32 0x60 ++
    beBytes 32 envelope.payload.length ++ envelope.payload ++
    List.replicate ((32 - envelope.payload.length % 32) % 32) 0

/-- The last byte of a signature is its parity, plain, offset or replay-protected. -/
def alloySignatureFromRaw (signature : FixedBytes 65) : Except String AlloySignature :=
  let r : FixedBytes 32 := ⟨signature.toList.take 32,by simp [signature.size]⟩
  let s : FixedBytes 32 := ⟨(signature.toList.drop 32).take 32,by simp [signature.size]⟩
  let v := signature.toList.getD 64 0
  if v = 0 ∨ v = 27 then .ok ⟨r,s,false⟩
  else if v = 1 ∨ v = 28 then .ok ⟨r,s,true⟩
  else if v ≥ 35 then .ok ⟨r,s,(v - 35) % 2 = 1⟩
  else .error "invalid parity"

def cafeHash : FixedBytes 32 :=
  FixedBytes.ofNat 32 0x159c35992f3fe56a27048f31185e954a7e5e967379fa881fe2b3b436e949d77f

def cafeEip191Hash : FixedBytes 32 :=
  FixedBytes.ofNat 32 0x889c3422d2bb143aab244a9e367e284e967ffd5dbee3d1c0f1e6d845cca8415b

def operator1 : Address := FixedBytes.ofNat 20 0x19e7e376e7c213b7e7e7e46cc70a5dd086daff2a

def operator2 : Address := FixedBytes.ofNat 20 0x1563915e194d8cfba1943570603f7606a3115508

def signature1 : FixedBytes 65 :=
  FixedBytes.ofNat 65 0x75a83528dce9ecae7bed7de02f9ff090ecbb1b3366df9db66062dee361d6ffe22ef069912db5b8046b5d225b6ec412c8427a00d2fc89a97ff90954e7055488aa1c

def signature2 : FixedBytes 65 :=
  FixedBytes.ofNat 65 0xf6cbe21cd0756dc5c2300dbdc82365f5e297bd8fe06ac50bc60f3a7a6f4dac2f4025de57e4a841dc2cd70c2bd1a28814c3b8d95b4b5ba29044e8296dd72e6f0b1c

/-- The signature of the first operator over the unprefixed hash. -/
def unprefixedSignature1 : FixedBytes 65 :=
  FixedBytes.ofNat 65 0xf13710b0e446e39c43061ac056c7ab785160574d7c50dff7a498dbbfd1ad80584e6b9103e072c8cb569b46dcf7782fc5158d153d1a45cda85b4ddd72b3f3063f1b

def rawEip191 : List UInt8 := utf8 "\x19Ethereum Signed Message:\n32" ++ cafeHash.toList

/-- The recovered address for each signature and hash that occurs. -/
def recoveries : List ((FixedBytes 65 × FixedBytes 32) × Address) :=
  [((signature1,cafeEip191Hash),operator1),((signature2,cafeEip191Hash),operator2),
    ((unprefixedSignature1,cafeHash),operator1),
    ((unprefixedSignature1,cafeEip191Hash),FixedBytes.ofNat 20 0x2f3f9ec14492095918bdb23c24b69396cd67ebcc)]

def deployedPrimitives : Primitives :=
  {observedPrimitives with
    keccak256 := fun bytes =>
      if bytes = abiEncodeEnvelope cafeEnvelope then cafeHash
      else if bytes = rawEip191 then cafeEip191Hash
      else FixedBytes.filled 32 0
    ripemd160 := fun bytes =>
      if bytes = observedService.inner.toList ++ (utf8 "flow1" ++ [6,3,1,2,3]) then cafeEvent.bytes
      else FixedBytes.filled 20 0
    signatureFromRaw := alloySignatureFromRaw
    recoverAddressFromPrehash := fun signature hash =>
      match recoveries.find? (fun entry => entry.1.2 = hash ∧
        (alloySignatureFromRaw entry.1.1).toOption = some signature) with
      | some entry => .ok entry.2
      | none => .error "not looked up"
    abiEncode := abiEncodeEnvelope
    bincodeTriggerData := fun data => if data = .raw [1,2,3] then .ok [6,3,1,2,3] else .error "not looked up"}

def submission1 : Submission :=
  ⟨raw1,cafe,cafeEvent,.evm cafeEnvelope,.secp256k1 signature1 (some .eip191)⟩

def submission2 : Submission :=
  ⟨raw1,cafe,cafeEvent,.evm cafeEnvelope,.secp256k1 signature2 (some .eip191)⟩

def noopComponent : Component where
  source := .digest ⟨FixedBytes.ofNat 32 0x9df6b026a8c6c26e3c3acd2370a16e93fffdc0015ff5bd879218788025db0280⟩
  permissions := {}
  fuelLimit := none
  timeLimitSeconds := none
  config := ⟨[],by decide⟩
  envKeys := ⟨[],by decide⟩

def deployedManager : Address := FixedBytes.ofNat 20 0x5fbdb2315678afecb367f032d93f642f64180aa3

/-- A service with one workflow that submits through the aggregator, whose manager is
on the local chain. -/
def deployedService : Service where
  name := "cafe"
  workflows := ⟨[(observedWorkflow,⟨.manual,noopComponent,.aggregator noopComponent⟩)],by simp⟩
  status := .active
  manager := .evm localChain deployedManager
  signatureKind := .evmDefault

/-- The calls of a schedule over the deployment. -/
inductive Caller
  | first
  | second
  | third
  deriving DecidableEq

instance fintypeCaller : Fintype Caller := ⟨{.first,.second,.third},by intro caller; cases caller <;> decide⟩

def signers1 (_ : ServiceId) : Option VectrSigner :=
  some (.evm (fun hash => if hash = cafeEip191Hash then .ok signature1.toList else .error "not looked up"))

example : signRequest deployedPrimitives signers1 ⟨raw1,cafe,deployedService⟩ = .ok submission1 := by
  decide +kernel

example : submission1.signer deployedPrimitives = .ok (.evm operator1) ∧
    submission2.signer deployedPrimitives = .ok (.evm operator2) := by
  decide +kernel

end Warpdrive.Types
