import Warpdrive.Aggregator.Validate

/-! The on-chain attempt for a queue (`aggregator/submit.rs` and the clients that
`handle_submit_action` resolves for it). An attempt takes the reference block pinned
for the event of the oldest submission, or else the block before the head of the
destination, and passes it to the destination's service manager with the sorted
signers. Building and caching a client is one call for each step that can fail. -/
namespace Warpdrive.Aggregator
open Warpdrive.Foundation Warpdrive.Types

variable (prim : Primitives)

inductive AnyTransactionReceipt
  | evm (transactionHash : FixedBytes 32)
  | cosmos (txHash : String)
  | stellar (txHash : String)
  deriving DecidableEq

def getEvmClient (chain : ChainKey) : Fallible Unit := do
  let cached ← Async.request (.evmSubmissionClient chain)
  if cached = true then pure ()
  else
    let credential ← Async.request (.credential .evm)
    orMissing (if credential = true then some () else none)
      (.missingCredential .evm chain "config.aggregator_evm_credential is unset")
    let config ← Async.request (.chainConfig chain)
    let kind ← orMissing config (.missingChainConfig chain)
    orMissing (if kind = .evm then some () else none) (.config .expectedEvmChain)
    let config ← Async.request (.signingClientConfig chain)
    orFail config .evmClient
    let client ← Async.request (.newEvmSigningClient chain)
    orFail client .createEvmClient

def getCosmosClient (chain : ChainKey) : Fallible Unit := do
  let cached ← Async.request (.cosmosSubmissionClient chain)
  if cached = true then pure ()
  else
    let credential ← Async.request (.credential .cosmos)
    orMissing (if credential = true then some () else none)
      (.missingCredential .cosmos chain "config.aggregator_cosmos_credential is unset")
    let config ← Async.request (.chainConfig chain)
    let kind ← orMissing config (.missingChainConfig chain)
    orMissing (if kind = .cosmos then some () else none) (.config .expectedCosmosChain)
    let client ← Async.request (.newCosmosSigningClient chain)
    orFail client .cosmosClient

def getStellarSigningKey (chain : ChainKey) : Fallible Unit := do
  let credential ← Async.request (.credential .stellar)
  orMissing (if credential = true then some () else none)
    (.missingCredential .stellar chain "config.aggregator_stellar_credential is unset")
  let secret ← Async.request .parseStellarCredential
  orFail secret (fun e => .missingCredential .stellar chain ("strkey parse failed: " ++ e))

/-- The reference block of an attempt on a chain, for an event. -/
def attemptReference (chain : ChainKey) (eventId : EventId) (head : Fallible UInt64) : Fallible Height := do
  let pinned ← Async.request (.pinnedReferenceBlock eventId)
  referenceBlock chain pinned head

def evmData (envelope : Envelope) (expected : String) : Fallible EvmEnvelope :=
  match envelope with
  | .evm data => pure data
  | .stellar _ => Async.fail (.unexpectedEnvelopeKind expected "stellar")

def evmValidateError : EvmCallError → AggregatorError
  | .insufficientQuorum signerWeight thresholdWeight totalWeight =>
      .insufficientQuorum (toString signerWeight) (toString thresholdWeight) (toString totalWeight)
  | .decoded text => .evmServiceManagerValidateKnown text
  | .revert raw =>
      if raw = "0x3dda1739" then .signerNotRegistered ("evm " ++ raw)
      else .evmServiceManagerValidateAnyRevert raw
  | .other text => .evmServiceManagerValidateUnknown text

def handleActionSubmitEvm (queue : List Submission) (action : EvmSubmitAction) :
    Fallible AnyTransactionReceipt := do
  let first ← orMissing queue.head? (.emptySubmissionQueue .evm)
  let manager ← Async.request (.getServiceManager action.chain action.address)
  let manager ← orFail manager .evmServiceManagerLookup
  let block ← attemptReference action.chain first.eventId do
    let current ← Async.request (.ethBlockNumber action.chain)
    orFail current .blockNumber
  let signatures := queue.map (fun queued => queued.envelopeSignature)
  let signatureData ← orFail (first.envelope.evmSignatureData prim signatures block.value) .signing
  let envelope ← evmData first.envelope "evm"
  let validated ← Async.request (.evmValidate action.chain manager envelope signatureData block)
  orFail validated evmValidateError
  let receipt ← Async.request (.sendEnvelopeSignatures action.chain first.envelope signatureData
    action.address action.gasPrice)
  let hash ← orFail receipt .evmClient
  pure (.evm hash)

def cosmosValidateError : WavsValidateError → AggregatorError
  | .insufficientQuorum signerWeight thresholdWeight totalWeight =>
      .insufficientQuorum (toString signerWeight) (toString thresholdWeight) (toString totalWeight)
  | error => .cosmosServiceManagerValidate error

def handleActionSubmitCosmos (queue : List Submission) (action : CosmosSubmitAction) :
    Fallible AnyTransactionReceipt := do
  let first ← orMissing queue.head? (.emptySubmissionQueue .cosmos)
  let manager ← Async.request (.warpDriveServiceManager action.chain action.address)
  let manager ← orFail manager .cosmosClient
  let block ← attemptReference action.chain first.eventId do
    let current ← Async.request (.cosmosBlockHeight action.chain)
    orFail current .blockNumber
  let envelope ← evmData first.envelope "evm (for cosmos)"
  let signatures := queue.map (fun queued => queued.envelopeSignature)
  let signatureData ← orFail (first.envelope.evmSignatureData prim signatures block.value) .signing
  let validated ← Async.request (.warpDriveValidate action.chain manager envelope signatureData block)
  let validated ← orFail validated .cosmosClient
  orFail validated cosmosValidateError
  let response ← Async.request (.warpDriveHandleSignedEnvelope action.chain action.address envelope signatureData)
  let txHash ← orFail response .cosmosClient
  pure (.cosmos txHash)

def secp256k1Signer (queued : Submission) : Except AggregatorError (FixedBytes 33 × FixedBytes 65) :=
  match queued.envelopeSignature with
  | .secp256k1 signature _ =>
    match queued.envelopeSignature.secp256k1CompressedPubkey prim queued.envelope with
    | .error error => .error (.stellar ("secp256k1 recovery failed for stellar submit: " ++ error.debug))
    | .ok pubkey => .ok (pubkey,signature)
  | .ed25519 _ _ => .error (.stellar
      "secp256k1 recovery failed for stellar submit, wrong signature kind! (got ed25519)")

def ed25519Signer (queued : Submission) : Except AggregatorError (FixedBytes 32 × FixedBytes 64) :=
  match queued.envelopeSignature with
  | .secp256k1 _ _ => .error (.stellar
      "ed25519 recovery failed for stellar submit, wrong signature kind! (got secp256k1)")
  | .ed25519 signature pubkey => .ok (pubkey,signature)

def mapVerifySorobanError (numSigners : Nat) (error : String) : AggregatorError :=
  if contains error "Error(Contract, #302)" then .signerNotRegistered ("stellar #302: " ++ error)
  else if contains error "Error(Contract, #303)" then
    .insufficientQuorum "unknown" "unknown" (toString numSigners ++ " signature(s) sent")
  else .stellar ("verify_eth failed: " ++ error)

def verifyStellar (algorithm : SignatureAlgorithm) (queue : List Submission) (action : StellarSubmitAction)
    (envelopeBytes : List UInt8) (reference : UInt32) : Fallible AnyTransactionReceipt :=
  match algorithm with
  | .secp256k1 => do
    let signersAndSigs ← orFail (queue.mapM (secp256k1Signer prim)) id
    let sorted := signersAndSigs.insertionSort (fun a b => a.1 ≤ b.1)
    let verified ← Async.request (.verifyEth action.chain action.address envelopeBytes
      (sorted.map Prod.fst) (sorted.map Prod.snd) reference)
    let response ← orFail verified (mapVerifySorobanError sorted.length)
    pure (.stellar response)
  | .ed25519 => do
    let signersAndSigs ← orFail (queue.mapM ed25519Signer) id
    let sorted := signersAndSigs.insertionSort (fun a b => a.1 ≤ b.1)
    let verified ← Async.request (.verifyXlm action.chain action.address envelopeBytes
      (sorted.map Prod.fst) (sorted.map Prod.snd) reference)
    let response ← orFail verified (mapVerifySorobanError sorted.length)
    pure (.stellar response)

def ensureStellarManager (manager : ServiceManager) : Fallible Unit :=
  match manager with
  | .stellar _ _ => pure ()
  | _ => Async.fail (.stellar
      ("stellar submit on non-stellar service manager: " ++ prim.debugServiceManager manager))

def handleActionSubmitStellar (service : Service) (queue : List Submission) (action : StellarSubmitAction) :
    Fallible AnyTransactionReceipt := do
  let config ← Async.request (.chainConfig action.chain)
  orMissing (if config = some .stellar then some () else none)
    (.stellar ("no Stellar chain config for " ++ action.chain.display))
  ensureStellarManager prim service.manager
  let first ← orMissing queue.head? (.emptySubmissionQueue .stellar)
  let envelopeBytes ← orFail (first.envelope.encodeData prim)
    (fun e => .stellar ("failed to encode stellar envelope: " ++ e))
  let block ← attemptReference action.chain first.eventId do
    let rpc ← Async.request (.stellarRpcClient action.chain)
    orFail rpc (fun e => .stellar ("failed to build stellar rpc client: " ++ e))
    let ledger ← Async.request (.getLatestLedger action.chain)
    let ledger ← orFail ledger .blockNumber
    pure ledger.toUInt64
  let env ← Async.request (.sorobanEnv action.chain)
  orFail env (fun e => .stellar ("soroban env: " ++ e))
  verifyStellar prim service.signatureKind.algorithm queue action envelopeBytes block.value.toUInt32

/-- The closure that `handle_submit_action` runs inside the chain's transaction. -/
def attempt (service : Service) (queue : List Submission) : SubmitAction → Fallible AnyTransactionReceipt
  | .evm action => do
    getEvmClient action.chain
    handleActionSubmitEvm prim queue action
  | .cosmos action => do
    getCosmosClient action.chain
    handleActionSubmitCosmos prim queue action
  | .stellar action => do
    getStellarSigningKey action.chain
    handleActionSubmitStellar prim service queue action

/-! ## The reference block of an attempt -/

/-- The block that a call hands to the destination's validation. -/
def Query.validateReference : Query → Option Height
  | .evmValidate _ _ _ _ reference => some reference
  | .warpDriveValidate _ _ _ _ reference => some reference
  | _ => none

/-- The call is a validation at the destination. -/
def Query.Validates (query : Query) : Prop := query.validateReference.isSome

theorem getEvmClient_avoids (chain : ChainKey) : (getEvmClient chain).Avoids Query.Validates := by
  simp only [getEvmClient,Async.request_bind,Async.Avoids]
  refine ⟨by simp [Query.Validates,Query.validateReference],?_⟩
  intro cached
  split
  · trivial
  · simp [Async.Avoids,Query.Validates,Query.validateReference]

theorem getCosmosClient_avoids (chain : ChainKey) : (getCosmosClient chain).Avoids Query.Validates := by
  simp only [getCosmosClient,Async.request_bind,Async.Avoids]
  refine ⟨by simp [Query.Validates,Query.validateReference],?_⟩
  intro cached
  split
  · trivial
  · simp [Async.Avoids,Query.Validates,Query.validateReference]

theorem getStellarSigningKey_avoids (chain : ChainKey) :
    (getStellarSigningKey chain).Avoids Query.Validates := by
  simp [getStellarSigningKey,Async.Avoids,Query.Validates,Query.validateReference]

theorem referenceBlock_avoids (chain : ChainKey) (pinned : Option Height) (head : Fallible UInt64)
    (avoids : head.Avoids Query.Validates) : (referenceBlock chain pinned head).Avoids Query.Validates := by
  cases pinned with
  | some block => trivial
  | none => exact Async.avoids_bind _ head _ avoids (fun _ => trivial)

theorem attemptReference_avoids (chain : ChainKey) (eventId : EventId) (head : Fallible UInt64)
    (avoids : head.Avoids Query.Validates) :
    (attemptReference chain eventId head).Avoids Query.Validates := by
  simp only [attemptReference,Async.request_bind,Async.Avoids]
  exact ⟨by simp [Query.Validates,Query.validateReference],
    fun pinned => referenceBlock_avoids chain pinned head avoids⟩

theorem attemptReference_yields (chain : ChainKey) (eventId : EventId) (head : Fallible UInt64)
    (history : History Query.Answer) (block : Height)
    (yields : (attemptReference chain eventId head).Yields history block) :
    ∃ pinned later, history = ⟨.pinnedReferenceBlock eventId,pinned⟩::later ∧ Referenced chain pinned block := by
  simp only [attemptReference,Async.request_bind,Async.yields_await] at yields
  obtain ⟨pinned,later,split,yields⟩ := yields
  refine ⟨pinned,later,split,?_⟩
  rcases referenceBlock_yields chain pinned head later block yields with ⟨found,_⟩ | ⟨none,_,_,same⟩
  · exact .inl found
  · refine .inr ⟨none,?_⟩
    rw [same]

theorem verifyStellar_avoids (algorithm : SignatureAlgorithm) (queue : List Submission)
    (action : StellarSubmitAction) (envelopeBytes : List UInt8) (reference : UInt32) :
    (verifyStellar prim algorithm queue action envelopeBytes reference).Avoids Query.Validates := by
  cases algorithm with
  | secp256k1 => simp [verifyStellar,Async.Avoids,Query.Validates,Query.validateReference]
  | ed25519 => simp [verifyStellar,Async.Avoids,Query.Validates,Query.validateReference]

theorem handleActionSubmitStellar_avoids (service : Service) (queue : List Submission)
    (action : StellarSubmitAction) :
    (handleActionSubmitStellar prim service queue action).Avoids Query.Validates := by
  simp only [handleActionSubmitStellar,Async.request_bind,Async.Avoids,avoids_orMissing_bind]
  refine ⟨by simp [Query.Validates,Query.validateReference],?_⟩
  intro config _ _
  apply Async.avoids_bind
  · unfold ensureStellarManager
    split <;> trivial
  · intro _
    simp only [avoids_orMissing_bind,avoids_orFail_bind]
    intro first _ envelopeBytes _
    apply Async.avoids_bind
    · apply attemptReference_avoids
      simp [Async.Avoids,Query.Validates,Query.validateReference]
    · intro block
      simp only [Async.Avoids,avoids_orFail_bind]
      exact ⟨by simp [Query.Validates,Query.validateReference],
        fun _ _ _ => verifyStellar_avoids prim _ queue action envelopeBytes _⟩

/-- Every validation call of the history takes the block that the history's own read
of the pin gives it. -/
def ReferencesFrom (queue : List Submission) (chain : ChainKey) (history : History Query.Answer) : Prop :=
  ∀ reply ∈ history, ∀ reference, reply.1.validateReference = some reference →
    ∃ first pinned, queue.head? = some first ∧
      (⟨.pinnedReferenceBlock first.eventId,pinned⟩ : Reply) ∈ history ∧ Referenced chain pinned reference

section References

variable (queue : List Submission) (chain : ChainKey)

theorem ReferencesFrom.of_avoids (history : History Query.Answer)
    (silent : ∀ reply ∈ history, ¬ reply.1.Validates) : ReferencesFrom queue chain history := by
  intro reply member reference found
  refine absurd ?_ (silent reply member)
  simp [Query.Validates,found]

theorem ReferencesFrom.append (early late : History Query.Answer)
    (silent : ∀ reply ∈ early, ¬ reply.1.Validates) (references : ReferencesFrom queue chain late) :
    ReferencesFrom queue chain (early ++ late) := by
  intro reply member reference found
  rcases List.mem_append.mp member with before | after
  · refine absurd ?_ (silent reply before)
    simp [Query.Validates,found]
  · obtain ⟨first,pinned,head,read,referenced⟩ := references reply after reference found
    exact ⟨first,pinned,head,List.mem_append_right early read,referenced⟩

/-- What makes no validation call may come first. -/
theorem ReferencesFrom.bind {R S : Type} (early : Fallible R) (next : R → Fallible S)
    (silent : early.Avoids Query.Validates)
    (references : ∀ value late, (next value).Reaches late → ReferencesFrom queue chain late)
    (history : History Query.Answer) (reached : (early >>= next).Reaches history) :
    ReferencesFrom queue chain history := by
  have quiet := silent.reaches Query.Validates early
  rcases (Async.reaches_bind early next history).mp reached with inside | ⟨before,after,value,split,yields,later⟩
  · exact .of_avoids queue chain history (quiet history inside)
  · have begun := quiet before (Async.Yields.reaches early before value yields)
    rw [split]
    exact .append queue chain before after begun (references value after later)

/-- The call is a validation at another block. -/
def Query.ValidatesElsewhere (block : Height) (query : Query) : Prop :=
  ∃ reference, query.validateReference = some reference ∧ reference ≠ block

theorem attemptReference_references {R : Type} (first : Submission) (found : queue.head? = some first)
    (head : Fallible UInt64) (avoids : head.Avoids Query.Validates) (rest : Height → Fallible R)
    (only : ∀ block, (rest block).Avoids (Query.ValidatesElsewhere block)) (history : History Query.Answer)
    (reached : (attemptReference chain first.eventId head >>= rest).Reaches history) :
    ReferencesFrom queue chain history := by
  have silent := attemptReference_avoids chain first.eventId head avoids
  rcases (Async.reaches_bind _ _ _).mp reached with early | ⟨before,after,block,split,yields,reached⟩
  · exact .of_avoids queue chain history (silent.reaches _ _ history early)
  · rw [split]
    intro reply member reference validates
    obtain ⟨pinned,later,begun,referenced⟩ := attemptReference_yields chain first.eventId head before block yields
    refine ⟨first,pinned,found,?_,?_⟩
    · rw [begun]
      simp
    · rcases List.mem_append.mp member with earlier | later
      · have none := silent.reaches _ _ before (Async.Yields.reaches _ _ _ yields) reply earlier
        exact absurd (by simp [Query.Validates,validates]) none
      · have same : reference = block := by
          by_contra differ
          exact (only block).reaches _ _ after reached reply later ⟨reference,validates,differ⟩
        rw [same]
        exact referenced

end References

theorem evmData_avoids (bad : Query → Prop) (envelope : Envelope) (expected : String) :
    (evmData envelope expected).Avoids bad := by
  cases envelope with
  | evm data => trivial
  | stellar data => trivial

theorem handleActionSubmitEvm_references (queue : List Submission) (action : EvmSubmitAction)
    (history : History Query.Answer) (reached : (handleActionSubmitEvm prim queue action).Reaches history) :
    ReferencesFrom queue action.chain history := by
  rw [handleActionSubmitEvm,reaches_orMissing_bind] at reached
  rcases reached with none | ⟨first,found,reached⟩
  · rw [none]
    exact .of_avoids queue _ [] (by simp)
  refine ReferencesFrom.bind queue _ _ _ ?_ ?_ history reached
  · simp [Async.request,Async.Avoids,Query.Validates,Query.validateReference]
  intro answered late reached
  refine ReferencesFrom.bind queue _ _ _ (avoids_orFail _ _ _) ?_ late reached
  intro manager late reached
  refine attemptReference_references queue action.chain first found _ ?_ _ ?_ late reached
  · simp [Async.Avoids,Query.Validates,Query.validateReference]
  · intro block
    rw [avoids_orFail_bind]
    intro signatureData _
    refine Async.avoids_bind _ _ _ (evmData_avoids _ _ _) ?_
    intro envelope
    simp [Async.Avoids,Query.ValidatesElsewhere,Query.validateReference]

theorem handleActionSubmitCosmos_references (queue : List Submission) (action : CosmosSubmitAction)
    (history : History Query.Answer) (reached : (handleActionSubmitCosmos prim queue action).Reaches history) :
    ReferencesFrom queue action.chain history := by
  rw [handleActionSubmitCosmos,reaches_orMissing_bind] at reached
  rcases reached with none | ⟨first,found,reached⟩
  · rw [none]
    exact .of_avoids queue _ [] (by simp)
  refine ReferencesFrom.bind queue _ _ _ ?_ ?_ history reached
  · simp [Async.request,Async.Avoids,Query.Validates,Query.validateReference]
  intro answered late reached
  refine ReferencesFrom.bind queue _ _ _ (avoids_orFail _ _ _) ?_ late reached
  intro manager late reached
  refine attemptReference_references queue action.chain first found _ ?_ _ ?_ late reached
  · simp [Async.Avoids,Query.Validates,Query.validateReference]
  · intro block
    refine Async.avoids_bind _ _ _ (evmData_avoids _ _ _) ?_
    intro envelope
    simp [Async.Avoids,Query.ValidatesElsewhere,Query.validateReference]

/-- An attempt on any chain validates at the block its read of the pin gives. -/
theorem attempt_references (service : Service) (queue : List Submission) (action : SubmitAction)
    (history : History Query.Answer) (reached : (attempt prim service queue action).Reaches history) :
    ReferencesFrom queue action.chain history := by
  cases action with
  | evm action =>
    refine ReferencesFrom.bind queue _ _ _ (getEvmClient_avoids action.chain) ?_ history reached
    intro client late reached
    exact handleActionSubmitEvm_references prim queue action late reached
  | cosmos action =>
    refine ReferencesFrom.bind queue _ _ _ (getCosmosClient_avoids action.chain) ?_ history reached
    intro client late reached
    exact handleActionSubmitCosmos_references prim queue action late reached
  | stellar action =>
    apply ReferencesFrom.of_avoids
    refine Async.Avoids.reaches _ _ ?_ history reached
    exact Async.avoids_bind _ _ _ (getStellarSigningKey_avoids action.chain)
      (fun _ => handleActionSubmitStellar_avoids prim service queue action)

end Warpdrive.Aggregator
