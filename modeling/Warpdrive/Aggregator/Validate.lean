import Warpdrive.Aggregator.Chain

/-! Receive-time validation of a packet (`aggregator/validate.rs`). A validation
reads the event's pinned block, takes that block or the one before the head of the
manager chain as its reference, and asks the manager's operator set for the signer's
weight. On an EVM or a Stellar manager the operator set is read at the reference
block, and on a Cosmos manager at the current state. -/
namespace Warpdrive.Aggregator
open Warpdrive.Foundation Warpdrive.Types

variable (prim : Primitives)

/-- The pinned block, or else the one before the head of the chain. -/
def referenceBlock (chain : ChainKey) (pinned : Option Height) (head : Fallible UInt64) : Fallible Height :=
  match pinned with
  | some block => pure block
  | none => do
    let current ← head
    pure ⟨saturatingSub current 1,chain⟩

/-- The signer's address, which EVM and Cosmos managers know operators by. -/
def recoverSigner (submission : Submission) (unsupported : String) : Fallible Address :=
  match submission.signer prim with
  | .error error => Async.fail (.invalidPacketSignature error.debug)
  | .ok signer =>
    match signer.tryAsEvm with
    | none => Async.fail (.invalidPacketSignature unsupported)
    | some address => pure address

/-- A weight above zero admits the packet at the reference block. -/
def admitWeight (chain : ChainKey) (signerPubkeyHex : String) (block : Height) (weight : Nat) : Fallible Height :=
  if weight = 0 then Async.fail (.signerUnregisteredAtReceive chain signerPubkeyHex block.value)
  else pure block

def validatePacketEvm (submission : Submission) (managerAddress : Address) (chain : ChainKey)
    (pinned : Option Height) : Fallible Height := do
  let signer ← recoverSigner prim submission "EVM service-manager validation requires a secp256k1 signature"
  let client ← Async.request (.evmQueryClient chain)
  orFail client (fun e => .receiveValidationChainQuery chain ("evm query client: " ++ e))
  let block ← referenceBlock chain pinned do
    let current ← Async.request (.ethBlockNumber chain)
    orFail current (fun e => .receiveValidationChainQuery chain ("eth_blockNumber: " ++ e))
  let operator ← Async.request (.getLatestOperatorForSigningKey chain managerAddress signer block)
  let operator ← orFail operator (fun e => .receiveValidationChainQuery chain
    ("getLatestOperatorForSigningKey at block " ++ toString block.value.toNat ++ ": " ++ e))
  if operator = Address.zero then
    Async.fail (.signerUnregisteredAtReceive chain (prim.debugAddress signer) block.value)
  else do
    let weight ← Async.request (.getOperatorWeight chain managerAddress operator block)
    let weight ← orFail weight (fun e => .receiveValidationChainQuery chain
      ("getOperatorWeight at block " ++ toString block.value.toNat ++ ": " ++ e))
    admitWeight chain (prim.debugAddress signer) block weight

def validatePacketCosmos (submission : Submission) (managerAddress : CosmosAddr) (chain : ChainKey)
    (pinned : Option Height) : Fallible Height := do
  let signer ← recoverSigner prim submission "Cosmos service-manager validation requires a secp256k1 signature"
  let client ← Async.request (.cosmosQueryClient chain)
  orFail client (fun e => .receiveValidationChainQuery chain ("cosmos query client: " ++ e))
  let block ← referenceBlock chain pinned do
    let current ← Async.request (.cosmosBlockHeight chain)
    orFail current (fun e => .receiveValidationChainQuery chain ("block_height: " ++ e))
  let operator ← Async.request (.warpDriveLatestOperatorForSigningKey chain managerAddress signer)
  let operator ← orFail operator (fun e => .receiveValidationChainQuery chain
    ("WarpDriveLatestOperatorForSigningKey: " ++ e))
  let operator ← orMissing operator
    (.signerUnregisteredAtReceive chain (prim.debugAddress signer) block.value)
  let weight ← Async.request (.warpDriveOperatorWeight chain managerAddress operator)
  let weight ← orFail weight (fun e => .receiveValidationChainQuery chain ("WarpDriveOperatorWeight: " ++ e))
  admitWeight chain (prim.debugAddress signer) block weight

/-- The outcome of `check_one`: contract errors 301 and 302 mean that the signer is
not in the operator set. -/
def admitChecked (chain : ChainKey) (signerPubkeyHex : String) (block : Height) :
    Except String Nat → Fallible Height
  | .ok weight => admitWeight chain signerPubkeyHex block weight
  | .error error =>
    if contains error "Error(Contract, #302)" || contains error "Error(Contract, #301)" then
      Async.fail (.signerUnregisteredAtReceive chain signerPubkeyHex block.value)
    else Async.fail (.receiveValidationChainQuery chain ("check_one: " ++ error))

def checkOne (submission : Submission) (chain : ChainKey) (verifier : FixedBytes 32)
    (envelopeBytes : List UInt8) (block : Height) : Fallible Height :=
  match submission.envelopeSignature with
  | .secp256k1 signature _ =>
    match submission.envelopeSignature.secp256k1CompressedPubkey prim submission.envelope with
    | .error error => Async.fail (.signing error)
    | .ok pubkey => do
      let checked ← Async.request (.checkOneSecp256k1 chain verifier envelopeBytes signature pubkey
        block.value.toUInt32)
      admitChecked chain (hexEncode pubkey.toList) block checked
  | .ed25519 signature pubkey => do
    let checked ← Async.request (.checkOneEd25519 chain verifier envelopeBytes signature pubkey
      block.value.toUInt32)
    admitChecked chain (hexEncode pubkey.toList) block checked

def validatePacketStellar (submission : Submission) (chain : ChainKey) (pinned : Option Height) :
    Fallible Height := do
  let config ← Async.request (.chainConfig chain)
  orMissing (if config = some .stellar then some () else none) (.missingChainConfig chain)
  let env ← Async.request (.sorobanEnv chain)
  orFail env (fun e => .receiveValidationChainQuery chain ("soroban env: " ++ e))
  let block ← referenceBlock chain pinned do
    let rpc ← Async.request (.stellarRpcClient chain)
    orFail rpc (fun e => .receiveValidationChainQuery chain ("stellar rpc client: " ++ e))
    let ledger ← Async.request (.getLatestLedger chain)
    let ledger ← orFail ledger (fun e => .receiveValidationChainQuery chain ("get_latest_ledger: " ++ e))
    pure ledger.toUInt64
  let verifier ← Async.request (.stellarVerifier submission.serviceId)
  let verifier ← orMissing verifier (.unknownServiceForStellarServiceManager submission.serviceId)
  let envelopeBytes ← orFail (submission.envelope.encodeData prim)
    (fun e => .invalidPacketSignature ("envelope: " ++ e))
  checkOne prim submission chain verifier envelopeBytes block

def validatePacketAtReceive (submission : Submission) (service : Service) : Fallible Height := do
  let pinned ← Async.request (.pinnedReferenceBlock submission.eventId)
  match service.manager with
  | .stellar chain _ => validatePacketStellar prim submission chain pinned
  | .evm chain address => validatePacketEvm prim submission address chain pinned
  | .cosmos chain address => validatePacketCosmos prim submission address chain pinned

/-! ## What a validation has looked at -/

/-- The block at which a call reads an operator set. -/
def Query.operatorSetBlock : Query → Option UInt64
  | .getLatestOperatorForSigningKey _ _ _ block => some block.value
  | .getOperatorWeight _ _ _ block => some block.value
  | .checkOneSecp256k1 _ _ _ _ _ block => some block.toUInt64
  | .checkOneEd25519 _ _ _ _ _ block => some block.toUInt64
  | _ => none

/-- A call that returned a positive weight. -/
def Weighed : Reply → Prop
  | ⟨.getOperatorWeight _ _ _ _,.ok weight⟩ => weight ≠ 0
  | ⟨.checkOneSecp256k1 _ _ _ _ _ _,.ok weight⟩ => weight ≠ 0
  | ⟨.checkOneEd25519 _ _ _ _ _ _,.ok weight⟩ => weight ≠ 0
  | _ => False

/-- The operator set was read at this block only, and gave the signer weight there. -/
structure ValidatedAt (history : History Query.Answer) (block : UInt64) : Prop where
  only : ∀ reply ∈ history, ∀ read, reply.1.operatorSetBlock = some read → read = block
  weighed : ∃ reply ∈ history, reply.1.operatorSetBlock = some block ∧ Weighed reply

/-- The block that a validation refers to: the pinned one, or one of the chain it is
given. -/
def Referenced (chain : ChainKey) (pinned : Option Height) (block : Height) : Prop :=
  pinned = some block ∨ pinned = none ∧ block.observedOn = chain

theorem referenceBlock_yields (chain : ChainKey) (pinned : Option Height) (head : Fallible UInt64)
    (history : History Query.Answer) (block : Height)
    (yields : (referenceBlock chain pinned head).Yields history block) :
    (pinned = some block ∧ history = []) ∨
      (pinned = none ∧ ∃ current, head.Yields history current ∧ block = ⟨saturatingSub current 1,chain⟩) := by
  cases pinned with
  | some given =>
    simp only [referenceBlock,Async.yields_pure] at yields
    exact .inl ⟨congrArg some yields.2,yields.1⟩
  | none =>
    simp only [referenceBlock,Async.yields_bind,Async.yields_pure] at yields
    obtain ⟨before,after,current,split,head,none,same⟩ := yields
    subst none same
    rw [List.append_nil] at split
    subst split
    exact .inr ⟨rfl,current,head,rfl⟩

theorem admitWeight_yields (chain : ChainKey) (signer : String) (block given : Height) (weight : Nat)
    (history : History Query.Answer) (yields : (admitWeight chain signer given weight).Yields history block) :
    history = [] ∧ weight ≠ 0 ∧ given = block := by
  unfold admitWeight at yields
  split at yields
  · simp at yields
  next positive =>
    simp only [Async.yields_pure] at yields
    exact ⟨yields.1,positive,yields.2⟩

theorem recoverSigner_yields (submission : Submission) (unsupported : String) (address : Address)
    (history : History Query.Answer) (yields : (recoverSigner prim submission unsupported).Yields history address) :
    history = [] ∧ submission.signer prim = .ok (.evm address) := by
  unfold recoverSigner at yields
  split at yields
  · simp at yields
  next signer recovered =>
    split at yields
    · simp at yields
    next evm found =>
      simp only [Async.yields_pure] at yields
      rw [yields.2] at found
      refine ⟨yields.1,?_⟩
      cases signer <;> simp_all [ChainAddress.tryAsEvm]

/-- Calls that read no operator set. -/
def Unread (history : History Query.Answer) : Prop := ∀ reply ∈ history, reply.1.operatorSetBlock = none

theorem ValidatedAt.append_unread (early late : History Query.Answer) (block : UInt64)
    (unread : Unread early) (validated : ValidatedAt late block) : ValidatedAt (early ++ late) block := by
  refine ⟨?_,?_⟩
  · intro reply member read found
    rcases List.mem_append.mp member with before | after
    · rw [unread reply before] at found
      cases found
    · exact validated.only reply after read found
  · obtain ⟨reply,member,weighed⟩ := validated.weighed
    exact ⟨reply,List.mem_append_right early member,weighed⟩

theorem referenceBlock_referenced (chain : ChainKey) (pinned : Option Height) (head : Fallible UInt64)
    (unread : ∀ history current, head.Yields history current → Unread history)
    (history : History Query.Answer) (block : Height)
    (yields : (referenceBlock chain pinned head).Yields history block) :
    Referenced chain pinned block ∧ Unread history := by
  rcases referenceBlock_yields chain pinned head history block yields with
    ⟨found,none⟩ | ⟨none,current,given,same⟩
  · refine ⟨.inl found,?_⟩
    rw [none]
    intro reply member
    cases member
  · refine ⟨.inr ⟨none,?_⟩,unread history current given⟩
    rw [same]

theorem ethHead_unread (chain : ChainKey) (wrap : String → AggregatorError) (history : History Query.Answer)
    (current : UInt64)
    (yields : (Async.await (.ethBlockNumber chain) (fun answer => orFail answer wrap) :
      Fallible UInt64).Yields history current) : Unread history := by
  simp only [Async.yields_await,yields_orFail] at yields
  obtain ⟨answer,later,split,none,found⟩ := yields
  rw [split,none]
  simp [Unread,Query.operatorSetBlock]

/-- An EVM manager admits a packet whose signer has weight at the reference block. -/
theorem validatePacketEvm_yields (submission : Submission) (manager : Address) (chain : ChainKey)
    (pinned : Option Height) (history : History Query.Answer) (block : Height)
    (yields : (validatePacketEvm prim submission manager chain pinned).Yields history block) :
    Referenced chain pinned block ∧ ValidatedAt history block.value ∧
      ∃ signer, submission.signer prim = .ok (.evm signer) := by
  rw [validatePacketEvm,Async.yields_bind] at yields
  obtain ⟨_,_,signer,split,recovered,yields⟩ := yields
  obtain ⟨none,known⟩ := recoverSigner_yields prim submission _ signer _ recovered
  simp only [Async.request_bind,Async.yields_await,yields_orFail_bind] at yields
  obtain ⟨client,_,rest,_,_,yields⟩ := yields
  subst none rest
  rw [Async.yields_bind] at yields
  obtain ⟨heads,_,reference,rest,referenced,yields⟩ := yields
  obtain ⟨referenced,unread⟩ := referenceBlock_referenced chain pinned _ (ethHead_unread chain _) heads
    reference referenced
  simp only [Async.yields_await,yields_orFail_bind] at yields
  obtain ⟨_,_,next,operator,_,yields⟩ := yields
  subst next rest
  split at yields
  · simp at yields
  simp only [Async.yields_await,yields_orFail_bind] at yields
  obtain ⟨_,_,next,weight,found,yields⟩ := yields
  subst found next
  obtain ⟨none,positive,same⟩ := admitWeight_yields _ _ _ _ _ _ yields
  subst none same
  refine ⟨referenced,?_,signer,known⟩
  rw [split]
  apply ValidatedAt.append_unread [] _ _ (by simp [Unread])
  apply ValidatedAt.append_unread [_] _ _ (by simp [Unread,Query.operatorSetBlock])
  apply ValidatedAt.append_unread heads _ _ unread
  refine ⟨?_,?_⟩
  · intro reply member read found
    simp only [List.mem_cons,List.not_mem_nil,or_false] at member
    rcases member with same | same
    all_goals
      rw [same] at found
      exact (Option.some.inj found).symm
  · refine ⟨⟨.getOperatorWeight chain manager operator reference,.ok weight⟩,?_,rfl,positive⟩
    simp

/-- The ledger before a 32-bit head survives the cast that `check_one` applies. -/
theorem saturatingSub_ledger (ledger : UInt32) :
    (saturatingSub ledger.toUInt64 1).toUInt32.toUInt64 = saturatingSub ledger.toUInt64 1 := by
  unfold saturatingSub
  split
  next positive =>
    apply UInt64.toNat_inj.mp
    have bound := ledger.toNat_lt
    have below : (ledger.toUInt64 - 1).toNat = ledger.toNat - 1 := by
      rw [UInt64.toNat_sub_of_le _ _ positive]
      simp
    simp only [UInt32.toNat_toUInt64,UInt64.toNat_toUInt32,below]
    omega
  next => rfl

theorem stellarHead_yields (chain : ChainKey) (build query : String → AggregatorError)
    (history : History Query.Answer) (current : UInt64)
    (yields : (do
      let rpc ← Async.request (.stellarRpcClient chain)
      orFail rpc build
      let ledger ← Async.request (.getLatestLedger chain)
      let ledger ← orFail ledger query
      pure ledger.toUInt64 : Fallible UInt64).Yields history current) :
    Unread history ∧ ∃ ledger : UInt32, current = ledger.toUInt64 := by
  simp only [Async.request_bind,Async.yields_await,yields_orFail_bind,Async.yields_pure] at yields
  obtain ⟨_,_,split,_,_,_,_,rest,ledger,_,none,same⟩ := yields
  refine ⟨?_,ledger,same.symm⟩
  rw [split,rest,none]
  simp [Unread,Query.operatorSetBlock]

theorem admitChecked_yields (chain : ChainKey) (signer : String) (block given : Height)
    (checked : Except String Nat) (history : History Query.Answer)
    (yields : (admitChecked chain signer given checked).Yields history block) :
    history = [] ∧ given = block ∧ ∃ weight, checked = .ok weight ∧ weight ≠ 0 := by
  cases checked with
  | error error =>
    simp only [admitChecked] at yields
    split at yields <;> simp at yields
  | ok weight =>
    obtain ⟨none,positive,same⟩ := admitWeight_yields _ _ _ _ _ _ yields
    exact ⟨none,same,weight,rfl,positive⟩

theorem checkOne_yields (submission : Submission) (chain : ChainKey) (verifier : FixedBytes 32)
    (envelope : List UInt8) (given block : Height) (history : History Query.Answer)
    (yields : (checkOne prim submission chain verifier envelope given).Yields history block) :
    given = block ∧ ValidatedAt history block.value.toUInt32.toUInt64 := by
  have single : ∀ reply : Reply, reply.1.operatorSetBlock = some given.value.toUInt32.toUInt64 →
      Weighed reply → ValidatedAt [reply] given.value.toUInt32.toUInt64 := by
    intro reply read weighed
    refine ⟨?_,⟨reply,by simp,read,weighed⟩⟩
    intro other member found at_
    rw [List.mem_singleton.mp member,read] at at_
    exact (Option.some.inj at_).symm
  unfold checkOne at yields
  split at yields
  · split at yields
    · simp at yields
    simp only [Async.request_bind,Async.yields_await] at yields
    obtain ⟨_,_,split,yields⟩ := yields
    obtain ⟨none,same,weight,found,positive⟩ := admitChecked_yields _ _ _ _ _ _ yields
    subst none same found
    rw [split]
    exact ⟨rfl,single _ rfl positive⟩
  · simp only [Async.request_bind,Async.yields_await] at yields
    obtain ⟨_,_,split,yields⟩ := yields
    obtain ⟨none,same,weight,found,positive⟩ := admitChecked_yields _ _ _ _ _ _ yields
    subst none same found
    rw [split]
    exact ⟨rfl,single _ rfl positive⟩

/-- A Stellar manager admits a packet whose signer has weight at the reference
ledger, as long as that ledger fits the contract's 32-bit argument. -/
theorem validatePacketStellar_yields (submission : Submission) (chain : ChainKey) (pinned : Option Height)
    (history : History Query.Answer) (block : Height)
    (yields : (validatePacketStellar prim submission chain pinned).Yields history block) :
    Referenced chain pinned block ∧ ValidatedAt history block.value.toUInt32.toUInt64 ∧
      (pinned = none → block.value.toUInt32.toUInt64 = block.value) := by
  simp only [validatePacketStellar,Async.request_bind,Async.yields_await,yields_orMissing_bind,
    yields_orFail_bind] at yields
  obtain ⟨_,_,split,_,_,_,_,rest,_,_,yields⟩ := yields
  rw [Async.yields_bind] at yields
  obtain ⟨heads,_,reference,parts,referenced,yields⟩ := yields
  simp only [Async.yields_await,yields_orMissing_bind,yields_orFail_bind] at yields
  obtain ⟨_,_,next,verifier,_,bytes,_,yields⟩ := yields
  obtain ⟨same,validated⟩ := checkOne_yields prim submission chain verifier bytes reference block _ yields
  have head := fun heads current yields => stellarHead_yields chain
    (fun e => .receiveValidationChainQuery chain ("stellar rpc client: " ++ e))
    (fun e => .receiveValidationChainQuery chain ("get_latest_ledger: " ++ e)) heads current yields
  obtain ⟨reference_,unread⟩ := referenceBlock_referenced chain pinned _
    (fun heads current yields => (head heads current yields).1) heads reference referenced
  subst same next parts rest
  refine ⟨reference_,?_,?_⟩
  · rw [split]
    apply ValidatedAt.append_unread [_,_] _ _ (by simp [Unread,Query.operatorSetBlock])
    apply ValidatedAt.append_unread heads _ _ unread
    exact ValidatedAt.append_unread [_] _ _ (by simp [Unread,Query.operatorSetBlock]) validated
  · intro none
    rcases referenceBlock_yields chain pinned _ heads reference referenced with
      ⟨found,_⟩ | ⟨_,current,given,same⟩
    · rw [none] at found
      cases found
    · obtain ⟨_,ledger,spelled⟩ := head heads current given
      rw [same,spelled]
      exact saturatingSub_ledger ledger

theorem cosmosHead_unread (chain : ChainKey) (wrap : String → AggregatorError) (history : History Query.Answer)
    (current : UInt64)
    (yields : (Async.await (.cosmosBlockHeight chain) (fun answer => orFail answer wrap) :
      Fallible UInt64).Yields history current) : Unread history := by
  simp only [Async.yields_await,yields_orFail] at yields
  obtain ⟨answer,later,split,none,found⟩ := yields
  rw [split,none]
  simp [Unread,Query.operatorSetBlock]

theorem validatePacketCosmos_yields (submission : Submission) (manager : CosmosAddr) (chain : ChainKey)
    (pinned : Option Height) (history : History Query.Answer) (block : Height)
    (yields : (validatePacketCosmos prim submission manager chain pinned).Yields history block) :
    Referenced chain pinned block ∧ ∃ signer, submission.signer prim = .ok (.evm signer) := by
  rw [validatePacketCosmos,Async.yields_bind] at yields
  obtain ⟨_,_,signer,split,recovered,yields⟩ := yields
  obtain ⟨none,known⟩ := recoverSigner_yields prim submission _ signer _ recovered
  simp only [Async.request_bind,Async.yields_await,yields_orFail_bind] at yields
  obtain ⟨client,_,rest,_,_,yields⟩ := yields
  rw [Async.yields_bind] at yields
  obtain ⟨heads,_,reference,parts,referenced,yields⟩ := yields
  obtain ⟨referenced,_⟩ := referenceBlock_referenced chain pinned _ (cosmosHead_unread chain _) heads
    reference referenced
  simp only [Async.yields_await,yields_orFail_bind,yields_orMissing_bind] at yields
  obtain ⟨_,_,_,_,_,operator,_,_,_,_,weight,_,yields⟩ := yields
  obtain ⟨_,_,same⟩ := admitWeight_yields _ _ _ _ _ _ yields
  subst same
  exact ⟨referenced,signer,known⟩

/-- What it means that a packet was admitted at a block, the event being pinned to
`pinned` before. -/
structure Admitted (submission : Submission) (service : Service) (history : History Query.Answer)
    (pinned : Option Height) (block : Height) : Prop where
  referenced : Referenced service.manager.chain pinned block
  evm : ∀ chain address, service.manager = .evm chain address → ValidatedAt history block.value
  stellar : ∀ chain address, service.manager = .stellar chain address →
    ValidatedAt history block.value.toUInt32.toUInt64 ∧
      (pinned = none → block.value.toUInt32.toUInt64 = block.value)
  recovered : (∀ chain address, service.manager ≠ .stellar chain address) →
    ∃ signer, submission.signer prim = .ok (.evm signer)

theorem validatePacketAtReceive_yields (submission : Submission) (service : Service)
    (history : History Query.Answer) (block : Height)
    (yields : (validatePacketAtReceive prim submission service).Yields history block) :
    ∃ pinned later, history = ⟨.pinnedReferenceBlock submission.eventId,pinned⟩::later ∧
      Admitted prim submission service history pinned block := by
  simp only [validatePacketAtReceive,Async.request_bind,Async.yields_await] at yields
  obtain ⟨pinned,later,split,yields⟩ := yields
  refine ⟨pinned,later,split,?_⟩
  have whole : ∀ at_, ValidatedAt later at_ → ValidatedAt history at_ := by
    intro at_ validated
    rw [split]
    exact ValidatedAt.append_unread [_] later at_ (by simp [Unread,Query.operatorSetBlock]) validated
  split at yields
  next chain contract manager =>
    obtain ⟨referenced,validated,fits⟩ := validatePacketStellar_yields prim submission chain pinned later
      block yields
    refine ⟨by simpa [manager,ServiceManager.chain] using referenced,?_,?_,?_⟩
    · simp [manager]
    · intro _ _ _
      exact ⟨whole _ validated,fits⟩
    · intro other
      exact absurd manager (other chain contract)
  next chain address manager =>
    obtain ⟨referenced,validated,recovered⟩ := validatePacketEvm_yields prim submission address chain pinned
      later block yields
    refine ⟨by simpa [manager,ServiceManager.chain] using referenced,?_,?_,fun _ => recovered⟩
    · intro _ _ _
      exact whole _ validated
    · simp [manager]
  next chain address manager =>
    obtain ⟨referenced,recovered⟩ := validatePacketCosmos_yields prim submission address chain pinned
      later block yields
    refine ⟨by simpa [manager,ServiceManager.chain] using referenced,?_,?_,fun _ => recovered⟩
    · simp [manager]
    · simp [manager]

end Warpdrive.Aggregator
