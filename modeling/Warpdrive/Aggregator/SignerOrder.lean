import Warpdrive.Aggregator.GoodQueue
import Warpdrive.Aggregator.Submit
import Warpdrive.Foundation.ParallelLists
import Warpdrive.Types.Recovery

/-! The two parallel lists of signers and signatures that a destination's contract is given for a queue: the
ones of `evm_signature_data`, and those of the two Stellar handlers. The contracts take the signers in strictly
ascending order, each with its signature in the same place. -/
namespace Warpdrive.Aggregator

open Warpdrive.Foundation Warpdrive.Foundation.ParallelLists Warpdrive.Types

variable (prim : Primitives)

theorem FixedBytes.lt_of_le_of_ne {n : Nat} (a b : FixedBytes n) (below : a ≤ b) (differ : a ≠ b) :
    a.toList < b.toList := by
  rcases List.le_iff_lt_or_eq.mp below with less | same
  · exact less
  · exact absurd (FixedBytes.toList_injective same) differ

def signatureBytes : WavsSignature → List UInt8
  | .secp256k1 signature _ => signature.toList
  | .ed25519 signature _ => signature.toList

/-- What a contract requires of the two lists it is given for a queue, where `signs` relates a signature of the
queue to the signer it is checked against. -/
structure SignerLists {n : Nat} (queue : List Submission) (signs : WavsSignature → FixedBytes n → Prop)
    (signers : List (FixedBytes n)) (signatures : List (List UInt8)) : Prop where
  ascending : signers.Pairwise (fun a b => a.toList < b.toList)
  signers_length : signers.length = queue.length
  signatures_length : signatures.length = queue.length
  aligned : List.Forall₂ (fun signer bytes => ∃ queued ∈ queue,
    signatureBytes queued.envelopeSignature = bytes ∧ signs queued.envelopeSignature signer) signers signatures
  all : signatures.Perm (queue.map (fun queued => signatureBytes queued.envelopeSignature))

/-- An encoder that gives each submission its signer and signature, sorts the pairs by signer and splits them. -/
theorem signerLists_byKey {n : Nat} {S Error : Type} (queue : List Submission)
    (signs : WavsSignature → FixedBytes n → Prop) (bytesOf : S → List UInt8)
    (pairOf : Submission → Except Error (FixedBytes n × S)) (pairs : List (FixedBytes n × S))
    (made : queue.mapM pairOf = .ok pairs)
    (sound : ∀ queued ∈ queue, ∀ pair, pairOf queued = .ok pair →
      bytesOf pair.2 = signatureBytes queued.envelopeSignature ∧ signs queued.envelopeSignature pair.1)
    (distinct : queue.Pairwise (fun first second => ∀ one two, pairOf first = .ok one → pairOf second = .ok two →
      one.1 ≠ two.1)) :
    SignerLists queue signs ((byKey pairs).map Prod.fst) ((byKey pairs).map (fun pair => bytesOf pair.2)) := by
  have given := mapM_pairs pairOf queue pairs made
  have size : (byKey pairs).length = queue.length := (byKey_perm pairs).length_eq.trans given.length_eq.symm
  have apart : pairs.Pairwise (fun a b => a.1 ≠ b.1) := distinct_pairs _ _ queue pairs given distinct
  have listed : pairs.map (fun pair => bytesOf pair.2) =
      queue.map (fun queued => signatureBytes queued.envelopeSignature) :=
    map_given _ _ _ queue pairs given (fun queued inside pair gave => (sound queued inside pair gave).1)
  constructor
  · exact (byKey_ascending pairs apart).imp (fun both => FixedBytes.lt_of_le_of_ne _ _ both.1 both.2)
  · rw [List.length_map,size]
  · rw [List.length_map,size]
  · rw [List.forall₂_map_left_iff,List.forall₂_map_right_iff,List.forall₂_same]
    intro pair member
    obtain ⟨queued,inside,gave⟩ := source_of_pair _ queue pairs given pair ((byKey_perm pairs).mem_iff.mp member)
    obtain ⟨bytes,signed⟩ := sound queued inside pair gave
    exact ⟨queued,inside,bytes.symm,signed⟩
  · rw [← listed]
    exact (byKey_perm pairs).map _

theorem signerAndSignature_ok (envelope : Envelope) (sig : WavsSignature) (pair : Address × List UInt8)
    (made : signerAndSignature prim envelope sig = .ok pair) :
    pair.2 = signatureBytes sig ∧ sig.signerAddress prim envelope = .ok (.evm pair.1) := by
  cases sig with
  | ed25519 signature pubkey => cases made
  | secp256k1 signature messagePrefix =>
    simp only [signerAndSignature,pure_bind] at made
    cases found : (WavsSignature.secp256k1 signature messagePrefix).signerAddress prim envelope with
    | error error =>
      rw [found] at made
      cases made
    | ok signer =>
      rw [found] at made
      cases signer with
      | evm address =>
        cases made
        exact ⟨rfl,rfl⟩
      | _ => cases made

theorem secp256k1Signer_ok (queued : Submission) (pair : FixedBytes 33 × FixedBytes 65)
    (made : secp256k1Signer prim queued = .ok pair) :
    pair.2.toList = signatureBytes queued.envelopeSignature ∧
      queued.envelopeSignature.secp256k1CompressedPubkey prim queued.envelope = .ok pair.1 := by
  unfold secp256k1Signer at made
  split at made
  · next signature messagePrefix shaped =>
    split at made
    · cases made
    · next pubkey recovered =>
      cases made
      refine ⟨?_,recovered⟩
      rw [shaped]
      rfl
  · cases made

theorem ed25519Signer_ok (queued : Submission) (pair : FixedBytes 32 × FixedBytes 64)
    (made : ed25519Signer queued = .ok pair) : queued.envelopeSignature = .ed25519 pair.2 pair.1 := by
  unfold ed25519Signer at made
  split at made
  · cases made
  · next signature pubkey shaped =>
    cases made
    exact shaped

/-- The signer of an Ed25519 signature that verifies is its public key. -/
theorem ed25519_signer (signature : FixedBytes 64) (pubkey : FixedBytes 32) (envelope : Envelope)
    (signer : ChainAddress) (verified : (WavsSignature.ed25519 signature pubkey).signerAddress prim envelope = .ok signer) :
    signer = .stellarPubKey pubkey := by
  simp only [WavsSignature.signerAddress] at verified
  cases hashed : envelope.prefixSep53Hash prim with
  | error error =>
    rw [hashed] at verified
    cases verified
  | ok prehash =>
    rw [hashed] at verified
    simp only [Except.mapError,bind,Except.bind] at verified
    split at verified
    · cases verified
    · split at verified
      · cases verified
      · cases verified
        rfl

/-- Distinct addresses come from distinct public keys. -/
def KeysSeparate : Prop :=
  ∀ (first second : WavsSignature) (envelope : Envelope) (pubkey : FixedBytes 33) (one two : ChainAddress),
    first.secp256k1CompressedPubkey prim envelope = .ok pubkey → second.secp256k1CompressedPubkey prim envelope = .ok pubkey →
    first.signerAddress prim envelope = .ok one → second.signerAddress prim envelope = .ok two → one = two

/-- With the libraries an address is one of its key. -/
theorem keysSeparate_of_libraries (decompress : FixedBytes 33 → List UInt8)
    (libraries : RecoveryLibraries prim decompress) : KeysSeparate prim := by
  intro first second envelope pubkey one two recovered recovered' found found'
  cases first with
  | ed25519 signature key => cases recovered
  | secp256k1 signature messagePrefix =>
    cases second with
    | ed25519 signature' key => cases recovered'
    | secp256k1 signature' messagePrefix' =>
      rw [WavsSignature.address_of_pubkey prim decompress libraries _ _ _ _ _ found recovered,
        WavsSignature.address_of_pubkey prim decompress libraries _ _ _ _ _ found' recovered']

section Encoders

variable {queue : List Submission} (good : Good prim queue) (envelope : Envelope)
  (shared : ∀ queued ∈ queue, queued.envelope = envelope)

include good shared

theorem signers_distinct : queue.Pairwise (fun first second =>
    (∃ one, first.envelopeSignature.signerAddress prim envelope = .ok one) ∧
    (∃ two, second.envelopeSignature.signerAddress prim envelope = .ok two) ∧
    first.envelopeSignature.signerAddress prim envelope ≠ second.envelopeSignature.signerAddress prim envelope) := by
  have signer : ∀ queued ∈ queue, queued.signer prim = queued.envelopeSignature.signerAddress prim envelope := by
    intro queued member
    rw [Submission.signer,shared queued member]
  refine good.distinct.imp_of_mem ?_
  intro first second inside inside' differ
  have one := good.signed first inside
  have two := good.signed second inside'
  rw [signer first inside] at one differ
  rw [signer second inside'] at two differ
  exact ⟨one,two,differ⟩

theorem evmSignatureData_lists (blockHeight : UInt64) (data : SignatureData)
    (made : envelope.evmSignatureData prim (queue.map (fun queued => queued.envelopeSignature)) blockHeight = .ok data) :
    SignerLists queue (fun sig signer => sig.signerAddress prim envelope = .ok (.evm signer)) data.signers data.signatures ∧
      data.referenceBlock = blockHeight.toUInt32 := by
  unfold Envelope.evmSignatureData at made
  rw [List.mapM_map] at made
  cases paired : queue.mapM (signerAndSignature prim envelope ∘ fun queued => queued.envelopeSignature) with
  | error error =>
    rw [paired] at made
    cases made
  | ok pairs =>
    rw [paired] at made
    cases made
    refine ⟨?_,rfl⟩
    refine signerLists_byKey queue _ id _ pairs paired ?_ ?_
    · intro queued _ pair gave
      exact signerAndSignature_ok prim envelope _ pair gave
    · refine (signers_distinct prim good envelope shared).imp ?_
      intro first second apart one two gave gave' same
      have found := (signerAndSignature_ok prim envelope _ one gave).2
      have found' := (signerAndSignature_ok prim envelope _ two gave').2
      rw [found,found',same] at apart
      exact apart.2.2 rfl

theorem secp256k1_lists (separate : KeysSeparate prim) (pairs : List (FixedBytes 33 × FixedBytes 65))
    (made : queue.mapM (secp256k1Signer prim) = .ok pairs) :
    SignerLists queue (fun sig pubkey => sig.secp256k1CompressedPubkey prim envelope = .ok pubkey)
      ((byKey pairs).map Prod.fst) ((byKey pairs).map (fun pair => pair.2.toList)) := by
  have recovers : ∀ queued ∈ queue, ∀ pair, secp256k1Signer prim queued = .ok pair →
      pair.2.toList = signatureBytes queued.envelopeSignature ∧
        queued.envelopeSignature.secp256k1CompressedPubkey prim envelope = .ok pair.1 := by
    intro queued member pair gave
    have ok := secp256k1Signer_ok prim queued pair gave
    rw [shared queued member] at ok
    exact ok
  refine signerLists_byKey queue _ FixedBytes.toList _ pairs made recovers ?_
  refine (signers_distinct prim good envelope shared).imp_of_mem ?_
  intro first second inside inside' apart one two gave gave' same
  obtain ⟨⟨signer,found⟩,⟨signer',found'⟩,differ⟩ := apart
  have key := (recovers first inside one gave).2
  have key' := (recovers second inside' two gave').2
  rw [same] at key
  apply differ
  rw [found,found',separate _ _ envelope two.1 signer signer' key key' found found']

theorem ed25519_lists (pairs : List (FixedBytes 32 × FixedBytes 64)) (made : queue.mapM ed25519Signer = .ok pairs) :
    SignerLists queue (fun sig pubkey => sig.signerAddress prim envelope = .ok (.stellarPubKey pubkey))
      ((byKey pairs).map Prod.fst) ((byKey pairs).map (fun pair => pair.2.toList)) := by
  have verifies : ∀ queued ∈ queue, ∀ pair, ed25519Signer queued = .ok pair →
      pair.2.toList = signatureBytes queued.envelopeSignature ∧
        queued.envelopeSignature.signerAddress prim envelope = .ok (.stellarPubKey pair.1) := by
    intro queued member pair gave
    have shaped := ed25519Signer_ok queued pair gave
    obtain ⟨signer,found⟩ := good.signed queued member
    rw [Submission.signer,shared queued member,shaped] at found
    rw [shaped]
    refine ⟨rfl,?_⟩
    rw [found,ed25519_signer prim pair.2 pair.1 envelope signer found]
  refine signerLists_byKey queue _ FixedBytes.toList _ pairs made verifies ?_
  refine (signers_distinct prim good envelope shared).imp_of_mem ?_
  intro first second inside inside' apart one two gave gave' same
  apply apart.2.2
  rw [(verifies first inside one gave).2,(verifies second inside' two gave').2,same]

end Encoders

def Query.Verifies : Query → Prop
  | .verifyEth _ _ _ _ _ _ => True
  | .verifyXlm _ _ _ _ _ _ => True
  | _ => False

theorem attemptReference_verifies (chain : ChainKey) (eventId : EventId) (head : Fallible UInt64)
    (avoids : head.Avoids Query.Verifies) : (attemptReference chain eventId head).Avoids Query.Verifies := by
  simp only [attemptReference,Async.request_bind,Async.Avoids]
  refine ⟨by simp [Query.Verifies],fun pinned => ?_⟩
  cases pinned with
  | some block => trivial
  | none => exact Async.avoids_bind _ head _ avoids (fun _ => trivial)

/-- The block that an attempt on a Stellar chain takes for a queue: the pinned one, or else the ledger before the
latest. -/
def GivenBlock (queue : List Submission) (chain : ChainKey) (history : History Query.Answer) (block : Height) : Prop :=
  ∃ first pinned, queue.head? = some first ∧ (⟨.pinnedReferenceBlock first.eventId,pinned⟩ : Reply) ∈ history ∧
    (pinned = some block ∨ pinned = none ∧ ∃ ledger : UInt32,
      (⟨.getLatestLedger chain,.ok ledger⟩ : Reply) ∈ history ∧ block.value = saturatingSub ledger.toUInt64 1)

def stellarHead (chain : ChainKey) : Fallible UInt64 := do
  let rpc ← Async.request (.stellarRpcClient chain)
  orFail rpc (fun e => .stellar ("failed to build stellar rpc client: " ++ e))
  let ledger ← Async.request (.getLatestLedger chain)
  let ledger ← orFail ledger .blockNumber
  pure ledger.toUInt64

theorem stellarLatest_yields (chain : ChainKey) (history : History Query.Answer) (current : UInt64)
    (yields : (stellarHead chain).Yields history current) :
    ∃ ledger : UInt32, (⟨.getLatestLedger chain,.ok ledger⟩ : Reply) ∈ history ∧ current = ledger.toUInt64 := by
  simp only [stellarHead,Async.request_bind,Async.yields_await,yields_orFail_bind,Async.yields_pure] at yields
  obtain ⟨_,_,rfl,_,_,_,later,rfl,ledger,rfl,rfl,rfl⟩ := yields
  exact ⟨ledger,by simp,rfl⟩

theorem stellarReference_yields (chain : ChainKey) (eventId : EventId) (history : History Query.Answer)
    (block : Height) (yields : (attemptReference chain eventId (stellarHead chain)).Yields history block) :
    ∃ pinned, (⟨.pinnedReferenceBlock eventId,pinned⟩ : Reply) ∈ history ∧
      (pinned = some block ∨ pinned = none ∧ ∃ ledger : UInt32,
        (⟨.getLatestLedger chain,.ok ledger⟩ : Reply) ∈ history ∧ block.value = saturatingSub ledger.toUInt64 1) := by
  simp only [attemptReference,Async.request_bind,Async.yields_await] at yields
  obtain ⟨pinned,later,rfl,yields⟩ := yields
  refine ⟨pinned,List.mem_cons_self,?_⟩
  rcases referenceBlock_yields chain pinned _ later block yields with ⟨found,_⟩ | ⟨none_pinned,current,head,same⟩
  · exact .inl found
  · obtain ⟨ledger,read,rfl⟩ := stellarLatest_yields chain later current head
    exact .inr ⟨none_pinned,ledger,List.mem_cons_of_mem _ read,by rw [same]⟩

/-- A Stellar verification is made with the block that the attempt took. -/
theorem handleActionSubmitStellar_verifies (service : Service) (queue : List Submission) (action : StellarSubmitAction)
    (history : History Query.Answer) (reached : (handleActionSubmitStellar prim service queue action).Reaches history)
    (reply : Reply) (member : reply ∈ history) (called : reply.1.Verifies) :
    ∃ envelopeBytes block later, GivenBlock queue action.chain history block ∧
      (verifyStellar prim service.signatureKind.algorithm queue action envelopeBytes
        block.value.toUInt32).Reaches later ∧ reply ∈ later := by
  unfold handleActionSubmitStellar at reached
  obtain ⟨before,history₁,config,split₁,_,reached,member⟩ := Async.bind_called Query.Verifies _ _
    (by simp [Async.request,Async.Avoids,Query.Verifies]) history reached reply member called
  rw [reaches_orMissing_bind] at reached
  rcases reached with none_left | ⟨_,_,reached⟩
  · rw [none_left] at member
    cases member
  obtain ⟨before₂,history₂,_,split₂,_,reached,member⟩ := Async.bind_called Query.Verifies _ _
    (by unfold ensureStellarManager; split <;> trivial) history₁ reached reply member called
  rw [reaches_orMissing_bind] at reached
  rcases reached with none_left | ⟨first,head,reached⟩
  · rw [none_left] at member
    cases member
  rw [reaches_orFail_bind] at reached
  rcases reached with none_left | ⟨envelopeBytes,_,reached⟩
  · rw [none_left] at member
    cases member
  obtain ⟨before₃,history₃,block,split₃,yields,reached,member⟩ := Async.bind_called Query.Verifies _ _
    (attemptReference_verifies _ _ _ (by simp [Async.Avoids,Query.Verifies])) history₂ reached reply member called
  obtain ⟨pinned,read,referenced⟩ := stellarReference_yields action.chain first.eventId before₃ block yields
  obtain ⟨_,history₄,_,_,_,reached,member⟩ := Async.bind_called Query.Verifies _ _
    (by simp [Async.request,Async.Avoids,Query.Verifies]) history₃ reached reply member called
  rw [reaches_orFail_bind] at reached
  rcases reached with none_left | ⟨_,_,reached⟩
  · rw [none_left] at member
    cases member
  have kept : ∀ other ∈ before₃, other ∈ history := by
    intro other inside
    rw [split₁,split₂,split₃]
    simp [inside]
  refine ⟨envelopeBytes,block,history₄,⟨first,pinned,head,kept _ read,?_⟩,reached,member⟩
  rcases referenced with found | ⟨none_pinned,ledger,latest,same⟩
  · exact .inl found
  · exact .inr ⟨none_pinned,ledger,kept _ latest,same⟩

/-- The lists of a verification are those of the queue, and its block is the given one. -/
def Query.Encodes (queue : List Submission) (reference : UInt32) : Query → Prop
  | .verifyEth _ _ _ signers signatures block => block = reference ∧ ∃ pairs,
      queue.mapM (secp256k1Signer prim) = .ok pairs ∧ signers = (byKey pairs).map Prod.fst ∧
        signatures = (byKey pairs).map Prod.snd
  | .verifyXlm _ _ _ signers signatures block => block = reference ∧ ∃ pairs,
      queue.mapM ed25519Signer = .ok pairs ∧ signers = (byKey pairs).map Prod.fst ∧
        signatures = (byKey pairs).map Prod.snd
  | _ => True

theorem verifyStellar_encodes (algorithm : SignatureAlgorithm) (queue : List Submission)
    (action : StellarSubmitAction) (envelopeBytes : List UInt8) (reference : UInt32) :
    (verifyStellar prim algorithm queue action envelopeBytes reference).Avoids
      (fun query => ¬Query.Encodes prim queue reference query) := by
  cases algorithm with
  | secp256k1 =>
    simp only [verifyStellar,avoids_orFail_bind,Async.request_bind,Async.Avoids,not_not]
    intro pairs made
    exact ⟨⟨rfl,pairs,made,rfl,rfl⟩,fun _ _ _ => trivial⟩
  | ed25519 =>
    simp only [verifyStellar,avoids_orFail_bind,Async.request_bind,Async.Avoids,not_not]
    intro pairs made
    exact ⟨⟨rfl,pairs,made,rfl,rfl⟩,fun _ _ _ => trivial⟩

theorem toUInt32_of_lt (height : UInt64) (fits : height.toNat < 2 ^ 32) : height.toUInt32.toNat = height.toNat := by
  rw [UInt64.toNat_toUInt32]
  exact Nat.mod_eq_of_lt fits

/-- The reference block is the height that the attempt was given, when that fits in 32 bits. -/
def ReferenceGiven (queue : List Submission) (chain : ChainKey) (history : History Query.Answer)
    (reference : UInt32) : Prop :=
  ∃ block, GivenBlock queue chain history block ∧ (block.value.toNat < 2 ^ 32 → reference.toNat = block.value.toNat)

/-- A Stellar verification is made with the queue's own lists and the height that the attempt took. -/
theorem handleActionSubmitStellar_encodes (service : Service) (queue : List Submission) (action : StellarSubmitAction)
    (history : History Query.Answer) (reached : (handleActionSubmitStellar prim service queue action).Reaches history)
    (reply : Reply) (member : reply ∈ history) (called : reply.1.Verifies) :
    ∃ reference, ReferenceGiven queue action.chain history reference ∧ reply.1.Encodes prim queue reference := by
  obtain ⟨envelopeBytes,block,later,given,verified,inside⟩ :=
    handleActionSubmitStellar_verifies prim service queue action history reached reply member called
  refine ⟨block.value.toUInt32,⟨block,given,toUInt32_of_lt block.value⟩,?_⟩
  exact not_not.mp ((verifyStellar_encodes prim _ queue action envelopeBytes _).reaches _ _ later verified reply inside)

/-- For a good queue each of the three encoders gives the signers in strictly ascending order, each with its own
signature of the queue in the same place, and the height it was given. -/
theorem encoders_align (queue : List Submission) (good : Good prim queue) (envelope : Envelope)
    (shared : ∀ queued ∈ queue, queued.envelope = envelope) (separate : KeysSeparate prim) :
    (∀ blockHeight data,
      envelope.evmSignatureData prim (queue.map (fun queued => queued.envelopeSignature)) blockHeight = .ok data →
        SignerLists queue (fun sig signer => sig.signerAddress prim envelope = .ok (.evm signer))
          data.signers data.signatures ∧
        (blockHeight.toNat < 2 ^ 32 → data.referenceBlock.toNat = blockHeight.toNat)) ∧
    ∀ service action history, (handleActionSubmitStellar prim service queue action).Reaches history →
      (∀ chain handler bytes signers signatures reference answer,
        (⟨.verifyEth chain handler bytes signers signatures reference,answer⟩ : Reply) ∈ history →
          SignerLists queue (fun sig pubkey => sig.secp256k1CompressedPubkey prim envelope = .ok pubkey)
            signers (signatures.map FixedBytes.toList) ∧ ReferenceGiven queue action.chain history reference) ∧
      (∀ chain handler bytes signers signatures reference answer,
        (⟨.verifyXlm chain handler bytes signers signatures reference,answer⟩ : Reply) ∈ history →
          SignerLists queue (fun sig pubkey => sig.signerAddress prim envelope = .ok (.stellarPubKey pubkey))
            signers (signatures.map FixedBytes.toList) ∧ ReferenceGiven queue action.chain history reference) := by
  refine ⟨?_,?_⟩
  · intro blockHeight data made
    obtain ⟨lists,reference⟩ := evmSignatureData_lists prim good envelope shared blockHeight data made
    refine ⟨lists,fun fits => ?_⟩
    rw [reference]
    exact toUInt32_of_lt blockHeight fits
  · intro service action history reached
    constructor
    · intro chain handler bytes signers signatures reference answer member
      obtain ⟨block,given,rfl,pairs,made,rfl,rfl⟩ :=
        handleActionSubmitStellar_encodes prim service queue action history reached _ member trivial
      rw [List.map_map]
      exact ⟨secp256k1_lists prim good envelope shared separate pairs made,given⟩
    · intro chain handler bytes signers signatures reference answer member
      obtain ⟨block,given,rfl,pairs,made,rfl,rfl⟩ :=
        handleActionSubmitStellar_encodes prim service queue action history reached _ member trivial
      rw [List.map_map]
      exact ⟨ed25519_lists prim good envelope shared pairs made,given⟩

def operatorsQueue : List Submission := [submission1,submission2]

theorem operatorsQueue_good : Good recoveringPrimitives operatorsQueue := by
  have first : submission1.signer recoveringPrimitives = .ok (.evm operator1) := by decide +kernel
  have second : submission2.signer recoveringPrimitives = .ok (.evm operator2) := by decide +kernel
  refine ⟨?_,?_,?_⟩
  · simp [operatorsQueue,submission1,submission2]
  · intro queued member
    simp only [operatorsQueue,List.mem_cons,List.not_mem_nil,or_false] at member
    rcases member with rfl | rfl
    · exact ⟨_,first⟩
    · exact ⟨_,second⟩
  · simp only [operatorsQueue,List.pairwise_cons,List.mem_singleton,forall_eq,List.not_mem_nil,IsEmpty.forall_iff,
      implies_true,List.Pairwise.nil,and_self,and_true]
    rw [first,second]
    decide

def sorobanChain : ChainKey := ⟨.stellar,testnetId⟩

def sorobanHandler : FixedBytes 32 := .filled 32 5

def sorobanService : Service := {deployedService with manager := .stellar sorobanChain (.filled 32 4)}

def sorobanCall : Reply :=
  ⟨.verifyEth sorobanChain sorobanHandler (recoveringPrimitives.abiEncode cafeEnvelope) [pubkey2,pubkey1]
    [signature2,signature1] 99,.ok "sent"⟩

def sorobanAttempt : List Reply :=
  [⟨.chainConfig sorobanChain,some .stellar⟩,⟨.pinnedReferenceBlock cafeEvent,none⟩,
    ⟨.stellarRpcClient sorobanChain,.ok ()⟩,⟨.getLatestLedger sorobanChain,.ok 100⟩,⟨.sorobanEnv sorobanChain,.ok ()⟩,
    sorobanCall]

/-- The second operator's address is the lower one, and so is its key. -/
theorem operatorsQueue_aligned :
    (∃ data, (Envelope.evm cafeEnvelope).evmSignatureData recoveringPrimitives
        (operatorsQueue.map (fun queued => queued.envelopeSignature)) 99 = .ok data ∧
      data.signers = [operator2,operator1] ∧ data.signatures = [signature2.toList,signature1.toList] ∧
      SignerLists operatorsQueue
        (fun sig signer => sig.signerAddress recoveringPrimitives (.evm cafeEnvelope) = .ok (.evm signer))
        data.signers data.signatures ∧ data.referenceBlock.toNat = 99) ∧
    (handleActionSubmitStellar recoveringPrimitives sorobanService operatorsQueue
      ⟨sorobanChain,sorobanHandler⟩).Reaches sorobanAttempt ∧
    SignerLists operatorsQueue
      (fun sig pubkey => sig.secp256k1CompressedPubkey recoveringPrimitives (.evm cafeEnvelope) = .ok pubkey)
      [pubkey2,pubkey1] [signature2.toList,signature1.toList] ∧
    ReferenceGiven operatorsQueue sorobanChain sorobanAttempt 99 := by
  have made : (Envelope.evm cafeEnvelope).evmSignatureData recoveringPrimitives
      (operatorsQueue.map (fun queued => queued.envelopeSignature)) 99 =
        .ok ⟨[operator2,operator1],[signature2.toList,signature1.toList],99⟩ := by
    decide +kernel
  have reached : (handleActionSubmitStellar recoveringPrimitives sorobanService operatorsQueue
      ⟨sorobanChain,sorobanHandler⟩).Reaches sorobanAttempt := by
    refine Option.isSome_iff_exists.mp ?_
    decide +kernel
  obtain ⟨evm,stellar⟩ := encoders_align recoveringPrimitives operatorsQueue operatorsQueue_good (.evm cafeEnvelope)
    (by simp [operatorsQueue,submission1,submission2])
    (keysSeparate_of_libraries recoveringPrimitives decompressed recoveringPrimitives_libraries)
  obtain ⟨lists,reference⟩ := evm 99 _ made
  obtain ⟨keys,given⟩ := (stellar sorobanService ⟨sorobanChain,sorobanHandler⟩ sorobanAttempt reached).1 _ _ _ _ _ _ _
    (by simp [sorobanAttempt,sorobanCall] : sorobanCall ∈ sorobanAttempt)
  exact ⟨⟨_,made,rfl,rfl,lists,reference (by decide)⟩,reached,keys,given⟩

end Warpdrive.Aggregator
