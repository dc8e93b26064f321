import Warpdrive.Types.Service
import Mathlib.Data.List.Sort

/-! Envelopes, signatures and signer recovery (`types/src/signing.rs` and
`types/src/signing/signer.rs`). What other crates compute is a field of
`Primitives`: the hashes, the recovery and verification of signatures, the ABI
encoding of an EVM envelope, the XDR encoding of a Stellar one and bincode's
standard encoding. An error of another crate is its debug text. -/
namespace Warpdrive.Types

structure EventId where
  bytes : FixedBytes 20
  deriving DecidableEq

structure EventOrder where
  bytes : FixedBytes 12
  deriving DecidableEq

def EventOrder.newU64 (value : UInt64) : EventOrder :=
  ⟨beBytes 8 value.toNat ++ List.replicate 4 0,by simp [beBytes]⟩

structure EvmEnvelope where
  eventId : FixedBytes 20
  ordering : FixedBytes 12
  payload : List UInt8
  deriving DecidableEq

inductive Envelope
  | evm (data : EvmEnvelope)
  | stellar (data : List UInt8)
  deriving DecidableEq

inductive WavsSignature
  | secp256k1 (signature : FixedBytes 65) (messagePrefix : Option SignaturePrefix)
  | ed25519 (signature : FixedBytes 64) (pubkey : FixedBytes 32)
  deriving DecidableEq

def WavsSignature.kind : WavsSignature → SignatureKind
  | .secp256k1 _ messagePrefix => ⟨.secp256k1,messagePrefix⟩
  | .ed25519 _ _ => ⟨.ed25519,some .sep53⟩

inductive ChainAddress
  | evm (address : Address)
  | cosmos (address : CosmosAddr)
  | stellarContract (contract : FixedBytes 32)
  | stellarPubKey (pubkey : FixedBytes 32)
  deriving DecidableEq

def ChainAddress.tryAsEvm : ChainAddress → Option Address
  | .evm address => some address
  | _ => none

/-- `alloy_primitives::Signature`. -/
structure AlloySignature where
  r : FixedBytes 32
  s : FixedBytes 32
  yParity : Bool
  deriving DecidableEq

/-- `k256::ecdsa::Signature`. -/
structure K256Signature where
  rs : FixedBytes 64
  deriving DecidableEq

/-- `k256::ecdsa::VerifyingKey`, as its SEC1 bytes. -/
structure VerifyingKey where
  sec1Bytes : List UInt8
  deriving DecidableEq

/-- The fields of an AtProto event that do not depend on the stream. -/
structure AtProtoKey where
  repo : String
  collection : String
  rkey : String
  action : AtProtoAction
  cid : Option String
  record : Option JsonValue
  rev : Option String
  opIndex : Option UInt32
  deriving DecidableEq

structure Primitives where
  keccak256 : List UInt8 → FixedBytes 32
  sha256 : List UInt8 → FixedBytes 32
  ripemd160 : List UInt8 → FixedBytes 20
  signatureFromRaw : FixedBytes 65 → Except String AlloySignature
  recoverAddressFromPrehash : AlloySignature → FixedBytes 32 → Except String Address
  k256FromSlice : FixedBytes 64 → Option K256Signature
  recoverFromPrehash : FixedBytes 32 → K256Signature → UInt8 → Option VerifyingKey
  verifyingKeyFromBytes : FixedBytes 32 → Bool
  verifyEd25519 : FixedBytes 32 → FixedBytes 32 → FixedBytes 64 → Bool
  abiEncode : EvmEnvelope → List UInt8
  encodeXlmEnvelope : List UInt8 → FixedBytes 20 → FixedBytes 12 → Except String (List UInt8)
  bincodeTriggerData : TriggerData → Except String (List UInt8)
  bincodeAtProto : AtProtoKey → Except String (List UInt8)
  debugAddress : Address → String
  debugServiceManager : ServiceManager → String

inductive SigningError
  | recoverSignerAddress (error : String)
  | dataHash (error : String)
  | wrongAddressKind (expected actual : SignatureAlgorithm)
  | ed25519Verify
  deriving DecidableEq

def SignatureAlgorithm.debug : SignatureAlgorithm → String
  | .secp256k1 => "Secp256k1"
  | .ed25519 => "Ed25519"

def SigningError.debug : SigningError → String
  | .recoverSignerAddress error => "RecoverSignerAddress(" ++ error ++ ")"
  | .dataHash error => "DataHash(" ++ error ++ ")"
  | .wrongAddressKind expected actual => "WrongAddressKind \x7b expected: " ++ expected.debug ++
      ", actual: " ++ actual.debug ++ " \x7d"
  | .ed25519Verify => "Ed25519Verify"

section Hashes
variable (prim : Primitives)

def Envelope.encodeData : Envelope → Except String (List UInt8)
  | .evm data => .ok (prim.abiEncode data)
  | .stellar data => .ok data

/-- `eip191_hash_message` on a 32-byte hash. -/
def eip191HashMessage (message : FixedBytes 32) : FixedBytes 32 :=
  prim.keccak256 (utf8 "\x19Ethereum Signed Message:\n32" ++ message.toList)

def Envelope.prefixEip191Hash (self : Envelope) : Except String (FixedBytes 32) := do
  let envelopeBytes ← self.encodeData prim
  pure (eip191HashMessage prim (prim.keccak256 envelopeBytes))

def Envelope.prefixSep53Hash (self : Envelope) : Except String (FixedBytes 32) := do
  let envelopeBytes ← self.encodeData prim
  pure (prim.sha256 (utf8 "Stellar Signed Message:\n" ++ envelopeBytes))

def Envelope.unprefixedHash (self : Envelope) : Except String (FixedBytes 32) := do
  let envelopeBytes ← self.encodeData prim
  pure (prim.keccak256 envelopeBytes)

def prehashFor (signable : Envelope) : Option SignaturePrefix → Except SigningError (FixedBytes 32)
  | some .eip191 => (signable.prefixEip191Hash prim).mapError .dataHash
  | some .sep53 => (signable.prefixSep53Hash prim).mapError .dataHash
  | none => (signable.unprefixedHash prim).mapError .dataHash

namespace WavsSignature

def signerAddress (self : WavsSignature) (signable : Envelope) : Except SigningError ChainAddress :=
  match self with
  | .secp256k1 signature messagePrefix => do
    let signature ← (prim.signatureFromRaw signature).mapError .recoverSignerAddress
    let prehash ← prehashFor prim signable messagePrefix
    let address ← (prim.recoverAddressFromPrehash signature prehash).mapError .recoverSignerAddress
    pure (.evm address)
  | .ed25519 signature pubkey => do
    let prehash ← (signable.prefixSep53Hash prim).mapError .dataHash
    if !prim.verifyingKeyFromBytes pubkey then throw .ed25519Verify
    if !prim.verifyEd25519 pubkey prehash signature then throw .ed25519Verify
    pure (.stellarPubKey pubkey)

/-- An Ed25519 signer has no EVM address. -/
theorem ed25519_signerAddress (signature : FixedBytes 64) (pubkey : FixedBytes 32) (signable : Envelope)
    (address : Address) :
    (WavsSignature.ed25519 signature pubkey).signerAddress prim signable ≠ .ok (.evm address) := by
  intro recovered
  simp only [signerAddress] at recovered
  cases hashed : signable.prefixSep53Hash prim with
  | error error => simp [hashed,Except.mapError,bind,Except.bind] at recovered
  | ok prehash =>
    simp only [hashed,Except.mapError,bind,Except.bind] at recovered
    cases known : prim.verifyingKeyFromBytes pubkey <;>
      cases verified : prim.verifyEd25519 pubkey prehash signature <;>
        simp [known,verified,pure,Except.pure,throw,throwThe,MonadExceptOf.throw] at recovered

def secp256k1CompressedPubkey (self : WavsSignature) (signable : Envelope) :
    Except SigningError (FixedBytes 33) :=
  match self with
  | .ed25519 _ _ => .error (.wrongAddressKind .secp256k1 .ed25519)
  | .secp256k1 signature messagePrefix => do
    let rs : FixedBytes 64 := ⟨signature.toList.take 64,by simp [signature.size]⟩
    let v := signature.toList.getD 64 0
    let some kSig := prim.k256FromSlice rs
      | throw (.recoverSignerAddress "FromBytes(\"invalid secp256k1 r||s\")")
    let recid := if v ≥ 27 then v - 27 else v
    if recid > 3 then throw (.recoverSignerAddress "FromBytes(\"invalid recovery id\")")
    let prehash ← prehashFor prim signable messagePrefix
    let some vk := prim.recoverFromPrehash prehash kSig recid
      | throw (.recoverSignerAddress "FromBytes(\"recovery failed\")")
    let some pubkey := FixedBytes.ofList? 33 vk.sec1Bytes
      | throw (.recoverSignerAddress "FromBytes(\"expected 33-byte compressed pubkey\")")
    pure pubkey

end WavsSignature

structure SignatureData where
  signers : List Address
  signatures : List (List UInt8)
  referenceBlock : UInt32
  deriving DecidableEq

def signerAndSignature (signable : Envelope) (sig : WavsSignature) :
    Except SigningError (Address × List UInt8) := do
  let bytes ← match sig with
    | .secp256k1 signature _ => pure signature.toList
    | .ed25519 _ _ => throw (.wrongAddressKind .secp256k1 .ed25519)
  let signer ← sig.signerAddress prim signable
  let some address := signer.tryAsEvm
    | throw (.wrongAddressKind .secp256k1 .ed25519)
  pure (address,bytes)

/-- The signers in ascending order with their signatures; `sort_by_key` is stable. -/
def Envelope.evmSignatureData (self : Envelope) (signatures : List WavsSignature) (blockHeight : UInt64) :
    Except SigningError SignatureData := do
  let signersAndSignatures ← signatures.mapM (signerAndSignature prim self)
  let sorted := signersAndSignatures.insertionSort (fun a b => a.1 ≤ b.1)
  pure ⟨sorted.map Prod.fst,sorted.map Prod.snd,blockHeight.toUInt32⟩

end Hashes
end Warpdrive.Types
