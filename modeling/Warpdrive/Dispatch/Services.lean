import Warpdrive.Foundation.Attempt
import Warpdrive.Foundation.Maps
import Warpdrive.Types.ChainConfig
import Warpdrive.Types.Submission

/-! The stores that the dispatcher keeps its services in: the services table (`services.rs`),
the persisted registry of service managers (`service_registry.rs`) and the signers of the
submission manager (`subsystems/submission.rs`). Answers of a chain and outcomes of a file write
are arguments; the keys of the signing mnemonic are a parameter. -/
namespace Warpdrive.Dispatch

open Warpdrive.Foundation Warpdrive.Types

structure StellarServiceManagerContracts where
  verifier : FixedBytes 32
  security : FixedBytes 32
  deriving DecidableEq

structure Services where
  services : WavsDbTable ServiceId Service
  stellarServiceManagerContracts : WavsDbTable ServiceId StellarServiceManagerContracts

/-- What the project root of a Stellar service manager answers to `save`. -/
structure ProjectRoot where
  env : Except String Unit
  verificationContract : Except String (FixedBytes 32)
  securityContract : Except String (FixedBytes 32)

namespace Services

def new : Services := ⟨.new,.new⟩

def get (self : Services) (id : ServiceId) : Except ServicesError Service :=
  match self.services.getCloned id with
  | some service => .ok service
  | none => .error (.unknownService id)

def contains (self : Services) (id : ServiceId) : Bool := (self.services.getCloned id).isSome

def isActive (self : Services) (id : ServiceId) : Bool :=
  match self.services.getCloned id with
  | some service => service.status = .active
  | none => false

def getSignatureKind (self : Services) (id : ServiceId) : Except ServicesError SignatureKind :=
  match self.services.getCloned id with
  | some service => .ok service.signatureKind
  | none => .error (.unknownService id)

def remove (self : Services) (id : ServiceId) : Services := {self with services := self.services.remove id}

variable (prim : IdPrimitives)

/-- The first statement of `save`. -/
def insert (self : Services) (service : Service) : Services :=
  {self with services := self.services.insert (service.id prim) service}

/-- The contracts of a Stellar service manager, as `save` queries them. -/
def queryContracts (chainConfigs : ChainConfigs) (root : ProjectRoot) (manager : ServiceManager) :
    Except ServicesError (Option StellarServiceManagerContracts) :=
  match manager with
  | .stellar chain _ =>
    match chainConfigs.getChain chain with
    | some (.stellar _) => do
      root.env.mapError (fun reason => .stellarChainQuery chain ("soroban env: " ++ reason))
      let verifier ← root.verificationContract.mapError
        (fun reason => .stellarChainQuery chain ("project_root.verification_contract: " ++ reason))
      let security ← root.securityContract.mapError
        (fun reason => .stellarChainQuery chain ("project_root.security: " ++ reason))
      pure (some ⟨verifier,security⟩)
    | _ => .error (.missingChainConfig chain)
  | _ => .ok none

def insertContracts (self : Services) (id : ServiceId) (contracts : Option StellarServiceManagerContracts) :
    Services :=
  match contracts with
  | some contracts =>
    {self with stellarServiceManagerContracts := self.stellarServiceManagerContracts.insert id contracts}
  | none => self

/-- What `save` does after the insert. -/
def populate (chainConfigs : ChainConfigs) (root : ProjectRoot) (service : Service) :
    Attempt Services ServicesError Unit := do
  let contracts ← .checks (fun _ => queryContracts chainConfigs root service.manager)
  .changes (fun self => self.insertContracts (service.id prim) contracts)

def save (chainConfigs : ChainConfigs) (root : ProjectRoot) (service : Service) :
    Attempt Services ServicesError Unit := do
  .changes (fun self => self.insert prim service)
  populate prim chainConfigs root service

@[simp] theorem services_insertContracts (self : Services) (id : ServiceId)
    (contracts : Option StellarServiceManagerContracts) :
    (self.insertContracts id contracts).services = self.services := by
  cases contracts <;> rfl

theorem services_populate (chainConfigs : ChainConfigs) (root : ProjectRoot) (service : Service) (self : Services) :
    (populate prim chainConfigs root service self).1.services = self.services := by
  simp only [populate,Attempt.bind_run,Attempt.andThen,Attempt.checks_run]
  cases queryContracts chainConfigs root service.manager <;> simp

theorem services_save (chainConfigs : ChainConfigs) (root : ProjectRoot) (service : Service) (self : Services) :
    (save prim chainConfigs root service self).1.services = self.services.insert (service.id prim) service :=
  services_populate prim chainConfigs root service (self.insert prim service)

theorem outcome_save (chainConfigs : ChainConfigs) (root : ProjectRoot) (service : Service) (self : Services) :
    (save prim chainConfigs root service self).2 =
      (queryContracts chainConfigs root service.manager).map (fun _ => ()) := by
  simp only [save,populate,Attempt.bind_run,Attempt.andThen,Attempt.checks_run,Attempt.changes_run]
  cases queryContracts chainConfigs root service.manager <;> rfl

end Services

/-- One more, when it fits. -/
def checkedSucc (index : UInt32) : Option UInt32 :=
  if index.toNat + 1 < UInt32.size then some (index + 1) else none

structure RegistryEntry where
  serviceManager : ServiceManager
  hdIndex : UInt32
  deriving DecidableEq

structure RegistryState where
  entries : List RegistryEntry
  nextHdIndex : UInt32
  distinct : (entries.map RegistryEntry.serviceManager).Nodup

/-- The registry in memory and, once it has been written, as the file holds it. -/
structure ServiceRegistry where
  state : RegistryState
  file : Option RegistryState

inductive RegistryError
  | io (reason : String)
  | json (reason : String)
  | persist (reason : String)
  | alreadyRegistered
  | hdIndexOverflow
  | unsupportedVersion (found : UInt32)
  deriving DecidableEq

namespace RegistryState

def Lists (self : RegistryState) (manager : ServiceManager) : Prop :=
  manager ∈ self.entries.map RegistryEntry.serviceManager

instance (self : RegistryState) (manager : ServiceManager) : Decidable (self.Lists manager) :=
  inferInstanceAs (Decidable (manager ∈ _))

def push (self : RegistryState) (manager : ServiceManager) (next : UInt32) (free : ¬self.Lists manager) :
    RegistryState where
  entries := self.entries ++ [⟨manager,self.nextHdIndex⟩]
  nextHdIndex := next
  distinct := by
    rw [List.map_append,List.nodup_append]
    refine ⟨self.distinct,List.nodup_singleton _,?_⟩
    intro first member second last same
    rw [List.map_singleton,List.mem_singleton] at last
    rw [same,last] at member
    exact free member

/-- The first entry of a manager goes. -/
def erase (self : RegistryState) (manager : ServiceManager) : RegistryState where
  entries := self.entries.eraseP (fun entry => entry.serviceManager = manager)
  nextHdIndex := self.nextHdIndex
  distinct := self.distinct.sublist (List.eraseP_sublist.map _)

theorem mem_erase (self : RegistryState) (manager : ServiceManager) (entry : RegistryEntry) :
    entry ∈ (self.erase manager).entries ↔ entry ∈ self.entries ∧ entry.serviceManager ≠ manager := by
  obtain ⟨entries,next,distinct⟩ := self
  change entry ∈ entries.eraseP _ ↔ entry ∈ entries ∧ _
  induction entries with
  | nil => simp
  | cons first rest ih =>
    rw [List.map_cons,List.nodup_cons] at distinct
    by_cases same : first.serviceManager = manager
    · have apart : ∀ other ∈ rest, other.serviceManager ≠ manager := by
        intro other member equal
        exact distinct.1 (List.mem_map.mpr ⟨other,member,equal.trans same.symm⟩)
      simp only [List.eraseP_cons,same,decide_true,cond_true,List.mem_cons]
      constructor
      · intro member
        exact ⟨.inr member,apart entry member⟩
      · rintro ⟨rfl | member,differ⟩
        · exact absurd same differ
        · exact member
    · simp only [List.eraseP_cons,same,decide_false,cond_false,List.mem_cons,ih distinct.2]
      constructor
      · rintro (rfl | ⟨member,differ⟩)
        · exact ⟨.inl rfl,same⟩
        · exact ⟨.inr member,differ⟩
      · rintro ⟨rfl | member,differ⟩
        · exact .inl rfl
        · exact .inr ⟨member,differ⟩

/-- Erasing the manager that was pushed last gives the entries back. -/
theorem entries_erase_push (self : RegistryState) (manager : ServiceManager) (next : UInt32)
    (free : ¬self.Lists manager) : ((self.push manager next free).erase manager).entries = self.entries := by
  have absent : ∀ entry ∈ self.entries, ¬(decide (entry.serviceManager = manager) = true) := by
    intro entry member same
    exact free (List.mem_map.mpr ⟨entry,member,of_decide_eq_true same⟩)
  change (self.entries ++ [_]).eraseP _ = _
  rw [List.eraseP_append_right _ absent]
  simp

end RegistryState

namespace ServiceRegistry

/-- `load`, of the file as `write_locked` leaves it. -/
def load (file : Option RegistryState) : ServiceRegistry := ⟨file.getD ⟨[],1,List.nodup_nil⟩,file⟩

def entries (self : ServiceRegistry) : List RegistryEntry := self.state.entries

def writeLocked (write : Except RegistryError Unit) : Attempt ServiceRegistry RegistryError Unit := do
  .checks (fun _ => write)
  .changes (fun self => {self with file := some self.state})

def append (write : Except RegistryError Unit) (manager : ServiceManager) :
    Attempt ServiceRegistry RegistryError UInt32 := fun self =>
  if listed : self.state.Lists manager then (self,.error .alreadyRegistered)
  else
    match checkedSucc self.state.nextHdIndex with
    | none => (self,.error .hdIndexOverflow)
    | some next =>
      (do writeLocked write
          pure self.state.nextHdIndex : Attempt ServiceRegistry RegistryError UInt32)
        {self with state := self.state.push manager next listed}

def remove (write : Except RegistryError Unit) (manager : ServiceManager) :
    Attempt ServiceRegistry RegistryError Unit := fun self =>
  if self.state.Lists manager then writeLocked write {self with state := self.state.erase manager}
  else (self,.ok ())

theorem state_writeLocked (write : Except RegistryError Unit) (self : ServiceRegistry) :
    (writeLocked write self).1.state = self.state := by
  simp only [writeLocked,Attempt.bind_run,Attempt.andThen,Attempt.checks_run]
  cases write <;> rfl

/-- What `append` does: it refuses a manager it lists and an index that is used up, and else
the manager is entered, also when the write fails. -/
theorem append_cases (write : Except RegistryError Unit) (manager : ServiceManager) (self : ServiceRegistry) :
    (∃ error, append write manager self = (self,.error error) ∧
        (self.state.Lists manager ∨ checkedSucc self.state.nextHdIndex = none)) ∨
      ∃ (free : ¬self.state.Lists manager) (next : UInt32), checkedSucc self.state.nextHdIndex = some next ∧
        (append write manager self).1.state = self.state.push manager next free ∧
        (append write manager self).2 = write.map (fun _ => self.state.nextHdIndex) := by
  unfold append
  split
  · next listed => exact .inl ⟨_,rfl,.inl listed⟩
  · next free =>
    split
    · next used => exact .inl ⟨_,rfl,.inr used⟩
    · next next fits =>
      refine .inr ⟨free,next,fits,?_⟩
      cases write with
      | error error => exact ⟨rfl,rfl⟩
      | ok written => exact ⟨rfl,rfl⟩

/-- Removing the manager that was entered last gives the entries back. -/
theorem entries_remove_push (write : Except RegistryError Unit) (manager : ServiceManager) (next : UInt32)
    (state : RegistryState) (free : ¬state.Lists manager) (self : ServiceRegistry)
    (pushed : self.state = state.push manager next free) :
    (remove write manager self).1.entries = state.entries := by
  have listed : self.state.Lists manager := by
    rw [pushed]
    exact List.mem_map.mpr ⟨_,List.mem_append_right _ List.mem_cons_self,rfl⟩
  rw [remove,if_pos listed,entries,state_writeLocked]
  change (self.state.erase manager).entries = state.entries
  rw [pushed]
  exact state.entries_erase_push manager next free

theorem outcome_remove (manager : ServiceManager) (self : ServiceRegistry) :
    (remove (.ok ()) manager self).2 = .ok () := by
  unfold remove
  split <;> rfl

theorem mem_remove (write : Except RegistryError Unit) (manager : ServiceManager) (self : ServiceRegistry)
    (entry : RegistryEntry) : entry ∈ (remove write manager self).1.state.entries ↔
      entry ∈ self.state.entries ∧ entry.serviceManager ≠ manager := by
  unfold remove
  split
  · rw [state_writeLocked]
    exact self.state.mem_erase manager entry
  · next unlisted =>
    refine ⟨fun member => ⟨member,?_⟩,And.left⟩
    rintro rfl
    exact unlisted (List.mem_map_of_mem member)

end ServiceRegistry

structure SignerInfo where
  signer : VectrSigner
  hdIndex : UInt32

structure SubmissionManager where
  signers : HashMap ServiceId SignerInfo
  signingMnemonicHdIndexCount : UInt32

/-- `make_signer` and `make_stellar_signer` on the signing mnemonic. -/
structure Mnemonic where
  makeSigner : UInt32 → Except String (FixedBytes 32 → Except String (List UInt8))
  makeStellarSigner : UInt32 → Except String ((FixedBytes 32 → FixedBytes 64) × FixedBytes 32)

def Mnemonic.signer (self : Mnemonic) (id : ServiceId) (kind : SignatureKind) (hdIndex : UInt32) :
    Except SubmissionError VectrSigner :=
  match kind.algorithm with
  | .secp256k1 =>
    match self.makeSigner hdIndex with
    | .error error => .error (.failedToCreateEvmSigner id error)
    | .ok inner => .ok (if kind.messagePrefix.isNone then .evmNoPrefix inner else .evm inner)
  | .ed25519 =>
    match self.makeStellarSigner hdIndex with
    | .error error => .error (.failedToCreateStellarSigner id error)
    | .ok (sign,verifyingKey) => .ok (.stellar sign verifyingKey)

namespace SubmissionManager

def new : SubmissionManager := ⟨.new,1⟩

def hdIndexOf (self : SubmissionManager) (id : ServiceId) : Option UInt32 :=
  (self.signers.get id).map SignerInfo.hdIndex

def getServiceSigner (self : SubmissionManager) (id : ServiceId) : Except SubmissionError SignerInfo :=
  match self.signers.get id with
  | some info => .ok info
  | none => .error (.missingServiceKey id)

variable (mnemonic : Mnemonic)

/-- `add_service_key`. The next free index is taken also when the caller gives one. -/
def addServiceKey (services : Services) (id : ServiceId) (hdIndex : Option UInt32) :
    Attempt SubmissionManager SubmissionError Unit := do
  let count ← .reads signingMnemonicHdIndexCount
  .changes (fun self => {self with signingMnemonicHdIndexCount := count + 1})
  let hdIndex := hdIndex.getD count
  let nextIndex ← .checks (fun _ =>
    match checkedSucc hdIndex with
    | some next => .ok next
    | none => .error .hdIndexOverflow)
  .changes (fun self =>
    {self with signingMnemonicHdIndexCount := max self.signingMnemonicHdIndexCount nextIndex})
  let kind ← .checks (fun _ => (services.getSignatureKind id).mapError .services)
  let signer ← .checks (fun _ => mnemonic.signer id kind hdIndex)
  .changes (fun self => {self with signers := self.signers.insert id ⟨signer,hdIndex⟩})

/-- A key can be made for a service of this kind at this index. -/
def Derives (kind : SignatureKind) (hdIndex : UInt32) : Prop :=
  checkedSucc hdIndex ≠ none ∧
    match kind.algorithm with
    | .secp256k1 => ∃ inner, mnemonic.makeSigner hdIndex = .ok inner
    | .ed25519 => ∃ inner, mnemonic.makeStellarSigner hdIndex = .ok inner

theorem signer_ok_iff (id : ServiceId) (kind : SignatureKind) (hdIndex : UInt32) :
    (∃ signer, mnemonic.signer id kind hdIndex = .ok signer) ↔
      match kind.algorithm with
      | .secp256k1 => ∃ inner, mnemonic.makeSigner hdIndex = .ok inner
      | .ed25519 => ∃ inner, mnemonic.makeStellarSigner hdIndex = .ok inner := by
  unfold Mnemonic.signer
  cases kind.algorithm with
  | secp256k1 => cases mnemonic.makeSigner hdIndex <;> simp
  | ed25519 => cases mnemonic.makeStellarSigner hdIndex <;> simp

/-- With an index given, `add_service_key` fails and changes no signer, or puts a signer of that
index at the service. -/
theorem addServiceKey_cases (services : Services) (id : ServiceId) (hdIndex : UInt32) (self : SubmissionManager) :
    (∃ error, (addServiceKey mnemonic services id (some hdIndex) self).2 = .error error ∧
        (addServiceKey mnemonic services id (some hdIndex) self).1.signers = self.signers) ∨
      ∃ signer, (addServiceKey mnemonic services id (some hdIndex) self).2 = .ok () ∧
        (addServiceKey mnemonic services id (some hdIndex) self).1.signers =
          self.signers.insert id ⟨signer,hdIndex⟩ := by
  simp only [addServiceKey,Attempt.bind_run,Attempt.andThen,Attempt.reads_run,Attempt.changes_run,
    Attempt.checks_run,Option.getD_some]
  cases checkedSucc hdIndex with
  | none => exact .inl ⟨_,rfl,rfl⟩
  | some next =>
    cases services.getSignatureKind id with
    | error error => exact .inl ⟨_,rfl,rfl⟩
    | ok kind =>
      simp only [Except.mapError]
      cases mnemonic.signer id kind hdIndex with
      | error error => exact .inl ⟨_,rfl,rfl⟩
      | ok signer => exact .inr ⟨signer,rfl,rfl⟩

theorem addServiceKey_ok_iff (services : Services) (id : ServiceId) (service : Service) (hdIndex : UInt32)
    (self : SubmissionManager) (stored : services.services.getCloned id = some service) :
    (addServiceKey mnemonic services id (some hdIndex) self).2 = .ok () ↔
      Derives mnemonic service.signatureKind hdIndex := by
  have kind : services.getSignatureKind id = .ok service.signatureKind := by
    simp only [Services.getSignatureKind,stored]
  unfold Derives
  rw [← signer_ok_iff mnemonic id]
  simp only [addServiceKey,Attempt.bind_run,Attempt.andThen,Attempt.reads_run,Attempt.changes_run,
    Attempt.checks_run,Option.getD_some,kind,Except.mapError]
  cases checkedSucc hdIndex with
  | none => simp
  | some next => cases mnemonic.signer id service.signatureKind hdIndex <;> simp

end SubmissionManager
end Warpdrive.Dispatch
