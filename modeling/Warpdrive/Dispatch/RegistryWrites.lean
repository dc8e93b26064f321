import Warpdrive.Dispatch.RegistryFile

/-! The registry when its writes can fail. `append` and `remove` change what is in memory and then write
the file in steps, and a step that fails leaves the change in memory. -/
namespace Warpdrive.Dispatch

open Warpdrive.Foundation Warpdrive.Foundation.Execution Warpdrive.Types

/-- What one run of `write_locked` meets: the text, the directory, and a temporary file that is written,
synced and renamed over the old one. -/
structure WriteSteps where
  toStringPretty : Except String Unit
  createDirAll : Except String Unit
  newIn : Except String Unit
  writeAll : Except String Unit
  syncAll : Except String Unit
  persist : Except String Unit

namespace WriteSteps

def fine : WriteSteps := ⟨.ok (),.ok (),.ok (),.ok (),.ok (),.ok ()⟩

/-- The first step that fails ends the write. -/
def outcome (self : WriteSteps) : Except RegistryError Unit := do
  self.toStringPretty.mapError .json
  self.createDirAll.mapError .io
  self.newIn.mapError .io
  self.writeAll.mapError .io
  self.syncAll.mapError .io
  self.persist.mapError .persist

theorem bind_ne (check : Except String Unit) (wrap : String → RegistryError) (rest : Except RegistryError Unit)
    (error : RegistryError) (apart : ∀ reason, wrap reason ≠ error) (later : rest ≠ .error error) :
    (do check.mapError wrap
        rest) ≠ .error error := by
  cases check with
  | error reason =>
    intro same
    exact apart reason (Except.error.inj same)
  | ok _ => exact later

theorem outcome_ne (self : WriteSteps) : self.outcome ≠ .error .alreadyRegistered := by
  have renamed : self.persist.mapError RegistryError.persist ≠ .error .alreadyRegistered := by
    cases self.persist <;> simp [Except.mapError]
  unfold outcome
  apply bind_ne _ _ _ _ (by simp)
  apply bind_ne _ _ _ _ (by simp)
  apply bind_ne _ _ _ _ (by simp)
  apply bind_ne _ _ _ _ (by simp)
  apply bind_ne _ _ _ _ (by simp)
  exact renamed

end WriteSteps

namespace PersistedRegistry

variable (json : SerdeJson)

/-- `write_locked`, which replaces the file at its last step. -/
def tryWriteLocked (steps : WriteSteps) : Attempt PersistedRegistry RegistryError Unit := do
  .checks (fun _ => steps.outcome)
  .changes (writeLocked json)

def tryAppend (steps : WriteSteps) (manager : ServiceManager) : Attempt PersistedRegistry RegistryError UInt32 :=
  fun self =>
    if self.entries.any (fun entry => entry.serviceManager = manager) then (self,.error .alreadyRegistered)
    else
      match checkedSucc self.nextHdIndex with
      | none => (self,.error .hdIndexOverflow)
      | some next =>
        (do tryWriteLocked json steps
            pure self.nextHdIndex : Attempt PersistedRegistry RegistryError UInt32)
          {self with
            entries := self.entries ++ [⟨manager,self.nextHdIndex⟩]
            nextHdIndex := next}

def tryRemove (steps : WriteSteps) (manager : ServiceManager) : Attempt PersistedRegistry RegistryError Unit :=
  fun self =>
    match self.entries.findIdx? (fun entry => entry.serviceManager = manager) with
    | none => (self,.ok ())
    | some pos => tryWriteLocked json steps {self with entries := self.entries.eraseIdx pos}

theorem tryWriteLocked_eq (steps : WriteSteps) (self : PersistedRegistry) :
    tryWriteLocked json steps self =
      (match steps.outcome with
      | .ok _ => writeLocked json self
      | .error _ => self,steps.outcome) := by
  simp only [tryWriteLocked,Attempt.bind_run,Attempt.andThen,Attempt.checks_run,Attempt.changes_run]
  cases steps.outcome with
  | ok _ => rfl
  | error _ => rfl

/-- When no step fails, the calls are those of a registry whose writes succeed. -/
theorem tryAppend_fine (manager : ServiceManager) (self : PersistedRegistry) :
    tryAppend json .fine manager self = self.append json manager := by
  unfold tryAppend append
  split
  · rfl
  · cases checkedSucc self.nextHdIndex with
    | none => rfl
    | some next => rfl

theorem tryRemove_fine (manager : ServiceManager) (self : PersistedRegistry) :
    tryRemove json .fine manager self = (self.remove json manager,.ok ()) := by
  unfold tryRemove remove
  cases self.entries.findIdx? (fun entry => entry.serviceManager = manager) with
  | none => rfl
  | some pos => rfl

/-- The dispatcher's registry, with the outcome of the write, is this one with its file as text. -/
theorem tryAppend_ofRegistry (registry : ServiceRegistry) (steps : WriteSteps) (manager : ServiceManager) :
    tryAppend json steps manager (ofRegistry json registry) =
      (ofRegistry json (ServiceRegistry.append steps.outcome manager registry).1,
        (ServiceRegistry.append steps.outcome manager registry).2) := by
  have listed : ((ofRegistry json registry).entries.any fun entry => entry.serviceManager = manager) = true ↔
      registry.state.Lists manager := by
    simp [RegistryState.Lists,ofRegistry]
  unfold tryAppend ServiceRegistry.append
  by_cases taken : registry.state.Lists manager
  · rw [dif_pos taken,if_pos (listed.mpr taken)]
  · rw [dif_neg taken,if_neg (fun found => taken (listed.mp found))]
    simp only [Attempt.bind_run,Attempt.andThen,tryWriteLocked_eq,ServiceRegistry.writeLocked,Attempt.checks_run,
      Attempt.changes_run,ofRegistry]
    cases checkedSucc registry.state.nextHdIndex with
    | none => rfl
    | some next => cases steps.outcome <;> rfl

/-- The manager is entered: it is not listed and there is an index for it. -/
def Enters (self : PersistedRegistry) (manager : ServiceManager) (next : UInt32) : Prop :=
  manager ∉ self.entries.map RegistryEntry.serviceManager ∧ checkedSucc self.nextHdIndex = some next

theorem any_listed (self : PersistedRegistry) (manager : ServiceManager) :
    self.entries.any (fun entry => entry.serviceManager = manager) = true ↔
      manager ∈ self.entries.map RegistryEntry.serviceManager := by
  simp

/-- What an append does: it refuses before it changes anything, or it enters the manager and writes. -/
inductive Appended (self : PersistedRegistry) (steps : WriteSteps) (manager : ServiceManager) :
    PersistedRegistry × Except RegistryError UInt32 → Prop where
  | listed (there : manager ∈ self.entries.map RegistryEntry.serviceManager) :
    Appended self steps manager (self,.error .alreadyRegistered)
  | used (free : manager ∉ self.entries.map RegistryEntry.serviceManager)
    (none_left : checkedSucc self.nextHdIndex = none) : Appended self steps manager (self,.error .hdIndexOverflow)
  | entered (next : UInt32) (enters : self.Enters manager next) (written : steps.outcome = .ok ()) :
    Appended self steps manager (writeLocked json ⟨self.entries ++ [⟨manager,self.nextHdIndex⟩],next,
      self.contents⟩,.ok self.nextHdIndex)
  | unwritten (next : UInt32) (enters : self.Enters manager next) (error : RegistryError)
    (failed : steps.outcome = .error error) :
    Appended self steps manager (⟨self.entries ++ [⟨manager,self.nextHdIndex⟩],next,self.contents⟩,.error error)

theorem appended (self : PersistedRegistry) (steps : WriteSteps) (manager : ServiceManager) :
    Appended json self steps manager (tryAppend json steps manager self) := by
  unfold tryAppend
  split
  next there => exact .listed ((self.any_listed manager).mp there)
  next absent =>
    have free := fun there => absent ((self.any_listed manager).mpr there)
    cases fits : checkedSucc self.nextHdIndex with
    | none => exact .used free fits
    | some next =>
      simp only [Attempt.bind_run,Attempt.andThen,tryWriteLocked_eq]
      cases wrote : steps.outcome with
      | ok _ => exact .entered next ⟨free,fits⟩ wrote
      | error error => exact .unwritten next ⟨free,fits⟩ error wrote

/-- What a removal does: nothing, or it takes an entry out and writes. -/
inductive Removed (self : PersistedRegistry) (steps : WriteSteps) (manager : ServiceManager) :
    PersistedRegistry × Except RegistryError Unit → Prop where
  | unlisted (absent : manager ∉ self.entries.map RegistryEntry.serviceManager) :
    Removed self steps manager (self,.ok ())
  | erased (pos : Nat) (there : manager ∈ self.entries.map RegistryEntry.serviceManager)
    (written : steps.outcome = .ok ()) :
    Removed self steps manager (writeLocked json {self with entries := self.entries.eraseIdx pos},.ok ())
  | unwritten (pos : Nat) (there : manager ∈ self.entries.map RegistryEntry.serviceManager)
    (low : pos < self.entries.length) (error : RegistryError) (failed : steps.outcome = .error error) :
    Removed self steps manager ({self with entries := self.entries.eraseIdx pos},.error error)

theorem removed (self : PersistedRegistry) (steps : WriteSteps) (manager : ServiceManager) :
    Removed json self steps manager (tryRemove json steps manager self) := by
  unfold tryRemove
  cases found : self.entries.findIdx? (fun entry => entry.serviceManager = manager) with
  | none =>
    rw [List.findIdx?_eq_none_iff] at found
    refine .unlisted ?_
    intro there
    obtain ⟨entry,member,same⟩ := List.mem_map.mp there
    simpa [same] using found entry member
  | some pos =>
    obtain ⟨low,same,_⟩ := List.findIdx?_eq_some_iff_getElem.mp found
    have there : manager ∈ self.entries.map RegistryEntry.serviceManager :=
      List.mem_map.mpr ⟨self.entries[pos],List.getElem_mem low,of_decide_eq_true same⟩
    simp only [tryWriteLocked_eq]
    cases wrote : steps.outcome with
    | ok _ => exact .erased pos there wrote
    | error error => exact .unwritten pos there low error wrote

inductive Write where
  | append (manager : ServiceManager) (steps : WriteSteps)
  | remove (manager : ServiceManager) (steps : WriteSteps)

def step (self : PersistedRegistry) : Write → Option PersistedRegistry
  | .append manager steps => some (tryAppend json steps manager self).1
  | .remove manager steps => some (tryRemove json steps manager self).1

/-- A call that fails leaves the registry as it was, and an append that failed for another reason than a
duplicate can be tried again. -/
def Atomic (before : PersistedRegistry) (act : Write) (after : PersistedRegistry) : Prop :=
  match act with
  | .append manager steps => ∀ error, (tryAppend json steps manager before).2 = .error error → after = before ∧
    (error ≠ .alreadyRegistered → ∀ retry, (tryAppend json retry manager after).2 ≠ .error .alreadyRegistered)
  | .remove manager steps => ∀ error, (tryRemove json steps manager before).2 = .error error → after = before

/-- The file holds what is in memory. -/
def Agrees (self : PersistedRegistry) : Prop := load json self.contents = .ok self

/-- A call that comes to its write meets no failing step. -/
def Writes (before : PersistedRegistry) (act : Write) (_ : PersistedRegistry) : Prop :=
  match act with
  | .append manager steps => (∃ next, before.Enters manager next) → steps.outcome = .ok ()
  | .remove manager steps => manager ∈ before.entries.map RegistryEntry.serviceManager → steps.outcome = .ok ()

theorem retry_ne (self : PersistedRegistry) (retry : WriteSteps) (manager : ServiceManager)
    (free : manager ∉ self.entries.map RegistryEntry.serviceManager) :
    (tryAppend json retry manager self).2 ≠ .error .alreadyRegistered := by
  have call := appended json self retry manager
  generalize tryAppend json retry manager self = result at call
  cases call with
  | listed there => exact absurd there free
  | used _ _ => simp
  | entered next _ _ => simp
  | unwritten next _ error failed =>
    rintro same
    cases same
    exact retry.outcome_ne failed

theorem atomic_iff_writes (before after : PersistedRegistry) (act : Write) (taken : before.step json act = some after) :
    Atomic json before act after ↔ Writes before act after := by
  cases act with
  | append manager steps =>
    cases taken
    unfold Atomic Writes
    dsimp only
    have call := appended json before steps manager
    generalize tryAppend json steps manager before = result at call
    cases call with
    | listed there =>
      refine iff_of_true ?_ (fun entering => absurd there entering.choose_spec.1)
      intro error failed
      cases failed
      exact ⟨rfl,fun other => absurd rfl other⟩
    | used free none_left =>
      refine iff_of_true ?_ ?_
      · intro error failed
        exact ⟨rfl,fun _ retry => retry_ne json before retry manager free⟩
      · rintro ⟨next,_,fits⟩
        rw [none_left] at fits
        cases fits
    | entered next enters written =>
      refine iff_of_true ?_ (fun _ => written)
      intro error failed
      cases failed
    | unwritten next enters error failed =>
      refine iff_of_false ?_ ?_
      · intro atomic
        have longer := congrArg (fun registry => registry.entries.length) (atomic error rfl).1
        simp at longer
      · intro writes
        rw [writes ⟨next,enters⟩] at failed
        cases failed
  | remove manager steps =>
    cases taken
    unfold Atomic Writes
    dsimp only
    have call := removed json before steps manager
    generalize tryRemove json steps manager before = result at call
    cases call with
    | unlisted absent => exact iff_of_true (fun error failed => by cases failed) (fun there => absurd there absent)
    | erased pos there written => exact iff_of_true (fun error failed => by cases failed) (fun _ => written)
    | unwritten pos there low error failed =>
      refine iff_of_false ?_ ?_
      · intro atomic
        have shorter := congrArg (fun registry => registry.entries.length) (atomic error rfl)
        simp only [List.length_eraseIdx,if_pos low] at shorter
        omega
      · intro writes
        rw [writes there] at failed
        cases failed

/-- A call that comes to its write and completes it leaves memory and file in agreement. -/
theorem agrees_step (trips : json.RoundTrips) (before after : PersistedRegistry) (act : Write)
    (taken : before.step json act = some after) (writes : Writes before act after) (agrees : Agrees json before) :
    Agrees json after := by
  cases act with
  | append manager steps =>
    cases taken
    have call := appended json before steps manager
    generalize tryAppend json steps manager before = result at call
    cases call with
    | listed there => exact agrees
    | used free none_left => exact agrees
    | entered next enters written => exact load_writeLocked json trips _
    | unwritten next enters error failed =>
      rw [writes ⟨next,enters⟩] at failed
      cases failed
  | remove manager steps =>
    cases taken
    have call := removed json before steps manager
    generalize tryRemove json steps manager before = result at call
    cases call with
    | unlisted absent => exact agrees
    | erased pos there written => exact load_writeLocked json trips _
    | unwritten pos there low error failed =>
      rw [writes there] at failed
      cases failed

theorem agrees_load (contents : Option String) (start : PersistedRegistry) (loaded : load json contents = .ok start) :
    Agrees json start := by
  have kept : start.contents = contents := by
    unfold load at loaded
    cases contents with
    | none =>
      cases loaded
      rfl
    | some text =>
      dsimp only at loaded
      split at loaded
      · cases loaded
      · split at loaded
        · cases loaded
        · cases loaded
          rfl
  rw [Agrees,kept,loaded]

/-- A call on any registry is atomic exactly when it meets no failing step where it comes to its write. From
a registry that was loaded, memory and file agree after every call of a run and every call is atomic exactly
when every call is so. -/
theorem registry_atomic_iff (trips : json.RoundTrips) :
    (∀ before act after, before.step json act = some after →
      (Atomic json before act after ↔ Writes before act after)) ∧
    ∀ contents start acts, load json contents = .ok start →
      (Along (step json) (fun before act after => Atomic json before act after ∧ Agrees json after) start acts ↔
        Along (step json) Writes start acts) := by
  refine ⟨fun before act after taken => atomic_iff_writes json before after act taken,?_⟩
  intro contents start acts loaded
  refine along_iff_of_invariant Writes _ (Agrees json) ?_ ?_ start acts (agrees_load json contents start loaded)
  · intro before act after taken agrees
    constructor
    · rintro ⟨atomic,_⟩
      exact (atomic_iff_writes json before after act taken).mp atomic
    · intro writes
      exact ⟨(atomic_iff_writes json before after act taken).mpr writes,
        agrees_step json trips before after act taken writes agrees⟩
  · intro before act after taken writes agrees
    exact agrees_step json trips before after act taken writes agrees

/-- A full disk at the last step of the write. -/
def fullDisk : WriteSteps := {WriteSteps.fine with persist := .error "No space left on device (os error 28)"}

theorem fullDisk_atomic_iff :
    Along (step Issuing.launchedJson) (fun before act after =>
        Atomic Issuing.launchedJson before act after ∧ Agrees Issuing.launchedJson after)
      ⟨[],1,none⟩ [.append deployedService.manager fullDisk] ↔
    Along (step Issuing.launchedJson) Writes ⟨[],1,none⟩ [.append deployedService.manager fullDisk] :=
  (registry_atomic_iff Issuing.launchedJson Issuing.launchedJson_roundTrips).2 none ⟨[],1,none⟩
    [.append deployedService.manager fullDisk] rfl

/-- The manager stays in memory, and appending it again is refused. -/
theorem fullDisk_kept :
    ¬Along (step Issuing.launchedJson) (fun before act after =>
        Atomic Issuing.launchedJson before act after ∧ Agrees Issuing.launchedJson after)
      ⟨[],1,none⟩ [.append deployedService.manager fullDisk] := by
  intro along
  have unchanged := (along.1.1 _ rfl).1
  have entered := congrArg (fun registry => registry.entries.length) unchanged
  cases entered

end PersistedRegistry
end Warpdrive.Dispatch
