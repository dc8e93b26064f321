import Mathlib.Data.FinEnum
import Mathlib.Logic.Equiv.List
import Mathlib.Tactic.DeriveCountable
import Warpdrive.Foundation.Execution
import Warpdrive.Dispatch.Services

/-! The persisted registry with its file as text (`service_registry.rs`): every change writes the
whole registry, and `load` reads it back. Writes succeed; what `serde_json` makes of a record is a
parameter. -/
namespace Warpdrive.Dispatch

open Warpdrive.Foundation Warpdrive.Foundation.Execution Warpdrive.Types

structure RegistryFile where
  version : UInt32
  nextHdIndex : UInt32
  services : List RegistryEntry
  deriving DecidableEq

def registryVersion : UInt32 := 1

structure SerdeJson where
  toStringPretty : RegistryFile → String
  fromStr : String → Except String RegistryFile

def SerdeJson.RoundTrips (json : SerdeJson) : Prop :=
  ∀ file, json.fromStr (json.toStringPretty file) = .ok file

/-- The entries and the counter in memory, and the text at the registry's path. -/
structure PersistedRegistry where
  entries : List RegistryEntry
  nextHdIndex : UInt32
  contents : Option String

namespace PersistedRegistry

variable (json : SerdeJson)

def load (contents : Option String) : Except RegistryError PersistedRegistry :=
  match contents with
  | none => .ok ⟨[],1,none⟩
  | some text =>
    match json.fromStr text with
    | .error reason => .error (.json reason)
    | .ok file =>
      if file.version ≠ registryVersion then .error (.unsupportedVersion file.version)
      else .ok ⟨file.services,file.nextHdIndex,some text⟩

def writeLocked (self : PersistedRegistry) : PersistedRegistry :=
  {self with contents := some (json.toStringPretty ⟨registryVersion,self.nextHdIndex,self.entries⟩)}

def append (self : PersistedRegistry) (manager : ServiceManager) :
    PersistedRegistry × Except RegistryError UInt32 :=
  if self.entries.any (fun entry => entry.serviceManager = manager) then (self,.error .alreadyRegistered)
  else
    match checkedSucc self.nextHdIndex with
    | none => (self,.error .hdIndexOverflow)
    | some next =>
      (writeLocked json {self with
        entries := self.entries ++ [⟨manager,self.nextHdIndex⟩]
        nextHdIndex := next},.ok self.nextHdIndex)

def remove (self : PersistedRegistry) (manager : ServiceManager) : PersistedRegistry :=
  match self.entries.findIdx? (fun entry => entry.serviceManager = manager) with
  | none => self
  | some pos => writeLocked json {self with entries := self.entries.eraseIdx pos}

/-- A registry of the dispatcher, with the text of what it has written. -/
def ofRegistry (registry : ServiceRegistry) : PersistedRegistry :=
  ⟨registry.state.entries,registry.state.nextHdIndex,
    registry.file.map (fun file => json.toStringPretty ⟨registryVersion,file.nextHdIndex,file.entries⟩)⟩

theorem append_ofRegistry (registry : ServiceRegistry) (manager : ServiceManager) :
    (ofRegistry json registry).append json manager =
      (ofRegistry json (ServiceRegistry.append (.ok ()) manager registry).1,
        (ServiceRegistry.append (.ok ()) manager registry).2) := by
  have listed : (registry.state.entries.any fun entry => entry.serviceManager = manager) = true ↔
      registry.state.Lists manager := by
    simp [RegistryState.Lists]
  unfold append ServiceRegistry.append ofRegistry
  by_cases taken : registry.state.Lists manager
  · rw [if_pos (listed.mpr taken),dif_pos taken]
  · rw [if_neg (fun found => taken (listed.mp found)),dif_neg taken]
    dsimp only
    cases checkedSucc registry.state.nextHdIndex <;> rfl

theorem remove_ofRegistry (registry : ServiceRegistry) (manager : ServiceManager) :
    (ofRegistry json registry).remove json manager =
      ofRegistry json (ServiceRegistry.remove (.ok ()) manager registry).1 := by
  unfold remove ServiceRegistry.remove ofRegistry
  dsimp only
  cases found : registry.state.entries.findIdx? (fun entry => entry.serviceManager = manager) with
  | none =>
    have unlisted : ¬registry.state.Lists manager := by
      simpa [RegistryState.Lists,List.findIdx?_eq_none_iff] using found
    rw [if_neg unlisted]
  | some pos =>
    have listed : registry.state.Lists manager := by
      by_contra unlisted
      have none : registry.state.entries.findIdx? (fun entry => entry.serviceManager = manager) = none := by
        simpa [RegistryState.Lists,List.findIdx?_eq_none_iff] using unlisted
      rw [found] at none
      cases none
    have erased : registry.state.entries.eraseP (fun entry => entry.serviceManager = manager) =
        registry.state.entries.eraseIdx pos := by
      rw [List.eraseP_eq_eraseIdx,found]
    rw [if_pos listed]
    simp [writeLocked,ServiceRegistry.writeLocked,Attempt.bind_run,Attempt.andThen,RegistryState.erase,erased]

theorem load_writeLocked (trips : json.RoundTrips) (self : PersistedRegistry) :
    load json (writeLocked json self).contents = .ok (writeLocked json self) := by
  simp [load,writeLocked,trips _]

/-- `append` refuses and changes nothing, or gives the manager the next index. -/
theorem append_cases (self : PersistedRegistry) (manager : ServiceManager) :
    (∃ error, self.append json manager = (self,.error error)) ∨
      manager ∉ self.entries.map RegistryEntry.serviceManager ∧
        ∃ next, checkedSucc self.nextHdIndex = some next ∧
          self.append json manager = (writeLocked json ⟨self.entries ++ [⟨manager,self.nextHdIndex⟩],next,
            self.contents⟩,.ok self.nextHdIndex) := by
  unfold append
  split
  · exact .inl ⟨_,rfl⟩
  · next unlisted =>
    split
    · exact .inl ⟨_,rfl⟩
    · next next fits =>
      refine .inr ⟨?_,next,fits,rfl⟩
      intro listed
      exact unlisted (by simpa using listed)

/-- `remove` changes nothing, or takes an entry out and writes. -/
theorem remove_cases (self : PersistedRegistry) (manager : ServiceManager) :
    self.remove json manager = self ∨
      ∃ pos, self.remove json manager = writeLocked json {self with entries := self.entries.eraseIdx pos} := by
  unfold remove
  split
  · exact .inl rfl
  · exact .inr ⟨_,rfl⟩

end PersistedRegistry

theorem checkedSucc_toNat (index next : UInt32) (fits : checkedSucc index = some next) :
    next.toNat = index.toNat + 1 := by
  unfold checkedSucc at fits
  split at fits
  · next small =>
    cases fits
    exact Nat.mod_eq_of_lt small
  · cases fits

inductive RegistryCall
  | append (manager : ServiceManager)
  | remove (manager : ServiceManager)
  | reload

/-- A registry with the indices that `append` has returned, in that order. -/
structure Issuing where
  registry : PersistedRegistry
  issued : List UInt32

namespace Issuing

open PersistedRegistry

variable (json : SerdeJson)

/-- `load` of a missing file. -/
def started : Issuing := ⟨⟨[],1,none⟩,[]⟩

/-- A reload that fails leaves no registry. -/
def step (state : Issuing) : RegistryCall → Option Issuing
  | .append manager =>
    some (match state.registry.append json manager with
      | (registry,.ok hdIndex) => ⟨registry,state.issued ++ [hdIndex]⟩
      | (registry,.error _) => ⟨registry,state.issued⟩)
  | .remove manager => some {state with registry := state.registry.remove json manager}
  | .reload =>
    match load json state.registry.contents with
    | .ok registry => some {state with registry}
    | .error _ => none

/-- Nothing is shared, nothing was returned twice, and the file holds what is in memory. -/
structure Sound (state : Issuing) : Prop where
  managers : (state.registry.entries.map RegistryEntry.serviceManager).Nodup
  indices : (state.registry.entries.map RegistryEntry.hdIndex).Nodup
  below : ∀ entry ∈ state.registry.entries, entry.hdIndex < state.registry.nextHdIndex
  unrepeated : state.issued.Nodup
  spent : ∀ hdIndex ∈ state.issued, hdIndex < state.registry.nextHdIndex
  reloads : load json state.registry.contents = .ok state.registry

theorem sound_started : Sound json started where
  managers := List.nodup_nil
  indices := List.nodup_nil
  below _ member := absurd member List.not_mem_nil
  unrepeated := List.nodup_nil
  spent _ member := absurd member List.not_mem_nil
  reloads := rfl

theorem nodup_concat {A : Type} (values : List A) (value : A) (distinct : values.Nodup) (fresh : value ∉ values) :
    (values ++ [value]).Nodup := by
  rw [List.nodup_append]
  refine ⟨distinct,List.nodup_singleton value,?_⟩
  intro first member second last same
  rw [same,List.mem_singleton.mp last] at member
  exact fresh member

theorem Sound.append {state : Issuing} (sound : Sound json state) (trips : json.RoundTrips) (manager : ServiceManager)
    (next : UInt32) (unlisted : manager ∉ state.registry.entries.map RegistryEntry.serviceManager)
    (fits : checkedSucc state.registry.nextHdIndex = some next) :
    Sound json ⟨writeLocked json ⟨state.registry.entries ++ [⟨manager,state.registry.nextHdIndex⟩],next,
      state.registry.contents⟩,state.issued ++ [state.registry.nextHdIndex]⟩ := by
  have advances : state.registry.nextHdIndex < next := by
    rw [UInt32.lt_iff_toNat_lt,checkedSucc_toNat _ _ fits]
    omega
  have fresh : ∀ indices : List UInt32, (∀ index ∈ indices, index < state.registry.nextHdIndex) →
      state.registry.nextHdIndex ∉ indices := by
    intro indices smaller member
    exact UInt32.lt_irrefl _ (smaller _ member)
  constructor
  · change ((state.registry.entries ++ _).map _).Nodup
    rw [List.map_append]
    exact nodup_concat _ _ sound.managers unlisted
  · change ((state.registry.entries ++ _).map _).Nodup
    rw [List.map_append]
    refine nodup_concat _ _ sound.indices (fresh _ ?_)
    intro index member
    obtain ⟨entry,present,rfl⟩ := List.mem_map.mp member
    exact sound.below entry present
  · intro entry member
    rcases List.mem_append.mp member with earlier | last
    · exact UInt32.lt_trans (sound.below entry earlier) advances
    · rw [List.mem_singleton.mp last]
      exact advances
  · exact nodup_concat _ _ sound.unrepeated (fresh _ sound.spent)
  · intro index member
    rcases List.mem_append.mp member with earlier | last
    · exact UInt32.lt_trans (sound.spent index earlier) advances
    · rw [List.mem_singleton.mp last]
      exact advances
  · exact load_writeLocked json trips _

theorem Sound.remove {state : Issuing} (sound : Sound json state) (trips : json.RoundTrips) (pos : Nat) :
    Sound json ⟨writeLocked json {state.registry with entries := state.registry.entries.eraseIdx pos},
      state.issued⟩ := by
  have fewer : (state.registry.entries.eraseIdx pos).Sublist state.registry.entries := List.eraseIdx_sublist _ _
  exact {
    managers := sound.managers.sublist (fewer.map _)
    indices := sound.indices.sublist (fewer.map _)
    below := fun entry member => sound.below entry (fewer.subset member)
    unrepeated := sound.unrepeated
    spent := sound.spent
    reloads := load_writeLocked json trips _ }

/-- Every call can be made, a reload also, and keeps the state sound. -/
theorem step_sound (trips : json.RoundTrips) (state : Issuing) (call : RegistryCall) (sound : Sound json state) :
    ∃ next, step json state call = some next ∧ Sound json next := by
  cases call with
  | append manager =>
    rcases append_cases json state.registry manager with ⟨error,refused⟩ | ⟨unlisted,next,fits,entered⟩
    · exact ⟨state,by simp only [step,refused],sound⟩
    · exact ⟨_,by simp only [step,entered],sound.append json trips manager next unlisted fits⟩
  | remove manager =>
    rcases remove_cases json state.registry manager with unchanged | ⟨pos,erased⟩
    · exact ⟨state,by simp only [step,unchanged],sound⟩
    · exact ⟨_,by simp only [step,erased],sound.remove json trips pos⟩
  | reload => exact ⟨state,by simp only [step,sound.reloads],sound⟩

theorem hd_indices_never_reissued (trips : json.RoundTrips) (calls : List RegistryCall) :
    ∃ final, run (step json) started calls = some final ∧ Sound json final := by
  have runs : ∀ state, Sound json state →
      ∃ final, run (step json) state calls = some final ∧ Sound json final := by
    induction calls with
    | nil => exact fun state sound => ⟨state,rfl,sound⟩
    | cons call calls ih =>
      intro state sound
      obtain ⟨next,taken,kept⟩ := step_sound json trips state call sound
      obtain ⟨final,reached,ends⟩ := ih next kept
      exact ⟨final,(run_cons _ _ _ _).mpr ⟨next,taken,reached⟩,ends⟩
  exact runs started (sound_started json)

def deployedText (next hdIndex : String) : String :=
  "\x7b\n  \"version\": 1,\n  \"next_hd_index\": " ++ next ++ ",\n  \"services\": [\n    \x7b\n" ++
    "      \"service_manager\": \x7b\n        \"evm\": \x7b\n          \"chain\": \"evm:31337\",\n" ++
    "          \"address\": \"0x5fbdb2315678afecb367f032d93f642f64180aa3\"\n        \x7d\n      \x7d,\n" ++
    "      \"hd_index\": " ++ hdIndex ++ "\n    \x7d\n  ]\n\x7d"

/-- The texts of the registry as the deployed service comes, goes and comes back. -/
def knownTexts : List (RegistryFile × String) :=
  [(⟨registryVersion,2,[⟨deployedService.manager,1⟩]⟩,deployedText "2" "1"),
    (⟨registryVersion,2,[]⟩,"\x7b\n  \"version\": 1,\n  \"next_hd_index\": 2,\n  \"services\": []\n\x7d"),
    (⟨registryVersion,3,[⟨deployedService.manager,2⟩]⟩,deployedText "3" "2")]

def knownText (file : RegistryFile) : Option String :=
  (knownTexts.find? (fun known => known.1 = file)).map Prod.snd

instance : Countable Char :=
  Function.Injective.countable (fun _ _ same => Char.ext (UInt32.toNat_inj.mp same) :
    Function.Injective Char.toNat)

instance : Countable String :=
  Function.Injective.countable (fun _ _ same => String.toList_inj.mp same : Function.Injective String.toList)

deriving instance Countable for FixedBytes
deriving instance Countable for ChainKeyNamespace
deriving instance Countable for ChainKeyId
deriving instance Countable for ChainKey
deriving instance Countable for CosmosAddr
deriving instance Countable for ServiceManager
deriving instance Countable for RegistryEntry
deriving instance Countable for RegistryFile

/-- Blank texts for the files that no text above is of. -/
noncomputable def blankText (file : RegistryFile) : String :=
  String.ofList (List.replicate ((exists_injective_nat RegistryFile).choose file) ' ')

noncomputable def launchedText (file : RegistryFile) : String := (knownText file).getD (blankText file)

theorem knownText_some (file : RegistryFile) (text : String) (known : knownText file = some text) :
    (file,text) ∈ knownTexts := by
  obtain ⟨⟨entry,written⟩,found,rfl⟩ := Option.map_eq_some_iff.mp known
  have same : entry = file := by simpa using List.find?_some found
  subst same
  exact List.mem_of_find?_eq_some found

theorem head_deployedText (next hdIndex : String) : (deployedText next hdIndex).toList.head? = some '\x7b' := by
  unfold deployedText
  simp only [String.toList_append,List.append_assoc]
  rw [List.head?_append]
  rfl

theorem launchedText_injective : Function.Injective launchedText := by
  have indexed := (exists_injective_nat RegistryFile).choose_spec
  have braced : ∀ known ∈ knownTexts, known.2.toList.head? = some '\x7b' := by
    intro known member
    simp only [knownTexts,List.mem_cons,List.not_mem_nil,or_false] at member
    rcases member with rfl | rfl | rfl
    · exact head_deployedText "2" "1"
    · decide +kernel
    · exact head_deployedText "3" "2"
  have distinct : ∀ first ∈ knownTexts, ∀ second ∈ knownTexts, first.2 = second.2 → first.1 = second.1 := by
    decide +kernel
  have apart : ∀ file text other, knownText file = some text → text ≠ blankText other := by
    intro file text other known same
    have head := braced _ (knownText_some file text known)
    rw [same,blankText,String.toList_ofList,List.head?_replicate] at head
    split at head
    · cases head
    · exact absurd (Option.some.inj head) (by decide)
  intro first second same
  unfold launchedText at same
  cases known : knownText first with
  | none =>
    cases known' : knownText second with
    | none =>
      rw [known,known',Option.getD_none,Option.getD_none] at same
      have lengths := congrArg (fun text => text.toList.length) same
      simp only [blankText,String.toList_ofList,List.length_replicate] at lengths
      exact indexed lengths
    | some text =>
      rw [known,known',Option.getD_none,Option.getD_some] at same
      exact (apart second text first known' same.symm).elim
  | some text =>
    cases known' : knownText second with
    | none =>
      rw [known,known',Option.getD_none,Option.getD_some] at same
      exact (apart first text second known same).elim
    | some text' =>
      rw [known,known',Option.getD_some,Option.getD_some] at same
      exact distinct _ (knownText_some first text known) _ (knownText_some second text' known') same

open Classical in
noncomputable def launchedJson : SerdeJson where
  toStringPretty := launchedText
  fromStr text :=
    if written : ∃ file, launchedText file = text then .ok written.choose else .error "expected value"

theorem launchedJson_roundTrips : launchedJson.RoundTrips := by
  intro file
  have written : ∃ other, launchedText other = launchedText file := ⟨file,rfl⟩
  have read : launchedJson.fromStr (launchedText file) = .ok written.choose := dif_pos written
  exact read.trans (congrArg Except.ok (launchedText_injective written.choose_spec))

def comesBack : List RegistryCall :=
  [.append deployedService.manager,.reload,.remove deployedService.manager,.reload,
    .append deployedService.manager]

theorem comesBack_never_reissued :
    ∃ final, run (step launchedJson) started comesBack = some final ∧ Sound launchedJson final :=
  hd_indices_never_reissued launchedJson launchedJson_roundTrips comesBack

end Issuing
end Warpdrive.Dispatch
