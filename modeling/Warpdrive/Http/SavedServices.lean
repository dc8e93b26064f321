import Mathlib.Data.List.Induction
import Warpdrive.Foundation.AtomicFiles
import Warpdrive.Types.Digest
import Warpdrive.Types.Submission
import Warpdrive.Types.ServiceFormat

/-! The service definitions that a node serves by their hash (`http/state.rs`, `handlers/service/save.rs`,
`get.rs`). A definition goes into the table and then into a file; a start of the node makes the table from the
files. Any number of saves are under way, and the node stops at any point. `serde_json` is a parameter. -/
namespace Warpdrive.Types

structure ServiceDigest where
  inner : FixedBytes 32
  deriving DecidableEq

def ServiceDigest.hash (prim : IdPrimitives) (bytes : List UInt8) : ServiceDigest := ⟨prim.sha256 bytes⟩

def ServiceDigest.display (self : ServiceDigest) : String := hexEncode self.inner.toList

def ServiceDigest.fromStr (text : String) : Except FromHexError ServiceDigest :=
  (decodeToSlice 32 (utf8 text)).map ServiceDigest.mk

theorem ServiceDigest.fromStr_display (digest : ServiceDigest) : fromStr digest.display = .ok digest := by
  unfold fromStr display
  rw [decodeToSlice_hexEncode]
  rfl

theorem ServiceDigest.display_injective : Function.Injective display := by
  intro a b same
  have equal := FixedBytes.toList_injective (hexEncode_injective same)
  cases a
  exact congrArg ServiceDigest.mk equal

end Warpdrive.Types
namespace Warpdrive.Http

open Warpdrive.Foundation Warpdrive.Foundation.Execution Warpdrive.Foundation.AtomicFiles Warpdrive.Types

/-- `serde_json` on a service. -/
structure ServiceJson where
  toVec : Service → Except String (List UInt8)
  fromSlice : List UInt8 → Except String Service

/-- What is written of a service is read as that service. -/
def ServiceJson.RoundTrips (json : ServiceJson) : Prop :=
  ∀ service bytes, json.toVec service = .ok bytes → json.fromSlice bytes = .ok service

/-- The derived format of a service, given how JSON values are printed and parsed. -/
def ServiceJson.derived (formats : Formats) (print : Json → List UInt8) (parse : List UInt8 → Option Json) :
    ServiceJson where
  toVec service := .ok (print (formats.writeService service))
  fromSlice bytes :=
    match (parse bytes).bind formats.readService with
    | none => .error "invalid service definition"
    | some service => .ok service

theorem ServiceJson.derived_roundTrips (formats : Formats) (print : Json → List UInt8)
    (parse : List UInt8 → Option Json) (printed : ∀ json, parse (print json) = some json) :
    (ServiceJson.derived formats print parse).RoundTrips := by
  intro service bytes written
  cases written
  simp [derived,printed,Formats.readService_writeService]

def ServiceJson.hash (json : ServiceJson) (prim : IdPrimitives) (service : Service) : Except String ServiceDigest :=
  (json.toVec service).map (ServiceDigest.hash prim)

/-- `Path::extension` of a file name. -/
def extension (name : String) : Option String :=
  match name.toList.reverse.dropWhile (· ≠ '.') with
  | [] => none
  | _::stem => if stem = [] then none else some (String.ofList (name.toList.reverse.takeWhile (· ≠ '.')).reverse)

/-- The names that `NamedTempFile` makes up. -/
def tempName (name : String) : Bool :=
  (name.toList.take 4 == ['.','t','m','p']) && (name.toList.drop 4).all Char.isAlphanum

theorem extension_json (stem : List Char) (named : stem ≠ []) :
    extension (String.ofList (stem ++ ['.','j','s','o','n'])) = some "json" := by
  have first : ((stem ++ ['.','j','s','o','n']).reverse).dropWhile (· ≠ '.') = '.'::stem.reverse := by
    simp
  have last : ((stem ++ ['.','j','s','o','n']).reverse).takeWhile (· ≠ '.') = ['n','o','s','j'] := by
    simp
  have some_stem : stem.reverse ≠ [] := by simpa using named
  simp only [extension,String.toList_ofList,first,last,if_neg some_stem]
  rfl

/-- A start of the node takes no temporary file for a definition. -/
theorem extension_tempName (name : String) (temp : tempName name = true) : extension name = none := by
  simp only [tempName,Bool.and_eq_true,beq_iff_eq,List.all_eq_true] at temp
  obtain ⟨start,rest⟩ := temp
  have plain : ∀ char ∈ (name.toList.drop 4).reverse, decide (char ≠ '.') = true := by
    intro char member
    refine decide_eq_true ?_
    rintro rfl
    exact absurd (rest '.' (List.mem_reverse.mp member)) (by decide)
  have split : name.toList.reverse = (name.toList.drop 4).reverse ++ ['p','m','t','.'] := by
    rw [← List.take_append_drop 4 name.toList,start]
    simp
  unfold extension
  rw [split,List.dropWhile_append_of_pos plain]
  simp

variable (prim : IdPrimitives) (json : ServiceJson)

/-- A service beside what is written of it. -/
structure Definition where
  service : Service
  bytes : List UInt8
  written : json.toVec service = .ok bytes

variable {json} in
def Definition.hash (self : Definition json) : ServiceDigest := .hash prim self.bytes

def fileName (hash : ServiceDigest) : String := hash.display ++ ".json"

theorem hexDigit_ne_dot (byte : UInt8) : hexDigit (byte / 16) ≠ '.' := by
  have all : ∀ n : Fin 256, hexDigit (UInt8.ofNat n / 16) ≠ '.' := by
    decide +kernel
  have differ := all ⟨byte.toNat,byte.toNat_lt⟩
  rwa [UInt8.ofNat_toNat] at differ

theorem display_eq_cons (hash : ServiceDigest) : ∃ first rest, hash.display.toList = first::rest ∧ first ≠ '.' := by
  have sized := hash.inner.size
  cases bytes : hash.inner.toList with
  | nil =>
    rw [bytes] at sized
    cases sized
  | cons byte rest =>
    have shown : hash.display.toList = hexDigit (byte / 16)::hexDigit (byte % 16)::(hexEncode rest).toList := by
      simp [ServiceDigest.display,bytes,hexEncode]
    exact ⟨_,_,shown,hexDigit_ne_dot byte⟩

theorem tempName_fileName (hash : ServiceDigest) : tempName (fileName hash) = false := by
  obtain ⟨first,rest,shown,plain⟩ := display_eq_cons hash
  simp [tempName,fileName,shown,plain]

theorem extension_fileName (hash : ServiceDigest) : extension (fileName hash) = some "json" := by
  obtain ⟨first,rest,shown,_⟩ := display_eq_cons hash
  have named := extension_json hash.display.toList (by simp [shown])
  have text : String.ofList (hash.display.toList ++ ['.','j','s','o','n']) = fileName hash := by
    apply String.toList_injective
    simp [fileName]
  rwa [text] at named

theorem fileName_injective : Function.Injective fileName := by
  intro a b same
  refine ServiceDigest.display_injective (String.toList_injective ?_)
  have texts := congrArg String.toList same
  simp only [fileName,String.toList_append] at texts
  exact List.append_cancel_right texts

/-- The directory `dev_services`. -/
def layout : Layout String (Definition json) UInt8 where
  temporary := tempName
  place definition := fileName (definition.hash prim)
  render := Definition.bytes
  place_final definition := tempName_fileName (definition.hash prim)

/-- The table of definitions, the directory, and the saves whose definition is in the table but in no file yet.
`begun` are the definitions of all saves. -/
structure HttpState where
  servicesByHash : WavsDbTable (FixedBytes 32) Service
  folder : Folder String (Definition json) UInt8
  pending : List (Definition json)
  begun : List (Definition json)

namespace HttpState

def new : HttpState json := ⟨.new,.new,[],[]⟩

variable {json}

def loadServiceByHash (self : HttpState json) (serviceHash : ServiceDigest) : Except String Service :=
  match self.servicesByHash.getCloned serviceHash.inner with
  | some service => .ok service
  | none => .error ("Service Hash " ++ serviceHash.display ++ " has not been set on the http server")

inductive HashRequestError
  | digest (error : FromHexError)
  | load (message : String)

/-- `get_service_inner_hash`. -/
def getServiceInnerHash (self : HttpState json) (serviceHash : String) : Except HashRequestError Service :=
  match ServiceDigest.fromStr serviceHash with
  | .error error => .error (.digest error)
  | .ok hash => (self.loadServiceByHash hash).mapError .load

/-- What a start of the node takes of one file. -/
def readDefinition (json : ServiceJson) (readable : String → Bool) (file : String × List UInt8) :
    Option (FixedBytes 32 × Service) :=
  if extension file.1 = some "json" ∧ readable file.1 = true then
    match json.fromSlice file.2 with
    | .error _ => none
    | .ok service =>
      match json.hash prim service with
      | .error _ => none
      | .ok hash => some (hash.inner,service)
  else none

/-- The table that a start of the node makes from the directory. -/
def loadDefinitions (json : ServiceJson) (listed : Bool) (readable : String → Bool)
    (files : HashMap String (List UInt8)) : WavsDbTable (FixedBytes 32) Service :=
  if listed then
    (files.iter.filterMap (readDefinition prim json readable)).foldl (fun table entry => table.insert entry.1 entry.2) .new
  else .new

/-- A save puts the definition in the table, makes a temporary file, writes it and renames it, or gives up
on the way. `placed` is a change to the directory from outside. -/
inductive Act (json : ServiceJson)
  | save (definition : Definition json)
  | giveUp (pos : Nat)
  | create (temp : String) (pos : Nat)
  | write (temp : String) (count : Nat)
  | finish (temp : String)
  | persist (temp : String)
  | abandon (temp : String) (removed : Bool)
  | placed (name : String) (content : Option (List UInt8))
  | restart (listed : Bool) (readable : String → Bool)

def onFolder (self : HttpState json) (act : AtomicFiles.Act String (Definition json)) : Option (HttpState json) :=
  (self.folder.step (layout prim json) act).map (fun folder => {self with folder})

def step (self : HttpState json) : Act json → Option (HttpState json)
  | .save definition => some {self with
      servicesByHash := self.servicesByHash.insert (definition.hash prim).inner definition.service
      pending := definition::self.pending
      begun := definition::self.begun}
  | .giveUp pos => some {self with pending := self.pending.eraseIdx pos}
  | .create temp pos =>
    match self.pending[pos]? with
    | none => none
    | some definition => {self with pending := self.pending.eraseIdx pos}.onFolder prim (.create temp definition)
  | .write temp count => self.onFolder prim (.write temp count)
  | .finish temp => self.onFolder prim (.finish temp)
  | .persist temp => self.onFolder prim (.rename temp)
  | .abandon temp removed => self.onFolder prim (.abandon temp removed)
  | .placed name content => some {self with folder := {self.folder with
      files := match content with
        | some bytes => self.folder.files.insert name bytes
        | none => self.folder.files.remove name}}
  | .restart listed readable => some {self with
      servicesByHash := loadDefinitions prim json listed readable self.folder.files
      folder := {self.folder with writers := .new}
      pending := []}

variable {prim}

theorem readDefinition_eq_some (readable : String → Bool) (file : String × List UInt8) (key : FixedBytes 32)
    (service : Service) :
    readDefinition prim json readable file = some (key,service) ↔
      (extension file.1 = some "json" ∧ readable file.1 = true) ∧ json.fromSlice file.2 = .ok service ∧
        json.hash prim service = .ok ⟨key⟩ := by
  unfold readDefinition
  by_cases taken : extension file.1 = some "json" ∧ readable file.1 = true
  · rw [if_pos taken]
    cases json.fromSlice file.2 with
    | error reason => simp
    | ok found =>
      simp only [Except.ok.injEq]
      constructor
      · intro read
        cases hashed : json.hash prim found with
        | error reason => simp [hashed] at read
        | ok hash =>
          simp only [hashed,Option.some.injEq,Prod.mk.injEq] at read
          obtain ⟨rfl,rfl⟩ := read
          exact ⟨taken,rfl,hashed⟩
      · rintro ⟨_,rfl,hashed⟩
        simp [hashed]
  · rw [if_neg taken]
    simp [taken]

theorem getCloned_foldl_insert (entries : List (FixedBytes 32 × Service)) (key : FixedBytes 32) :
    (entries.foldl (fun table entry => table.insert entry.1 entry.2) WavsDbTable.new).getCloned key =
      (entries.reverse.find? (fun entry => entry.1 = key)).map Prod.snd := by
  induction entries using List.reverseRecOn with
  | nil => simp
  | append_singleton entries entry ih =>
    rw [List.foldl_append,List.reverse_append]
    simp only [List.foldl_cons,List.foldl_nil,List.reverse_singleton,List.singleton_append,List.find?_cons]
    by_cases same : entry.1 = key
    · subst same
      simp
    · rw [WavsDbTable.getCloned_insert_ne _ _ _ _ (Ne.symm same),ih]
      simp [same]

/-- The table of a start holds what some file of the directory says, and something for every file. -/
theorem loadDefinitions_some (listed : Bool) (readable : String → Bool) (files : HashMap String (List UInt8))
    (key : FixedBytes 32) (service : Service)
    (found : (loadDefinitions prim json listed readable files).getCloned key = some service) :
    ∃ name content, files.get name = some content ∧
      readDefinition prim json readable (name,content) = some (key,service) := by
  cases listed with
  | false => simp [loadDefinitions] at found
  | true =>
    simp only [loadDefinitions,if_true,getCloned_foldl_insert,Option.map_eq_some_iff] at found
    obtain ⟨⟨first,value⟩,located,rfl⟩ := found
    have same : first = key := by simpa using List.find?_some located
    subst same
    have member := List.mem_reverse.mp (List.mem_of_find?_eq_some located)
    obtain ⟨⟨name,content⟩,inside,read⟩ := List.mem_filterMap.mp member
    exact ⟨name,content,(files.mem_iter name content).mp inside,read⟩

theorem loadDefinitions_isSome (readable : String → Bool) (files : HashMap String (List UInt8)) (name : String)
    (content : List UInt8) (key : FixedBytes 32) (service : Service) (held : files.get name = some content)
    (read : readDefinition prim json readable (name,content) = some (key,service)) :
    ((loadDefinitions prim json true readable files).getCloned key).isSome := by
  simp only [loadDefinitions,if_true,getCloned_foldl_insert,Option.isSome_map,List.find?_isSome]
  refine ⟨(key,service),?_,by simp⟩
  rw [List.mem_reverse,List.mem_filterMap]
  exact ⟨(name,content),(files.mem_iter name content).mpr held,read⟩

theorem hash_definition (definition : Definition json) :
    json.hash prim definition.service = .ok (definition.hash prim) := by
  simp [ServiceJson.hash,definition.written,Except.map,Definition.hash]

variable (prim) in
/-- What the table holds under a hash has that hash. -/
def Honest (self : HttpState json) : Prop :=
  ∀ key service, self.servicesByHash.getCloned key = some service → json.hash prim service = .ok ⟨key⟩

theorem onFolder_some (self next : HttpState json) (act : AtomicFiles.Act String (Definition json))
    (taken : self.onFolder prim act = some next) :
    ∃ folder, self.folder.step (layout prim json) act = some folder ∧ next = {self with folder} := by
  simp only [onFolder,Option.map_eq_some_iff] at taken
  obtain ⟨folder,stepped,rfl⟩ := taken
  exact ⟨folder,stepped,rfl⟩

/-- Only a save and a start of the node change the table. -/
theorem step_honest (self next : HttpState json) (act : Act json) (taken : self.step prim act = some next)
    (honest : self.Honest prim) : next.Honest prim := by
  cases act with
  | save definition =>
    cases taken
    intro key service found
    by_cases same : key = (definition.hash prim).inner
    · subst same
      rw [WavsDbTable.getCloned_insert] at found
      cases found
      exact hash_definition definition
    · rw [WavsDbTable.getCloned_insert_ne _ _ _ _ same] at found
      exact honest key service found
  | giveUp pos =>
    cases taken
    exact honest
  | create temp pos =>
    simp only [step] at taken
    split at taken
    · cases taken
    · obtain ⟨folder,_,rfl⟩ := onFolder_some _ _ _ taken
      exact honest
  | placed name content =>
    cases taken
    exact honest
  | restart listed readable =>
    cases taken
    intro key service found
    obtain ⟨name,content,_,read⟩ := loadDefinitions_some listed readable _ key service found
    exact ((readDefinition_eq_some readable (name,content) key service).mp read).2.2
  | write temp count | finish temp | persist temp | abandon temp removed =>
    obtain ⟨folder,_,rfl⟩ := onFolder_some _ _ _ taken
    exact honest

/-- A definition that a save is still at, or has written. -/
def Holds (self : HttpState json) (definition : Definition json) : Prop :=
  definition ∈ self.pending ∨ self.folder.Holds definition

variable (prim) in
structure Durable (state : HttpState json) : Prop where
  intact : state.folder.Intact (layout prim json)
  asked : ∀ definition ∈ state.folder.asked, definition ∈ state.begun
  pending : ∀ definition ∈ state.pending, definition ∈ state.begun
  tabled : ∀ definition, state.Holds definition → ∃ found ∈ state.begun, found.hash prim = definition.hash prim ∧
    state.servicesByHash.getCloned (definition.hash prim).inner = some found.service

theorem durable_new : (new json).Durable prim where
  intact := Folder.intact_new _
  asked := by simp [new,Folder.new]
  pending := by simp [new]
  tabled := by simp [Holds,Folder.Holds,new,Folder.new]

/-- A step on the folder, with a temporary file for pending definitions only. -/
theorem Durable.onFolder {self : HttpState json} (durable : self.Durable prim)
    (act : AtomicFiles.Act String (Definition json)) (folder : Folder String (Definition json) UInt8)
    (stepped : self.folder.step (layout prim json) act = some folder) (pending : List (Definition json))
    (fewer : ∀ definition ∈ pending, definition ∈ self.pending)
    (made : ∀ temp definition, act = .create temp definition → definition ∈ self.pending) :
    Durable prim {self with folder,pending} where
  intact := Folder.step_intact act stepped durable.intact
  asked := by
    intro definition known
    rcases Folder.step_asked act stepped definition known with before | ⟨temp,created⟩
    · exact durable.asked definition before
    · exact durable.pending definition (made temp definition created)
  pending definition member := durable.pending definition (fewer definition member)
  tabled := by
    intro definition held
    apply durable.tabled definition
    rcases held with waiting | inFolder
    · exact .inl (fewer definition waiting)
    · rcases Folder.step_holds act stepped definition inFolder with before | ⟨temp,created⟩
      · exact .inr before
      · exact .inl (made temp definition created)

theorem Durable.save {self : HttpState json} (durable : self.Durable prim) (definition : Definition json) :
    Durable prim {self with
      servicesByHash := self.servicesByHash.insert (definition.hash prim).inner definition.service
      pending := definition::self.pending
      begun := definition::self.begun} where
  intact := durable.intact
  asked known member := List.mem_cons_of_mem definition (durable.asked known member)
  pending := List.forall_mem_cons.mpr
    ⟨List.mem_cons_self,fun other member => List.mem_cons_of_mem definition (durable.pending other member)⟩
  tabled := by
    intro other held
    by_cases same : (other.hash prim).inner = (definition.hash prim).inner
    · refine ⟨definition,List.mem_cons_self,?_,?_⟩
      · exact congrArg ServiceDigest.mk same.symm
      · rw [same]
        exact WavsDbTable.getCloned_insert _ _ _
    · have before : self.Holds other := by
        rcases held with waiting | inFolder
        · rcases List.mem_cons.mp waiting with rfl | waiting
          · exact absurd rfl same
          · exact .inl waiting
        · exact .inr inFolder
      obtain ⟨found,known,hashed,tabled⟩ := durable.tabled other before
      exact ⟨found,List.mem_cons_of_mem definition known,hashed,
        (WavsDbTable.getCloned_insert_ne _ _ _ _ same).trans tabled⟩

/-- A start of the node that reads the directory finds every definition that was written. -/
theorem Durable.restart (trips : json.RoundTrips) {self : HttpState json} (durable : self.Durable prim)
    (readable : String → Bool) (all : ∀ name, readable name = true) :
    Durable prim {self with
      servicesByHash := loadDefinitions prim json true readable self.folder.files
      folder := {self.folder with writers := .new}
      pending := []} where
  intact := Folder.step_intact .crash rfl durable.intact
  asked := durable.asked
  pending := by simp
  tabled := by
    intro definition held
    have done : definition ∈ self.folder.published := by simpa [Holds,Folder.Holds] using held
    obtain ⟨other,_,place,lies⟩ := durable.intact.published definition done
    have read : readDefinition prim json readable (fileName (definition.hash prim),other.bytes) =
        some ((definition.hash prim).inner,other.service) := by
      rw [readDefinition_eq_some]
      refine ⟨⟨extension_fileName _,all _⟩,trips other.service other.bytes other.written,?_⟩
      rw [hash_definition,fileName_injective place]
    obtain ⟨service,tabled⟩ := Option.isSome_iff_exists.mp (loadDefinitions_isSome readable _ _ _ _ _ lies read)
    -- the file that the entry was read from is not a temporary one
    obtain ⟨name,content,file,taken⟩ := loadDefinitions_some true readable _ _ _ tabled
    obtain ⟨⟨named,_⟩,parsed,hashed⟩ := (readDefinition_eq_some readable (name,content) _ service).mp taken
    have final : tempName name = false := by
      cases temp : tempName name with
      | false => rfl
      | true => exact absurd ((extension_tempName name temp).symm.trans named) (by simp)
    obtain ⟨found,known,_,written⟩ := durable.intact.whole name content file final
    have service_eq : found.service = service := by
      have back := trips found.service found.bytes found.written
      exact Except.ok.inj (back.symm.trans (by rw [← parsed]; exact congrArg json.fromSlice written))
    subst service_eq
    refine ⟨found,durable.asked found known,?_,tabled⟩
    exact Except.ok.inj ((hash_definition found).symm.trans hashed)

/-- A change that the node makes, or a start that reads the whole directory. -/
def Act.Calm : Act json → Prop
  | .placed _ _ => False
  | .restart listed readable => listed = true ∧ ∀ name, readable name = true
  | _ => True

theorem step_durable (trips : json.RoundTrips) (self next : HttpState json) (act : Act json)
    (taken : self.step prim act = some next) (calm : act.Calm) (durable : self.Durable prim) :
    next.Durable prim := by
  cases act with
  | save definition =>
    cases taken
    exact durable.save definition
  | giveUp pos =>
    cases taken
    refine ⟨durable.intact,durable.asked,?_,?_⟩
    · exact fun definition member => durable.pending definition (List.mem_of_mem_eraseIdx member)
    · intro definition held
      exact durable.tabled definition (held.imp_left List.mem_of_mem_eraseIdx)
  | create temp pos =>
    simp only [step] at taken
    split at taken
    next => cases taken
    next definition waiting =>
      obtain ⟨folder,stepped,rfl⟩ := onFolder_some _ _ _ taken
      refine durable.onFolder _ folder stepped _ (fun _ member => List.mem_of_mem_eraseIdx member) ?_
      rintro _ _ created
      cases created
      exact List.mem_of_getElem? waiting
  | placed name content => exact absurd calm id
  | restart listed readable =>
    obtain ⟨rfl,all⟩ := calm
    cases taken
    exact durable.restart trips readable all
  | write temp count | finish temp | persist temp | abandon temp removed =>
    obtain ⟨folder,stepped,rfl⟩ := onFolder_some _ _ _ taken
    exact durable.onFolder _ folder stepped _ (fun _ => id) (by simp)

/-- What is served under a hash has that hash. A definition whose save was answered is served, or one of the
same hash, whatever starts and stops came between. -/
theorem run_serves_saved (state : HttpState json) (acts : List (Act json))
    (reached : run (step prim) (new json) acts = some state) :
    (∀ text service, state.getServiceInnerHash text = .ok service →
      ∃ hash, ServiceDigest.fromStr text = .ok hash ∧ json.hash prim service = .ok hash) ∧
    (json.RoundTrips → (∀ act ∈ acts, act.Calm) → ∀ definition ∈ state.folder.published,
      ∃ found ∈ state.begun, found.hash prim = definition.hash prim ∧
        state.getServiceInnerHash (definition.hash prim).display = .ok found.service) := by
  constructor
  · intro text service served
    have honest : state.Honest prim :=
      invariant (Honest prim) (fun self act next => step_honest self next act) (new json) state acts reached
        (by simp [Honest,new])
    unfold getServiceInnerHash loadServiceByHash at served
    cases parsed : ServiceDigest.fromStr text with
    | error reason => simp [parsed] at served
    | ok hash =>
      simp only [parsed] at served
      split at served
      next found tabled =>
        cases served
        exact ⟨hash,rfl,honest hash.inner _ tabled⟩
      next => cases served
  · intro trips calm definition done
    have durable : state.Durable prim :=
      invariant_along (fun _ act _ => act.Calm) (Durable prim)
        (fun self act next taken calm => step_durable trips self next act taken calm) (new json) state acts reached
        (along_of_forall _ _ acts (fun act member _ _ => calm act member)) durable_new
    obtain ⟨found,known,same,tabled⟩ := durable.tabled definition (.inr (.inl done))
    refine ⟨found,known,same,?_⟩
    simp [getServiceInnerHash,ServiceDigest.fromStr_display,loadServiceByHash,tabled,Except.mapError]

def noopComponentJson : String :=
  "\x7b\"source\":\x7b\"digest\":\"9df6b026a8c6c26e3c3acd2370a16e93fffdc0015ff5bd879218788025db0280\"\x7d," ++
  "\"permissions\":\x7b\"allowed_http_hosts\":\"none\",\"file_system\":false,\"raw_sockets\":false,\"dns_resolution\":false\x7d," ++
  "\"fuel_limit\":null,\"time_limit_seconds\":null,\"config\":\x7b\x7d,\"env_keys\":[]\x7d"

def deployedServiceJson : String :=
  "\x7b\"name\":\"cafe\",\"workflows\":\x7b\"flow1\":\x7b\"trigger\":\"manual\",\"component\":" ++ noopComponentJson ++
  ",\"submit\":\x7b\"aggregator\":\x7b\"component\":" ++ noopComponentJson ++
  "\x7d\x7d\x7d\x7d,\"status\":\"active\",\"manager\":\x7b\"evm\":\x7b\"chain\":\"evm:31337\"," ++
  "\"address\":\"0x5fbdb2315678afecb367f032d93f642f64180aa3\"\x7d\x7d," ++
  "\"signature_kind\":\x7b\"algorithm\":\"secp256k1\",\"prefix\":\"eip191\"\x7d\x7d"

/-- `serde_json` on the deployed service and its text. -/
def deployedJson : ServiceJson where
  toVec service := if service = deployedService then .ok (utf8 deployedServiceJson) else .error "unknown service"
  fromSlice bytes := if bytes = utf8 deployedServiceJson then .ok deployedService else .error "unknown text"

theorem deployedJson_roundTrips : deployedJson.RoundTrips := by
  intro service bytes written
  simp only [deployedJson] at written ⊢
  split at written
  next same =>
    cases written
    simp [same]
  next => cases written

def deployedDefinition : Definition deployedJson := ⟨deployedService,utf8 deployedServiceJson,by simp [deployedJson]⟩

/-- SHA-256 of the text above. -/
def deployedDigests : IdPrimitives where
  sha256 := fun _ => FixedBytes.ofNat 32 0xc13317ccfa002f4c948e726dedb2dd4449a15a854264fd5322cac3ca25488008
  cosmosBytes := fun _ => []

/-- A save, a second one that the node stops in the middle of, and a start. -/
def stopped : List (Act deployedJson) :=
  [.save deployedDefinition,.create ".tmpA1b2C3" 0,.write ".tmpA1b2C3" 100,.finish ".tmpA1b2C3",.persist ".tmpA1b2C3",
    .save deployedDefinition,.create ".tmpD4e5F6" 0,.write ".tmpD4e5F6" 100,.restart true (fun _ => true)]

theorem stopped_serves_saved : ∃ state, run (step deployedDigests) (new deployedJson) stopped = some state ∧
    state.getServiceInnerHash (deployedDefinition.hash deployedDigests).display = .ok deployedService := by
  have ends : ∃ state, run (step deployedDigests) (new deployedJson) stopped = some state ∧
      state.folder.published = [deployedDefinition] ∧ state.begun = [deployedDefinition,deployedDefinition] :=
    ⟨_,rfl,rfl,rfl⟩
  obtain ⟨state,reached,published,begun⟩ := ends
  obtain ⟨_,served⟩ := run_serves_saved state stopped reached
  have calm : ∀ act ∈ stopped, act.Calm := by
    simp [stopped,Act.Calm]
  obtain ⟨found,known,_,answer⟩ := served deployedJson_roundTrips calm deployedDefinition (by simp [published])
  have same : found = deployedDefinition := by simpa [begun] using known
  exact ⟨state,reached,by rw [answer,same]; rfl⟩

end HttpState
end Warpdrive.Http
