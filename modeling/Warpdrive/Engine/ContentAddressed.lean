import Warpdrive.Foundation.Execution
import Warpdrive.Engine.FileStorage

/-! The component store as a table from digests to components. It is one as long as each write
finishes and only components are handed to it; a file that a stopped write leaves, and a download
that has its digest but is no component, stay under the digest for good. -/
namespace Warpdrive.Engine

open Warpdrive.Foundation Warpdrive.Foundation.Execution Warpdrive.Types

variable (prim : IdPrimitives) (wasmtime : Wasmtime)

inductive StoreCall
  | setData (io : Writing) (data : List UInt8)
  | storeComponentBytes (io : Writing) (bytes : List UInt8)
  | loadComponent (io : Reading) (digest : ComponentDigest)
  | loadComponentFromSource (outside : Outside) (source : ComponentSource)
  | restart (lruSize : Nat)

namespace BaseEngine

variable {wasmtime}

/-- A new process starts over the files that are there. -/
def step (self : BaseEngine wasmtime) : StoreCall → Option (BaseEngine wasmtime)
  | .setData io data => some {self with storage := (FileStorage.setData prim io data self.storage).1}
  | .storeComponentBytes io bytes => some (storeComponentBytes prim io bytes self).1
  | .loadComponent io digest => some (loadComponent io digest self).1
  | .loadComponentFromSource outside source => some (loadComponentFromSource prim outside source self).1
  | .restart lruSize => some (.new lruSize self.storage)

end BaseEngine

/-- Bytes come back under their own digest alone, whatever is stored next is stored, and each
listed digest is of a component. -/
structure ContentAddressed (engine : BaseEngine wasmtime) : Prop where
  addressed : ∀ io digest bytes, engine.storage.getData io digest = .ok bytes → AnyDigest.hash prim bytes = digest
  storable : ∀ data, ∃ stored bytes,
    FileStorage.setData prim .working data engine.storage = (stored,.ok (.hash prim data)) ∧
      stored.getData .working (.hash prim data) = .ok bytes ∧ AnyDigest.hash prim bytes = .hash prim data
  components : ∀ visible digests, engine.listDigests visible = .ok digests → ∀ digest ∈ digests,
    ∃ bytes, engine.storage.getData .working digest.toAny = .ok bytes ∧ wasmtime.Compiles bytes

namespace FileStorage

/-- Every file is of the digest that its path is of, and a component. -/
def Components (self : FileStorage) : Prop :=
  ∀ path bytes, self.files.get path = some bytes → path = pathOf (.hash prim bytes) ∧ wasmtime.Compiles bytes

def Named (self : FileStorage) : Prop :=
  ∀ path bytes, self.files.get path = some bytes → ∃ digest, path = pathOf digest

theorem pathOf_injective : Function.Injective pathOf := by
  intro first second same
  have shown : first.display = second.display := by
    simp only [pathOf,List.cons.injEq] at same
    exact same.2.2.1
  have read := AnyDigest.fromStr_display first
  rw [shown,AnyDigest.fromStr_display second] at read
  exact (Except.ok.inj read).symm

theorem named_of_components (self : FileStorage) (components : self.Components prim wasmtime) : self.Named :=
  fun path bytes held => ⟨_,(components path bytes held).1⟩

theorem getData_ok (self : FileStorage) (io : Reading) (digest : AnyDigest) (bytes : List UInt8)
    (got : self.getData io digest = .ok bytes) : self.files.get (pathOf digest) = some bytes := by
  unfold getData digestToPath at got
  split at got
  · cases got
  · next path made =>
    split at made
    · cases made
    · cases made
      split at got
      · cases got
      · next held =>
        split at got
        · cases got
        · cases got
          exact held

theorem getData_working (self : FileStorage) (digest : AnyDigest) (bytes : List UInt8) :
    self.getData .working digest = .ok bytes ↔ self.files.get (pathOf digest) = some bytes := by
  constructor
  · exact self.getData_ok .working digest bytes
  · intro held
    simp [getData,digestToPath,Reading.working,held]

/-- The file of a digest is written where its directory is there and the file is not. -/
theorem setData_run (io : Writing) (data : List UInt8) (self : FileStorage) :
    setData prim io data self = match io.createDir with
      | .error reason => (self,.error (.io reason))
      | .ok () =>
        if (self.files.get (pathOf (.hash prim data))).isSome then (self,.ok (.hash prim data))
        else ((writeFile io.write (pathOf (.hash prim data)) data self).1,
          io.write.outcome.map (fun _ => .hash prim data)) := by
  unfold setData digestToPath
  simp only [Attempt.bind_run,Attempt.andThen,Attempt.checks_run]
  cases io.createDir with
  | error reason => rfl
  | ok made =>
    simp only [Attempt.reads_run]
    by_cases present : (self.files.get (pathOf (.hash prim data))).isSome
    · rw [if_pos present,if_pos present]
      rfl
    · rw [if_neg present,if_neg present]
      unfold writeFile
      cases io.write <;> rfl

theorem setData_cases (io : Writing) (data : List UInt8) (self : FileStorage) :
    (setData prim io data self).1 = self ∧
        (io.createDir.isOk → self.files.get (pathOf (.hash prim data)) = none → io.write.leaves data = none) ∨
      ∃ bytes, io.write.leaves data = some bytes ∧ io.createDir.isOk ∧
        self.files.get (pathOf (.hash prim data)) = none ∧
          (setData prim io data self).1 = ⟨self.files.insert (pathOf (.hash prim data)) bytes⟩ := by
  rw [setData_run]
  cases made : io.createDir with
  | error reason => exact .inl ⟨rfl,by simp [Except.isOk,Except.toBool]⟩
  | ok made =>
    dsimp only
    split
    · next present => exact .inl ⟨rfl,fun _ absent => by simp [absent] at present⟩
    · next absent =>
      unfold writeFile
      cases left : io.write.leaves data with
      | none => exact .inl ⟨rfl,fun _ _ => rfl⟩
      | some bytes => exact .inr ⟨bytes,rfl,rfl,by simpa using absent,rfl⟩

/-- What a write leaves under a digest is a component of that digest, where it leaves anything. -/
def Whole (io : Writing) (data : List UInt8) : Prop :=
  ∀ bytes, io.write.leaves data = some bytes → AnyDigest.hash prim bytes = .hash prim data ∧ wasmtime.Compiles bytes

theorem named_setData (io : Writing) (data : List UInt8) (self : FileStorage) (named : self.Named) :
    (setData prim io data self).1.Named := by
  rcases setData_cases prim io data self with ⟨same,_⟩ | ⟨bytes,_,_,_,written⟩
  · rw [same]
    exact named
  · rw [written]
    intro path held got
    rw [HashMap.get_insert] at got
    split at got
    · next here => exact ⟨_,here⟩
    · exact named path held got

theorem components_setData (io : Writing) (data : List UInt8) (self : FileStorage)
    (components : self.Components prim wasmtime) :
    (setData prim io data self).1.Components prim wasmtime ↔
      (io.createDir.isOk → self.files.get (pathOf (.hash prim data)) = none → Whole prim wasmtime io data) := by
  rcases setData_cases prim io data self with ⟨same,idle⟩ | ⟨bytes,left,made,absent,written⟩
  · rw [same]
    refine ⟨fun _ made absent bytes left => ?_,fun _ => components⟩
    rw [idle made absent] at left
    cases left
  · rw [written]
    constructor
    · intro after _ _ other same
      rw [left] at same
      cases same
      obtain ⟨path,compiles⟩ := after (pathOf (.hash prim data)) bytes (by rw [HashMap.get_insert,if_pos rfl])
      exact ⟨(pathOf_injective path).symm,compiles⟩
    · intro whole path held got
      obtain ⟨digest,compiles⟩ := whole made absent bytes left
      rw [HashMap.get_insert] at got
      split at got
      · next here =>
        cases got
        exact ⟨by rw [here,digest],compiles⟩
      · exact components path held got

/-- The walk reads the digest of each file back from its name. -/
theorem digests_named (self : FileStorage) (named : self.Named) (visible : List String → Bool) :
    ∃ listed : List AnyDigest, self.digests visible = listed.map .ok ∧
      ∀ digest, digest ∈ listed ↔
        visible (pathOf digest) ∧ ∃ bytes, self.files.get (pathOf digest) = some bytes := by
  have walk : ∀ entries : List (List String × List UInt8), (∀ entry ∈ entries, ∃ digest, entry.1 = pathOf digest) →
      ∃ listed : List AnyDigest,
        entries.filterMap (fun entry =>
          entry.1.getLast?.map (fun name => (AnyDigest.fromStr name).mapError CAStorageError.digest)) = listed.map .ok ∧
        ∀ digest, digest ∈ listed ↔ ∃ bytes, (pathOf digest,bytes) ∈ entries := by
    intro entries
    induction entries with
    | nil => exact fun _ => ⟨[],rfl,by simp⟩
    | cons entry rest ih =>
      intro all
      obtain ⟨⟨digest,here⟩,later⟩ := List.forall_mem_cons.mp all
      obtain ⟨listed,walked,members⟩ := ih later
      have read : entry.1.getLast?.map (fun name => (AnyDigest.fromStr name).mapError CAStorageError.digest) =
          some (.ok digest) := by
        rw [here]
        simp [pathOf,AnyDigest.fromStr_display,Except.mapError]
      refine ⟨digest::listed,?_,?_⟩
      · rw [List.filterMap_cons,read,walked]
        rfl
      · intro other
        rw [List.mem_cons,members]
        constructor
        · rintro (rfl | ⟨bytes,member⟩)
          · exact ⟨entry.2,List.mem_cons.mpr (.inl (by rw [← here]))⟩
          · exact ⟨bytes,List.mem_cons_of_mem entry member⟩
        · rintro ⟨bytes,member⟩
          rcases List.mem_cons.mp member with same | member
          · exact .inl (pathOf_injective (by rw [← here,← same]))
          · exact .inr ⟨bytes,member⟩
  obtain ⟨listed,walked,members⟩ := walk (self.files.iter.filter (fun entry => visible entry.1)) (by
    intro entry member
    have held := (self.files.mem_iter entry.1 entry.2).mp (List.mem_of_mem_filter member)
    exact named entry.1 entry.2 held)
  refine ⟨listed,walked,fun digest => ?_⟩
  rw [members]
  simp only [List.mem_filter,HashMap.mem_iter]
  constructor
  · rintro ⟨bytes,held,seen⟩
    exact ⟨seen,bytes,held⟩
  · rintro ⟨seen,bytes,held⟩
    exact ⟨bytes,held,seen⟩

end FileStorage

namespace BaseEngine

open FileStorage

variable {wasmtime}

theorem listDigests_named (self : BaseEngine wasmtime) (named : self.storage.Named) (visible : List String → Bool) :
    ∃ digests, self.listDigests visible = .ok digests ∧
      ∀ digest, digest ∈ digests ↔ visible (pathOf digest.toAny) ∧
        ∃ bytes, self.storage.files.get (pathOf digest.toAny) = some bytes := by
  obtain ⟨listed,walked,members⟩ := self.storage.digests_named named visible
  have collected : ∀ found : List AnyDigest,
      (found.map (fun digest => (.ok digest : Except CAStorageError AnyDigest))).mapM id = .ok found := by
    intro found
    induction found with
    | nil => rfl
    | cons digest rest ih =>
      rw [List.map_cons,List.mapM_cons,ih]
      rfl
  refine ⟨listed.map (fun digest => ⟨digest.inner⟩),?_,fun digest => ?_⟩
  · unfold listDigests
    rw [walked,collected]
    rfl
  · rw [← members,List.mem_map]
    constructor
    · rintro ⟨other,member,rfl⟩
      exact member
    · intro member
      exact ⟨digest.toAny,member,rfl⟩

/-- The files are a table from digests to components exactly where each is a component under its
own digest. -/
theorem contentAddressed_iff (self : BaseEngine wasmtime) (named : self.storage.Named) :
    ContentAddressed prim wasmtime self ↔ self.storage.Components prim wasmtime := by
  constructor
  · intro addressed path bytes held
    obtain ⟨digest,here⟩ := named path bytes held
    subst here
    have own := addressed.addressed .working digest bytes ((getData_working self.storage digest bytes).mpr held)
    obtain ⟨digests,listed,members⟩ := self.listDigests_named named (fun _ => true)
    obtain ⟨other,got,compiles⟩ := addressed.components (fun _ => true) digests listed ⟨digest.inner⟩
      ((members ⟨digest.inner⟩).mpr ⟨rfl,bytes,held⟩)
    rw [getData_working] at got
    cases held.symm.trans got
    exact ⟨by rw [own],compiles⟩
  · intro components
    refine ⟨?_,?_,?_⟩
    · intro io digest bytes got
      have held := self.storage.getData_ok io digest bytes got
      exact (pathOf_injective (components _ bytes held).1).symm
    · intro data
      have names : ∀ bytes, self.storage.files.get (pathOf (.hash prim data)) = some bytes →
          AnyDigest.hash prim bytes = .hash prim data :=
        fun bytes held => (pathOf_injective (components _ bytes held).1).symm
      cases held : self.storage.files.get (pathOf (.hash prim data)) with
      | some bytes =>
        refine ⟨self.storage,bytes,?_,(getData_working _ _ _).mpr held,names bytes held⟩
        simp [setData_run,Writing.working,held]
      | none =>
        refine ⟨⟨self.storage.files.insert (pathOf (.hash prim data)) data⟩,data,?_,?_,rfl⟩
        · simp [setData_run,Writing.working,held,writeFile,FileWrite.leaves,FileWrite.outcome,Except.map]
        · rw [getData_working]
          exact (HashMap.get_insert _ _ _ _).trans (if_pos rfl)
    · intro visible digests listed digest member
      obtain ⟨others,same,members⟩ := self.listDigests_named named visible
      cases same.symm.trans listed
      obtain ⟨_,bytes,held⟩ := (members digest).mp member
      exact ⟨bytes,(getData_working self.storage digest.toAny bytes).mpr held,(components _ bytes held).2⟩

/-- The bytes that a call hands to `set_data`. -/
def handed (self : BaseEngine wasmtime) : StoreCall → Option (Writing × List UInt8)
  | .setData io data => some (io,data)
  | .storeComponentBytes io bytes => if wasmtime.Compiles bytes then some (io,bytes) else none
  | .loadComponentFromSource outside source =>
    match (loadComponent outside.get (sourceDigest source) self).2,fetchChecked prim outside source with
    | .error _,.ok bytes => some (outside.set,bytes)
    | _,_ => none
  | .loadComponent _ _ => none
  | .restart _ => none

/-- Whatever the call hands to a digest without a file is left there as a component of that digest. -/
def Clean (self : BaseEngine wasmtime) (call : StoreCall) (_ : BaseEngine wasmtime) : Prop :=
  ∀ io data, self.handed prim call = some (io,data) → io.createDir.isOk →
    self.storage.files.get (pathOf (.hash prim data)) = none → Whole prim wasmtime io data

theorem leaves_compile (bytes : List UInt8) :
    Attempt.Leaves (fun before after : BaseEngine wasmtime => after.storage = before.storage) (compile bytes) :=
  fun _ => rfl

theorem leaves_loadComponent (io : Reading) (digest : ComponentDigest) :
    Attempt.Leaves (fun before after : BaseEngine wasmtime => after.storage = before.storage)
      (loadComponent io digest) := by
  have refl : ∀ state : BaseEngine wasmtime, state.storage = state.storage := fun _ => rfl
  have trans : ∀ first second third : BaseEngine wasmtime, second.storage = first.storage →
      third.storage = second.storage → third.storage = first.storage := fun _ _ _ one two => two.trans one
  refine Attempt.leaves_bind trans _ _ (fun _ => rfl) (fun cached => ?_)
  cases cached with
  | some component => exact Attempt.leaves_pure refl component
  | none =>
    refine Attempt.leaves_bind trans _ _ (Attempt.leaves_checks refl _) (fun bytes => ?_)
    refine Attempt.leaves_bind trans _ _ (leaves_compile bytes) (fun component => ?_)
    exact Attempt.leaves_bind trans _ _ (Attempt.leaves_changes _ refl) (fun _ => Attempt.leaves_pure refl component)

/-- A call that hands bytes to `set_data` changes the files as `set_data` does, and no other call changes them. -/
theorem storage_setData (message : String) (io : Writing) (bytes : List UInt8) {A : Type}
    (rest : AnyDigest → Attempt (BaseEngine wasmtime) EngineError A)
    (keeps : ∀ digest, Attempt.Leaves (fun before after => after.storage = before.storage) (rest digest))
    (self : BaseEngine wasmtime) :
    ((setData prim message io bytes >>= rest) self).1.storage = (FileStorage.setData prim io bytes self.storage).1 := by
  rw [Attempt.bind_run,Attempt.andThen]
  unfold setData Attempt.within
  cases outcome : (FileStorage.setData prim io bytes self.storage).2 with
  | error error => rfl
  | ok digest => exact keeps digest _

theorem storage_storeComponentBytes (io : Writing) (bytes : List UInt8) (self : BaseEngine wasmtime) :
    (storeComponentBytes prim io bytes self).1.storage =
      if wasmtime.Compiles bytes then (FileStorage.setData prim io bytes self.storage).1 else self.storage := by
  have checked : compile bytes self = (self,(wasmtime.compile bytes).mapError .compile) := rfl
  unfold storeComponentBytes
  by_cases compiles : wasmtime.Compiles bytes
  · obtain ⟨component,compiled⟩ : ∃ component, wasmtime.compile bytes = .ok component := by
      unfold Wasmtime.Compiles at compiles
      cases found : wasmtime.compile bytes with
      | error reason => simp [found,Except.isOk,Except.toBool] at compiles
      | ok component => exact ⟨component,rfl⟩
    rw [compiled] at checked
    rw [if_pos compiles,Attempt.bind_of_ok _ _ self self component checked]
    exact storage_setData prim _ io bytes _ (fun _ _ => rfl) self
  · obtain ⟨reason,failed⟩ : ∃ reason, wasmtime.compile bytes = .error reason := by
      unfold Wasmtime.Compiles at compiles
      cases found : wasmtime.compile bytes with
      | error reason => exact ⟨reason,rfl⟩
      | ok component => simp [found,Except.isOk,Except.toBool] at compiles
    rw [failed] at checked
    rw [if_neg compiles,Attempt.bind_of_error _ _ self self (.compile reason) checked]

theorem storage_fetchComponent (outside : Outside) (source : ComponentSource) (self : BaseEngine wasmtime) :
    (fetchComponent prim outside source self).1.storage = match fetchChecked prim outside source with
      | .ok bytes => (FileStorage.setData prim outside.set bytes self.storage).1
      | .error _ => self.storage := by
  unfold fetchComponent
  rw [Attempt.bind_run,Attempt.andThen,Attempt.checks_run]
  cases fetchChecked prim outside source with
  | error error => rfl
  | ok bytes =>
    refine storage_setData prim _ outside.set bytes _ (fun digest => ?_) self
    refine Attempt.leaves_bind (fun _ _ _ one two => two.trans one) _ _ (leaves_compile bytes) (fun _ _ => rfl)

theorem step_storage (self next : BaseEngine wasmtime) (call : StoreCall) (taken : self.step prim call = some next) :
    next.storage = match self.handed prim call with
      | none => self.storage
      | some (io,data) => (FileStorage.setData prim io data self.storage).1 := by
  cases call with
  | setData io data =>
    cases taken
    rfl
  | storeComponentBytes io bytes =>
    cases taken
    rw [storage_storeComponentBytes]
    unfold handed
    by_cases compiles : wasmtime.Compiles bytes
    · simp only [if_pos compiles]
    · simp only [if_neg compiles]
  | loadComponent io digest =>
    cases taken
    exact leaves_loadComponent io digest self
  | loadComponentFromSource outside source =>
    cases taken
    have kept := leaves_loadComponent outside.get (sourceDigest source) self
    unfold loadComponentFromSource
    cases loaded : loadComponent outside.get (sourceDigest source) self with
    | mk middle outcome =>
      rw [loaded] at kept
      cases outcome with
      | ok component => simpa only [handed,loaded] using kept
      | error error =>
        simp only [handed,loaded]
        rw [storage_fetchComponent,kept]
        cases fetchChecked prim outside source <;> rfl
  | restart lruSize =>
    cases taken
    rfl

theorem step_named (self next : BaseEngine wasmtime) (call : StoreCall) (taken : self.step prim call = some next)
    (named : self.storage.Named) : next.storage.Named := by
  rw [step_storage prim self next call taken]
  split
  · exact named
  · exact named_setData prim _ _ self.storage named

theorem step_components (self next : BaseEngine wasmtime) (call : StoreCall)
    (taken : self.step prim call = some next) (components : self.storage.Components prim wasmtime) :
    next.storage.Components prim wasmtime ↔ self.Clean prim call next := by
  rw [step_storage prim self next call taken]
  unfold Clean
  cases self.handed prim call with
  | none => exact ⟨fun _ io data given => absurd given (by simp),fun _ => components⟩
  | some given =>
    obtain ⟨io,data⟩ := given
    dsimp only
    rw [components_setData prim wasmtime io data self.storage components]
    constructor
    · intro whole _ _ same
      cases same
      exact whole
    · exact fun clean => clean io data rfl

/-- Over every run of the calls, with files that are not written to their end and downloads of any
bytes, the files are a table from digests to components exactly as long as every call leaves a
whole component behind. -/
theorem content_addressed_iff (lruSize : Nat) (calls : List StoreCall) :
    Along (step prim) (fun _ _ next => ContentAddressed prim wasmtime next) (new lruSize .new) calls ↔
      Along (step prim) (Clean prim) (new lruSize .new : BaseEngine wasmtime) calls :=
  along_iff_of_invariant (Clean prim) _ (fun state => state.storage.Components prim wasmtime)
    (fun state call next taken components => by
      have named := step_named prim state next call taken (named_of_components prim wasmtime _ components)
      rw [contentAddressed_iff prim next named,step_components prim state next call taken components])
    (fun state call next taken clean components => (step_components prim state next call taken components).mpr clean)
    (new lruSize .new) calls (fun path bytes held => by simp [new,FileStorage.new] at held)

/-- The header of a component, which is the component without anything in it. -/
def emptyComponent : List UInt8 := [0x00,0x61,0x73,0x6d,0x0d,0x00,0x01,0x00]

def observedDigests : IdPrimitives where
  sha256 bytes :=
    if bytes = emptyComponent then
      FixedBytes.ofNat 32 0x24eaf3439a60c96764c4f2c92a0a81b52bd4fe5d5b91f090184a0f6486b1bf29
    else if bytes = emptyComponent.take 4 then
      FixedBytes.ofNat 32 0xcd5d4935a48c0672cb06407bb443bc0087aff947c6b864bac886982c73b3027f
    else if bytes = utf8 "foobarbaz" then
      FixedBytes.ofNat 32 0x97df3588b5a3f24babc3851b372f0ba71a9dcdded43b14b9d06961bfc1707d9d
    else FixedBytes.filled 32 0
  cosmosBytes _ := []

def observedWasmtime : Wasmtime where
  WasmComponent := Unit
  compile bytes := if bytes = emptyComponent then .ok () else .error "failed to parse WebAssembly module"

/-- A full disk: four bytes are written. -/
def fullDisk : Writing := ⟨.ok (),.stopped 4 "No space left on device"⟩

def foobarbazSource : ComponentSource := .download "https://example.com/foobarbaz.wasm" (.hash observedDigests (utf8 "foobarbaz"))

def servesFoobarbaz : Outside :=
  ⟨.working,fun _ => .ok (utf8 "foobarbaz"),fun _ _ => .error "no registry",.working⟩

/-- The four bytes stay under the digest of the component, though it is stored again after a
restart, and a download that is no component is listed. -/
theorem foreign_bytes_stay :
    (∃ final : BaseEngine observedWasmtime,
      run (step observedDigests) (new 3 .new)
        [.storeComponentBytes fullDisk emptyComponent,.restart 3,.storeComponentBytes .working emptyComponent] =
          some final ∧
        final.storage.getData .working (.hash observedDigests emptyComponent) = .ok (emptyComponent.take 4) ∧
        AnyDigest.hash observedDigests (emptyComponent.take 4) ≠ .hash observedDigests emptyComponent) ∧
      ∃ final : BaseEngine observedWasmtime,
        run (step observedDigests) (new 3 .new) [.loadComponentFromSource servesFoobarbaz foobarbazSource,.restart 3] =
          some final ∧
          final.listDigests (fun _ => true) = .ok [.hash observedDigests (utf8 "foobarbaz")] ∧
          final.storage.getData .working (.hash observedDigests (utf8 "foobarbaz")) = .ok (utf8 "foobarbaz") ∧
          ¬observedWasmtime.Compiles (utf8 "foobarbaz") := by
  refine ⟨⟨_,rfl,?_,?_⟩,⟨_,rfl,?_,?_,?_⟩⟩
  · decide +kernel
  · decide +kernel
  · decide +kernel
  · decide +kernel
  · decide +kernel

end BaseEngine
end Warpdrive.Engine
