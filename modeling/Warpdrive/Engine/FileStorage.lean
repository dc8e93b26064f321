import Warpdrive.Foundation.Attempt
import Warpdrive.Foundation.Maps
import Warpdrive.Types.Digest
import Warpdrive.Types.Service

/-! The component store: files by digest (`storage/fs.rs`) and the engine that fills them and keeps
compiled components in memory (`base_engine.rs`). A file is written in place, so a write that stops
leaves a part of it. What the file system and a download answer is given to each call. -/
namespace Warpdrive.Engine

open Warpdrive.Foundation Warpdrive.Types

inductive CAStorageError
  | notFound (digest : AnyDigest)
  | digest (error : FromHexError)
  | io (reason : String)
  deriving DecidableEq

/-- How `std::fs::write` ends: it may not create the file, or stop after some of the bytes. -/
inductive FileWrite
  | done
  | refused (reason : String)
  | stopped (length : Nat) (reason : String)
  deriving DecidableEq

/-- What the file then holds, where the write has created it. -/
def FileWrite.leaves (data : List UInt8) : FileWrite → Option (List UInt8)
  | .done => some data
  | .refused _ => none
  | .stopped length _ => some (data.take length)

def FileWrite.outcome : FileWrite → Except CAStorageError Unit
  | .done => .ok ()
  | .refused reason => .error (.io reason)
  | .stopped _ reason => .error (.io reason)

structure Writing where
  createDir : Except String Unit
  write : FileWrite

structure Reading where
  createDir : Except String Unit
  read : Except String Unit

/-- A file system that does what it is asked to. -/
def Writing.working : Writing := ⟨.ok (),.done⟩

def Reading.working : Reading := ⟨.ok (),.ok ()⟩

/-- The files under `data_dir`, by path. -/
structure FileStorage where
  files : HashMap (List String) (List UInt8)

namespace FileStorage

def new : FileStorage := ⟨.new⟩

/-- `data_dir/<digest[0:2]>/<digest[2:4]>/<digest>`. -/
def pathOf (digest : AnyDigest) : List String :=
  [String.ofList (digest.display.toList.take 2),String.ofList ((digest.display.toList.drop 2).take 2),
    digest.display]

def digestToPath (createDir : Except String Unit) (digest : AnyDigest) : Except CAStorageError (List String) :=
  match createDir with
  | .error reason => .error (.io reason)
  | .ok () => .ok (pathOf digest)

def writeFile (write : FileWrite) (path : List String) (data : List UInt8) :
    Attempt FileStorage CAStorageError Unit := fun self =>
  match write.leaves data with
  | none => (self,write.outcome)
  | some bytes => ({self with files := self.files.insert path bytes},write.outcome)

/-- A file that exists is not written again. -/
def setData (prim : IdPrimitives) (io : Writing) (data : List UInt8) :
    Attempt FileStorage CAStorageError AnyDigest := do
  let path ← .checks (fun _ => digestToPath io.createDir (.hash prim data))
  let present ← .reads (fun self => (self.files.get path).isSome)
  if present then pure () else writeFile io.write path data
  return .hash prim data

def getData (io : Reading) (digest : AnyDigest) (self : FileStorage) : Except CAStorageError (List UInt8) :=
  match digestToPath io.createDir digest with
  | .error error => .error error
  | .ok path =>
    match self.files.get path with
    | none => .error (.notFound digest)
    | some data =>
      match io.read with
      | .error reason => .error (.io reason)
      | .ok () => .ok data

/-- The names of the files that the walk can see, read as digests. -/
def digests (visible : List String → Bool) (self : FileStorage) : List (Except CAStorageError AnyDigest) :=
  (self.files.iter.filter (fun entry => visible entry.1)).filterMap (fun entry =>
    entry.1.getLast?.map (fun name => (AnyDigest.fromStr name).mapError .digest))

end FileStorage

/-- `lru::LruCache`, the entry used last first. -/
structure LruCache (K V : Type) where
  cap : Nat
  entries : List (K × V)

namespace LruCache

variable {K V : Type} [DecidableEq K]

def get (key : K) (self : LruCache K V) : Option V × LruCache K V :=
  match self.entries.lookup key with
  | none => (none,self)
  | some value =>
    (some value,{self with entries := (key,value) :: self.entries.filter (fun entry => entry.1 ≠ key)})

def put (key : K) (value : V) (self : LruCache K V) : LruCache K V :=
  {self with entries := ((key,value) :: self.entries.filter (fun entry => entry.1 ≠ key)).take self.cap}

end LruCache

/-- `wasmtime`: its components, and the bytes that it compiles to one. -/
structure Wasmtime where
  WasmComponent : Type
  compile : List UInt8 → Except String WasmComponent

def Wasmtime.Compiles (wasmtime : Wasmtime) (bytes : List UInt8) : Prop := (wasmtime.compile bytes).isOk = true

instance (wasmtime : Wasmtime) (bytes : List UInt8) : Decidable (wasmtime.Compiles bytes) :=
  inferInstanceAs (Decidable (_ = true))

/-- A storage error is told with a message before it. -/
inductive EngineError
  | compile (reason : String)
  | storageError (message : String) (cause : Option CAStorageError)
  | unknownDigest (digest : ComponentDigest)
  | registry (reason : String)
  deriving DecidableEq

/-- What the file system and the two ways of downloading answer during one call. -/
structure Outside where
  get : Reading
  fetchBytes : String → Except String (List UInt8)
  fetchRegistry : String → Registry → Except String (List UInt8)
  set : Writing

def sourceDigest : ComponentSource → ComponentDigest
  | .download _ digest => digest
  | .registry registry => registry.digest
  | .digest digest => digest

structure BaseEngine (wasmtime : Wasmtime) where
  memoryCache : LruCache ComponentDigest wasmtime.WasmComponent
  storage : FileStorage

def defaultLruSize : Nat := 10

namespace BaseEngine

variable {wasmtime : Wasmtime}

/-- An engine over the files of the process before it. -/
def new (lruSize : Nat) (storage : FileStorage) : BaseEngine wasmtime :=
  ⟨⟨if lruSize = 0 then defaultLruSize else lruSize,[]⟩,storage⟩

def cacheGet (digest : ComponentDigest) :
    Attempt (BaseEngine wasmtime) EngineError (Option wasmtime.WasmComponent) := fun self =>
  ({self with memoryCache := (self.memoryCache.get digest).2},.ok (self.memoryCache.get digest).1)

def cachePut (digest : ComponentDigest) (component : wasmtime.WasmComponent) :
    Attempt (BaseEngine wasmtime) EngineError Unit :=
  .changes (fun self => {self with memoryCache := self.memoryCache.put digest component})

def compile (bytes : List UInt8) : Attempt (BaseEngine wasmtime) EngineError wasmtime.WasmComponent :=
  .checks (fun _ => (wasmtime.compile bytes).mapError .compile)

def setData (prim : IdPrimitives) (message : String) (io : Writing) (bytes : List UInt8) :
    Attempt (BaseEngine wasmtime) EngineError AnyDigest :=
  .within BaseEngine.storage (fun storage self => {self with storage := storage})
    (fun error => .storageError message (some error)) (FileStorage.setData prim io bytes)

def readComponent (io : Reading) (digest : ComponentDigest) :
    Attempt (BaseEngine wasmtime) EngineError wasmtime.WasmComponent := do
  let bytes ← .checks (fun self => (self.storage.getData io digest.toAny).mapError
    (fun error => .storageError "Failed to get component: " (some error)))
  let component ← compile bytes
  cachePut digest component
  return component

def loadComponent (io : Reading) (digest : ComponentDigest) :
    Attempt (BaseEngine wasmtime) EngineError wasmtime.WasmComponent := do
  match ← cacheGet digest with
  | some component => return component
  | none => readComponent io digest

def fetch (outside : Outside) : ComponentSource → Except EngineError (List UInt8)
  | .download uri _ =>
    (outside.fetchBytes uri).mapError (fun reason => .storageError ("Failed to download from url: " ++ reason) none)
  | .registry registry => (outside.fetchRegistry (registry.domain.getD "wa.dev") registry).mapError .registry
  | .digest digest => .error (.unknownDigest digest)

/-- `fetch` with the check of the digest. -/
def fetchChecked (prim : IdPrimitives) (outside : Outside) (source : ComponentSource) :
    Except EngineError (List UInt8) :=
  match fetch outside source with
  | .error error => .error error
  | .ok bytes =>
    if ComponentDigest.hash prim bytes ≠ sourceDigest source then
      .error (.storageError "Downloaded component digest does not match expected digest" none)
    else .ok bytes

/-- The bytes are stored before they are compiled. -/
def fetchComponent (prim : IdPrimitives) (outside : Outside) (source : ComponentSource) :
    Attempt (BaseEngine wasmtime) EngineError wasmtime.WasmComponent := do
  let bytes ← .checks (fun _ => fetchChecked prim outside source)
  let _ ← setData prim "Failed to store component: " outside.set bytes
  let component ← compile bytes
  cachePut (sourceDigest source) component
  return component

def loadComponentFromSource (prim : IdPrimitives) (outside : Outside) (source : ComponentSource) :
    Attempt (BaseEngine wasmtime) EngineError wasmtime.WasmComponent := fun self =>
  match loadComponent outside.get (sourceDigest source) self with
  | (self,.ok component) => (self,.ok component)
  | (self,.error _) => fetchComponent prim outside source self

def storeComponentBytes (prim : IdPrimitives) (io : Writing) (bytes : List UInt8) :
    Attempt (BaseEngine wasmtime) EngineError ComponentDigest := do
  let component ← compile bytes
  let digest ← setData prim "Failed to store bytes: " io bytes
  cachePut ⟨digest.inner⟩ component
  return ⟨digest.inner⟩

/-- `list_digests` of `wasm_engine.rs`. -/
def listDigests (visible : List String → Bool) (self : BaseEngine wasmtime) :
    Except CAStorageError (List ComponentDigest) :=
  ((self.storage.digests visible).mapM id).map (fun digests => digests.map (fun digest => ⟨digest.inner⟩))

end BaseEngine
end Warpdrive.Engine
