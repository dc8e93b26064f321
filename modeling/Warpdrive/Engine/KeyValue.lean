import Mathlib.Data.List.Sort
import Mathlib.Data.String.Basic
import Warpdrive.Types.Hex

/-! The key-value interfaces of a component (`engine/src/backend/wasi_keyvalue`): store, batch and
atomics over two tables that every service shares. A key is rendered with the namespace, the bucket
and the key text. wasmtime's resource table is a parameter; there is one for each execution, and
what it holds of a compare-and-swap carries a key of the execution's namespace. Rust's wrapping
`i64` addition is that of the release build. -/
namespace Warpdrive.Engine

open Warpdrive.Types

structure KeyPrefix where
  keyNamespace : String
  bucketId : String
  deriving DecidableEq

def KeyPrefix.display (self : KeyPrefix) : String := self.keyNamespace ++ "/" ++ self.bucketId

structure Key where
  keyPrefix : KeyPrefix
  key : String
  deriving DecidableEq

def Key.display (self : Key) : String := self.keyPrefix.display ++ "/" ++ self.key

structure KeyValueBucket where
  id : String
  deriving DecidableEq

structure KeyValueCas (keyNamespace : String) where
  key : Key
  snapshot : Option (List UInt8)
  own : key.keyPrefix.keyNamespace = keyNamespace
  deriving DecidableEq

inductive Entry (keyNamespace : String)
  | bucket (bucket : KeyValueBucket)
  | cas (cas : KeyValueCas keyNamespace)
  deriving DecidableEq

/-- `wasmtime_wasi::ResourceTable`; an error is its text. -/
structure ResourceTable where
  Table : Type → Type
  push {A : Type} : Table A → A → Except String (Table A × Nat)
  get {A : Type} : Table A → Nat → Except String A
  delete {A : Type} : Table A → Nat → Except String (Table A)

def wrongType : String := "resource is of another type"

inductive KeyValueError
  | other (text : String)
  deriving DecidableEq

inductive CasError
  | storeError (error : KeyValueError)
  | casFailed (cas : Nat)
  deriving DecidableEq

structure KeyResponse where
  keys : List String
  cursor : Option String
  deriving DecidableEq

inductive Reply
  | opened (result : Except KeyValueError Nat)
  | value (result : Except KeyValueError (Option (List UInt8)))
  | values (result : Except KeyValueError (List (Option (String × List UInt8))))
  | done (result : Except KeyValueError Unit)
  | present (result : Except KeyValueError Bool)
  | listed (result : Except KeyValueError KeyResponse)
  | count (result : Except KeyValueError Int64)
  | swapped (result : Except CasError Unit)
  | dropped (result : Except String Unit)
  deriving DecidableEq

inductive Operation
  | open' (id : String)
  | get (bucket : Nat) (key : String)
  | set (bucket : Nat) (key : String) (value : List UInt8)
  | delete (bucket : Nat) (key : String)
  | exists' (bucket : Nat) (key : String)
  | listKeys (bucket : Nat) (cursor : Option String)
  | dropBucket (bucket : Nat)
  | getMany (bucket : Nat) (keys : List String)
  | setMany (bucket : Nat) (keyValues : List (String × List UInt8))
  | deleteMany (bucket : Nat) (keys : List String)
  | increment (bucket : Nat) (key : String) (delta : Int64)
  | swap (cas : Nat) (value : List UInt8)
  | newCas (bucket : Nat) (key : String)
  | current (cas : Nat)
  | dropCas (cas : Nat)
  deriving DecidableEq

/-- The two tables of `WavsDb` that components write to. -/
structure KeyValueDb where
  kvStore : WavsDbTable String (List UInt8)
  kvAtomicsCounter : WavsDbTable String Int64

structure KeyValueState (resources : ResourceTable) (keyNamespace : String) where
  db : KeyValueDb
  resourceTable : resources.Table (Entry keyNamespace)
  pageSize : Option Nat

def startsWith (text stem : String) : Bool := stem.toList.isPrefixOf text.toList

/-- `key[prefix_str.len()..]`, of a key with that stem. -/
def chop (stem key : String) : String := String.ofList (key.toList.drop stem.toList.length)

/-- The loop over the keys from the cursor on, with the number of keys before this one. -/
def collectPage (stem : String) (pageSize : Option Nat) : Nat → List String → KeyResponse
  | _,[] => ⟨[],none⟩
  | count,key::rest =>
    if !startsWith key stem then ⟨[],none⟩
    else if pageSize.any (fun size => count + 1 > size) then ⟨[],some key⟩
    else
      let page := collectPage stem pageSize (count + 1) rest
      ⟨chop stem key :: page.keys,page.cursor⟩

namespace KeyValueState

variable {resources : ResourceTable} {keyNamespace : String} (self : KeyValueState resources keyNamespace)

def getBucket (bucket : Nat) : Except String KeyValueBucket :=
  match resources.get self.resourceTable bucket with
  | .error e => .error ("Failed to get keyvalue bucket: " ++ e)
  | .ok (.bucket found) => .ok found
  | .ok (.cas _) => .error ("Failed to get keyvalue bucket: " ++ wrongType)

def getCas (cas : Nat) : Except KeyValueError (KeyValueCas keyNamespace) :=
  match resources.get self.resourceTable cas with
  | .error e => .error (.other ("Failed to get keyvalue cas: " ++ e))
  | .ok (.cas found) => .ok found
  | .ok (.bucket _) => .error (.other ("Failed to get keyvalue cas: " ++ wrongType))

def getKeyPrefix (bucket : Nat) : Except KeyValueError KeyPrefix :=
  match self.getBucket bucket with
  | .error e => .error (.other e)
  | .ok found => .ok ⟨keyNamespace,found.id⟩

def getKey (bucket : Nat) (key : String) : Except KeyValueError Key :=
  (self.getKeyPrefix bucket).map (fun keyPrefix => ⟨keyPrefix,key⟩)

def getKeys (bucket : Nat) (keys : List String) : Except KeyValueError (List Key) :=
  (self.getKeyPrefix bucket).map (fun keyPrefix => keys.map (fun key => ⟨keyPrefix,key⟩))

def getStoreValue (key : Key) : Option (List UInt8) := self.db.kvStore.getCloned key.display

def setStoreValue (key : Key) (value : List UInt8) : KeyValueState resources keyNamespace :=
  {self with db.kvStore := self.db.kvStore.insert key.display value}

def removeStoreValue (key : Key) : KeyValueState resources keyNamespace :=
  {self with db.kvStore := self.db.kvStore.remove key.display}

def saveAtomicCount (key : Key) (value : Int64) : KeyValueState resources keyNamespace :=
  {self with db.kvAtomicsCounter := self.db.kvAtomicsCounter.insert key.display value}

/-- The push of a new resource, with the text that goes before an error. -/
def pushEntry (failed : String) (entry : Entry keyNamespace) :
    KeyValueState resources keyNamespace × Except KeyValueError Nat :=
  match resources.push self.resourceTable entry with
  | .error e => (self,.error (.other (failed ++ e)))
  | .ok (table,rep) => ({self with resourceTable := table},.ok rep)

theorem pushEntry_db (failed : String) (entry : Entry keyNamespace) :
    (self.pushEntry failed entry).1.db = self.db := by
  unfold pushEntry
  split <;> rfl

def open' (id : String) : KeyValueState resources keyNamespace × Except KeyValueError Nat :=
  self.pushEntry "Failed to open keyvalue bucket: " (.bucket ⟨id⟩)

def get (bucket : Nat) (key : String) : Except KeyValueError (Option (List UInt8)) :=
  (self.getKey bucket key).map self.getStoreValue

def set (bucket : Nat) (key : String) (value : List UInt8) :
    KeyValueState resources keyNamespace × Except KeyValueError Unit :=
  match self.getKey bucket key with
  | .error e => (self,.error e)
  | .ok key => (self.setStoreValue key value,.ok ())

def delete (bucket : Nat) (key : String) : KeyValueState resources keyNamespace × Except KeyValueError Unit :=
  match self.getKey bucket key with
  | .error e => (self,.error e)
  | .ok key => (self.removeStoreValue key,.ok ())

def exists' (bucket : Nat) (key : String) : Except KeyValueError Bool := (self.get bucket key).map Option.isSome

/-- The keys with the stem, sorted. -/
def allKeys (stem : String) : List String :=
  ((self.db.kvStore.iter.map Prod.fst).filter (fun key => startsWith key stem)).insertionSort (· ≤ ·)

def listKeys (bucket : Nat) (cursor : Option String) : Except KeyValueError KeyResponse :=
  (self.getKeyPrefix bucket).map (fun keyPrefix =>
    let stem := keyPrefix.display ++ "/"
    let keysFromCursor :=
      match cursor with
      | some text => (self.allKeys stem).dropWhile (fun key => key < (Key.mk keyPrefix text).display)
      | none => self.allKeys stem
    collectPage stem self.pageSize 0 keysFromCursor)

def dropResource (rep : Nat) : KeyValueState resources keyNamespace × Except String Unit :=
  match resources.delete self.resourceTable rep with
  | .error e => (self,.error e)
  | .ok table => ({self with resourceTable := table},.ok ())

theorem dropResource_db (rep : Nat) : (self.dropResource rep).1.db = self.db := by
  unfold dropResource
  split <;> rfl

def getMany (bucket : Nat) (keys : List String) : Except KeyValueError (List (Option (String × List UInt8))) :=
  (self.getKeyPrefix bucket).map (fun keyPrefix =>
    keys.map (fun key => (self.getStoreValue ⟨keyPrefix,key⟩).map (fun value => (key,value))))

def setMany (bucket : Nat) (keyValues : List (String × List UInt8)) :
    KeyValueState resources keyNamespace × Except KeyValueError Unit :=
  match self.getKeyPrefix bucket with
  | .error e => (self,.error e)
  | .ok keyPrefix =>
    (keyValues.foldl (fun state entry => state.setStoreValue ⟨keyPrefix,entry.1⟩ entry.2) self,.ok ())

def deleteMany (bucket : Nat) (keys : List String) : KeyValueState resources keyNamespace × Except KeyValueError Unit :=
  match self.getKeys bucket keys with
  | .error e => (self,.error e)
  | .ok keys => (keys.foldl removeStoreValue self,.ok ())

def increment (bucket : Nat) (key : String) (delta : Int64) :
    KeyValueState resources keyNamespace × Except KeyValueError Int64 :=
  match self.getKey bucket key with
  | .error e => (self,.error e)
  | .ok key =>
    let count := (self.db.kvAtomicsCounter.getCloned key.display).getD 0 + delta
    (self.saveAtomicCount key count,.ok count)

def swap (cas : Nat) (value : List UInt8) : KeyValueState resources keyNamespace × Except CasError Unit :=
  match self.getCas cas with
  | .error e => (self,.error (.storeError e))
  | .ok entry =>
    let current := self.getStoreValue entry.key
    if current ≠ entry.snapshot then
      let pushed := self.pushEntry "Failed to create replacement keyvalue cas: "
        (.cas {entry with snapshot := current})
      match pushed.2 with
      | .error e => (pushed.1,.error (.storeError e))
      | .ok rep => (pushed.1,.error (.casFailed rep))
    else (self.setStoreValue entry.key value,.ok ())

def newCas (bucket : Nat) (key : String) : KeyValueState resources keyNamespace × Except KeyValueError Nat :=
  match self.getBucket bucket with
  | .error e => (self,.error (.other e))
  | .ok found =>
    let key : Key := ⟨⟨keyNamespace,found.id⟩,key⟩
    self.pushEntry "Failed to create keyvalue cas: " (.cas ⟨key,self.getStoreValue key,rfl⟩)

def current (cas : Nat) : Except KeyValueError (Option (List UInt8)) := (self.getCas cas).map KeyValueCas.snapshot

def perform : Operation → KeyValueState resources keyNamespace × Reply
  | .open' bucketId => (self.open' bucketId).map id .opened
  | .get bucket key => (self,.value (self.get bucket key))
  | .set bucket key value => (self.set bucket key value).map id .done
  | .delete bucket key => (self.delete bucket key).map id .done
  | .exists' bucket key => (self,.present (self.exists' bucket key))
  | .listKeys bucket cursor => (self,.listed (self.listKeys bucket cursor))
  | .dropBucket bucket => (self.dropResource bucket).map id .dropped
  | .getMany bucket keys => (self,.values (self.getMany bucket keys))
  | .setMany bucket keyValues => (self.setMany bucket keyValues).map id .done
  | .deleteMany bucket keys => (self.deleteMany bucket keys).map id .done
  | .increment bucket key delta => (self.increment bucket key delta).map id .count
  | .swap cas value => (self.swap cas value).map id .swapped
  | .newCas bucket key => (self.newCas bucket key).map id .opened
  | .current cas => (self,.value (self.current cas))
  | .dropCas cas => (self.dropResource cas).map id .dropped

end KeyValueState

/-- A resource table that gives out fresh indices. -/
def slab : ResourceTable where
  Table A := List (Option A)
  push table entry := .ok (table ++ [some entry],table.length)
  get table rep :=
    match table[rep]? with
    | some (some entry) => .ok entry
    | _ => .error "resource not present"
  delete table rep :=
    match table[rep]? with
    | some (some _) => .ok (table.set rep none)
    | _ => .error "resource not present"

end Warpdrive.Engine
