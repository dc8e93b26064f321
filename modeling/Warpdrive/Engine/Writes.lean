import Warpdrive.Engine.KeyValue

/-! What the operations of a component write: each is a list of writes under a bucket id and a key, and the tables
after it are those before it with the writes. -/
namespace Warpdrive.Engine

open Warpdrive.Types

inductive Write
  | put (pair : String × String) (value : List UInt8)
  | remove (pair : String × String)
  | add (pair : String × String) (delta : Int64)

def pairKey (keyNamespace : String) (pair : String × String) : Key := ⟨⟨keyNamespace,pair.1⟩,pair.2⟩

namespace Write

def pair : Write → String × String
  | .put pair _ => pair
  | .remove pair => pair
  | .add pair _ => pair

def onDb (keyNamespace : String) (db : KeyValueDb) : Write → KeyValueDb
  | .put pair value => {db with kvStore := db.kvStore.insert (pairKey keyNamespace pair).display value}
  | .remove pair => {db with kvStore := db.kvStore.remove (pairKey keyNamespace pair).display}
  | .add pair delta =>
    let count := (db.kvAtomicsCounter.getCloned (pairKey keyNamespace pair).display).getD 0 + delta
    {db with kvAtomicsCounter := db.kvAtomicsCounter.insert (pairKey keyNamespace pair).display count}

end Write

def puts (id : String) (keyValues : List (String × List UInt8)) : List Write :=
  keyValues.map (fun entry => .put (id,entry.1) entry.2)

namespace KeyValueState

variable {resources : ResourceTable} {keyNamespace : String} (self : KeyValueState resources keyNamespace)

def onBucket (bucket : Nat) (writes : String → List Write) : List Write :=
  match self.getBucket bucket with
  | .error _ => []
  | .ok found => writes found.id

/-- What an operation writes. A swap writes when the value is that of its snapshot. -/
def writes : Operation → List Write
  | .set bucket key value => self.onBucket bucket (fun id => [.put (id,key) value])
  | .delete bucket key => self.onBucket bucket (fun id => [.remove (id,key)])
  | .setMany bucket keyValues => self.onBucket bucket (fun id => puts id keyValues)
  | .deleteMany bucket keys => self.onBucket bucket (fun id => keys.map (fun key => .remove (id,key)))
  | .increment bucket key delta => self.onBucket bucket (fun id => [.add (id,key) delta])
  | .swap cas value =>
    match self.getCas cas with
    | .error _ => []
    | .ok entry =>
      if self.getStoreValue entry.key ≠ entry.snapshot then []
      else [.put (entry.key.keyPrefix.bucketId,entry.key.key) value]
  | _ => []

theorem foldl_setStoreValue (id : String) (keyValues : List (String × List UInt8)) :
    (keyValues.foldl (fun state entry => state.setStoreValue ⟨⟨keyNamespace,id⟩,entry.1⟩ entry.2) self).db =
      (puts id keyValues).foldl (Write.onDb keyNamespace) self.db := by
  induction keyValues generalizing self with
  | nil => rfl
  | cons entry rest ih => exact ih (self.setStoreValue ⟨⟨keyNamespace,id⟩,entry.1⟩ entry.2)

theorem foldl_removeStoreValue (id : String) (keys : List String) :
    ((keys.map (fun key => Key.mk ⟨keyNamespace,id⟩ key)).foldl removeStoreValue self).db =
      (keys.map (fun key => Write.remove (id,key))).foldl (Write.onDb keyNamespace) self.db := by
  induction keys generalizing self with
  | nil => rfl
  | cons key rest ih => exact ih (self.removeStoreValue ⟨⟨keyNamespace,id⟩,key⟩)

/-- The tables after an operation are those before it with what the operation writes. -/
theorem perform_db (operation : Operation) :
    (self.perform operation).1.db = (self.writes operation).foldl (Write.onDb keyNamespace) self.db := by
  cases operation with
  | open' id => exact self.pushEntry_db _ _
  | get bucket key => rfl
  | set bucket key value =>
    simp only [perform,Prod.map_fst,id_eq,set,writes,onBucket,getKey,getKeyPrefix]
    cases self.getBucket bucket with
    | error e => rfl
    | ok found => rfl
  | delete bucket key =>
    simp only [perform,Prod.map_fst,id_eq,delete,writes,onBucket,getKey,getKeyPrefix]
    cases self.getBucket bucket with
    | error e => rfl
    | ok found => rfl
  | exists' bucket key => rfl
  | listKeys bucket cursor => rfl
  | dropBucket bucket => exact self.dropResource_db bucket
  | getMany bucket keys => rfl
  | setMany bucket keyValues =>
    simp only [perform,Prod.map_fst,id_eq,setMany,writes,onBucket,getKeyPrefix]
    cases self.getBucket bucket with
    | error e => rfl
    | ok found => exact self.foldl_setStoreValue found.id keyValues
  | deleteMany bucket keys =>
    simp only [perform,Prod.map_fst,id_eq,deleteMany,writes,onBucket,getKeys,getKeyPrefix]
    cases self.getBucket bucket with
    | error e => rfl
    | ok found => exact self.foldl_removeStoreValue found.id keys
  | increment bucket key delta =>
    simp only [perform,Prod.map_fst,id_eq,increment,writes,onBucket,getKey,getKeyPrefix]
    cases self.getBucket bucket with
    | error e => rfl
    | ok found => rfl
  | swap cas value =>
    simp only [perform,Prod.map_fst,id_eq,swap,writes]
    cases self.getCas cas with
    | error e => rfl
    | ok entry =>
      dsimp only
      split
      · have pushed := self.pushEntry_db "Failed to create replacement keyvalue cas: "
          (.cas {entry with snapshot := self.getStoreValue entry.key})
        split <;> exact pushed
      · obtain ⟨⟨⟨space,id⟩,key⟩,snapshot,own⟩ := entry
        change space = keyNamespace at own
        subst own
        rfl
  | newCas bucket key =>
    simp only [perform,Prod.map_fst,id_eq,newCas,writes]
    split
    · rfl
    · exact self.pushEntry_db _ _
  | current cas => rfl
  | dropCas cas => exact self.dropResource_db cas

theorem foldl_resourceTable {B : Type}
    (update : KeyValueState resources keyNamespace → B → KeyValueState resources keyNamespace) (keeps :
      ∀ state item, (update state item).resourceTable = state.resourceTable) (items : List B) :
    (items.foldl update self).resourceTable = self.resourceTable := by
  induction items generalizing self with
  | nil => rfl
  | cons item rest ih => exact (ih _).trans (keeps self item)

/-- An operation that writes leaves the handles as they are. -/
theorem perform_resourceTable (operation : Operation) (writing : self.writes operation ≠ []) :
    (self.perform operation).1.resourceTable = self.resourceTable := by
  cases operation with
  | set bucket key value =>
    simp only [perform,Prod.map_fst,id_eq,set]
    split <;> rfl
  | delete bucket key =>
    simp only [perform,Prod.map_fst,id_eq,delete]
    split <;> rfl
  | setMany bucket keyValues =>
    simp only [perform,Prod.map_fst,id_eq,setMany]
    split
    next => rfl
    next keyPrefix _ =>
      exact self.foldl_resourceTable (fun state entry => state.setStoreValue ⟨keyPrefix,entry.1⟩ entry.2)
        (fun _ _ => rfl) keyValues
  | deleteMany bucket keys =>
    simp only [perform,Prod.map_fst,id_eq,deleteMany]
    split
    · rfl
    · exact self.foldl_resourceTable removeStoreValue (fun _ _ => rfl) _
  | increment bucket key delta =>
    simp only [perform,Prod.map_fst,id_eq,increment]
    split <;> rfl
  | swap cas value =>
    simp only [writes] at writing
    simp only [perform,Prod.map_fst,id_eq,swap]
    cases found : self.getCas cas with
    | error e => rfl
    | ok entry =>
      rw [found] at writing
      dsimp only at writing ⊢
      by_cases moved : self.getStoreValue entry.key ≠ entry.snapshot
      · exact absurd (if_pos moved) writing
      · rw [if_neg moved]
        rfl
  | _ => exact absurd rfl writing

end KeyValueState
end Warpdrive.Engine
