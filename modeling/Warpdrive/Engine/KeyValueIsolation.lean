import Warpdrive.Foundation.Noninterference
import Warpdrive.Foundation.Separator
import Warpdrive.Engine.Writes

/-! Services do not see each other's keys. The namespace of a service is the hexadecimal text of its
id and holds no slash, so a rendered key starts with the namespace of one service only. -/
namespace Warpdrive.Engine

open Warpdrive.Foundation Warpdrive.Foundation.Noninterference Warpdrive.Types

/-- The text is under the namespace. -/
def Under (keyNamespace text : String) : Prop := (keyNamespace ++ "/").toList <+: text.toList

theorem Key.under (key : Key) : Under key.keyPrefix.keyNamespace key.display := by
  refine ⟨(key.keyPrefix.bucketId ++ "/" ++ key.key).toList,?_⟩
  simp [Key.display,KeyPrefix.display,String.toList_append]

theorem KeyPrefix.under (self : KeyPrefix) (text : String) (starts : startsWith text (self.display ++ "/") = true) :
    Under self.keyNamespace text := by
  have stem : (self.display ++ "/").toList <+: text.toList := List.isPrefixOf_iff_prefix.mp starts
  refine List.IsPrefix.trans ?_ stem
  refine ⟨(self.bucketId ++ "/").toList,?_⟩
  simp [KeyPrefix.display,String.toList_append]

/-- Without slashes, two namespaces that a text is under are one. -/
theorem under_unique (first second text : String) (plain : '/' ∉ first.toList) (plain' : '/' ∉ second.toList)
    (under : Under first text) (under' : Under second text) : first = second := by
  have stem : ∀ space : String, '/' ∉ space.toList → Under space text →
      text.toList.takeWhile (· ≠ '/') = space.toList := by
    rintro space absent ⟨rest,same⟩
    rw [← same,String.toList_append,List.append_assoc]
    exact Separator.takeWhile_joined '/' space.toList rest absent
  exact String.toList_inj.mp ((stem first plain under).symm.trans (stem second plain' under'))

variable {resources : ResourceTable} {keyNamespace : String}

/-- Two databases that hold the same under a namespace. -/
structure SameUnder (keyNamespace : String) (first second : KeyValueDb) : Prop where
  kvStore : ∀ text, Under keyNamespace text → first.kvStore.getCloned text = second.kvStore.getCloned text
  kvAtomicsCounter : ∀ text, Under keyNamespace text →
    first.kvAtomicsCounter.getCloned text = second.kvAtomicsCounter.getCloned text

theorem SameUnder.symm {first second : KeyValueDb} (same : SameUnder keyNamespace first second) :
    SameUnder keyNamespace second first :=
  ⟨fun text under => (same.kvStore text under).symm,fun text under => (same.kvAtomicsCounter text under).symm⟩

theorem SameUnder.trans {first second third : KeyValueDb} (same : SameUnder keyNamespace first second)
    (other : SameUnder keyNamespace second third) : SameUnder keyNamespace first third :=
  ⟨fun text under => (same.kvStore text under).trans (other.kvStore text under),
    fun text under => (same.kvAtomicsCounter text under).trans (other.kvAtomicsCounter text under)⟩

theorem getCloned_insert_congr {V : Type} (first second : WavsDbTable String V) (key text : String) (value : V)
    (same : first.getCloned text = second.getCloned text) :
    (first.insert key value).getCloned text = (second.insert key value).getCloned text := by
  by_cases equal : text = key
  · rw [equal,WavsDbTable.getCloned_insert,WavsDbTable.getCloned_insert]
  · rw [WavsDbTable.getCloned_insert_ne _ _ _ _ equal,WavsDbTable.getCloned_insert_ne _ _ _ _ equal,same]

theorem getCloned_remove_congr {V : Type} (first second : WavsDbTable String V) (key text : String)
    (same : first.getCloned text = second.getCloned text) :
    (first.remove key).getCloned text = (second.remove key).getCloned text := by
  by_cases equal : text = key
  · rw [equal,WavsDbTable.getCloned_remove,WavsDbTable.getCloned_remove]
  · rw [WavsDbTable.getCloned_remove_ne _ _ _ equal,WavsDbTable.getCloned_remove_ne _ _ _ equal,same]

namespace KeyValueState

/-- Two states that an execution of the namespace cannot tell apart. -/
structure Alike (first second : KeyValueState resources keyNamespace) : Prop where
  db : SameUnder keyNamespace first.db second.db
  resourceTable : first.resourceTable = second.resourceTable
  pageSize : first.pageSize = second.pageSize

variable {first second : KeyValueState resources keyNamespace}

theorem Alike.getStoreValue (alike : Alike first second) (key : Key)
    (own : key.keyPrefix.keyNamespace = keyNamespace) : first.getStoreValue key = second.getStoreValue key :=
  alike.db.kvStore _ (own ▸ key.under)

theorem Alike.setStoreValue (alike : Alike first second) (key : Key) (value : List UInt8) :
    Alike (first.setStoreValue key value) (second.setStoreValue key value) :=
  ⟨⟨fun text under => getCloned_insert_congr _ _ _ _ _ (alike.db.kvStore text under),alike.db.kvAtomicsCounter⟩,
    alike.resourceTable,alike.pageSize⟩

theorem Alike.removeStoreValue (alike : Alike first second) (key : Key) :
    Alike (first.removeStoreValue key) (second.removeStoreValue key) :=
  ⟨⟨fun text under => getCloned_remove_congr _ _ _ _ (alike.db.kvStore text under),alike.db.kvAtomicsCounter⟩,
    alike.resourceTable,alike.pageSize⟩

theorem Alike.saveAtomicCount (alike : Alike first second) (key : Key) (value : Int64) :
    Alike (first.saveAtomicCount key value) (second.saveAtomicCount key value) :=
  ⟨⟨alike.db.kvStore,fun text under => getCloned_insert_congr _ _ _ _ _ (alike.db.kvAtomicsCounter text under)⟩,
    alike.resourceTable,alike.pageSize⟩

theorem Alike.getBucket (alike : Alike first second) (bucket : Nat) :
    first.getBucket bucket = second.getBucket bucket := by
  unfold KeyValueState.getBucket
  rw [alike.resourceTable]

theorem Alike.getCas (alike : Alike first second) (cas : Nat) : first.getCas cas = second.getCas cas := by
  unfold KeyValueState.getCas
  rw [alike.resourceTable]

theorem Alike.getKeyPrefix (alike : Alike first second) (bucket : Nat) :
    first.getKeyPrefix bucket = second.getKeyPrefix bucket := by
  unfold KeyValueState.getKeyPrefix
  rw [alike.getBucket]

theorem Alike.getKey (alike : Alike first second) (bucket : Nat) (key : String) :
    first.getKey bucket key = second.getKey bucket key := by
  unfold KeyValueState.getKey
  rw [alike.getKeyPrefix]

/-- A result with the state it leaves, the same of states that are alike. -/
def Matches {R : Type} (one other : KeyValueState resources keyNamespace × R) : Prop :=
  one.2 = other.2 ∧ Alike one.1 other.1

theorem Matches.map {R T : Type} {one other : KeyValueState resources keyNamespace × R} (matched : Matches one other)
    (reply : R → T) : Matches (one.map id reply) (other.map id reply) :=
  ⟨congrArg reply matched.1,matched.2⟩

theorem Alike.pushEntry (alike : Alike first second) (failed : String) (entry : Entry keyNamespace) :
    Matches (first.pushEntry failed entry) (second.pushEntry failed entry) := by
  unfold KeyValueState.pushEntry
  rw [alike.resourceTable]
  cases resources.push second.resourceTable entry with
  | error e => exact ⟨rfl,alike⟩
  | ok pushed => exact ⟨rfl,alike.db,rfl,alike.pageSize⟩

theorem Alike.dropResource (alike : Alike first second) (rep : Nat) :
    Matches (first.dropResource rep) (second.dropResource rep) := by
  unfold KeyValueState.dropResource
  rw [alike.resourceTable]
  cases resources.delete second.resourceTable rep with
  | error e => exact ⟨rfl,alike⟩
  | ok table => exact ⟨rfl,alike.db,rfl,alike.pageSize⟩

theorem getKeyPrefix_own (self : KeyValueState resources keyNamespace) (bucket : Nat) (found : KeyPrefix)
    (ok : self.getKeyPrefix bucket = .ok found) : found.keyNamespace = keyNamespace := by
  unfold getKeyPrefix at ok
  split at ok
  · cases ok
  · cases ok
    rfl

theorem getKey_own (self : KeyValueState resources keyNamespace) (bucket : Nat) (text : String) (key : Key)
    (ok : self.getKey bucket text = .ok key) : key.keyPrefix.keyNamespace = keyNamespace := by
  unfold getKey at ok
  cases found : self.getKeyPrefix bucket with
  | error e =>
    rw [found] at ok
    cases ok
  | ok keyPrefix =>
    rw [found] at ok
    cases ok
    exact self.getKeyPrefix_own bucket keyPrefix found

theorem mem_allKeys (self : KeyValueState resources keyNamespace) (stem text : String) :
    text ∈ self.allKeys stem ↔ startsWith text stem = true ∧ (self.db.kvStore.getCloned text).isSome := by
  unfold KeyValueState.allKeys
  rw [List.mem_insertionSort,List.mem_filter,and_comm,List.mem_map,Option.isSome_iff_exists]
  refine and_congr_right ?_
  intro _
  constructor
  · rintro ⟨entry,member,rfl⟩
    exact ⟨entry.2,(self.db.kvStore.mem_iter entry.1 entry.2).mp member⟩
  · rintro ⟨value,found⟩
    exact ⟨(text,value),(self.db.kvStore.mem_iter text value).mpr found,rfl⟩

theorem nodup_allKeys (self : KeyValueState resources keyNamespace) (stem : String) : (self.allKeys stem).Nodup := by
  have distinct := self.db.kvStore.inner.keys_nodup
  unfold KeyValueState.allKeys WavsDbTable.iter
  rw [(List.perm_insertionSort _ _).nodup_iff,List.map_map]
  exact distinct.filter _

/-- The keys of a stem under the namespace are the same list, whatever order the tables are read in. -/
theorem Alike.allKeys (alike : Alike first second) (stem : String)
    (under : ∀ text, startsWith text stem = true → Under keyNamespace text) :
    first.allKeys stem = second.allKeys stem := by
  have perm : (first.allKeys stem).Perm (second.allKeys stem) := by
    rw [List.perm_ext_iff_of_nodup (nodup_allKeys first stem) (nodup_allKeys second stem)]
    intro text
    rw [mem_allKeys,mem_allKeys]
    refine and_congr_right ?_
    intro starts
    rw [alike.db.kvStore text (under text starts)]
  exact List.Perm.eq_of_sortedLE List.sortedLE_insertionSort List.sortedLE_insertionSort perm

theorem Alike.listKeys (alike : Alike first second) (bucket : Nat) (cursor : Option String) :
    first.listKeys bucket cursor = second.listKeys bucket cursor := by
  unfold KeyValueState.listKeys
  rw [alike.getKeyPrefix,alike.pageSize]
  cases found : second.getKeyPrefix bucket with
  | error e => rfl
  | ok keyPrefix =>
    have own := second.getKeyPrefix_own bucket keyPrefix found
    have keys := alike.allKeys (keyPrefix.display ++ "/") (fun text starts => own ▸ keyPrefix.under text starts)
    simp only [Except.map,keys]

theorem Alike.get (alike : Alike first second) (bucket : Nat) (key : String) :
    first.get bucket key = second.get bucket key := by
  unfold KeyValueState.get
  rw [alike.getKey]
  cases found : second.getKey bucket key with
  | error e => rfl
  | ok full => exact congrArg Except.ok (alike.getStoreValue full (second.getKey_own bucket key full found))

theorem Alike.getMany (alike : Alike first second) (bucket : Nat) (keys : List String) :
    first.getMany bucket keys = second.getMany bucket keys := by
  unfold KeyValueState.getMany
  rw [alike.getKeyPrefix]
  cases found : second.getKeyPrefix bucket with
  | error e => rfl
  | ok keyPrefix =>
    have own := second.getKeyPrefix_own bucket keyPrefix found
    refine congrArg Except.ok (List.map_congr_left ?_)
    intro key _
    rw [alike.getStoreValue ⟨keyPrefix,key⟩ own]

theorem Alike.set (alike : Alike first second) (bucket : Nat) (key : String) (value : List UInt8) :
    Matches (first.set bucket key value) (second.set bucket key value) := by
  unfold KeyValueState.set
  rw [alike.getKey]
  cases second.getKey bucket key with
  | error e => exact ⟨rfl,alike⟩
  | ok full => exact ⟨rfl,alike.setStoreValue full value⟩

theorem Alike.delete (alike : Alike first second) (bucket : Nat) (key : String) :
    Matches (first.delete bucket key) (second.delete bucket key) := by
  unfold KeyValueState.delete
  rw [alike.getKey]
  cases second.getKey bucket key with
  | error e => exact ⟨rfl,alike⟩
  | ok full => exact ⟨rfl,alike.removeStoreValue full⟩

theorem Alike.foldl {B : Type} (update : KeyValueState resources keyNamespace → B → KeyValueState resources keyNamespace)
    (keeps : ∀ one other item, Alike one other → Alike (update one item) (update other item)) (items : List B)
    (one other : KeyValueState resources keyNamespace) (alike : Alike one other) :
    Alike (items.foldl update one) (items.foldl update other) := by
  induction items generalizing one other with
  | nil => exact alike
  | cons item rest ih => exact ih _ _ (keeps one other item alike)

theorem Alike.setMany (alike : Alike first second) (bucket : Nat) (keyValues : List (String × List UInt8)) :
    Matches (first.setMany bucket keyValues) (second.setMany bucket keyValues) := by
  unfold KeyValueState.setMany
  rw [alike.getKeyPrefix]
  cases second.getKeyPrefix bucket with
  | error e => exact ⟨rfl,alike⟩
  | ok keyPrefix =>
    exact ⟨rfl,Alike.foldl _ (fun _ _ item both => both.setStoreValue ⟨keyPrefix,item.1⟩ item.2) keyValues _ _ alike⟩

theorem Alike.deleteMany (alike : Alike first second) (bucket : Nat) (keys : List String) :
    Matches (first.deleteMany bucket keys) (second.deleteMany bucket keys) := by
  unfold KeyValueState.deleteMany KeyValueState.getKeys
  rw [alike.getKeyPrefix]
  cases second.getKeyPrefix bucket with
  | error e => exact ⟨rfl,alike⟩
  | ok keyPrefix => exact ⟨rfl,Alike.foldl _ (fun _ _ key both => both.removeStoreValue key) _ _ _ alike⟩

theorem Alike.increment (alike : Alike first second) (bucket : Nat) (key : String) (delta : Int64) :
    Matches (first.increment bucket key delta) (second.increment bucket key delta) := by
  unfold KeyValueState.increment
  rw [alike.getKey]
  cases found : second.getKey bucket key with
  | error e => exact ⟨rfl,alike⟩
  | ok full =>
    have own := second.getKey_own bucket key full found
    have count := alike.db.kvAtomicsCounter full.display (own ▸ full.under)
    dsimp only
    rw [count]
    exact ⟨rfl,alike.saveAtomicCount full _⟩

theorem Alike.swap (alike : Alike first second) (cas : Nat) (value : List UInt8) :
    Matches (first.swap cas value) (second.swap cas value) := by
  unfold KeyValueState.swap
  rw [alike.getCas]
  cases second.getCas cas with
  | error e => exact ⟨rfl,alike⟩
  | ok entry =>
    dsimp only
    rw [alike.getStoreValue entry.key entry.own]
    split
    · obtain ⟨result,after⟩ := alike.pushEntry "Failed to create replacement keyvalue cas: "
        (.cas {entry with snapshot := second.getStoreValue entry.key})
      rw [result]
      split <;> exact ⟨rfl,after⟩
    · exact ⟨rfl,alike.setStoreValue entry.key value⟩

theorem Alike.newCas (alike : Alike first second) (bucket : Nat) (key : String) :
    Matches (first.newCas bucket key) (second.newCas bucket key) := by
  unfold KeyValueState.newCas
  rw [alike.getBucket]
  cases second.getBucket bucket with
  | error e => exact ⟨rfl,alike⟩
  | ok found =>
    dsimp only
    rw [alike.getStoreValue ⟨⟨keyNamespace,found.id⟩,key⟩ rfl]
    exact alike.pushEntry _ _

/-- An operation answers the same in states that are alike and leaves them alike. -/
theorem Alike.perform (alike : Alike first second) (operation : Operation) :
    Matches (first.perform operation) (second.perform operation) := by
  cases operation with
  | open' bucketId => exact (alike.pushEntry _ _).map Reply.opened
  | get bucket key => exact ⟨congrArg Reply.value (alike.get bucket key),alike⟩
  | set bucket key value => exact (alike.set bucket key value).map Reply.done
  | delete bucket key => exact (alike.delete bucket key).map Reply.done
  | exists' bucket key =>
    refine ⟨congrArg Reply.present ?_,alike⟩
    unfold KeyValueState.exists'
    rw [alike.get]
  | listKeys bucket cursor => exact ⟨congrArg Reply.listed (alike.listKeys bucket cursor),alike⟩
  | dropBucket bucket => exact (alike.dropResource bucket).map Reply.dropped
  | getMany bucket keys => exact ⟨congrArg Reply.values (alike.getMany bucket keys),alike⟩
  | setMany bucket keyValues => exact (alike.setMany bucket keyValues).map Reply.done
  | deleteMany bucket keys => exact (alike.deleteMany bucket keys).map Reply.done
  | increment bucket key delta => exact (alike.increment bucket key delta).map Reply.count
  | swap cas value => exact (alike.swap cas value).map Reply.swapped
  | newCas bucket key => exact (alike.newCas bucket key).map Reply.opened
  | current cas =>
    refine ⟨congrArg Reply.value ?_,alike⟩
    unfold KeyValueState.current
    rw [alike.getCas]
  | dropCas cas => exact (alike.dropResource cas).map Reply.dropped

/-- Nothing under another namespace is changed. -/
def Confined (before after : KeyValueState resources keyNamespace) : Prop :=
  ∀ other, '/' ∉ other.toList → other ≠ keyNamespace → SameUnder other after.db before.db

variable (plain : '/' ∉ keyNamespace.toList) (self : KeyValueState resources keyNamespace)

include plain in
theorem display_ne (key : Key) (own : key.keyPrefix.keyNamespace = keyNamespace) (other text : String)
    (plain' : '/' ∉ other.toList) (differ : other ≠ keyNamespace) (under : Under other text) : text ≠ key.display := by
  rintro rfl
  exact differ (under_unique other keyNamespace _ plain' plain under (own ▸ key.under))

include plain in
theorem sameUnder_onDb (write : Write) (db : KeyValueDb) (other : String) (plain' : '/' ∉ other.toList)
    (differ : other ≠ keyNamespace) : SameUnder other (write.onDb keyNamespace db) db := by
  have apart := fun text => display_ne plain (pairKey keyNamespace write.pair) rfl other text plain' differ
  cases write with
  | put pair value =>
    refine ⟨?_,fun _ _ => rfl⟩
    intro text under
    exact WavsDbTable.getCloned_insert_ne _ _ _ _ (apart text under)
  | remove pair =>
    refine ⟨?_,fun _ _ => rfl⟩
    intro text under
    exact WavsDbTable.getCloned_remove_ne _ _ _ (apart text under)
  | add pair delta =>
    refine ⟨fun _ _ => rfl,?_⟩
    intro text under
    exact WavsDbTable.getCloned_insert_ne _ _ _ _ (apart text under)

include plain in
/-- An operation writes under the namespace of its execution. -/
theorem confined_perform (operation : Operation) : Confined self (self.perform operation).1 := by
  intro other plain' differ
  rw [perform_db]
  generalize self.writes operation = writes
  generalize self.db = db
  induction writes generalizing db with
  | nil => exact ⟨fun _ _ => rfl,fun _ _ => rfl⟩
  | cons write writes ih => exact (ih _).trans (sameUnder_onDb plain write db other plain' differ)

end KeyValueState

/-- The executions of all services over one database. -/
structure Components (resources : ResourceTable) {E : Type} (service : E → ServiceId) where
  db : KeyValueDb
  tables : (execution : E) → resources.Table (Entry (service execution).display)
  pageSize : E → Option Nat

namespace Components

variable {E : Type} {service : E → ServiceId}

/-- `KeyValueState::new` for one call of an execution. -/
def keyValueState (self : Components resources service) (execution : E) :
    KeyValueState resources (service execution).display :=
  ⟨self.db,self.tables execution,self.pageSize execution⟩

variable [DecidableEq E]

def step (self : Components resources service) (act : E × Operation) : Components resources service × Reply :=
  let result := (self.keyValueState act.1).perform act.2
  ({self with db := result.1.db,tables := Function.update self.tables act.1 result.1.resourceTable},result.2)

def serviceOf (service : E → ServiceId) (act : E × Operation) : ServiceId := service act.1

/-- What the executions of a service can tell apart. -/
structure SameFor (observer : ServiceId) (first second : Components resources service) : Prop where
  db : SameUnder observer.display first.db second.db
  tables : ∀ execution, service execution = observer → first.tables execution = second.tables execution
  pageSize : first.pageSize = second.pageSize

theorem unwinding (observer : ServiceId) :
    Unwinding (S := Components resources service) step (serviceOf service) observer (fun _ => True)
      (SameFor observer) where
  symm first second same :=
    ⟨same.db.symm,fun execution own => (same.tables execution own).symm,same.pageSize.symm⟩
  consistent first second act mine same := by
    obtain ⟨execution,operation⟩ := act
    change service execution = observer at mine
    subst mine
    have alike : KeyValueState.Alike (first.keyValueState execution) (second.keyValueState execution) :=
      ⟨same.db,same.tables execution rfl,congrFun same.pageSize execution⟩
    obtain ⟨reply,after⟩ := alike.perform operation
    refine ⟨reply,after.db,?_,same.pageSize⟩
    intro other own
    by_cases equal : other = execution
    · subst equal
      simp only [step,Function.update_self]
      exact after.resourceTable
    · simp only [step,Function.update_of_ne equal]
      exact same.tables other own
  respects first second act _ other same := by
    obtain ⟨execution,operation⟩ := act
    have confined := KeyValueState.confined_perform (hexEncode_no_slash (service execution).inner.toList)
      (first.keyValueState execution) operation observer.display (hexEncode_no_slash observer.inner.toList)
      (fun equal => other (ServiceId.display_injective equal).symm)
    refine ⟨confined.trans same.db,?_,same.pageSize⟩
    intro own mine
    have differ : own ≠ execution := by
      rintro rfl
      exact other mine
    simp only [step,Function.update_of_ne differ]
    exact same.tables own mine

theorem keyvalue_isolated (executed observer : ServiceId) (differ : executed ≠ observer) (acts : List (E × Operation))
    (self : Components resources service) :
    outputs step (serviceOf service) observer self acts =
      outputs step (serviceOf service) observer self (acts.filter (fun act => serviceOf service act ≠ executed)) :=
  (unwinding observer).outputs_purge executed differ acts (fun _ _ _ => trivial) self
    ⟨⟨fun _ _ => rfl,fun _ _ => rfl⟩,fun _ _ => rfl,rfl⟩

end Components

def neighbours (execution : Bool) : ServiceId := ⟨FixedBytes.filled 32 (if execution then 1 else 2)⟩

def emptyComponents : Components slab neighbours := ⟨⟨.new,.new⟩,fun _ => [],fun _ => none⟩

def cacheBucket : String := "cache"

def strayBucket : String := "../" ++ (neighbours true).display ++ "/cache"

/-- The second service tries to reach the first one's keys through a bucket and a key with slashes. -/
def trespass : List (Bool × Operation) :=
  [(true,.open' cacheBucket),(false,.open' strayBucket),(true,.set 0 "/a" [1]),
    (false,.set 0 "/a" [2]),(true,.newCas 0 "/a"),(false,.increment 0 "a" 5),(true,.increment 0 "a" 7),
    (true,.swap 1 [3]),(true,.listKeys 0 none)]

example : Noninterference.outputs Components.step (Components.serviceOf neighbours) (neighbours true) emptyComponents
    trespass = [.opened (.ok 0),.done (.ok ()),.opened (.ok 1),.count (.ok 7),.swapped (.ok ()),
      .listed (.ok ⟨["/a"],none⟩)] := by
  decide +kernel

theorem trespass_isolated :
    Noninterference.outputs Components.step (Components.serviceOf neighbours) (neighbours true) emptyComponents trespass =
      Noninterference.outputs Components.step (Components.serviceOf neighbours) (neighbours true) emptyComponents
        (trespass.filter (fun act => Components.serviceOf neighbours act ≠ neighbours false)) :=
  Components.keyvalue_isolated (neighbours false) (neighbours true) (by decide) trespass emptyComponents

end Warpdrive.Engine
