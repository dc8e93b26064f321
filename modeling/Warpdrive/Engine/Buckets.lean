import Warpdrive.Foundation.Execution
import Warpdrive.Foundation.Separator
import Warpdrive.Engine.KeyPages

/-! The buckets of a service, where a key of a bucket holds what the operations on it left there. The tables keep
one text for a bucket id and a key, and pairs with slashes in them can come to the same text. -/
namespace Warpdrive.Engine

open Warpdrive.Foundation Warpdrive.Foundation.Execution Warpdrive.Types

/-- What the pairs of a bucket id and a key hold. -/
@[ext] structure BucketStore where
  values : String × String → Option (List UInt8)
  counts : String × String → Int64

def NoSlash (pair : String × String) : Prop := '/' ∉ pair.1.toList ∧ '/' ∉ pair.2.toList

theorem toList_pairKey (keyNamespace : String) (pair : String × String) : (pairKey keyNamespace pair).display.toList =
    (keyNamespace ++ "/").toList ++ (pair.1.toList ++ '/'::pair.2.toList) := by
  simp [pairKey,Key.display,KeyPrefix.display,String.toList_append]

/-- Only one pair has the text of a pair without slashes. -/
theorem display_alone (keyNamespace : String) (pair other : String × String) (plain : NoSlash pair)
    (same : (pairKey keyNamespace other).display = (pairKey keyNamespace pair).display) : other = pair := by
  have texts := congrArg String.toList same
  rw [toList_pairKey,toList_pairKey,List.append_cancel_left_eq] at texts
  obtain ⟨ids,keys⟩ := Separator.eq_of_joined '/' _ _ _ _ plain.1 plain.2 texts
  exact Prod.ext (String.toList_inj.mp ids) (String.toList_inj.mp keys)

theorem display_apart (keyNamespace : String) (pair other : String × String) (plain : NoSlash pair)
    (differ : other ≠ pair) : (pairKey keyNamespace other).display ≠ (pairKey keyNamespace pair).display :=
  fun same => differ (display_alone keyNamespace pair other plain same)

/-- With a slash, a pair in another bucket has the same text. -/
theorem display_shared (keyNamespace : String) (pair : String × String) (slash : ¬NoSlash pair) :
    ∃ other, other.1 ≠ pair.1 ∧ ¬NoSlash other ∧
      (pairKey keyNamespace other).display = (pairKey keyNamespace pair).display := by
  have within : '/' ∈ pair.1.toList ∨ '/' ∈ pair.2.toList := by
    by_contra absent
    exact slash (not_or.mp absent)
  obtain ⟨id,key,differ,joined⟩ := Separator.exists_joined '/' _ _ within
  have elsewhere : String.ofList id ≠ pair.1 := by
    intro same
    apply differ
    rw [← same,String.toList_ofList]
  have shared : (pairKey keyNamespace (String.ofList id,String.ofList key)).display =
      (pairKey keyNamespace pair).display := by
    apply String.toList_inj.mp
    rw [toList_pairKey,toList_pairKey,String.toList_ofList,String.toList_ofList,joined]
  refine ⟨(String.ofList id,String.ofList key),elsewhere,?_,shared⟩
  intro plain
  exact elsewhere (congrArg Prod.fst (display_alone keyNamespace _ pair plain shared.symm)).symm

namespace Write

def onStore (store : BucketStore) : Write → BucketStore
  | .put pair value => {store with values := Function.update store.values pair (some value)}
  | .remove pair => {store with values := Function.update store.values pair none}
  | .add pair delta => {store with counts := Function.update store.counts pair (store.counts pair + delta)}

/-- The write leaves nothing under a pair with a slash. -/
def Plain : Write → Prop
  | .put pair _ => NoSlash pair
  | .remove _ => True
  | .add pair delta => delta = 0 ∨ NoSlash pair

theorem onStore_other (write : Write) (store : BucketStore) (other : String × String) (differ : write.pair ≠ other) :
    (write.onStore store).values other = store.values other ∧
      (write.onStore store).counts other = store.counts other := by
  cases write with
  | put pair value => exact ⟨Function.update_of_ne differ.symm _ _,rfl⟩
  | remove pair => exact ⟨Function.update_of_ne differ.symm _ _,rfl⟩
  | add pair delta => exact ⟨rfl,Function.update_of_ne differ.symm _ _⟩

theorem foldl_onStore_other (writes : List Write) (store : BucketStore) (other : String × String)
    (differ : ∀ write ∈ writes, write.pair ≠ other) :
    (writes.foldl onStore store).values other = store.values other ∧
      (writes.foldl onStore store).counts other = store.counts other := by
  induction writes generalizing store with
  | nil => exact ⟨rfl,rfl⟩
  | cons write writes ih =>
    obtain ⟨first,rest⟩ := List.forall_mem_cons.mp differ
    obtain ⟨values,counts⟩ := write.onStore_other store other first
    obtain ⟨kept,keptCounts⟩ := ih (write.onStore store) rest
    exact ⟨kept.trans values,keptCounts.trans counts⟩

end Write

/-- The writes of one operation: plain ones, puts into one bucket, or one sum. -/
inductive Shape : List Write → Prop where
  | plain (writes : List Write) (all : ∀ write ∈ writes, write.Plain) : Shape writes
  | puts (id : String) (keyValues : List (String × List UInt8)) : Shape (puts id keyValues)
  | add (pair : String × String) (delta : Int64) : Shape [.add pair delta]

def seen (keyNamespace : String) (db : KeyValueDb) : BucketStore where
  values pair := db.kvStore.getCloned (pairKey keyNamespace pair).display
  counts pair := (db.kvAtomicsCounter.getCloned (pairKey keyNamespace pair).display).getD 0

def Tidy (store : BucketStore) : Prop := ∀ pair, ¬NoSlash pair → store.values pair = none ∧ store.counts pair = 0

theorem seen_onDb (keyNamespace : String) (db : KeyValueDb) (write : Write) (plain : NoSlash write.pair) :
    seen keyNamespace (write.onDb keyNamespace db) = write.onStore (seen keyNamespace db) := by
  cases write with
  | put pair value =>
    refine BucketStore.ext (funext ?_) rfl
    intro other
    by_cases same : other = pair
    · simp [seen,Write.onDb,Write.onStore,same]
    · have apart := display_apart keyNamespace pair other plain same
      simp [seen,Write.onDb,Write.onStore,same,WavsDbTable.getCloned_insert_ne _ _ _ _ apart]
  | remove pair =>
    refine BucketStore.ext (funext ?_) rfl
    intro other
    by_cases same : other = pair
    · simp [seen,Write.onDb,Write.onStore,same]
    · have apart := display_apart keyNamespace pair other plain same
      simp [seen,Write.onDb,Write.onStore,same,WavsDbTable.getCloned_remove_ne _ _ _ apart]
  | add pair delta =>
    refine BucketStore.ext rfl (funext ?_)
    intro other
    by_cases same : other = pair
    · simp [seen,Write.onDb,Write.onStore,same]
    · have apart := display_apart keyNamespace pair other plain same
      simp [seen,Write.onDb,Write.onStore,same,WavsDbTable.getCloned_insert_ne _ _ _ _ apart]

/-- A removal, or an increment by nothing, of a pair that holds nothing changes nothing. -/
theorem seen_onDb_idle (keyNamespace : String) (db : KeyValueDb) (write : Write) (plain : write.Plain)
    (slash : ¬NoSlash write.pair) (values : (seen keyNamespace db).values write.pair = none)
    (counts : (seen keyNamespace db).counts write.pair = 0) :
    seen keyNamespace (write.onDb keyNamespace db) = write.onStore (seen keyNamespace db) := by
  cases write with
  | put pair value => exact absurd plain slash
  | remove pair =>
    have unchanged : Function.update (seen keyNamespace db).values pair none = (seen keyNamespace db).values :=
      Function.update_eq_self_iff.mpr values.symm
    refine BucketStore.ext (funext ?_) rfl
    intro other
    rw [Write.onStore,unchanged]
    by_cases same : (pairKey keyNamespace other).display = (pairKey keyNamespace pair).display
    · have absent : db.kvStore.getCloned (pairKey keyNamespace pair).display = none := values
      simp [seen,Write.onDb,same,absent]
    · simp [seen,Write.onDb,WavsDbTable.getCloned_remove_ne _ _ _ same]
  | add pair delta =>
    have nothing : delta = 0 := plain.resolve_right slash
    have zero : (db.kvAtomicsCounter.getCloned (pairKey keyNamespace pair).display).getD 0 = 0 := counts
    have unchanged : Function.update (seen keyNamespace db).counts pair ((seen keyNamespace db).counts pair + delta) =
        (seen keyNamespace db).counts := by
      rw [nothing,Int64.add_zero]
      exact Function.update_eq_self _ _
    refine BucketStore.ext rfl (funext ?_)
    intro other
    rw [Write.onStore,unchanged]
    by_cases same : (pairKey keyNamespace other).display = (pairKey keyNamespace pair).display
    · simp [seen,Write.onDb,same,zero,nothing]
    · simp [seen,Write.onDb,WavsDbTable.getCloned_insert_ne _ _ _ _ same]

theorem tidy_onStore (store : BucketStore) (write : Write) (plain : write.Plain) (tidy : Tidy store) :
    Tidy (write.onStore store) := by
  intro pair slash
  obtain ⟨values,counts⟩ := tidy pair slash
  by_cases same : write.pair = pair
  · subst same
    cases write with
    | put pair value => exact absurd plain slash
    | remove pair => exact ⟨Function.update_self _ _ _,counts⟩
    | add pair delta =>
      have nothing : delta = 0 := plain.resolve_right slash
      refine ⟨values,?_⟩
      change store.counts pair = 0 at counts
      simp [Write.onStore,Write.pair,counts,nothing]
  · obtain ⟨kept,keptCounts⟩ := write.onStore_other store pair same
    exact ⟨kept.trans values,keptCounts.trans counts⟩

theorem seen_foldl (keyNamespace : String) (writes : List Write) (plain : ∀ write ∈ writes, write.Plain)
    (db : KeyValueDb) (tidy : Tidy (seen keyNamespace db)) :
    seen keyNamespace (writes.foldl (Write.onDb keyNamespace) db) = writes.foldl Write.onStore (seen keyNamespace db) ∧
      Tidy (writes.foldl Write.onStore (seen keyNamespace db)) := by
  induction writes generalizing db with
  | nil => exact ⟨rfl,tidy⟩
  | cons write writes ih =>
    obtain ⟨first,rest⟩ := List.forall_mem_cons.mp plain
    have now : seen keyNamespace (write.onDb keyNamespace db) = write.onStore (seen keyNamespace db) := by
      by_cases slash : NoSlash write.pair
      · exact seen_onDb keyNamespace db write slash
      · obtain ⟨values,counts⟩ := tidy write.pair slash
        exact seen_onDb_idle keyNamespace db write first slash values counts
    have kept := tidy_onStore _ write first tidy
    rw [← now] at kept
    rw [List.foldl_cons,List.foldl_cons,← now]
    exact ih rest (write.onDb keyNamespace db) kept

theorem stored_foldl_put (keyNamespace id : String) (keyValues : List (String × List UInt8)) (text : String)
    (db : KeyValueDb) (stored : (∃ entry ∈ keyValues, (pairKey keyNamespace (id,entry.1)).display = text) ∨
      (db.kvStore.getCloned text).isSome) :
    (((puts id keyValues).foldl (Write.onDb keyNamespace) db).kvStore.getCloned text).isSome := by
  induction keyValues generalizing db with
  | nil =>
    rcases stored with ⟨entry,member,_⟩ | held
    · cases member
    · exact held
  | cons first rest ih =>
    apply ih
    by_cases same : text = (pairKey keyNamespace (id,first.1)).display
    · refine .inr ?_
      rw [same,Write.onDb,WavsDbTable.getCloned_insert]
      rfl
    · rcases stored with ⟨entry,member,rendered⟩ | held
      · rcases List.mem_cons.mp member with rfl | later
        · exact absurd rendered.symm same
        · exact .inl ⟨entry,later,rendered⟩
      · refine .inr ?_
        rw [Write.onDb,WavsDbTable.getCloned_insert_ne _ _ _ _ same]
        exact held

/-- A value put under a pair with a slash shows under a pair of another bucket. -/
theorem put_spills (keyNamespace id : String) (keyValues : List (String × List UInt8)) (db : KeyValueDb)
    (tidy : Tidy (seen keyNamespace db)) (entry : String × List UInt8) (member : entry ∈ keyValues)
    (slash : ¬NoSlash (id,entry.1)) :
    seen keyNamespace ((puts id keyValues).foldl (Write.onDb keyNamespace) db) ≠
      (puts id keyValues).foldl Write.onStore (seen keyNamespace db) := by
  intro same
  obtain ⟨other,differ,slashed,shared⟩ := display_shared keyNamespace (id,entry.1) slash
  have untouched := Write.foldl_onStore_other (puts id keyValues)
    (seen keyNamespace db) other ?_
  · have stored := stored_foldl_put keyNamespace id keyValues (pairKey keyNamespace other).display db
      (.inl ⟨entry,member,shared.symm⟩)
    have held := congrFun (congrArg BucketStore.values same) other
    rw [untouched.1,(tidy other slashed).1] at held
    change WavsDbTable.getCloned _ _ = none at held
    rw [held] at stored
    cases stored
  · intro write put same
    obtain ⟨_,_,rfl⟩ := List.mem_map.mp put
    exact differ (congrArg Prod.fst same).symm

theorem add_spills (keyNamespace : String) (pair : String × String) (delta : Int64) (db : KeyValueDb)
    (tidy : Tidy (seen keyNamespace db)) (moves : delta ≠ 0) (slash : ¬NoSlash pair) :
    seen keyNamespace ((Write.add pair delta).onDb keyNamespace db) ≠
      (Write.add pair delta).onStore (seen keyNamespace db) := by
  intro same
  obtain ⟨other,differ,slashed,shared⟩ := display_shared keyNamespace pair slash
  have apart : pair ≠ other := fun equal => differ (congrArg Prod.fst equal).symm
  have count := congrFun (congrArg BucketStore.counts same) other
  rw [(Write.onStore_other (.add pair delta) _ other apart).2,(tidy other slashed).2] at count
  have zero : (db.kvAtomicsCounter.getCloned (pairKey keyNamespace pair).display).getD 0 = 0 := (tidy pair slash).2
  simp [seen,Write.onDb,shared,zero] at count
  exact moves count

theorem mem_collectPage (stem : String) (pageSize : Option Nat) (texts : List String) (count : Nat) (key : String)
    (member : key ∈ (collectPage stem pageSize count texts).keys) :
    ∃ text ∈ texts, startsWith text stem = true ∧ chop stem text = key := by
  induction texts generalizing count with
  | nil => cases member
  | cons text rest ih =>
    rw [collectPage] at member
    split at member
    · cases member
    next starts =>
      split at member
      · cases member
      · rcases List.mem_cons.mp member with rfl | later
        · exact ⟨text,List.mem_cons_self,by simpa using starts,rfl⟩
        · obtain ⟨found,among,both⟩ := ih _ later
          exact ⟨found,List.mem_cons_of_mem _ among,both⟩

theorem collectPage_unpaged (stem : String) (keys : List String) (count : Nat) :
    collectPage stem none count (keys.map (stem ++ ·)) = ⟨keys,none⟩ := by
  induction keys generalizing count with
  | nil => rfl
  | cons key keys ih =>
    rw [List.map_cons,collectPage,startsWith_append]
    simp [ih,chop_append]

/-- The writes of an operation leave what each pair should hold exactly when they are plain. -/
theorem seen_foldl_iff (keyNamespace : String) (writes : List Write) (shape : Shape writes) (db : KeyValueDb)
    (tidy : Tidy (seen keyNamespace db)) :
    seen keyNamespace (writes.foldl (Write.onDb keyNamespace) db) = writes.foldl Write.onStore (seen keyNamespace db) ↔
      ∀ write ∈ writes, write.Plain := by
  refine ⟨?_,fun plain => (seen_foldl keyNamespace writes plain db tidy).1⟩
  intro same
  cases shape with
  | plain writes all => exact all
  | puts id keyValues =>
    intro write member
    obtain ⟨entry,entered,rfl⟩ := List.mem_map.mp member
    by_contra slash
    exact put_spills keyNamespace id keyValues db tidy entry entered slash same
  | add pair delta =>
    intro write member
    cases List.mem_singleton.mp member
    by_contra spilled
    obtain ⟨moves,slash⟩ := not_or.mp spilled
    exact add_spills keyNamespace pair delta db tidy moves slash same

namespace KeyValueState

variable {resources : ResourceTable} {keyNamespace : String} (self : KeyValueState resources keyNamespace)

theorem shape_onBucket (bucket : Nat) (writes : String → List Write) (shape : ∀ id, Shape (writes id)) :
    Shape (self.onBucket bucket writes) := by
  unfold onBucket
  split
  · exact .plain [] (List.forall_mem_nil _)
  · exact shape _

theorem shape_writes (operation : Operation) : Shape (self.writes operation) := by
  cases operation with
  | set bucket key value => exact self.shape_onBucket bucket _ (fun id => .puts id [(key,value)])
  | delete bucket key =>
    apply self.shape_onBucket bucket (fun id => [.remove (id,key)])
    intro id
    refine .plain _ ?_
    intro write member
    cases List.mem_singleton.mp member
    trivial
  | setMany bucket keyValues => exact self.shape_onBucket bucket _ (fun id => .puts id keyValues)
  | deleteMany bucket keys =>
    apply self.shape_onBucket bucket (fun id => keys.map (fun key => .remove (id,key)))
    intro id
    refine .plain _ ?_
    intro write member
    obtain ⟨key,_,rfl⟩ := List.mem_map.mp member
    trivial
  | increment bucket key delta => exact self.shape_onBucket bucket _ (fun id => .add (id,key) delta)
  | swap cas value =>
    simp only [writes]
    cases self.getCas cas with
    | error e => exact .plain [] (List.forall_mem_nil _)
    | ok entry =>
      dsimp only
      split
      · exact .plain [] (List.forall_mem_nil _)
      · exact .puts entry.key.keyPrefix.bucketId [(entry.key.key,value)]
  | _ => exact .plain [] (List.forall_mem_nil _)

/-- The execution is answered from the store, through every handle it has. -/
structure Answers (state : KeyValueState resources keyNamespace) (store : BucketStore) : Prop where
  get : ∀ bucket id key, state.getBucket bucket = .ok ⟨id⟩ → state.get bucket key = .ok (store.values (id,key))
  exists' : ∀ bucket id key, state.getBucket bucket = .ok ⟨id⟩ →
    state.exists' bucket key = .ok (store.values (id,key)).isSome
  getMany : ∀ bucket id keys, state.getBucket bucket = .ok ⟨id⟩ → state.getMany bucket keys =
    .ok (keys.map (fun key => (store.values (id,key)).map (fun value => (key,value))))
  increment : ∀ bucket id key delta, state.getBucket bucket = .ok ⟨id⟩ →
    (state.increment bucket key delta).2 = .ok (store.counts (id,key) + delta)
  newCas : ∀ bucket id key, state.getBucket bucket = .ok ⟨id⟩ → state.newCas bucket key =
    state.pushEntry "Failed to create keyvalue cas: " (.cas ⟨⟨⟨keyNamespace,id⟩,key⟩,store.values (id,key),rfl⟩)
  compared : ∀ cas entry, state.getCas cas = .ok entry →
    state.getStoreValue entry.key = store.values (entry.key.keyPrefix.bucketId,entry.key.key)
  listed : ∀ bucket id cursor page, state.getBucket bucket = .ok ⟨id⟩ → state.listKeys bucket cursor = .ok page →
    ∀ key ∈ page.keys, (store.values (id,key)).isSome
  listedAll : ∀ bucket id, state.getBucket bucket = .ok ⟨id⟩ → state.pageSize = none →
    ∃ keys, state.listKeys bucket none = .ok ⟨keys,none⟩ ∧ ∀ key, key ∈ keys ↔ (store.values (id,key)).isSome

theorem answers_seen : self.Answers (seen keyNamespace self.db) where
  get bucket id key found := by
    simp [get,getKey,getKeyPrefix,found,Except.map,getStoreValue,seen,pairKey]
  exists' bucket id key found := by
    simp [ exists',get,getKey,getKeyPrefix,found,Except.map,getStoreValue,seen,pairKey]
  getMany bucket id keys found := by
    simp [getMany,getKeyPrefix,found,Except.map,getStoreValue,seen,pairKey]
  increment bucket id key delta found := by
    simp [increment,getKey,getKeyPrefix,found,Except.map,seen,pairKey]
  newCas bucket id key found := by
    simp [newCas,found,getStoreValue,seen,pairKey]
  compared cas entry _ := by
    obtain ⟨⟨⟨space,id⟩,key⟩,snapshot,own⟩ := entry
    change space = keyNamespace at own
    subst own
    rfl
  listed bucket id cursor page found listed := by
    simp only [listKeys,getKeyPrefix,found,Except.map,Except.ok.injEq] at listed
    subst listed
    intro key member
    obtain ⟨text,listed,starts,rfl⟩ := mem_collectPage _ _ _ _ key member
    have among : text ∈ self.allKeys ((KeyPrefix.mk keyNamespace id).display ++ "/") := by
      cases cursor with
      | none => exact listed
      | some cursor => exact (List.dropWhile_suffix _).subset listed
    have rendered := append_chop _ _ starts
    change (self.db.kvStore.getCloned ((KeyPrefix.mk keyNamespace id).display ++ "/" ++ chop _ text)).isSome = true
    rw [rendered]
    exact ((mem_allKeys self _ text).mp among).2
  listedAll bucket id found unpaged := by
    refine ⟨self.bucketKeys ⟨keyNamespace,id⟩,?_,fun key => self.mem_bucketKeys ⟨keyNamespace,id⟩ key⟩
    simp only [listKeys,getKeyPrefix,found,Except.map,unpaged]
    rw [allKeys_eq,collectPage_unpaged]

end KeyValueState
/-- Whatever handles an execution of the service over the tables has, it is answered from the store. -/
def Independent (own : ServiceId) (db : KeyValueDb) (store : BucketStore) : Prop :=
  ∀ (resources : ResourceTable) (state : KeyValueState resources own.display), state.db = db → state.Answers store

theorem independent_iff (own : ServiceId) (db : KeyValueDb) (store : BucketStore) :
    Independent own db store ↔ seen own.display db = store := by
  constructor
  · intro independent
    have answers := fun id => independent slab ⟨db,[some (.bucket ⟨id⟩)],none⟩ rfl
    apply BucketStore.ext
    · funext pair
      have value := (answers pair.1).get 0 pair.1 pair.2 rfl
      exact Except.ok.inj value
    · funext pair
      have count := (answers pair.1).increment 0 pair.1 pair.2 0 rfl
      have added := Except.ok.inj count
      rw [Int64.add_zero,Int64.add_zero] at added
      exact added
  · rintro rfl resources state rfl
    exact state.answers_seen

/-- The executions of all services over one database, with what the operations of one of them left for each of
its pairs. -/
structure Buckets (resources : ResourceTable) {E : Type} (service : E → ServiceId) where
  components : Components resources service
  store : BucketStore

namespace Buckets

variable {resources : ResourceTable} {E : Type} {service : E → ServiceId} (own : ServiceId)

def start (tables : (execution : E) → resources.Table (Entry (service execution).display))
    (pageSize : E → Option Nat) : Buckets resources service :=
  ⟨⟨⟨.new,.new⟩,tables,pageSize⟩,⟨fun _ => none,fun _ => 0⟩⟩

def writes (self : Buckets resources service) (act : E × Operation) : List Write :=
  if service act.1 = own then (self.components.keyValueState act.1).writes act.2 else []

/-- Every pair of the service answers as the operations on it left it. An act leaves what is kept for the pairs that it
does not write, and one that writes leaves the handles. -/
structure Isolated (before : Buckets resources service) (act : E × Operation) (after : Buckets resources service) :
    Prop where
  independent : Independent own after.components.db after.store
  others : ∀ pair, (∀ write ∈ before.writes own act, write.pair ≠ pair) →
    after.store.values pair = before.store.values pair ∧ after.store.counts pair = before.store.counts pair
  handles : before.writes own act ≠ [] → after.components.tables = before.components.tables

/-- No value is put, and nothing added, under a pair with a slash. -/
def PlainWrites (before : Buckets resources service) (act : E × Operation) (_ : Buckets resources service) : Prop :=
  ∀ write ∈ before.writes own act, write.Plain

/-- The tables hold for each pair what the operations on it left, which is nothing where there is a slash. -/
def Agrees (self : Buckets resources service) : Prop :=
  seen own.display self.components.db = self.store ∧ Tidy self.store

theorem agrees_start (tables : (execution : E) → resources.Table (Entry (service execution).display))
    (pageSize : E → Option Nat) : Agrees own (start tables pageSize) := by
  refine ⟨BucketStore.ext ?_ ?_,fun pair _ => ⟨rfl,rfl⟩⟩
  · funext pair
    simp [start,seen]
  · funext pair
    simp [start,seen]

theorem shape_writes (self : Buckets resources service) (act : E × Operation) : Shape (self.writes own act) := by
  unfold writes
  split
  · exact KeyValueState.shape_writes _ _
  · exact .plain [] (List.forall_mem_nil _)

variable [DecidableEq E]

def step (self : Buckets resources service) (act : E × Operation) : Option (Buckets resources service) :=
  some ⟨(self.components.step act).1,(self.writes own act).foldl Write.onStore self.store⟩

theorem seen_step (self : Buckets resources service) (act : E × Operation) :
    seen own.display (self.components.step act).1.db =
      seen own.display ((self.writes own act).foldl (Write.onDb own.display) self.components.db) := by
  obtain ⟨execution,operation⟩ := act
  by_cases mine : service execution = own
  · subst mine
    rw [writes,if_pos rfl]
    exact congrArg _ ((self.components.keyValueState execution).perform_db operation)
  · rw [writes,if_neg mine]
    have confined := KeyValueState.confined_perform (hexEncode_no_slash (service execution).inner.toList)
      (self.components.keyValueState execution) operation own.display (hexEncode_no_slash own.inner.toList)
      (fun equal => mine (ServiceId.display_injective equal).symm)
    apply BucketStore.ext
    · funext pair
      exact confined.kvStore _ (pairKey own.display pair).under
    · funext pair
      exact congrArg (fun count => Option.getD count 0) (confined.kvAtomicsCounter _ (pairKey own.display pair).under)

theorem tables_step (self : Buckets resources service) (act : E × Operation) (writing : self.writes own act ≠ []) :
    (self.components.step act).1.tables = self.components.tables := by
  unfold writes at writing
  split at writing
  next mine =>
    simp only [Components.step,KeyValueState.perform_resourceTable _ _ writing]
    exact Function.update_eq_self _ _
  next => exact absurd rfl writing

theorem isolated_iff (before after : Buckets resources service) (act : E × Operation)
    (taken : before.step own act = some after) (agrees : before.Agrees own) :
    Isolated own before act after ↔ PlainWrites own before act after := by
  obtain ⟨agree,tidy⟩ := agrees
  rw [← agree] at tidy
  cases taken
  have plain := seen_foldl_iff own.display _ (before.shape_writes own act) before.components.db tidy
  rw [← seen_step,agree] at plain
  constructor
  · intro isolated
    exact plain.mp ((independent_iff _ _ _).mp isolated.independent)
  · intro writes
    exact ⟨(independent_iff _ _ _).mpr (plain.mpr writes),Write.foldl_onStore_other _ _,before.tables_step own act⟩

theorem agrees_step (before after : Buckets resources service) (act : E × Operation)
    (taken : before.step own act = some after) (plain : PlainWrites own before act after)
    (agrees : before.Agrees own) : after.Agrees own := by
  obtain ⟨agree,tidy⟩ := agrees
  rw [← agree] at tidy
  cases taken
  have kept := seen_foldl own.display _ plain before.components.db tidy
  rw [← seen_step,agree] at kept
  exact kept

/-- From empty tables, every pair of the service answers as the operations on it alone left it, along exactly the runs
in which the service puts and adds only under bucket ids and keys without a slash. -/
theorem isolated_along_iff (tables : (execution : E) → resources.Table (Entry (service execution).display))
    (pageSize : E → Option Nat) (acts : List (E × Operation)) :
    Along (step own) (Isolated own) (start tables pageSize) acts ↔
      Along (step own) (PlainWrites own) (start tables pageSize) acts :=
  along_iff_of_invariant (PlainWrites own) (Isolated own) (Agrees own)
    (fun before act after taken agrees => isolated_iff own before after act taken agrees)
    (fun before act after taken plain agrees => agrees_step own before after act taken plain agrees)
    (start tables pageSize) acts (agrees_start own tables pageSize)

def fresh : Buckets slab neighbours := start (fun _ => []) (fun _ => none)

def slashedBucket : String := "a/b"

def slashed : List (Bool × Operation) := [(true,.open' slashedBucket),(true,.set 0 "c" [1])]

/-- The key "b/c" of the bucket "a" is there, which nobody set. -/
theorem slashed_spills : ¬Along (step (neighbours true)) (Isolated (neighbours true)) fresh slashed := by
  intro along
  have answers := along.2.1.independent slab ⟨_,[some (.bucket ⟨"a"⟩)],none⟩ rfl
  have present := answers.exists' 0 "a" "b/c" rfl
  revert present
  decide +kernel

end Buckets
end Warpdrive.Engine
