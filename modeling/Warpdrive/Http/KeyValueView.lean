import Warpdrive.Engine.KeyPages

/-! The key-value store as the HTTP server shows it (`http/handlers/kv.rs`). It reads the table that components
write to, by the rendered key. The base64 crate is a parameter. -/
namespace Warpdrive.Http

open Warpdrive.Foundation Warpdrive.Foundation.Noninterference Warpdrive.Engine Warpdrive.Types

/-- The body of the answer; none is status 404. -/
def handleGetKv (db : KeyValueDb) (serviceId bucket key : String) : Option (List UInt8) :=
  db.kvStore.getCloned (serviceId ++ "/" ++ bucket ++ "/" ++ key)

structure KvEntry where
  bucket : String
  key : String
  valueB64 : String
  deriving DecidableEq

/-- `str::strip_prefix`. -/
def stripPrefix (stem text : String) : Option String :=
  if Engine.startsWith text stem then some (chop stem text) else none

/-- The bucket and the key of a rendered key of the service. -/
def placeOf (serviceId fullKey : String) : Option (String × String) :=
  (stripPrefix (serviceId ++ "/") fullKey).bind (Separator.splitOnce '/')

variable (base64 : List UInt8 → String)

def handleListKv (db : KeyValueDb) (serviceId : String) : List KvEntry :=
  db.kvStore.iter.filterMap (fun e =>
    (placeOf serviceId e.1).map (fun place => ⟨place.1,place.2,base64 e.2⟩))

theorem placeOf_eq_some (serviceId fullKey bucket key : String) :
    placeOf serviceId fullKey = some (bucket,key) ↔
      fullKey = serviceId ++ "/" ++ bucket ++ "/" ++ key ∧ '/' ∉ bucket.toList := by
  simp only [placeOf,Option.bind_eq_some_iff,Separator.splitOnce_eq_some]
  constructor
  · rintro ⟨rest,stripped,joined,plain⟩
    simp only [stripPrefix,Option.ite_none_right_eq_some,Option.some.injEq] at stripped
    obtain ⟨starts,rfl⟩ := stripped
    refine ⟨?_,plain⟩
    rw [← append_chop (serviceId ++ "/") fullKey starts]
    apply String.toList_injective
    rw [String.toList_append,joined]
    simp
  · rintro ⟨rfl,plain⟩
    refine ⟨bucket ++ "/" ++ key,?_,by simp,plain⟩
    have joined : serviceId ++ "/" ++ bucket ++ "/" ++ key = (serviceId ++ "/") ++ (bucket ++ "/" ++ key) := by
      simp [String.append_assoc]
    rw [joined,stripPrefix,startsWith_append,chop_append]
    rfl

theorem mem_handleListKv (db : KeyValueDb) (serviceId : String) (entry : KvEntry) :
    entry ∈ handleListKv base64 db serviceId ↔ '/' ∉ entry.bucket.toList ∧
      ∃ value, handleGetKv db serviceId entry.bucket entry.key = some value ∧ entry.valueB64 = base64 value := by
  simp only [handleListKv,List.mem_filterMap,Option.map_eq_some_iff]
  constructor
  · rintro ⟨⟨fullKey,value⟩,listed,⟨bucket,key⟩,placed,rfl⟩
    obtain ⟨rfl,plain⟩ := (placeOf_eq_some serviceId fullKey bucket key).mp placed
    exact ⟨plain,value,(db.kvStore.mem_iter _ value).mp listed,rfl⟩
  · rintro ⟨plain,value,found,encoded⟩
    refine ⟨(serviceId ++ "/" ++ entry.bucket ++ "/" ++ entry.key,value),(db.kvStore.mem_iter _ value).mpr found,
      (entry.bucket,entry.key),(placeOf_eq_some _ _ _ _).mpr ⟨rfl,plain⟩,?_⟩
    cases entry
    simp only at encoded
    rw [encoded]

theorem nodup_handleListKv (db : KeyValueDb) (serviceId : String) :
    ((handleListKv base64 db serviceId).map (fun entry => (entry.bucket,entry.key))).Nodup := by
  have places : (handleListKv base64 db serviceId).map (fun entry => (entry.bucket,entry.key)) =
      (db.kvStore.iter.map Prod.fst).filterMap (placeOf serviceId) := by
    simp only [handleListKv,List.map_filterMap,List.filterMap_map,Option.map_map,Function.comp_def,Option.map_id']
  have keys : (db.kvStore.iter.map Prod.fst).Nodup := by
    rw [WavsDbTable.iter,List.map_map]
    exact db.kvStore.inner.keys_nodup
  rw [places]
  refine keys.filterMap ?_
  intro first second place one other
  rw [((placeOf_eq_some serviceId first place.1 place.2).mp one).1,
    ((placeOf_eq_some serviceId second place.1 place.2).mp other).1]

theorem under_fullKey (serviceId bucket key : String) : Under serviceId (serviceId ++ "/" ++ bucket ++ "/" ++ key) :=
  Key.under ⟨⟨serviceId,bucket⟩,key⟩

variable {resources : ResourceTable} {E : Type} [DecidableEq E] {service : E → ServiceId}

/-- The executions of all services, one operation after the other. -/
def after (self : Components resources service) (acts : List (E × Operation)) : Components resources service :=
  acts.foldl (fun state act => (state.step act).1) self

/-- What is shown of a service is what its own components have left, one entry for each key of a bucket without
a slash, and a component reads what is shown. -/
theorem run_shows_own_store (observer : ServiceId) (acts : List (E × Operation))
    (self : Components resources service) :
    (∀ bucket key, handleGetKv (after self acts).db observer.display bucket key =
      handleGetKv (after self (acts.filter (fun act => service act.1 = observer))).db observer.display bucket key) ∧
    (handleListKv base64 (after self acts).db observer.display).Perm
      (handleListKv base64 (after self (acts.filter (fun act => service act.1 = observer))).db observer.display) ∧
    (∀ entry, entry ∈ handleListKv base64 (after self acts).db observer.display ↔ '/' ∉ entry.bucket.toList ∧
      ∃ value, handleGetKv (after self acts).db observer.display entry.bucket entry.key = some value ∧
        entry.valueB64 = base64 value) ∧
    ((handleListKv base64 (after self acts).db observer.display).map (fun entry => (entry.bucket,entry.key))).Nodup ∧
    ∀ execution, service execution = observer → ∀ rep bucket,
      ((after self acts).keyValueState execution).getBucket rep = .ok bucket → ∀ key,
        ((after self acts).keyValueState execution).get rep key =
          .ok (handleGetKv (after self acts).db observer.display bucket.id key) := by
  have same : Components.SameFor observer (after self acts)
      (after self (acts.filter (fun act => service act.1 = observer))) := by
    refine (Components.unwinding observer).final_filter _ acts ?_ (fun _ _ _ => trivial) self self
      ⟨⟨fun _ _ => rfl,fun _ _ => rfl⟩,fun _ _ => rfl,rfl⟩
    intro act _ mine
    exact decide_eq_true mine
  have shown : ∀ bucket key, handleGetKv (after self acts).db observer.display bucket key =
      handleGetKv (after self (acts.filter (fun act => service act.1 = observer))).db observer.display bucket key :=
    fun bucket key => same.db.kvStore _ (under_fullKey observer.display bucket key)
  refine ⟨shown,?_,mem_handleListKv base64 _ observer.display,nodup_handleListKv base64 _ observer.display,?_⟩
  · apply (List.perm_ext_iff_of_nodup (nodup_handleListKv base64 _ _).of_map
      (nodup_handleListKv base64 _ _).of_map).mpr
    intro entry
    rw [mem_handleListKv,mem_handleListKv,shown]
  · rintro execution rfl rep bucket opened key
    simp only [KeyValueState.get,KeyValueState.getKey,KeyValueState.getKeyPrefix,opened,Except.map]
    rfl

end Warpdrive.Http
