import Mathlib.Data.List.Perm.Basic
import Mathlib.Data.Set.Basic
import Warpdrive.Foundation.Refinement
import Warpdrive.Engine.ContentAddressed

/-! The two implementations of `CAStorage` (`storage/prelude.rs`): in memory
(`storage/memory.rs`) and on files. Over a file system that works both are one
content-addressed store, and no sequence of calls tells them apart but by the order in
which the digests are listed. -/
namespace Warpdrive.Types

instance : LT AnyDigest := ⟨fun a b => a.inner.toList < b.inner.toList⟩

instance (a b : AnyDigest) : Decidable (a < b) := inferInstanceAs (Decidable (a.inner.toList < b.inner.toList))

instance digestOrder : IsStrictTotalOrder AnyDigest (· < ·) where
  irrefl a := List.lt_irrefl a.inner.toList
  trans _ _ _ := List.lt_trans
  trichotomous a b below above := by
    have same := List.le_antisymm (List.not_lt.mp above) (List.not_lt.mp below)
    cases a
    cases b
    exact congrArg AnyDigest.mk (FixedBytes.toList_injective same)

end Warpdrive.Types
namespace Warpdrive.Engine

open Warpdrive.Foundation Warpdrive.Foundation.Refinement Warpdrive.Types

variable (prim : IdPrimitives)

inductive CACall
  | reset
  | setData (data : List UInt8)
  | getData (digest : AnyDigest)
  | dataExists (digest : AnyDigest)
  | digests

inductive CAReply
  | reset (outcome : Except CAStorageError Unit)
  | setData (outcome : Except CAStorageError AnyDigest)
  | getData (outcome : Except CAStorageError (List UInt8))
  | dataExists (outcome : Except CAStorageError Bool)
  | digests (listed : List (Except CAStorageError AnyDigest))

structure MemoryStorage where
  data : BTreeMap AnyDigest (List UInt8)

namespace MemoryStorage

def new : MemoryStorage := ⟨⟨[],.nil⟩⟩

def reset (_ : MemoryStorage) : MemoryStorage := ⟨⟨[],.nil⟩⟩

def setData (self : MemoryStorage) (data : List UInt8) : MemoryStorage × AnyDigest :=
  let digest := AnyDigest.hash prim data
  if (self.data.get digest).isSome then (self,digest) else (⟨self.data.insert digest data⟩,digest)

def getData (self : MemoryStorage) (digest : AnyDigest) : Except CAStorageError (List UInt8) :=
  match self.data.get digest with
  | some data => .ok data
  | none => .error (.notFound digest)

def dataExists (self : MemoryStorage) (digest : AnyDigest) : Bool := (self.data.get digest).isSome

def digests (self : MemoryStorage) : List (Except CAStorageError AnyDigest) :=
  self.data.entries.map (fun entry => .ok entry.1)

/-- The lock is not poisoned, so no call fails for it. -/
def call (self : MemoryStorage) : CACall → MemoryStorage × CAReply
  | .reset => (self.reset,.reset (.ok ()))
  | .setData data => ((self.setData prim data).1,.setData (.ok (self.setData prim data).2))
  | .getData digest => (self,.getData (self.getData digest))
  | .dataExists digest => (self,.dataExists (.ok (self.dataExists digest)))
  | .digests => (self,.digests self.digests)

end MemoryStorage

namespace FileStorage

/-- `remove_dir_all` and `create_dir_all` of the data directory. -/
def reset (remove create : Except String Unit) (self : FileStorage) : FileStorage × Except CAStorageError Unit :=
  match remove with
  | .error reason => (self,.error (.io reason))
  | .ok () => (.new,create.mapError .io)

def dataExists (createDir : Except String Unit) (digest : AnyDigest) (self : FileStorage) :
    Except CAStorageError Bool :=
  (digestToPath createDir digest).map (fun path => (self.files.get path).isSome)

/-- Every call to the file system does what it is asked to. -/
def call (self : FileStorage) : CACall → FileStorage × CAReply
  | .reset => ((self.reset (.ok ()) (.ok ())).1,.reset (self.reset (.ok ()) (.ok ())).2)
  | .setData data => ((setData prim .working data self).1,.setData (setData prim .working data self).2)
  | .getData digest => (self,.getData (self.getData .working digest))
  | .dataExists digest => (self,.dataExists (self.dataExists (.ok ()) digest))
  | .digests => (self,.digests (self.digests (fun _ => true)))

end FileStorage

/-- What both are for: bytes under their digest, the first that were stored. -/
abbrev Contents := AnyDigest → Option (List UInt8)

inductive Answer
  | done
  | stored (digest : AnyDigest)
  | data (found : Option (List UInt8)) (digest : AnyDigest)
  | present (isPresent : Bool)
  | listed (digests : Set AnyDigest)

def Contents.call (self : Contents) : CACall → Contents × Answer
  | .reset => (fun _ => none,.done)
  | .setData data =>
    let digest := AnyDigest.hash prim data
    (if (self digest).isSome then self else Function.update self digest (some data),.stored digest)
  | .getData digest => (self,.data (self digest) digest)
  | .dataExists digest => (self,.present (self digest).isSome)
  | .digests => (self,.listed {digest | (self digest).isSome})

/-- The reply is the answer of the store. The digests come in any order, each once. -/
def Means : CAReply → Answer → Prop
  | .reset outcome,.done => outcome = .ok ()
  | .setData outcome,.stored digest => outcome = .ok digest
  | .getData outcome,.data found digest => outcome = found.elim (.error (.notFound digest)) .ok
  | .dataExists outcome,.present isPresent => outcome = .ok isPresent
  | .digests listed,.listed digests => ∃ found : List AnyDigest,
      listed = found.map .ok ∧ found.Nodup ∧ ∀ digest, digest ∈ found ↔ digest ∈ digests
  | _,_ => False

/-- Two replies that differ in the order of the listed digests only. -/
def Alike : CAReply → CAReply → Prop
  | .digests first,.digests second => first.Perm second
  | first,second => first = second

theorem alike_of_means (first second : CAReply) (answer : Answer) (left : Means first answer)
    (right : Means second answer) : Alike first second := by
  cases answer with
  | done => cases first <;> cases second <;> simp_all [Means,Alike]
  | stored digest => cases first <;> cases second <;> simp_all [Means,Alike]
  | data found digest => cases first <;> cases second <;> simp_all [Means,Alike]
  | present isPresent => cases first <;> cases second <;> simp_all [Means,Alike]
  | listed digests =>
    cases first with
    | digests one =>
      cases second with
      | digests other =>
        obtain ⟨found,same,once,members⟩ := left
        obtain ⟨found',same',once',members'⟩ := right
        subst same same'
        refine List.Perm.map _ ((List.perm_ext_iff_of_nodup once once').mpr ?_)
        intro digest
        rw [members,members']
      | _ => exact right.elim
    | _ => exact left.elim

/-! ## In memory -/

def MemoryStorage.Holds (self : MemoryStorage) (contents : Contents) : Prop :=
  ∀ digest, self.data.get digest = contents digest

theorem MemoryStorage.digests_means (self : MemoryStorage) (contents : Contents) (holds : self.Holds contents) :
    Means (.digests self.digests) (.listed {digest | (contents digest).isSome}) := by
  refine ⟨self.data.entries.map Prod.fst,by simp [digests],?_,?_⟩
  · refine (List.pairwise_map.mpr self.data.ascending).imp ?_
    intro first second below same
    rw [same] at below
    exact irrefl_of (· < ·) second below
  · intro digest
    simp only [List.mem_map,Set.mem_ofPred_eq,← holds digest,Option.isSome_iff_exists,BTreeMap.get_iff]
    constructor
    · intro listed
      obtain ⟨entry,member,same⟩ := listed
      exact ⟨entry.2,by rw [← same]; exact member⟩
    · intro held
      obtain ⟨data,member⟩ := held
      exact ⟨(digest,data),member,rfl⟩

theorem MemoryStorage.simulates :
    Simulates (MemoryStorage.call prim) (Contents.call prim) Means MemoryStorage.Holds := by
  intro self contents call holds
  cases call with
  | reset => exact ⟨rfl,fun _ => rfl⟩
  | setData data =>
    simp only [call,setData,Contents.call,← holds (.hash prim data)]
    split
    next present => exact ⟨rfl,holds⟩
    next absent =>
      refine ⟨rfl,?_⟩
      intro digest
      rw [BTreeMap.get_insert]
      by_cases same : digest = .hash prim data
      · subst same
        simp
      · simp only [same,if_false,Function.update_of_ne same]
        exact holds digest
  | getData digest =>
    refine ⟨?_,holds⟩
    simp only [call,getData,Contents.call,Means,← holds digest]
    cases self.data.get digest <;> rfl
  | dataExists digest =>
    refine ⟨?_,holds⟩
    simp only [call,dataExists,Contents.call,Means,holds digest]
  | digests => exact ⟨self.digests_means contents holds,holds⟩

/-! ## On files -/

structure FileStorage.Holds (storage : FileStorage) (contents : Contents) : Prop where
  named : storage.Named
  held : ∀ digest, storage.files.get (FileStorage.pathOf digest) = contents digest

theorem FileStorage.new_holds : FileStorage.Holds .new (fun _ => none) := by
  refine ⟨?_,fun digest => HashMap.get_new _⟩
  intro path bytes held
  rw [new,HashMap.get_new] at held
  cases held

/-- The walk reads the digest of each file back from its name, each once. -/
theorem FileStorage.digests_paths (self : FileStorage) (named : self.Named) : ∃ found : List AnyDigest,
    self.digests (fun _ => true) = found.map .ok ∧ found.map pathOf = self.files.iter.map Prod.fst := by
  have walk : ∀ entries : List (List String × List UInt8), (∀ entry ∈ entries, ∃ digest, entry.1 = pathOf digest) →
      ∃ found : List AnyDigest, entries.filterMap (fun entry =>
          entry.1.getLast?.map (fun name => (AnyDigest.fromStr name).mapError CAStorageError.digest)) = found.map .ok ∧
        found.map pathOf = entries.map Prod.fst := by
    intro entries
    induction entries with
    | nil => exact fun _ => ⟨[],rfl,rfl⟩
    | cons entry rest ih =>
      intro all
      obtain ⟨⟨digest,here⟩,later⟩ := List.forall_mem_cons.mp all
      obtain ⟨found,walked,paths⟩ := ih later
      have read : entry.1.getLast?.map (fun name => (AnyDigest.fromStr name).mapError CAStorageError.digest) =
          some (.ok digest) := by
        rw [here]
        simp [pathOf,AnyDigest.fromStr_display,Except.mapError]
      refine ⟨digest::found,?_,?_⟩
      · rw [List.filterMap_cons,read,walked]
        rfl
      · rw [List.map_cons,List.map_cons,here,paths]
  have each : ∀ entry ∈ self.files.iter, ∃ digest, entry.1 = pathOf digest := by
    intro entry member
    exact named entry.1 entry.2 ((self.files.mem_iter entry.1 entry.2).mp member)
  obtain ⟨found,walked,paths⟩ := walk self.files.iter each
  refine ⟨found,?_,paths⟩
  unfold digests
  rw [List.filter_eq_self.mpr (fun _ _ => rfl)]
  exact walked

theorem FileStorage.digests_means (self : FileStorage) (contents : Contents) (holds : self.Holds contents) :
    Means (.digests (self.digests (fun _ => true))) (.listed {digest | (contents digest).isSome}) := by
  obtain ⟨found,walked,paths⟩ := self.digests_paths holds.named
  refine ⟨found,walked,?_,?_⟩
  · apply List.Nodup.of_map pathOf
    rw [paths,HashMap.iter,List.map_map]
    exact self.files.inner.nodupKeys
  · intro digest
    have listed : digest ∈ found ↔ pathOf digest ∈ self.files.iter.map Prod.fst := by
      rw [← paths]
      exact (List.mem_map_of_injective pathOf_injective).symm
    rw [listed,Set.mem_ofPred_eq,← holds.held digest,Option.isSome_iff_exists,List.mem_map]
    constructor
    · intro member
      obtain ⟨entry,member,same⟩ := member
      exact ⟨entry.2,(self.files.mem_iter _ _).mp (by rw [← same]; exact member)⟩
    · intro held
      obtain ⟨data,held⟩ := held
      exact ⟨(pathOf digest,data),(self.files.mem_iter _ _).mpr held,rfl⟩

theorem FileStorage.setData_working (self : FileStorage) (data : List UInt8) :
    setData prim .working data self =
      (if (self.files.get (pathOf (.hash prim data))).isSome then self
        else ⟨self.files.insert (pathOf (.hash prim data)) data⟩,.ok (.hash prim data)) := by
  rw [setData_run]
  simp only [Writing.working]
  split
  next present => rfl
  next absent => rfl

theorem FileStorage.simulates : Simulates (FileStorage.call prim) (Contents.call prim) Means FileStorage.Holds := by
  intro self contents call holds
  cases call with
  | reset => exact ⟨rfl,new_holds⟩
  | setData data =>
    simp only [call,setData_working,Contents.call,← holds.held (.hash prim data)]
    refine ⟨rfl,?_⟩
    split
    next present => exact holds
    next absent =>
      refine ⟨?_,?_⟩
      · intro path bytes held
        rw [HashMap.get_insert] at held
        split at held
        next same => exact ⟨.hash prim data,same⟩
        next => exact holds.named path bytes held
      · intro digest
        rw [HashMap.get_insert]
        by_cases same : digest = .hash prim data
        · subst same
          simp
        · have differ : pathOf digest ≠ pathOf (.hash prim data) := fun equal => same (pathOf_injective equal)
          simp only [differ,if_false,Function.update_of_ne same]
          exact holds.held digest
  | getData digest =>
    refine ⟨?_,holds⟩
    simp only [call,getData,digestToPath,Reading.working,Contents.call,Means,← holds.held digest]
    cases self.files.get (pathOf digest) <;> rfl
  | dataExists digest =>
    refine ⟨?_,holds⟩
    simp only [call,dataExists,digestToPath,Contents.call,Means,← holds.held digest]
    rfl
  | digests => exact ⟨self.digests_means contents holds,holds⟩

/-- For every hash function and every sequence of calls, the store in memory and the store
on files both give the replies of one store of contents, and so the same replies as each
other but for the order in which the digests are listed. -/
theorem storages_refine (calls : List CACall) :
    let contents := answers (Contents.call prim) (fun _ => none) calls
    let memory := answers (MemoryStorage.call prim) .new calls
    let files := answers (FileStorage.call prim) .new calls
    List.Forall₂ Means memory contents ∧ List.Forall₂ Means files contents ∧ List.Forall₂ Alike memory files := by
  have memory := (MemoryStorage.simulates prim).answers calls .new (fun _ => none) (fun _ => rfl)
  have files := (FileStorage.simulates prim).answers calls .new (fun _ => none) FileStorage.new_holds
  exact ⟨memory,files,forall₂_meet alike_of_means memory files⟩

end Warpdrive.Engine
