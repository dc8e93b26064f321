import Mathlib.Data.List.Basic
import Mathlib.Data.List.AList
import Mathlib.Order.Defs.Unbundled

/-! Byte arrays of a fixed length, ordered maps and tables, as the types crate and
the in-memory store use them. `FixedBytes n` stands for `[u8; N]`, `ByteArray<N>`
and `alloy_primitives::FixedBytes<N>`. A `BTreeMap` holds its entries in strictly
ascending key order, so that equal maps are equal values. A `WavsDbTable` is the
table of `utils/src/storage/db.rs`, whose iteration order carries no meaning. -/
namespace Warpdrive.Types

structure FixedBytes (n : Nat) where
  toList : List UInt8
  size : toList.length = n
  deriving DecidableEq

/-- The low `n` bytes of a number, the most significant first. -/
def beBytes (n value : Nat) : List UInt8 :=
  (List.range n).map (fun i => UInt8.ofNat (value >>> (8 * (n - 1 - i))))

namespace FixedBytes

variable {n : Nat}

def ofNat (n value : Nat) : FixedBytes n := ⟨beBytes n value,by simp [beBytes]⟩

def filled (n : Nat) (byte : UInt8) : FixedBytes n := ⟨List.replicate n byte,List.length_replicate⟩

def ofList? (n : Nat) (bytes : List UInt8) : Option (FixedBytes n) :=
  if size : bytes.length = n then some ⟨bytes,size⟩ else none

instance : LE (FixedBytes n) := ⟨fun a b => a.toList ≤ b.toList⟩

instance (a b : FixedBytes n) : Decidable (a ≤ b) := inferInstanceAs (Decidable (a.toList ≤ b.toList))

theorem toList_injective : Function.Injective (toList : FixedBytes n → List UInt8) := by
  intro a b same
  cases a
  cases b
  simp only at same
  subst same
  rfl

instance : Std.Total (fun a b : FixedBytes n => a ≤ b) := ⟨fun a b => List.le_total a.toList b.toList⟩

instance : IsTrans (FixedBytes n) (fun a b => a ≤ b) := ⟨fun _ _ _ => List.le_trans⟩

instance : Std.Antisymm (fun a b : FixedBytes n => a ≤ b) :=
  ⟨fun _ _ below above => toList_injective (List.le_antisymm below above)⟩

end FixedBytes

def hexDigit (nibble : UInt8) : Char :=
  if nibble < 10 then Char.ofNat (48 + nibble.toNat) else Char.ofNat (87 + nibble.toNat)

/-- `const_hex::encode`: two lower-case digits for each byte. -/
def hexEncode (bytes : List UInt8) : String :=
  String.ofList (bytes.flatMap (fun byte => [hexDigit (byte / 16),hexDigit (byte % 16)]))

structure BTreeMap (K V : Type) [LT K] where
  entries : List (K × V)
  ascending : entries.Pairwise (fun a b => a.1 < b.1)
  deriving DecidableEq

def BTreeMap.get {K V : Type} [LT K] [DecidableEq K] (self : BTreeMap K V) (key : K) : Option V :=
  self.entries.lookup key

namespace BTreeMap

variable {K V : Type} [LT K] [DecidableEq K]

@[simp] theorem get_empty (key : K) (ascending : ([] : List (K × V)).Pairwise (fun a b => a.1 < b.1)) :
    (⟨[],ascending⟩ : BTreeMap K V).get key = none := rfl

theorem get_iff [IsStrictTotalOrder K (· < ·)] (self : BTreeMap K V) (key : K) (value : V) :
    self.get key = some value ↔ (key,value) ∈ self.entries := by
  have ascending := self.ascending
  unfold get
  generalize self.entries = entries at ascending ⊢
  induction entries with
  | nil => simp
  | cons entry rest ih =>
    obtain ⟨above,sorted⟩ := List.pairwise_cons.mp ascending
    obtain ⟨first,held⟩ := entry
    by_cases same : key = first
    · subst first
      have absent : (key,value) ∉ rest := by
        intro member
        exact irrefl_of (· < ·) key (above _ member)
      simp [absent,eq_comm]
    · rw [List.lookup_cons]
      have differ : (key == first) = false := by simpa using same
      simp [differ,ih sorted,same]

variable [DecidableLT K] [IsStrictTotalOrder K (· < ·)]

def insert (self : BTreeMap K V) (key : K) (value : V) : BTreeMap K V where
  entries := self.entries.filter (fun entry => entry.1 < key) ++
    (key,value) :: self.entries.filter (fun entry => key < entry.1)
  ascending := by
    rw [List.pairwise_append,List.pairwise_cons]
    refine ⟨self.ascending.filter _,⟨?_,self.ascending.filter _⟩,?_⟩
    · intro entry member
      simpa using (List.mem_filter.mp member).2
    · intro before low after high
      have under : before.1 < key := by simpa using (List.mem_filter.mp low).2
      rcases List.mem_cons.mp high with rfl | high
      · exact under
      · have above : key < after.1 := by simpa using (List.mem_filter.mp high).2
        exact trans_of (· < ·) under above

/-- The entries before a key, the entry of the key and the entries behind it. -/
theorem entries_split (self : BTreeMap K V) (key : K) : self.entries =
    self.entries.filter (fun entry => entry.1 < key) ++
      (((self.get key).map (fun value => (key,value))).toList ++
        self.entries.filter (fun entry => key < entry.1)) := by
  have ascending := self.ascending
  unfold get
  generalize self.entries = entries at ascending ⊢
  induction entries with
  | nil => rfl
  | cons entry rest ih =>
    obtain ⟨above,sorted⟩ := List.pairwise_cons.mp ascending
    have behind : key = entry.1 ∨ key < entry.1 → rest.filter (fun entry => entry.1 < key) = [] ∧
        rest.filter (fun entry => key < entry.1) = rest := by
      intro reached
      have beyond : ∀ other ∈ rest, key < other.1 := by
        intro other member
        rcases reached with same | below
        · exact same ▸ above other member
        · exact trans_of (· < ·) below (above other member)
      refine ⟨List.filter_eq_nil_iff.mpr ?_,List.filter_eq_self.mpr ?_⟩
      · intro other member
        simpa using asymm_of (· < ·) (beyond other member)
      · intro other member
        simpa using beyond other member
    rcases trichotomous_of (· < ·) entry.1 key with below | same | beyond
    · have apart : (key == entry.1) = false := by
        simpa using fun same : key = entry.1 => irrefl_of (· < ·) key (same ▸ below)
      have under : ¬key < entry.1 := asymm_of (· < ·) below
      rw [List.filter_cons_of_pos (by simpa using below),List.filter_cons_of_neg (by simpa using under),
        List.lookup_cons,apart,List.cons_append]
      exact congrArg (entry :: ·) (ih sorted)
    · obtain ⟨nothing,all⟩ := behind (.inl same.symm)
      obtain ⟨first,held⟩ := entry
      cases same
      have irrefl : ¬first < first := irrefl_of (· < ·) first
      rw [List.filter_cons_of_neg (by simpa using irrefl),List.filter_cons_of_neg (by simpa using irrefl),
        nothing,all,List.lookup_cons]
      simp
    · obtain ⟨nothing,all⟩ := behind (.inr beyond)
      have passed : ¬entry.1 < key := asymm_of (· < ·) beyond
      have absent : (entry::rest).lookup key = none := by
        rw [List.lookup_eq_none_iff]
        intro other member
        have above : key < other.1 := by
          rcases List.mem_cons.mp member with first | later
          · exact first ▸ beyond
          · exact trans_of (· < ·) beyond (above other later)
        simpa using fun same : key = other.1 => irrefl_of (· < ·) key (same ▸ above)
      rw [List.filter_cons_of_neg (by simpa using passed),List.filter_cons_of_pos (by simpa using beyond),
        nothing,all,absent]
      rfl

omit [DecidableLT K] [IsStrictTotalOrder K (· < ·)] in
def remove (self : BTreeMap K V) (key : K) : BTreeMap K V where
  entries := self.entries.filter (fun entry => entry.1 ≠ key)
  ascending := self.ascending.filter _

/-- `into_iter().collect()`, where a later entry of a key takes the place of an earlier one. -/
def ofIter (items : List (K × V)) : BTreeMap K V :=
  items.foldl (fun map item => map.insert item.1 item.2) ⟨[],List.Pairwise.nil⟩

omit [DecidableEq K] in
theorem insert_last (self : BTreeMap K V) (key : K) (value : V) (last : ∀ entry ∈ self.entries, entry.1 < key) :
    (self.insert key value).entries = self.entries ++ [(key,value)] := by
  have before : self.entries.filter (fun entry => entry.1 < key) = self.entries := by
    apply List.filter_eq_self.mpr
    intro entry member
    simpa using last entry member
  have behind : self.entries.filter (fun entry => key < entry.1) = [] := by
    apply List.filter_eq_nil_iff.mpr
    intro entry member
    simpa using asymm_of (· < ·) (last entry member)
  change self.entries.filter (fun entry => entry.1 < key) ++
    (key,value) :: self.entries.filter (fun entry => key < entry.1) = self.entries ++ [(key,value)]
  rw [before,behind]

omit [DecidableEq K] in
theorem entries_foldl_insert (items : List (K × V)) (self : BTreeMap K V)
    (ascending : (self.entries ++ items).Pairwise (fun a b => a.1 < b.1)) :
    (items.foldl (fun map item => map.insert item.1 item.2) self).entries = self.entries ++ items := by
  induction items generalizing self with
  | nil => simp
  | cons item items ih =>
    have last : ∀ entry ∈ self.entries, entry.1 < item.1 := by
      intro entry member
      exact (List.pairwise_append.mp ascending).2.2 entry member item List.mem_cons_self
    have grown := self.insert_last item.1 item.2 last
    rw [List.foldl_cons,ih,grown,List.append_assoc,List.singleton_append]
    rw [grown,List.append_assoc,List.singleton_append]
    exact ascending

omit [DecidableEq K] in
/-- A map is collected from its own entries. -/
theorem ofIter_entries (self : BTreeMap K V) : ofIter self.entries = self := by
  have same : (ofIter self.entries).entries = self.entries :=
    entries_foldl_insert self.entries ⟨[],List.Pairwise.nil⟩ self.ascending
  cases collected : ofIter self.entries with
  | mk found sorted =>
    rw [collected] at same
    cases self
    cases same
    rfl

theorem get_insert (self : BTreeMap K V) (key other : K) (value : V) :
    (self.insert key value).get other = if other = key then some value else self.get other := by
  apply Option.ext
  intro held
  rw [get_iff]
  by_cases same : other = key
  · subst other
    simp [insert,irrefl_of (· < ·) key,eq_comm]
  · rw [if_neg same,get_iff]
    have sides : other < key ∨ key < other := by
      rcases trichotomous_of (· < ·) other key with below | equal | above
      · exact .inl below
      · exact absurd equal same
      · exact .inr above
    simp only [insert,List.mem_append,List.mem_filter,List.mem_cons,decide_eq_true_eq,Prod.mk.injEq,
      same,false_and,false_or]
    tauto

omit [DecidableLT K] in
theorem get_remove (self : BTreeMap K V) (key other : K) :
    (self.remove key).get other = if other = key then none else self.get other := by
  apply Option.ext
  intro held
  rw [get_iff]
  by_cases same : other = key
  · simp [remove,same]
  · rw [if_neg same,get_iff]
    simp [remove,same]

end BTreeMap

structure WavsDbTable (K V : Type) where
  inner : AList (fun _ : K => V)

namespace WavsDbTable

variable {K V : Type}

def new : WavsDbTable K V := ⟨∅⟩

def iter (self : WavsDbTable K V) : List (K × V) := self.inner.entries.map (fun entry => (entry.1,entry.2))

variable [DecidableEq K]

def getCloned (self : WavsDbTable K V) (key : K) : Option V := self.inner.lookup key

def insert (self : WavsDbTable K V) (key : K) (value : V) : WavsDbTable K V := ⟨self.inner.insert key value⟩

def remove (self : WavsDbTable K V) (key : K) : WavsDbTable K V := ⟨self.inner.erase key⟩

@[simp] theorem getCloned_new (key : K) : (new : WavsDbTable K V).getCloned key = none :=
  AList.lookup_empty key

@[simp] theorem getCloned_insert (self : WavsDbTable K V) (key : K) (value : V) :
    (self.insert key value).getCloned key = some value :=
  AList.lookup_insert self.inner

theorem getCloned_insert_ne (self : WavsDbTable K V) (key other : K) (value : V) (differ : other ≠ key) :
    (self.insert key value).getCloned other = self.getCloned other :=
  AList.lookup_insert_ne differ

@[simp] theorem getCloned_remove (self : WavsDbTable K V) (key : K) :
    (self.remove key).getCloned key = none :=
  AList.lookup_erase key self.inner

theorem getCloned_remove_ne (self : WavsDbTable K V) (key other : K) (differ : other ≠ key) :
    (self.remove key).getCloned other = self.getCloned other :=
  AList.lookup_erase_ne differ

theorem mem_iter (self : WavsDbTable K V) (key : K) (value : V) :
    (key,value) ∈ self.iter ↔ self.getCloned key = some value := by
  have found := AList.mem_lookup_iff (s := self.inner) (a := key) (b := value)
  rw [Option.mem_def] at found
  unfold getCloned
  rw [found]
  simp [iter]

end WavsDbTable
end Warpdrive.Types
