import Mathlib.Data.List.AList

/-! Hash maps and sets, an index of sets under keys, maps read in both directions,
and slot maps. The order in which a map or a set is read carries no meaning. A slot
map names its values by keys that it mints itself; two slot maps may mint the same
keys. -/
namespace Warpdrive.Foundation

structure HashSet (V : Type) where
  toList : List V
  nodup : toList.Nodup
  deriving DecidableEq

namespace HashSet

variable {V : Type}

instance : Membership V (HashSet V) := ⟨fun set value => value ∈ set.toList⟩

theorem mem_def (self : HashSet V) (value : V) : value ∈ self ↔ value ∈ self.toList := Iff.rfl

def empty : HashSet V := ⟨[],List.nodup_nil⟩

def isEmpty (self : HashSet V) : Bool := self.toList.isEmpty

@[simp] theorem not_mem_empty (value : V) : value ∉ (empty : HashSet V) := List.not_mem_nil

variable [DecidableEq V]

instance (self : HashSet V) (value : V) : Decidable (value ∈ self) :=
  inferInstanceAs (Decidable (value ∈ self.toList))

def insert (self : HashSet V) (value : V) : HashSet V :=
  ⟨self.toList.insert value,self.nodup.insert⟩

def remove (self : HashSet V) (value : V) : HashSet V :=
  ⟨self.toList.erase value,self.nodup.erase value⟩

@[simp] theorem mem_insert (self : HashSet V) (value other : V) :
    other ∈ self.insert value ↔ other = value ∨ other ∈ self := by
  simp [mem_def,insert]

@[simp] theorem mem_remove (self : HashSet V) (value other : V) :
    other ∈ self.remove value ↔ other ≠ value ∧ other ∈ self := by
  simp [mem_def,remove,self.nodup.mem_erase_iff]

end HashSet

structure HashMap (K V : Type) where
  inner : AList (fun _ : K => V)

namespace HashMap

variable {K V : Type}

def new : HashMap K V := ⟨∅⟩

def iter (self : HashMap K V) : List (K × V) := self.inner.entries.map (fun entry => (entry.1,entry.2))

def values (self : HashMap K V) : List V := self.iter.map Prod.snd

/-- Every value rewritten in place, as through `iter_mut`. -/
def mapValues {W : Type} (self : HashMap K V) (f : V → W) : HashMap K W :=
  ⟨⟨self.inner.entries.map (.map id (fun _ => f)),List.NodupKeys.map₂ _ _ self.inner.nodupKeys⟩⟩

variable [DecidableEq K]

def get (self : HashMap K V) (key : K) : Option V := self.inner.lookup key

def insert (self : HashMap K V) (key : K) (value : V) : HashMap K V := ⟨self.inner.insert key value⟩

def remove (self : HashMap K V) (key : K) : HashMap K V := ⟨self.inner.erase key⟩

@[simp] theorem get_new (key : K) : (new : HashMap K V).get key = none := AList.lookup_empty key

theorem get_insert (self : HashMap K V) (key other : K) (value : V) :
    (self.insert key value).get other = if other = key then some value else self.get other := by
  by_cases same : other = key
  · subst other
    rw [if_pos rfl]
    exact AList.lookup_insert self.inner
  · rw [if_neg same]
    exact AList.lookup_insert_ne same

theorem get_remove (self : HashMap K V) (key other : K) :
    (self.remove key).get other = if other = key then none else self.get other := by
  by_cases same : other = key
  · subst other
    rw [if_pos rfl]
    exact AList.lookup_erase key self.inner
  · rw [if_neg same]
    exact AList.lookup_erase_ne same

@[simp] theorem get_insert_self (self : HashMap K V) (key : K) (value : V) :
    (self.insert key value).get key = some value := by
  simp [get_insert]

@[simp] theorem get_remove_self (self : HashMap K V) (key : K) : (self.remove key).get key = none := by
  simp [get_remove]

theorem get_insert_ne (self : HashMap K V) (key other : K) (value : V) (differ : other ≠ key) :
    (self.insert key value).get other = self.get other := by
  simp [get_insert,differ]

theorem get_remove_ne (self : HashMap K V) (key other : K) (differ : other ≠ key) :
    (self.remove key).get other = self.get other := by
  simp [get_remove,differ]

@[simp] theorem get_mapValues {W : Type} (self : HashMap K V) (f : V → W) (key : K) :
    (self.mapValues f).get key = (self.get key).map f :=
  List.dlookup_map₂ key

theorem mem_iter (self : HashMap K V) (key : K) (value : V) :
    (key,value) ∈ self.iter ↔ self.get key = some value := by
  have found : self.get key = some value ↔ Sigma.mk key value ∈ self.inner.entries := AList.mem_lookup_iff
  rw [found,iter,List.mem_map]
  constructor
  · rintro ⟨entry,member,same⟩
    cases same
    exact member
  · intro member
    exact ⟨_,member,rfl⟩

/-- The entries that pass, as `HashMap::retain` leaves them. -/
def retain (self : HashMap K V) (keep : K → V → Bool) : HashMap K V :=
  ⟨⟨self.inner.entries.filter (fun entry => keep entry.1 entry.2),
    self.inner.nodupKeys.sublist List.filter_sublist⟩⟩

theorem get_retain (self : HashMap K V) (keep : K → V → Bool) (key : K) :
    (self.retain keep).get key = (self.get key).filter (keep key) := by
  apply Option.ext
  intro value
  rw [Option.filter_eq_some_iff,← mem_iter,← mem_iter]
  simp only [iter,retain,List.mem_map,List.mem_filter]
  constructor
  · rintro ⟨entry,⟨member,kept⟩,same⟩
    cases same
    exact ⟨⟨entry,member,rfl⟩,kept⟩
  · rintro ⟨⟨entry,member,same⟩,kept⟩
    cases same
    exact ⟨entry,⟨member,kept⟩,rfl⟩

theorem mem_values (self : HashMap K V) (value : V) :
    value ∈ self.values ↔ ∃ key, self.get key = some value := by
  simp only [values,List.mem_map,Prod.exists,mem_iter,exists_eq_right]

theorem values_eq_nil (self : HashMap K V) : self.values = [] ↔ ∀ key, self.get key = none := by
  rw [List.eq_nil_iff_forall_not_mem]
  simp only [mem_values,not_exists]
  constructor
  · intro none key
    by_contra present
    obtain ⟨value,found⟩ := Option.ne_none_iff_exists'.mp present
    exact none value key found
  · intro empty value key found
    rw [empty] at found
    cases found

end HashMap

/-- A map from keys to sets of values, each reached through `entry` and `get_mut`. -/
abbrev Index (K V : Type) := HashMap K (HashSet V)

namespace Index

variable {K V : Type} [DecidableEq K]

def Lists (self : Index K V) (key : K) (value : V) : Prop :=
  ∃ set, self.get key = some set ∧ value ∈ set

/-- No key is left with an empty set. -/
def Tight (self : Index K V) : Prop :=
  ∀ key set, self.get key = some set → set.isEmpty = false

theorem not_lists_new (key : K) (value : V) : ¬Lists (HashMap.new : Index K V) key value := by
  intro lists
  obtain ⟨set,found,_⟩ := lists
  simp at found

theorem tight_new : Tight (HashMap.new : Index K V) := by
  intro key set found
  simp at found

variable [DecidableEq V]

/-- `entry(key).or_default().insert(value)`. -/
def add (self : Index K V) (key : K) (value : V) : Index K V :=
  HashMap.insert self key (((self.get key).getD .empty).insert value)

/-- The value leaves the set under the key, and an emptied set leaves the map. -/
def drop (self : Index K V) (key : K) (value : V) : Index K V :=
  match self.get key with
  | none => self
  | some set =>
    let set := set.remove value
    if set.isEmpty then HashMap.remove self key else HashMap.insert self key set

theorem lists_add (self : Index K V) (key other : K) (value member : V) :
    Lists (add self key value) other member ↔
      other = key ∧ member = value ∨ Lists self other member := by
  unfold Lists add
  by_cases same : other = key
  · subst other
    cases found : self.get key with
    | none => simp
    | some set => simp
  · simp [HashMap.get_insert,same]

theorem tight_add (self : Index K V) (key : K) (value : V) (tight : Tight self) :
    Tight (add self key value) := by
  intro other set found
  unfold add at found
  by_cases same : other = key
  · subst other
    simp only [HashMap.get_insert_self,Option.some.injEq] at found
    subst found
    have member : value ∈ (((self.get key).getD .empty).insert value) := by simp
    simpa [HashSet.isEmpty] using List.ne_nil_of_mem member
  · rw [HashMap.get_insert_ne _ _ _ _ same] at found
    exact tight other set found

theorem get_drop (self : Index K V) (key other : K) (value : V) :
    (drop self key value).get other =
      if other = key then
        (self.get key).bind (fun set =>
          if (set.remove value).isEmpty then none else some (set.remove value))
      else self.get other := by
  unfold drop
  split
  · next missing =>
    by_cases same : other = key
    · subst other
      simp [missing]
    · simp [same]
  · next set found =>
    by_cases empty : (set.remove value).isEmpty
    · simp [empty,found,HashMap.get_remove]
    · simp [empty,found,HashMap.get_insert]

theorem lists_drop (self : Index K V) (key other : K) (value member : V) :
    Lists (drop self key value) other member ↔
      Lists self other member ∧ ¬(other = key ∧ member = value) := by
  unfold Lists
  rw [get_drop]
  by_cases same : other = key
  · subst other
    cases found : self.get key with
    | none => simp
    | some set =>
      simp only [if_true,Option.bind_some,true_and]
      by_cases empty : (set.remove value).isEmpty
      · have gone : member ∉ set.remove value := by
          rw [HashSet.mem_def,List.isEmpty_iff.mp empty]
          exact List.not_mem_nil
        rw [HashSet.mem_remove] at gone
        simp only [empty,if_true]
        simp
        tauto
      · simp [empty,and_comm]
  · simp [same]

theorem tight_drop (self : Index K V) (key : K) (value : V) (tight : Tight self) :
    Tight (drop self key value) := by
  intro other set found
  rw [get_drop] at found
  split at found
  · cases kept : self.get key with
    | none => simp [kept] at found
    | some old =>
      simp only [kept,Option.bind_some] at found
      split at found
      · cases found
      · next full =>
        cases found
        simpa using full
  · exact tight other set found

end Index

/-- A map that relates each left value to at most one right value and back. -/
structure BiMap (L R : Type) where
  pairs : List (L × R)
  left : (pairs.map Prod.fst).Nodup
  right : (pairs.map Prod.snd).Nodup
  deriving DecidableEq

namespace BiMap

variable {L R : Type}

def new : BiMap L R := ⟨[],List.nodup_nil,List.nodup_nil⟩

def Relates (self : BiMap L R) (l : L) (r : R) : Prop := (l,r) ∈ self.pairs

@[simp] theorem not_relates_new (l : L) (r : R) : ¬(new : BiMap L R).Relates l r := List.not_mem_nil

theorem relates_left (self : BiMap L R) (l : L) (r s : R) (first : self.Relates l r)
    (second : self.Relates l s) : r = s :=
  congrArg Prod.snd (List.inj_on_of_nodup_map self.left first second rfl)

theorem relates_right (self : BiMap L R) (l m : L) (r : R) (first : self.Relates l r)
    (second : self.Relates m r) : l = m :=
  congrArg Prod.fst (List.inj_on_of_nodup_map self.right first second rfl)

def filter (self : BiMap L R) (keep : L × R → Bool) : BiMap L R where
  pairs := self.pairs.filter keep
  left := self.left.sublist (List.filter_sublist.map _)
  right := self.right.sublist (List.filter_sublist.map _)

variable [DecidableEq L] [DecidableEq R]

instance (self : BiMap L R) (l : L) (r : R) : Decidable (self.Relates l r) :=
  inferInstanceAs (Decidable ((l,r) ∈ self.pairs))

def getByLeft (self : BiMap L R) (l : L) : Option R :=
  (self.pairs.find? (fun pair => pair.1 = l)).map Prod.snd

def getByRight (self : BiMap L R) (r : R) : Option L :=
  (self.pairs.find? (fun pair => pair.2 = r)).map Prod.fst

def removeByLeft (self : BiMap L R) (l : L) : BiMap L R := self.filter (fun pair => pair.1 ≠ l)

def removeByRight (self : BiMap L R) (r : R) : BiMap L R := self.filter (fun pair => pair.2 ≠ r)

/-- Both values lose the pairs they were in before. -/
def insert (self : BiMap L R) (l : L) (r : R) : BiMap L R where
  pairs := (l,r) :: (self.pairs.filter (fun pair => pair.1 ≠ l && pair.2 ≠ r))
  left := by
    rw [List.map_cons,List.nodup_cons]
    refine ⟨?_,self.left.sublist (List.filter_sublist.map _)⟩
    simp
  right := by
    rw [List.map_cons,List.nodup_cons]
    refine ⟨?_,self.right.sublist (List.filter_sublist.map _)⟩
    simp

omit [DecidableEq R] in
theorem getByLeft_iff (self : BiMap L R) (l : L) (r : R) :
    self.getByLeft l = some r ↔ self.Relates l r := by
  unfold getByLeft
  constructor
  · intro found
    obtain ⟨pair,first,rfl⟩ := Option.map_eq_some_iff.mp found
    have same : pair.1 = l := by simpa using List.find?_some first
    subst same
    exact List.mem_of_find?_eq_some first
  · intro related
    cases first : self.pairs.find? (fun pair => pair.1 = l) with
    | none =>
      have absent := List.find?_eq_none.mp first (l,r) related
      simp at absent
    | some pair =>
      have same : pair.1 = l := by simpa using List.find?_some first
      have member : self.Relates l pair.2 := by
        rw [← same]
        exact List.mem_of_find?_eq_some first
      rw [self.relates_left l r pair.2 related member]
      rfl

omit [DecidableEq L] in
theorem getByRight_iff (self : BiMap L R) (l : L) (r : R) :
    self.getByRight r = some l ↔ self.Relates l r := by
  unfold getByRight
  constructor
  · intro found
    obtain ⟨pair,first,rfl⟩ := Option.map_eq_some_iff.mp found
    have same : pair.2 = r := by simpa using List.find?_some first
    subst same
    exact List.mem_of_find?_eq_some first
  · intro related
    cases first : self.pairs.find? (fun pair => pair.2 = r) with
    | none =>
      have absent := List.find?_eq_none.mp first (l,r) related
      simp at absent
    | some pair =>
      have same : pair.2 = r := by simpa using List.find?_some first
      have member : self.Relates pair.1 r := by
        rw [← same]
        exact List.mem_of_find?_eq_some first
      rw [self.relates_right l pair.1 r related member]
      rfl

theorem relates_insert (self : BiMap L R) (l m : L) (r s : R) :
    (self.insert l r).Relates m s ↔ m = l ∧ s = r ∨ m ≠ l ∧ s ≠ r ∧ self.Relates m s := by
  simp [Relates,insert]
  tauto

omit [DecidableEq R] in
theorem relates_removeByLeft (self : BiMap L R) (l m : L) (s : R) :
    (self.removeByLeft l).Relates m s ↔ m ≠ l ∧ self.Relates m s := by
  simp [Relates,removeByLeft,filter,and_comm]

omit [DecidableEq L] in
theorem relates_removeByRight (self : BiMap L R) (r s : R) (m : L) :
    (self.removeByRight r).Relates m s ↔ s ≠ r ∧ self.Relates m s := by
  simp [Relates,removeByRight,filter,and_comm]

end BiMap

/-- The keys that one slot map mints, in their order. Which keys they are, and in which
order slots are used again, is up to the `slotmap` crate; no key is minted twice. -/
structure SlotKeys where
  key : Nat → Nat
  distinct : Function.Injective key

/-- What a map mints from which nothing is removed: the first version of each slot. -/
def SlotKeys.firstVersions : SlotKeys where
  key n := 4294967296 + n + 1
  distinct first second same := by
    simp only at same
    omega

/-- What a map mints from which the first values, this many, are removed in their order
before another is inserted: their slots are used again from the last one down, then new
ones. Past the slots that there are the keys are only distinct. -/
def SlotKeys.reused (count : Nat) (small : count ≤ 4294967296) : SlotKeys where
  key n :=
    if n < count then 4294967296 + n + 1
    else if n < 2 * count then 3 * 4294967296 + (2 * count - n)
    else if n < 4294967296 then 4294967296 + (n - count) + 1
    else 5 * 4294967296 + n
  distinct first second same := by
    simp only at same
    grind

def SlotKeys.reusedOnce : SlotKeys := .reused 1 (by decide)

structure SlotMap (V : Type) where
  keys : SlotKeys
  entries : HashMap Nat V
  count : Nat
  held : ∀ key, entries.get key ≠ none → ∃ n < count, keys.key n = key

namespace SlotMap

variable {V : Type}

def new (keys : SlotKeys) : SlotMap V := ⟨keys,.new,0,by simp⟩

def get (self : SlotMap V) (key : Nat) : Option V := self.entries.get key

/-- The key that the next insertion is given. -/
def next (self : SlotMap V) : Nat := self.keys.key self.count

/-- The map has given out the key, which may have been removed since. -/
def Minted (self : SlotMap V) (key : Nat) : Prop := ∃ n < self.count, self.keys.key n = key

instance (self : SlotMap V) (key : Nat) : Decidable (self.Minted key) :=
  inferInstanceAs (Decidable (∃ n < self.count, self.keys.key n = key))

def insert (self : SlotMap V) (value : V) : Nat × SlotMap V :=
  (self.next,
    {keys := self.keys
     entries := self.entries.insert self.next value
     count := self.count + 1
     held := by
      intro key present
      rw [HashMap.get_insert] at present
      split at present
      · next same => exact ⟨self.count,Nat.lt_succ_self _,same.symm⟩
      · obtain ⟨n,below,same⟩ := self.held key present
        exact ⟨n,Nat.lt_succ_of_lt below,same⟩})

def remove (self : SlotMap V) (key : Nat) : SlotMap V where
  keys := self.keys
  entries := self.entries.remove key
  count := self.count
  held := by
    intro other present
    rw [HashMap.get_remove] at present
    split at present
    · exact absurd rfl present
    · exact self.held other present

/-- The keys of a cleared map are not minted again. -/
def clear (self : SlotMap V) : SlotMap V := ⟨self.keys,.new,self.count,by simp⟩

@[simp] theorem get_clear (self : SlotMap V) (key : Nat) : self.clear.get key = none := HashMap.get_new key

theorem minted_of_get (self : SlotMap V) (key : Nat) (value : V) (found : self.get key = some value) :
    self.Minted key :=
  self.held key (by rw [← get,found]; simp)

theorem not_minted_next (self : SlotMap V) : ¬self.Minted self.next := by
  rintro ⟨n,below,same⟩
  exact Nat.ne_of_lt below (self.keys.distinct same)

theorem Minted.ne_next {self : SlotMap V} {key : Nat} (minted : self.Minted key) : key ≠ self.next :=
  fun same => self.not_minted_next (same ▸ minted)

theorem get_next (self : SlotMap V) : self.get self.next = none := by
  by_contra present
  exact self.not_minted_next (self.held self.next present)

theorem get_insert (self : SlotMap V) (value : V) (key : Nat) :
    (self.insert value).2.get key = if key = self.next then some value else self.get key :=
  HashMap.get_insert self.entries self.next key value

theorem get_remove (self : SlotMap V) (key other : Nat) :
    (self.remove key).get other = if other = key then none else self.get other :=
  HashMap.get_remove self.entries key other

theorem minted_insert (self : SlotMap V) (value : V) (key : Nat) :
    (self.insert value).2.Minted key ↔ key = self.next ∨ self.Minted key := by
  constructor
  · rintro ⟨n,below,same⟩
    rcases Nat.lt_succ_iff_lt_or_eq.mp below with earlier | last
    · exact .inr ⟨n,earlier,same⟩
    · subst last
      exact .inl same.symm
  · rintro (same | ⟨n,below,same⟩)
    · exact ⟨self.count,Nat.lt_succ_self _,same.symm⟩
    · exact ⟨n,Nat.lt_succ_of_lt below,same⟩

theorem Minted.insert {self : SlotMap V} {key : Nat} (minted : self.Minted key) (value : V) :
    (self.insert value).2.Minted key :=
  (self.minted_insert value key).mpr (.inr minted)

/-- The keys given out since the map had given out this many. -/
def mintedSince (self : SlotMap V) (count : Nat) : List Nat :=
  (List.range' count (self.count - count)).map self.keys.key

/-- One map, earlier and later: what it has given out stays given out. -/
structure Grows (before after : SlotMap V) : Prop where
  keys : after.keys = before.keys
  count : before.count ≤ after.count

theorem Grows.refl (self : SlotMap V) : Grows self self := ⟨rfl,Nat.le_refl _⟩

theorem Grows.trans {first second third : SlotMap V} (one : Grows first second) (two : Grows second third) :
    Grows first third :=
  ⟨two.keys.trans one.keys,Nat.le_trans one.count two.count⟩

theorem grows_insert (self : SlotMap V) (value : V) : Grows self (self.insert value).2 := ⟨rfl,Nat.le_succ _⟩

theorem Grows.minted {before after : SlotMap V} (grows : Grows before after) {key : Nat}
    (minted : before.Minted key) : after.Minted key := by
  obtain ⟨n,below,same⟩ := minted
  exact ⟨n,Nat.lt_of_lt_of_le below grows.count,by rw [grows.keys,same]⟩

/-- Two states of one map between which no key was given out. -/
structure SameKeys (before after : SlotMap V) : Prop where
  keys : after.keys = before.keys
  count : after.count = before.count

theorem SameKeys.refl (self : SlotMap V) : SameKeys self self := ⟨rfl,rfl⟩

theorem SameKeys.of_eq {before after : SlotMap V} (same : after = before) : SameKeys before after :=
  ⟨by rw [same],by rw [same]⟩

theorem SameKeys.grows {before after : SlotMap V} (same : SameKeys before after) : Grows before after :=
  ⟨same.keys,Nat.le_of_eq same.count.symm⟩

theorem SameKeys.minted {before after : SlotMap V} (same : SameKeys before after) (key : Nat) :
    before.Minted key ↔ after.Minted key := by
  unfold Minted
  rw [same.keys,same.count]

theorem Grows.mem_mintedSince {before after : SlotMap V} (grows : Grows before after) (key : Nat) :
    key ∈ after.mintedSince before.count ↔ after.Minted key ∧ ¬before.Minted key := by
  have size : before.count + (after.count - before.count) = after.count := Nat.add_sub_cancel' grows.count
  simp only [mintedSince,List.mem_map,List.mem_range'_1,size]
  constructor
  · rintro ⟨n,⟨old,below⟩,same⟩
    refine ⟨⟨n,below,same⟩,?_⟩
    rintro ⟨m,earlier,again⟩
    rw [← grows.keys,← same] at again
    have equal := after.keys.distinct again
    omega
  · rintro ⟨⟨n,below,same⟩,fresh⟩
    refine ⟨n,⟨?_,below⟩,same⟩
    by_contra earlier
    exact fresh ⟨n,Nat.lt_of_not_le earlier,by rw [← grows.keys,same]⟩

theorem mintedSince_insert (self : SlotMap V) (value : V) :
    (self.insert value).2.mintedSince self.count = [self.next] := by
  simp [mintedSince,insert,next]

theorem Grows.mintedSince_append {first second third : SlotMap V} (one : Grows first second)
    (two : Grows second third) :
    second.mintedSince first.count ++ third.mintedSince second.count = third.mintedSince first.count := by
  obtain ⟨m,more⟩ := Nat.exists_eq_add_of_le one.count
  obtain ⟨n,most⟩ := Nat.exists_eq_add_of_le two.count
  have whole : third.count - first.count = m + n := by omega
  unfold mintedSince
  rw [← two.keys,← List.map_append,whole,← List.range'_append_1,most,more,Nat.add_sub_cancel_left,
    Nat.add_sub_cancel_left]

@[simp] theorem minted_remove (self : SlotMap V) (key other : Nat) :
    (self.remove key).Minted other ↔ self.Minted other := Iff.rfl

@[simp] theorem minted_clear (self : SlotMap V) (key : Nat) : self.clear.Minted key ↔ self.Minted key := Iff.rfl

end SlotMap
end Warpdrive.Foundation
