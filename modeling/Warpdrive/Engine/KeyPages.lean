import Warpdrive.Foundation.Paging
import Warpdrive.Engine.KeyValueIsolation

/-! The keys of a bucket listed page by page. The cursor that comes with a page is the next key as it is
rendered, with its namespace and bucket, and the next call renders the cursor once more. -/
namespace Warpdrive.Engine

open Warpdrive.Foundation Warpdrive.Foundation.Paging Warpdrive.Types

theorem append_lt_append (stem first second : String) : stem ++ first < stem ++ second ↔ first < second := by
  have grows : StrictMono (fun text : String => stem ++ text) := by
    intro one other less
    rw [String.lt_iff_toList_lt] at less
    change stem ++ one < stem ++ other
    rw [String.lt_iff_toList_lt,String.toList_append,String.toList_append]
    exact List.append_left_lt less
  exact grows.lt_iff_lt

theorem startsWith_append (stem text : String) : startsWith (stem ++ text) stem = true := by
  simp [startsWith,String.toList_append]

theorem chop_append (stem text : String) : chop stem (stem ++ text) = text := by
  simp [chop,String.toList_append]

theorem append_chop (stem text : String) (starts : startsWith text stem = true) : stem ++ chop stem text = text := by
  obtain ⟨tail,same⟩ := List.isPrefixOf_iff_prefix.mp starts
  apply String.toList_inj.mp
  rw [chop,String.toList_append,String.toList_ofList,← same,List.drop_left]

theorem collectPage_eq (stem : String) (size : Nat) (keys : List String) (count : Nat) (bound : count ≤ size) :
    collectPage stem (some size) count (keys.map (stem ++ ·)) =
      ⟨keys.take (size - count),(keys[size - count]?).map (stem ++ ·)⟩ := by
  induction keys generalizing count with
  | nil => simp [collectPage]
  | cons key keys ih =>
    rw [List.map_cons,collectPage,startsWith_append]
    simp only [Bool.not_true,Bool.false_eq_true,if_false,Option.any_some,decide_eq_true_eq]
    by_cases full : count + 1 > size
    · have none_left : size - count = 0 := by omega
      rw [if_pos full,none_left]
      rfl
    · obtain ⟨left,more⟩ : ∃ left, size - count = left + 1 := ⟨size - count - 1,by omega⟩
      have fewer : size - (count + 1) = left := by omega
      rw [if_neg full,more,ih (count + 1) (by omega),fewer,chop_append]
      rfl

namespace KeyValueState

variable {resources : ResourceTable} {keyNamespace : String} (self : KeyValueState resources keyNamespace)

def bucketKeys (keyPrefix : KeyPrefix) : List String :=
  (self.allKeys (keyPrefix.display ++ "/")).map (chop (keyPrefix.display ++ "/"))

theorem allKeys_eq (keyPrefix : KeyPrefix) : self.allKeys (keyPrefix.display ++ "/") =
    (self.bucketKeys keyPrefix).map (keyPrefix.display ++ "/" ++ ·) := by
  rw [bucketKeys,List.map_map]
  symm
  refine (List.map_congr_left ?_).trans (List.map_id _)
  intro text member
  exact append_chop _ _ ((mem_allKeys self _ _).mp member).1

theorem ascending_bucketKeys (keyPrefix : KeyPrefix) : (self.bucketKeys keyPrefix).Pairwise (· < ·) := by
  have sorted : (self.allKeys (keyPrefix.display ++ "/")).Pairwise (· ≤ ·) :=
    List.pairwise_insertionSort _ _
  have strict : (self.allKeys (keyPrefix.display ++ "/")).Pairwise (· < ·) :=
    (sorted.and (nodup_allKeys self _)).imp (fun both => lt_of_le_of_ne both.1 both.2)
  rw [allKeys_eq,List.pairwise_map] at strict
  exact strict.imp (fun less => (append_lt_append _ _ _).mp less)

theorem mem_bucketKeys (keyPrefix : KeyPrefix) (key : String) :
    key ∈ self.bucketKeys keyPrefix ↔ (self.getStoreValue ⟨keyPrefix,key⟩).isSome := by
  rw [getStoreValue,Key.display]
  constructor
  · intro member
    have rendered : keyPrefix.display ++ "/" ++ key ∈ self.allKeys (keyPrefix.display ++ "/") := by
      rw [allKeys_eq]
      exact List.mem_map_of_mem member
    exact ((mem_allKeys self _ _).mp rendered).2
  · intro stored
    have rendered := (mem_allKeys self (keyPrefix.display ++ "/") (keyPrefix.display ++ "/" ++ key)).mpr
      ⟨startsWith_append _ _,stored⟩
    rw [bucketKeys]
    exact List.mem_map.mpr ⟨_,rendered,chop_append _ _⟩

/-- A call lists a page of the bucket's keys from the cursor on, and marks the next key by rendering it. -/
theorem listKeys_eq (bucket : Nat) (cursor : Option String) (keyPrefix : KeyPrefix) (size : Nat)
    (resolved : self.getKeyPrefix bucket = .ok keyPrefix) (paged : self.pageSize = some size) :
    self.listKeys bucket cursor = .ok
      ⟨(page (self.bucketKeys keyPrefix) size (keyPrefix.display ++ "/" ++ ·) cursor).1,
        (page (self.bucketKeys keyPrefix) size (keyPrefix.display ++ "/" ++ ·) cursor).2⟩ := by
  have page_ := fun keys => collectPage_eq (keyPrefix.display ++ "/") size keys 0 (Nat.zero_le size)
  simp only [listKeys,resolved,Except.map,paged,allKeys_eq]
  cases cursor with
  | none =>
    simp only [page_]
    rfl
  | some text =>
    simp only [List.dropWhile_map,Key.display,Function.comp_def,append_lt_append,page_]
    rfl

/-- The pages of calls that each pass on the cursor of the one before, up to one that gives none. -/
inductive Listing (bucket : Nat) : Option String → List (List String) → Prop where
  | last (cursor : Option String) (keys : List String) (listed : self.listKeys bucket cursor = .ok ⟨keys,none⟩) :
    Listing bucket cursor [keys]
  | more (cursor : Option String) (keys : List String) (next : String) (pages : List (List String))
    (listed : self.listKeys bucket cursor = .ok ⟨keys,some next⟩) (later : Listing bucket (some next) pages) :
    Listing bucket cursor (keys::pages)

theorem listing_iff_pages (bucket : Nat) (cursor : Option String) (keyPrefix : KeyPrefix) (size : Nat)
    (resolved : self.getKeyPrefix bucket = .ok keyPrefix) (paged : self.pageSize = some size)
    (pages : List (List String)) : self.Listing bucket cursor pages ↔
      Pages (self.bucketKeys keyPrefix) size (keyPrefix.display ++ "/" ++ ·) cursor pages := by
  have call := fun cursor => self.listKeys_eq bucket cursor keyPrefix size resolved paged
  constructor
  · intro listing
    induction listing with
    | last cursor keys listed =>
      rw [call,Except.ok.injEq,KeyResponse.mk.injEq] at listed
      obtain ⟨rfl,ends⟩ := listed
      exact .last cursor ends
    | more cursor keys next pages listed later ih =>
      rw [call,Except.ok.injEq,KeyResponse.mk.injEq] at listed
      obtain ⟨rfl,goes⟩ := listed
      exact .more cursor next pages goes ih
  · intro walk
    induction walk with
    | last cursor ends => exact .last cursor _ (by rw [call,ends])
    | more cursor next pages goes later ih => exact .more cursor _ next pages (by rw [call,goes]) ih

theorem eq_of_ascending (first second : List String) (ascending : first.Pairwise (· < ·))
    (ascending' : second.Pairwise (· < ·)) (same : ∀ text, text ∈ first ↔ text ∈ second) : first = second := by
  have distinct : ∀ list : List String, list.Pairwise (· < ·) → list.Nodup := by
    intro list rising
    exact rising.imp (fun less => ne_of_lt less)
  have perm := (List.perm_ext_iff_of_nodup (distinct _ ascending) (distinct _ ascending')).mpr same
  exact perm.eq_of_pairwise (fun a b _ _ below above => absurd below (lt_asymm above)) ascending ascending'

/-- With pages of a size, the calls come to an end and list every key of the bucket once, in order, exactly when
at each boundary of the pages the key before is below the next key as it is rendered, and the next key is not. -/
theorem listing_complete_iff (bucket : Nat) (keyPrefix : KeyPrefix) (size : Nat)
    (resolved : self.getKeyPrefix bucket = .ok keyPrefix) (paged : self.pageSize = some size) (positive : 0 < size) :
    (∃ pages, self.Listing bucket none pages ∧ pages.flatten.Pairwise (· < ·) ∧
      ∀ key, key ∈ pages.flatten ↔ ∃ value, self.get bucket key = .ok (some value)) ↔
    ∀ i, 0 < i → size ∣ i → i < (self.bucketKeys keyPrefix).length →
      Leads (self.bucketKeys keyPrefix) (keyPrefix.display ++ "/" ++ ·) i := by
  have stored : ∀ key, key ∈ self.bucketKeys keyPrefix ↔ ∃ value, self.get bucket key = .ok (some value) := by
    intro key
    rw [mem_bucketKeys,Option.isSome_iff_exists]
    simp only [get,getKey,resolved,Except.map,Except.ok.injEq]
  have ascending := self.ascending_bucketKeys keyPrefix
  rw [← pages_iff_leads ascending positive]
  constructor
  · rintro ⟨pages,listing,rising,complete⟩
    refine ⟨pages,(self.listing_iff_pages bucket none keyPrefix size resolved paged pages).mp listing,?_⟩
    exact eq_of_ascending _ _ rising ascending (fun key => (complete key).trans (stored key).symm)
  · rintro ⟨pages,walk,all⟩
    refine ⟨pages,(self.listing_iff_pages bucket none keyPrefix size resolved paged pages).mpr walk,?_,?_⟩
    · rw [all]
      exact ascending
    · rw [all]
      exact stored

end KeyValueState

def letters : KeyPrefix := ⟨(neighbours true).display,"letters"⟩

/-- A bucket with two keys, listed one at a time. -/
def twoLetters : KeyValueState slab (neighbours true).display where
  db := ⟨(WavsDbTable.new.insert (Key.mk letters "x").display [1]).insert (Key.mk letters "y").display [2],.new⟩
  resourceTable := [some (.bucket ⟨"letters"⟩)]
  pageSize := some 1

theorem twoLetters_complete_iff :
    (∃ pages, twoLetters.Listing 0 none pages ∧ pages.flatten.Pairwise (· < ·) ∧
      ∀ key, key ∈ pages.flatten ↔ ∃ value, twoLetters.get 0 key = .ok (some value)) ↔
    ∀ i, 0 < i → 1 ∣ i → i < (twoLetters.bucketKeys letters).length →
      Leads (twoLetters.bucketKeys letters) (letters.display ++ "/" ++ ·) i :=
  KeyValueState.listing_complete_iff twoLetters 0 letters 1 rfl rfl (by decide)

/-- The cursor of the first page leads back to the first page, again and again. -/
theorem twoLetters_never_ends : ¬∃ pages, twoLetters.Listing 0 none pages ∧ pages.flatten.Pairwise (· < ·) ∧
    ∀ key, key ∈ pages.flatten ↔ ∃ value, twoLetters.get 0 key = .ok (some value) := by
  have first : twoLetters.listKeys 0 none = .ok ⟨["x"],some (Key.mk letters "y").display⟩ := by decide +kernel
  have again : twoLetters.listKeys 0 (some (Key.mk letters "y").display) =
      .ok ⟨["x"],some (Key.mk letters "y").display⟩ := by decide +kernel
  have stuck : ∀ cursor pages, twoLetters.Listing 0 cursor pages →
      twoLetters.listKeys 0 cursor ≠ .ok ⟨["x"],some (Key.mk letters "y").display⟩ := by
    intro cursor pages listing
    induction listing with
    | last cursor keys listed =>
      rw [listed]
      simp
    | more cursor keys next pages listed later ih =>
      rw [listed]
      intro same
      cases same
      exact ih again
  rintro ⟨pages,listing,_⟩
  exact stuck none pages listing first

end Warpdrive.Engine
