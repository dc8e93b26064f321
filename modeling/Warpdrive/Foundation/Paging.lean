import Mathlib.Data.List.Nodup
import Mathlib.Order.Lattice

/-! Listing ascending items page by page. A page starts at the first item that is not below its cursor and
comes with a mark of the first item after it, which is the cursor of the next call. -/
namespace Warpdrive.Foundation.Paging

variable {α : Type*} [LinearOrder α] (items : List α) (size : Nat) (mark : α → α)

def rest : Option α → List α
  | none => items
  | some cursor => items.dropWhile (fun item => item < cursor)

def page (cursor : Option α) : List α × Option α :=
  ((rest items cursor).take size,(rest items cursor)[size]?.map mark)

/-- The pages of calls that each pass on the cursor of the one before, up to one that gives none. -/
inductive Pages : Option α → List (List α) → Prop where
  | last (cursor : Option α) (ends : (page items size mark cursor).2 = none) :
    Pages cursor [(page items size mark cursor).1]
  | more (cursor : Option α) (next : α) (pages : List (List α)) (goes : (page items size mark cursor).2 = some next)
    (later : Pages (some next) pages) : Pages cursor ((page items size mark cursor).1::pages)

/-- The mark of an item leads back to it: the item before is below the mark, and the item is not. -/
def Leads (i : Nat) : Prop :=
  ∀ before first, items[i - 1]? = some before → items[i]? = some first → before < mark first ∧ mark first ≤ first

variable {items size mark}

/-- In ascending items, a cursor leads to the item that it is above the items before of, and not above. -/
theorem dropWhile_eq_drop (ascending : items.Pairwise (· < ·)) (cursor : α) (i : Nat) (first : α)
    (at_ : items[i]? = some first) :
    items.dropWhile (fun item => item < cursor) = items.drop i ↔
      (∀ before, 0 < i → items[i - 1]? = some before → before < cursor) ∧ cursor ≤ first := by
  induction items generalizing i with
  | nil => simp at at_
  | cons head tail ih =>
    obtain ⟨above,rising⟩ := List.pairwise_cons.mp ascending
    cases i with
    | zero =>
      rw [List.getElem?_cons_zero,Option.some.injEq] at at_
      subst at_
      by_cases below : head < cursor
      · have shorter := (List.dropWhile_sublist (fun item => decide (item < cursor)) (l := tail)).length_le
        refine iff_of_false ?_ (fun both => absurd below (not_lt.mpr both.2))
        intro same
        rw [List.dropWhile_cons_of_pos (by simpa using below)] at same
        rw [same,List.drop_zero,List.length_cons] at shorter
        omega
      · rw [List.dropWhile_cons_of_neg (by simpa using below)]
        exact iff_of_true rfl ⟨fun _ wrong => absurd wrong (Nat.lt_irrefl 0),not_lt.mp below⟩
    | succ i =>
      rw [List.getElem?_cons_succ] at at_
      obtain ⟨low,_⟩ := List.getElem?_eq_some_iff.mp at_
      by_cases below : head < cursor
      · rw [List.dropWhile_cons_of_pos (by simpa using below),List.drop_succ_cons,ih rising i at_]
        refine and_congr_left' ?_
        cases i with
        | zero => simp [below]
        | succ i => simp
      · rw [List.dropWhile_cons_of_neg (by simpa using below),List.drop_succ_cons]
        refine iff_of_false ?_ ?_
        · intro same
          have longer := congrArg List.length same
          simp at longer
          omega
        · rintro ⟨under,_⟩
          -- the head is not above the item before, which is below the cursor
          have inside : i < (head::tail).length := by simp; omega
          have before := under (head::tail)[i] (Nat.succ_pos i) (List.getElem?_eq_getElem inside)
          cases i with
          | zero => exact below before
          | succ i => exact below ((above _ (List.getElem_mem _)).trans before)

/-- What a cursor leads to starts with an item, so it is the items from there on. -/
theorem dropWhile_of_head (ascending : items.Pairwise (· < ·)) (cursor first : α) (tail : List α) (i : Nat)
    (at_ : items[i]? = some first) (starts : items.dropWhile (fun item => item < cursor) = first::tail) :
    items.dropWhile (fun item => item < cursor) = items.drop i := by
  have distinct : items.Nodup := ascending.imp (fun less => ne_of_lt less)
  rw [List.dropWhile_eq_drop_findIdx_not] at starts ⊢
  generalize items.findIdx (fun item => !decide (item < cursor)) = j at starts ⊢
  have there : items[j]? = some first := by
    rw [← List.head?_drop,starts,List.head?_cons]
  obtain ⟨low,same⟩ := List.getElem?_eq_some_iff.mp at_
  obtain ⟨low',same'⟩ := List.getElem?_eq_some_iff.mp there
  rw [(distinct.getElem_inj_iff).mp (same'.trans same.symm)]

theorem page_of_rest (cursor : Option α) (s : Nat) (from_ : rest items cursor = items.drop s) :
    page items size mark cursor = ((items.drop s).take size,items[s + size]?.map mark) := by
  rw [page,from_,List.getElem?_drop]

theorem flatten_pages (cursor : Option α) (pages : List (List α)) (walk : Pages items size mark cursor pages) :
    ∃ later, pages.flatten = (rest items cursor).take size ++ later := by
  cases walk with
  | last _ ends => exact ⟨[],by simp [page]⟩
  | more _ next pages goes walk => exact ⟨pages.flatten,by simp [page]⟩

/-- Where the pages from a point on list every item once, each mark leads back. -/
theorem leads_of_pages (ascending : items.Pairwise (· < ·)) (positive : 0 < size) (cursor : Option α)
    (pages : List (List α)) (walk : Pages items size mark cursor pages) (s : Nat)
    (from_ : rest items cursor = items.drop s) (all : pages.flatten = items.drop s) (i : Nat) (after : s < i)
    (boundary : size ∣ i - s) (low : i < items.length) : Leads items mark i := by
  induction walk generalizing s with
  | last cursor ends =>
    rw [page_of_rest cursor s from_] at ends
    simp only [Option.map_eq_none_iff,List.getElem?_eq_none_iff] at ends
    have far := Nat.le_of_dvd (by omega) boundary
    omega
  | more cursor next pages goes walk ih =>
    rw [page_of_rest cursor s from_] at goes all
    obtain ⟨first,at_,rfl⟩ := Option.map_eq_some_iff.mp goes
    obtain ⟨inside,_⟩ := List.getElem?_eq_some_iff.mp at_
    have others : pages.flatten = items.drop (s + size) := by
      rw [List.flatten_cons] at all
      have joined : (items.drop s).take size ++ pages.flatten = (items.drop s).take size ++ items.drop (s + size) := by
        rw [all,← List.drop_drop,List.take_append_drop]
      exact List.append_cancel_left joined
    -- the next page starts with the item after this one
    have leads : rest items (some (mark first)) = items.drop (s + size) := by
      obtain ⟨later,starts⟩ := flatten_pages _ _ walk
      rw [others,List.drop_eq_getElem_cons inside] at starts
      cases led : rest items (some (mark first)) with
      | nil =>
        have nothing : pages = [[]] := by
          cases walk with
          | last _ ends => simp [page,led]
          | more _ next pages goes _ => simp [page,led] at goes
        rw [nothing] at others
        have size_ := congrArg List.length others
        simp at size_
        omega
      | cons head tail =>
        obtain ⟨count,rfl⟩ : ∃ count, size = count + 1 := ⟨size - 1,by omega⟩
        rw [led,List.take_succ_cons,List.cons_append] at starts
        have same := (List.cons.inj starts).1
        rw [← led]
        refine dropWhile_of_head ascending (mark first) first tail _ at_ ?_
        have known := (List.getElem?_eq_some_iff.mp at_).2
        rw [known] at same
        subst same
        exact led
    by_cases next : i = s + size
    · subst next
      obtain ⟨under,above⟩ := (dropWhile_eq_drop ascending (mark first) _ first at_).mp leads
      intro before item earlier there
      cases at_.symm.trans there
      exact ⟨under before (by omega) earlier,above⟩
    · refine ih (s + size) leads others ?_ ?_
      · have far := Nat.le_of_dvd (by omega) boundary
        omega
      · obtain ⟨turns,whole⟩ := boundary
        refine ⟨turns - 1,?_⟩
        rw [Nat.mul_sub,← whole]
        omega

theorem pages_of_leads (ascending : items.Pairwise (· < ·)) (positive : 0 < size)
    (leads : ∀ i, 0 < i → size ∣ i → i < items.length → Leads items mark i) (left : Nat) (cursor : Option α) (s : Nat)
    (bound : items.length - s ≤ left) (boundary : size ∣ s) (from_ : rest items cursor = items.drop s) :
    ∃ pages, Pages items size mark cursor pages ∧ pages.flatten = items.drop s := by
  induction left generalizing cursor s with
  | zero =>
    have ends : (page items size mark cursor).2 = none := by
      rw [page_of_rest cursor s from_]
      simp only [Option.map_eq_none_iff,List.getElem?_eq_none_iff]
      omega
    refine ⟨_,.last cursor ends,?_⟩
    rw [page_of_rest cursor s from_,List.flatten_singleton,List.take_of_length_le]
    rw [List.length_drop]
    omega
  | succ left ih =>
    cases at_ : items[s + size]? with
    | none =>
      have ends : (page items size mark cursor).2 = none := by
        rw [page_of_rest cursor s from_,at_]
        rfl
      rw [List.getElem?_eq_none_iff] at at_
      refine ⟨_,.last cursor ends,?_⟩
      rw [page_of_rest cursor s from_,List.flatten_singleton,List.take_of_length_le]
      rw [List.length_drop]
      omega
    | some first =>
      obtain ⟨inside,_⟩ := List.getElem?_eq_some_iff.mp at_
      have goes : (page items size mark cursor).2 = some (mark first) := by
        rw [page_of_rest cursor s from_,at_]
        rfl
      have back : rest items (some (mark first)) = items.drop (s + size) := by
        refine (dropWhile_eq_drop ascending (mark first) _ first at_).mpr ?_
        have led := leads (s + size) (by omega) (Nat.dvd_add boundary (Nat.dvd_refl size)) inside
        have earlier : s + size - 1 < items.length := by omega
        obtain ⟨_,above⟩ := led _ first (List.getElem?_eq_getElem earlier) at_
        exact ⟨fun before _ there => (led before first there at_).1,above⟩
      obtain ⟨pages,walk,all⟩ := ih (some (mark first)) (s + size) (by omega)
        (Nat.dvd_add boundary (Nat.dvd_refl size)) back
      refine ⟨_,.more cursor _ pages goes walk,?_⟩
      rw [page_of_rest cursor s from_,List.flatten_cons,all,← List.drop_drop,List.take_append_drop]

/-- The pages from the start list every item once, in order, exactly when each mark leads back. -/
theorem pages_iff_leads (ascending : items.Pairwise (· < ·)) (positive : 0 < size) :
    (∃ pages, Pages items size mark none pages ∧ pages.flatten = items) ↔
      ∀ i, 0 < i → size ∣ i → i < items.length → Leads items mark i := by
  constructor
  · rintro ⟨pages,walk,all⟩ i after boundary low
    exact leads_of_pages ascending positive none pages walk 0 rfl all i after boundary low
  · intro leads
    exact pages_of_leads ascending positive leads items.length none 0 (Nat.sub_le _ _) (Nat.dvd_zero size) rfl

end Warpdrive.Foundation.Paging
