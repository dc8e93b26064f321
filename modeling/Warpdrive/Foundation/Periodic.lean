import Mathlib.Data.List.Basic
import Mathlib.Tactic.Common

/-! What is due at the heights `anchor`, `anchor + period`, `anchor + 2 * period` and so on, and is
asked at one height after another, in any order. It fires when it is asked at such a height and is due,
is due again a period later, and closes when it is due at or past an optional last height. -/
namespace Warpdrive.Foundation.Periodic

variable (anchor period : Nat)

def OnGrid (height : Nat) : Prop := anchor ≤ height ∧ period ∣ height - anchor

instance (height : Nat) : Decidable (OnGrid anchor period height) := inferInstanceAs (Decidable (_ ∧ _))

def firstFrom (height : Nat) : Nat :=
  let delta := height - anchor
  anchor + (delta / period + if delta % period = 0 then 0 else 1) * period

/-- The heights at which it fires, of those it is asked at. -/
def firings (stop : Option Nat) : Nat → List Nat → List Nat
  | _,[] => []
  | due,height::heights =>
    if height < due then firings stop due heights
    else if stop.any (fun stop => decide (stop ≤ height)) then
      if OnGrid anchor period height then [height] else []
    else if OnGrid anchor period height then height :: firings stop (height + period) heights
    else firings stop due heights

/-- It does not fire past its last height: when it is due at or past that height for the first time, then
at the height itself or off the grid. -/
def ClosesInTime (stop : Nat) : Nat → List Nat → Prop
  | _,[] => True
  | due,height::heights =>
    if height < due then ClosesInTime stop due heights
    else if stop ≤ height then height = stop ∨ ¬OnGrid anchor period height
    else if OnGrid anchor period height then ClosesInTime stop (height + period) heights
    else ClosesInTime stop due heights

instance decidableClosesInTime (stop : Nat) :
    ∀ (due : Nat) (heights : List Nat), Decidable (ClosesInTime anchor period stop due heights)
  | _,[] => inferInstanceAs (Decidable True)
  | due,height::heights =>
    have := decidableClosesInTime stop due heights
    have := decidableClosesInTime stop (height + period) heights
    inferInstanceAs (Decidable (if height < due then _ else
      if stop ≤ height then height = stop ∨ ¬OnGrid anchor period height
      else if OnGrid anchor period height then _ else _))

variable {anchor period}

theorem onGrid_add {height : Nat} (grid : OnGrid anchor period height) :
    OnGrid anchor period (height + period) := by
  obtain ⟨above,multiple⟩ := grid
  refine ⟨Nat.le_add_right_of_le above,?_⟩
  rw [Nat.sub_add_comm above]
  exact Nat.dvd_add multiple (Nat.dvd_refl period)

theorem add_le_iff {height other : Nat} (positive : 0 < period) (grid : OnGrid anchor period height)
    (further : OnGrid anchor period other) : height + period ≤ other ↔ height < other := by
  obtain ⟨above,first,same⟩ := grid
  obtain ⟨beyond,second,equal⟩ := further
  constructor
  · intro later
    omega
  · intro later
    have less : period * first < period * second := by omega
    have fewer : first + 1 ≤ second := Nat.lt_of_mul_lt_mul_left less
    have apart : period * (first + 1) ≤ period * second := Nat.mul_le_mul_left period fewer
    rw [Nat.mul_succ] at apart
    omega

theorem firstFrom_onGrid (height : Nat) : OnGrid anchor period (firstFrom anchor period height) := by
  unfold firstFrom
  refine ⟨Nat.le_add_right _ _,?_⟩
  rw [Nat.add_sub_cancel_left]
  exact Nat.dvd_mul_left period _

theorem firstFrom_bounds (positive : 0 < period) (height : Nat) (above : anchor ≤ height) :
    height ≤ firstFrom anchor period height ∧ firstFrom anchor period height < height + period := by
  have whole := Nat.div_add_mod (height - anchor) period
  have rest := Nat.mod_lt (height - anchor) positive
  unfold firstFrom
  dsimp only
  rw [Nat.mul_comm] at whole
  split
  · rw [Nat.add_zero]
    omega
  · rw [Nat.succ_mul]
    omega

theorem firstFrom_before (height : Nat) (below : height ≤ anchor) : firstFrom anchor period height = anchor := by
  unfold firstFrom
  rw [Nat.sub_eq_zero_of_le below]
  simp

theorem firstFrom_le_iff (positive : 0 < period) (height : Nat) {other : Nat}
    (grid : OnGrid anchor period other) : firstFrom anchor period height ≤ other ↔ height ≤ other := by
  rcases Nat.le_total anchor height with above | below
  · obtain ⟨least,close⟩ := firstFrom_bounds positive height above
    refine ⟨fun reached => Nat.le_trans least reached,fun reached => ?_⟩
    by_contra beyond
    have apart := (add_le_iff positive grid (firstFrom_onGrid height)).mpr (Nat.not_le.mp beyond)
    omega
  · rw [firstFrom_before height below]
    exact ⟨fun reached => Nat.le_trans below reached,fun _ => grid.1⟩

/-- What is due separates the heights of the grid: those at which it fired, or which lie before the
first, from those at which it is still to fire. -/
structure Due (anchor period first : Nat) (fired : List Nat) (due : Nat) : Prop where
  grid : OnGrid anchor period due
  separates : ∀ height, OnGrid anchor period height →
    (due ≤ height ↔ first ≤ height ∧ ∀ earlier ∈ fired, earlier < height)

theorem due_first (positive : 0 < period) (first : Nat) :
    Due anchor period first [] (firstFrom anchor period first) where
  grid := firstFrom_onGrid first
  separates height grid := by
    rw [firstFrom_le_iff positive first grid]
    simp

theorem due_again {first due height : Nat} {fired : List Nat} (positive : 0 < period)
    (inv : Due anchor period first fired due) (grid : OnGrid anchor period height) (reached : due ≤ height) :
    Due anchor period first (fired ++ [height]) (height + period) where
  grid := onGrid_add grid
  separates other further := by
    obtain ⟨start,after⟩ := (inv.separates height grid).mp reached
    rw [add_le_iff positive grid further]
    constructor
    · intro later
      refine ⟨by omega,?_⟩
      intro earlier member
      rcases List.mem_append.mp member with before | last
      · exact Nat.lt_trans (after earlier before) later
      · exact (List.mem_singleton.mp last) ▸ later
    · intro beyond
      exact beyond.2 height (List.mem_append_right _ (List.mem_singleton_self height))

/-- Without a last height it fires at the heights of the grid from the first on that lie above all at
which it fired before. -/
theorem firings_append {first : Nat} (positive : 0 < period) (heights : List Nat) (height : Nat) (due : Nat)
    (fired : List Nat) (inv : Due anchor period first fired due) :
    firings anchor period none due (heights ++ [height]) = firings anchor period none due heights ++
      if first ≤ height ∧ OnGrid anchor period height ∧
        (∀ earlier ∈ fired ++ firings anchor period none due heights, earlier < height) then [height] else [] := by
  induction heights generalizing due fired with
  | nil =>
    simp only [List.nil_append,firings,List.append_nil,Option.any_none,Bool.false_eq_true,if_false]
    by_cases grid : OnGrid anchor period height
    · have reached := inv.separates height grid
      by_cases before : height < due
      · rw [if_pos before,if_neg]
        exact fun fires => Nat.not_le.mpr before (reached.mpr ⟨fires.1,fires.2.2⟩)
      · obtain ⟨start,after⟩ := reached.mp (Nat.not_lt.mp before)
        rw [if_neg before,if_pos grid,if_pos ⟨start,grid,after⟩]
    · have silent : ¬(first ≤ height ∧ OnGrid anchor period height ∧ ∀ earlier ∈ fired, earlier < height) :=
        fun fires => grid fires.2.1
      rw [if_neg silent,if_neg grid,ite_self]
  | cons asked heights ih =>
    simp only [List.cons_append,firings,Option.any_none,Bool.false_eq_true,if_false]
    by_cases before : asked < due
    · rw [if_pos before,if_pos before]
      exact ih due fired inv
    · rw [if_neg before,if_neg before]
      by_cases grid : OnGrid anchor period asked
      · rw [if_pos grid,if_pos grid,ih _ _ (due_again positive inv grid (Nat.not_lt.mp before)),List.cons_append,
          List.append_assoc,List.singleton_append]
      · rw [if_neg grid,if_neg grid]
        exact ih due fired inv

theorem le_of_mem_firings (stop : Option Nat) (heights : List Nat) (due : Nat) (height : Nat)
    (member : height ∈ firings anchor period stop due heights) : anchor ≤ height := by
  induction heights generalizing due with
  | nil => cases member
  | cons asked heights ih =>
    unfold firings at member
    split at member
    · exact ih due member
    · split at member
      · split at member
        · next grid => exact (List.mem_singleton.mp member) ▸ grid.1
        · cases member
      · split at member
        · next grid =>
          rcases List.mem_cons.mp member with same | later
          · exact same ▸ grid.1
          · exact ih _ later
        · exact ih due member

/-- It fires up to its last height if and only if it closes in time. -/
theorem firings_le_iff (stop : Nat) (heights : List Nat) (due : Nat) :
    (∀ height ∈ firings anchor period (some stop) due heights, height ≤ stop) ↔
      ClosesInTime anchor period stop due heights := by
  induction heights generalizing due with
  | nil => simp [firings,ClosesInTime]
  | cons asked heights ih =>
    unfold firings ClosesInTime
    simp only [Option.any_some,decide_eq_true_eq]
    by_cases before : asked < due
    · rw [if_pos before,if_pos before]
      exact ih due
    · rw [if_neg before,if_neg before]
      by_cases past : stop ≤ asked
      · rw [if_pos past,if_pos past]
        by_cases grid : OnGrid anchor period asked
        · rw [if_pos grid]
          simp only [List.mem_singleton,forall_eq,grid,not_true_eq_false,or_false]
          omega
        · rw [if_neg grid]
          simp [grid]
      · rw [if_neg past,if_neg past]
        by_cases grid : OnGrid anchor period asked
        · rw [if_pos grid,if_pos grid,List.forall_mem_cons,ih]
          exact ⟨fun both => both.2,fun rest => ⟨by omega,rest⟩⟩
        · rw [if_neg grid,if_neg grid]
          exact ih due

/-- Asked at every height from one on, it fires at every height of the grid. -/
theorem firings_consecutive {first : Nat} (positive : 0 < period) (count : Nat) :
    firings anchor period none (firstFrom anchor period first) (List.range' first count) =
      (List.range' first count).filter (fun height => OnGrid anchor period height) := by
  induction count with
  | zero => rfl
  | succ count ih =>
    rw [List.range'_1_concat,firings_append positive _ _ _ _ (due_first positive first),ih,List.filter_append]
    congr 1
    by_cases grid : OnGrid anchor period (first + count)
    · rw [if_pos,List.filter_cons_of_pos (by simpa using grid)]
      · rfl
      · refine ⟨Nat.le_add_right _ _,grid,?_⟩
        intro earlier member
        have inside := (List.mem_filter.mp member).1
        have range := List.mem_range'_1.mp inside
        exact range.2
    · rw [if_neg (fun fires => grid fires.2.1),List.filter_cons_of_neg (by simpa using grid)]
      rfl

end Warpdrive.Foundation.Periodic
