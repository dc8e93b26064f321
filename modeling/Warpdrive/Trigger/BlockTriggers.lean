import Mathlib.Algebra.Group.Nat.Defs
import Warpdrive.Foundation.Periodic
import Warpdrive.Trigger.Ticks

/-! When the block triggers of a chain fire (`block_scheduler.rs`): on which heights of its ticks a
scheduler reports one, with an end block and without. The additions and subtractions of the scheduler
are also given as a build with overflow checks has them. -/
namespace Warpdrive.Trigger

open Warpdrive.Foundation Warpdrive.Foundation.Periodic Warpdrive.Types

def BlockHeight.toNat (self : BlockHeight) : Nat := self.height.val.toNat

theorem BlockHeight.lt_iff (a b : BlockHeight) : a < b ↔ a.toNat < b.toNat := Iff.rfl

def checkedAdd (a b : UInt64) : Option UInt64 := if a.toNat + b.toNat < 2 ^ 64 then some (a + b) else none

def checkedSub (a b : UInt64) : Option UInt64 := if b.toNat ≤ a.toNat then some (a - b) else none

def checkedMul (a b : UInt64) : Option UInt64 := if a.toNat * b.toNat < 2 ^ 64 then some (a * b) else none

theorem toNat_checkedAdd {a b sum : UInt64} (added : checkedAdd a b = some sum) :
    sum.toNat = a.toNat + b.toNat := by
  unfold checkedAdd at added
  split at added
  · next small =>
    cases added
    rw [UInt64.toNat_add,Nat.mod_eq_of_lt small]
  · cases added

theorem toNat_checkedMul {a b product : UInt64} (multiplied : checkedMul a b = some product) :
    product.toNat = a.toNat * b.toNat := by
  unfold checkedMul at multiplied
  split at multiplied
  · next small =>
    cases multiplied
    rw [UInt64.toNat_mul,Nat.mod_eq_of_lt small]
  · cases multiplied

theorem BlockHeight.ofU64_eq (height : UInt64) (positive : 0 < height.toNat) :
    ∃ block, BlockHeight.ofU64 height = some block ∧ block.toNat = height.toNat := by
  have nonzero : height ≠ 0 := by
    rintro rfl
    exact Nat.lt_irrefl 0 positive
  exact ⟨⟨height,nonzero⟩,dif_pos nonzero,rfl⟩

theorem BlockHeight.ofU64_val (self : BlockHeight) : BlockHeight.ofU64 self.height.val = some self :=
  dif_pos self.height.property

theorem BlockHeight.toNat_pos (self : BlockHeight) : 0 < self.toNat := by
  refine Nat.pos_of_ne_zero (fun zero => self.height.property ?_)
  exact UInt64.toNat_inj.mp zero

def period (interval : NonZeroU32) : Nat := interval.val.toNat

theorem period_pos (interval : NonZeroU32) : 0 < period interval := by
  refine Nat.pos_of_ne_zero (fun zero => interval.property ?_)
  exact UInt32.toNat_inj.mp zero

theorem period_lt (interval : NonZeroU32) : period interval < 2 ^ 32 := interval.val.toNat_lt

namespace BlockIntervalState

/-- `initialize`, without a result where an operation overflows. -/
def initialiseChecked (self : BlockIntervalState) (now : BlockHeight) :
    Option (BlockIntervalState × Option BlockHeight) := do
  let interval := self.interval.val.toUInt64
  let start := (self.startTime.getD now).height.val
  let delta := if now.height.val < start then 0 else now.height.val - start
  let periods := delta / interval + if delta % interval = 0 then 0 else 1
  let past ← checkedMul periods interval
  let next ← checkedAdd start past
  some ({self with kickoffTime := BlockHeight.ofU64 start},BlockHeight.ofU64 next)

/-- `interval_hit`, without a result where an operation overflows. -/
def intervalHitChecked (self : BlockIntervalState) (now : BlockHeight) :
    Option (BlockIntervalState × Option (Option BlockHeight)) :=
  let interval := self.interval.val.toUInt64
  match self.kickoffTime with
  | none => some (self,none)
  | some kickoff => do
    let past ← checkedSub now.height.val kickoff.height.val
    if past % interval = 0 then do
      let next ← checkedAdd now.height.val interval
      some (self,some (BlockHeight.ofU64 next))
    else some (self,none)

/-- The height a trigger counts from, once it is initialised at a height. -/
def anchorAt (self : BlockIntervalState) (now : BlockHeight) : BlockHeight := self.startTime.getD now

/-- How many periods past the start the first due height lies. -/
theorem toNat_periods (interval : NonZeroU32) (start now : BlockHeight) :
    let delta := if now.height.val < start.height.val then 0 else now.height.val - start.height.val
    (delta / interval.val.toUInt64 + if delta % interval.val.toUInt64 = 0 then 0 else 1).toNat =
      (now.toNat - start.toNat) / period interval +
        if (now.toNat - start.toNat) % period interval = 0 then 0 else 1 := by
  intro delta
  have size : interval.val.toUInt64.toNat = period interval := UInt32.toNat_toUInt64 interval.val
  have positive := period_pos interval
  have distance : delta.toNat = now.toNat - start.toNat := by
    unfold delta BlockHeight.toNat
    by_cases before : now.height.val < start.height.val
    · rw [if_pos before]
      have below : now.height.val.toNat < start.height.val.toNat := before
      exact (Nat.sub_eq_zero_of_le (Nat.le_of_lt below)).symm
    · rw [if_neg before,UInt64.toNat_sub_of_le]
      exact UInt64.not_lt.mp before
  have bound : delta.toNat < 2 ^ 64 := delta.toNat_lt
  rw [UInt64.toNat_add,UInt64.toNat_div,size,← distance]
  have whole : (delta % interval.val.toUInt64 = 0) ↔ delta.toNat % period interval = 0 := by
    rw [← UInt64.toNat_inj,UInt64.toNat_mod,size]
    rfl
  by_cases even : delta.toNat % period interval = 0
  · rw [if_pos (whole.mpr even),if_pos even]
    have small : delta.toNat / period interval ≤ delta.toNat := Nat.div_le_self _ _
    exact Nat.mod_eq_of_lt (by simpa using Nat.lt_of_le_of_lt small bound)
  · rw [if_neg (fun zero => even (whole.mp zero)),if_neg even]
    have two : 2 ≤ period interval := by
      by_contra one
      have unit : period interval = 1 := by omega
      exact even (by rw [unit,Nat.mod_one])
    have half : delta.toNat / period interval ≤ delta.toNat / 2 := Nat.div_le_div_left two (by decide)
    have one : (1 : UInt64).toNat = 1 := rfl
    rw [one]
    exact Nat.mod_eq_of_lt (by omega)

/-- A trigger that is initialised without an overflow is due at the first height of its grid. -/
theorem initialise_due (self : BlockIntervalState) (now : BlockHeight)
    (exact : self.initialiseChecked now = some (self.initialise now)) :
    ∃ due, self.initialise now = ({self with kickoffTime := some (self.anchorAt now)},some due) ∧
      due.toNat = firstFrom (self.anchorAt now).toNat (period self.interval) now.toNat := by
  have count := toNat_periods self.interval (self.startTime.getD now) now
  have size : self.interval.val.toUInt64.toNat = period self.interval := UInt32.toNat_toUInt64 self.interval.val
  unfold initialiseChecked at exact
  simp only [Option.bind_eq_bind,Option.bind_eq_some_iff] at exact
  obtain ⟨past,multiplied,next,added,same⟩ := exact
  have product := toNat_checkedMul multiplied
  have sum := toNat_checkedAdd added
  rw [count,size] at product
  rw [product] at sum
  have positive : 0 < next.toNat := by
    rw [sum]
    exact Nat.add_pos_left (self.startTime.getD now).toNat_pos _
  obtain ⟨due,held,value⟩ := BlockHeight.ofU64_eq next positive
  refine ⟨due,?_,value.trans sum⟩
  rw [← Option.some.inj same,held,BlockHeight.ofU64_val]
  rfl

/-- An initialisation overflows only past the first height of the grid. -/
theorem initialiseChecked_eq (self : BlockIntervalState) (now : BlockHeight)
    (small : firstFrom (self.anchorAt now).toNat (period self.interval) now.toNat < 2 ^ 64) :
    self.initialiseChecked now = some (self.initialise now) := by
  have count := toNat_periods self.interval (self.startTime.getD now) now
  have size : self.interval.val.toUInt64.toNat = period self.interval := UInt32.toNat_toUInt64 self.interval.val
  unfold initialiseChecked initialise
  dsimp only at count ⊢
  generalize (if now.height.val < (self.startTime.getD now).height.val then 0
    else now.height.val - (self.startTime.getD now).height.val) = delta at count ⊢
  generalize (delta / self.interval.val.toUInt64 + if delta % self.interval.val.toUInt64 = 0 then 0 else 1) =
    periods at count ⊢
  have total : (self.startTime.getD now).toNat + periods.toNat * self.interval.val.toUInt64.toNat < 2 ^ 64 := by
    rw [count,size]
    exact small
  have multiplied : checkedMul periods self.interval.val.toUInt64 =
      some (periods * self.interval.val.toUInt64) := if_pos (by omega)
  have added : checkedAdd (self.startTime.getD now).height.val (periods * self.interval.val.toUInt64) =
      some ((self.startTime.getD now).height.val + periods * self.interval.val.toUInt64) := by
    refine if_pos ?_
    rw [UInt64.toNat_mul,Nat.mod_eq_of_lt (by omega)]
    exact total
  rw [multiplied]
  dsimp only [Option.bind_eq_bind,Option.bind_some]
  rw [added]
  rfl

theorem past_mod (interval : NonZeroU32) (kickoff now : BlockHeight) (above : kickoff.toNat ≤ now.toNat) :
    (now.height.val - kickoff.height.val) % interval.val.toUInt64 = 0 ↔
      OnGrid kickoff.toNat (period interval) now.toNat := by
  have size : interval.val.toUInt64.toNat = period interval := UInt32.toNat_toUInt64 interval.val
  have below : kickoff.height.val ≤ now.height.val := above
  rw [← UInt64.toNat_inj,UInt64.toNat_mod,UInt64.toNat_sub_of_le _ _ below,size]
  exact ⟨fun zero => ⟨above,Nat.dvd_of_mod_eq_zero zero⟩,fun grid => Nat.mod_eq_zero_of_dvd grid.2⟩

theorem intervalHit_off (self : BlockIntervalState) (kickoff now : BlockHeight)
    (started : self.kickoffTime = some kickoff) (above : kickoff.toNat ≤ now.toNat)
    (off : ¬OnGrid kickoff.toNat (period self.interval) now.toNat) :
    self.intervalHit now = (self,none) ∧ self.intervalHitChecked now = some (self,none) := by
  have uneven := mt (past_mod self.interval kickoff now above).mp off
  have subtracted : checkedSub now.height.val kickoff.height.val =
      some (now.height.val - kickoff.height.val) := if_pos above
  unfold intervalHit intervalHitChecked
  rw [started]
  dsimp only
  rw [subtracted,if_neg uneven,Option.bind_eq_bind,Option.bind_some,if_neg uneven]
  exact ⟨rfl,rfl⟩

theorem intervalHitChecked_on (self : BlockIntervalState) (kickoff now : BlockHeight)
    (started : self.kickoffTime = some kickoff) (grid : OnGrid kickoff.toNat (period self.interval) now.toNat) :
    self.intervalHitChecked now = (checkedAdd now.height.val self.interval.val.toUInt64).map
        (fun next => (self,some (BlockHeight.ofU64 next))) ∧
      self.intervalHit now = (self,some (BlockHeight.ofU64 (now.height.val + self.interval.val.toUInt64))) := by
  have even := (past_mod self.interval kickoff now grid.1).mpr grid
  have subtracted : checkedSub now.height.val kickoff.height.val =
      some (now.height.val - kickoff.height.val) := if_pos grid.1
  unfold intervalHit intervalHitChecked
  rw [started]
  dsimp only
  rw [subtracted,if_pos even,Option.bind_eq_bind,Option.bind_some,if_pos even]
  refine ⟨?_,rfl⟩
  cases checkedAdd now.height.val self.interval.val.toUInt64 <;> rfl

/-- A hit without an overflow makes the trigger due a period later. -/
theorem intervalHit_on (self : BlockIntervalState) (kickoff now : BlockHeight)
    (started : self.kickoffTime = some kickoff) (grid : OnGrid kickoff.toNat (period self.interval) now.toNat)
    (exact : self.intervalHitChecked now = some (self.intervalHit now)) :
    ∃ due, self.intervalHit now = (self,some (some due)) ∧ due.toNat = now.toNat + period self.interval := by
  have size : self.interval.val.toUInt64.toNat = period self.interval := UInt32.toNat_toUInt64 self.interval.val
  obtain ⟨checked,hit⟩ := intervalHitChecked_on self kickoff now started grid
  rw [checked] at exact
  obtain ⟨next,added,same⟩ := Option.map_eq_some_iff.mp exact
  have sum := toNat_checkedAdd added
  rw [size] at sum
  have positive : 0 < next.toNat := by
    rw [sum]
    exact Nat.add_pos_right _ (period_pos self.interval)
  obtain ⟨due,held,value⟩ := BlockHeight.ofU64_eq next positive
  refine ⟨due,?_,value.trans sum⟩
  rw [← same,held]

theorem intervalHitChecked_eq (self : BlockIntervalState) (kickoff now : BlockHeight)
    (started : self.kickoffTime = some kickoff) (above : kickoff.toNat ≤ now.toNat)
    (small : now.toNat + period self.interval < 2 ^ 64) :
    self.intervalHitChecked now = some (self.intervalHit now) := by
  by_cases grid : OnGrid kickoff.toNat (period self.interval) now.toNat
  · obtain ⟨checked,hit⟩ := intervalHitChecked_on self kickoff now started grid
    have size : self.interval.val.toUInt64.toNat = period self.interval :=
      UInt32.toNat_toUInt64 self.interval.val
    have added : checkedAdd now.height.val self.interval.val.toUInt64 =
        some (now.height.val + self.interval.val.toUInt64) := by
      refine if_pos ?_
      rw [size]
      exact small
    rw [checked,hit,added]
    rfl
  · obtain ⟨hit,checked⟩ := intervalHit_off self kickoff now started above grid
    rw [checked,hit]

end BlockIntervalState

/-- No operation overflows when a tick takes a trigger from its place. -/
def ExactAt (now : BlockHeight) : Option BlockHeight × BlockIntervalState → Prop
  | (some dueAt,state) => ¬now < dueAt → state.intervalHitChecked now = some (state.intervalHit now)
  | (none,state) =>
    state.initialiseChecked now = some (state.initialise now) ∧
      match state.initialise now with
      | (state,some dueAt) => ¬now < dueAt → state.intervalHitChecked now = some (state.intervalHit now)
      | (_,none) => True

namespace BlockScheduler

open IntervalScheduler

def NoOverflow (self : BlockScheduler) (id : LookupId) : List (Act BlockHeight BlockIntervalState) → Prop
  | [] => True
  | act::acts =>
    (∀ now ∈ act.time, ∀ place ∈ self.placesOf blockInterval id, ExactAt now place) ∧
      NoOverflow (self.apply blockInterval act).2 id acts

def ExactRun (place : Option (Option BlockHeight × BlockIntervalState)) : List BlockHeight → Prop
  | [] => True
  | now::times =>
    (∀ held ∈ place, ExactAt now held) ∧ ExactRun (follow blockInterval place now).2 times

theorem exactRun_nowhere (times : List BlockHeight) : ExactRun none times := by
  induction times with
  | nil => trivial
  | cons now times ih => exact ⟨by simp,ih⟩

theorem exactRun_cons (place : Option (Option BlockHeight × BlockIntervalState)) (now : BlockHeight)
    (times : List BlockHeight) : ExactRun place (now::times) ↔
      (∀ held ∈ place, ExactAt now held) ∧ ExactRun (follow blockInterval place now).2 times := Iff.rfl

theorem noOverflow_iff (self : BlockScheduler) (id : LookupId)
    (place : Option (Option BlockHeight × BlockIntervalState)) (held : self.Holds blockInterval id place)
    (acts : List (Act BlockHeight BlockIntervalState)) (kept : .remove id ∉ acts) :
    NoOverflow self id acts ↔ ExactRun place (ticks acts) := by
  induction acts generalizing self place with
  | nil => exact Iff.rfl
  | cons act acts ih =>
    have stays : act ≠ .remove id := fun same => kept (same ▸ List.mem_cons_self)
    have next := (holds_apply blockInterval_lawful self id place held act stays).1
    have later := ih _ _ next (fun member => kept (List.mem_cons_of_mem act member))
    unfold NoOverflow
    rw [later,held.places]
    unfold ticks
    rw [List.filterMap_cons]
    cases timed : act.time with
    | none => simp
    | some now =>
      rw [exactRun_cons]
      simp

theorem follow_running (state : BlockIntervalState) (kickoff now due : BlockHeight)
    (started : state.kickoffTime = some kickoff)
    (grid : OnGrid kickoff.toNat (period state.interval) due.toNat) (exact : ExactAt now (some due,state))
    (reached : ¬now < due) : ∃ again : BlockHeight,
      again.toNat = (if OnGrid kickoff.toNat (period state.interval) now.toNat then
        now.toNat + period state.interval else due.toNat) ∧
      follow blockInterval (some (some due,state)) now =
        (if OnGrid kickoff.toNat (period state.interval) now.toNat then some due else none,
          if state.endTime.any (fun stop => !decide (now < stop)) then none else some (some again,state)) := by
  have above : kickoff.toNat ≤ now.toNat := Nat.le_trans grid.1 (Nat.not_lt.mp reached)
  have ends : ∀ outcome : Option (Option BlockHeight), dueAgain blockInterval now due state outcome =
      if state.endTime.any (fun stop => !decide (now < stop)) then none else outcome.getD (some due) := by
    intro outcome
    have last : blockInterval.endTime state = state.endTime := rfl
    unfold dueAgain
    rw [last]
    cases state.endTime with
    | none => rfl
    | some stop => by_cases inside : now < stop <;> simp [inside]
  have settled : ∀ (outcome : Option (Option BlockHeight)), state.intervalHit now = (state,outcome) →
      follow blockInterval (some (some due,state)) now = (outcome.map (fun _ => due),
        if state.endTime.any (fun stop => !decide (now < stop)) then none
        else (outcome.getD (some due)).map (fun time => (some time,state))) := by
    intro outcome called
    have placed := settle_due blockInterval now due state state outcome reached called
    rw [follow_added,placed,ends]
    refine Prod.ext ?_ ?_
    · cases outcome <;> rfl
    · dsimp only
      split <;> rfl
  by_cases hit : OnGrid kickoff.toNat (period state.interval) now.toNat
  · obtain ⟨again,called,value⟩ := state.intervalHit_on kickoff now started hit (exact reached)
    refine ⟨again,?_,?_⟩
    · rw [if_pos hit,value]
    · rw [settled _ called,if_pos hit]
      rfl
  · have called := (state.intervalHit_off kickoff now started above hit).1
    refine ⟨due,?_,?_⟩
    · rw [if_neg hit]
    · rw [settled _ called,if_neg hit]
      rfl

theorem follow_before (state : BlockIntervalState) (now due : BlockHeight) (before : now < due) :
    follow blockInterval (some (some due,state)) now = (none,some (some due,state)) := by
  rw [follow_added,settle_later blockInterval now due state before]
  rfl

/-- A trigger that was initialised fires at the heights its grid and its end give. -/
theorem firesAt_running (state : BlockIntervalState) (kickoff : BlockHeight)
    (started : state.kickoffTime = some kickoff) (times : List BlockHeight) (due : BlockHeight)
    (grid : OnGrid kickoff.toNat (period state.interval) due.toNat)
    (exact : ExactRun (some (some due,state)) times) :
    (firesAt blockInterval (some (some due,state)) times).map BlockHeight.toNat =
      firings kickoff.toNat (period state.interval) (state.endTime.map BlockHeight.toNat) due.toNat
        (times.map BlockHeight.toNat) := by
  induction times generalizing due with
  | nil => rfl
  | cons now times ih =>
    obtain ⟨step,rest⟩ := exact
    rw [firesAt_cons,List.map_cons]
    unfold firings
    by_cases before : now < due
    · rw [follow_before state now due before] at rest ⊢
      rw [if_pos ((BlockHeight.lt_iff now due).mp before)]
      exact ih due grid rest
    · obtain ⟨again,value,followed⟩ := follow_running state kickoff now due started grid (step _ rfl) before
      rw [followed] at rest ⊢
      rw [if_neg (mt (BlockHeight.lt_iff now due).mpr before)]
      have ends : (state.endTime.map BlockHeight.toNat).any (fun stop => decide (stop ≤ now.toNat)) =
          state.endTime.any (fun stop => !decide (now < stop)) := by
        cases state.endTime with
        | none => rfl
        | some stop =>
          by_cases past : stop.toNat ≤ now.toNat
          · simp [past,BlockHeight.lt_iff]
          · have inside := Nat.not_le.mp past
            simp [past,inside,BlockHeight.lt_iff]
      rw [ends]
      by_cases past : state.endTime.any (fun stop => !decide (now < stop))
      · have nothing : firesAt blockInterval none times = [] := congrArg (List.map Prod.fst) (logAt_nowhere blockInterval times)
        rw [if_pos past,if_pos past,nothing]
        split <;> rfl
      · rw [if_neg past] at rest ⊢
        rw [if_neg past]
        by_cases hit : OnGrid kickoff.toNat (period state.interval) now.toNat
        · rw [if_pos hit] at value ⊢
          have further : OnGrid kickoff.toNat (period state.interval) again.toNat := value ▸ onGrid_add hit
          rw [if_pos hit,← value,← ih again further rest]
          rfl
        · rw [if_neg hit] at value ⊢
          have same : OnGrid kickoff.toNat (period state.interval) again.toNat := value ▸ grid
          rw [if_neg hit,← value,← ih again same rest]
          rfl

/-- Nothing overflows where no height is within a period of the largest. -/
theorem exactRun_running (state : BlockIntervalState) (kickoff : BlockHeight)
    (started : state.kickoffTime = some kickoff) (times : List BlockHeight)
    (bounded : ∀ now ∈ times, now.toNat + period state.interval < 2 ^ 64) (due : BlockHeight)
    (grid : OnGrid kickoff.toNat (period state.interval) due.toNat) :
    ExactRun (some (some due,state)) times := by
  induction times generalizing due with
  | nil => trivial
  | cons now times ih =>
    obtain ⟨small,rest⟩ := List.forall_mem_cons.mp bounded
    have exact : ExactAt now (some due,state) := fun reached =>
      state.intervalHitChecked_eq kickoff now started (Nat.le_trans grid.1 (Nat.not_lt.mp reached)) small
    refine ⟨fun held same => ?_,?_⟩
    · cases same
      exact exact
    · by_cases before : now < due
      · rw [follow_before state now due before]
        exact ih rest due grid
      · obtain ⟨again,value,followed⟩ := follow_running state kickoff now due started grid exact before
        rw [followed]
        dsimp only
        split
        · exact exactRun_nowhere times
        · apply ih rest
          rw [value]
          split
          · next hit => exact onGrid_add hit
          · exact grid

/-- The first tick of a trigger is the tick of the trigger once it is initialised. -/
theorem follow_waiting (state after : BlockIntervalState) (now due : BlockHeight)
    (begins : state.initialise now = (after,some due)) :
    follow blockInterval (some (none,state)) now = follow blockInterval (some (some due,after)) now := by
  have same : advance blockInterval now (none,state) = settle blockInterval now due after := by
    have first : blockInterval.initialise state now = (after,some due) := begins
    rw [advance_unadded,first]
  rw [follow_added]
  unfold follow
  rw [Option.bind_some,Option.bind_some,same]

/-- A trigger that waits for its first tick fires at the heights of the grid from that tick on. -/
theorem firesAt_waiting (state : BlockIntervalState) (times : List BlockHeight) (other : BlockHeight)
    (exact : ExactRun (some (none,state)) times) :
    let first := times.head?.getD other
    (firesAt blockInterval (some (none,state)) times).map BlockHeight.toNat =
      firings (state.anchorAt first).toNat (period state.interval) (state.endTime.map BlockHeight.toNat)
        (firstFrom (state.anchorAt first).toNat (period state.interval) first.toNat)
        (times.map BlockHeight.toNat) := by
  intro first
  cases times with
  | nil => rfl
  | cons now times =>
    obtain ⟨step,rest⟩ := (exactRun_cons _ _ _).mp exact
    obtain ⟨begins,hit⟩ : ExactAt now (none,state) := step _ rfl
    obtain ⟨due,initialised,value⟩ := state.initialise_due now begins
    rw [initialised] at hit
    have started : ExactRun (some (some due,{state with kickoffTime := some (state.anchorAt now)}))
        (now::times) := by
      refine ⟨fun held same => ?_,?_⟩
      · cases same
        exact hit
      · rw [← follow_waiting state _ now due initialised]
        exact rest
    have grid : OnGrid (state.anchorAt now).toNat (period state.interval) due.toNat :=
      value ▸ firstFrom_onGrid now.toNat
    have same : first = now := rfl
    rw [firesAt_cons,follow_waiting state _ now due initialised,← firesAt_cons,same,← value]
    exact firesAt_running _ _ rfl (now::times) due grid started

theorem exactRun_waiting (state : BlockIntervalState) (times : List BlockHeight)
    (bounded : ∀ now ∈ times, now.toNat + period state.interval < 2 ^ 64) :
    ExactRun (some (none,state)) times := by
  cases times with
  | nil => trivial
  | cons first times =>
    have small : firstFrom (state.anchorAt first).toNat (period state.interval) first.toNat < 2 ^ 64 := by
      rcases Nat.le_total (state.anchorAt first).toNat first.toNat with above | below
      · have close := (firstFrom_bounds (period_pos state.interval) first.toNat above).2
        exact Nat.lt_trans close (bounded first List.mem_cons_self)
      · rw [firstFrom_before first.toNat below]
        exact (state.anchorAt first).height.val.toNat_lt
    have begins := state.initialiseChecked_eq first small
    obtain ⟨due,initialised,value⟩ := state.initialise_due first begins
    have grid : OnGrid (state.anchorAt first).toNat (period state.interval) due.toNat :=
      value ▸ firstFrom_onGrid first.toNat
    obtain ⟨hit,rest⟩ := (exactRun_cons _ _ _).mp (exactRun_running
      {state with kickoffTime := some (state.anchorAt first)} _ rfl (first::times) bounded due grid)
    refine ⟨fun held same => ?_,?_⟩
    · cases same
      refine ⟨begins,?_⟩
      rw [initialised]
      exact hit _ rfl
    · rw [follow_waiting state _ first due initialised]
      exact rest

theorem singleton_iff {p q : Prop} [Decidable p] [Decidable q] {now : BlockHeight}
    (same : (if p then [now] else []).map BlockHeight.toNat = if q then [now.toNat] else []) : p ↔ q := by
  by_cases left : p
  · by_cases right : q
    · exact ⟨fun _ => right,fun _ => left⟩
    · rw [if_pos left,if_neg right] at same
      cases same
  · by_cases right : q
    · rw [if_neg left,if_pos right] at same
      cases same
    · exact ⟨fun holds => absurd holds left,fun holds => absurd holds right⟩

/-- A block trigger without an end block is reported at the heights a multiple of its interval past its
start, from its first tick on, that lie above every height at which it was reported; on consecutive
heights at all of these. Nothing overflows on the way. -/
theorem reported_without_end (before : List (Act BlockHeight BlockIntervalState)) (id : LookupId)
    (interval : NonZeroU32) (start : Option BlockHeight) (next : BlockScheduler)
    (added : ((IntervalScheduler.new : BlockScheduler).after blockInterval before).addTrigger blockInterval
      (.new id interval start none) = .ok (true,next))
    (acts : List (Act BlockHeight BlockIntervalState)) (now : BlockHeight) (kept : .remove id ∉ acts)
    (bounded : ∀ time ∈ ticks acts ++ [now], time.toNat ≤ 2 ^ 64 - 2 ^ 33) :
    let first := ((ticks acts).head?.getD now).toNat
    let anchor := (start.map BlockHeight.toNat).getD first
    (reportsOf id ((next.after blockInterval acts).tick blockInterval now).1).length =
        (if max anchor first ≤ now.toNat ∧ period interval ∣ now.toNat - anchor ∧
          ∀ fired ∈ next.firedAt blockInterval id acts, fired < now then 1 else 0) ∧
      (∀ count, (ticks acts).map BlockHeight.toNat = List.range' first count →
        (next.firedAt blockInterval id acts).map BlockHeight.toNat = (List.range' first count).filter
          (fun height => anchor ≤ height ∧ period interval ∣ height - anchor)) ∧
      NoOverflow next id (acts ++ [.tick now]) := by
  intro first anchor
  have lawful := blockInterval_lawful
  have positive := period_pos interval
  have known := known_after lawful _ (known_new blockInterval) before
  have holds : next.Holds blockInterval id (some (none,.new id interval start none)) :=
    holds_added _ next known _ added
  have small : ∀ time ∈ ticks acts ++ [now], time.toNat + period interval < 2 ^ 64 := by
    intro time member
    have most := bounded time member
    have less := period_lt interval
    omega
  have exact := exactRun_waiting (.new id interval start none) _ small
  have earlier := exactRun_waiting (.new id interval start none) (ticks acts)
    (fun time member => small time (List.mem_append_left _ member))
  have from_ : (ticks acts ++ [now]).head?.getD now = (ticks acts).head?.getD now := by
    cases ticks acts <;> rfl
  have anchored : ((BlockIntervalState.new id interval start none).anchorAt ((ticks acts).head?.getD now)).toNat =
      anchor := by
    cases start <;> rfl
  have fired := firesAt_waiting (.new id interval start none) (ticks acts) now earlier
  have whole := firesAt_waiting (.new id interval start none) (ticks acts ++ [now]) now exact
  dsimp only at fired whole
  rw [from_,anchored] at whole
  rw [anchored] at fired
  change (firesAt blockInterval (some (none,.new id interval start none)) (ticks acts)).map BlockHeight.toNat =
    firings anchor (period interval) none (firstFrom anchor (period interval) first)
      ((ticks acts).map BlockHeight.toNat) at fired
  change (firesAt blockInterval (some (none,.new id interval start none)) (ticks acts ++ [now])).map
      BlockHeight.toNat =
    firings anchor (period interval) none (firstFrom anchor (period interval) first)
      ((ticks acts ++ [now]).map BlockHeight.toNat) at whole
  refine ⟨?_,?_,?_⟩
  · have one : (reportsOf id ((next.after blockInterval acts).tick blockInterval now).1).length =
        if (follow blockInterval (followAll blockInterval (some (none,.new id interval start none))
          (ticks acts)) now).1.isSome then 1 else 0 := by
      rw [reports_after lawful next id _ holds acts kept]
      cases (follow blockInterval (followAll blockInterval (some (none,.new id interval start none))
        (ticks acts)) now).1 <;> rfl
    rw [one,firedAt_eq lawful next id _ holds acts kept]
    rw [firesAt_append,List.map_append,fired,List.map_append,List.map_singleton] at whole
    have split := whole.trans (firings_append positive _ now.toNat _ [] (due_first positive first))
    have last := List.append_cancel_left split
    have order : (∀ earlier ∈ [] ++ firings anchor (period interval) none
          (firstFrom anchor (period interval) first) ((ticks acts).map BlockHeight.toNat), earlier < now.toNat) ↔
        ∀ fired ∈ firesAt blockInterval (some (none,.new id interval start none)) (ticks acts), fired < now := by
      rw [List.nil_append,← fired,List.forall_mem_map]
      exact Iff.rfl
    refine if_congr ((singleton_iff last).trans ?_) rfl rfl
    rw [order,Nat.max_le]
    unfold OnGrid
    tauto
  · intro count consecutive
    rw [firedAt_eq lawful next id _ holds acts kept,fired,consecutive]
    exact firings_consecutive positive count
  · have stays : .remove id ∉ acts ++ [.tick now] := by simpa using kept
    have times : ticks (acts ++ [.tick now]) = ticks acts ++ [now] := List.filterMap_append
    rw [noOverflow_iff next id _ holds _ stays,times]
    exact exact

theorem reported_without_end_example :
    let height (n : UInt64) (nonzero : n ≠ 0) : BlockHeight := ⟨n,nonzero⟩
    let next : BlockScheduler := ⟨⟨[],List.Pairwise.nil⟩,[.new 7 ⟨3,by decide⟩ (some (height 2 (by decide))) none],
      HashSet.empty.insert 7⟩
    (reportsOf 7 ((next.after blockInterval [.tick (height 4 (by decide)),.tick (height 5 (by decide))]).tick
      blockInterval (height 8 (by decide))).1).length = 1 := by
  intro height next
  have reported := (reported_without_end [] 7 ⟨3,by decide⟩ (some (height 2 (by decide))) next rfl
    [.tick (height 4 (by decide)),.tick (height 5 (by decide))] (height 8 (by decide)) (by simp) (by decide)).1
  exact reported.trans (by decide)

/-- No block trigger is reported below its start block, and one with an end block is not reported above it
if and only if it closes in time. -/
theorem reported_within_window (before : List (Act BlockHeight BlockIntervalState)) (id : LookupId)
    (interval : NonZeroU32) (start stop : Option BlockHeight) (next : BlockScheduler)
    (added : ((IntervalScheduler.new : BlockScheduler).after blockInterval before).addTrigger blockInterval
      (.new id interval start stop) = .ok (true,next))
    (acts : List (Act BlockHeight BlockIntervalState)) (kept : .remove id ∉ acts)
    (exact : NoOverflow next id acts) :
    (∀ fired ∈ next.firedAt blockInterval id acts,
        (∀ height ∈ start, ¬fired < height) ∧ ∀ height ∈ stop, ¬height < fired) ↔
      ∀ height ∈ stop, ∀ first ∈ (ticks acts).head?,
        let anchor := (start.getD first).toNat
        ClosesInTime anchor (period interval) height.toNat (firstFrom anchor (period interval) first.toNat)
          ((ticks acts).map BlockHeight.toNat) := by
  have lawful := blockInterval_lawful
  have known := known_after lawful _ (known_new blockInterval) before
  have holds : next.Holds blockInterval id (some (none,.new id interval start stop)) :=
    holds_added _ next known _ added
  have run := (noOverflow_iff next id _ holds acts kept).mp exact
  rw [firedAt_eq lawful next id _ holds acts kept]
  generalize ticks acts = times at run ⊢
  cases times with
  | nil => simp [firesAt,logAt]
  | cons first times =>
    have fired : (firesAt blockInterval (some (none,.new id interval start stop)) (first::times)).map
        BlockHeight.toNat =
        firings (start.getD first).toNat (period interval) (stop.map BlockHeight.toNat)
          (firstFrom (start.getD first).toNat (period interval) first.toNat)
          ((first::times).map BlockHeight.toNat) := firesAt_waiting _ (first::times) first run
    have below : ∀ fires ∈ firesAt blockInterval (some (none,.new id interval start stop)) (first::times),
        ∀ height ∈ start, ¬fires < height := by
      intro fires member height given
      have inside := List.mem_map_of_mem (f := BlockHeight.toNat) member
      rw [fired] at inside
      have above := le_of_mem_firings _ _ _ _ inside
      rw [Option.mem_def.mp given] at above
      exact Nat.not_lt.mpr above
    have ends : (∀ fires ∈ firesAt blockInterval (some (none,.new id interval start stop)) (first::times),
          ∀ height ∈ stop, ¬height < fires) ↔
        ∀ height ∈ stop, ClosesInTime (start.getD first).toNat (period interval) height.toNat
          (firstFrom (start.getD first).toNat (period interval) first.toNat)
          ((first::times).map BlockHeight.toNat) := by
      cases stop with
      | none => simp
      | some stop =>
        have closes : (∀ height ∈ firings (start.getD first).toNat (period interval) (some stop.toNat)
              (firstFrom (start.getD first).toNat (period interval) first.toNat)
              ((first::times).map BlockHeight.toNat), height ≤ stop.toNat) ↔ _ := firings_le_iff _ _ _
        rw [Option.map_some] at fired
        rw [← fired,List.forall_mem_map] at closes
        simp only [Option.mem_def,Option.some.injEq,forall_eq']
        rw [← closes]
        exact forall₂_congr (fun fires _ => Nat.not_lt)
    constructor
    · intro window height given other same
      cases same
      exact ends.mp (fun fires member => (window fires member).2) height given
    · intro closes fires member
      exact ⟨below fires member,ends.mpr (fun height given => closes height given first rfl) fires member⟩

theorem reported_within_window_example :
    let height (n : UInt64) (nonzero : n ≠ 0) : BlockHeight := ⟨n,nonzero⟩
    let next : BlockScheduler := ⟨⟨[],List.Pairwise.nil⟩,[.new 7 ⟨3,by decide⟩ (some (height 2 (by decide)))
      (some (height 8 (by decide)))],HashSet.empty.insert 7⟩
    ∀ fired ∈ next.firedAt blockInterval 7 [.tick (height 4 (by decide)),.tick (height 5 (by decide)),
      .tick (height 9 (by decide)),.tick (height 11 (by decide))], ¬height 8 (by decide) < fired := by
  intro height next
  have exact : NoOverflow next 7 [.tick (height 4 (by decide)),.tick (height 5 (by decide)),
      .tick (height 9 (by decide)),.tick (height 11 (by decide))] := by
    have holds : next.Holds blockInterval 7 (some (none,.new 7 ⟨3,by decide⟩ (some (height 2 (by decide)))
      (some (height 8 (by decide))))) := ⟨(HashSet.mem_insert _ _ _).mpr (.inl rfl),rfl⟩
    exact (noOverflow_iff next 7 _ holds _ (by simp)).mpr (exactRun_waiting _ _ (by decide))
  have window := (reported_within_window [] 7 ⟨3,by decide⟩ (some (height 2 (by decide)))
    (some (height 8 (by decide))) next rfl _ (by simp) exact).mpr (by
      intro stop given first same
      cases given
      cases same
      decide)
  exact fun fired member => (window fired member).2 _ rfl

theorem reported_past_end :
    let height (n : UInt64) (nonzero : n ≠ 0) : BlockHeight := ⟨n,nonzero⟩
    ∃ next, (IntervalScheduler.new : BlockScheduler).addTrigger blockInterval (.new 7 ⟨3,by decide⟩
        (some (height 2 (by decide))) (some (height 10 (by decide)))) = .ok (true,next) ∧
      height 11 (by decide) ∈ next.firedAt blockInterval 7 [.tick (height 2 (by decide)),
        .tick (height 5 (by decide)),.tick (height 8 (by decide)),.tick (height 11 (by decide))] ∧
      height 10 (by decide) < height 11 (by decide) := by
  intro height
  refine ⟨⟨⟨[],List.Pairwise.nil⟩,[.new 7 ⟨3,by decide⟩ (some (height 2 (by decide)))
    (some (height 10 (by decide)))],HashSet.empty.insert 7⟩,rfl,?_,by decide⟩
  decide

end BlockScheduler
end Warpdrive.Trigger
