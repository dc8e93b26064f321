import Mathlib.Algebra.Group.Nat.Defs
import Warpdrive.Foundation.Backlog
import Warpdrive.Trigger.Ticks

/-! Which times of its schedule a cron trigger is reported for (`cron_scheduler.rs`). A tick reports one
time at most, so that a slow clock leaves a backlog. -/
namespace Warpdrive.Trigger

open Warpdrive.Foundation Warpdrive.Foundation.Backlog Warpdrive.Types

instance : IsStrictTotalOrder Timestamp (· < ·) where
  irrefl a := Nat.lt_irrefl a.nanos.toNat
  trans _ _ _ := Nat.lt_trans
  trichotomous a b below above := by
    have equal : a.nanos.toNat = b.nanos.toNat :=
      Nat.le_antisymm (Nat.not_lt.mp above) (Nat.not_lt.mp below)
    have same : a.nanos = b.nanos := UInt64.toNat_inj.mp equal
    cases a
    cases b
    exact congrArg Timestamp.mk same

/-- The crate yields the members of a schedule after a time in strictly ascending order. A timestamp past
the largest `i64` is not the datetime that it is converted to. -/
structure CronLib.Yields (cron : CronLib) (schedule : String) (member : Timestamp → Prop) : Prop where
  after : ∀ time : Timestamp, time.nanos.toNat < 2 ^ 63 → ∃ times : List Timestamp,
    times.Pairwise (· < ·) ∧ (∀ other, other ∈ times ↔ member other ∧ time < other) ∧
      ∀ count other, cron.after schedule time count = some (.ok other) ↔ times[count]? = some other

/-- A crate whose schedule has these members. -/
def CronLib.listing (times : List Timestamp) : CronLib where
  parse _ := .ok ()
  after _ time count := (times.filter (fun other => time < other))[count]?.map .ok

theorem CronLib.listing_yields (times : List Timestamp) (ascending : times.Pairwise (· < ·)) (schedule : String) :
    (CronLib.listing times).Yields schedule (· ∈ times) where
  after time _ := by
    refine ⟨times.filter (fun other => time < other),ascending.filter _,fun other => ?_,fun count other => ?_⟩
    · simp
    · simp [listing]

namespace CronIntervalState

variable (cron : CronLib)

/-- The time a schedule is read from, when the first tick is at a time. -/
def effectiveNow (startTime : Option Timestamp) (now : Timestamp) : Timestamp :=
  match startTime with
  | some start => if now < start then start else now
  | none => now

/-- The time an iterator yields, unless it lies past the end. -/
def within (stop : Option Timestamp) : Option (Except String Timestamp) → Option Timestamp
  | some (.ok time) => if stop.any (fun stop => decide (stop < time)) then none else some time
  | some (.error _) => none
  | none => none

/-- The times up to the end that the iterator of a state is still to yield. -/
def Remaining (state : CronIntervalState) (rest : List Timestamp) : Prop :=
  ∃ anchor count, state.iterator = some (anchor,count) ∧
    ∀ further, within state.endTime (cron.after state.schedule anchor (count + further)) = rest[further]?

theorem setNextTriggerTime_eq (state : CronIntervalState) (anchor : Timestamp) (count : Nat)
    (iterator : state.iterator = some (anchor,count)) :
    state.setNextTriggerTime cron = {state with
      iterator := some (anchor,count + 1)
      nextTriggerTime := within state.endTime (cron.after state.schedule anchor count)} := by
  unfold setNextTriggerTime
  rw [iterator]
  dsimp only
  cases cron.after state.schedule anchor count with
  | none => rfl
  | some yielded =>
    cases yielded with
    | error reason => rfl
    | ok time =>
      dsimp only [within]
      cases state.endTime with
      | none => rfl
      | some stop => by_cases past : stop < time <;> simp [past]

theorem setNextTriggerTime_next (state : CronIntervalState) (rest : List Timestamp)
    (remaining : Remaining cron state rest) :
    (state.setNextTriggerTime cron).nextTriggerTime = rest.head? ∧
      (state.setNextTriggerTime cron).endTime = state.endTime ∧
      Remaining cron (state.setNextTriggerTime cron) rest.tail := by
  obtain ⟨anchor,count,iterator,yields⟩ := remaining
  rw [setNextTriggerTime_eq cron state anchor count iterator]
  refine ⟨?_,rfl,anchor,count + 1,rfl,fun further => ?_⟩
  · rw [List.head?_eq_getElem?,← yields 0]
    rfl
  · rw [List.getElem?_tail,← yields (further + 1),Nat.add_assoc,Nat.add_comm 1 further]

theorem getElem?_filter_sorted (times : List Timestamp) (ascending : times.Pairwise (· < ·))
    (keeps : Timestamp → Bool) (closed : ∀ a b, a < b → keeps b → keeps a) (count : Nat) :
    (times.filter keeps)[count]? = (times[count]?).filter keeps := by
  induction times generalizing count with
  | nil => rfl
  | cons time times ih =>
    obtain ⟨above,sorted⟩ := List.pairwise_cons.mp ascending
    by_cases inside : keeps time
    · rw [List.filter_cons_of_pos inside]
      cases count with
      | zero => simp [Option.filter,inside]
      | succ count => exact ih sorted count
    · have outside : ∀ other ∈ times, ¬keeps other := fun other member later =>
        inside (closed time other (above other member) later)
      rw [List.filter_cons_of_neg inside,List.filter_eq_nil_iff.mpr outside,List.getElem?_nil]
      symm
      rw [Option.filter_eq_none_iff]
      intro other found
      rcases List.mem_cons.mp (List.mem_of_getElem? found) with same | later
      · rw [same]
        exact inside
      · exact outside other later

theorem remaining_initialise (state : CronIntervalState) (member : Timestamp → Prop)
    (yields : cron.Yields state.schedule member) (now : Timestamp)
    (early : (effectiveNow state.startTime now).nanos.toNat < 2 ^ 63) :
    ∃ members : List Timestamp, members.Pairwise (· < ·) ∧
      (∀ time, time ∈ members ↔ member time ∧ effectiveNow state.startTime now < time ∧
        ∀ last ∈ state.endTime, ¬last < time) ∧
      Remaining cron {state with iterator := some (effectiveNow state.startTime now,0)} members := by
  obtain ⟨times,ascending,every,yielded⟩ := yields.after _ early
  refine ⟨times.filter (fun time => !state.endTime.any (fun stop => decide (stop < time))),
    ascending.filter _,fun time => ?_,_,0,rfl,fun further => ?_⟩
  · rw [List.mem_filter,every]
    cases state.endTime with
    | none => simp
    | some stop => simp [and_assoc]
  · have closed : ∀ a b : Timestamp, a < b → (!state.endTime.any (fun stop => decide (stop < b))) = true →
        (!state.endTime.any (fun stop => decide (stop < a))) = true := by
      intro a b below
      cases state.endTime with
      | none => exact fun _ => rfl
      | some stop =>
        simp only [Option.any_some,Bool.not_eq_true',decide_eq_false_iff_not]
        exact fun inside before => inside (trans_of (· < ·) before below)
    rw [getElem?_filter_sorted times ascending _ closed,Nat.zero_add]
    have found := yielded further
    cases yields : cron.after state.schedule (effectiveNow state.startTime now) further with
    | none =>
      have absent : times[further]? = none := by
        refine Option.eq_none_iff_forall_ne_some.mpr (fun time present => ?_)
        cases yields.symm.trans ((found time).mpr present)
      rw [absent]
      rfl
    | some outcome =>
      cases outcome with
      | error reason =>
        have absent : times[further]? = none := by
          refine Option.eq_none_iff_forall_ne_some.mpr (fun time present => ?_)
          cases yields.symm.trans ((found time).mpr present)
        rw [absent]
        rfl
      | ok time =>
        rw [(found time).mp yields]
        unfold within
        cases state.endTime with
        | none => rfl
        | some stop => by_cases past : stop < time <;> simp [Option.filter,past]

end CronIntervalState

namespace CronScheduler

open IntervalScheduler CronIntervalState

variable (cron : CronLib)

theorem follow_running (state : CronIntervalState) (due now : Timestamp) (rest : List Timestamp)
    (next : state.nextTriggerTime = some due) (remaining : Remaining cron state rest) :
    follow (cronInterval cron) (some (some due,state)) now =
      if now < due then (none,some (some due,state))
      else (some due,if closes state.endTime now then none
        else rest.head?.map (fun time => (some time,state.setNextTriggerTime cron))) := by
  obtain ⟨first,ends,_⟩ := setNextTriggerTime_next cron state rest remaining
  rw [follow_added]
  by_cases before : now < due
  · rw [if_pos before,settle_later (cronInterval cron) now due state before]
    rfl
  · have called : (cronInterval cron).intervalHit state now =
        (state.setNextTriggerTime cron,some rest.head?) := by
      change state.intervalHit cron now = _
      unfold CronIntervalState.intervalHit
      rw [next]
      dsimp only
      rw [if_neg before,first]
    have again : dueAgain (cronInterval cron) now due (state.setNextTriggerTime cron) (some rest.head?) =
        if closes state.endTime now then none else rest.head? := by
      have last : (cronInterval cron).endTime (state.setNextTriggerTime cron) = state.endTime := ends
      unfold dueAgain closes
      rw [last]
      cases state.endTime with
      | none => rfl
      | some stop => by_cases inside : now < stop <;> simp [inside]
    rw [if_neg before,settle_due (cronInterval cron) now due state _ _ before called,again]
    refine Prod.ext rfl ?_
    dsimp only
    split <;> rfl

/-- A trigger is reported for the times that remain, one at a tick. -/
theorem log_running (times : List Timestamp) (state : CronIntervalState) (due : Timestamp) (rest : List Timestamp)
    (next : state.nextTriggerTime = some due) (remaining : Remaining cron state rest) :
    logAt (cronInterval cron) (some (some due,state)) times = handed state.endTime times (due::rest) ∧
      (followAll (cronInterval cron) (some (some due,state)) times = none →
        left state.endTime times (due::rest) = []) := by
  induction times generalizing state due rest with
  | nil =>
    refine ⟨rfl,fun gone => ?_⟩
    cases gone
  | cons now times ih =>
    have followed := follow_running cron state due now rest next remaining
    have walks : followAll (cronInterval cron) (some (some due,state)) (now::times) =
      followAll (cronInterval cron) (follow (cronInterval cron) (some (some due,state)) now).2 times := rfl
    rw [logAt_cons,walks,followed,handed_cons,left_cons]
    by_cases before : now < due
    · rw [if_pos before,if_pos before,if_pos before]
      exact ih state due rest next remaining
    · rw [if_neg before,if_neg before,if_neg before]
      by_cases past : closes state.endTime now
      · rw [if_pos past,if_pos past,if_pos past]
        exact ⟨congrArg _ (logAt_nowhere (cronInterval cron) times),fun _ => rfl⟩
      · rw [if_neg past,if_neg past,if_neg past]
        obtain ⟨first,ends,further⟩ := setNextTriggerTime_next cron state rest remaining
        cases rest with
        | nil =>
          rw [handed_nil,left_nil]
          exact ⟨congrArg _ (logAt_nowhere (cronInterval cron) times),fun _ => rfl⟩
        | cons following rest =>
          obtain ⟨logged,gone⟩ := ih (state.setNextTriggerTime cron) following rest first further
          rw [ends] at logged gone
          exact ⟨congrArg _ logged,gone⟩

theorem follow_waiting (state : CronIntervalState) (now : Timestamp) (rest : List Timestamp)
    (remaining : Remaining cron {state with iterator := some (effectiveNow state.startTime now,0)} rest) :
    ∃ begun : CronIntervalState, begun.endTime = state.endTime ∧ begun.nextTriggerTime = rest.head? ∧
      Remaining cron begun rest.tail ∧
      follow (cronInterval cron) (some (none,state)) now =
        match rest with
        | [] => (none,none)
        | due::_ => follow (cronInterval cron) (some (some due,begun)) now := by
  obtain ⟨first,ends,further⟩ := setNextTriggerTime_next cron _ rest remaining
  refine ⟨_,ends,first,further,?_⟩
  have begins : (cronInterval cron).initialise state now =
      (CronIntervalState.setNextTriggerTime cron
        {state with iterator := some (effectiveNow state.startTime now,0)},rest.head?) := by
    rw [← first]
    rfl
  cases rest with
  | nil =>
    have same : advance (cronInterval cron) now (none,state) = (none,none) := by
      rw [advance_unadded,begins]
      rfl
    unfold follow
    rw [Option.bind_some,Option.bind_some,same]
    rfl
  | cons due rest =>
    have same : advance (cronInterval cron) now (none,state) = settle (cronInterval cron) now due
        (CronIntervalState.setNextTriggerTime cron
          {state with iterator := some (effectiveNow state.startTime now,0)}) := by
      rw [advance_unadded,begins]
      rfl
    dsimp only
    rw [follow_added]
    unfold follow
    rw [Option.bind_some,Option.bind_some,same]

theorem log_waiting (state : CronIntervalState) (now : Timestamp) (times members : List Timestamp)
    (remaining : Remaining cron {state with iterator := some (effectiveNow state.startTime now,0)} members) :
    logAt (cronInterval cron) (some (none,state)) (now::times) = handed state.endTime (now::times) members ∧
      (followAll (cronInterval cron) (some (none,state)) (now::times) = none →
        left state.endTime (now::times) members = []) := by
  obtain ⟨begun,ends,first,further,followed⟩ := follow_waiting cron state now members remaining
  have walks : followAll (cronInterval cron) (some (none,state)) (now::times) =
    followAll (cronInterval cron) (follow (cronInterval cron) (some (none,state)) now).2 times := rfl
  rw [logAt_cons,walks,followed]
  cases members with
  | nil =>
    rw [handed_nil,left_nil]
    exact ⟨logAt_nowhere (cronInterval cron) times,fun _ => rfl⟩
  | cons due rest =>
    have running := log_running cron (now::times) begun due rest first further
    rw [ends] at running
    exact running

/-- A cron trigger is reported for consecutive members of its schedule, from the first one after its start
and its first tick on, none early and none past its end. The scheduler drops it when it was reported for
all of them, or at a report at or past its end. -/
theorem reported_members (schedule : String) (member : Timestamp → Prop) (yields : cron.Yields schedule member)
    (before : List (Act Timestamp CronIntervalState)) (id : LookupId) (start stop : Option Timestamp)
    (next : CronScheduler)
    (added : ((IntervalScheduler.new : CronScheduler).after (cronInterval cron) before).addTrigger
      (cronInterval cron) (.new id schedule start stop) = .ok (true,next))
    (acts : List (Act Timestamp CronIntervalState)) (kept : .remove id ∉ acts) (first : Timestamp)
    (began : (ticks acts).head? = some first) (early : (effectiveNow start first).nanos.toNat < 2 ^ 63) :
    let reported := next.log (cronInterval cron) id acts
    ∃ members : List Timestamp, members.Pairwise (· < ·) ∧
      (∀ time, time ∈ members ↔ member time ∧ effectiveNow start first < time ∧ ∀ last ∈ stop, ¬last < time) ∧
      reported.map Prod.snd <+: members ∧ (reported.map Prod.snd).Pairwise (· < ·) ∧
      (∀ report ∈ reported, ¬report.1 < report.2 ∧ ∀ last ∈ stop, ¬last < report.2) ∧
      ((next.after (cronInterval cron) acts).placesOf (cronInterval cron) id = [] →
        reported.map Prod.snd = members ∨
          ∃ report, reported.getLast? = some report ∧ ∃ last ∈ stop, ¬report.1 < last) := by
  intro reported
  have lawful := cronInterval_lawful cron
  have known := known_after lawful _ (known_new (cronInterval cron)) before
  have holds : next.Holds (cronInterval cron) id (some (none,.new id schedule start stop)) :=
    holds_added _ next known _ added
  obtain ⟨members,ascending,every,remaining⟩ :=
    remaining_initialise cron (.new id schedule start stop) member yields first early
  obtain ⟨times,split⟩ : ∃ times, ticks acts = first::times := by
    cases walked : ticks acts with
    | nil =>
      rw [walked] at began
      cases began
    | cons other times =>
      rw [walked] at began
      exact ⟨times,congrArg (fun time => time::times) (Option.some.inj began)⟩
  obtain ⟨logged,gone⟩ := log_waiting cron _ first times members remaining
  have equal : reported = handed stop (first::times) members := by
    rw [← split] at logged ⊢
    exact (log_eq lawful next id _ holds acts kept).trans logged
  have ordered : reported.map Prod.snd <+: members := equal ▸ handed_prefix stop (first::times) members
  refine ⟨members,ascending,every,ordered,ascending.sublist ordered.sublist,fun report inside => ⟨?_,?_⟩,?_⟩
  · rw [equal] at inside
    exact due_of_mem_handed stop _ _ report inside
  · exact ((every report.2).mp (ordered.subset (List.mem_map_of_mem inside))).2.2
  · intro absent
    have place := (holds_after lawful next id _ holds acts kept).places
    rw [absent,split] at place
    have nowhere := Option.toList_eq_nil_iff.mp place.symm
    rw [equal]
    rcases handed_of_left_nil stop _ _ (gone nowhere) with all | ⟨report,last,past⟩
    · exact .inl all
    · refine .inr ⟨report,last,?_⟩
      cases stop with
      | none => cases past
      | some stop =>
        refine ⟨stop,rfl,?_⟩
        simpa [closes] using past

theorem reported_members_example :
    let second (n : UInt64) : Timestamp := ⟨1893456000000000000 + n * 1000000000⟩
    let cron := CronLib.listing [second 10,second 20]
    let next : CronScheduler := ⟨⟨[],List.Pairwise.nil⟩,[.new 7 "10,20 0 0 1 1 * 2030" none none],
      HashSet.empty.insert 7⟩
    let reported := next.log (cronInterval cron) 7 [.tick (second 0),.tick (second 30)]
    reported = [(second 30,second 10)] ∧ ∀ report ∈ reported, ¬report.1 < report.2 := by
  intro second cron next reported
  have yields := CronLib.listing_yields [second 10,second 20] (by decide) "10,20 0 0 1 1 * 2030"
  obtain ⟨_,_,_,_,_,early,_⟩ := reported_members cron "10,20 0 0 1 1 * 2030" _ yields [] 7 none none next rfl
    [.tick (second 0),.tick (second 30)] (by simp) (second 0) rfl (by decide)
  exact ⟨by decide,fun report member => (early report member).1⟩

theorem dropped_with_backlog :
    let second (n : UInt64) : Timestamp := ⟨1893456000000000000 + n * 1000000000⟩
    let cron := CronLib.listing [second 10,second 20]
    ∃ next, (IntervalScheduler.new : CronScheduler).addTrigger (cronInterval cron)
        (.new 7 "10,20 0 0 1 1 * 2030" none (some (second 25))) = .ok (true,next) ∧
      cron.Yields "10,20 0 0 1 1 * 2030" (· ∈ [second 10,second 20]) ∧
      (next.after (cronInterval cron) [.tick (second 0),.tick (second 30)]).placesOf (cronInterval cron) 7 = [] ∧
      second 20 ∉ (next.log (cronInterval cron) 7 [.tick (second 0),.tick (second 30)]).map Prod.snd ∧
      second 20 < second 25 := by
  intro second cron
  refine ⟨⟨⟨[],List.Pairwise.nil⟩,[.new 7 "10,20 0 0 1 1 * 2030" none (some (second 25))],
    HashSet.empty.insert 7⟩,rfl,CronLib.listing_yields _ (by decide) _,?_,?_,by decide⟩
  · decide
  · decide

end CronScheduler
end Warpdrive.Trigger
