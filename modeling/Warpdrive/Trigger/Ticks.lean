import Mathlib.Data.List.Perm.Basic
import Mathlib.Data.List.TakeWhile
import Warpdrive.Trigger.Schedulers

/-! What a run of an interval scheduler (`interval_scheduler.rs`) does to one of its triggers. A tick
takes every state on its own: a state is initialised if it was not added yet, and hit if it is due. So
a trigger that is added and not removed goes its way whatever else the scheduler holds. -/
namespace Warpdrive.Trigger

open Warpdrive.Foundation Warpdrive.Types

/-- The calls on a state keep its lookup id. -/
structure IntervalState.Lawful {T S : Type} (interval : IntervalState T S) : Prop where
  initialise : ∀ state now, interval.lookupId (interval.initialise state now).1 = interval.lookupId state
  intervalHit : ∀ state now, interval.lookupId (interval.intervalHit state now).1 = interval.lookupId state

theorem blockInterval_lawful : blockInterval.Lawful where
  initialise _ _ := rfl
  intervalHit state now := by
    change (state.intervalHit now).1.lookupId = state.lookupId
    unfold BlockIntervalState.intervalHit
    split
    · rfl
    · dsimp only
      split <;> rfl

theorem setNextTriggerTime_lookupId (cron : CronLib) (self : CronIntervalState) :
    (self.setNextTriggerTime cron).lookupId = self.lookupId := by
  unfold CronIntervalState.setNextTriggerTime
  split
  · rfl
  · dsimp only
    split
    · split
      · split <;> rfl
      · rfl
    · rfl
    · rfl

theorem cronInterval_lawful (cron : CronLib) : (cronInterval cron).Lawful where
  initialise state now := setNextTriggerTime_lookupId cron _
  intervalHit state now := by
    change (state.intervalHit cron now).1.lookupId = state.lookupId
    unfold CronIntervalState.intervalHit
    split
    · split
      · rfl
      · exact setNextTriggerTime_lookupId cron state
    · rfl

namespace IntervalScheduler

variable {T S : Type} [LT T] (interval : IntervalState T S)

/-- The entries of `triggers`, each state with the time it is due at. -/
def waiting (triggers : BTreeMap T (List S)) : List (Option T × S) :=
  triggers.entries.flatMap (fun entry => entry.2.map (fun state => (some entry.1,state)))

/-- Every state of the scheduler with its due time, which a state that is not added yet has not. -/
def places (self : IntervalScheduler T S) : List (Option T × S) :=
  waiting self.triggers ++ self.unaddedTriggers.map (fun state => (none,state))

def placesOf (self : IntervalScheduler T S) (id : LookupId) : List (Option T × S) :=
  self.places.filter (fun place => interval.lookupId place.2 = id)

theorem map_places (self : IntervalScheduler T S) : self.places.map Prod.snd = self.states := by
  unfold places states waiting
  rw [List.map_append,List.map_flatMap,List.map_map]
  simp [Function.comp_def]

variable [DecidableLT T]

/-- What a tick makes of a state that is due at a time: its report, and its place after the tick. -/
def settle (now dueAt : T) (state : S) : Option (LookupId × T) × Option (Option T × S) :=
  if now < dueAt then (none,some (some dueAt,state))
  else
    let (reported,again) := hit interval now dueAt state
    (reported,again.map (fun again => (some again.1,again.2)))

/-- When a state that was hit, or was not, is due again. -/
def dueAgain (now dueAt : T) (state : S) (outcome : Option (Option T)) : Option T :=
  match interval.endTime state with
  | some stop => if now < stop then outcome.getD (some dueAt) else none
  | none => outcome.getD (some dueAt)

theorem settle_later (now dueAt : T) (state : S) (later : now < dueAt) :
    settle interval now dueAt state = (none,some (some dueAt,state)) := if_pos later

theorem settle_due (now dueAt : T) (state after : S) (outcome : Option (Option T)) (due : ¬now < dueAt)
    (called : interval.intervalHit state now = (after,outcome)) :
    settle interval now dueAt state = (outcome.map (fun _ => (interval.lookupId after,dueAt)),
      (dueAgain interval now dueAt after outcome).map (fun time => (some time,after))) := by
  unfold settle hit dueAgain
  rw [if_neg due,called]
  simp only [Option.map_map]
  rfl

def advance (now : T) : Option T × S → Option (LookupId × T) × Option (Option T × S)
  | (some dueAt,state) => settle interval now dueAt state
  | (none,state) =>
    match interval.initialise state now with
    | (state,some dueAt) => settle interval now dueAt state
    | (_,none) => (none,none)

theorem advance_unadded (now : T) (state : S) :
    advance interval now (none,state) =
      match interval.initialise state now with
      | (state,some dueAt) => settle interval now dueAt state
      | (_,none) => (none,none) := rfl

section Tick

variable [DecidableEq T] [IsStrictTotalOrder T (· < ·)]

omit [DecidableLT T] [DecidableEq T] [IsStrictTotalOrder T (· < ·)] in
theorem waiting_flatMap (entries : List (T × List S)) (ascending : entries.Pairwise (fun a b => a.1 < b.1)) :
    waiting ⟨entries,ascending⟩ =
      entries.flatMap (fun entry => entry.2.map (fun state => (some entry.1,state))) := rfl

theorem waiting_pushAt (triggers : BTreeMap T (List S)) (time : T) (state : S) :
    (waiting (pushAt triggers time state)).Perm ((some time,state) :: waiting triggers) := by
  have split := triggers.entries_split time
  have whole : waiting triggers =
      (triggers.entries.filter (fun entry => entry.1 < time)).flatMap
          (fun entry => entry.2.map (fun state => (some entry.1,state))) ++
        (((triggers.get time).getD []).map (fun state => (some time,state)) ++
          (triggers.entries.filter (fun entry => time < entry.1)).flatMap
            (fun entry => entry.2.map (fun state => (some entry.1,state)))) := by
    unfold waiting
    conv_lhs => rw [split]
    rw [List.flatMap_append,List.flatMap_append]
    cases triggers.get time <;> simp
  rw [whole]
  unfold pushAt BTreeMap.insert
  rw [waiting_flatMap,List.flatMap_append,List.flatMap_cons,List.map_append,List.map_singleton]
  simp only [List.append_assoc,List.singleton_append]
  exact (List.Perm.append_left _ List.perm_middle).trans List.perm_middle

theorem waiting_foldl_pushAt (again : List (T × S)) (triggers : BTreeMap T (List S)) :
    (waiting (again.foldl (fun triggers again => pushAt triggers again.1 again.2) triggers)).Perm
      (waiting triggers ++ again.map (fun again => (some again.1,again.2))) := by
  induction again generalizing triggers with
  | nil => simp
  | cons first rest ih =>
    rw [List.foldl_cons,List.map_cons]
    refine (ih _).trans ?_
    exact ((waiting_pushAt triggers first.1 first.2).append_right _).trans List.perm_middle.symm

/-- Where a state is after its initialisation, when it has a due time. -/
def started (now : T) (state : S) : Option (Option T × S) :=
  match interval.initialise state now with
  | (state,some dueAt) => some (some dueAt,state)
  | (_,none) => none

theorem waiting_added (now : T) (states : List S) (triggers : BTreeMap T (List S)) :
    (waiting (states.foldl (fun triggers state =>
        match interval.initialise state now with
        | (state,some time) => pushAt triggers time state
        | (_,none) => triggers) triggers)).Perm
      (waiting triggers ++ states.filterMap (started interval now)) := by
  induction states generalizing triggers with
  | nil => simp
  | cons first rest ih =>
    rw [List.foldl_cons,List.filterMap_cons]
    refine (ih _).trans ?_
    unfold started
    rcases interval.initialise first now with ⟨state,_ | dueAt⟩
    · exact List.Perm.refl _
    · exact ((waiting_pushAt triggers dueAt state).append_right _).trans List.perm_middle.symm

omit [DecidableEq T] in
theorem due_later (now : T) (triggers : BTreeMap T (List S)) :
    (∀ entry ∈ triggers.entries.takeWhile (fun entry => !decide (now < entry.1)), ¬now < entry.1) ∧
      ∀ entry ∈ triggers.entries.dropWhile (fun entry => !decide (now < entry.1)), now < entry.1 := by
  refine ⟨fun entry member => by simpa using List.mem_takeWhile_imp member,?_⟩
  have ascending := triggers.ascending
  generalize triggers.entries = entries at ascending
  induction entries with
  | nil => simp
  | cons first rest ih =>
    obtain ⟨above,sorted⟩ := List.pairwise_cons.mp ascending
    by_cases below : now < first.1
    · rw [List.dropWhile_cons_of_neg (by simpa using below)]
      intro entry member
      rcases List.mem_cons.mp member with same | later
      · exact same ▸ below
      · exact trans_of (· < ·) below (above entry later)
    · rw [List.dropWhile_cons_of_pos (by simpa using below)]
      exact ih sorted

omit [DecidableEq T] [IsStrictTotalOrder T (· < ·)] in
theorem advance_started (now : T) (state : S) :
    ((started interval now state).bind (fun place => (advance interval now place).1) =
        (advance interval now (none,state)).1) ∧
      (started interval now state).bind (fun place => (advance interval now place).2) =
        (advance interval now (none,state)).2 := by
  rw [advance_unadded]
  unfold started
  rcases interval.initialise state now with ⟨state,_ | dueAt⟩ <;> exact ⟨rfl,rfl⟩

omit [DecidableEq T] [IsStrictTotalOrder T (· < ·)] in
theorem advance_due (now : T) (entries : List (T × List S)) (early : ∀ entry ∈ entries, ¬now < entry.1) :
    ((entries.flatMap (fun entry => entry.2.map (fun state => (some entry.1,state)))).filterMap
        (fun place => (advance interval now place).1) =
      (entries.flatMap (fun entry => entry.2.map (hit interval now entry.1))).filterMap Prod.fst) ∧
    (entries.flatMap (fun entry => entry.2.map (fun state => (some entry.1,state)))).filterMap
        (fun place => (advance interval now place).2) =
      ((entries.flatMap (fun entry => entry.2.map (hit interval now entry.1))).filterMap Prod.snd).map
        (fun again => (some again.1,again.2)) := by
  have settled : ∀ entry ∈ entries, ∀ state,
      advance interval now (some entry.1,state) = ((hit interval now entry.1 state).1,
        (hit interval now entry.1 state).2.map (fun again => (some again.1,again.2))) := by
    intro entry member state
    simp only [advance,settle,early entry member,if_false]
  simp only [List.filterMap_flatMap,List.map_flatMap,List.filterMap_map,List.map_filterMap]
  constructor
  · refine List.flatMap_congr (fun entry member => List.filterMap_congr (fun state _ => ?_))
    exact congrArg Prod.fst (settled entry member state)
  · refine List.flatMap_congr (fun entry member => List.filterMap_congr (fun state _ => ?_))
    exact congrArg Prod.snd (settled entry member state)

omit [DecidableEq T] [IsStrictTotalOrder T (· < ·)] in
theorem advance_later (now : T) (entries : List (T × List S)) (late : ∀ entry ∈ entries, now < entry.1) :
    (entries.flatMap (fun entry => entry.2.map (fun state => (some entry.1,state)))).filterMap
        (fun place => (advance interval now place).1) = [] ∧
    (entries.flatMap (fun entry => entry.2.map (fun state => (some entry.1,state)))).filterMap
        (fun place => (advance interval now place).2) =
      entries.flatMap (fun entry => entry.2.map (fun state => (some entry.1,state))) := by
  have stays : ∀ place ∈ entries.flatMap (fun entry => entry.2.map (fun state => (some entry.1,state))),
      advance interval now place = (none,some place) := by
    intro place member
    obtain ⟨entry,inside,held⟩ := List.mem_flatMap.mp member
    obtain ⟨state,_,rfl⟩ := List.mem_map.mp held
    simp only [advance,settle,late entry inside,if_true]
  constructor
  · refine List.filterMap_eq_nil_iff.mpr (fun place member => ?_)
    rw [stays place member]
  · refine (List.filterMap_congr (fun place member => ?_)).trans List.filterMap_some
    rw [stays place member]

/-- The triggers of a tick once the states that were not added yet are added. -/
def addUnadded (self : IntervalScheduler T S) (now : T) : BTreeMap T (List S) :=
  self.unaddedTriggers.foldl (fun triggers state =>
    match interval.initialise state now with
    | (state,some time) => pushAt triggers time state
    | (_,none) => triggers) self.triggers

def hitsOf (now : T) (added : BTreeMap T (List S)) : List (Option (LookupId × T) × Option (T × S)) :=
  (added.entries.takeWhile (fun entry => !decide (now < entry.1))).flatMap
    (fun entry => entry.2.map (hit interval now entry.1))

def laterOf (now : T) (added : BTreeMap T (List S)) : BTreeMap T (List S) where
  entries := added.entries.dropWhile (fun entry => !decide (now < entry.1))
  ascending := added.ascending.sublist (List.dropWhile_sublist _)

theorem tick_eq (self : IntervalScheduler T S) (now : T) :
    self.tick interval now = ((hitsOf interval now (self.addUnadded interval now)).filterMap Prod.fst,
      {self with
        unaddedTriggers := []
        triggers := ((hitsOf interval now (self.addUnadded interval now)).filterMap Prod.snd).foldl
          (fun triggers again => pushAt triggers again.1 again.2)
          (laterOf now (self.addUnadded interval now))}) := rfl

/-- A tick advances every state on its own, and reports what each of them reports. -/
theorem tick_advances (self : IntervalScheduler T S) (now : T) :
    (self.tick interval now).1.Perm (self.places.filterMap (fun place => (advance interval now place).1)) ∧
      (self.tick interval now).2.places.Perm
        (self.places.filterMap (fun place => (advance interval now place).2)) := by
  have everything : (waiting (self.addUnadded interval now)).Perm _ :=
    waiting_added interval now self.unaddedTriggers self.triggers
  rw [tick_eq]
  generalize self.addUnadded interval now = added at everything ⊢
  obtain ⟨early,late⟩ := due_later now added
  have halves : waiting added =
      (added.entries.takeWhile (fun entry => !decide (now < entry.1))).flatMap
          (fun entry => entry.2.map (fun state => (some entry.1,state))) ++ waiting (laterOf now added) := by
    unfold waiting laterOf
    rw [← List.flatMap_append,List.takeWhile_append_dropWhile]
  obtain ⟨reports,again⟩ := advance_due interval now _ early
  obtain ⟨silent,kept⟩ := advance_later interval now _ late
  -- The states that were not added yet are advanced from where their initialisation puts them.
  have begun : ∀ {R : Type} (read : Option T × S → Option R),
      (∀ state, (started interval now state).bind read = read (none,state)) →
      ((waiting added).filterMap read).Perm
        ((waiting self.triggers ++ self.unaddedTriggers.map (fun state => (none,state))).filterMap read) := by
    intro R read agrees
    refine (everything.filterMap read).trans (List.Perm.of_eq ?_)
    rw [List.filterMap_append,List.filterMap_append,List.filterMap_filterMap,List.filterMap_map]
    exact congrArg _ (List.filterMap_congr (fun state _ => agrees state))
  constructor
  · refine List.Perm.trans (List.Perm.of_eq ?_) (begun _ (fun state => (advance_started interval now state).1))
    rw [halves,List.filterMap_append,reports]
    exact (List.append_nil _).symm.trans (congrArg _ silent.symm)
  · refine List.Perm.trans ?_ (begun _ (fun state => (advance_started interval now state).2))
    rw [halves,List.filterMap_append,again]
    refine List.Perm.trans ?_ (List.Perm.of_eq (congrArg _ kept.symm))
    unfold places
    rw [List.map_nil,List.append_nil]
    exact (waiting_foldl_pushAt _ _).trans List.perm_append_comm

end Tick

theorem advance_lookupId (lawful : interval.Lawful) (now : T) (place : Option T × S) :
    (∀ report, (advance interval now place).1 = some report → report.1 = interval.lookupId place.2) ∧
      ∀ again, (advance interval now place).2 = some again →
        interval.lookupId again.2 = interval.lookupId place.2 := by
  have settled : ∀ dueAt state,
      (∀ report, (settle interval now dueAt state).1 = some report → report.1 = interval.lookupId state) ∧
        ∀ again, (settle interval now dueAt state).2 = some again →
          interval.lookupId again.2 = interval.lookupId state := by
    intro dueAt state
    have kept := lawful.intervalHit state now
    by_cases later : now < dueAt
    · rw [settle_later interval now dueAt state later]
      simp
    · rcases called : interval.intervalHit state now with ⟨after,outcome⟩
      rw [called] at kept
      rw [settle_due interval now dueAt state after outcome later called]
      refine ⟨fun report reported => ?_,fun again put => ?_⟩
      · obtain ⟨_,_,rfl⟩ := Option.map_eq_some_iff.mp reported
        exact kept
      · obtain ⟨_,_,rfl⟩ := Option.map_eq_some_iff.mp put
        exact kept
  rcases place with ⟨_ | dueAt,state⟩
  · have kept := lawful.initialise state now
    rw [advance_unadded]
    rcases called : interval.initialise state now with ⟨after,_ | dueAt⟩
    · simp
    · rw [called] at kept
      rw [← kept]
      exact settled dueAt after
  · exact settled dueAt state

section Run

variable [DecidableEq T] [IsStrictTotalOrder T (· < ·)]

inductive Act (T S : Type)
  | add (state : S)
  | remove (id : LookupId)
  | tick (now : T)

def apply (self : IntervalScheduler T S) : Act T S → List (LookupId × T) × IntervalScheduler T S
  | .add state =>
    match self.addTrigger interval state with
    | .ok (_,next) => ([],next)
    | .error _ => ([],self)
  | .remove id => ([],self.removeTrigger interval id)
  | .tick now => self.tick interval now

def after (self : IntervalScheduler T S) (acts : List (Act T S)) : IntervalScheduler T S :=
  acts.foldl (fun self act => (self.apply interval act).2) self

def Act.time : Act T S → Option T
  | .tick now => some now
  | _ => none

def ticks (acts : List (Act T S)) : List T := acts.filterMap Act.time

def reportsOf (id : LookupId) (reports : List (LookupId × T)) : List T :=
  reports.filterMap (fun report => if report.1 = id then some report.2 else none)

/-- One tick for a trigger that has this place, or none. -/
def follow (place : Option (Option T × S)) (now : T) : Option T × Option (Option T × S) :=
  (place.bind (fun place => (advance interval now place).1.map Prod.snd),
    place.bind (fun place => (advance interval now place).2))

omit [DecidableEq T] [IsStrictTotalOrder T (· < ·)] in
theorem follow_added (dueAt : T) (state : S) (now : T) :
    follow interval (some (some dueAt,state)) now =
      ((settle interval now dueAt state).1.map Prod.snd,(settle interval now dueAt state).2) := rfl

def followAll (place : Option (Option T × S)) (times : List T) : Option (Option T × S) :=
  times.foldl (fun place now => (follow interval place now).2) place

/-- What a run reports for one trigger, each with the time of the tick. -/
def log (self : IntervalScheduler T S) (id : LookupId) : List (Act T S) → List (T × T)
  | [] => []
  | act::acts =>
    let (reports,next) := self.apply interval act
    act.time.toList.flatMap (fun now => (reportsOf id reports).map (fun dueAt => (now,dueAt))) ++
      log next id acts

def firedAt (self : IntervalScheduler T S) (id : LookupId) (acts : List (Act T S)) : List T :=
  (self.log interval id acts).map Prod.fst

/-- What is reported for a trigger that has this place, or none. -/
def logAt (place : Option (Option T × S)) : List T → List (T × T)
  | [] => []
  | now::times =>
    let (report,again) := follow interval place now
    (report.map (fun dueAt => (now,dueAt))).toList ++ logAt again times

def firesAt (place : Option (Option T × S)) (times : List T) : List T := (logAt interval place times).map Prod.fst

omit [DecidableEq T] [IsStrictTotalOrder T (· < ·)] in
theorem logAt_cons (place : Option (Option T × S)) (now : T) (times : List T) :
    logAt interval place (now::times) =
      ((follow interval place now).1.map (fun dueAt => (now,dueAt))).toList ++
        logAt interval (follow interval place now).2 times := rfl

omit [DecidableEq T] [IsStrictTotalOrder T (· < ·)] in
theorem firesAt_cons (place : Option (Option T × S)) (now : T) (times : List T) :
    firesAt interval place (now::times) =
      if (follow interval place now).1.isSome then now :: firesAt interval (follow interval place now).2 times
      else firesAt interval (follow interval place now).2 times := by
  unfold firesAt
  rw [logAt_cons]
  cases (follow interval place now).1 with
  | none => rfl
  | some dueAt => rfl

omit [DecidableEq T] [IsStrictTotalOrder T (· < ·)] in
theorem logAt_nowhere (times : List T) : logAt interval none times = [] := by
  induction times with
  | nil => rfl
  | cons now times ih => exact ih

omit [DecidableEq T] [IsStrictTotalOrder T (· < ·)] in
theorem firesAt_append (place : Option (Option T × S)) (times : List T) (now : T) :
    firesAt interval place (times ++ [now]) = firesAt interval place times ++
      if (follow interval (followAll interval place times) now).1.isSome then [now] else [] := by
  induction times generalizing place with
  | nil => exact firesAt_cons interval place now []
  | cons first times ih =>
    rw [List.cons_append,firesAt_cons,firesAt_cons,ih]
    split
    · rfl
    · rfl

/-- The scheduler knows the trigger and has it at this place alone, or nowhere. -/
structure Holds (scheduler : IntervalScheduler T S) (id : LookupId) (place : Option (Option T × S)) : Prop where
  known : id ∈ scheduler.triggerIds
  places : scheduler.placesOf interval id = place.toList

/-- What adding a trigger leaves: the scheduler as it was, or with the trigger waiting for its first tick. -/
theorem apply_add (self : IntervalScheduler T S) (state : S) :
    (self.apply interval (.add state) = ([],self) ∨ interval.lookupId state ∉ self.triggerIds ∧
      self.apply interval (.add state) = ([],{self with
        triggerIds := self.triggerIds.insert (interval.lookupId state)
        unaddedTriggers := self.unaddedTriggers ++ [state]})) := by
  by_cases late : startsAfterEnd interval state
  · have refused : self.addTrigger interval state = .error .intervalStartAfterEnd := if_pos late
    left
    simp only [apply,refused]
  · by_cases known : interval.lookupId state ∈ self.triggerIds
    · have again : self.addTrigger interval state = .ok (false,self) := (if_neg late).trans (if_pos known)
      left
      simp only [apply,again]
    · have added : self.addTrigger interval state = .ok (true,{self with
          triggerIds := self.triggerIds.insert (interval.lookupId state)
          unaddedTriggers := self.unaddedTriggers ++ [state]}) := (if_neg late).trans (if_neg known)
      right
      refine ⟨known,?_⟩
      simp only [apply,added]

omit [DecidableEq T] [IsStrictTotalOrder T (· < ·)] [DecidableLT T] in
theorem places_add (self : IntervalScheduler T S) (ids : HashSet LookupId) (state : S) :
    ({self with triggerIds := ids,unaddedTriggers := self.unaddedTriggers ++ [state]} :
      IntervalScheduler T S).places = self.places ++ [(none,state)] := by
  unfold places
  rw [List.map_append,List.map_singleton,List.append_assoc]

variable {interval}

theorem placesOf_tick (lawful : interval.Lawful) (self : IntervalScheduler T S) (now : T) (id : LookupId)
    (place : Option (Option T × S)) (held : self.placesOf interval id = place.toList) :
    reportsOf id (self.tick interval now).1 = (follow interval place now).1.toList ∧
      (self.tick interval now).2.placesOf interval id = (follow interval place now).2.toList := by
  obtain ⟨reports,again⟩ := tick_advances interval self now
  have single : ∀ {R : Type} (list : List R) (value : Option R), list.Perm value.toList → list = value.toList := by
    intro R list value perm
    cases value with
    | none => exact List.perm_nil.mp perm
    | some value => exact List.perm_singleton.mp perm
  constructor
  · apply single
    refine (reports.filterMap _).trans (List.Perm.of_eq ?_)
    rw [List.filterMap_filterMap]
    have own : self.places.filterMap (fun place => (advance interval now place).1.bind
          (fun report => if report.1 = id then some report.2 else none)) =
        (self.placesOf interval id).filterMap (fun place => (advance interval now place).1.map Prod.snd) := by
      unfold placesOf
      rw [List.filterMap_filter]
      refine List.filterMap_congr (fun place _ => ?_)
      have law := (advance_lookupId interval lawful now place).1
      cases reported : (advance interval now place).1 with
      | none => simp
      | some report => simp [law report reported]
    rw [own,held]
    cases place with
    | none => rfl
    | some place => cases reported : (advance interval now place).1 <;> simp [follow,reported]
  · apply single
    refine (again.filter _).trans (List.Perm.of_eq ?_)
    have own : (self.places.filterMap (fun place => (advance interval now place).2)).filter
          (fun place => interval.lookupId place.2 = id) =
        (self.placesOf interval id).filterMap (fun place => (advance interval now place).2) := by
      unfold placesOf
      rw [List.filterMap_filter,List.filter_filterMap]
      refine List.filterMap_congr (fun place _ => ?_)
      have law := (advance_lookupId interval lawful now place).2
      cases put : (advance interval now place).2 with
      | none => simp
      | some after => simp [law after put,Option.filter]
    rw [own,held]
    cases place with
    | none => rfl
    | some place => cases put : (advance interval now place).2 <;> simp [follow,put]

omit [DecidableLT T] [DecidableEq T] [IsStrictTotalOrder T (· < ·)] in
theorem places_removeTrigger (self : IntervalScheduler T S) (id : LookupId) :
    (self.removeTrigger interval id).places =
      self.places.filter (fun place => interval.lookupId place.2 ≠ id) := by
  have kept : ∀ entries : List (T × List S),
      ((entries.map (fun entry =>
        (entry.1,entry.2.filter (fun state => interval.lookupId state ≠ id)))).filter
          (fun entry => !entry.2.isEmpty)).flatMap (fun entry => entry.2.map (fun state => (some entry.1,state))) =
      (entries.flatMap (fun entry => entry.2.map (fun state => (some entry.1,state)))).filter
        (fun place => interval.lookupId place.2 ≠ id) := by
    intro entries
    induction entries with
    | nil => rfl
    | cons entry rest ih =>
      have own : (entry.2.map (fun state => (some entry.1,state))).filter
            (fun place => interval.lookupId place.2 ≠ id) =
          (entry.2.filter (fun state => interval.lookupId state ≠ id)).map
            (fun state => (some entry.1,state)) := List.filter_map
      rw [List.map_cons,List.filter_cons,List.flatMap_cons,List.filter_append,← ih,own]
      split
      · rw [List.flatMap_cons]
      · next empty =>
        have nothing : entry.2.filter (fun state => interval.lookupId state ≠ id) = [] := by simpa using empty
        rw [nothing,List.map_nil,List.nil_append]
  have unadded : (self.unaddedTriggers.map (fun state => ((none : Option T),state))).filter
        (fun place => interval.lookupId place.2 ≠ id) =
      (self.unaddedTriggers.filter (fun state => interval.lookupId state ≠ id)).map
        (fun state => (none,state)) := List.filter_map
  unfold places waiting
  rw [List.filter_append,unadded]
  exact congrArg₂ (· ++ ·) (kept self.triggers.entries) rfl

/-- What a call that does not remove a trigger does to it. -/
theorem holds_apply (lawful : interval.Lawful) (self : IntervalScheduler T S) (id : LookupId)
    (place : Option (Option T × S)) (held : self.Holds interval id place) (act : Act T S)
    (kept : act ≠ .remove id) :
    (self.apply interval act).2.Holds interval id
        (match act.time with
        | some now => (follow interval place now).2
        | none => place) ∧
      reportsOf id (self.apply interval act).1 =
        (act.time.bind (fun now => (follow interval place now).1)).toList := by
  cases act with
  | add state =>
    rcases self.apply_add interval state with same | ⟨unknown,added⟩
    · rw [same]
      exact ⟨held,rfl⟩
    · have other : interval.lookupId state ≠ id := fun same => unknown (same ▸ held.known)
      rw [added]
      refine ⟨⟨(HashSet.mem_insert _ _ _).mpr (.inr held.known),?_⟩,rfl⟩
      unfold placesOf
      rw [places_add,List.filter_append,List.filter_cons_of_neg (by simpa using other)]
      exact (List.append_nil _).trans held.places
  | remove other =>
    have apart : id ≠ other := fun same => kept (same ▸ rfl)
    refine ⟨⟨(HashSet.mem_remove _ _ _).mpr ⟨apart,held.known⟩,?_⟩,rfl⟩
    have places := held.places
    unfold placesOf at places ⊢
    change (self.removeTrigger interval other).places.filter _ = place.toList
    rw [places_removeTrigger,List.filter_filter,← places]
    refine List.filter_congr (fun place _ => ?_)
    by_cases own : interval.lookupId place.2 = id
    · simp [own,apart]
    · simp [own]
  | tick now =>
    obtain ⟨reports,again⟩ := placesOf_tick lawful self now id place held.places
    exact ⟨⟨held.known,again⟩,reports⟩

theorem holds_after (lawful : interval.Lawful) (self : IntervalScheduler T S) (id : LookupId)
    (place : Option (Option T × S)) (held : self.Holds interval id place) (acts : List (Act T S))
    (kept : .remove id ∉ acts) :
    (self.after interval acts).Holds interval id (followAll interval place (ticks acts)) := by
  induction acts generalizing self place with
  | nil => exact held
  | cons act acts ih =>
    have stays : act ≠ .remove id := fun same => kept (same ▸ List.mem_cons_self)
    have next := (holds_apply lawful self id place held act stays).1
    have later := ih _ _ next (fun member => kept (List.mem_cons_of_mem act member))
    unfold ticks at later ⊢
    rw [List.filterMap_cons]
    cases timed : act.time with
    | none =>
      rw [timed] at later
      exact later
    | some now =>
      rw [timed] at later
      exact later

theorem reports_after (lawful : interval.Lawful) (self : IntervalScheduler T S) (id : LookupId)
    (place : Option (Option T × S)) (held : self.Holds interval id place) (acts : List (Act T S))
    (kept : .remove id ∉ acts) (now : T) :
    reportsOf id ((self.after interval acts).tick interval now).1 =
      (follow interval (followAll interval place (ticks acts)) now).1.toList :=
  (placesOf_tick lawful _ now id _ (holds_after lawful self id place held acts kept).places).1

theorem log_eq (lawful : interval.Lawful) (self : IntervalScheduler T S) (id : LookupId)
    (place : Option (Option T × S)) (held : self.Holds interval id place) (acts : List (Act T S))
    (kept : .remove id ∉ acts) : self.log interval id acts = logAt interval place (ticks acts) := by
  induction acts generalizing self place with
  | nil => rfl
  | cons act acts ih =>
    have stays : act ≠ .remove id := fun same => kept (same ▸ List.mem_cons_self)
    obtain ⟨next,reports⟩ := holds_apply lawful self id place held act stays
    have later := ih _ _ next (fun member => kept (List.mem_cons_of_mem act member))
    unfold log
    dsimp only
    rw [later,reports]
    unfold ticks
    rw [List.filterMap_cons]
    cases timed : act.time with
    | none => rfl
    | some now =>
      dsimp only [Option.toList_some,Option.bind_some]
      rw [logAt_cons]
      cases (follow interval place now).1 with
      | none => rfl
      | some report => rfl

theorem firedAt_eq (lawful : interval.Lawful) (self : IntervalScheduler T S) (id : LookupId)
    (place : Option (Option T × S)) (held : self.Holds interval id place) (acts : List (Act T S))
    (kept : .remove id ∉ acts) : self.firedAt interval id acts = firesAt interval place (ticks acts) :=
  congrArg (List.map Prod.fst) (log_eq lawful self id place held acts kept)

omit [DecidableEq T] [IsStrictTotalOrder T (· < ·)] in
theorem holds_added (self next : IntervalScheduler T S) (known : self.Known interval) (state : S)
    (added : self.addTrigger interval state = .ok (true,next)) :
    next.Holds interval (interval.lookupId state) (some (none,state)) := by
  by_cases late : startsAfterEnd interval state
  · cases (if_pos late).symm.trans added
  · by_cases present : interval.lookupId state ∈ self.triggerIds
    · cases ((if_neg late).trans (if_pos present)).symm.trans added
    · cases ((if_neg late).trans (if_neg present)).symm.trans added
      refine ⟨(HashSet.mem_insert _ _ _).mpr (.inl rfl),?_⟩
      have absent : self.placesOf interval (interval.lookupId state) = [] := by
        refine List.filter_eq_nil_iff.mpr (fun place member owner => ?_)
        have inside : place.2 ∈ self.states := by
          rw [← map_places]
          exact List.mem_map_of_mem member
        have same : interval.lookupId place.2 = interval.lookupId state := by simpa using owner
        exact present (same ▸ known place.2 inside)
      unfold placesOf at absent ⊢
      rw [places_add,List.filter_append,absent,List.filter_cons_of_pos (by simp)]
      rfl

theorem known_apply (lawful : interval.Lawful) (self : IntervalScheduler T S) (known : self.Known interval)
    (act : Act T S) : (self.apply interval act).2.Known interval := by
  cases act with
  | add state =>
    rcases self.apply_add interval state with same | ⟨_,added⟩
    · rw [same]
      exact known
    · rw [added]
      intro other member
      have member : other ∈ self.states ++ [state] := by
        rw [← map_places] at member ⊢
        rw [places_add,List.map_append] at member
        exact member
      rw [HashSet.mem_insert]
      rcases List.mem_append.mp member with before | new
      · exact .inr (known other before)
      · exact .inl (congrArg interval.lookupId (List.mem_singleton.mp new))
  | remove id => exact known_removeTrigger interval self id known
  | tick now =>
    intro state member
    rw [← map_places] at member
    obtain ⟨again,inside,rfl⟩ := List.mem_map.mp member
    obtain ⟨place,before,advanced⟩ := List.mem_filterMap.mp ((tick_advances interval self now).2.mem_iff.mp inside)
    rw [(advance_lookupId interval lawful now place).2 again advanced]
    apply known
    rw [← map_places]
    exact List.mem_map_of_mem before

theorem known_after (lawful : interval.Lawful) (self : IntervalScheduler T S) (known : self.Known interval)
    (acts : List (Act T S)) : (self.after interval acts).Known interval := by
  induction acts generalizing self with
  | nil => exact known
  | cons act acts ih => exact ih _ (known_apply lawful self known act)

end Run
end IntervalScheduler
end Warpdrive.Trigger
