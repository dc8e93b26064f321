import Warpdrive.Foundation.Execution
import Warpdrive.Trigger.Ticks

/-! The interval scheduler (`interval_scheduler.rs`) over any order of the calls on it, whatever the states answer. The
loop of a tick pops a list of states in each round and adds none before it ends, so it has no more rounds than the
scheduler has lists. -/
namespace Warpdrive.Trigger
namespace IntervalScheduler

open Warpdrive.Foundation Warpdrive.Types

section Loop

variable {T S : Type} [LT T] (interval : IntervalState T S)

def len (self : IntervalScheduler T S) : Nat := self.triggers.entries.length + self.unaddedTriggers.length

variable [DecidableLT T]

/-- The loop over the states that are popped at one time. -/
def drain (now dueAt : T) (states : List S) (found : List (LookupId × T) × List (T × S)) :
    List (LookupId × T) × List (T × S) :=
  states.foldl (fun found state =>
    let (reported,again) := hit interval now dueAt state
    (found.1 ++ reported.toList,found.2 ++ again.toList)) found

/-- The loop that pops the due states, for at most so many rounds. -/
def popDue (now : T) : Nat → BTreeMap T (List S) → List (LookupId × T) × List (T × S) →
    Option (BTreeMap T (List S) × List (LookupId × T) × List (T × S))
  | 0,_,_ => none
  | rounds + 1,triggers,found =>
    match triggers with
    | ⟨[],ascending⟩ => some (⟨[],ascending⟩,found)
    | ⟨(nextTime,states)::rest,ascending⟩ =>
      if now < nextTime then some (⟨(nextTime,states)::rest,ascending⟩,found)
      else popDue now rounds ⟨rest,ascending.of_cons⟩ (drain interval now nextTime states found)

theorem drain_eq (now dueAt : T) (states : List S) (found : List (LookupId × T) × List (T × S)) :
    drain interval now dueAt states found =
      (found.1 ++ (states.map (hit interval now dueAt)).filterMap Prod.fst,
        found.2 ++ (states.map (hit interval now dueAt)).filterMap Prod.snd) := by
  unfold drain
  induction states generalizing found with
  | nil => simp
  | cons first rest ih =>
    rw [List.foldl_cons,ih,List.map_cons,List.filterMap_cons,List.filterMap_cons]
    rcases hit interval now dueAt first with ⟨reported,again⟩
    cases reported <;> cases again <;> simp

theorem popDue_eq (now : T) (rounds : Nat) (triggers : BTreeMap T (List S))
    (found : List (LookupId × T) × List (T × S)) (enough : triggers.entries.length < rounds) :
    popDue interval now rounds triggers found = some (laterOf now triggers,
      found.1 ++ (hitsOf interval now triggers).filterMap Prod.fst,
      found.2 ++ (hitsOf interval now triggers).filterMap Prod.snd) := by
  induction rounds generalizing triggers found with
  | zero => omega
  | succ rounds ih =>
    obtain ⟨entries,ascending⟩ := triggers
    cases entries with
    | nil => simp [popDue,laterOf,hitsOf]
    | cons entry rest =>
      obtain ⟨nextTime,states⟩ := entry
      have shorter : rest.length < rounds := by
        have bound : rest.length + 1 < rounds + 1 := enough
        omega
      unfold popDue
      by_cases later : now < nextTime
      · simp [later,laterOf,hitsOf]
      · have due : (!decide (now < nextTime)) = true := by simpa using later
        dsimp only
        rw [if_neg later,ih ⟨rest,ascending.of_cons⟩ _ shorter,drain_eq]
        unfold laterOf hitsOf
        simp only [List.takeWhile_cons,List.dropWhile_cons,due,if_true,List.flatMap_cons,List.filterMap_append,
          List.append_assoc]

variable [DecidableEq T] [IsStrictTotalOrder T (· < ·)]

/-- `tick` with a bound on the rounds of its loop. -/
def tickWithin (rounds : Nat) (self : IntervalScheduler T S) (now : T) :
    Option (List (LookupId × T) × IntervalScheduler T S) :=
  (popDue interval now rounds (self.addUnadded interval now) ([],[])).map (fun popped =>
    (popped.2.1,{self with
      unaddedTriggers := []
      triggers := popped.2.2.foldl (fun triggers again => pushAt triggers again.1 again.2) popped.1}))

theorem length_pushAt (triggers : BTreeMap T (List S)) (time : T) (state : S) :
    (pushAt triggers time state).entries.length ≤ triggers.entries.length + 1 := by
  have split := congrArg List.length (triggers.entries_split time)
  simp only [List.length_append] at split
  unfold pushAt BTreeMap.insert
  simp only [List.length_append,List.length_cons]
  omega

theorem length_addUnadded (self : IntervalScheduler T S) (now : T) :
    (self.addUnadded interval now).entries.length ≤ self.len := by
  unfold addUnadded len
  generalize self.triggers = triggers
  induction self.unaddedTriggers generalizing triggers with
  | nil => simp
  | cons first rest ih =>
    rw [List.foldl_cons,List.length_cons]
    refine (ih _).trans ?_
    rcases interval.initialise first now with ⟨state,_ | time⟩
    · dsimp only
      omega
    · have bound := length_pushAt triggers time state
      dsimp only
      omega

/-- The loop ends within as many rounds as the scheduler has lists, and one to see that none is due. -/
theorem tickWithin_eq (self : IntervalScheduler T S) (now : T) (rounds : Nat) (enough : self.len < rounds) :
    self.tickWithin interval rounds now = some (self.tick interval now) := by
  have bound := self.length_addUnadded interval now
  unfold tickWithin
  rw [popDue_eq interval now rounds _ _ (by omega),tick_eq]
  simp

end Loop

section Invariant

variable {T S : Type} [LT T] (interval : IntervalState T S)

/-- A trigger has at most one state, and has one only if the scheduler knows it. A time with no state has no list. -/
structure Represents (scheduler : IntervalScheduler T S) : Prop where
  once : (scheduler.states.map interval.lookupId).Nodup
  known : scheduler.Known interval
  filled : ∀ entry ∈ scheduler.triggers.entries, entry.2 ≠ []

theorem represents_new : (new : IntervalScheduler T S).Represents interval where
  once := List.nodup_nil
  known := known_new interval
  filled entry member := by cases member

theorem represents_removeTrigger (self : IntervalScheduler T S) (represents : self.Represents interval)
    (id : LookupId) : (self.removeTrigger interval id).Represents interval where
  once := by
    rw [states_removeTrigger]
    exact represents.once.sublist (List.filter_sublist.map interval.lookupId)
  known := known_removeTrigger interval self id represents.known
  filled entry member empty := by
    have kept : (!entry.2.isEmpty) = true := (List.mem_filter.mp member).2
    rw [empty] at kept
    cases kept

theorem map_lookupId_states (self : IntervalScheduler T S) :
    self.states.map interval.lookupId = self.places.map (fun place => interval.lookupId place.2) := by
  rw [← map_places,List.map_map]
  rfl

theorem map_filterMap_sublist {A B C : Type} (keep : A → Option B) (before : A → C) (after : B → C) (items : List A)
    (same : ∀ item kept, keep item = some kept → after kept = before item) :
    ((items.filterMap keep).map after).Sublist (items.map before) := by
  induction items with
  | nil => simp
  | cons item items ih =>
    rw [List.filterMap_cons,List.map_cons]
    cases kept : keep item with
    | none => exact ih.cons (before item)
    | some value =>
      rw [List.map_cons,same item value kept]
      exact ih.cons_cons (before item)

variable [DecidableLT T] [DecidableEq T] [IsStrictTotalOrder T (· < ·)]

theorem filled_pushAt (triggers : BTreeMap T (List S)) (filled : ∀ entry ∈ triggers.entries, entry.2 ≠ []) (time : T)
    (state : S) : ∀ entry ∈ (pushAt triggers time state).entries, entry.2 ≠ [] := by
  intro entry member
  rcases List.mem_append.mp member with before | member
  · exact filled entry (List.mem_filter.mp before).1
  · rcases List.mem_cons.mp member with rfl | behind
    · exact List.append_ne_nil_of_right_ne_nil _ (List.cons_ne_nil state [])
    · exact filled entry (List.mem_filter.mp behind).1

theorem filled_foldl_pushAt (again : List (T × S)) (triggers : BTreeMap T (List S))
    (filled : ∀ entry ∈ triggers.entries, entry.2 ≠ []) :
    ∀ entry ∈ (again.foldl (fun triggers again => pushAt triggers again.1 again.2) triggers).entries,
      entry.2 ≠ [] := by
  induction again generalizing triggers with
  | nil => exact filled
  | cons first rest ih => exact ih _ (filled_pushAt triggers filled first.1 first.2)

theorem filled_addUnadded (self : IntervalScheduler T S) (filled : ∀ entry ∈ self.triggers.entries, entry.2 ≠ [])
    (now : T) : ∀ entry ∈ (self.addUnadded interval now).entries, entry.2 ≠ [] := by
  unfold addUnadded
  generalize self.triggers = triggers at filled
  induction self.unaddedTriggers generalizing triggers with
  | nil => exact filled
  | cons first rest ih =>
    apply ih
    dsimp only
    rcases interval.initialise first now with ⟨state,_ | time⟩
    · exact filled
    · exact filled_pushAt triggers filled time state

theorem filled_tick (self : IntervalScheduler T S) (filled : ∀ entry ∈ self.triggers.entries, entry.2 ≠ []) (now : T) :
    ∀ entry ∈ (self.tick interval now).2.triggers.entries, entry.2 ≠ [] := by
  rw [tick_eq]
  apply filled_foldl_pushAt
  intro entry member
  exact self.filled_addUnadded interval filled now entry ((List.dropWhile_sublist _).subset member)

omit [DecidableEq T] [IsStrictTotalOrder T (· < ·)] in
theorem advance_reports (now : T) (place : Option T × S) (report : LookupId × T)
    (reported : (advance interval now place).1 = some report) : ¬now < report.2 := by
  have settled : ∀ dueAt state, (settle interval now dueAt state).1 = some report → ¬now < report.2 := by
    intro dueAt state reported
    by_cases later : now < dueAt
    · rw [settle_later interval now dueAt state later] at reported
      cases reported
    · rw [settle_due interval now dueAt state _ _ later rfl] at reported
      obtain ⟨_,_,rfl⟩ := Option.map_eq_some_iff.mp reported
      exact later
  rcases place with ⟨_ | dueAt,state⟩
  · rw [advance_unadded] at reported
    split at reported
    · exact settled _ _ reported
    · cases reported
  · exact settled dueAt state reported

theorem tick_due (self : IntervalScheduler T S) (now : T) (report : LookupId × T)
    (reported : report ∈ (self.tick interval now).1) : ¬now < report.2 := by
  obtain ⟨place,_,found⟩ := List.mem_filterMap.mp ((tick_advances interval self now).1.mem_iff.mp reported)
  exact advance_reports interval now place report found

variable {interval}

/-- A tick reports a trigger once for each of its states at most. -/
theorem tick_reports_once (lawful : interval.Lawful) (self : IntervalScheduler T S)
    (represents : self.Represents interval) (now : T) : ((self.tick interval now).1.map Prod.fst).Nodup := by
  rw [((tick_advances interval self now).1.map Prod.fst).nodup_iff]
  have once := represents.once
  rw [map_lookupId_states] at once
  refine List.Nodup.sublist ?_ once
  apply map_filterMap_sublist
  intro place report reported
  exact (advance_lookupId interval lawful now place).1 report reported

theorem tick_reports_known (lawful : interval.Lawful) (self : IntervalScheduler T S)
    (represents : self.Represents interval) (now : T) (report : LookupId × T)
    (reported : report ∈ (self.tick interval now).1) : report.1 ∈ self.triggerIds := by
  obtain ⟨place,member,found⟩ := List.mem_filterMap.mp ((tick_advances interval self now).1.mem_iff.mp reported)
  rw [(advance_lookupId interval lawful now place).1 report found]
  apply represents.known
  rw [← map_places]
  exact List.mem_map_of_mem member

theorem represents_apply (lawful : interval.Lawful) (self : IntervalScheduler T S)
    (represents : self.Represents interval) (act : Act T S) : (self.apply interval act).2.Represents interval := by
  have known := known_apply lawful self represents.known act
  cases act with
  | add state =>
    rcases self.apply_add interval state with same | ⟨unknown,added⟩
    · rw [same]
      exact represents
    · rw [added] at known ⊢
      refine ⟨?_,known,represents.filled⟩
      rw [map_lookupId_states,places_add,List.map_append,← map_lookupId_states]
      refine List.Nodup.append represents.once (List.nodup_singleton _) ?_
      rw [List.map_singleton,List.disjoint_singleton]
      intro member
      obtain ⟨held,inside,same⟩ := List.mem_map.mp member
      exact unknown (same ▸ represents.known held inside)
  | remove id => exact represents_removeTrigger interval self represents id
  | tick now =>
    refine ⟨?_,known,self.filled_tick interval represents.filled now⟩
    have once := represents.once
    rw [map_lookupId_states] at once ⊢
    change ((self.tick interval now).2.places.map (fun place => interval.lookupId place.2)).Nodup
    rw [((tick_advances interval self now).2.map (fun place => interval.lookupId place.2)).nodup_iff]
    refine List.Nodup.sublist ?_ once
    apply map_filterMap_sublist
    intro place again put
    exact (advance_lookupId interval lawful now place).2 again put

variable (interval) in
def step (self : IntervalScheduler T S) (act : Act T S) : Option (IntervalScheduler T S) :=
  some (self.apply interval act).2

variable (interval) in
/-- The call adds the trigger, and is not refused. -/
def Adds (id : LookupId) (self : IntervalScheduler T S) (act : Act T S) : Prop :=
  ∃ state next, act = .add state ∧ interval.lookupId state = id ∧ self.addTrigger interval state = .ok (true,next)

omit [DecidableEq T] [IsStrictTotalOrder T (· < ·)] in
theorem addTrigger_cases (self next : IntervalScheduler T S) (state : S) (added : Bool)
    (result : self.addTrigger interval state = .ok (added,next)) :
    (added = false ∧ next = self) ∨
      added = true ∧ next.triggerIds = self.triggerIds.insert (interval.lookupId state) := by
  unfold addTrigger at result
  split at result
  · cases result
  · split at result
    · cases result
      exact .inl ⟨rfl,rfl⟩
    · cases result
      exact .inr ⟨rfl,rfl⟩

theorem step_unknown (id : LookupId) (self : IntervalScheduler T S) (act : Act T S) (next : IntervalScheduler T S)
    (taken : self.step interval act = some next) (quiet : ¬Adds interval id self act) (unknown : id ∉ self.triggerIds) :
    id ∉ next.triggerIds := by
  cases taken
  cases act with
  | add state =>
    cases result : self.addTrigger interval state with
    | error reason =>
      simp only [apply,result]
      exact unknown
    | ok outcome =>
      obtain ⟨added,next⟩ := outcome
      simp only [apply,result]
      rcases addTrigger_cases self next state added result with ⟨_,rfl⟩ | ⟨rfl,ids⟩
      · exact unknown
      · rw [ids,HashSet.mem_insert]
        rintro (same | old)
        · exact quiet ⟨state,next,rfl,same.symm,result⟩
        · exact unknown old
  | remove other =>
    intro member
    exact unknown ((HashSet.mem_remove _ _ _).mp member).2
  | tick now => exact unknown

theorem step_represents (lawful : interval.Lawful) (self : IntervalScheduler T S) (act : Act T S)
    (next : IntervalScheduler T S) (taken : self.step interval act = some next) (represents : self.Represents interval) :
    next.Represents interval := by
  cases taken
  exact represents_apply lawful self represents act

/-- After a trigger is removed no tick reports it, as long as it is not added. -/
theorem removed_silent (lawful : interval.Lawful) (self : IntervalScheduler T S)
    (represents : self.Represents interval) (id : LookupId) (acts : List (Act T S)) (final : IntervalScheduler T S)
    (reached : Execution.run (step interval) (self.removeTrigger interval id) acts = some final)
    (quiet : Execution.Along (step interval) (fun self act _ => ¬Adds interval id self act)
      (self.removeTrigger interval id) acts) (now : T) (report : LookupId × T)
    (reported : report ∈ (final.tick interval now).1) : report.1 ≠ id := by
  have removed : id ∉ (self.removeTrigger interval id).triggerIds := by
    intro member
    exact ((HashSet.mem_remove _ _ _).mp member).1 rfl
  have unknown := Execution.invariant_along _ (fun self : IntervalScheduler T S => id ∉ self.triggerIds)
    (step_unknown id) _ final acts reached quiet removed
  have held := Execution.invariant _ (step_represents lawful) _ final acts reached
    (represents_removeTrigger interval self represents id)
  rintro rfl
  exact unknown (tick_reports_known lawful final held now report reported)

/-- Over any calls, of states that keep their lookup ids, the scheduler represents its triggers, each tick ends and
reports a trigger at most once and only when it is due, and a removed trigger is not reported until it is added. -/
theorem run_represents (lawful : interval.Lawful) (acts : List (Act T S)) :
    ∃ scheduler, Execution.run (step interval) new acts = some scheduler ∧ scheduler.Represents interval ∧
      (∀ now, (∀ rounds, scheduler.len < rounds →
          scheduler.tickWithin interval rounds now = some (scheduler.tick interval now)) ∧
        ((scheduler.tick interval now).1.map Prod.fst).Nodup ∧
        ∀ report ∈ (scheduler.tick interval now).1, ¬now < report.2) ∧
      ∀ id later final, Execution.run (step interval) (scheduler.removeTrigger interval id) later = some final →
        Execution.Along (step interval) (fun self act _ => ¬Adds interval id self act)
          (scheduler.removeTrigger interval id) later →
        ∀ now, ∀ report ∈ (final.tick interval now).1, report.1 ≠ id := by
  have total : ∀ self act, ∃ next, step interval self act = some next := fun self act => ⟨_,rfl⟩
  obtain ⟨scheduler,reached⟩ := Execution.run_total total new acts
  have represents := Execution.invariant _ (step_represents lawful) _ scheduler acts reached (represents_new interval)
  refine ⟨scheduler,reached,represents,fun now => ⟨?_,?_,?_⟩,?_⟩
  · exact scheduler.tickWithin_eq interval now
  · exact tick_reports_once lawful scheduler represents now
  · exact scheduler.tick_due interval now
  · intro id later final after quiet now
    exact removed_silent lawful scheduler represents id later final after quiet now

end Invariant

theorem run_represents_block : ∃ scheduler,
    Execution.run (step blockInterval) new [.add (.new 7 ⟨2,by decide⟩ none none),.tick ⟨5,by decide⟩] = some scheduler ∧
      scheduler.Represents blockInterval ∧ ∀ report ∈ (scheduler.tick blockInterval ⟨6,by decide⟩).1, report.2.height.val ≤ 6 := by
  obtain ⟨scheduler,reached,represents,ticks,_⟩ := run_represents blockInterval_lawful
    [.add (.new 7 ⟨2,by decide⟩ none none),.tick ⟨5,by decide⟩]
  refine ⟨scheduler,reached,represents,?_⟩
  intro report reported
  exact UInt64.not_lt.mp ((ticks ⟨6,by decide⟩).2.2 report reported)

/-- A state that forgets its lookup id when it is initialised. -/
def forgetful : IntervalState BlockHeight LookupId where
  lookupId state := state
  initialise _ now := (0,some now)
  intervalHit state _ := (state,none)
  startTime _ := none
  endTime _ := none

theorem forgetful_collides : ∃ scheduler,
    Execution.run (step forgetful) new [.add 1,.add 2,.tick ⟨5,by decide⟩] = some scheduler ∧
      ¬scheduler.Represents forgetful := by
  refine ⟨_,rfl,?_⟩
  intro represents
  exact absurd represents.once (by decide +kernel)

end IntervalScheduler
end Warpdrive.Trigger
