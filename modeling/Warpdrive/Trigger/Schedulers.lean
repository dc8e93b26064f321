import Warpdrive.Foundation.Maps
import Warpdrive.Types.Service

/-! The errors of the trigger subsystem that its modelled parts return
(`trigger/error.rs`), the interval scheduler
(`trigger/schedulers/interval_scheduler.rs`) and its two kinds of state, for blocks
(`block_scheduler.rs`) and for cron expressions (`cron_scheduler.rs`). The cron crate
is a parameter: which expressions it parses and the times an expression gives after a
time, each already converted to a timestamp. Block heights are added as `u64` are in a release build. -/
namespace Warpdrive.Trigger

open Warpdrive.Foundation Warpdrive.Types

abbrev LookupId := Nat

/-- `trait IntervalState`, with the state a mutating call leaves. -/
structure IntervalState (T S : Type) where
  lookupId : S → LookupId
  initialise : S → T → S × Option T
  intervalHit : S → T → S × Option (Option T)
  startTime : S → Option T
  endTime : S → Option T

structure IntervalScheduler (T S : Type) [LT T] where
  triggers : BTreeMap T (List S)
  unaddedTriggers : List S
  triggerIds : HashSet LookupId

inductive StellarClientError
  | invalidLedgerRange (start stop : UInt32)
  | invalidWildcard (segment : String)
  | connection (reason : String)
  deriving DecidableEq

inductive TriggerError
  | climb (reason : String)
  | evmMissingWebsocket (chain : ChainKey)
  | noSuchService (serviceId : ServiceId)
  | noSuchWorkflow (serviceId : ServiceId) (workflowId : WorkflowId)
  | noSuchTriggerData (lookupId : LookupId)
  | cron (expression reason : String)
  | intervalStartAfterEnd
  | localCommandError
  | uriCreation (text : String)
  | stellarMissingRpc (chain : ChainKey)
  | stellarClient (error : StellarClientError)
  | stellarMissingClient (chain : ChainKey)
  deriving DecidableEq

namespace IntervalScheduler

variable {T S : Type} [LT T]

def new : IntervalScheduler T S := ⟨⟨[],List.Pairwise.nil⟩,[],.empty⟩

/-- Every state of the scheduler, due or not yet added. -/
def states (self : IntervalScheduler T S) : List S :=
  self.triggers.entries.flatMap Prod.snd ++ self.unaddedTriggers

def removeTrigger (interval : IntervalState T S) (self : IntervalScheduler T S) (id : LookupId) :
    IntervalScheduler T S where
  triggers :=
    {entries := (self.triggers.entries.map (fun entry =>
       (entry.1,entry.2.filter (fun state => interval.lookupId state ≠ id)))).filter
         (fun entry => !entry.2.isEmpty)
     ascending := by
       apply List.Pairwise.filter
       rw [List.pairwise_map]
       exact self.triggers.ascending}
  unaddedTriggers := self.unaddedTriggers.filter (fun state => interval.lookupId state ≠ id)
  triggerIds := self.triggerIds.remove id

variable [DecidableLT T]

def startsAfterEnd (interval : IntervalState T S) (state : S) : Bool :=
  match interval.startTime state,interval.endTime state with
  | some start,some stop => decide (stop < start)
  | _,_ => false

def addTrigger (interval : IntervalState T S) (self : IntervalScheduler T S) (state : S) :
    Except TriggerError (Bool × IntervalScheduler T S) :=
  if startsAfterEnd interval state then .error .intervalStartAfterEnd
  else if interval.lookupId state ∈ self.triggerIds then .ok (false,self)
  else
    .ok (true,{self with
      triggerIds := self.triggerIds.insert (interval.lookupId state)
      unaddedTriggers := self.unaddedTriggers ++ [state]})

variable [DecidableEq T] [IsStrictTotalOrder T (· < ·)]

/-- `triggers.entry(time).or_default().push(state)`. -/
def pushAt (triggers : BTreeMap T (List S)) (time : T) (state : S) : BTreeMap T (List S) :=
  triggers.insert time ((triggers.get time).getD [] ++ [state])

/-- What one due state reports, and when it is added again. -/
def hit (interval : IntervalState T S) (now dueAt : T) (state : S) :
    Option (LookupId × T) × Option (T × S) :=
  let (state,outcome) := interval.intervalHit state now
  let reported := outcome.map (fun _ => (interval.lookupId state,dueAt))
  let next := outcome.getD (some dueAt)
  let next :=
    match interval.endTime state with
    | some stop => if now < stop then next else none
    | none => next
  (reported,next.map (fun time => (time,state)))

def tick (interval : IntervalState T S) (self : IntervalScheduler T S) (now : T) :
    List (LookupId × T) × IntervalScheduler T S :=
  let added := self.unaddedTriggers.foldl (fun triggers state =>
    match interval.initialise state now with
    | (state,some time) => pushAt triggers time state
    | (_,none) => triggers) self.triggers
  let due := added.entries.takeWhile (fun entry => !decide (now < entry.1))
  let later : BTreeMap T (List S) :=
    {entries := added.entries.dropWhile (fun entry => !decide (now < entry.1))
     ascending := added.ascending.sublist (List.dropWhile_sublist _)}
  let hits := due.flatMap (fun entry => entry.2.map (hit interval now entry.1))
  (hits.filterMap Prod.fst,
    {self with
      unaddedTriggers := []
      triggers := (hits.filterMap Prod.snd).foldl
        (fun triggers again => pushAt triggers again.1 again.2) later})

end IntervalScheduler

structure BlockHeight where
  height : NonZeroU64
  deriving DecidableEq

instance : LT BlockHeight := ⟨fun a b => a.height.val.toNat < b.height.val.toNat⟩

instance (a b : BlockHeight) : Decidable (a < b) :=
  inferInstanceAs (Decidable (a.height.val.toNat < b.height.val.toNat))

instance : IsStrictTotalOrder BlockHeight (· < ·) where
  irrefl a := Nat.lt_irrefl a.height.val.toNat
  trans _ _ _ := Nat.lt_trans
  trichotomous a b below above := by
    have equal : a.height.val.toNat = b.height.val.toNat :=
      Nat.le_antisymm (Nat.not_lt.mp above) (Nat.not_lt.mp below)
    have same : a.height = b.height := Subtype.ext (UInt64.toNat_inj.mp equal)
    cases a
    cases b
    simpa using same

def BlockHeight.ofU64 (height : UInt64) : Option BlockHeight :=
  if nonzero : height ≠ 0 then some ⟨height,nonzero⟩ else none

structure BlockIntervalState where
  interval : NonZeroU32
  kickoffTime : Option BlockHeight
  lookupId : LookupId
  startTime : Option BlockHeight
  endTime : Option BlockHeight
  deriving DecidableEq

namespace BlockIntervalState

def new (lookupId : LookupId) (interval : NonZeroU32) (startTime endTime : Option BlockHeight) :
    BlockIntervalState :=
  ⟨interval,none,lookupId,startTime,endTime⟩

def initialise (self : BlockIntervalState) (now : BlockHeight) :
    BlockIntervalState × Option BlockHeight :=
  let interval := self.interval.val.toUInt64
  let start := (self.startTime.getD now).height.val
  let delta := if now.height.val < start then 0 else now.height.val - start
  let periods := delta / interval + if delta % interval = 0 then 0 else 1
  ({self with kickoffTime := BlockHeight.ofU64 start},BlockHeight.ofU64 (start + periods * interval))

def intervalHit (self : BlockIntervalState) (now : BlockHeight) :
    BlockIntervalState × Option (Option BlockHeight) :=
  let interval := self.interval.val.toUInt64
  match self.kickoffTime with
  | none => (self,none)
  | some kickoff =>
    if (now.height.val - kickoff.height.val) % interval = 0 then
      (self,some (BlockHeight.ofU64 (now.height.val + interval)))
    else (self,none)

end BlockIntervalState

def blockInterval : IntervalState BlockHeight BlockIntervalState where
  lookupId := BlockIntervalState.lookupId
  initialise := BlockIntervalState.initialise
  intervalHit := BlockIntervalState.intervalHit
  startTime := BlockIntervalState.startTime
  endTime := BlockIntervalState.endTime

abbrev BlockScheduler := IntervalScheduler BlockHeight BlockIntervalState

instance : LT Timestamp := ⟨fun a b => a.nanos.toNat < b.nanos.toNat⟩

instance (a b : Timestamp) : Decidable (a < b) :=
  inferInstanceAs (Decidable (a.nanos.toNat < b.nanos.toNat))

/-- The cron crate: the reason why an expression is refused, and the times of an
accepted one after a time, in order. -/
structure CronLib where
  parse : String → Except String Unit
  after : String → Timestamp → Nat → Option (Except String Timestamp)

structure CronIntervalState where
  schedule : String
  iterator : Option (Timestamp × Nat)
  nextTriggerTime : Option Timestamp
  lookupId : LookupId
  startTime : Option Timestamp
  endTime : Option Timestamp
  deriving DecidableEq

namespace CronIntervalState

def new (lookupId : LookupId) (schedule : String) (startTime endTime : Option Timestamp) :
    CronIntervalState :=
  ⟨schedule,none,none,lookupId,startTime,endTime⟩

def setNextTriggerTime (cron : CronLib) (self : CronIntervalState) : CronIntervalState :=
  match self.iterator with
  | none => {self with nextTriggerTime := none}
  | some (anchor,count) =>
    let self := {self with iterator := some (anchor,count + 1)}
    match cron.after self.schedule anchor count with
    | some (.ok time) =>
      match self.endTime with
      | some stop =>
        if stop < time then {self with nextTriggerTime := none}
        else {self with nextTriggerTime := some time}
      | none => {self with nextTriggerTime := some time}
    | some (.error _) => {self with nextTriggerTime := none}
    | none => {self with nextTriggerTime := none}

def initialise (cron : CronLib) (self : CronIntervalState) (now : Timestamp) :
    CronIntervalState × Option Timestamp :=
  let effectiveNow :=
    match self.startTime with
    | some start => if now < start then start else now
    | none => now
  let self := setNextTriggerTime cron {self with iterator := some (effectiveNow,0)}
  (self,self.nextTriggerTime)

def intervalHit (cron : CronLib) (self : CronIntervalState) (now : Timestamp) :
    CronIntervalState × Option (Option Timestamp) :=
  match self.nextTriggerTime with
  | some next =>
    if now < next then (self,none)
    else
      let self := setNextTriggerTime cron self
      (self,some self.nextTriggerTime)
  | none => (self,none)

end CronIntervalState

def cronInterval (cron : CronLib) : IntervalState Timestamp CronIntervalState where
  lookupId := CronIntervalState.lookupId
  initialise := CronIntervalState.initialise cron
  intervalHit := CronIntervalState.intervalHit cron
  startTime := CronIntervalState.startTime
  endTime := CronIntervalState.endTime

abbrev CronScheduler := IntervalScheduler Timestamp CronIntervalState

namespace IntervalScheduler

variable {T S : Type} [LT T] (interval : IntervalState T S)

/-- The states a scheduler holds for one trigger. -/
def statesOf (self : IntervalScheduler T S) (id : LookupId) : List S :=
  self.states.filter (fun state => interval.lookupId state = id)

/-- A scheduler holds states only for the triggers it knows. -/
def Known (self : IntervalScheduler T S) : Prop :=
  ∀ state ∈ self.states, interval.lookupId state ∈ self.triggerIds

theorem states_new : (new : IntervalScheduler T S).states = [] := rfl

theorem states_removeTrigger (self : IntervalScheduler T S) (id : LookupId) :
    (self.removeTrigger interval id).states =
      self.states.filter (fun state => interval.lookupId state ≠ id) := by
  have kept : ∀ entries : List (T × List S),
      ((entries.map (fun entry =>
        (entry.1,entry.2.filter (fun state => interval.lookupId state ≠ id)))).filter
          (fun entry => !entry.2.isEmpty)).flatMap Prod.snd =
      (entries.flatMap Prod.snd).filter (fun state => interval.lookupId state ≠ id) := by
    intro entries
    induction entries with
    | nil => rfl
    | cons entry rest ih =>
      rw [List.map_cons,List.filter_cons,List.flatMap_cons,List.filter_append,← ih]
      split
      · rw [List.flatMap_cons]
      · next empty =>
        have nothing : entry.2.filter (fun state => interval.lookupId state ≠ id) = [] := by
          simpa using empty
        rw [nothing,List.nil_append]
  unfold states removeTrigger
  rw [List.filter_append,← kept self.triggers.entries]

theorem statesOf_removeTrigger (self : IntervalScheduler T S) (id other : LookupId) :
    (self.removeTrigger interval id).statesOf interval other =
      if other = id then [] else self.statesOf interval other := by
  unfold statesOf
  rw [states_removeTrigger,List.filter_filter]
  by_cases same : other = id
  · simp [same]
  · rw [if_neg same]
    apply List.filter_congr
    intro state _
    by_cases owner : interval.lookupId state = other
    · simp [owner,same]
    · simp [owner]

theorem known_removeTrigger (self : IntervalScheduler T S) (id : LookupId)
    (known : self.Known interval) : (self.removeTrigger interval id).Known interval := by
  intro state member
  rw [states_removeTrigger,List.mem_filter] at member
  have differs : interval.lookupId state ≠ id := by simpa using member.2
  exact (HashSet.mem_remove _ _ _).mpr ⟨differs,known state member.1⟩

variable [DecidableLT T]

/-- A trigger that was not known is added with its state. -/
theorem addTrigger_ok (self next : IntervalScheduler T S) (state : S) (added : Bool)
    (result : self.addTrigger interval state = .ok (added,next))
    (absent : interval.lookupId state ∉ self.triggerIds) :
    next.triggerIds = self.triggerIds.insert (interval.lookupId state) ∧
      next.states = self.states ++ [state] := by
  unfold addTrigger at result
  split at result
  · cases result
  · cases result
    exact ⟨rfl,(List.append_assoc _ _ _).symm⟩

omit [DecidableLT T] in
variable {interval} in
theorem Known.statesOf_eq_nil {self : IntervalScheduler T S} (known : self.Known interval) (id : LookupId)
    (absent : id ∉ self.triggerIds) : self.statesOf interval id = [] := by
  apply List.filter_eq_nil_iff.mpr
  intro state member owner
  have owner : interval.lookupId state = id := by simpa using owner
  rw [← owner] at absent
  exact absent (known state member)

theorem statesOf_addTrigger (self next : IntervalScheduler T S) (state : S) (added : Bool)
    (result : self.addTrigger interval state = .ok (added,next)) (known : self.Known interval)
    (absent : interval.lookupId state ∉ self.triggerIds) (other : LookupId) :
    next.statesOf interval other =
      if other = interval.lookupId state then [state] else self.statesOf interval other := by
  obtain ⟨_,states⟩ := addTrigger_ok interval self next state added result absent
  unfold statesOf
  rw [states,List.filter_append]
  by_cases same : other = interval.lookupId state
  · subst other
    have nothing := known.statesOf_eq_nil _ absent
    unfold statesOf at nothing
    simp [nothing]
  · simp [same,Ne.symm same]

theorem known_addTrigger (self next : IntervalScheduler T S) (state : S) (added : Bool)
    (result : self.addTrigger interval state = .ok (added,next)) (known : self.Known interval)
    (absent : interval.lookupId state ∉ self.triggerIds) : next.Known interval := by
  obtain ⟨ids,states⟩ := addTrigger_ok interval self next state added result absent
  intro member inside
  rw [ids,HashSet.mem_insert]
  rw [states,List.mem_append,List.mem_singleton] at inside
  rcases inside with inside | rfl
  · exact .inr (known member inside)
  · exact .inl rfl

omit [DecidableLT T] in
theorem known_new : (new : IntervalScheduler T S).Known interval := by
  intro state member
  rw [states_new] at member
  cases member

end IntervalScheduler
end Warpdrive.Trigger
