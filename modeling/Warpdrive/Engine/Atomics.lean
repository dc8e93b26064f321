import Mathlib.Data.Fintype.Basic
import Warpdrive.Foundation.Execution
import Warpdrive.Engine.KeyValue
import Warpdrive.Types.Submission

/-! The atomics interface under concurrency. `increment` and `swap` read a table and write it in a
second access, and executions of one service run side by side, so one may write what another has
read and not yet written. Where no write falls between a read and its write, increments add up and
a swap replaces its snapshot. -/
namespace Warpdrive.Engine

open Warpdrive.Foundation.Execution Warpdrive.Types

/-- Where an execution stands between the two table accesses of a call. -/
inductive Pending (keyNamespace : String)
  | idle
  | counted (key : Key) (count delta : Int64)
  | compared (cas : KeyValueCas keyNamespace) (value : List UInt8)

/-- An increment that returned. -/
structure Counted where
  text : String
  delta : Int64
  result : Int64
  deriving DecidableEq

/-- A swap that returned, with the value that it wrote over. -/
structure Swapped where
  text : String
  snapshot : Option (List UInt8)
  replaced : Option (List UInt8)
  deriving DecidableEq

/-- The executions of one service over the database, and the increments and swaps that returned. -/
structure Interleaved (resources : ResourceTable) (keyNamespace : String) (E : Type) where
  db : KeyValueDb
  tables : E → resources.Table (Entry keyNamespace)
  pending : E → Pending keyNamespace
  increments : List Counted
  swaps : List Swapped

inductive Access
  | call (operation : Operation)
  | finish
  deriving DecidableEq

/-- A key of one of the two tables. -/
inductive Place
  | kvStore (text : String)
  | kvAtomicsCounter (text : String)
  deriving DecidableEq

def Pending.place {keyNamespace : String} : Pending keyNamespace → Option Place
  | .idle => none
  | .counted key _ _ => some (.kvAtomicsCounter key.display)
  | .compared cas _ => some (.kvStore cas.key.display)

/-- Calls of one table access at most, which are single steps. -/
def Operation.single : Operation → Bool
  | .increment _ _ _ => false
  | .swap _ _ => false
  | .getMany _ _ => false
  | .setMany _ _ => false
  | .deleteMany _ _ => false
  | .listKeys _ _ => false
  | _ => true

namespace Interleaved

variable {resources : ResourceTable} {keyNamespace : String} {E : Type}

def start (db : KeyValueDb) (tables : E → resources.Table (Entry keyNamespace)) :
    Interleaved resources keyNamespace E :=
  ⟨db,tables,fun _ => .idle,[],[]⟩

variable (self : Interleaved resources keyNamespace E)

def keyValueState (execution : E) : KeyValueState resources keyNamespace :=
  ⟨self.db,self.tables execution,none⟩

def countOf (text : String) : Int64 := (self.db.kvAtomicsCounter.getCloned text).getD 0

/-- The place that a step writes. -/
def writes (act : E × Access) : Option Place :=
  match act.2 with
  | .finish => (self.pending act.1).place
  | .call (.set bucket key _) =>
    ((self.keyValueState act.1).getKey bucket key).toOption.map (fun key => .kvStore key.display)
  | .call (.delete bucket key) =>
    ((self.keyValueState act.1).getKey bucket key).toOption.map (fun key => .kvStore key.display)
  | .call _ => none

/-- No other execution has read the place that the step writes without having written it yet. -/
def Undisturbed (act : E × Access) (_ : Interleaved resources keyNamespace E) : Prop :=
  ∀ other, other ≠ act.1 → self.writes act ≠ none → (self.pending other).place ≠ self.writes act

instance [Fintype E] [DecidableEq E] (act : E × Access) (next : Interleaved resources keyNamespace E) :
    Decidable (self.Undisturbed act next) :=
  inferInstanceAs (Decidable (∀ _, _))

/-- Increments one after the other, from one count to another. -/
def Serial : Int64 → List Counted → Int64 → Prop
  | first,[],last => last = first
  | first,increment::rest,last => increment.result = first + increment.delta ∧ Serial increment.result rest last

theorem serial_append (first last : Int64) (increments : List Counted) (increment : Counted)
    (serial : Serial first increments last) (added : increment.result = last + increment.delta) :
    Serial first (increments ++ [increment]) increment.result := by
  induction increments generalizing first with
  | nil =>
    cases serial
    exact ⟨added,rfl⟩
  | cons earlier rest ih => exact ⟨serial.1,ih earlier.result serial.2⟩

theorem serial_sum (first last : Int64) (increments : List Counted) (serial : Serial first increments last) :
    last = first + (increments.map Counted.delta).sum := by
  induction increments generalizing first with
  | nil =>
    rw [List.map_nil,List.sum_nil,Int64.add_zero]
    exact serial
  | cons increment rest ih =>
    rw [List.map_cons,List.sum_cons,← Int64.add_assoc,← serial.1]
    exact ih increment.result serial.2

/-- A pending read still stands. -/
def Current (db : KeyValueDb) : Pending keyNamespace → Prop
  | .idle => True
  | .counted key count _ => (db.kvAtomicsCounter.getCloned key.display).getD 0 = count
  | .compared cas _ => db.kvStore.getCloned cas.key.display = cas.snapshot

structure Coherent (initial : KeyValueDb) (state : Interleaved resources keyNamespace E) : Prop where
  current : ∀ execution, Current state.db (state.pending execution)
  serial : ∀ text, Serial ((initial.kvAtomicsCounter.getCloned text).getD 0)
    (state.increments.filter (fun increment => increment.text = text)) (state.countOf text)
  swapped : ∀ swap ∈ state.swaps, swap.replaced = swap.snapshot

/-- Two databases that differ at one place at most. -/
structure Elsewhere (place : Option Place) (before after : KeyValueDb) : Prop where
  kvStore : ∀ text, place ≠ some (.kvStore text) → after.kvStore.getCloned text = before.kvStore.getCloned text
  kvAtomicsCounter : ∀ text, place ≠ some (.kvAtomicsCounter text) →
    after.kvAtomicsCounter.getCloned text = before.kvAtomicsCounter.getCloned text

theorem elsewhere_refl (place : Option Place) (db : KeyValueDb) : Elsewhere place db db :=
  ⟨fun _ _ => rfl,fun _ _ => rfl⟩

theorem Elsewhere.current {place : Option Place} {before after : KeyValueDb} (elsewhere : Elsewhere place before after)
    (pending : Pending keyNamespace) (apart : place ≠ none → pending.place ≠ place)
    (current : Current before pending) : Current after pending := by
  have differ : ∀ here, pending.place = some here → place ≠ some here := by
    intro here stands same
    exact apart (by rw [same]; exact Option.some_ne_none here) (stands.trans same.symm)
  cases pending with
  | idle => trivial
  | counted key count delta =>
    change (after.kvAtomicsCounter.getCloned key.display).getD 0 = count
    rw [elsewhere.kvAtomicsCounter _ (differ _ rfl)]
    exact current
  | compared cas value => exact (elsewhere.kvStore _ (differ _ rfl)).trans current

/-- A single call changes the counters never and the store where it says. -/
theorem single_elsewhere (execution : E) (operation : Operation) (single : operation.single = true) :
    Elsewhere (self.writes (execution,.call operation)) self.db
      ((self.keyValueState execution).perform operation).1.db := by
  have unchanged : ((self.keyValueState execution).perform operation).1.db = self.db →
      Elsewhere (self.writes (execution,.call operation)) self.db
        ((self.keyValueState execution).perform operation).1.db := by
    intro same
    rw [same]
    exact elsewhere_refl _ _
  have pushed := (self.keyValueState execution).pushEntry_db
  have dropped := (self.keyValueState execution).dropResource_db
  cases operation with
  | set bucket text value =>
    change Elsewhere _ self.db ((self.keyValueState execution).set bucket text value).1.db
    unfold KeyValueState.set
    cases found : (self.keyValueState execution).getKey bucket text with
    | error e => exact elsewhere_refl _ _
    | ok key =>
      refine ⟨?_,fun _ _ => rfl⟩
      intro other differ
      refine WavsDbTable.getCloned_insert_ne _ _ _ _ ?_
      rintro rfl
      exact differ (by simp [writes,found,Except.toOption])
  | delete bucket text =>
    change Elsewhere _ self.db ((self.keyValueState execution).delete bucket text).1.db
    unfold KeyValueState.delete
    cases found : (self.keyValueState execution).getKey bucket text with
    | error e => exact elsewhere_refl _ _
    | ok key =>
      refine ⟨?_,fun _ _ => rfl⟩
      intro other differ
      refine WavsDbTable.getCloned_remove_ne _ _ _ ?_
      rintro rfl
      exact differ (by simp [writes,found,Except.toOption])
  | open' bucketId => exact unchanged (pushed _ _)
  | newCas bucket text =>
    refine unchanged ?_
    change ((self.keyValueState execution).newCas bucket text).1.db = self.db
    unfold KeyValueState.newCas
    split
    · rfl
    · exact pushed _ _
  | dropBucket bucket => exact unchanged (dropped bucket)
  | dropCas cas => exact unchanged (dropped cas)
  | get bucket text => exact unchanged rfl
  | exists' bucket text => exact unchanged rfl
  | current cas => exact unchanged rfl
  | increment bucket text delta => cases single
  | swap cas value => cases single
  | getMany bucket texts => cases single
  | setMany bucket entries => cases single
  | deleteMany bucket texts => cases single
  | listKeys bucket cursor => cases single

/-- A failed swap pushes a fresh snapshot and writes nothing. -/
theorem swap_failed_db (state : KeyValueState resources keyNamespace) (cas : Nat) (value : List UInt8)
    (entry : KeyValueCas keyNamespace) (found : state.getCas cas = .ok entry)
    (differ : state.getStoreValue entry.key ≠ entry.snapshot) : (state.swap cas value).1.db = state.db := by
  unfold KeyValueState.swap
  rw [found]
  dsimp only
  rw [if_pos differ]
  split <;> exact state.pushEntry_db _ _

variable [DecidableEq E]

def waits (execution : E) (pending : Pending keyNamespace) : Interleaved resources keyNamespace E :=
  {self with pending := Function.update self.pending execution pending}

/-- The state of one execution's call put back. -/
def restore (execution : E) (state : KeyValueState resources keyNamespace) : Interleaved resources keyNamespace E :=
  {self with db := state.db,tables := Function.update self.tables execution state.resourceTable}

/-- A call up to its first table access. -/
def call (execution : E) (operation : Operation) : Option (Interleaved resources keyNamespace E) :=
  let state := self.keyValueState execution
  match operation with
  | .increment bucket key delta =>
    match state.getKey bucket key with
    | .error _ => some self
    | .ok key => some (self.waits execution (.counted key (self.countOf key.display) delta))
  | .swap cas value =>
    match state.getCas cas with
    | .error _ => some self
    | .ok entry =>
      if state.getStoreValue entry.key = entry.snapshot then some (self.waits execution (.compared entry value))
      else some (self.restore execution (state.swap cas value).1)
  | operation => if operation.single then some (self.restore execution (state.perform operation).1) else none

/-- The second table access, with which the call returns. -/
def finish (execution : E) : Option (Interleaved resources keyNamespace E) :=
  match self.pending execution with
  | .idle => none
  | .counted key count delta =>
    let state := (self.keyValueState execution).saveAtomicCount key (count + delta)
    let done := (self.restore execution state).waits execution .idle
    some {done with increments := self.increments ++ [⟨key.display,delta,count + delta⟩]}
  | .compared cas value =>
    let state := (self.keyValueState execution).setStoreValue cas.key value
    let done := (self.restore execution state).waits execution .idle
    some {done with swaps := self.swaps ++
      [⟨cas.key.display,cas.snapshot,(self.keyValueState execution).getStoreValue cas.key⟩]}

def step (self : Interleaved resources keyNamespace E) (act : E × Access) : Option (Interleaved resources keyNamespace E) :=
  match act.2 with
  | .call operation =>
    match self.pending act.1 with
    | .idle => self.call act.1 operation
    | _ => none
  | .finish => self.finish act.1

variable {self} {initial : KeyValueDb}

theorem Coherent.of_restored (coherent : Coherent initial self) (place : Option Place) (execution : E)
    (state : KeyValueState resources keyNamespace) (elsewhere : Elsewhere place self.db state.db)
    (counters : ∀ text, place ≠ some (.kvAtomicsCounter text))
    (apart : ∀ other, place ≠ none → (self.pending other).place ≠ place) :
    Coherent initial (self.restore execution state) where
  current other := elsewhere.current _ (apart other) (coherent.current other)
  serial text := by
    change Serial _ _ ((state.db.kvAtomicsCounter.getCloned text).getD 0)
    rw [elsewhere.kvAtomicsCounter text (counters text)]
    exact coherent.serial text
  swapped := coherent.swapped

theorem Coherent.of_waits (coherent : Coherent initial self) (execution : E) (pending : Pending keyNamespace)
    (current : Current self.db pending) : Coherent initial (self.waits execution pending) where
  current other := by
    change Current self.db (Function.update self.pending execution pending other)
    by_cases same : other = execution
    · rw [same,Function.update_self]
      exact current
    · rw [Function.update_of_ne same]
      exact coherent.current other
  serial := coherent.serial
  swapped := coherent.swapped

theorem Coherent.call {next : Interleaved resources keyNamespace E} (coherent : Coherent initial self) (execution : E)
    (operation : Operation) (idle : self.pending execution = .idle)
    (taken : self.call execution operation = some next)
    (undisturbed : self.Undisturbed (execution,.call operation) next) : Coherent initial next := by
  have single : operation.single = true →
      Coherent initial (self.restore execution ((self.keyValueState execution).perform operation).1) := by
    intro single
    refine coherent.of_restored (self.writes (execution,.call operation)) execution _
      (self.single_elsewhere execution operation single) ?_ ?_
    · intro text same
      unfold writes at same
      split at same
      · next stops => cases stops
      · obtain ⟨key,_,same⟩ := Option.map_eq_some_iff.mp same
        cases same
      · obtain ⟨key,_,same⟩ := Option.map_eq_some_iff.mp same
        cases same
      · cases same
    · intro other write same
      by_cases mine : other = execution
      · rw [mine,idle] at same
        exact write same.symm
      · exact undisturbed other mine write same
  unfold Interleaved.call at taken
  dsimp only at taken
  split at taken
  · split at taken
    · cases taken
      exact coherent
    · cases taken
      exact coherent.of_waits execution _ rfl
  · split at taken
    · cases taken
      exact coherent
    · next entry found =>
      split at taken
      · next same =>
        cases taken
        exact coherent.of_waits execution _ same
      · next differ =>
        cases taken
        refine coherent.of_restored none execution _ ?_ (fun _ => by simp) (fun _ absurd' => (absurd' rfl).elim)
        rw [swap_failed_db _ _ _ entry found differ]
        exact elsewhere_refl _ _
  · split at taken
    · next may =>
      cases taken
      exact single may
    · cases taken

theorem Coherent.finish {next : Interleaved resources keyNamespace E} (coherent : Coherent initial self) (execution : E)
    (taken : self.finish execution = some next) (undisturbed : self.Undisturbed (execution,.finish) next) :
    Coherent initial next := by
  have others : ∀ (db : KeyValueDb), Elsewhere (self.pending execution).place self.db db →
      (self.pending execution).place ≠ none →
      ∀ other, Current db (Function.update self.pending execution .idle other) := by
    intro db elsewhere write other
    by_cases same : other = execution
    · rw [same,Function.update_self]
      trivial
    · rw [Function.update_of_ne same]
      exact elsewhere.current _ (fun _ => undisturbed other same write) (coherent.current other)
  have stands := coherent.current execution
  unfold Interleaved.finish at taken
  split at taken
  · cases taken
  · next key count delta pending =>
    cases taken
    rw [pending] at others stands
    have elsewhere : Elsewhere (some (.kvAtomicsCounter key.display)) self.db
        ((self.keyValueState execution).saveAtomicCount key (count + delta)).db := by
      refine ⟨fun _ _ => rfl,?_⟩
      intro text differ
      refine WavsDbTable.getCloned_insert_ne _ _ _ _ ?_
      rintro rfl
      exact differ rfl
    refine ⟨others _ elsewhere (Option.some_ne_none _),?_,coherent.swapped⟩
    intro text
    have before := coherent.serial text
    change Serial _ ((self.increments ++ [_]).filter _)
      (((self.db.kvAtomicsCounter.insert key.display (count + delta)).getCloned text).getD 0)
    rw [List.filter_append]
    by_cases same : text = key.display
    · subst same
      have read : self.countOf key.display = count := stands
      rw [read] at before
      rw [WavsDbTable.getCloned_insert,List.filter_singleton]
      simp only [decide_true,Option.getD_some]
      exact serial_append _ _ _ ⟨key.display,delta,count + delta⟩ before rfl
    · rw [WavsDbTable.getCloned_insert_ne _ _ _ _ same,List.filter_singleton]
      simpa [countOf,Ne.symm same] using before
  · next cas value pending =>
    cases taken
    rw [pending] at others stands
    have elsewhere : Elsewhere (some (.kvStore cas.key.display)) self.db
        ((self.keyValueState execution).setStoreValue cas.key value).db := by
      refine ⟨?_,fun _ _ => rfl⟩
      intro text differ
      refine WavsDbTable.getCloned_insert_ne _ _ _ _ ?_
      rintro rfl
      exact differ rfl
    refine ⟨others _ elsewhere (Option.some_ne_none _),coherent.serial,?_⟩
    intro swap member
    rcases List.mem_append.mp member with earlier | last
    · exact coherent.swapped swap earlier
    · rw [List.mem_singleton.mp last]
      exact stands

/-- The counters are what the increments in the order of their writes make of the initial counts,
each of them returned its count of that order, and every swap wrote over its snapshot. -/
structure Atomic (initial : KeyValueDb) (state : Interleaved resources keyNamespace E) : Prop where
  counter : ∀ text, state.countOf text = (initial.kvAtomicsCounter.getCloned text).getD 0 +
    ((state.increments.filter (fun increment => increment.text = text)).map Counted.delta).sum
  serial : ∀ text, Serial ((initial.kvAtomicsCounter.getCloned text).getD 0)
    (state.increments.filter (fun increment => increment.text = text)) (state.countOf text)
  swapped : ∀ swap ∈ state.swaps, swap.replaced = swap.snapshot

theorem Coherent.step {next : Interleaved resources keyNamespace E} (coherent : Coherent initial self)
    (act : E × Access) (taken : self.step act = some next) (undisturbed : self.Undisturbed act next) :
    Coherent initial next := by
  obtain ⟨execution,access⟩ := act
  cases access with
  | call operation =>
    unfold Interleaved.step at taken
    dsimp only at taken
    split at taken
    · next idle => exact coherent.call execution operation idle taken undisturbed
    · cases taken
  | finish => exact coherent.finish execution taken undisturbed

theorem atomics_atomic (db : KeyValueDb) (tables : E → resources.Table (Entry keyNamespace)) (acts : List (E × Access))
    (final : Interleaved resources keyNamespace E) (reached : run step (start db tables) acts = some final)
    (undisturbed : Along step Undisturbed (start db tables) acts) : Atomic db final := by
  have initial : Coherent db (start db tables : Interleaved resources keyNamespace E) :=
    ⟨fun _ => trivial,fun _ => rfl,fun _ member => absurd member List.not_mem_nil⟩
  have coherent := invariant_along Undisturbed (Coherent db)
    (fun _ act _ taken undisturbed before => before.step act taken undisturbed) _ final acts reached undisturbed initial
  exact ⟨fun text => serial_sum _ _ _ (coherent.serial text),coherent.serial,coherent.swapped⟩

/-- An increment that nothing comes between is the call of the interface. -/
theorem increment_steps (execution : E) (bucket : Nat) (text : String) (delta : Int64) (key : Key)
    (idle : self.pending execution = .idle) (found : (self.keyValueState execution).getKey bucket text = .ok key) :
    ∃ final, run step self [(execution,.call (.increment bucket text delta)),(execution,.finish)] = some final ∧
      final.db = ((self.keyValueState execution).increment bucket text delta).1.db ∧
      ∃ result, ((self.keyValueState execution).increment bucket text delta).2 = .ok result ∧
        final.increments = self.increments ++ [⟨key.display,delta,result⟩] := by
  have first : self.step (execution,.call (.increment bucket text delta)) =
      some (self.waits execution (.counted key (self.countOf key.display) delta)) := by
    unfold Interleaved.step
    dsimp only
    rw [idle]
    unfold Interleaved.call
    dsimp only
    rw [found]
  have pending : (self.waits execution (.counted key (self.countOf key.display) delta)).pending execution =
      .counted key (self.countOf key.display) delta :=
    Function.update_self ..
  have result : (self.keyValueState execution).increment bucket text delta =
      ((self.keyValueState execution).saveAtomicCount key (self.countOf key.display + delta),
        .ok (self.countOf key.display + delta)) := by
    unfold KeyValueState.increment
    rw [found]
    rfl
  obtain ⟨final,second,written,logged⟩ : ∃ final,
      (self.waits execution (.counted key (self.countOf key.display) delta)).finish execution = some final ∧
        final.db = ((self.keyValueState execution).saveAtomicCount key (self.countOf key.display + delta)).db ∧
        final.increments = self.increments ++ [⟨key.display,delta,self.countOf key.display + delta⟩] := by
    unfold Interleaved.finish
    rw [pending]
    exact ⟨_,rfl,rfl,rfl⟩
  rw [result]
  exact ⟨final,(run_cons _ _ _ _).mpr ⟨_,first,(run_cons _ _ _ _).mpr ⟨final,second,rfl⟩⟩,written,_,rfl,logged⟩

/-- A swap that nothing comes between is the call of the interface. -/
theorem swap_steps (execution : E) (cas : Nat) (value : List UInt8) (entry : KeyValueCas keyNamespace)
    (idle : self.pending execution = .idle) (found : (self.keyValueState execution).getCas cas = .ok entry)
    (fresh : (self.keyValueState execution).getStoreValue entry.key = entry.snapshot) :
    ∃ final, run step self [(execution,.call (.swap cas value)),(execution,.finish)] = some final ∧
      final.db = ((self.keyValueState execution).swap cas value).1.db ∧
      ((self.keyValueState execution).swap cas value).2 = .ok () ∧
      final.swaps = self.swaps ++ [⟨entry.key.display,entry.snapshot,entry.snapshot⟩] := by
  have first : self.step (execution,.call (.swap cas value)) =
      some (self.waits execution (.compared entry value)) := by
    unfold Interleaved.step
    dsimp only
    rw [idle]
    unfold Interleaved.call
    dsimp only
    rw [found]
    exact if_pos fresh
  have pending : (self.waits execution (.compared entry value)).pending execution = .compared entry value :=
    Function.update_self ..
  have result : (self.keyValueState execution).swap cas value =
      ((self.keyValueState execution).setStoreValue entry.key value,.ok ()) := by
    unfold KeyValueState.swap
    rw [found]
    dsimp only
    rw [if_neg (not_not.mpr fresh)]
  obtain ⟨final,second,written,logged⟩ : ∃ final, (self.waits execution (.compared entry value)).finish execution =
      some final ∧ final.db = ((self.keyValueState execution).setStoreValue entry.key value).db ∧
        final.swaps = self.swaps ++
          [⟨entry.key.display,entry.snapshot,(self.keyValueState execution).getStoreValue entry.key⟩] := by
    unfold Interleaved.finish
    rw [pending]
    exact ⟨_,rfl,rfl,rfl⟩
  rw [fresh] at logged
  rw [result]
  exact ⟨final,(run_cons _ _ _ _).mpr ⟨_,first,(run_cons _ _ _ _).mpr ⟨final,second,rfl⟩⟩,written,rfl,logged⟩

def callers : Interleaved slab "1f" Caller := start ⟨.new,.new⟩ (fun _ => [some (.bucket ⟨"jobs"⟩)])

/-- Both read the count before either writes it. -/
def lostUpdate : List (Caller × Access) :=
  [(.first,.call (.increment 0 "done" 1)),(.second,.call (.increment 0 "done" 1)),(.first,.finish),(.second,.finish)]

/-- A set falls between the comparison of a swap and its write. -/
def lostSet : List (Caller × Access) :=
  [(.first,.call (.newCas 0 "owner")),(.first,.call (.swap 1 [1])),(.second,.call (.set 0 "owner" [2])),(.first,.finish)]

theorem overlapping_updates_lost :
    (∃ final, run step callers lostUpdate = some final ∧
        (final.countOf "1f/jobs/done" = 1 ∧ final.increments = [⟨"1f/jobs/done",1,1⟩,⟨"1f/jobs/done",1,1⟩])) ∧
      ∃ final, run step callers lostSet = some final ∧ final.swaps = [⟨"1f/jobs/owner",none,some [2]⟩] := by
  constructor
  · obtain ⟨final,reached,lost⟩ := run_any step callers lostUpdate (fun final => final.countOf "1f/jobs/done" = 1 ∧
      final.increments = [⟨"1f/jobs/done",1,1⟩,⟨"1f/jobs/done",1,1⟩]) (by decide +kernel)
    exact ⟨final,reached,of_decide_eq_true lost⟩
  · obtain ⟨final,reached,lost⟩ := run_any step callers lostSet
      (fun final => final.swaps = [⟨"1f/jobs/owner",none,some [2]⟩]) (by decide +kernel)
    exact ⟨final,reached,of_decide_eq_true lost⟩

/-- Calls that overlap on different keys, and on one key after another. -/
def apart : List (Caller × Access) :=
  [(.first,.call (.increment 0 "done" 1)),(.second,.call (.increment 0 "failed" 4)),(.first,.finish),
    (.third,.call (.increment 0 "done" 2)),(.second,.finish),(.third,.finish),(.first,.call (.newCas 0 "owner")),
    (.first,.call (.swap 1 [1])),(.first,.finish),(.second,.call (.set 0 "owner" [2]))]

theorem apart_atomic :
    ∃ final, run step callers apart = some final ∧ final.countOf "1f/jobs/done" = 3 ∧
      Atomic callers.db final := by
  obtain ⟨final,reached,counted⟩ := run_any step callers apart (fun final => final.countOf "1f/jobs/done" = 3)
    (by decide +kernel)
  exact ⟨final,reached,of_decide_eq_true counted,atomics_atomic _ _ apart final reached (by decide +kernel)⟩

end Interleaved
end Warpdrive.Engine
