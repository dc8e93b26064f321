import Mathlib.Algebra.Group.Int.Defs
import Warpdrive.Foundation.Execution
import Warpdrive.Engine.KeyValue

/-! Counters over sequences of `increment` calls. The sum is added with `+=`, which wraps around in a build
without overflow checks and panics in one with them. -/
namespace Warpdrive.Engine

open Warpdrive.Foundation.Execution Warpdrive.Types

inductive Build where
  | debug
  | release

def Fits64 (sum : Int) : Prop := -2 ^ 63 ≤ sum ∧ sum < 2 ^ 63

instance (sum : Int) : Decidable (Fits64 sum) := inferInstanceAs (Decidable (_ ∧ _))

/-- `count += delta`, where a panic is `none`. -/
def Build.addAssign (count delta : Int64) : Build → Option Int64
  | .release => some (count + delta)
  | .debug => if Fits64 (count.toInt + delta.toInt) then some (count + delta) else none

theorem toInt_add_eq_iff (count delta : Int64) :
    (count + delta).toInt = count.toInt + delta.toInt ↔ Fits64 (count.toInt + delta.toInt) := by
  constructor
  · intro same
    rw [← same]
    exact ⟨Int64.le_toInt _,Int64.toInt_lt _⟩
  · rintro ⟨low,high⟩
    rw [Int64.toInt_add]
    apply Int.bmod_eq_of_le
    · omega
    · omega

theorem Build.addAssign_fits (build : Build) (count delta : Int64) (fits : Fits64 (count.toInt + delta.toInt)) :
    build.addAssign count delta = some (count + delta) := by
  cases build with
  | release => rfl
  | debug => exact if_pos fits

theorem Build.addAssign_cases (build : Build) (count delta : Int64) :
    build.addAssign count delta = none ∨ build.addAssign count delta = some (count + delta) := by
  cases build with
  | release => exact .inr rfl
  | debug =>
    by_cases fits : Fits64 (count.toInt + delta.toInt)
    · exact .inr (if_pos fits)
    · exact .inl (if_neg fits)

namespace KeyValueState

variable {resources : ResourceTable} {keyNamespace : String}

def atomicCount (self : KeyValueState resources keyNamespace) (text : String) : Int64 :=
  (self.db.kvAtomicsCounter.getCloned text).getD 0

/-- `increment`, where a panic is `none`. -/
def incrementIn (self : KeyValueState resources keyNamespace) (build : Build) (bucket : Nat) (key : String)
    (delta : Int64) : Option (KeyValueState resources keyNamespace × Except KeyValueError Int64) :=
  match self.getKey bucket key with
  | .error e => some (self,.error e)
  | .ok key =>
    (build.addAssign (self.atomicCount key.display) delta).map (fun count =>
      (self.saveAtomicCount key count,.ok count))

theorem incrementIn_release (self : KeyValueState resources keyNamespace) (bucket : Nat) (key : String)
    (delta : Int64) : self.incrementIn .release bucket key delta = some (self.increment bucket key delta) := by
  unfold incrementIn increment
  cases self.getKey bucket key with
  | error e => rfl
  | ok key => rfl

theorem atomicCount_save (self : KeyValueState resources keyNamespace) (key : Key) (count : Int64) :
    (self.saveAtomicCount key count).atomicCount key.display = count := by
  simp [atomicCount,saveAtomicCount]

theorem atomicCount_save_ne (self : KeyValueState resources keyNamespace) (key : Key) (count : Int64) (text : String)
    (differ : text ≠ key.display) : (self.saveAtomicCount key count).atomicCount text = self.atomicCount text := by
  simp [atomicCount,saveAtomicCount,WavsDbTable.getCloned_insert_ne _ _ _ _ differ]

end KeyValueState

structure Increment where
  bucket : Nat
  key : String
  delta : Int64

/-- A state under increments, with the exact sums of what each counter started from and of the deltas that were
accepted since. -/
structure Counting (resources : ResourceTable) (keyNamespace : String) where
  state : KeyValueState resources keyNamespace
  sums : String → Int
  panicked : Bool

namespace Counting

variable {resources : ResourceTable} {keyNamespace : String}

def start (state : KeyValueState resources keyNamespace) : Counting resources keyNamespace :=
  ⟨state,fun text => (state.atomicCount text).toInt,false⟩

def accept (self : Counting resources keyNamespace) (state : KeyValueState resources keyNamespace) (text : String)
    (delta : Int64) : Counting resources keyNamespace :=
  {self with
    state := state
    sums := fun other => if other = text then self.sums other + delta.toInt else self.sums other}

def step (build : Build) (self : Counting resources keyNamespace) (call : Increment) :
    Option (Counting resources keyNamespace) :=
  if self.panicked then none
  else
    match self.state.getKey call.bucket call.key,self.state.incrementIn build call.bucket call.key call.delta with
    | .ok key,some (state,.ok _) => some (self.accept state key.display call.delta)
    | _,some (state,_) => some {self with state := state}
    | _,none => some {self with panicked := true}

/-- The call returns and stores the exact sum where it fits, and else returns an error and leaves the counter. -/
def Exact (build : Build) (before : Counting resources keyNamespace) (call : Increment)
    (after : Counting resources keyNamespace) : Prop :=
  after.panicked = false ∧
    match before.state.getKey call.bucket call.key with
    | .error _ => after.state.db = before.state.db
    | .ok key => ∃ result, before.state.incrementIn build call.bucket call.key call.delta =
        some (after.state,result) ∧
      if Fits64 (before.sums key.display + call.delta.toInt) then
        ∃ count, result = .ok count ∧ count.toInt = before.sums key.display + call.delta.toInt ∧
          after.state.db.kvAtomicsCounter.getCloned key.display = some count
      else
        (∃ error, result = .error error) ∧ after.state.db.kvAtomicsCounter.getCloned key.display =
          before.state.db.kvAtomicsCounter.getCloned key.display

def Within (before : Counting resources keyNamespace) (call : Increment) (_ : Counting resources keyNamespace) :
    Prop :=
  ∀ key, before.state.getKey call.bucket call.key = .ok key → Fits64 (before.sums key.display + call.delta.toInt)

/-- Every counter holds its sum. -/
def Holds (self : Counting resources keyNamespace) : Prop :=
  ∀ text, (self.state.atomicCount text).toInt = self.sums text

/-- What a call does: it finds no bucket, it panics, or it adds the delta. -/
inductive Stepped (build : Build) (before : Counting resources keyNamespace) (call : Increment) :
    Counting resources keyNamespace → Prop where
  | unresolved (error : KeyValueError) (failed : before.state.getKey call.bucket call.key = .error error) :
    Stepped build before call before
  | panicked (key : Key) (resolved : before.state.getKey call.bucket call.key = .ok key)
    (overflows : build.addAssign (before.state.atomicCount key.display) call.delta = none) :
    Stepped build before call {before with panicked := true}
  | added (key : Key) (resolved : before.state.getKey call.bucket call.key = .ok key)
    (runs : before.state.incrementIn build call.bucket call.key call.delta =
      some (before.state.saveAtomicCount key (before.state.atomicCount key.display + call.delta),
        .ok (before.state.atomicCount key.display + call.delta))) :
    Stepped build before call (before.accept (before.state.saveAtomicCount key
      (before.state.atomicCount key.display + call.delta)) key.display call.delta)

theorem stepped (build : Build) (before after : Counting resources keyNamespace) (call : Increment)
    (taken : before.step build call = some after) : before.panicked = false ∧ Stepped build before call after := by
  unfold step at taken
  split at taken
  next => cases taken
  next running =>
    refine ⟨Bool.not_eq_true _ ▸ running,?_⟩
    cases resolved : before.state.getKey call.bucket call.key with
    | error error =>
      simp only [KeyValueState.incrementIn,resolved] at taken
      cases taken
      exact .unresolved error resolved
    | ok key =>
      rcases build.addAssign_cases (before.state.atomicCount key.display) call.delta with overflows | adds
      · simp only [KeyValueState.incrementIn,resolved,overflows,Option.map_none] at taken
        cases taken
        exact .panicked key resolved overflows
      · have runs : before.state.incrementIn build call.bucket call.key call.delta = some
            (before.state.saveAtomicCount key (before.state.atomicCount key.display + call.delta),
              .ok (before.state.atomicCount key.display + call.delta)) := by
          simp only [KeyValueState.incrementIn,resolved,adds,Option.map_some]
        simp only [runs,resolved] at taken
        cases taken
        exact .added key resolved runs

theorem exact_iff_within (build : Build) (before after : Counting resources keyNamespace) (call : Increment)
    (taken : before.step build call = some after) (holds : before.Holds) :
    Exact build before call after ↔ Within before call after := by
  obtain ⟨running,steps⟩ := stepped build before after call taken
  cases steps with
  | unresolved error failed =>
    refine iff_of_true ?_ ?_
    · refine ⟨running,?_⟩
      simp only [failed]
    · intro key resolved
      rw [failed] at resolved
      cases resolved
  | panicked key resolved overflows =>
    refine iff_of_false ?_ ?_
    · intro exact_
      cases exact_.1
    · intro within
      have fits := within key resolved
      rw [← holds] at fits
      rw [build.addAssign_fits _ _ fits] at overflows
      cases overflows
  | added key resolved runs =>
    by_cases fits : Fits64 (before.sums key.display + call.delta.toInt)
    · refine iff_of_true ?_ ?_
      · refine ⟨running,?_⟩
        simp only [resolved,if_pos fits]
        refine ⟨_,runs,_,rfl,?_,?_⟩
        · rw [← holds] at fits ⊢
          exact (toInt_add_eq_iff _ _).mpr fits
        · simp [accept,KeyValueState.saveAtomicCount]
      · intro other same
        cases resolved.symm.trans same
        exact fits
    · refine iff_of_false ?_ (fun within => fits (within key resolved))
      rintro ⟨_,exact_⟩
      simp only [resolved,if_neg fits] at exact_
      obtain ⟨result,ran,⟨error,failed⟩,_⟩ := exact_
      rw [runs,failed] at ran
      cases ran

theorem holds_step (build : Build) (before after : Counting resources keyNamespace) (call : Increment)
    (taken : before.step build call = some after) (within : Within before call after) (holds : before.Holds) :
    after.Holds := by
  obtain ⟨running,steps⟩ := stepped build before after call taken
  cases steps with
  | unresolved error failed => exact holds
  | panicked key resolved overflows => exact holds
  | added key resolved runs =>
    intro text
    by_cases same : text = key.display
    · subst same
      have fits := within key resolved
      rw [← holds] at fits
      simp only [accept,if_true,KeyValueState.atomicCount_save,(toInt_add_eq_iff _ _).mpr fits]
      rw [holds]
    · simp only [accept,if_neg same,KeyValueState.atomicCount_save_ne _ _ _ _ same]
      exact holds text

/-- In either build, from any state, every call of a sequence of increments is exact exactly when the sum of
every counter stays within an `i64`. -/
theorem exact_along_iff (build : Build) (state : KeyValueState resources keyNamespace) (calls : List Increment) :
    Along (step build) (Exact build) (start state) calls ↔ Along (step build) Within (start state) calls :=
  along_iff_of_invariant Within (Exact build) Holds
    (fun before call after taken holds => exact_iff_within build before after call taken holds)
    (fun before call after taken within holds => holds_step build before after call taken within holds)
    (start state) calls (fun _ => rfl)

def opened : KeyValueState slab "00" := ⟨⟨.new,.new⟩,[some (.bucket ⟨"counters"⟩)],none⟩

def pastTheEnd : List Increment := [⟨0,"visits",Int64.maxValue⟩,⟨0,"visits",1⟩]

/-- A release build stores the smallest `i64` and returns it, a debug build panics. -/
theorem pastTheEnd_wraps : ¬Along (step .release) (Exact .release) (start opened) pastTheEnd ∧
    ¬Along (step .debug) (Exact .debug) (start opened) pastTheEnd := by
  constructor
  · intro along
    obtain ⟨result,ran,rest⟩ := along.2.1.2
    rw [if_neg (by decide)] at rest
    obtain ⟨⟨error,failed⟩,_⟩ := rest
    rw [failed] at ran
    cases ran
  · intro along
    cases along.2.1.1

end Counting
end Warpdrive.Engine
