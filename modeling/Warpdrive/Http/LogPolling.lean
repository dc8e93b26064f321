import Mathlib.Data.List.Perm.Basic
import Warpdrive.Foundation.Execution
import Warpdrive.Http.LogBuffer

/-! Polling the log (`handle_logs`) with the cursor that each response returns. A request
reads the buffer, and the watermark when nothing was found, in two steps that any number of
pushes may come between. Entries are pushed by other threads at any time. -/
namespace Warpdrive.Http

open Warpdrive.Foundation Warpdrive.Foundation.Execution

def defaultLimit : Nat := 100

def maxLimit : Nat := 1000

def validLevels : List String := ["trace","debug","info","warn","error"]

/-- `validate_level`. No character but an ASCII letter has the lower case of one of these
letters. A request with another level is refused and reads nothing. -/
def validateLevel (level : Option String) : Bool := level.all (fun l => l.toLower ∈ validLevels)

def clampLimit (limit : Option Nat) : Nat := max 1 (min maxLimit (limit.getD defaultLimit))

/-- The cursor that a response returns, when it found something. -/
def nextCursor (entries : List LogEntry) : Option Nat := (entries.map LogEntry.id).max?.map (fun id => id + 1)

/-- A client of `handle_logs` with a fixed filter, and what was pushed. The client of a
request that found nothing `awaits` the watermark; the number is how much had been pushed. -/
structure Polling where
  buffer : LogBuffer
  cursor : Nat
  awaits : Option Nat
  received : List LogEntry
  pushed : List LogEntry

namespace Polling

def new (capacity broadcastCapacity : Nat) : Polling := ⟨.withCapacity capacity broadcastCapacity,0,none,[],[]⟩

inductive Act
  | push (entry : LogEntry)
  | poll (limit : Option Nat)
  | watermark

variable (level target : Option String)

def found (self : Polling) (limit : Option Nat) : List LogEntry :=
  self.buffer.since self.cursor (clampLimit limit) level target

def step (self : Polling) : Act → Option Polling
  | .push entry =>
    some {self with buffer := self.buffer.push entry, pushed := self.pushed ++ [self.buffer.numbered entry]}
  | .poll limit =>
    match self.awaits with
    | some _ => none
    | none =>
      if !validateLevel level then some self
      else match nextCursor (self.found level target limit) with
      | some cursor => some {self with cursor, received := self.received ++ self.found level target limit}
      | none => some {self with awaits := some self.pushed.length}
  | .watermark =>
    match self.awaits with
    | none => none
    | some _ => some {self with cursor := self.buffer.watermark, awaits := none}

/-- The entries that a step passes over although the client asked for them: those that
left the buffer before the request, and those pushed between its two reads. -/
def missed (self : Polling) : Act → List LogEntry
  | .push _ => []
  | .poll _ =>
    if !validateLevel level then []
    else ((self.pushed.take (self.buffer.evicted self.pushed)).drop self.cursor).filter (matchesFilters level target)
  | .watermark => (self.pushed.drop (self.awaits.getD self.cursor)).filter (matchesFilters level target)

/-- How far the client has come. -/
def reach (self : Polling) : Nat := self.awaits.getD self.cursor

structure Reached (log : List LogEntry) (state : Polling) : Prop where
  holds : state.buffer.Holds state.pushed
  within : state.reach ≤ state.pushed.length
  ordered : state.received.Sublist ((state.pushed.take state.reach).filter (matchesFilters level target))
  accounted : ((state.pushed.take state.reach).filter (matchesFilters level target)).Perm (state.received ++ log)

theorem new_reached (capacity broadcastCapacity : Nat) : Reached level target [] (new capacity broadcastCapacity) :=
  ⟨LogBuffer.holds_withCapacity capacity broadcastCapacity,Nat.le_refl 0,.slnil,.nil⟩

/-- What a request finds ends with the entry before its next cursor, and is all that
matches up to there. -/
theorem nextCursor_found (self : Polling) (holds : self.buffer.Holds self.pushed) (limit : Option Nat) (cursor : Nat)
    (moved : nextCursor (self.found level target limit) = some cursor) :
    ∃ i, cursor = max (self.buffer.evicted self.pushed) self.cursor + (i + 1) ∧ cursor ≤ self.pushed.length ∧
      ((self.pushed.drop (max (self.buffer.evicted self.pushed) self.cursor)).take (i + 1)).filter
        (matchesFilters level target) = self.found level target limit := by
  let start := max (self.buffer.evicted self.pushed) self.cursor
  have read : self.found level target limit =
      ((self.pushed.drop start).filter (matchesFilters level target)).take (clampLimit limit) :=
    holds.since self.cursor (clampLimit limit) level target
  have nonempty : self.found level target limit ≠ [] := by
    intro empty
    simp [nextCursor,empty] at moved
  obtain ⟨i,entry,at_,ends,same⟩ := NumberedLog.take_filter _ (matchesFilters level target) _ (read ▸ nonempty)
  rw [← read] at ends same
  have position : self.pushed[start + i]? = some entry := by
    rw [← List.getElem?_drop]
    exact at_
  have number := holds.numbered.get (start + i) entry position
  have largest : ((self.found level target limit).map LogEntry.id).max? = some entry.id := by
    refine List.max?_eq_some_iff.mpr ⟨?_,?_⟩
    · exact List.mem_map_of_mem (List.mem_of_getLast? ends)
    · intro id member
      obtain ⟨other,listed,own⟩ := List.mem_map.mp member
      subst own
      rw [← same] at listed
      obtain ⟨j,found⟩ := List.mem_iff_getElem?.mp (List.mem_of_mem_filter listed)
      rw [List.getElem?_take] at found
      split at found
      next bound =>
        rw [List.getElem?_drop] at found
        have before := holds.numbered.get (start + j) other found
        omega
      next => cases found
  simp only [nextCursor,largest,Option.map_some,Option.some.injEq] at moved
  refine ⟨i,by omega,?_,same⟩
  have bound := (List.getElem?_eq_some_iff.mp position).1
  omega

theorem nextCursor_none (self : Polling) (holds : self.buffer.Holds self.pushed) (limit : Option Nat)
    (unmoved : nextCursor (self.found level target limit) = none) :
    (self.pushed.drop (max (self.buffer.evicted self.pushed) self.cursor)).filter (matchesFilters level target) = [] := by
  have empty : self.found level target limit = [] := by simpa [nextCursor] using unmoved
  rw [found,holds.since,List.take_eq_nil_iff] at empty
  rcases empty with zero | none
  · simp only [clampLimit] at zero
    omega
  · exact none

/-- What one step receives and misses is what matches between the two places reached. -/
theorem Reached.moved (log received missed : List LogEntry) (self next : Polling) (reached : Reached level target log self)
    (buffer : next.buffer = self.buffer) (pushed : next.pushed = self.pushed)
    (within : next.reach ≤ self.pushed.length) (more : next.received = self.received ++ received)
    (parted : (self.pushed.take next.reach).filter (matchesFilters level target) =
      (self.pushed.take self.reach).filter (matchesFilters level target) ++ (missed ++ received)) :
    Reached level target (log ++ missed) next := by
  refine ⟨by rw [buffer,pushed]; exact reached.holds,by rw [pushed]; exact within,?_,?_⟩
  · rw [pushed,parted,more]
    exact reached.ordered.append (List.sublist_append_right missed received)
  · rw [pushed,parted,more]
    calc (self.pushed.take self.reach).filter (matchesFilters level target) ++ (missed ++ received)
        _ |>.Perm ((self.received ++ log) ++ (missed ++ received)) := reached.accounted.append_right _
        _ |>.Perm ((self.received ++ log) ++ (received ++ missed)) := List.perm_append_comm.append_left _
        _ |>.Perm ((self.received ++ received) ++ (log ++ missed)) := by
          simp only [List.append_assoc]
          refine List.Perm.append_left self.received ?_
          simp only [← List.append_assoc]
          exact List.perm_append_comm.append_right missed

theorem poll_reached (log : List LogEntry) (self : Polling) (limit : Option Nat) (next : Polling)
    (valid : validateLevel level = true) (taken : self.step level target (.poll limit) = some next)
    (reached : Reached level target log self) : Reached level target (log ++ self.missed level target (.poll limit)) next := by
  have idle : self.awaits = none := by
    cases awaiting : self.awaits with
    | none => rfl
    | some seen => simp [step,awaiting] at taken
  let start := max (self.buffer.evicted self.pushed) self.cursor
  have inside : start ≤ self.pushed.length := by
    have cursor := reached.within
    simp only [reach,idle,Option.getD_none] at cursor
    have kept : self.buffer.evicted self.pushed ≤ self.pushed.length := Nat.sub_le _ _
    exact Nat.max_le.mpr ⟨kept,cursor⟩
  have passed : self.missed level target (.poll limit) =
      ((self.pushed.take (self.buffer.evicted self.pushed)).drop self.cursor).filter (matchesFilters level target) := by
    simp only [missed,valid,Bool.not_true,Bool.false_eq_true,if_false]
  have parts : ∀ count, (self.pushed.take (start + count)).filter (matchesFilters level target) =
      (self.pushed.take self.reach).filter (matchesFilters level target) ++ (self.missed level target (.poll limit) ++
        ((self.pushed.drop start).take count).filter (matchesFilters level target)) := by
    intro count
    rw [List.take_add,NumberedLog.take_max,passed]
    simp only [reach,idle,Option.getD_none,List.filter_append,List.append_assoc]
  simp only [step,idle,valid,Bool.not_true,Bool.false_eq_true,if_false] at taken
  split at taken
  next cursor moved =>
    cases taken
    obtain ⟨i,place,within,same⟩ := nextCursor_found level target self reached.holds limit cursor moved
    refine .moved level target log (self.found level target limit) _ self _ reached rfl rfl ?_ rfl ?_
    · simpa [reach,idle] using within
    · have whole := parts (i + 1)
      rw [same] at whole
      simp only [reach,idle,Option.getD_none,place] at whole ⊢
      exact whole
  next unmoved =>
    cases taken
    have none := nextCursor_none level target self reached.holds limit unmoved
    refine .moved level target log [] _ self _ reached rfl rfl (Nat.le_refl _) (List.append_nil _).symm ?_
    have whole := parts (self.pushed.length - start)
    have rest : (self.pushed.drop start).take (self.pushed.length - start) = self.pushed.drop start :=
      List.take_of_length_le (by rw [List.length_drop])
    have total : start + (self.pushed.length - start) = self.pushed.length := by omega
    rw [rest,total,none] at whole
    exact whole

theorem step_reached (log : List LogEntry) (self : Polling) (act : Act) (next : Polling)
    (taken : self.step level target act = some next) (few : next.pushed.length < 2^64)
    (reached : Reached level target log self) : Reached level target (log ++ self.missed level target act) next := by
  cases act with
  | push entry =>
    cases taken
    simp only [missed,List.append_nil]
    have bound : self.pushed.length + 1 < 2^64 := by simpa using few
    have same : (self.pushed ++ [self.buffer.numbered entry]).take self.reach = self.pushed.take self.reach :=
      List.take_append_of_le_length reached.within
    refine ⟨LogBuffer.push_holds self.buffer self.pushed entry reached.holds bound,?_,?_,?_⟩
    · have within := reached.within
      simp only [reach,List.length_append,List.length_singleton] at within ⊢
      omega
    · simp only [reach] at same ⊢
      rw [same]
      exact reached.ordered
    · simp only [reach] at same ⊢
      rw [same]
      exact reached.accounted
  | poll limit =>
    cases valid : validateLevel level with
    | true => exact poll_reached level target log self limit next valid taken reached
    | false =>
      have unmoved : next = self := by
        simp only [step,valid,Bool.not_false,if_true] at taken
        split at taken
        · cases taken
        · exact (Option.some.inj taken).symm
      have none : self.missed level target (.poll limit) = [] := by
        simp only [missed,valid,Bool.not_false,if_true]
      rw [unmoved,none,List.append_nil]
      exact reached
  | watermark =>
    simp only [step] at taken
    split at taken
    next => cases taken
    next seen awaiting =>
      cases taken
      refine .moved level target log [] _ self _ reached rfl rfl ?_ (List.append_nil _).symm ?_
      · simp only [reach,LogBuffer.watermark,reached.holds.count,Option.getD_none,Nat.le_refl]
      · simp only [reach,LogBuffer.watermark,reached.holds.count,Option.getD_none,List.take_length,awaiting,missed,
          Option.getD_some,List.append_nil]
        rw [← List.filter_append,List.take_append_drop]

/-- The accounts of a polling client, for every filter and every interleaving of its
requests with the pushes: what it has received is in the order of the pushes and without
repetition, and everything that matches up to where it has come was received or is missed
in one of the two ways: evicted before a request, or pushed between its two reads. -/
theorem run_polls_accounted (capacity broadcastCapacity : Nat) (acts : List Act) (final : Polling)
    (reached : run (step level target) (new capacity broadcastCapacity) acts = some final)
    (few : final.pushed.length < 2^64) :
    final.pushed.map LogEntry.id = List.range final.pushed.length ∧
      final.received.Sublist (final.pushed.filter (matchesFilters level target)) ∧ final.received.Nodup ∧
      ((final.pushed.take final.reach).filter (matchesFilters level target)).Perm
        (final.received ++ emitted (step level target) (missed level target) (new capacity broadcastCapacity) acts) := by
  let inv : List LogEntry → Polling → Prop := fun log self => self.pushed.length < 2^64 → Reached level target log self
  have keeps : ∀ log self act next, step level target self act = some next → inv log self →
      inv (log ++ self.missed level target act) next := by
    intro log self act next taken kept few
    refine step_reached level target log self act next taken few (kept ?_)
    have grows : self.pushed.length ≤ next.pushed.length := by
      cases act with
      | push entry =>
        cases taken
        simp
      | poll limit =>
        simp only [step] at taken
        split at taken
        · cases taken
        · split at taken
          · cases taken
            exact Nat.le_refl _
          · split at taken <;> cases taken <;> exact Nat.le_refl _
      | watermark =>
        simp only [step] at taken
        split at taken <;> cases taken
        exact Nat.le_refl _
    exact Nat.lt_of_le_of_lt grows few
  have kept := invariant_emitted (missed level target) inv keeps [] _ final acts reached
    (fun _ => new_reached level target capacity broadcastCapacity) few
  rw [List.nil_append] at kept
  have among : final.received.Sublist (final.pushed.filter (matchesFilters level target)) :=
    kept.ordered.trans ((List.take_sublist _ _).filter _)
  exact ⟨kept.holds.numbered,among,among.nodup (kept.holds.numbered.nodup.filter _),kept.accounted⟩

def warning : LogEntry := ⟨0,0,"WARN","warpdrive::dispatcher","message=retrying"⟩

def note : LogEntry := ⟨0,0,"INFO","warpdrive::dispatcher","message=started"⟩

/-- The first warning is evicted before the first request, and the last one is pushed
between the two reads of the third. -/
def hurried : List Act :=
  [.push warning,.push warning,.push note,.push warning,.poll (some 1),.poll none,.poll none,.push warning,
    .watermark]

theorem hurried_accounted :
    ∃ final, run (step (some "warn") (some "warpdrive")) (new 3 16) hurried = some final ∧
      final.received.map LogEntry.id = [1,3] ∧
      (emitted (step (some "warn") (some "warpdrive")) (missed (some "warn") (some "warpdrive")) (new 3 16)
        hurried).map LogEntry.id = [0,4] ∧
      ((final.pushed.take final.reach).filter (matchesFilters (some "warn") (some "warpdrive"))).Perm
        (final.received ++ emitted (step (some "warn") (some "warpdrive")) (missed (some "warn") (some "warpdrive"))
          (new 3 16) hurried) := by
  obtain ⟨final,reached,tested⟩ := run_any (step (some "warn") (some "warpdrive")) (new 3 16) hurried
    (fun final => decide (final.received.map LogEntry.id = [1,3] ∧ final.pushed.length < 2^64)) (by decide +kernel)
  obtain ⟨ids,few⟩ := of_decide_eq_true tested
  exact ⟨final,reached,ids,by decide +kernel,
    (run_polls_accounted (some "warn") (some "warpdrive") 3 16 hurried final reached few).2.2.2⟩

end Polling
end Warpdrive.Http
