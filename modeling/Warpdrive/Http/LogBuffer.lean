import Mathlib.Algebra.Group.Nat.Defs
import Mathlib.Data.List.MinMax
import Warpdrive.Foundation.NumberedLog

/-! The ring buffer of log entries (`log_buffer.rs`). A push assigns the next id, hands the
entry to the stream subscribers and appends it, all under the write lock; the oldest entry
goes when the buffer is full. -/
namespace Warpdrive.Http

open Warpdrive.Foundation

structure LogEntry where
  id : Nat
  timestampMs : UInt64
  level : String
  target : String
  fields : String
  deriving DecidableEq

def defaultBroadcastCapacity : Nat := 256

def defaultLogBufferCapacity : Nat := 10000

/-- A numeric severity: higher is more severe, and an unknown level counts as info. -/
def levelValue (level : String) : Nat :=
  if level.toLower = "error" then 4
  else if level.toLower = "warn" then 3
  else if level.toLower = "info" then 2
  else if level.toLower = "debug" then 1
  else if level.toLower = "trace" then 0
  else 2

def startsWith (text start : String) : Bool := start.toList.isPrefixOf text.toList

structure LogBuffer where
  entries : List LogEntry
  nextId : Nat
  capacity : Nat
  broadcastCapacity : Nat

namespace LogBuffer

def withCapacity (capacity broadcastCapacity : Nat) : LogBuffer where
  entries := []
  nextId := 0
  capacity := max capacity 1
  broadcastCapacity := max broadcastCapacity 1

def new : LogBuffer := withCapacity defaultLogBufferCapacity defaultBroadcastCapacity

def numbered (self : LogBuffer) (entry : LogEntry) : LogEntry := {entry with id := self.nextId}

/-- The ids wrap where a 64-bit counter does. -/
def push (self : LogBuffer) (entry : LogEntry) : LogBuffer :=
  let kept := if self.entries.length ≥ self.capacity then self.entries.drop 1 else self.entries
  {self with entries := kept ++ [self.numbered entry], nextId := (self.nextId + 1) % 2^64}

def watermark (self : LogBuffer) : Nat := self.nextId

def since (self : LogBuffer) (sinceId limit : Nat) (minLevel target : Option String) : List LogEntry :=
  let minLevelVal := minLevel.map levelValue
  (((self.entries.filter (fun e => sinceId ≤ e.id)).filter
      (fun e => minLevelVal.all (fun min => min ≤ levelValue e.level))).filter
    (fun e => target.all (fun t => startsWith e.target t))).take limit

def lastN (self : LogBuffer) (n : Nat) : List LogEntry := self.entries.drop (self.entries.length - n)

end LogBuffer

/-- The filters of the stream, which `since` applies one after the other. -/
def matchesFilters (minLevel target : Option String) (entry : LogEntry) : Bool :=
  !(minLevel.any (fun l => levelValue entry.level < levelValue l)) &&
    !(target.any (fun t => !startsWith entry.target t))

namespace LogBuffer

theorem filters_eq (entries : List LogEntry) (minLevel target : Option String) :
    (entries.filter (fun e => (minLevel.map levelValue).all (fun min => min ≤ levelValue e.level))).filter
      (fun e => target.all (fun t => startsWith e.target t)) = entries.filter (matchesFilters minLevel target) := by
  rw [List.filter_filter]
  refine List.filter_congr ?_
  intro entry _
  cases minLevel <;> cases target <;> simp [matchesFilters,Bool.and_comm,← decide_not]

theorem since_eq (self : LogBuffer) (sinceId limit : Nat) (minLevel target : Option String) :
    self.since sinceId limit minLevel target =
      ((self.entries.filter (fun e => sinceId ≤ e.id)).filter (matchesFilters minLevel target)).take limit := by
  simp only [since,filters_eq]

/-- Everything that was pushed, of which the buffer holds the end. -/
structure Holds (buffer : LogBuffer) (pushed : List LogEntry) : Prop where
  numbered : NumberedLog.Numbered LogEntry.id pushed
  count : buffer.nextId = pushed.length
  newest : buffer.entries = pushed.drop (pushed.length - buffer.capacity)
  room : 0 < buffer.capacity

theorem holds_withCapacity (capacity broadcastCapacity : Nat) : Holds (withCapacity capacity broadcastCapacity) [] :=
  ⟨NumberedLog.numbered_nil LogEntry.id,rfl,by simp [withCapacity],by simp only [withCapacity]; omega⟩

theorem push_holds (self : LogBuffer) (pushed : List LogEntry) (entry : LogEntry) (holds : self.Holds pushed)
    (bounded : pushed.length + 1 < 2^64) : (self.push entry).Holds (pushed ++ [self.numbered entry]) := by
  refine ⟨?_,?_,?_,holds.room⟩
  · exact NumberedLog.numbered_append LogEntry.id pushed _ holds.numbered holds.count
  · simp only [push,List.length_append,List.length_singleton,holds.count]
    exact Nat.mod_eq_of_lt bounded
  · have room := holds.room
    simp only [push,holds.newest,List.length_drop,List.length_append,List.length_singleton]
    split
    next full =>
      rw [List.drop_drop,List.drop_append_of_le_length (by omega)]
      congr 2
      omega
    next free =>
      have all : pushed.length - self.capacity = 0 := by omega
      have still : pushed.length + 1 - self.capacity = 0 := by omega
      rw [all,still]
      simp

/-- How many entries have left the buffer. -/
def evicted (self : LogBuffer) (pushed : List LogEntry) : Nat := pushed.length - self.entries.length

theorem Holds.entries {buffer : LogBuffer} {pushed : List LogEntry} (holds : buffer.Holds pushed) :
    buffer.entries = pushed.drop (buffer.evicted pushed) := by
  have start : buffer.evicted pushed = pushed.length - buffer.capacity := by
    rw [evicted,holds.newest,List.length_drop]
    omega
  rw [start]
  exact holds.newest

/-- A read by id finds the matching entries from the id on that are still in the buffer. -/
theorem Holds.since {buffer : LogBuffer} {pushed : List LogEntry} (holds : buffer.Holds pushed)
    (sinceId limit : Nat) (minLevel target : Option String) :
    buffer.since sinceId limit minLevel target =
      ((pushed.drop (max (buffer.evicted pushed) sinceId)).filter (matchesFilters minLevel target)).take limit := by
  rw [since_eq,holds.entries,holds.numbered.since]

end LogBuffer
end Warpdrive.Http
