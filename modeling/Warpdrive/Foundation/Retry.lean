import Mathlib.Algebra.Group.Nat.Defs
import Mathlib.Data.List.DropRight
import Mathlib.Data.List.Rotate

/-! Retrying over a ring of places. Each outcome moves to the next place, a failure is counted, a
full turn of failures doubles the delay up to a cap, and a success starts the policy again at the
place it has come to. -/
namespace Warpdrive.Foundation.Retry

/-- The number of failures since the last success. -/
def streak (outcomes : List Bool) : Nat := (outcomes.rtakeWhile (!·)).length

@[simp] theorem streak_nil : streak [] = 0 := rfl

@[simp] theorem streak_fail (outcomes : List Bool) : streak (outcomes ++ [false]) = streak outcomes + 1 := by
  simp [streak]

@[simp] theorem streak_succeed (outcomes : List Bool) : streak (outcomes ++ [true]) = 0 := by
  simp [streak]

theorem streak_fails (outcomes : List Bool) (count : Nat) :
    streak (outcomes ++ List.replicate count false) = streak outcomes + count := by
  induction count with
  | zero => simp
  | succ count ih => rw [List.replicate_succ',← List.append_assoc,streak_fail,ih,Nat.add_assoc]

structure Policy where
  size : Nat
  cap : Nat
  size_pos : 0 < size
  cap_pos : 0 < cap

structure Counters where
  place : Nat
  failures : Nat
  delay : Nat
deriving DecidableEq

namespace Policy

variable (self : Policy)

/-- The delay after the given number of full turns of failures. -/
def delayAt (turns : Nat) : Nat := min (2 ^ turns) self.cap

theorem delayAt_zero : self.delayAt 0 = 1 := by
  have positive := self.cap_pos
  simp only [delayAt,Nat.pow_zero]
  omega

theorem delayAt_succ (turns : Nat) : self.delayAt (turns + 1) = min (self.delayAt turns * 2) self.cap := by
  have positive := self.cap_pos
  simp only [delayAt,Nat.pow_succ]
  omega

def next (counters : Counters) : Bool → Counters
  | true => ⟨(counters.place + 1) % self.size,0,1⟩
  | false =>
    if self.size ≤ counters.failures + 1 then
      ⟨(counters.place + 1) % self.size,0,min (counters.delay * 2) self.cap⟩
    else ⟨(counters.place + 1) % self.size,counters.failures + 1,counters.delay⟩

def after (outcomes : List Bool) : Counters := outcomes.foldl self.next ⟨0,0,1⟩

theorem after_append (outcomes : List Bool) (outcome : Bool) :
    self.after (outcomes ++ [outcome]) = self.next (self.after outcomes) outcome := by
  simp [after]

/-- The counters are those of the number of outcomes and of the failures since the last success. -/
theorem after_eq (outcomes : List Bool) :
    self.after outcomes = ⟨outcomes.length % self.size,streak outcomes % self.size,
      self.delayAt (streak outcomes / self.size)⟩ := by
  have positive := self.size_pos
  induction outcomes using List.reverseRecOn with
  | nil => simp [after,delayAt_zero]
  | append_singleton outcomes outcome ih =>
    rw [after_append,ih]
    cases outcome with
    | true => simp [next,delayAt_zero]
    | false =>
      have low := Nat.mod_lt (streak outcomes) positive
      simp only [next,List.length_append,List.length_singleton,Nat.mod_add_mod,streak_fail]
      split
      next full =>
        -- the last failure of a turn
        have last : streak outcomes % self.size + 1 = self.size := by omega
        have whole : self.size ∣ streak outcomes + 1 := by
          rw [Nat.dvd_iff_mod_eq_zero,← Nat.mod_add_mod,last,Nat.mod_self]
        rw [Nat.succ_div_of_dvd whole,Nat.mod_eq_zero_of_dvd whole,delayAt_succ]
      next some =>
        have inside : (streak outcomes + 1) % self.size = streak outcomes % self.size + 1 := by
          rw [← Nat.mod_add_mod,Nat.mod_eq_of_lt (by omega)]
        have broken : ¬self.size ∣ streak outcomes + 1 := by
          rw [Nat.dvd_iff_mod_eq_zero,inside]
          omega
        rw [Nat.succ_div_of_not_dvd broken,inside]

/-- In a turn of failures the delay does not change. -/
theorem delay_turn (outcomes : List Bool) (count : Nat) (fresh : self.size ∣ streak outcomes)
    (less : count < self.size) :
    (self.after (outcomes ++ List.replicate count false)).delay = self.delayAt (streak outcomes / self.size) := by
  obtain ⟨turns,whole⟩ := fresh
  have positive := self.size_pos
  rw [after_eq,streak_fails,whole]
  simp only [Nat.mul_add_div positive,Nat.mul_div_cancel_left turns positive,Nat.div_eq_of_lt less,Nat.add_zero]

end Policy

/-- What goes round a list from its start, over one turn from any point, goes over the whole of it. -/
theorem rotate_of_cyclic {α : Type} (ring walked before window : List α)
    (cyclic : ∀ i, i < walked.length → walked[i]? = ring[i % ring.length]?)
    (split : ∃ later, walked = before ++ window ++ later) (turn : window.length = ring.length) :
    window = ring.rotate before.length := by
  obtain ⟨later,rfl⟩ := split
  apply List.ext_getElem?
  intro i
  by_cases low : i < window.length
  · have at_ := cyclic (before.length + i) (by simp; omega)
    rw [List.getElem?_rotate (by omega),Nat.add_comm i,← at_,List.append_assoc,
      List.getElem?_append_right (by omega),Nat.add_sub_cancel_left,List.getElem?_append_left low]
  · rw [List.getElem?_eq_none (by omega),List.getElem?_eq_none (by rw [List.length_rotate]; omega)]

end Warpdrive.Foundation.Retry
