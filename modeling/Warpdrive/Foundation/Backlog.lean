import Mathlib.Data.List.Basic
import Mathlib.Tactic.Common

/-! A queue of due times, handed out one at a call: a call hands the first one out once it is due. With
a last time, a call at or past it that hands one out is the last. -/
namespace Warpdrive.Foundation.Backlog

variable {T : Type} [LT T] [DecidableLT T]

def closes (stop : Option T) (now : T) : Bool := stop.any (fun stop => !decide (now < stop))

/-- What is handed out, each with the time of the call. -/
def handed (stop : Option T) : List T → List T → List (T × T)
  | [],_ => []
  | _::_,[] => []
  | now::times,due::rest =>
    if now < due then handed stop times (due::rest)
    else (now,due) :: if closes stop now then [] else handed stop times rest

def left (stop : Option T) : List T → List T → List T
  | [],queue => queue
  | _::_,[] => []
  | now::times,due::rest =>
    if now < due then left stop times (due::rest) else if closes stop now then [] else left stop times rest

@[simp] theorem handed_nil (stop : Option T) (times : List T) : handed stop times [] = [] := by
  cases times <;> rfl

@[simp] theorem left_nil (stop : Option T) (times : List T) : left stop times [] = [] := by
  cases times <;> rfl

theorem handed_cons (stop : Option T) (now : T) (times : List T) (due : T) (rest : List T) :
    handed stop (now::times) (due::rest) =
      if now < due then handed stop times (due::rest)
      else (now,due) :: if closes stop now then [] else handed stop times rest := rfl

theorem left_cons (stop : Option T) (now : T) (times : List T) (due : T) (rest : List T) :
    left stop (now::times) (due::rest) =
      if now < due then left stop times (due::rest) else if closes stop now then [] else left stop times rest :=
  rfl

/-- The queue is handed out in order, nothing left out. -/
theorem handed_prefix (stop : Option T) (times queue : List T) :
    (handed stop times queue).map Prod.snd <+: queue := by
  induction times generalizing queue with
  | nil => exact List.nil_prefix
  | cons now times ih =>
    cases queue with
    | nil => exact List.nil_prefix
    | cons due rest =>
      rw [handed_cons]
      by_cases before : now < due
      · rw [if_pos before]
        exact ih (due::rest)
      · rw [if_neg before,List.map_cons,List.prefix_cons_inj]
        split
        · exact List.nil_prefix
        · exact ih rest

theorem due_of_mem_handed (stop : Option T) (times queue : List T) (entry : T × T)
    (member : entry ∈ handed stop times queue) : ¬entry.1 < entry.2 := by
  induction times generalizing queue with
  | nil => cases member
  | cons now times ih =>
    cases queue with
    | nil => cases member
    | cons due rest =>
      rw [handed_cons] at member
      by_cases before : now < due
      · rw [if_pos before] at member
        exact ih (due::rest) member
      · rw [if_neg before] at member
        rcases List.mem_cons.mp member with same | later
        · rw [same]
          exact before
        · split at later
          · cases later
          · exact ih rest later

/-- Once nothing is left, all of the queue was handed out, or the last one at or past the last time. -/
theorem handed_of_left_nil (stop : Option T) (times queue : List T) (none_left : left stop times queue = []) :
    (handed stop times queue).map Prod.snd = queue ∨
      ∃ entry, (handed stop times queue).getLast? = some entry ∧ closes stop entry.1 := by
  induction times generalizing queue with
  | nil => exact .inl none_left.symm
  | cons now times ih =>
    cases queue with
    | nil => exact .inl rfl
    | cons due rest =>
      rw [left_cons] at none_left
      rw [handed_cons]
      by_cases before : now < due
      · rw [if_pos before] at none_left ⊢
        exact ih (due::rest) none_left
      · rw [if_neg before] at none_left ⊢
        by_cases past : closes stop now
        · rw [if_pos past]
          exact .inr ⟨(now,due),rfl,past⟩
        · rw [if_neg past] at none_left ⊢
          rcases ih rest none_left with all | ⟨entry,last,past⟩
          · left
            rw [List.map_cons,all]
          · right
            refine ⟨entry,?_,past⟩
            rw [List.getLast?_cons,last]
            rfl

end Warpdrive.Foundation.Backlog
