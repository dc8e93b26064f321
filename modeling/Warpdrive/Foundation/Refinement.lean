import Mathlib.Data.List.Forall2

/-! Refinement of a specification by a system that answers every call. A simulation relates
the states and keeps the answers to each call in agreement, and so the answers to any
sequence of calls. Two systems that refine one specification agree with each other. -/
namespace Warpdrive.Foundation.Refinement

universe u v w x y

variable {S : Type u} {T : Type v} {A : Type w} {O : Type x} {P : Type y}

def answers (step : S → A → S × O) : S → List A → List O
  | _,[] => []
  | state,act::acts => (step state act).2 :: answers step (step state act).1 acts

/-- Every call is answered as the specification answers it, and the relation is kept. -/
def Simulates (step : S → A → S × O) (spec : T → A → T × P) (agree : O → P → Prop) (related : S → T → Prop) : Prop :=
  ∀ state abstract act, related state abstract →
    agree (step state act).2 (spec abstract act).2 ∧ related (step state act).1 (spec abstract act).1

theorem Simulates.answers {step : S → A → S × O} {spec : T → A → T × P} {agree : O → P → Prop}
    {related : S → T → Prop} (simulates : Simulates step spec agree related) (acts : List A) (state : S)
    (abstract : T) (start : related state abstract) :
    List.Forall₂ agree (answers step state acts) (Refinement.answers spec abstract acts) := by
  induction acts generalizing state abstract with
  | nil => exact .nil
  | cons act acts ih =>
    obtain ⟨now,next⟩ := simulates state abstract act start
    exact .cons now (ih _ _ next)

theorem forall₂_meet {O' : Type x} {agree : O → P → Prop} {agree' : O' → P → Prop} {alike : O → O' → Prop}
    (meets : ∀ first second answer, agree first answer → agree' second answer → alike first second)
    {firsts : List O} {seconds : List O'} {answers : List P} (left : List.Forall₂ agree firsts answers)
    (right : List.Forall₂ agree' seconds answers) : List.Forall₂ alike firsts seconds := by
  induction left generalizing seconds with
  | nil =>
    cases right
    exact .nil
  | cons own rest ih =>
    cases right with
    | cons other others => exact .cons (meets _ _ _ own other) (ih others)

end Warpdrive.Foundation.Refinement
