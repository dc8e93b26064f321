import Mathlib.Logic.Function.Basic
import Warpdrive.Foundation.Execution

/-! Parties that hand messages to one another. A message that was sent may arrive any number of times, in any
order, or never, and outsiders send what they like. What holds of each party's turn holds of the whole. -/
namespace Warpdrive.Foundation.Messages

open Warpdrive.Foundation.Execution

variable {N S E M F : Type}

/-- A turn of a party, the events it needs no message for, and those a message brings. `tells` are the facts that
an event of its own brings, `contents` those in a message. -/
structure Protocol (N S E M F : Type) where
  turn : N → S → E → Option (S × List M)
  own : E → Bool
  takes : N → M → E → Bool
  tells : E → List F
  contents : M → List F

structure Network (N S M : Type) where
  states : N → S
  sent : List M

inductive Act (N E M : Type)
  | own (node : N) (event : E)
  | deliver (node : N) (index : Nat) (event : E)
  | inject (message : M)

variable (protocol : Protocol N S E M F)

/-- The facts that an action brings to the network. -/
def Act.origin : Act N E M → List F
  | .own _ event => protocol.tells event
  | .deliver _ _ _ => []
  | .inject message => protocol.contents message

variable [DecidableEq N]

namespace Network

def take (self : Network N S M) (node : N) (event : E) : Option (Network N S M) :=
  (protocol.turn node (self.states node) event).map (fun result =>
    ⟨Function.update self.states node result.1,self.sent ++ result.2⟩)

def step (self : Network N S M) : Act N E M → Option (Network N S M)
  | .own node event => if protocol.own event then self.take protocol node event else none
  | .deliver node index event =>
    match self.sent[index]? with
    | none => none
    | some message => if protocol.takes node message event then self.take protocol node event else none
  | .inject message => some {self with sent := self.sent ++ [message]}

variable {protocol}

/-- What a party holds and what a message carries, in terms of the facts that are known, where the parties are told
good facts only. -/
structure Sound (protocol : Protocol N S E M F) (good : F → Prop) (holds : (F → Prop) → N → S → Prop)
    (carries : (F → Prop) → M → Prop) : Prop where
  holds_mono : ∀ known more node state, (∀ fact, known fact → more fact) → holds known node state → holds more node state
  carries_mono : ∀ known more message, (∀ fact, known fact → more fact) → carries known message → carries more message
  contents : ∀ known message, (∀ fact ∈ protocol.contents message, known fact) → carries known message
  own : ∀ known node state event next sent, protocol.own event = true →
    (∀ fact ∈ protocol.tells event, known fact ∧ good fact) → holds known node state →
    protocol.turn node state event = some (next,sent) →
    holds known node next ∧ ∀ message ∈ sent, carries known message
  deliver : ∀ known node state event message next sent, protocol.takes node message event = true →
    carries known message → holds known node state → protocol.turn node state event = some (next,sent) →
    holds known node next ∧ ∀ message ∈ sent, carries known message

variable {good : F → Prop} {holds : (F → Prop) → N → S → Prop} {carries : (F → Prop) → M → Prop}

/-- Every party holds, and every message carries, known facts only. -/
def Sourced (holds : (F → Prop) → N → S → Prop) (carries : (F → Prop) → M → Prop) (known : F → Prop)
    (network : Network N S M) : Prop :=
  (∀ node, holds known node (network.states node)) ∧ ∀ message ∈ network.sent, carries known message

omit [DecidableEq N] in
theorem Sourced.mono (sound : Sound protocol good holds carries) (known more : F → Prop)
    (grows : ∀ fact, known fact → more fact) (network : Network N S M) (sourced : Sourced holds carries known network) :
    Sourced holds carries more network :=
  ⟨fun node => sound.holds_mono known more node _ grows (sourced.1 node),
    fun message sent => sound.carries_mono known more message grows (sourced.2 message sent)⟩

theorem Sourced.take (known : F → Prop) (network next : Network N S M) (node : N) (event : E)
    (taken : network.take protocol node event = some next) (sourced : Sourced holds carries known network)
    (turn : ∀ state sent, protocol.turn node (network.states node) event = some (state,sent) →
      holds known node state ∧ ∀ message ∈ sent, carries known message) : Sourced holds carries known next := by
  simp only [Network.take,Option.map_eq_some_iff] at taken
  obtain ⟨⟨state,sent⟩,turned,rfl⟩ := taken
  obtain ⟨held,carried⟩ := turn state sent turned
  constructor
  · intro other
    by_cases same : other = node
    · subst same
      simpa only [Function.update_self] using held
    · simpa only [Function.update_of_ne same] using sourced.1 other
  · intro message member
    rcases List.mem_append.mp member with before | now
    · exact sourced.2 message before
    · exact carried message now

end Network
end Warpdrive.Foundation.Messages
