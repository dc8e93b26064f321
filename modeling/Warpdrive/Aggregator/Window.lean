import Warpdrive.Aggregator.System

/-! The aggregation window of an event: its pin and its receive lock, next to the
clean-up, which goes by expired queues and removes the pin and the lock of their events.
The window survives when no queue of the event is open as these are removed, and the
receive sections stay exclusive when moreover no receive call waits for the lock or holds
it as its entry goes. What was the case when the keys were collected does not count. -/
namespace Warpdrive.Aggregator.System
open Warpdrive.Foundation Warpdrive.Foundation.Execution Warpdrive.Types Warpdrive.Utils

variable {ι : Type}

def unexpired (cutoffTime : UInt64) : QuorumQueue → Bool
  | .burned timestamp => !decide (timestamp < cutoffTime)
  | .active _ => true

/-- A queue of the event is active, or burned and not expired. -/
def Open (self : System ι) (cutoffTime : UInt64) (eventId : EventId) : Prop :=
  ∃ id queue, id.eventId = eventId ∧ self.submitting.quorumQueues.getCloned id = some queue ∧
    unexpired cutoffTime queue

instance decidableOpen (self : System ι) (cutoffTime : UInt64) (eventId : EventId) :
    Decidable (self.Open cutoffTime eventId) :=
  decidable_of_iff (∃ entry ∈ self.submitting.quorumQueues.iter, entry.1.eventId = eventId ∧
    unexpired cutoffTime entry.2) (by
      simp only [Open,Prod.exists,WavsDbTable.mem_iter]
      constructor
      · intro found
        obtain ⟨id,queue,stored,event,open_⟩ := found
        exact ⟨id,queue,event,stored,open_⟩
      · intro found
        obtain ⟨id,queue,event,stored,open_⟩ := found
        exact ⟨id,queue,stored,event,open_⟩)

/-- No queue of the event is open when the clean-up removes its pin or its lock entry, and
no receive call waits for the lock or holds it when the entry is removed. -/
def CleansClosed (self : System ι) (act : Act ι) (_ : System ι) : Prop :=
  match act,self.submitting.cleanup with
  | .cleanup .remove,.unpinning cutoffTime key _ => ¬ self.Open cutoffTime key.eventId
  | .cleanup .remove,.unlocking cutoffTime key _ =>
    ¬ self.Open cutoffTime key.eventId ∧ self.receiving.registry.Quiet key.eventId
  | _,_ => True

variable [DecidableEq ι] (prim : Primitives)

instance decidableCleansClosed [Fintype ι] (self : System ι) (act : Act ι) (next : System ι) :
    Decidable (CleansClosed self act next) := by
  unfold CleansClosed
  split <;> infer_instance

/-- The first packet of the event is admitted and forwarded. -/
def firstPacket : List (Act Caller) :=
  List.flatten [[.setService observedService (some deployedService),
      .receive .first (.other "peer") submission1],
    (Receiving.admission .first cafeEvent operator1 none).map .receiving]

/-- Its submission reaches the chain, at time 1000. -/
def firstBurn : List (Act Caller) :=
  .actions .first submission1 (.submit Submitting.cafeAction) :: List.map Act.submitting (List.flatten
    [Submitting.firstAttempt .first,
      (Submitting.submitted localChain Submitting.oneSignature).map (.answer .first),
      Submitting.storing .first 1000])

/-- A whole clean-up at this time that comes upon one expired queue. -/
def cleaningUp (now : UInt64) (key : QuorumQueueId) : List (Act ι) :=
  [.cleanup (.start now),.cleanup (.visit key),.cleanup .collected,.cleanup .remove,.cleanup .remove,
    .cleanup .remove,.cleanup .finish]

def cafeQueue : QuorumQueueId := ⟨cafeEvent,Submitting.cafeAction⟩

/-- The event is open after the clean-up, its pin and its lock entry are gone, and two
receive calls are inside its section. -/
def WindowShared (state next final : System Caller) : Prop :=
  next.Open 2001 cafeEvent ∧
    state.receiving.eventReferenceBlocks.getCloned cafeEvent = some ⟨99,localChain⟩ ∧
    next.receiving.eventReferenceBlocks.getCloned cafeEvent = none ∧
    state.receiving.eventReceiveLocks cafeEvent = some 0 ∧
    next.receiving.eventReceiveLocks cafeEvent = none ∧
    final.receiving.registry.hold .second = .inside cafeEvent 0 ∧
    final.receiving.registry.hold .third = .inside cafeEvent 1

instance decidableWindowShared (state next final : System Caller) : Decidable (WindowShared state next final) := by
  unfold WindowShared
  infer_instance

end Warpdrive.Aggregator.System
