import Warpdrive.Aggregator.Chain
import Mathlib.Data.Set.Basic

/-! The store of quorum queues (`aggregator/queue.rs`). A queue collects the
submissions of one event for one action, one for each signer, until it is burned.
The clock is an argument where the code reads it. -/
namespace Warpdrive.Aggregator
open Warpdrive.Foundation Warpdrive.Types

abbrev QuorumQueues := WavsDbTable QuorumQueueId QuorumQueue

def getQuorumQueue (queues : QuorumQueues) (id : QuorumQueueId) : QuorumQueue :=
  (queues.getCloned id).getD (.active [])

def saveQuorumQueue (queues : QuorumQueues) (id : QuorumQueueId) (submissions : List Submission) : QuorumQueues :=
  queues.insert id (.active submissions)

def burnQuorumQueue (queues : QuorumQueues) (id : QuorumQueueId) (burnedAt : UInt64) : QuorumQueues :=
  queues.insert id (.burned burnedAt)

/-- The key of an entry that was burned before the cutoff. -/
def expired (cutoffTime : UInt64) : QuorumQueueId × QuorumQueue → Option QuorumQueueId
  | (key,.burned timestamp) => if timestamp < cutoffTime then some key else none
  | (_,.active _) => none

/-- Where `cleanup_old_burned_queues` is. It collects the expired keys first, and then
removes for each of them the queue, the pin of its event and the receive lock of its
event. It runs on a blocking thread and holds nothing from one access to the next. -/
inductive Cleanup
  | idle
  | collecting (cutoffTime : UInt64) (keysToRemove : List QuorumQueueId)
  | removing (cutoffTime : UInt64) (keysToRemove : List QuorumQueueId)
  | unpinning (cutoffTime : UInt64) (key : QuorumQueueId) (keysToRemove : List QuorumQueueId)
  | unlocking (cutoffTime : UInt64) (key : QuorumQueueId) (keysToRemove : List QuorumQueueId)

namespace Cleanup

/-- The iterator comes upon an entry at most once. Entries are visited in any order, and
those stored meanwhile may be passed over. -/
inductive Act
  | start (now : UInt64)
  | visit (key : QuorumQueueId)
  | collected
  | remove
  | finish

def cutoffTime : Cleanup → Option UInt64
  | .idle => none
  | .collecting cutoffTime _ => some cutoffTime
  | .removing cutoffTime _ => some cutoffTime
  | .unpinning cutoffTime _ _ => some cutoffTime
  | .unlocking cutoffTime _ _ => some cutoffTime

/-- The collected keys whose queues are still in the table. -/
def keysToRemove : Cleanup → List QuorumQueueId
  | .idle => []
  | .collecting _ keys => keys
  | .removing _ keys => keys
  | .unpinning _ _ keys => keys
  | .unlocking _ _ keys => keys

/-- The queue that the step removes. -/
def removed : Cleanup → Act → Option QuorumQueueId
  | .removing _ (key::_),.remove => some key
  | _,_ => none

def step (ttlSecs : UInt64) (queues : QuorumQueues) : Cleanup → Act → Option (QuorumQueues × Cleanup)
  | .idle,.start now => some (queues,.collecting (saturatingSub now ttlSecs) [])
  | .collecting cutoffTime keys,.visit key =>
    if key ∈ keys then none
    else (queues.getCloned key).map
      (fun queue => (queues,.collecting cutoffTime (keys ++ (expired cutoffTime (key,queue)).toList)))
  | .collecting cutoffTime keys,.collected => some (queues,.removing cutoffTime keys)
  | .removing cutoffTime (key::keys),.remove => some (queues.remove key,.unpinning cutoffTime key keys)
  | .unpinning cutoffTime key keys,.remove => some (queues,.unlocking cutoffTime key keys)
  | .unlocking cutoffTime _ keys,.remove => some (queues,.removing cutoffTime keys)
  | .removing _ [],.finish => some (queues,.idle)
  | _,_ => none

/-- Everything that one step of the clean-up can do. -/
inductive Taken (ttlSecs : UInt64) (queues : QuorumQueues) : Cleanup → Act → QuorumQueues × Cleanup → Prop
  | start (now) : Taken ttlSecs queues .idle (.start now)
      (queues,.collecting (saturatingSub now ttlSecs) [])
  | visit (cutoffTime keys key queue) (fresh : key ∉ keys) (stored : queues.getCloned key = some queue) :
      Taken ttlSecs queues (.collecting cutoffTime keys) (.visit key)
        (queues,.collecting cutoffTime (keys ++ (expired cutoffTime (key,queue)).toList))
  | collected (cutoffTime keys) : Taken ttlSecs queues (.collecting cutoffTime keys) .collected
      (queues,.removing cutoffTime keys)
  | remove (cutoffTime key keys) : Taken ttlSecs queues (.removing cutoffTime (key::keys)) .remove
      (queues.remove key,.unpinning cutoffTime key keys)
  | unpin (cutoffTime key keys) : Taken ttlSecs queues (.unpinning cutoffTime key keys) .remove
      (queues,.unlocking cutoffTime key keys)
  | unlock (cutoffTime key keys) : Taken ttlSecs queues (.unlocking cutoffTime key keys) .remove
      (queues,.removing cutoffTime keys)
  | finish (cutoffTime) : Taken ttlSecs queues (.removing cutoffTime []) .finish (queues,.idle)

theorem step_taken (ttlSecs : UInt64) (queues : QuorumQueues) (self : Cleanup) (act : Act)
    (next : QuorumQueues × Cleanup) (taken : self.step ttlSecs queues act = some next) :
    Taken ttlSecs queues self act next := by
  unfold step at taken
  split at taken
  next now =>
    cases taken
    exact .start now
  next cutoffTime keys key =>
    split at taken
    next => cases taken
    next fresh =>
      rw [Option.map_eq_some_iff] at taken
      obtain ⟨queue,stored,same⟩ := taken
      subst same
      exact .visit cutoffTime keys key queue fresh stored
  next cutoffTime keys =>
    cases taken
    exact .collected cutoffTime keys
  next cutoffTime key keys =>
    cases taken
    exact .remove cutoffTime key keys
  next cutoffTime key keys =>
    cases taken
    exact .unpin cutoffTime key keys
  next cutoffTime key keys =>
    cases taken
    exact .unlock cutoffTime key keys
  next cutoffTime =>
    cases taken
    exact .finish cutoffTime
  next => cases taken

/-- A step of the clean-up changes no entry but the one that it removes. -/
theorem step_stored (ttlSecs : UInt64) (queues after : QuorumQueues) (self next : Cleanup) (act : Act)
    (taken : self.step ttlSecs queues act = some (after,next)) (id : QuorumQueueId) :
    after.getCloned id = queues.getCloned id ∨
      self.removed act = some id ∧ id ∈ self.keysToRemove ∧ after.getCloned id = none := by
  cases step_taken ttlSecs queues self act (after,next) taken with
  | start now => exact .inl rfl
  | visit cutoffTime keys key queue fresh stored => exact .inl rfl
  | collected cutoffTime keys => exact .inl rfl
  | unpin cutoffTime key keys => exact .inl rfl
  | unlock cutoffTime key keys => exact .inl rfl
  | finish cutoffTime => exact .inl rfl
  | remove cutoffTime key keys =>
    by_cases same : id = key
    · subst same
      exact .inr ⟨rfl,by simp [keysToRemove],WavsDbTable.getCloned_remove _ _⟩
    · exact .inl (WavsDbTable.getCloned_remove_ne _ _ _ same)

/-- The collected queues are burned, and each is collected once. -/
structure Collected (queues : QuorumQueues) (state : Cleanup) : Prop where
  distinct : state.keysToRemove.Nodup
  burned : ∀ key ∈ state.keysToRemove, ∃ timestamp, queues.getCloned key = some (.burned timestamp)

theorem idle_collected (queues : QuorumQueues) : Collected queues .idle :=
  ⟨.nil,fun key member => by cases member⟩

/-- Only burned queues are collected, and an entry that is visited is not collected yet. -/
theorem visit_collected (queues : QuorumQueues) (cutoffTime : UInt64) (keys : List QuorumQueueId)
    (key : QuorumQueueId) (queue : QuorumQueue) (fresh : key ∉ keys)
    (stored : queues.getCloned key = some queue) (collected : Collected queues (.collecting cutoffTime keys)) :
    Collected queues (.collecting cutoffTime (keys ++ (expired cutoffTime (key,queue)).toList)) := by
  cases queue with
  | active submissions => simpa [expired] using collected
  | burned timestamp =>
    by_cases old : timestamp < cutoffTime
    · simp only [expired,old,if_true,Option.toList_some]
      refine ⟨by simpa [keysToRemove] using collected.distinct.concat fresh,?_⟩
      intro other member
      rcases List.mem_append.mp member with before | last
      · exact collected.burned other before
      · rw [List.mem_singleton.mp last]
        exact ⟨timestamp,stored⟩
    · simpa [expired,old] using collected

theorem step_collected (ttlSecs : UInt64) (queues after : QuorumQueues) (self next : Cleanup) (act : Act)
    (taken : self.step ttlSecs queues act = some (after,next)) (collected : Collected queues self) :
    Collected after next := by
  cases step_taken ttlSecs queues self act (after,next) taken with
  | start now => exact ⟨.nil,fun key member => by cases member⟩
  | visit cutoffTime keys key queue fresh stored =>
    exact visit_collected queues cutoffTime keys key queue fresh stored collected
  | collected cutoffTime keys => exact ⟨collected.distinct,collected.burned⟩
  | unpin cutoffTime key keys => exact ⟨collected.distinct,collected.burned⟩
  | unlock cutoffTime key keys => exact ⟨collected.distinct,collected.burned⟩
  | finish cutoffTime => exact idle_collected queues
  | remove cutoffTime key keys =>
    obtain ⟨removed,distinct⟩ := List.nodup_cons.mp collected.distinct
    refine ⟨distinct,?_⟩
    intro other member
    have differ : other ≠ key := by
      intro same
      subst same
      exact removed member
    obtain ⟨timestamp,stored⟩ := collected.burned other (List.mem_cons_of_mem _ member)
    exact ⟨timestamp,(WavsDbTable.getCloned_remove_ne _ _ _ differ).trans stored⟩

end Cleanup

section Append

variable (prim : Primitives)

/-- Puts the submission in the place of the one with the same signer, or at the end. -/
def replaceOrPush (signer : ChainAddress) (submission : Submission) :
    List Submission → Except AggregatorError (List Submission)
  | [] => .ok [submission]
  | queued::rest => do
    let queuedSigner ← (queued.signer prim).mapError .signing
    if signer = queuedSigner then pure (submission::rest)
    else
      let rest ← replaceOrPush signer submission rest
      pure (queued::rest)

def appendSubmissionToQueue (queueId : QuorumQueueId) (queue : List Submission) (submission : Submission) :
    Except AggregatorError (List Submission) :=
  if queue.head?.any (fun prev => submission.envelope ≠ prev.envelope) then .error (.envelopeDiff queueId)
  else do
    let signer ← (submission.signer prim).mapError .signing
    replaceOrPush prim signer submission queue

/-- The signers whose submissions a queue holds. -/
def signers (queue : List Submission) : Set ChainAddress :=
  {signer | ∃ queued ∈ queue, queued.signer prim = .ok signer}

theorem replaceOrPush_spec (signer : ChainAddress) (submission : Submission)
    (known : submission.signer prim = .ok signer) (queue appended : List Submission)
    (done : replaceOrPush prim signer submission queue = .ok appended) :
    submission ∈ appended ∧ signers prim queue ⊆ signers prim appended ∧
      ∀ queued ∈ appended, queued ∈ queue ∨ queued = submission := by
  induction queue generalizing appended with
  | nil =>
    simp only [replaceOrPush,Except.ok.injEq] at done
    subst done
    simp [signers]
  | cons queued rest ih =>
    simp only [replaceOrPush,except_bind_ok,except_mapError_ok] at done
    obtain ⟨queuedSigner,recovered,done⟩ := done
    split at done
    next same =>
      simp only [pure,Except.pure,Except.ok.injEq] at done
      subst same done
      refine ⟨by simp,?_,?_⟩
      · intro signer member
        obtain ⟨held,found,held_⟩ := member
        rcases List.mem_cons.mp found with first | later
        · subst first
          rw [recovered] at held_
          cases held_
          exact ⟨submission,by simp,known⟩
        · exact ⟨held,List.mem_cons_of_mem _ later,held_⟩
      · intro held member
        rcases List.mem_cons.mp member with first | later
        · exact .inr first
        · exact .inl (List.mem_cons_of_mem _ later)
    next differ =>
      rw [except_bind_ok] at done
      obtain ⟨replaced,below,done⟩ := done
      simp only [pure,Except.pure,Except.ok.injEq] at done
      subst done
      obtain ⟨added,kept,origin⟩ := ih replaced below
      refine ⟨List.mem_cons_of_mem _ added,?_,?_⟩
      · intro signer member
        obtain ⟨held,found,held_⟩ := member
        rcases List.mem_cons.mp found with first | later
        · exact ⟨held,by simp [first],held_⟩
        · obtain ⟨other,member,other_⟩ := kept ⟨held,later,held_⟩
          exact ⟨other,List.mem_cons_of_mem _ member,other_⟩
      · intro held member
        rcases List.mem_cons.mp member with first | later
        · exact .inl (by simp [first])
        · rcases origin held later with earlier | new
          · exact .inl (List.mem_cons_of_mem _ earlier)
          · exact .inr new

/-- A successful append keeps every signer of the queue and adds the submission's. -/
theorem appendSubmissionToQueue_spec (queueId : QuorumQueueId) (queue appended : List Submission)
    (submission : Submission) (done : appendSubmissionToQueue prim queueId queue submission = .ok appended) :
    submission ∈ appended ∧ (∃ signer, submission.signer prim = .ok signer) ∧
      signers prim queue ⊆ signers prim appended ∧
      ∀ queued ∈ appended, queued ∈ queue ∨ queued = submission := by
  unfold appendSubmissionToQueue at done
  split at done
  · cases done
  rw [except_bind_ok] at done
  obtain ⟨signer,known,done⟩ := done
  rw [except_mapError_ok] at known
  obtain ⟨added,kept,origin⟩ := replaceOrPush_spec prim signer submission known queue appended done
  exact ⟨added,⟨signer,known⟩,kept,origin⟩

end Append
end Warpdrive.Aggregator
