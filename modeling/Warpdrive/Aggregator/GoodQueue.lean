import Warpdrive.Aggregator.Queue

/-! The append to a queue in place (`append_submission_to_queue`). The queue is changed at one
point, when the loop finds the submission's signer or after the loop, so an error leaves it as it
was. A queue that is built by appends alone holds one envelope and each signer once. -/
namespace Warpdrive.Aggregator

open Warpdrive.Foundation Warpdrive.Types

variable (prim : Primitives)

/-- The loop over the queue, and the push behind it. -/
def replaceInPlace (signer : ChainAddress) (submission : Submission) :
    List Submission → List Submission × Except AggregatorError Unit
  | [] => ([submission],.ok ())
  | queued::rest =>
    match queued.signer prim with
    | .error error => (queued::rest,.error (.signing error))
    | .ok queuedSigner =>
      if signer = queuedSigner then (submission::rest,.ok ())
      else
        let (rest,outcome) := replaceInPlace signer submission rest
        (queued::rest,outcome)

def appendInPlace (queueId : QuorumQueueId) (queue : List Submission) (submission : Submission) :
    List Submission × Except AggregatorError Unit :=
  if queue.head?.any (fun prev => submission.envelope ≠ prev.envelope) then (queue,.error (.envelopeDiff queueId))
  else
    match submission.signer prim with
    | .error error => (queue,.error (.signing error))
    | .ok signer => replaceInPlace prim signer submission queue

/-- The queue that a call leaves with what it returns. -/
def inPlace (queue : List Submission) (result : Except AggregatorError (List Submission)) :
    List Submission × Except AggregatorError Unit :=
  match result with
  | .error error => (queue,.error error)
  | .ok appended => (appended,.ok ())

theorem replaceInPlace_eq (signer : ChainAddress) (submission : Submission) (queue : List Submission) :
    replaceInPlace prim signer submission queue = inPlace queue (replaceOrPush prim signer submission queue) := by
  induction queue with
  | nil => rfl
  | cons queued rest ih =>
    cases recovered : queued.signer prim with
    | error error => simp [replaceInPlace,replaceOrPush,recovered,inPlace,Except.mapError,bind,Except.bind]
    | ok queuedSigner =>
      by_cases same : signer = queuedSigner
      · simp [replaceInPlace,replaceOrPush,recovered,same,inPlace,Except.mapError,bind,Except.bind,pure,Except.pure]
      · simp only [replaceInPlace,replaceOrPush,recovered,same,if_false,Except.mapError,bind,Except.bind,ih]
        cases replaceOrPush prim signer submission rest <;> rfl

/-- The queue that an append leaves is the one that `append` returns, and after an error the one it
was given. -/
theorem appendInPlace_eq (queueId : QuorumQueueId) (queue : List Submission) (submission : Submission) :
    appendInPlace prim queueId queue submission =
      inPlace queue (appendSubmissionToQueue prim queueId queue submission) := by
  unfold appendInPlace appendSubmissionToQueue
  split
  · rfl
  · cases recovered : submission.signer prim with
    | error error => rfl
    | ok signer =>
      simp only [Except.mapError,bind,Except.bind]
      exact replaceInPlace_eq prim signer submission queue

/-- All envelopes are equal, every signature recovers a signer, and the signers are distinct. -/
structure Good (queue : List Submission) : Prop where
  enveloped : ∀ first ∈ queue, ∀ second ∈ queue, first.envelope = second.envelope
  signed : ∀ queued ∈ queue, ∃ signer, queued.signer prim = .ok signer
  distinct : queue.Pairwise (fun first second => first.signer prim ≠ second.signer prim)

theorem good_nil : Good prim [] := ⟨by simp,by simp,.nil⟩

/-- Where the submission of a signer goes: in the place of the signer's entry, or to the end. -/
def Placed (signer : ChainAddress) (submission : Submission) (queue appended : List Submission) : Prop :=
  (∃ before old after, queue = before ++ old::after ∧ old.signer prim = .ok signer ∧
    appended = before ++ submission::after) ∨
  ((∀ queued ∈ queue, queued.signer prim ≠ .ok signer) ∧ appended = queue ++ [submission])

theorem replaceOrPush_placed (signer : ChainAddress) (submission : Submission) (queue : List Submission)
    (signed : ∀ queued ∈ queue, ∃ signer, queued.signer prim = .ok signer) :
    ∃ appended, replaceOrPush prim signer submission queue = .ok appended ∧
      Placed prim signer submission queue appended := by
  induction queue with
  | nil => exact ⟨[submission],rfl,.inr ⟨by simp,rfl⟩⟩
  | cons queued rest ih =>
    obtain ⟨queuedSigner,recovered⟩ := signed queued List.mem_cons_self
    by_cases same : signer = queuedSigner
    · subst same
      refine ⟨submission::rest,?_,.inl ⟨[],queued,rest,rfl,recovered,rfl⟩⟩
      simp [replaceOrPush,recovered,Except.mapError,bind,Except.bind,pure,Except.pure]
    · obtain ⟨appended,done,placed⟩ := ih (fun other member => signed other (List.mem_cons_of_mem queued member))
      refine ⟨queued::appended,?_,?_⟩
      · simp [replaceOrPush,recovered,same,done,Except.mapError,bind,Except.bind,pure,Except.pure]
      · rcases placed with ⟨before,old,after,split,owned,put⟩ | ⟨absent,put⟩
        · exact .inl ⟨queued::before,old,after,by rw [split,List.cons_append],owned,
            by rw [put,List.cons_append]⟩
        · refine .inr ⟨?_,by rw [put,List.cons_append]⟩
          intro other member found
          rcases List.mem_cons.mp member with first | later
          · rw [first,recovered] at found
            exact same (Except.ok.inj found).symm
          · exact absent other later found

theorem Good.placed {queue : List Submission} (good : Good prim queue) (signer : ChainAddress)
    (submission : Submission) (owned : submission.signer prim = .ok signer)
    (matching : ∀ queued ∈ queue, queued.envelope = submission.envelope) (appended : List Submission)
    (placed : Placed prim signer submission queue appended) : Good prim appended := by
  have alike : ∀ queued ∈ appended, queued = submission ∨ queued ∈ queue := by
    intro queued member
    rcases placed with ⟨before,old,after,split,_,put⟩ | ⟨_,put⟩
    · simp only [put,split,List.mem_append,List.mem_cons] at member ⊢
      tauto
    · simp only [put,List.mem_append,List.mem_singleton] at member
      tauto
  have uniform : ∀ queued ∈ appended, queued.envelope = submission.envelope := by
    intro queued member
    rcases alike queued member with same | inside
    · rw [same]
    · exact matching queued inside
  refine ⟨?_,?_,?_⟩
  · intro first one second two
    rw [uniform first one,uniform second two]
  · intro queued member
    rcases alike queued member with same | inside
    · exact ⟨signer,by rw [same,owned]⟩
    · exact good.signed queued inside
  · have distinct := good.distinct
    rcases placed with ⟨before,old,after,split,held,put⟩ | ⟨absent,put⟩
    · rw [split,List.pairwise_append,List.pairwise_cons] at distinct
      rw [put,List.pairwise_append,List.pairwise_cons]
      simp only [List.mem_cons,forall_eq_or_imp] at distinct ⊢
      rw [owned]
      rw [held] at distinct
      exact distinct
    · rw [put,List.pairwise_append]
      refine ⟨distinct,List.pairwise_singleton _ _,?_⟩
      intro queued member other last
      rw [List.mem_singleton.mp last,owned]
      exact absent queued member

/-- In a good queue the entry of a signer is the only one of it. -/
theorem Good.once {queue : List Submission} (good : Good prim queue) (signer : ChainAddress)
    (submission : Submission) (owned : submission.signer prim = .ok signer) (member : submission ∈ queue) :
    queue.filter (fun queued => queued.signer prim = .ok signer) = [submission] := by
  obtain ⟨before,after,split⟩ := List.append_of_mem member
  have distinct := good.distinct
  rw [split,List.pairwise_append,List.pairwise_cons] at distinct
  obtain ⟨_,⟨later,_⟩,earlier⟩ := distinct
  have none : ∀ queued ∈ before, ¬queued.signer prim = .ok signer := by
    intro queued inside found
    exact earlier queued inside submission List.mem_cons_self (found.trans owned.symm)
  have absent : ∀ queued ∈ after, ¬queued.signer prim = .ok signer := by
    intro queued inside found
    exact later queued inside (owned.trans found.symm)
  rw [split,List.filter_append,List.filter_cons_of_pos (by simpa using owned),
    List.filter_eq_nil_iff.mpr (by simpa using none),List.filter_eq_nil_iff.mpr (by simpa using absent)]
  rfl

theorem Placed.mem {signer : ChainAddress} {submission : Submission} {queue appended : List Submission}
    (placed : Placed prim signer submission queue appended) : submission ∈ appended := by
  rcases placed with ⟨before,old,after,_,_,put⟩ | ⟨_,put⟩ <;> simp [put]

theorem Placed.signers {signer : ChainAddress} {submission : Submission} {queue appended : List Submission}
    (placed : Placed prim signer submission queue appended) (owned : submission.signer prim = .ok signer) :
    signers prim appended = insert signer (signers prim queue) := by
  ext other
  have flip : (signer = other) = (other = signer) := propext eq_comm
  rcases placed with ⟨before,old,after,split,held,put⟩ | ⟨_,put⟩
  · simp only [Aggregator.signers,put,split,Set.mem_ofPred_eq,Set.mem_insert_iff,List.mem_append,List.mem_cons,
      or_and_right,exists_or,exists_eq_left,owned,held,Except.ok.injEq,flip]
    by_cases same : other = signer <;> simp [same]
  · simp only [Aggregator.signers,put,Set.mem_ofPred_eq,Set.mem_insert_iff,List.mem_append,List.mem_singleton,
      or_and_right,exists_or,exists_eq_left,owned,Except.ok.injEq,flip]
    by_cases same : other = signer <;> simp [same]

/-- The envelope differs from the queue's, or the signature is invalid. -/
def Unfit (queue : List Submission) (submission : Submission) : Prop :=
  (∃ queued ∈ queue, queued.envelope ≠ submission.envelope) ∨ ∃ error, submission.signer prim = .error error

theorem Good.append {queue : List Submission} (good : Good prim queue) (queueId : QuorumQueueId)
    (submission : Submission) :
    (Unfit prim queue submission ∧ ∃ error, appendInPlace prim queueId queue submission = (queue,.error error)) ∨
      (¬Unfit prim queue submission ∧ ∃ signer appended, submission.signer prim = .ok signer ∧
        appendInPlace prim queueId queue submission = (appended,.ok ()) ∧
        Placed prim signer submission queue appended) := by
  by_cases differs : queue.head?.any (fun prev => submission.envelope ≠ prev.envelope) = true
  · refine .inl ⟨.inl ?_,.envelopeDiff queueId,by rw [appendInPlace,if_pos differs]⟩
    simp only [Option.any_eq_true,decide_eq_true_eq] at differs
    obtain ⟨first,front,other⟩ := differs
    exact ⟨first,List.mem_of_mem_head? front,fun same => other same.symm⟩
  · have matching : ∀ queued ∈ queue, queued.envelope = submission.envelope := by
      intro queued member
      cases queue with
      | nil => cases member
      | cons first rest =>
        simp only [List.head?_cons,Option.any_some,decide_eq_true_eq,not_not] at differs
        rw [differs]
        exact good.enveloped queued member first List.mem_cons_self
    cases recovered : submission.signer prim with
    | error error =>
      refine .inl ⟨.inr ⟨error,recovered⟩,.signing error,?_⟩
      simp only [appendInPlace,differs,recovered]
      rfl
    | ok signer =>
      obtain ⟨appended,done,placed⟩ := replaceOrPush_placed prim signer submission queue good.signed
      refine .inr ⟨?_,signer,appended,rfl,?_,placed⟩
      · rintro (⟨queued,member,other⟩ | ⟨error,failed⟩)
        · exact other (matching queued member)
        · rw [recovered] at failed
          cases failed
      · simp only [appendInPlace,differs,recovered,replaceInPlace_eq,done]
        rfl

theorem Good.kept {queue : List Submission} (good : Good prim queue) (queueId : QuorumQueueId)
    (submission : Submission) : Good prim (appendInPlace prim queueId queue submission).1 := by
  rcases good.append prim queueId submission with ⟨_,error,failed⟩ | ⟨fits,signer,appended,owned,done,placed⟩
  · rw [failed]
    exact good
  · rw [done]
    refine good.placed prim signer submission owned ?_ appended placed
    intro queued member
    by_contra other
    exact fits (.inl ⟨queued,member,other⟩)

/-- The queue that a list of appends builds, each of which may fail. -/
def collect (queueId : QuorumQueueId) (submissions : List Submission) : List Submission :=
  submissions.foldl (fun queue submission => (appendInPlace prim queueId queue submission).1) []

theorem collect_good (queueId : QuorumQueueId) (submissions : List Submission) :
    Good prim (collect prim queueId submissions) :=
  List.foldlRecOn submissions _ (good_nil prim) (fun _ good submission _ => good.kept prim queueId submission)

/-- What is appended to a queue of one envelope adds its signers to it. -/
theorem foldl_signers (queueId : QuorumQueueId) (envelope : Envelope) (submissions queue : List Submission)
    (good : Good prim queue) (own : ∀ queued ∈ queue, queued.envelope = envelope)
    (common : ∀ submission ∈ submissions, submission.envelope = envelope) :
    signers prim (submissions.foldl
      (fun queue submission => (appendInPlace prim queueId queue submission).1) queue) =
      signers prim queue ∪ signers prim submissions := by
  induction submissions generalizing queue with
  | nil => simp [signers]
  | cons submission rest ih =>
    have shared := common submission List.mem_cons_self
    have later : ∀ other ∈ rest, other.envelope = envelope :=
      fun other member => common other (List.mem_cons_of_mem submission member)
    have kept := good.kept prim queueId submission
    rw [List.foldl_cons]
    rcases good.append prim queueId submission with ⟨unfit,error,failed⟩ | ⟨_,signer,appended,owned,done,placed⟩
    · rw [failed,ih queue good own later]
      ext other
      rcases unfit with ⟨queued,member,differs⟩ | ⟨error,invalid⟩
      · exact absurd ((own queued member).trans shared.symm) differs
      · simp [signers,invalid]
    · rw [done] at kept ⊢
      have still : ∀ queued ∈ appended, queued.envelope = envelope := by
        intro queued member
        rw [← shared]
        exact kept.enveloped queued member submission (placed.mem prim)
      rw [ih appended kept still later,placed.signers prim owned]
      ext other
      have flip : (signer = other) = (other = signer) := propext eq_comm
      simp only [signers,Set.mem_union,Set.mem_insert_iff,Set.mem_ofPred_eq,List.mem_cons,or_and_right,exists_or,
        exists_eq_left,owned,Except.ok.injEq,flip]
      by_cases same : other = signer <;> simp [same]

theorem collect_signers (queueId : QuorumQueueId) (envelope : Envelope) (submissions : List Submission)
    (common : ∀ submission ∈ submissions, submission.envelope = envelope) :
    signers prim (collect prim queueId submissions) = signers prim submissions := by
  rw [collect,foldl_signers prim queueId envelope submissions [] (good_nil prim) (by simp) common]
  simp [signers]

/-- An append to a good queue leaves a good queue with the submission as its signer's one entry, or
fails and leaves the queue, exactly when the submission does not fit. So every queue that appends
build is good, and the signers of one envelope do not depend on the order. -/
theorem appends_keep_queue_good (queueId : QuorumQueueId) :
    (∀ queue, Good prim queue → ∀ submission,
      ((∃ error, (appendInPlace prim queueId queue submission).2 = .error error) ↔
        Unfit prim queue submission) ∧
      (∀ error, (appendInPlace prim queueId queue submission).2 = .error error →
        (appendInPlace prim queueId queue submission).1 = queue) ∧
      ((appendInPlace prim queueId queue submission).2 = .ok () →
        Good prim (appendInPlace prim queueId queue submission).1 ∧
        ∃ signer, submission.signer prim = .ok signer ∧
          Placed prim signer submission queue (appendInPlace prim queueId queue submission).1 ∧
          (appendInPlace prim queueId queue submission).1.filter
            (fun queued => queued.signer prim = .ok signer) = [submission])) ∧
    (∀ submissions, Good prim (collect prim queueId submissions)) ∧
    ∀ envelope first second, first.Perm second → (∀ submission ∈ first, submission.envelope = envelope) →
      signers prim (collect prim queueId first) = signers prim (collect prim queueId second) := by
  refine ⟨?_,collect_good prim queueId,?_⟩
  · intro queue good submission
    have kept := good.kept prim queueId submission
    rcases good.append prim queueId submission with ⟨unfit,error,failed⟩ | ⟨fits,signer,appended,owned,done,placed⟩
    · rw [failed]
      exact ⟨⟨fun _ => unfit,fun _ => ⟨error,rfl⟩⟩,fun _ _ => rfl,fun impossible => by cases impossible⟩
    · rw [done] at kept ⊢
      refine ⟨⟨?_,fun unfit => absurd unfit fits⟩,(fun _ impossible => by cases impossible),?_⟩
      · rintro ⟨error,impossible⟩
        cases impossible
      · intro _
        exact ⟨kept,signer,owned,placed,kept.once prim signer submission owned (placed.mem prim)⟩
  · intro envelope first second perm common
    have again : ∀ submission ∈ second, submission.envelope = envelope :=
      fun submission member => common submission (perm.mem_iff.mpr member)
    rw [collect_signers prim queueId envelope first common,collect_signers prim queueId envelope second again]
    ext signer
    simp only [signers,Set.mem_ofPred_eq,perm.mem_iff]

end Warpdrive.Aggregator
