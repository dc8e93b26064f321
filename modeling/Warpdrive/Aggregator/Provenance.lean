import Warpdrive.Aggregator.Window

/-! Where queued submissions and reference blocks come from. Every queued submission is
one that passed the receive gate, unchanged and in a queue of its own event, and every
pin that an attempt reads was set by an admitted packet of the event. What the gate does
not check is therefore decided by the packets that come in. -/
namespace Warpdrive.Aggregator
open Warpdrive.Foundation Warpdrive.Foundation.Execution Warpdrive.Types Warpdrive.Utils

variable {ι : Type} (prim : Primitives)

namespace Submitting

/-- The submissions of the tasks, of their callbacks and of the stored queues satisfy
`holds`, and a queue holds submissions of its own event. -/
structure Filed (holds : Submission → Prop) (state : Submitting ι) : Prop where
  tasks : ∀ i task, state.tasks i = some task → holds task.submission
  callbacks : ∀ command ∈ state.callbacks, holds command.submission
  queues : ∀ id held, getQuorumQueue state.quorumQueues id = .active held →
    ∀ queued ∈ held, holds queued ∧ queued.eventId = id.eventId

theorem new_filed (holds : Submission → Prop) (ttlSecs : UInt64) :
    Filed holds (new ttlSecs : Submitting ι) := by
  refine ⟨?_,?_,?_⟩
  · intro i task found
    cases found
  · intro command member
    cases member
  · intro id held stored queued member
    simp only [new,getQuorumQueue,WavsDbTable.getCloned_new,Option.getD_none,QuorumQueue.active.injEq] at stored
    rw [← stored] at member
    cases member

theorem Filed.mono {state : Submitting ι} (holds more : Submission → Prop)
    (weaker : ∀ submission, holds submission → more submission) (filed : Filed holds state) :
    Filed more state := by
  refine ⟨?_,?_,?_⟩
  · intro i task found
    exact weaker _ (filed.tasks i task found)
  · intro command member
    exact weaker _ (filed.callbacks command member)
  · intro id held stored queued member
    obtain ⟨given,event⟩ := filed.queues id held stored queued member
    exact ⟨weaker _ given,event⟩

/-- The submissions of the tasks that start satisfy `holds`. -/
def Spawns (holds : Submission → Prop) (act : Act ι) : Prop :=
  match act with
  | .spawn _ submission _ _ => holds submission
  | _ => True

variable [DecidableEq ι]

theorem step_tasks (self : Submitting ι) (act : Act ι) (next : Submitting ι)
    (taken : self.step prim act = some next) (holds : Submission → Prop) (spawns : Spawns holds act)
    (tasks : ∀ i task, self.tasks i = some task → holds task.submission) :
    ∀ i task, next.tasks i = some task → holds task.submission := by
  have others : ∀ i j task, j ≠ i → self.tasks j = some task → holds task.submission :=
    fun _ j task _ => tasks j task
  let held : ι → ActionTask → Prop := fun _ task => holds task.submission
  cases step_taken prim self act next taken with
  | submit i => exact forall_setTask _ held i _ spawns (others i)
  | timer i => exact forall_setTask self held i _ spawns (others i)
  | queueLock => exact tasks
  | load i submission service action key lock locking entered =>
    have own := tasks i _ locking
    exact forall_setTask self held i _ own (others i)
  | unappended i submission service action queue error loaded failed =>
    have own := tasks i _ loaded
    exact forall_setTask self held i _ own (others i)
  | appended i submission service action queue longer transaction loaded done called =>
    have own := tasks i _ loaded
    exact forall_setTask _ held i _ own (others i)
  | chainLock => exact tasks
  | enter i submission service action queue key lock submitting entered =>
    have own := tasks i _ submitting
    exact forall_setTask self held i _ own (others i)
  | answer i submission service action queue rest next history reply attempting resumed =>
    have own := tasks i _ attempting
    exact forall_setTask self held i _ own (others i)
  | leaveChain i submission service action queue result history transaction attempting finished =>
    have own := tasks i _ attempting
    exact forall_setTask _ held i _ own (others i)
  | store i submission service action queue result history now attempted left =>
    have own := tasks i _ attempted
    exact forall_setTask _ held i _ own (others i)
  | notify i submission service action result history delivered stored =>
    have own := tasks i _ stored
    exact forall_setTask _ held i _ own (others i)
  | finish i submission service action outcome transaction leaving finished =>
    have own := tasks i _ leaving
    exact forall_setTask _ held i _ own (others i)
  | fire i submission service delaySecs delivered sleeping =>
    have own := tasks i _ sleeping
    exact forall_setTask _ held i _ own (others i)
  | cleanup => exact tasks

omit [DecidableEq ι] in
theorem callbacks_send (self : Submitting ι) (holds : Submission → Prop) (delivered : Bool)
    (command : AggregatorExecute) (own : holds command.submission)
    (callbacks : ∀ command ∈ self.callbacks, holds command.submission) :
    ∀ other ∈ (self.send delivered command).callbacks, holds other.submission := by
  intro other member
  cases delivered with
  | false => exact callbacks other (by simpa [send] using member)
  | true =>
    rcases List.mem_append.mp member with before | last
    · exact callbacks other before
    · rw [List.mem_singleton.mp last]
      exact own

theorem step_callbacks (self : Submitting ι) (act : Act ι) (next : Submitting ι)
    (taken : self.step prim act = some next) (holds : Submission → Prop) (filed : Filed holds self) :
    ∀ command ∈ next.callbacks, holds command.submission := by
  cases step_taken prim self act next taken with
  | notify i submission service action result history delivered stored =>
    exact callbacks_send self holds delivered _ (filed.tasks i _ stored) filed.callbacks
  | fire i submission service delaySecs delivered sleeping =>
    exact callbacks_send self holds delivered _ (filed.tasks i _ sleeping) filed.callbacks
  | submit => exact filed.callbacks
  | timer => exact filed.callbacks
  | queueLock => exact filed.callbacks
  | load => exact filed.callbacks
  | unappended => exact filed.callbacks
  | appended => exact filed.callbacks
  | chainLock => exact filed.callbacks
  | enter => exact filed.callbacks
  | answer => exact filed.callbacks
  | leaveChain => exact filed.callbacks
  | store => exact filed.callbacks
  | finish => exact filed.callbacks
  | cleanup => exact filed.callbacks

omit [DecidableEq ι] in
theorem appended_filed (self : Submitting ι) (holds : Submission → Prop) (filed : Filed holds self)
    (id : QuorumQueueId) (submission : Submission) (held queue : List Submission)
    (stored : getQuorumQueue self.quorumQueues id = .active held)
    (appended : appendSubmissionToQueue prim id held submission = .ok queue) (own : holds submission)
    (event : submission.eventId = id.eventId) :
    ∀ queued ∈ queue, holds queued ∧ queued.eventId = id.eventId := by
  intro queued member
  rcases (appendSubmissionToQueue_spec prim id held queue submission appended).2.2.2 queued member with
    before | same
  · exact filed.queues id held stored queued before
  · rw [same]
    exact ⟨own,event⟩

theorem step_filed (self : Submitting ι) (act : Act ι) (next : Submitting ι)
    (taken : self.step prim act = some next) (serial : Serial prim self) (holds : Submission → Prop)
    (spawns : Spawns holds act) (filed : Filed holds self) : Filed holds next := by
  refine ⟨step_tasks prim self act next taken holds spawns filed.tasks,
    step_callbacks prim self act next taken holds filed,?_⟩
  intro id held stored queued member
  rcases step_stored prim self act next taken serial id with kept | changed | ⟨_,removed⟩
  · simp only [getQuorumQueue,kept] at stored
    exact filed.queues id held stored queued member
  · obtain ⟨i,submission,service,action,queue,result,history,now,before,_,attempted,same,active,appended,after⟩ :=
      changed
    rw [after,getQuorumQueue_storeResult] at stored
    cases result with
    | ok receipt => cases stored
    | error error =>
      cases stored
      have own := filed.tasks i _ attempted
      exact appended_filed prim self holds filed id submission before held active appended own (by rw [same])
        queued member
  · simp only [getQuorumQueue,removed,Option.getD_none,QuorumQueue.active.injEq] at stored
    rw [← stored] at member
    cases member

/-- The answers that a task's attempt has been given. -/
def attemptHistory (task : ActionTask) : History Query.Answer :=
  match task.work with
  | .submit _ (.attempting _ _ history) => history
  | .submit _ (.attempted _ _ history) => history
  | _ => []

/-- Answers to an attempt are the earlier ones, with at most the last one new. -/
theorem step_attemptHistory (self : Submitting ι) (act : Act ι) (next : Submitting ι)
    (taken : self.step prim act = some next) (holds : Reply → Prop)
    (answers : ∀ i reply, act = .answer i reply → holds reply)
    (given : ∀ i task, self.tasks i = some task → ∀ reply ∈ attemptHistory task, holds reply) :
    ∀ i task, next.tasks i = some task → ∀ reply ∈ attemptHistory task, holds reply := by
  have others : ∀ i j task, j ≠ i → self.tasks j = some task → ∀ reply ∈ attemptHistory task, holds reply :=
    fun _ j task _ => given j task
  let held : ι → ActionTask → Prop := fun _ task => ∀ reply ∈ attemptHistory task, holds reply
  have idle : ∀ i task, attemptHistory task = [] → held i task := by
    intro i task unanswered reply member
    rw [unanswered] at member
    cases member
  cases step_taken prim self act next taken with
  | submit i => exact forall_setTask _ held i _ (idle i _ rfl) (others i)
  | timer i => exact forall_setTask self held i _ (idle i _ rfl) (others i)
  | queueLock => exact given
  | load i submission service action key lock locking entered =>
    refine forall_setTask self held i _ ?_ (others i)
    cases stored : getQuorumQueue self.quorumQueues ⟨submission.eventId,action⟩ with
    | burned timestamp => exact idle i _ rfl
    | active queue => exact idle i _ rfl
  | unappended i => exact forall_setTask self held i _ (idle i _ rfl) (others i)
  | appended i => exact forall_setTask _ held i _ (idle i _ rfl) (others i)
  | chainLock => exact given
  | enter i => exact forall_setTask self held i _ (idle i _ rfl) (others i)
  | answer i submission service action queue rest next history reply attempting resumed =>
    refine forall_setTask self held i _ ?_ (others i)
    intro other member
    rcases List.mem_append.mp member with before | last
    · exact given i _ attempting other before
    · rw [List.mem_singleton.mp last]
      exact answers i reply rfl
  | leaveChain i submission service action queue result history transaction attempting finished =>
    have own := given i _ attempting
    exact forall_setTask _ held i _ own (others i)
  | store i => exact forall_setTask _ held i _ (idle i _ rfl) (others i)
  | notify i => exact forall_setTask _ held i _ (idle i _ rfl) (others i)
  | finish i => exact forall_setTask _ held i _ (idle i _ rfl) (others i)
  | fire i => exact forall_setTask _ held i _ (idle i _ rfl) (others i)
  | cleanup => exact given

end Submitting

namespace System

/-- A receive call has validated the submission and found or set the pin. -/
def Passed (self : System ι) (submission : Submission) : Prop :=
  ∃ i call block, self.receiving.calls i = some call ∧ call.submission = submission ∧
    call.pinnedAt = some block

variable [DecidableEq ι]

omit [DecidableEq ι] in
theorem calls_forget (receiving : Receiving ι) (cleanup : Cleanup) (act : Cleanup.Act) :
    (forget receiving cleanup act).calls = receiving.calls :=
  forget_keeps receiving cleanup act (fun now => now.calls = receiving.calls) (fun _ kept => kept)
    (fun _ kept => kept) rfl

theorem step_continues (self : System ι) (act : Act ι) (next : System ι)
    (taken : self.step prim act = some next) (j : ι) (call : ReceiveCall)
    (found : self.receiving.calls j = some call) :
    ∃ later, next.receiving.calls j = some later ∧ Receiving.Continues call later := by
  have stays : ∃ later, self.receiving.calls j = some later ∧ Receiving.Continues call later :=
    ⟨call,found,.refl call⟩
  refine step_receiving prim self act next taken
    (fun receiving => ∃ later, receiving.calls j = some later ∧ Receiving.Continues call later) ?_ ?_ stays
  · intro act receiving stepped _
    exact Receiving.step_continues prim self.receiving act receiving stepped j call found
  · intro cleaning _ _
    refine ⟨call,?_,.refl call⟩
    rw [calls_forget]
    exact found

theorem step_passed (self : System ι) (act : Act ι) (next : System ι)
    (taken : self.step prim act = some next) (submission : Submission) (passed : self.Passed submission) :
    next.Passed submission := by
  obtain ⟨i,call,block,found,same,pinned⟩ := passed
  obtain ⟨later,found,continues⟩ := step_continues prim self act next taken i call found
  exact ⟨i,later,block,found,continues.submission.trans same,continues.pinned block pinned⟩

theorem step_origin (self : System ι) (act : Act ι) (next : System ι)
    (taken : self.step prim act = some next) (eventId : EventId) (block : Height)
    (origin : self.receiving.Origin eventId block) : next.receiving.Origin eventId block := by
  obtain ⟨i,call,found,pins⟩ := origin
  obtain ⟨later,found,continues⟩ := step_continues prim self act next taken i call found
  exact ⟨i,later,found,pins.continues continues⟩

theorem step_dispatched (self : System ι) (act : Act ι) (next : System ι)
    (taken : self.step prim act = some next) (dispatched : self.receiving.Dispatched) :
    next.receiving.Dispatched := by
  refine step_receiving prim self act next taken Receiving.Dispatched
    (fun act receiving => Receiving.step_dispatched prim self.receiving act receiving) ?_ dispatched
  intro cleaning _ dispatched
  exact forget_keeps self.receiving _ cleaning Receiving.Dispatched (fun _ kept => kept) (fun _ kept => kept)
    dispatched

/-- A pin that was read has an admitted packet behind it. -/
def ReadFrom (self : System ι) (reply : Reply) : Prop :=
  ∀ eventId block, reply = ⟨.pinnedReferenceBlock eventId,some block⟩ → self.receiving.Origin eventId block

/-- Everything the aggregator holds can be traced to packets that came in. -/
structure Traced (state : System ι) : Prop where
  serial : Submitting.Serial prim state.submitting
  rooted : Receiving.Rooted prim state.receiving
  dispatched : state.receiving.Dispatched
  filed : Submitting.Filed state.Passed state.submitting
  reads : ∀ i task, state.submitting.tasks i = some task →
    ∀ reply ∈ Submitting.attemptHistory task, state.ReadFrom reply

omit [DecidableEq ι] in
theorem new_traced (ttlSecs : UInt64) : Traced prim (new ttlSecs : System ι) := by
  refine ⟨Submitting.new_serial prim ttlSecs,Receiving.new_rooted prim,?_,Submitting.new_filed _ ttlSecs,?_⟩
  · intro command member
    cases member
  · intro i task found
    cases found

omit [DecidableEq ι] in
/-- The engine runs the component on submissions that passed the gate only. -/
theorem passed_of_dispatched (self : System ι) (traced : Traced prim self) (submission : Submission)
    (returned : self.dispatched submission) : self.Passed submission := by
  simp only [System.dispatched,List.any_eq_true,Bool.and_eq_true,decide_eq_true_eq] at returned
  obtain ⟨command,member,_,same⟩ := returned
  rcases List.mem_append.mp member with forwarded | callback
  · obtain ⟨i,call,block,found,given,_,pinned⟩ := traced.dispatched command forwarded
    exact ⟨i,call,block,found,given.trans same,pinned⟩
  · rw [← same]
    exact traced.filed.callbacks command callback

theorem step_filed (self : System ι) (act : Act ι) (next : System ι)
    (taken : self.step prim act = some next) (traced : Traced prim self) :
    Submitting.Filed next.Passed next.submitting := by
  have weaker := step_passed prim self act next taken
  cases step_taken prim self act next taken with
  | setService id service services => exact .mono _ _ weaker traced.filed
  | broadcast signers req submission signed => exact .mono _ _ weaker traced.filed
  | receive i peer submission service receiving own extracted stepped => exact .mono _ _ weaker traced.filed
  | receiving act receiving running stepped => exact .mono _ _ weaker traced.filed
  | actions i submission action service submitting returned extracted stepped =>
    exact .mono _ _ weaker (Submitting.step_filed prim self.submitting _ submitting stepped traced.serial
      self.Passed (passed_of_dispatched prim self traced submission returned) traced.filed)
  | submitting act submitting running stepped =>
    have spawns : Submitting.Spawns self.Passed act := by
      cases act <;> trivial
    exact .mono _ _ weaker (Submitting.step_filed prim self.submitting act submitting stepped traced.serial
      self.Passed spawns traced.filed)
  | cleanup act submitting stepped =>
    exact .mono _ _ weaker (Submitting.step_filed prim self.submitting (.cleanup act) submitting stepped
      traced.serial self.Passed trivial traced.filed)

theorem step_readFrom (self : System ι) (act : Act ι) (next : System ι)
    (taken : self.step prim act = some next) (reply : Reply) (read : self.ReadFrom reply) :
    next.ReadFrom reply := by
  intro eventId block same
  exact step_origin prim self act next taken eventId block (read eventId block same)

omit [DecidableEq ι] in
theorem truthful_readFrom (self : System ι) (rooted : Receiving.Rooted prim self.receiving) (reply : Reply)
    (truthful : Truthful self.receiving.eventReferenceBlocks reply) : self.ReadFrom reply := by
  intro eventId block same
  rw [same,truthful_pin] at truthful
  exact rooted.pins eventId block truthful

theorem step_reads (self : System ι) (act : Act ι) (next : System ι)
    (taken : self.step prim act = some next) (traced : Traced prim self) :
    ∀ i task, next.submitting.tasks i = some task →
      ∀ reply ∈ Submitting.attemptHistory task, next.ReadFrom reply := by
  have persists := step_readFrom prim self act next taken
  have kept : ∀ i task, self.submitting.tasks i = some task →
      ∀ reply ∈ Submitting.attemptHistory task, next.ReadFrom reply :=
    fun i task found reply member => persists reply (traced.reads i task found reply member)
  cases step_taken prim self act next taken with
  | setService id service services => exact kept
  | broadcast signers req submission signed => exact kept
  | receive i peer submission service receiving own extracted stepped => exact kept
  | receiving act receiving running stepped => exact kept
  | actions i submission action service submitting returned extracted stepped =>
    refine Submitting.step_attemptHistory prim self.submitting _ submitting stepped _ ?_ kept
    intro j reply spawned
    cases spawned
  | submitting act submitting running stepped =>
    refine Submitting.step_attemptHistory prim self.submitting act submitting stepped _ ?_ kept
    intro i reply answered
    subst answered
    have truthful : Truthful self.receiving.eventReferenceBlocks reply := by
      simpa [isSubmitting] using running
    exact persists reply (truthful_readFrom prim self traced.rooted reply truthful)
  | cleanup act submitting stepped =>
    refine Submitting.step_attemptHistory prim self.submitting _ submitting stepped _ ?_ kept
    intro i reply answered
    cases answered

theorem step_traced (self : System ι) (act : Act ι) (next : System ι)
    (taken : self.step prim act = some next) (traced : Traced prim self) : Traced prim next :=
  ⟨step_serial prim self act next taken traced.serial,step_rooted prim self act next taken traced.rooted,
    step_dispatched prim self act next taken traced.dispatched,step_filed prim self act next taken traced,
    step_reads prim self act next taken traced⟩

theorem run_traced (ttlSecs : UInt64) (acts : List (Act ι)) (final : System ι)
    (reached : run (step prim) (new ttlSecs) acts = some final) : Traced prim final :=
  invariant (Traced prim) (step_traced prim) (new ttlSecs) final acts reached (new_traced prim ttlSecs)

/-! ## The chain of a reference block -/

omit [DecidableEq ι] in
/-- The queue of an attempt is not empty, and its oldest submission is of the task's
own event. -/
theorem head_event (self : System ι) (traced : Traced prim self) (i : ι) (submission : Submission)
    (service : Service) (action : SubmitAction) (queue : List Submission)
    (rest : Fallible AnyTransactionReceipt) (history : History Query.Answer)
    (attempting : self.submitting.tasks i =
      some ⟨submission,service,.submit action (.attempting queue rest history)⟩)
    (first : Submission) (found : queue.head? = some first) : first.eventId = submission.eventId := by
  obtain ⟨⟨held,stored,appended⟩,_⟩ := traced.serial.knows i _ attempting
  have own := traced.filed.tasks i _ attempting
  exact (Submitting.appended_filed prim self.submitting _ traced.filed _ submission held queue stored appended
    own rfl first (List.mem_of_mem_head? found)).2

/-- In every run, the block that an attempt hands to the destination's validation is one
of the destination chain exactly when the event was not pinned, or the packet that pinned
the event to this block is of a service whose manager is on the destination chain. -/
theorem run_reference_observed (ttlSecs : UInt64) (acts : List (Act ι)) (final : System ι)
    (reached : run (step prim) (new ttlSecs) acts = some final) (i : ι) (submission : Submission)
    (service : Service) (action : SubmitAction) (queue : List Submission)
    (rest : Fallible AnyTransactionReceipt) (history : History Query.Answer)
    (attempting : final.submitting.tasks i =
      some ⟨submission,service,.submit action (.attempting queue rest history)⟩)
    (reply : Reply) (member : reply ∈ history) (reference : Height)
    (validates : reply.1.validateReference = some reference) :
    ∃ pinned, (⟨.pinnedReferenceBlock submission.eventId,pinned⟩ : Reply) ∈ history ∧
      match pinned with
      | none => reference.observedOn = action.chain
      | some pin => reference = pin ∧
          (∃ j call, final.receiving.calls j = some call ∧ Receiving.Pins submission.eventId pin call) ∧
          ∀ j call, final.receiving.calls j = some call → Receiving.Pins submission.eventId pin call →
            (reference.observedOn = action.chain ↔ call.service.manager.chain = action.chain) := by
  have traced := run_traced prim ttlSecs acts final reached
  obtain ⟨_,follows⟩ := traced.serial.knows i _ attempting
  obtain ⟨first,pinned,head,read,referenced⟩ := attempt_references prim service queue action history
    ⟨rest,follows⟩ reply member reference validates
  rw [head_event prim final traced i submission service action queue rest history attempting first head] at read
  refine ⟨pinned,read,?_⟩
  rcases referenced with found | ⟨none,observed⟩
  · subst found
    refine ⟨rfl,traced.reads i _ attempting _ read submission.eventId reference rfl,?_⟩
    intro j call called pins
    rw [pins.observedOn prim (traced.rooted.sound j call called)]
  · subst none
    exact observed

/-- The submission of the first packet, attempted up to the destination's answer. -/
def attemptOn (chain : ChainKey) : List (Act Caller) :=
  List.flatten [firstPacket,
    [.actions .first submission1 (.submit (.evm ⟨chain,Submitting.deployedHandler,none⟩))],
    List.map Act.submitting (List.flatten [Submitting.firstAttempt .first,
      (Submitting.submitted chain Submitting.oneSignature).map (.answer .first)])]

/-- The first task has handed the destination a block for which the test holds. -/
def validatedBlock (test : SubmitAction → Height → Bool) (final : System Caller) : Bool :=
  match final.submitting.tasks .first with
  | some ⟨_,_,.submit action (.attempting _ _ history)⟩ =>
    history.any (fun reply => reply.1.validateReference.any (test action))
  | _ => false

omit [DecidableEq ι] in
theorem of_validatedBlock (test : SubmitAction → Height → Bool) (final : System Caller)
    (validated : validatedBlock test final = true) :
    ∃ submission service action queue rest history reply reference, final.submitting.tasks .first =
        some ⟨submission,service,.submit action (.attempting queue rest history)⟩ ∧ reply ∈ history ∧
      reply.1.validateReference = some reference ∧ test action reference = true := by
  simp only [validatedBlock] at validated
  split at validated
  next submission service action queue rest history found =>
    simp only [List.any_eq_true,Option.any_eq_true] at validated
    obtain ⟨reply,member,reference,validates,tested⟩ := validated
    exact ⟨submission,service,action,queue,rest,history,reply,reference,found,member,validates,tested⟩
  next => cases validated

theorem localAttempt_observed :
    ∃ final submission service action queue rest history reply reference,
      run (step deployedPrimitives) (new 172800) (attemptOn localChain) = some final ∧
      final.submitting.tasks .first = some ⟨submission,service,.submit action (.attempting queue rest history)⟩ ∧
      reply ∈ history ∧ reply.1.validateReference = some reference ∧
      ∃ pinned, (⟨.pinnedReferenceBlock submission.eventId,pinned⟩ : Reply) ∈ history ∧
        match pinned with
        | none => reference.observedOn = action.chain
        | some pin => reference = pin ∧
            (∃ j call, final.receiving.calls j = some call ∧ Receiving.Pins submission.eventId pin call) ∧
            ∀ j call, final.receiving.calls j = some call → Receiving.Pins submission.eventId pin call →
              (reference.observedOn = action.chain ↔ call.service.manager.chain = action.chain) := by
  obtain ⟨final,reached,validated⟩ := run_any (step deployedPrimitives) (new 172800) (attemptOn localChain)
    (validatedBlock (fun action reference => reference.observedOn = action.chain)) (by decide +kernel)
  obtain ⟨submission,service,action,queue,rest,history,reply,reference,found,member,validates,_⟩ :=
    of_validatedBlock _ final validated
  exact ⟨final,submission,service,action,queue,rest,history,reply,reference,reached,found,member,validates,
    run_reference_observed deployedPrimitives 172800 _ final reached .first submission service action queue rest
      history found reply member reference validates⟩

def mirrorChain : ChainKey := {localChain with id := ⟨"1",by decide⟩}

/-- The destination mirrors the operator set on another chain, and is handed a block of
the manager chain. -/
theorem mirrorAttempt_unobserved :
    ∃ final submission service action queue rest history reply reference,
      run (step deployedPrimitives) (new 172800) (attemptOn mirrorChain) = some final ∧
      final.submitting.tasks .first = some ⟨submission,service,.submit action (.attempting queue rest history)⟩ ∧
      reply ∈ history ∧ reply.1.validateReference = some reference ∧
      reference = ⟨99,localChain⟩ ∧ action.chain = mirrorChain ∧ localChain ≠ mirrorChain := by
  obtain ⟨final,reached,validated⟩ := run_any (step deployedPrimitives) (new 172800) (attemptOn mirrorChain)
    (validatedBlock (fun action reference =>
      decide (reference = ⟨99,localChain⟩ ∧ action.chain = mirrorChain ∧ localChain ≠ mirrorChain)))
    (by decide +kernel)
  obtain ⟨submission,service,action,queue,rest,history,reply,reference,found,member,validates,tested⟩ :=
    of_validatedBlock _ final validated
  exact ⟨final,submission,service,action,queue,rest,history,reply,reference,reached,found,member,validates,
    of_decide_eq_true tested⟩

/-! ## What the gate leaves to the packets -/

/-- What holds of every packet that a receive command admits holds of every call. -/
theorem step_packets (self : System ι) (act : Act ι) (next : System ι)
    (taken : self.step prim act = some next) (holds : Submission → Service → Prop)
    (admits : ∀ i peer submission service, act = .receive i peer submission →
      (peer = .me → submission ∈ self.broadcast) →
      extractServiceFromSubmission self.services submission = some service → holds submission service)
    (packets : self.receiving.Packets holds) : next.receiving.Packets holds := by
  cases step_taken prim self act next taken with
  | setService id service services => exact packets
  | broadcast signers req submission signed => exact packets
  | receive i peer submission service receiving own extracted stepped =>
    exact Receiving.step_packets prim self.receiving _ receiving stepped holds
      (fun packet same => by cases same; exact admits i peer submission service rfl own extracted) packets
  | receiving act receiving running stepped =>
    have receives : Receiving.Receives holds self.receiving act receiving := by
      intro packet same
      cases act with
      | receive => cases running
      | _ => cases same
    exact Receiving.step_packets prim self.receiving act receiving stepped holds receives packets
  | actions i submission action service submitting returned extracted stepped => exact packets
  | submitting act submitting running stepped => exact packets
  | cleanup act submitting stepped =>
    intro i call found
    rw [calls_forget] at found
    exact packets i call found

/-- A packet from a peer is filed under the event of its trigger, its response and its
envelope. -/
def PeersConsistent (_ : System ι) (act : Act ι) (_ : System ι) : Prop :=
  ∀ submission ∈ act.fromPeer, submission.Consistent prim

structure AllConsistent (state : System ι) : Prop where
  traced : Traced prim state
  broadcast : ∀ submission ∈ state.broadcast, submission.Consistent prim
  packets : state.receiving.Packets (fun submission _ => submission.Consistent prim)

omit [DecidableEq ι] in
theorem new_allConsistent (ttlSecs : UInt64) : AllConsistent prim (new ttlSecs : System ι) := by
  refine ⟨new_traced prim ttlSecs,?_,?_⟩
  · intro submission member
    cases member
  · intro i call found
    cases found

theorem step_broadcast (self : System ι) (act : Act ι) (next : System ι)
    (taken : self.step prim act = some next)
    (broadcast : ∀ submission ∈ self.broadcast, submission.Consistent prim) :
    ∀ submission ∈ next.broadcast, submission.Consistent prim := by
  cases step_taken prim self act next taken with
  | broadcast signers req submission signed =>
    intro other member
    rcases List.mem_append.mp member with before | last
    · exact broadcast other before
    · rw [List.mem_singleton.mp last]
      exact signRequest_consistent prim signers req submission signed
  | setService => exact broadcast
  | receive => exact broadcast
  | receiving => exact broadcast
  | actions => exact broadcast
  | submitting => exact broadcast
  | cleanup => exact broadcast

theorem step_allConsistent (self : System ι) (act : Act ι) (next : System ι)
    (taken : self.step prim act = some next) (peers : PeersConsistent prim self act next)
    (consistent : AllConsistent prim self) : AllConsistent prim next := by
  refine ⟨step_traced prim self act next taken consistent.traced,
    step_broadcast prim self act next taken consistent.broadcast,?_⟩
  refine step_packets prim self act next taken _ ?_ consistent.packets
  intro i peer submission service received own _
  cases peer with
  | me => exact consistent.broadcast submission (own rfl)
  | other id =>
    have sent : submission ∈ act.fromPeer := by
      rw [received]
      rfl
    exact peers submission sent

/-- In every run whose peers send consistent packets, each submission is locked, pinned
and queued under the event id that its trigger and response derive and its envelope
carries. -/
theorem run_consistent (ttlSecs : UInt64) (acts : List (Act ι)) (final : System ι)
    (reached : run (step prim) (new ttlSecs) acts = some final)
    (peers : Along (step prim) (PeersConsistent prim) (new ttlSecs) acts) :
    (∀ i eventId lock call, final.receiving.calls i = some call →
      (call.hold = .waiting eventId lock ∨ call.hold = .inside eventId lock) →
      call.submission.eventId = eventId ∧ call.submission.Consistent prim) ∧
    (∀ eventId block, final.receiving.eventReferenceBlocks.getCloned eventId = some block →
      ∃ i call given, final.receiving.calls i = some call ∧ call.submission.eventId = eventId ∧
        call.accepted = some given ∧ call.submission.Consistent prim) ∧
    ∀ id held, final.submitting.quorumQueues.getCloned id = some (.active held) → ∀ queued ∈ held,
      queued.eventId = id.eventId ∧ queued.Consistent prim := by
  have consistent := invariant_along (PeersConsistent prim) (AllConsistent prim) (step_allConsistent prim)
    (new ttlSecs) final acts reached peers (new_allConsistent prim ttlSecs)
  refine ⟨?_,?_,?_⟩
  · intro i eventId lock call found held
    exact ⟨call.event_of_hold eventId lock held,consistent.packets i call found⟩
  · intro eventId block pinned
    obtain ⟨i,call,found,event,history,accepted,_⟩ := consistent.traced.rooted.pins eventId block pinned
    exact ⟨i,call,(block,history),found,event,accepted,consistent.packets i call found⟩
  · intro id held stored queued member
    have active : getQuorumQueue final.submitting.quorumQueues id = .active held := by
      simp [getQuorumQueue,stored]
    obtain ⟨⟨i,call,block,found,same,_⟩,event⟩ :=
      consistent.traced.filed.queues id held active queued member
    rw [← same]
    rw [← same] at event
    exact ⟨event,consistent.packets i call found⟩

instance decidablePeersConsistent (self : System ι) (act : Act ι) (next : System ι) :
    Decidable (PeersConsistent prim self act next) :=
  inferInstanceAs (Decidable (∀ submission ∈ act.fromPeer, submission.Consistent prim))

/-- The submission's first attempt fails, which leaves it in its queue. -/
def queuedBy (submission : Submission) : List (Act Caller) :=
  .actions .first submission (.submit Submitting.cafeAction) :: List.map Act.submitting (List.flatten
    [Submitting.firstAttempt .first,Submitting.missingCredential.map (.answer .first),
      Submitting.storing .first 1000])

/-- The node signs a submission and receives it, and a peer's packet follows. -/
def ownAndPeer : List (Act Caller) :=
  List.flatten [[.setService observedService (some deployedService),
      .broadcast signers1 ⟨raw1,cafe,deployedService⟩,.receive .first .me submission1,
      .receive .second (.other "peer") submission2],
    (Receiving.admission .first cafeEvent operator1 none).map .receiving,
    (Receiving.admission .second cafeEvent operator2 (some ⟨99,localChain⟩)).map .receiving,
    queuedBy submission1]

theorem ownAndPeer_consistent :
    ∃ final, run (step deployedPrimitives) (new 172800) ownAndPeer = some final ∧
      final.submitting.quorumQueues.getCloned ⟨cafeEvent,Submitting.cafeAction⟩ = some (.active [submission1]) ∧
      (∀ i eventId lock call, final.receiving.calls i = some call →
        (call.hold = .waiting eventId lock ∨ call.hold = .inside eventId lock) →
        call.submission.eventId = eventId ∧ call.submission.Consistent deployedPrimitives) ∧
      (∀ eventId block, final.receiving.eventReferenceBlocks.getCloned eventId = some block →
        ∃ i call given, final.receiving.calls i = some call ∧ call.submission.eventId = eventId ∧
          call.accepted = some given ∧ call.submission.Consistent deployedPrimitives) ∧
      ∀ id held, final.submitting.quorumQueues.getCloned id = some (.active held) → ∀ queued ∈ held,
        queued.eventId = id.eventId ∧ queued.Consistent deployedPrimitives := by
  obtain ⟨final,reached,queued⟩ := run_any (step deployedPrimitives) (new 172800) ownAndPeer
    (fun final => decide (final.submitting.quorumQueues.getCloned ⟨cafeEvent,Submitting.cafeAction⟩ =
      some (.active [submission1]))) (by decide +kernel)
  exact ⟨final,reached,of_decide_eq_true queued,
    run_consistent deployedPrimitives 172800 ownAndPeer final reached (by decide +kernel)⟩

def otherEvent : EventId := ⟨FixedBytes.ofNat 20 0x8bab67084cbe1c0035652167904835a4ddf77b0e⟩

/-- A signed envelope in a packet with the id of another event. -/
def misfiled : Submission := {submission1 with eventId := otherEvent}

def misfiledPacket : List (Act Caller) :=
  List.flatten [[.setService observedService (some deployedService),
      .receive .first (.other "peer") misfiled],
    (Receiving.admission .first otherEvent operator1 none).map .receiving,queuedBy misfiled]

theorem misfiledPacket_queued :
    ∃ final, run (step deployedPrimitives) (new 172800) misfiledPacket = some final ∧
      final.submitting.quorumQueues.getCloned ⟨otherEvent,Submitting.cafeAction⟩ = some (.active [misfiled]) ∧
      final.receiving.eventReferenceBlocks.getCloned otherEvent = some ⟨99,localChain⟩ ∧
      misfiled.envelope = .evm cafeEnvelope ∧ cafeEnvelope.eventId ≠ otherEvent.bytes ∧
      AggregatorInput.eventId deployedPrimitives ⟨misfiled.triggerAction,misfiled.operatorResponse⟩ =
        .ok cafeEvent ∧ cafeEvent ≠ otherEvent := by
  obtain ⟨final,reached,filed⟩ := run_any (step deployedPrimitives) (new 172800) misfiledPacket
    (fun final => decide (final.submitting.quorumQueues.getCloned ⟨otherEvent,Submitting.cafeAction⟩ =
        some (.active [misfiled]) ∧
      final.receiving.eventReferenceBlocks.getCloned otherEvent = some ⟨99,localChain⟩)) (by decide +kernel)
  obtain ⟨queued,pinned⟩ := of_decide_eq_true filed
  exact ⟨final,reached,queued,pinned,rfl,by decide +kernel,by decide +kernel,by decide +kernel⟩

/-- The signature of a packet is of the kind of its service. An EVM or a Cosmos manager
knows no operators by Ed25519 keys, so there the gate itself turns such a packet away. -/
def KindMatches (submission : Submission) (service : Service) : Prop :=
  submission.envelopeSignature.kind.algorithm = .secp256k1 ∨ managerKind service.manager = .stellar →
    service.signatureKind = submission.envelopeSignature.kind

/-- The packets that come in are signed as their service has it. -/
def KindsMatch (self : System ι) (act : Act ι) (_ : System ι) : Prop :=
  ∀ submission ∈ act.received, ∀ service ∈ extractServiceFromSubmission self.services submission,
    KindMatches submission service

theorem accepted_kind (call : ReceiveCall) (sound : Receiving.Sound prim call)
    (matched : KindMatches call.submission call.service) (block : Height) (history : History Query.Answer)
    (accepted : call.accepted = some (block,history)) :
    call.service.signatureKind = call.submission.envelopeSignature.kind := by
  have yields := sound.yields block history accepted
  obtain ⟨_,_,_,admitted⟩ := validatePacketAtReceive_yields prim call.submission call.service history block yields
  apply matched
  cases signature : call.submission.envelopeSignature with
  | secp256k1 bytes messagePrefix => exact .inl rfl
  | ed25519 bytes pubkey =>
    refine .inr ?_
    have unrecovered : ∀ signer, call.submission.signer prim ≠ .ok (.evm signer) := by
      intro signer
      simp only [Submission.signer,signature]
      exact WavsSignature.ed25519_signerAddress prim bytes pubkey _ signer
    by_contra other
    have elsewhere : ∀ chain address, call.service.manager ≠ .stellar chain address := by
      intro chain address stellar
      exact other (by rw [stellar,managerKind])
    obtain ⟨signer,recovered⟩ := admitted.recovered elsewhere
    exact unrecovered signer recovered

/-- In every run whose packets are signed as their services have it, each queued
submission was admitted for a service with the kind of its signature. -/
theorem run_kinds (ttlSecs : UInt64) (acts : List (Act ι)) (final : System ι)
    (reached : run (step prim) (new ttlSecs) acts = some final)
    (kinds : Along (step prim) KindsMatch (new ttlSecs) acts) :
    ∀ id held, final.submitting.quorumQueues.getCloned id = some (.active held) → ∀ queued ∈ held,
      ∃ i call block, final.receiving.calls i = some call ∧ call.submission = queued ∧
        call.pinnedAt = some block ∧ call.service.signatureKind = queued.envelopeSignature.kind := by
  let inv : System ι → Prop := fun state => Traced prim state ∧ state.receiving.Packets KindMatches
  have keeps : ∀ self act next, self.step prim act = some next → KindsMatch self act next →
      inv self → inv next := by
    intro self act next taken kinds kept
    obtain ⟨traced,packets⟩ := kept
    refine ⟨step_traced prim self act next taken traced,?_⟩
    apply step_packets prim self act next taken KindMatches
    · intro i peer submission service received own found
      have incoming : submission ∈ act.received := by
        rw [received]
        rfl
      exact kinds submission incoming service found
    · exact packets
  have start : inv (new ttlSecs) := by
    refine ⟨new_traced prim ttlSecs,?_⟩
    intro i call found
    cases found
  obtain ⟨traced,packets⟩ := invariant_along KindsMatch inv keeps (new ttlSecs) final acts reached kinds start
  intro id held stored queued member
  have active : getQuorumQueue final.submitting.quorumQueues id = .active held := by
    simp [getQuorumQueue,stored]
  obtain ⟨⟨i,call,block,found,same,pinned⟩,_⟩ := traced.filed.queues id held active queued member
  obtain ⟨history,accepted⟩ := call.accepted_of_pinnedAt block pinned
  refine ⟨i,call,block,found,same,pinned,?_⟩
  have sound := traced.rooted.sound i call found
  rw [← same]
  exact accepted_kind prim call sound (packets i call found) block history accepted

instance decidableKindsMatch (self : System ι) (act : Act ι) (next : System ι) :
    Decidable (KindsMatch self act next) :=
  inferInstanceAs (Decidable (∀ submission ∈ act.received,
    ∀ service ∈ extractServiceFromSubmission self.services submission,
      (submission.envelopeSignature.kind.algorithm = .secp256k1 ∨ managerKind service.manager = .stellar →
        service.signatureKind = submission.envelopeSignature.kind)))

theorem firstPacket_kind :
    ∃ final, run (step deployedPrimitives) (new 172800) (firstPacket ++ queuedBy submission1) = some final ∧
      final.submitting.quorumQueues.getCloned ⟨cafeEvent,Submitting.cafeAction⟩ = some (.active [submission1]) ∧
      ∀ id held, final.submitting.quorumQueues.getCloned id = some (.active held) → ∀ queued ∈ held,
        ∃ i call block, final.receiving.calls i = some call ∧ call.submission = queued ∧
          call.pinnedAt = some block ∧ call.service.signatureKind = queued.envelopeSignature.kind := by
  obtain ⟨final,reached,queued⟩ := run_any (step deployedPrimitives) (new 172800)
    (firstPacket ++ queuedBy submission1)
    (fun final => decide (final.submitting.quorumQueues.getCloned ⟨cafeEvent,Submitting.cafeAction⟩ =
      some (.active [submission1]))) (by decide +kernel)
  exact ⟨final,reached,of_decide_eq_true queued,
    run_kinds deployedPrimitives 172800 _ final reached (by decide +kernel)⟩

/-- The first operator signs without the prefix of the service. -/
def unprefixed : Submission := {submission1 with envelopeSignature := .secp256k1 unprefixedSignature1 none}

def unprefixedPacket : List (Act Caller) :=
  List.flatten [[.setService observedService (some deployedService),
      .receive .first (.other "peer") unprefixed],
    (Receiving.admission .first cafeEvent operator1 none).map .receiving,queuedBy unprefixed]

/-- The gate recovers the operator from the signature, and the service's own prefix
recovers another address. -/
theorem unprefixedPacket_queued :
    ∃ final, run (step deployedPrimitives) (new 172800) unprefixedPacket = some final ∧
      final.submitting.quorumQueues.getCloned ⟨cafeEvent,Submitting.cafeAction⟩ = some (.active [unprefixed]) ∧
      extractServiceFromSubmission final.services unprefixed = some deployedService ∧
      unprefixed.envelopeSignature.kind ≠ deployedService.signatureKind ∧
      unprefixed.signer deployedPrimitives = .ok (.evm operator1) ∧
      (WavsSignature.secp256k1 unprefixedSignature1 deployedService.signatureKind.messagePrefix).signerAddress
        deployedPrimitives unprefixed.envelope =
          .ok (.evm (FixedBytes.ofNat 20 0x2f3f9ec14492095918bdb23c24b69396cd67ebcc)) := by
  obtain ⟨final,reached,filed⟩ := run_any (step deployedPrimitives) (new 172800) unprefixedPacket
    (fun final => decide (final.submitting.quorumQueues.getCloned ⟨cafeEvent,Submitting.cafeAction⟩ =
        some (.active [unprefixed]) ∧
      extractServiceFromSubmission final.services unprefixed = some deployedService)) (by decide +kernel)
  obtain ⟨queued,service⟩ := of_decide_eq_true filed
  exact ⟨final,reached,queued,service,by decide,by decide +kernel,by decide +kernel⟩

end System
end Warpdrive.Aggregator
