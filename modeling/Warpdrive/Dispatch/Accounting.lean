import Mathlib.Data.List.Forall2
import Warpdrive.Dispatch.Pipeline

/-! The accounts of the pipeline. Every trigger that arrived has left or is still on its way,
once for each arrival, and what the node broadcasts are the signed responses of executions,
each signed at most once, in whatever order their tasks come to an end. -/
namespace Warpdrive.Dispatch

open Warpdrive.Foundation Warpdrive.Foundation.Execution Warpdrive.Types Warpdrive.Aggregator

namespace Pipeline

/-- A trigger leaves with the component that is run for it, or with none when it is dropped. -/
inductive Passage
  | arrived (action : TriggerAction)
  | left (action : TriggerAction) (component : Option Component)
  | produced (request : SubmissionRequest)

def arrivals (log : List Passage) : List TriggerAction :=
  log.filterMap (fun passage => match passage with
    | .arrived action => some action
    | _ => none)

def departures (log : List Passage) : List TriggerAction :=
  log.filterMap (fun passage => match passage with
    | .left action _ => some action
    | _ => none)

def productions (log : List Passage) : List SubmissionRequest :=
  log.filterMap (fun passage => match passage with
    | .produced request => some request
    | _ => none)

def triggered : DispatcherCommand → Option TriggerAction
  | .trigger action => some action
  | _ => none

def requested : DispatcherCommand → Option SubmissionRequest
  | .vector request => some request
  | _ => none

def responding : DispatcherCommand → Option Submission
  | .submissionResponse submission => some submission
  | _ => none

def operating : EngineCommand → Option TriggerAction
  | .executeOperator action _ => some action
  | .executeAggregator _ => none

variable {ι : Type}

def passages (self : Pipeline ι) : Act ι → List Passage
  | .trigger action => [.arrived action]
  | .dispatch =>
    match self.commands with
    | .trigger action::_ => if self.isActive action.config.serviceId then [] else [.left action none]
    | _ => []
  | .execute n responses =>
    match self.engine[n]? with
    | some (.executeOperator action service) =>
      match self.runTrigger action service with
      | none => [.left action none]
      | some component => .left action (some component)::responses.map (fun response => .produced ⟨action,response,service⟩)
    | _ => []
  | _ => []

/-- The triggers that have arrived and not left. -/
def waiting (self : Pipeline ι) : List TriggerAction :=
  self.commands.filterMap triggered ++ self.engine.filterMap operating

def SubmissionTask.unsigned : SubmissionTask → Option SubmissionRequest
  | .begun request => some request
  | .signing request => some request
  | .signed _ => none

def SubmissionTask.submission : SubmissionTask → Option Submission
  | .signed submission => some submission
  | _ => none

/-- The requests that have been produced and neither signed nor dropped. -/
def unsigned (self : Pipeline ι) : List SubmissionRequest :=
  self.responses ++ self.commands.filterMap requested ++ self.requests ++
    self.tasks.filterMap SubmissionTask.unsigned

/-- The submissions that have been signed and neither broadcast nor dropped. -/
def unsent (self : Pipeline ι) : List Submission :=
  self.tasks.filterMap SubmissionTask.submission ++ self.commands.filterMap responding ++ self.submissions

theorem isActive_get (self : Pipeline ι) (id : ServiceId) (active : self.isActive id = true) :
    ∃ service, self.services.get id = .ok service := by
  unfold isActive Services.isActive at active
  unfold Services.get
  split at active
  next service stored => exact ⟨service,rfl⟩
  next => cases active

variable [DecidableEq ι] (prim : Primitives)

omit [DecidableEq ι] in
theorem arrivals_responses (action : TriggerAction) (service : Service) (responses : List WasmResponse) :
    let log := responses.map (fun response => Passage.produced ⟨action,response,service⟩)
    arrivals log = [] ∧ departures log = [] ∧
      productions log = responses.map (fun response => ⟨action,response,service⟩) := by
  refine ⟨?_,?_,?_⟩
  · simp [arrivals,List.filterMap_map]
  · simp [departures,List.filterMap_map]
  · simp [productions,List.filterMap_map]

/-- Every arrival has a departure or is waiting. -/
def Accounted (log : List Passage) (self : Pipeline ι) : Prop :=
  ∀ action, (arrivals log).count action = (departures log).count action + self.waiting.count action

omit [DecidableEq ι] in
/-- What one step adds to the arrivals it adds to the departures or to what waits. -/
theorem accounted_append (log added : List Passage) (self next : Pipeline ι) (accounted : Accounted log self)
    (same : ∀ action, (arrivals added).count action + self.waiting.count action =
      (departures added).count action + next.waiting.count action) : Accounted (log ++ added) next := by
  intro action
  have before := accounted action
  have now := same action
  simp only [arrivals,departures,List.filterMap_append,List.count_append] at before now ⊢
  omega

/-- What one entry of a queue counts for leaves with it. -/
theorem count_eraseIdx {α β : Type} [DecidableEq β] (pick : α → Option β) (queue : List α) (n : Nat) (entry : α)
    (queued : queue[n]? = some entry) (item : β) :
    (queue.filterMap pick).count item =
      (pick entry).toList.count item + ((queue.eraseIdx n).filterMap pick).count item := by
  obtain ⟨bound,found⟩ := List.getElem?_eq_some_iff.mp queued
  have perm := (List.getElem_cons_eraseIdx_perm bound).filterMap pick
  rw [found] at perm
  rw [← perm.count_eq item,List.filterMap_cons]
  cases pick entry with
  | none => simp
  | some picked =>
    simp only [Option.toList_some,← List.count_append]
    rfl

omit [DecidableEq ι] in
theorem dispatch_accounted (log : List Passage) (self : Pipeline ι) (command : DispatcherCommand)
    (commands : List DispatcherCommand) (queued : self.commands = command::commands)
    (accounted : Accounted log self) :
    Accounted (log ++ self.passages .dispatch) ({self with commands := commands}.handleCommand command) := by
  refine accounted_append log _ self _ accounted ?_
  intro other
  cases command with
  | trigger action =>
    have kept : ({self with commands := commands} : Pipeline ι).isActive = self.isActive := rfl
    cases active : self.isActive action.config.serviceId with
    | false =>
      have dropped : ({self with commands := commands} : Pipeline ι).handleCommand (.trigger action) =
          {self with commands := commands} := by
        simp only [handleCommand,kept,active,Bool.false_eq_true,if_false]
        split <;> rfl
      rw [dropped]
      simp [passages,queued,active,waiting,triggered,arrivals,departures,List.count_cons]
      omega
    | true =>
      obtain ⟨service,stored⟩ := isActive_get self _ active
      have queuedUp : ({self with commands := commands} : Pipeline ι).handleCommand (.trigger action) =
          {self with commands := commands, engine := self.engine ++ [.executeOperator action service]} := by
        have found : ({self with commands := commands} : Pipeline ι).services.get action.config.serviceId =
            .ok service := stored
        simp only [handleCommand,found,kept,active,if_true]
      rw [queuedUp]
      simp [passages,queued,active,waiting,triggered,operating,arrivals,departures,List.count_cons]
      omega
  | vector request =>
    have same : (({self with commands := commands} : Pipeline ι).handleCommand (.vector request)).waiting =
        ({self with commands := commands} : Pipeline ι).waiting := by
      simp only [handleCommand]
      split
      · rfl
      · split <;> rfl
    rw [same]
    simp [passages,queued,waiting,List.filterMap_cons,triggered,arrivals,departures]
  | submissionResponse submission =>
    simp [passages,queued,handleCommand,waiting,List.filterMap_cons,triggered,arrivals,departures]
  | aggregatorExecute execute =>
    simp [passages,queued,handleCommand,waiting,List.filterMap_cons,triggered,operating,arrivals,departures]

omit [DecidableEq ι] in
theorem execute_accounted (log : List Passage) (self : Pipeline ι) (n : Nat) (responses : List WasmResponse)
    (command : EngineCommand) (queued : self.engine[n]? = some command) (accounted : Accounted log self) :
    Accounted (log ++ self.passages (.execute n responses))
      ({self with engine := self.engine.eraseIdx n}.runEngine responses command) := by
  refine accounted_append log _ self _ accounted ?_
  intro other
  have erased := count_eraseIdx operating self.engine n command queued other
  cases command with
  | executeOperator action service =>
    have kept : ({self with engine := self.engine.eraseIdx n} : Pipeline ι).runTrigger action service =
        self.runTrigger action service := rfl
    cases started : self.runTrigger action service with
    | none =>
      simp [passages,queued,started,runEngine,kept,waiting,operating,arrivals,departures] at erased ⊢
      omega
    | some component =>
      obtain ⟨noArrival,noDeparture,_⟩ := arrivals_responses action service responses
      simp only [arrivals] at noArrival
      simp only [departures] at noDeparture
      simp [passages,queued,started,runEngine,kept,waiting,operating,arrivals,departures,noArrival,
        noDeparture] at erased ⊢
      omega
  | executeAggregator execute =>
    simp [passages,queued,runEngine,waiting,operating,arrivals,departures] at erased ⊢
    omega

omit [DecidableEq ι] in
/-- The aggregator sends execute commands only. -/
theorem sent_unrelated (before after : System ι) :
    let sent : List DispatcherCommand := (System.sent before after).map .aggregatorExecute
    sent.filterMap triggered = [] ∧ sent.filterMap requested = [] ∧ sent.filterMap responding = [] := by
  refine ⟨?_,?_,?_⟩
  · simp [List.filterMap_map,Function.comp_def,triggered]
  · simp [List.filterMap_map,Function.comp_def,requested]
  · simp [List.filterMap_map,Function.comp_def,responding]

omit [DecidableEq ι] in
theorem advanceTask_waiting (self : Pipeline ι) (signers : ServiceId → Option VectrSigner) (task : SubmissionTask) :
    (self.advanceTask prim signers task).waiting = self.waiting := by
  cases task <;> simp only [advanceTask]
  · split <;> rfl
  · split <;> rfl
  · simp [waiting,triggered]

omit [DecidableEq ι] in
theorem broadcast_waiting (self : Pipeline ι) (submission : Submission) :
    (self.broadcast submission).waiting = self.waiting := by
  unfold broadcast
  split <;> rfl

inductive Taken (self : Pipeline ι) : Act ι → Pipeline ι → Prop
  | trigger (action) : Taken self (.trigger action) {self with commands := self.commands ++ [.trigger action]}
  | dispatch (command commands) (queued : self.commands = command::commands) :
      Taken self .dispatch ({self with commands := commands}.handleCommand command)
  | execute (n responses command) (queued : self.engine[n]? = some command) :
      Taken self (.execute n responses) ({self with engine := self.engine.eraseIdx n}.runEngine responses command)
  | respond (n request) (queued : self.responses[n]? = some request) :
      Taken self (.respond n) {self with
        responses := self.responses.eraseIdx n
        commands := self.commands ++ [.vector request]}
  | submit (request requests) (queued : self.requests = request::requests) :
      Taken self .submit {self with
        requests := requests
        tasks := self.tasks ++ [.begun request]}
  | advance (n signers task) (queued : self.tasks[n]? = some task) :
      Taken self (.advance n signers) ({self with tasks := self.tasks.eraseIdx n}.advanceTask prim signers task)
  | broadcast (n submission) (queued : self.submissions[n]? = some submission) :
      Taken self (.broadcast n) ({self with submissions := self.submissions.eraseIdx n}.broadcast submission)
  | system (act system) (allowed : self.enabled act = true) (stepped : self.system.step prim act = some system) :
      Taken self (.system act)
        {self with system, commands := self.commands ++ (System.sent self.system system).map .aggregatorExecute}

theorem step_taken (self : Pipeline ι) (act : Act ι) (next : Pipeline ι)
    (taken : self.step prim act = some next) : Taken prim self act next := by
  cases act with
  | trigger action =>
    cases taken
    exact .trigger action
  | dispatch =>
    simp only [step] at taken
    split at taken
    next => cases taken
    next command commands queued =>
      cases taken
      exact .dispatch command commands queued
  | execute n responses =>
    simp only [step,Option.map_eq_some_iff] at taken
    obtain ⟨command,queued,same⟩ := taken
    subst same
    exact .execute n responses command queued
  | respond n =>
    obtain ⟨request,queued,same⟩ := Option.map_eq_some_iff.mp taken
    subst same
    exact .respond n request queued
  | submit =>
    simp only [step] at taken
    split at taken
    next => cases taken
    next request requests queued =>
      cases taken
      exact .submit request requests queued
  | advance n signers =>
    obtain ⟨task,queued,same⟩ := Option.map_eq_some_iff.mp taken
    subst same
    exact .advance n signers task queued
  | broadcast n =>
    obtain ⟨submission,queued,same⟩ := Option.map_eq_some_iff.mp taken
    subst same
    exact .broadcast n submission queued
  | system act =>
    simp only [step] at taken
    split at taken
    next allowed =>
      simp only [Option.map_eq_some_iff] at taken
      obtain ⟨system,stepped,same⟩ := taken
      subst same
      exact .system act system allowed stepped
    next => cases taken

theorem step_accounted (log : List Passage) (self : Pipeline ι) (act : Act ι) (next : Pipeline ι)
    (taken : self.step prim act = some next) (accounted : Accounted log self) :
    Accounted (log ++ self.passages act) next := by
  cases step_taken prim self act next taken with
  | trigger action =>
    refine accounted_append log _ self _ accounted ?_
    intro other
    simp [passages,waiting,triggered,arrivals,departures,List.count_cons]
    omega
  | dispatch command commands queued => exact dispatch_accounted log self command commands queued accounted
  | execute n responses command queued => exact execute_accounted log self n responses command queued accounted
  | respond n request queued =>
    refine accounted_append log _ self _ accounted ?_
    intro other
    simp [passages,waiting,List.filterMap_cons,triggered,arrivals,departures,Nat.add_comm]
  | submit request requests queued => exact accounted_append log _ self _ accounted (fun _ => rfl)
  | advance n signers task queued =>
    refine accounted_append log _ self _ accounted ?_
    intro other
    rw [advanceTask_waiting]
    rfl
  | broadcast n submission queued =>
    refine accounted_append log _ self _ accounted ?_
    intro other
    rw [broadcast_waiting]
    rfl
  | system act system allowed stepped =>
    refine accounted_append log _ self _ accounted ?_
    intro other
    simp [passages,waiting,arrivals,departures,(sent_unrelated self.system system).1]

/-! ## What is broadcast -/

def Signed (request : SubmissionRequest) (submission : Submission) : Prop :=
  ∃ signers, signRequest prim signers request = .ok submission

/-- What was broadcast and what is on the way there are signatures of different requests that
were produced, and so are the requests that are still unsigned. -/
def Signatures (log : List Passage) (self : Pipeline ι) : Prop :=
  ∃ done moving, List.Forall₂ (Signed prim) done self.system.broadcast ∧
    List.Forall₂ (Signed prim) moving self.unsent ∧ ∀ request,
      done.count request + moving.count request + self.unsigned.count request ≤ (productions log).count request

omit [DecidableEq ι] in
theorem productions_append (log added : List Passage) :
    productions (log ++ added) = productions log ++ productions added := by
  simp only [productions,List.filterMap_append]

/-- The requests of signed submissions can be put in any order of the submissions. -/
theorem signed_perm (moving : List SubmissionRequest) (first second : List Submission)
    (signed : List.Forall₂ (Signed prim) moving first) (perm : first.Perm second) :
    ∃ moved, moving.Perm moved ∧ List.Forall₂ (Signed prim) moved second := by
  have both : Relation.Comp (List.Forall₂ (Signed prim)) List.Perm moving second := ⟨first,signed,perm⟩
  rw [List.forall₂_comp_perm_eq_perm_comp_forall₂] at both
  exact both

omit [DecidableEq ι] in
/-- Requests move, are produced or are dropped, and submissions move. -/
theorem Signatures.moved {log : List Passage} {self : Pipeline ι} (signatures : Signatures prim log self)
    (added : List Passage) (next : Pipeline ι) (same : next.system.broadcast = self.system.broadcast)
    (unsent : ∀ submission, next.unsent.count submission = self.unsent.count submission)
    (unsigned : ∀ request, next.unsigned.count request ≤
      self.unsigned.count request + (productions added).count request) : Signatures prim (log ++ added) next := by
  obtain ⟨done,moving,broadcast,signed,included⟩ := signatures
  obtain ⟨moved,perm,signed⟩ := signed_perm prim moving self.unsent next.unsent signed
    (List.perm_iff_count.mpr (fun submission => (unsent submission).symm))
  refine ⟨done,moved,by rwa [same],signed,?_⟩
  intro request
  have before := included request
  have now := unsigned request
  rw [productions_append,List.count_append,← perm.count_eq request]
  omega

omit [DecidableEq ι] in
/-- A request is signed. -/
theorem Signatures.signed {log : List Passage} {self : Pipeline ι} (signatures : Signatures prim log self)
    (next : Pipeline ι) (request : SubmissionRequest) (submission : Submission)
    (accepted : Signed prim request submission) (same : next.system.broadcast = self.system.broadcast)
    (unsent : ∀ other, next.unsent.count other = [submission].count other + self.unsent.count other)
    (unsigned : ∀ other, self.unsigned.count other = [request].count other + next.unsigned.count other) :
    Signatures prim log next := by
  obtain ⟨done,moving,broadcast,signed,included⟩ := signatures
  obtain ⟨moved,perm,signed⟩ := signed_perm prim (request::moving) (submission::self.unsent) next.unsent
    (.cons accepted signed) (List.perm_iff_count.mpr (fun other => by
      rw [unsent other,← List.count_append]
      rfl))
  refine ⟨done,moved,by rwa [same],signed,?_⟩
  intro other
  have before := included other
  rw [← perm.count_eq other,← List.singleton_append,List.count_append]
  rw [unsigned other] at before
  omega

omit [DecidableEq ι] in
/-- A submission is broadcast or dropped. -/
theorem Signatures.sent {log : List Passage} {self : Pipeline ι} (signatures : Signatures prim log self)
    (next : Pipeline ι) (submission : Submission) (same : next.unsigned = self.unsigned)
    (unsent : ∀ other, self.unsent.count other = [submission].count other + next.unsent.count other)
    (broadcast : next.system.broadcast = self.system.broadcast ∨
      next.system.broadcast = self.system.broadcast ++ [submission]) : Signatures prim log next := by
  obtain ⟨done,moving,sent,signed,included⟩ := signatures
  obtain ⟨moved,perm,signed⟩ := signed_perm prim moving self.unsent (submission::next.unsent) signed
    (List.perm_iff_count.mpr (fun other => by
      rw [unsent other,← List.count_append]
      rfl))
  cases signed with
  | cons accepted rest =>
    next request moved =>
    have counted : ∀ other, moving.count other = [request].count other + moved.count other := by
      intro other
      rw [perm.count_eq other,← List.singleton_append,List.count_append]
    rcases broadcast with still | more
    · refine ⟨done,moved,by rwa [still],rest,?_⟩
      intro other
      have before := included other
      rw [counted other] at before
      rw [same]
      omega
    · refine ⟨done ++ [request],moved,?_,rest,?_⟩
      · rw [more]
        exact List.rel_append sent (.cons accepted .nil)
      · intro other
        have before := included other
        rw [counted other] at before
        rw [same,List.count_append]
        omega

theorem system_broadcast (self : System ι) (act : System.Act ι) (next : System ι)
    (taken : self.step prim act = some next) (foreign : ∀ signers request, act ≠ .broadcast signers request) :
    next.broadcast = self.broadcast := by
  cases System.step_taken prim self act next taken with
  | broadcast signers request => exact absurd rfl (foreign signers request)
  | setService => rfl
  | receive => rfl
  | receiving => rfl
  | actions => rfl
  | submitting => rfl
  | cleanup => rfl

omit [DecidableEq ι] in
theorem handleCommand_unsent (self : Pipeline ι) (command : DispatcherCommand) (submission : Submission) :
    (self.handleCommand command).unsent.count submission =
      self.unsent.count submission + (responding command).toList.count submission := by
  cases command with
  | trigger action =>
    simp only [handleCommand]
    split
    · simp [responding]
    · split <;> simp [unsent,responding]
  | vector request =>
    simp only [handleCommand]
    split
    · simp [responding]
    · split <;> simp [unsent,responding]
  | submissionResponse sent => simp [handleCommand,unsent,responding,Nat.add_assoc]
  | aggregatorExecute execute => simp [handleCommand,unsent,responding]

omit [DecidableEq ι] in
theorem handleCommand_unsigned (self : Pipeline ι) (command : DispatcherCommand) (request : SubmissionRequest) :
    (self.handleCommand command).unsigned.count request ≤
      self.unsigned.count request + (requested command).toList.count request := by
  cases command with
  | trigger action =>
    simp only [handleCommand]
    split
    · simp [requested]
    · split <;> simp [unsigned,requested]
  | vector asked =>
    simp only [handleCommand]
    split
    · exact Nat.le_add_right _ _
    · split
      · exact Nat.le_add_right _ _
      · simp only [unsigned,requested,List.count_append,Option.toList_some]
        omega
  | submissionResponse sent => simp [handleCommand,unsigned,requested]
  | aggregatorExecute execute => simp [handleCommand,unsigned,requested]

omit [DecidableEq ι] in
theorem dispatch_signatures (log : List Passage) (self : Pipeline ι) (command : DispatcherCommand)
    (commands : List DispatcherCommand) (queued : self.commands = command::commands)
    (signatures : Signatures prim log self) :
    Signatures prim (log ++ self.passages .dispatch) ({self with commands := commands}.handleCommand command) := by
  refine signatures.moved prim _ _ (by rw [handleCommand_system]) ?_ ?_
  · intro submission
    rw [handleCommand_unsent]
    simp only [unsent,queued,List.filterMap_cons,List.count_append]
    cases responding command <;> simp [List.count_cons]
    omega
  · intro request
    have handled := handleCommand_unsigned ({self with commands := commands} : Pipeline ι) command request
    have before : self.unsigned.count request = ({self with commands := commands} : Pipeline ι).unsigned.count request +
        (requested command).toList.count request := by
      simp only [unsigned,queued,List.filterMap_cons,List.count_append]
      cases requested command <;> simp [List.count_cons]
      omega
    omega

omit [DecidableEq ι] in
theorem execute_signatures (log : List Passage) (self : Pipeline ι) (n : Nat) (responses : List WasmResponse)
    (command : EngineCommand) (queued : self.engine[n]? = some command) (signatures : Signatures prim log self) :
    Signatures prim (log ++ self.passages (.execute n responses))
      ({self with engine := self.engine.eraseIdx n}.runEngine responses command) := by
  have kept : ({self with engine := self.engine.eraseIdx n} : Pipeline ι).runTrigger = self.runTrigger := rfl
  cases command with
  | executeOperator action service =>
    cases started : self.runTrigger action service with
    | none =>
      refine signatures.moved prim _ _ ?_ ?_ ?_ <;> simp [runEngine,kept,started,unsent,unsigned]
    | some component =>
      obtain ⟨_,_,made⟩ := arrivals_responses action service responses
      simp only [productions] at made
      refine signatures.moved prim _ _ ?_ ?_ ?_
      · simp [runEngine,kept,started]
      · simp [runEngine,kept,started,unsent]
      · intro request
        simp only [runEngine,kept,started,unsigned,passages,queued,productions,List.filterMap_cons,made,
          List.count_append]
        omega
  | executeAggregator execute =>
    refine signatures.moved prim _ _ ?_ ?_ ?_ <;> simp [runEngine,unsent,unsigned]

omit [DecidableEq ι] in
theorem advance_signatures (log : List Passage) (self : Pipeline ι) (n : Nat)
    (signers : ServiceId → Option VectrSigner) (task : SubmissionTask) (queued : self.tasks[n]? = some task)
    (signatures : Signatures prim log self) :
    Signatures prim log ({self with tasks := self.tasks.eraseIdx n}.advanceTask prim signers task) := by
  have unsignedErased := count_eraseIdx SubmissionTask.unsigned self.tasks n task queued
  have unsentErased := count_eraseIdx SubmissionTask.submission self.tasks n task queued
  have moved : ∀ next : Pipeline ι, next.system.broadcast = self.system.broadcast →
      (∀ submission, next.unsent.count submission = self.unsent.count submission) →
      (∀ request, next.unsigned.count request ≤ self.unsigned.count request) → Signatures prim log next := by
    intro next same unsent unsigned
    have still := signatures.moved prim [] next same unsent (by simpa [productions] using unsigned)
    rwa [List.append_nil] at still
  cases task with
  | begun request =>
    simp only [SubmissionTask.unsigned,SubmissionTask.submission] at unsignedErased unsentErased
    simp only [advanceTask]
    split
    · refine moved _ rfl ?_ ?_
      · intro submission
        simp [unsent,unsentErased,List.filterMap_cons,SubmissionTask.submission]
      · intro other
        simp [unsigned,unsignedErased,SubmissionTask.unsigned,List.count_cons]
        omega
    · refine moved _ rfl ?_ ?_
      · intro submission
        simp [unsent,unsentErased]
      · intro other
        simp [unsigned,unsignedErased]
  | signing request =>
    simp only [SubmissionTask.unsigned,SubmissionTask.submission] at unsignedErased unsentErased
    simp only [advanceTask]
    split
    · refine moved _ rfl ?_ ?_
      · intro submission
        simp [unsent,unsentErased]
      · intro other
        simp [unsigned,unsignedErased]
    · next submission accepted =>
      refine signatures.signed prim _ request submission ⟨signers,accepted⟩ rfl ?_ ?_
      · intro other
        simp [unsent,unsentErased,SubmissionTask.submission,List.count_cons]
        omega
      · intro other
        simp [unsigned,unsignedErased,List.filterMap_cons,SubmissionTask.unsigned,List.count_cons]
        omega
  | signed submission =>
    simp only [SubmissionTask.unsigned,SubmissionTask.submission] at unsignedErased unsentErased
    refine moved _ rfl ?_ ?_
    · intro other
      simp [advanceTask,unsent,unsentErased,responding,List.count_cons]
      omega
    · intro other
      simp [advanceTask,unsigned,unsignedErased,List.filterMap_cons,requested]

omit [DecidableEq ι] in
theorem broadcast_signatures (log : List Passage) (self : Pipeline ι) (n : Nat) (submission : Submission)
    (queued : self.submissions[n]? = some submission) (signatures : Signatures prim log self) :
    Signatures prim log ({self with submissions := self.submissions.eraseIdx n}.broadcast submission) := by
  have erased := count_eraseIdx some self.submissions n submission queued
  simp only [List.filterMap_some,Option.toList_some] at erased
  have unsent : ∀ system other, self.unsent.count other = [submission].count other +
      ({self with system, submissions := self.submissions.eraseIdx n} : Pipeline ι).unsent.count other := by
    intro system other
    simp only [Pipeline.unsent,List.count_append,erased other]
    omega
  unfold broadcast
  split
  · exact signatures.sent prim _ submission rfl (unsent self.system) (.inl rfl)
  · next system handled =>
    obtain ⟨_,_,same⟩ := Option.map_eq_some_iff.mp handled
    subst same
    exact signatures.sent prim _ submission rfl (unsent _) (.inr rfl)

theorem step_signatures (log : List Passage) (self : Pipeline ι) (act : Act ι) (next : Pipeline ι)
    (taken : self.step prim act = some next) (signatures : Signatures prim log self) :
    Signatures prim (log ++ self.passages act) next := by
  cases step_taken prim self act next taken with
  | trigger action =>
    refine signatures.moved prim _ _ rfl ?_ ?_ <;> simp [unsent,unsigned,List.filterMap_cons,responding,requested]
  | dispatch command commands queued => exact dispatch_signatures prim log self command commands queued signatures
  | execute n responses command queued => exact execute_signatures prim log self n responses command queued signatures
  | respond n request queued =>
    have erased := count_eraseIdx some self.responses n request queued
    simp only [List.filterMap_some,Option.toList_some] at erased
    refine signatures.moved prim _ _ rfl (by simp [unsent,List.filterMap_cons,responding]) ?_
    intro other
    simp [unsigned,erased other,requested,List.count_cons]
    omega
  | submit request requests queued =>
    refine signatures.moved prim _ _ rfl (by simp [unsent,List.filterMap_cons,SubmissionTask.submission]) ?_
    intro other
    simp [unsigned,queued,SubmissionTask.unsigned,List.count_cons]
    omega
  | advance n signers task queued =>
    simp only [passages,List.append_nil]
    exact advance_signatures prim log self n signers task queued signatures
  | broadcast n submission queued =>
    simp only [passages,List.append_nil]
    exact broadcast_signatures prim log self n submission queued signatures
  | system act system allowed stepped =>
    refine signatures.moved prim _ _ ?_ ?_ ?_
    · refine system_broadcast prim self.system act system stepped ?_
      intro signers request broadcast
      subst broadcast
      cases allowed
    · simp [unsent,(sent_unrelated self.system system).2.2]
    · simp [unsigned,(sent_unrelated self.system system).2.1]

/-- A response is produced by a run of the component that its workflow names. -/
def Executed (log : List Passage) : Prop :=
  ∀ request ∈ productions log, ∃ workflow,
    request.service.workflows.get request.triggerAction.config.workflowId = some workflow ∧
      .left request.triggerAction (some workflow.component) ∈ log

omit [DecidableEq ι] in
theorem passages_executed (self : Pipeline ι) (act : Act ι) : Executed (self.passages act) := by
  intro request made
  cases act with
  | execute n responses =>
    cases queued : self.engine[n]? with
    | none => simp [passages,queued,productions] at made
    | some command =>
      cases command with
      | executeAggregator execute => simp [passages,queued,productions] at made
      | executeOperator action service =>
        cases started : self.runTrigger action service with
        | none => simp [passages,queued,started,productions] at made
        | some component =>
          have log : self.passages (.execute n responses) = .left action (some component)::
              responses.map (fun response => .produced ⟨action,response,service⟩) := by
            simp only [passages,queued,started]
          have own : request ∈ responses.map (fun response => (⟨action,response,service⟩ : SubmissionRequest)) := by
            rw [← (arrivals_responses action service responses).2.2]
            rw [log] at made
            simpa [productions] using made
          obtain ⟨response,_,same⟩ := List.mem_map.mp own
          subst same
          unfold runTrigger at started
          split at started
          next =>
            obtain ⟨workflow,found,named⟩ := Option.map_eq_some_iff.mp started
            refine ⟨workflow,found,?_⟩
            rw [log,named]
            exact List.mem_cons_self
          next => cases started
  | dispatch =>
    simp only [passages] at made
    split at made
    next => split at made <;> simp [productions] at made
    next => simp [productions] at made
  | _ => simp [passages,productions] at made

theorem executed_append (log added : List Passage) (before : Executed log) (now : Executed added) :
    Executed (log ++ added) := by
  intro request made
  have parted : request ∈ productions log ∨ request ∈ productions added := by
    simpa only [productions,List.filterMap_append,List.mem_append] using made
  rcases parted with early | late
  · obtain ⟨workflow,found,ran⟩ := before request early
    exact ⟨workflow,found,List.mem_append_left added ran⟩
  · obtain ⟨workflow,found,ran⟩ := now request late
    exact ⟨workflow,found,List.mem_append_right log ran⟩

/-- The accounts of every run: the triggers that arrived are those that left and those that
wait, each as often as it came; every response comes from a run of its workflow's component
for a trigger that left; and the broadcast submissions are signatures of such responses,
each signed once at most. -/
theorem run_accounts (burnedQueueTtlSecs : UInt64) (acts : List (Act ι)) (final : Pipeline ι)
    (reached : run (step prim) (new burnedQueueTtlSecs) acts = some final) :
    let log := emitted (step prim) passages (new burnedQueueTtlSecs) acts
    (arrivals log).Perm (departures log ++ final.waiting) ∧ Executed log ∧
      ∃ signed, signed.Subperm (productions log) ∧ List.Forall₂ (Signed prim) signed final.system.broadcast := by
  let inv : List Passage → Pipeline ι → Prop := fun log self =>
    Accounted log self ∧ Executed log ∧ Signatures prim log self
  have keeps : ∀ log self act next, step prim self act = some next → inv log self →
      inv (log ++ self.passages act) next := by
    intro log self act next taken kept
    obtain ⟨accounted,executed,signatures⟩ := kept
    exact ⟨step_accounted prim log self act next taken accounted,
      executed_append log _ executed (passages_executed self act),
      step_signatures prim log self act next taken signatures⟩
  have start : inv [] (new burnedQueueTtlSecs) := by
    refine ⟨fun _ => rfl,?_,[],[],.nil,.nil,fun _ => Nat.le_refl _⟩
    intro request made
    cases made
  have kept := invariant_emitted passages inv keeps [] (new burnedQueueTtlSecs) final acts reached start
  rw [List.nil_append] at kept
  obtain ⟨accounted,executed,signed,moving,broadcast,_,included⟩ := kept
  refine ⟨?_,executed,signed,?_,broadcast⟩
  · rw [List.perm_iff_count]
    intro action
    rw [accounted action,List.count_append]
  · rw [List.subperm_ext_iff]
    intro request _
    have below := included request
    omega

/-- One response is signed and broadcast, and the trigger that came after the service was
paused is dropped. -/
theorem pausedAfterwards_accounts :
    ∃ final, run (step deployedPrimitives) (new 172800) pausedAfterwards = some final ∧
      final.system.broadcast = [submission1] ∧
      let log := emitted (step deployedPrimitives) passages (new 172800) pausedAfterwards
      (arrivals log).Perm (departures log ++ final.waiting) ∧ Executed log ∧
        ∃ signed, signed.Subperm (productions log) ∧
          List.Forall₂ (Signed deployedPrimitives) signed final.system.broadcast := by
  obtain ⟨final,reached,once⟩ := run_any (step deployedPrimitives) (new 172800) pausedAfterwards
    (fun final => final.system.broadcast = [submission1]) (by decide +kernel)
  exact ⟨final,reached,of_decide_eq_true once,
    run_accounts deployedPrimitives 172800 pausedAfterwards final reached⟩

end Pipeline
end Warpdrive.Dispatch
