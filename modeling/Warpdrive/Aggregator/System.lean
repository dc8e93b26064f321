import Warpdrive.Aggregator.Pinning
import Warpdrive.Aggregator.Serial

/-! The aggregator as a whole: the commands it takes (`handle_dispatcher_command`), its
receive calls and action tasks, and the clean-up of burned queues. A submission that the
node signed itself is broadcast, which sends it back to the aggregator's own receive
path; any other submission may come from a peer at any time. The dispatcher and the
engine stand between a forwarded submission and its actions: they run the aggregator
component on the submission of an execute command, and what actions the component
returns is arbitrary. Services may be added, changed and removed at any time. -/
namespace Warpdrive.Aggregator
open Warpdrive.Foundation Warpdrive.Foundation.Execution Warpdrive.Types Warpdrive.Utils

inductive Peer
  | me
  | other (id : String)
  deriving DecidableEq

def extractServiceFromSubmission (services : WavsDbTable ServiceId Service) (submission : Submission) :
    Option Service :=
  match services.getCloned submission.serviceId with
  | none => none
  | some service =>
    match service.workflows.get submission.workflowId with
    | none => none
    | some workflow => if workflow.submit.isAggregator then some service else none

/-- The component returns no actions from a submit callback. -/
def AggregatorExecuteKind.returnsActions : AggregatorExecuteKind → Bool
  | .standard => true
  | .timerCallback => true
  | .submitCallback _ => false

structure System (ι : Type) where
  services : WavsDbTable ServiceId Service
  receiving : Receiving ι
  submitting : Submitting ι
  broadcast : List Submission

namespace System

variable {ι : Type}

def new (burnedQueueTtlSecs : UInt64) : System ι where
  services := .new
  receiving := .new
  submitting := .new burnedQueueTtlSecs
  broadcast := []

inductive Act (ι : Type)
  | setService (id : ServiceId) (service : Option Service)
  | broadcast (signers : ServiceId → Option VectrSigner) (req : SubmissionRequest)
  | receive (i : ι) (peer : Peer) (submission : Submission)
  | receiving (act : Receiving.Act ι)
  | actions (i : ι) (submission : Submission) (action : AggregatorAction)
  | submitting (act : Submitting.Act ι)
  | cleanup (act : Cleanup.Act)

namespace Act

def received : Act ι → Option Submission
  | .receive _ _ submission => some submission
  | _ => none

def fromPeer : Act ι → Option Submission
  | .receive _ (.other _) submission => some submission
  | _ => none

def cleaning : Act ι → Option Cleanup.Act
  | .cleanup act => some act
  | _ => none

end Act

/-- A command for the component was sent with this submission. -/
def dispatched (self : System ι) (submission : Submission) : Bool :=
  (self.receiving.forwarded ++ self.submitting.callbacks).any
    (fun command => command.kind.returnsActions && command.submission = submission)

/-- The actions of a receive call after its start, and those of an action task after
its start; the steps of the clean-up are the system's own. -/
def isReceiving : Receiving.Act ι → Bool
  | .receive _ _ _ => false
  | _ => true

def isSubmitting (pins : WavsDbTable EventId Height) : Submitting.Act ι → Bool
  | .spawn _ _ _ _ => false
  | .cleanup _ => false
  | .answer _ reply => Truthful pins reply
  | _ => true

/-- `handle_broadcast` of a submission whose service takes it. -/
def handleBroadcast (self : System ι) (submission : Submission) : Option (System ι) :=
  (extractServiceFromSubmission self.services submission).map
    (fun _ => {self with broadcast := self.broadcast ++ [submission]})

variable [DecidableEq ι] (prim : Primitives)

/-- What a step of the clean-up does to the tables of the receive path. -/
def forget (receiving : Receiving ι) : Cleanup → Cleanup.Act → Receiving ι
  | .unpinning _ key _,.remove => receiving.removePin key.eventId
  | .unlocking _ key _,.remove => receiving.removeLock key.eventId
  | _,_ => receiving

def step (self : System ι) : Act ι → Option (System ι)
  | .setService id service =>
    some {self with services := service.elim (self.services.remove id) (self.services.insert id)}
  | .broadcast signers req =>
    match signRequest prim signers req with
    | .error _ => none
    | .ok submission => self.handleBroadcast submission
  | .receive i peer submission =>
    if peer = .me ∧ submission ∉ self.broadcast then none
    else (extractServiceFromSubmission self.services submission).bind (fun service =>
      (self.receiving.step prim (.receive i submission service)).map
        (fun receiving => {self with receiving := receiving}))
  | .receiving act =>
    if isReceiving act then
      (self.receiving.step prim act).map (fun receiving => {self with receiving := receiving})
    else none
  | .actions i submission action =>
    if self.dispatched submission then
      (extractServiceFromSubmission self.services submission).bind (fun service =>
        (self.submitting.step prim (.spawn i submission service action)).map
          (fun submitting => {self with submitting := submitting}))
    else none
  | .submitting act =>
    if isSubmitting self.receiving.eventReferenceBlocks act then
      (self.submitting.step prim act).map (fun submitting => {self with submitting := submitting})
    else none
  | .cleanup act =>
    (self.submitting.step prim (.cleanup act)).map (fun submitting =>
      {self with
        submitting := submitting
        receiving := forget self.receiving self.submitting.cleanup act})

/-- Everything that one action can do. -/
inductive Taken (self : System ι) : Act ι → System ι → Prop
  | setService (id service services) : Taken self (.setService id service) {self with services := services}
  | broadcast (signers req submission) (signed : signRequest prim signers req = .ok submission) :
      Taken self (.broadcast signers req) {self with broadcast := self.broadcast ++ [submission]}
  | receive (i peer submission service receiving) (own : peer = .me → submission ∈ self.broadcast)
      (extracted : extractServiceFromSubmission self.services submission = some service)
      (stepped : self.receiving.step prim (.receive i submission service) = some receiving) :
      Taken self (.receive i peer submission) {self with receiving := receiving}
  | receiving (act receiving) (running : isReceiving act)
      (stepped : self.receiving.step prim act = some receiving) :
      Taken self (.receiving act) {self with receiving := receiving}
  | actions (i submission action service submitting) (returned : self.dispatched submission)
      (extracted : extractServiceFromSubmission self.services submission = some service)
      (stepped : self.submitting.step prim (.spawn i submission service action) = some submitting) :
      Taken self (.actions i submission action) {self with submitting := submitting}
  | submitting (act submitting) (running : isSubmitting self.receiving.eventReferenceBlocks act)
      (stepped : self.submitting.step prim act = some submitting) :
      Taken self (.submitting act) {self with submitting := submitting}
  | cleanup (act submitting) (stepped : self.submitting.step prim (.cleanup act) = some submitting) :
      Taken self (.cleanup act) {self with
        submitting := submitting
        receiving := forget self.receiving self.submitting.cleanup act}

theorem step_taken (self : System ι) (act : Act ι) (next : System ι)
    (taken : self.step prim act = some next) : Taken prim self act next := by
  cases act with
  | setService id service =>
    cases taken
    exact .setService id service _
  | broadcast signers req =>
    simp only [step] at taken
    split at taken
    next => contradiction
    next submission signed =>
      simp only [handleBroadcast,Option.map_eq_some_iff] at taken
      obtain ⟨_,_,same⟩ := taken
      subst same
      exact .broadcast signers req submission signed
  | receive i peer submission =>
    simp only [step] at taken
    split at taken
    next => contradiction
    next listed =>
      simp only [Option.bind_eq_some_iff,Option.map_eq_some_iff] at taken
      obtain ⟨service,extracted,receiving,started,same⟩ := taken
      subst same
      refine .receive i peer submission service receiving ?_ extracted started
      intro me
      by_contra absent
      exact listed ⟨me,absent⟩
  | receiving act =>
    simp only [step] at taken
    split at taken
    next running =>
      simp only [Option.map_eq_some_iff] at taken
      obtain ⟨receiving,stepped,same⟩ := taken
      subst same
      exact .receiving act receiving running stepped
    next => contradiction
  | actions i submission action =>
    simp only [step] at taken
    split at taken
    next returned =>
      simp only [Option.bind_eq_some_iff,Option.map_eq_some_iff] at taken
      obtain ⟨service,extracted,submitting,started,same⟩ := taken
      subst same
      exact .actions i submission action service submitting returned extracted started
    next => contradiction
  | submitting act =>
    simp only [step] at taken
    split at taken
    next running =>
      simp only [Option.map_eq_some_iff] at taken
      obtain ⟨submitting,stepped,same⟩ := taken
      subst same
      exact .submitting act submitting running stepped
    next => contradiction
  | cleanup act =>
    simp only [step,Option.map_eq_some_iff] at taken
    obtain ⟨submitting,stepped,same⟩ := taken
    subst same
    exact .cleanup act submitting stepped

/-! ## The two parts

A step of the system is a step of the receive path, a step of the action tasks, or a step
of the clean-up, which goes through the tables of both. -/

omit [DecidableEq ι] in
/-- A step of the clean-up keeps what removing one pin and removing one lock keep. -/
theorem forget_keeps (receiving : Receiving ι) (cleanup : Cleanup) (act : Cleanup.Act) (inv : Receiving ι → Prop)
    (pins : ∀ eventId, inv receiving → inv (receiving.removePin eventId))
    (locks : ∀ eventId, inv receiving → inv (receiving.removeLock eventId)) (holds : inv receiving) :
    inv (forget receiving cleanup act) := by
  unfold forget
  split
  · exact pins _ holds
  · exact locks _ holds
  · exact holds

theorem step_receiving (self : System ι) (act : Act ι) (next : System ι)
    (taken : self.step prim act = some next) (inv : Receiving ι → Prop)
    (keeps : ∀ act receiving, self.receiving.step prim act = some receiving → inv self.receiving → inv receiving)
    (forgets : ∀ cleaning, act = .cleanup cleaning → inv self.receiving →
      inv (forget self.receiving self.submitting.cleanup cleaning)) (holds : inv self.receiving) :
    inv next.receiving := by
  cases step_taken prim self act next taken with
  | setService id service services => exact holds
  | broadcast signers req submission signed => exact holds
  | receive i peer submission service receiving own extracted stepped => exact keeps _ receiving stepped holds
  | receiving act receiving running stepped => exact keeps act receiving stepped holds
  | actions i submission action service submitting returned extracted stepped => exact holds
  | submitting act submitting running stepped => exact holds
  | cleanup act submitting stepped => exact forgets act rfl holds

theorem step_submitting (self : System ι) (act : Act ι) (next : System ι)
    (taken : self.step prim act = some next) (inv : Submitting ι → Prop)
    (keeps : ∀ act submitting, self.submitting.step prim act = some submitting → inv self.submitting →
      inv submitting) (holds : inv self.submitting) : inv next.submitting := by
  cases step_taken prim self act next taken with
  | setService id service services => exact holds
  | broadcast signers req submission signed => exact holds
  | receive i peer submission service receiving own extracted stepped => exact holds
  | receiving act receiving running stepped => exact holds
  | actions i submission action service submitting returned extracted stepped => exact keeps _ submitting stepped holds
  | submitting act submitting running stepped => exact keeps act submitting stepped holds
  | cleanup act submitting stepped => exact keeps (.cleanup act) submitting stepped holds

theorem step_serial (self : System ι) (act : Act ι) (next : System ι)
    (taken : self.step prim act = some next) (serial : Submitting.Serial prim self.submitting) :
    Submitting.Serial prim next.submitting :=
  step_submitting prim self act next taken (Submitting.Serial prim)
    (fun act submitting => Submitting.step_serial prim self.submitting act submitting) serial

theorem step_rooted (self : System ι) (act : Act ι) (next : System ι)
    (taken : self.step prim act = some next) (rooted : Receiving.Rooted prim self.receiving) :
    Receiving.Rooted prim next.receiving := by
  refine step_receiving prim self act next taken (Receiving.Rooted prim)
    (fun act receiving => Receiving.step_rooted prim self.receiving act receiving) ?_ rooted
  intro cleaning _ rooted
  exact forget_keeps self.receiving _ cleaning (Receiving.Rooted prim)
    (fun eventId => Receiving.removePin_rooted prim self.receiving eventId)
    (fun eventId => Receiving.removeLock_rooted prim self.receiving eventId) rooted

end System
end Warpdrive.Aggregator
