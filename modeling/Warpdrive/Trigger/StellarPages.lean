import Warpdrive.Foundation.Execution
import Warpdrive.Trigger.StellarPoll

/-! The event poller of a Stellar chain on a server that answers in pages. The client asks without a limit
and does not look at the cursor of the answer, so it has the first page of a range and moves past the whole
of it. -/
namespace Warpdrive.Trigger.StellarStreamClient

open Warpdrive.Foundation Warpdrive.Foundation.Cursor Warpdrive.Foundation.Execution Warpdrive.Types

variable {EventStart Event : Type}

/-- A poll, or an update of the filters between two polls. -/
inductive PollerAct (EventStart Event : Type) where
  | poll (poll : Poll EventStart Event)
  | updateEventFilters (filters : EventFilters)

variable (ledgerRange : UInt32 → UInt32 → Except String EventStart)

def pollerStep (self : StellarStreamClient) : PollerAct EventStart Event → Option StellarStreamClient
  | .poll poll => some (self.fetchNextEvents ledgerRange poll).1
  | .updateEventFilters filters => some {self with eventFilters := filters}

variable (emitted : Nat → List Event) (satisfies : StellarEventFilter → Event → Bool) (page : Nat)

def found (ledgers : List Nat) (filter : StellarEventFilter) : List Event :=
  ledgers.flatMap (fun ledger => (emitted ledger).filter (satisfies filter))

/-- A request that is answered is answered with the first page of the matching events of its ledgers. -/
def AnswersPaged (poll : Poll EventStart Event) : Prop :=
  ∀ start stop range filter events, ledgerRange start stop = .ok range →
    poll.getEvents (.ofFilter range filter) = .ok events →
      events = (found emitted satisfies (span (start.toNat,stop.toNat)) filter).take page

def committed (self : StellarStreamClient) (ledger : UInt32) : List Nat :=
  span (self.eventLastLedger.toNat + 1,ledger.toNat + 1)

/-- A poll sends every matching event of the ledgers that it moves the client past. -/
def SendsAll (before : StellarStreamClient) (act : PollerAct EventStart Event) (after : StellarStreamClient) : Prop :=
  match act with
  | .poll poll => before.eventLedgerOnce = true →
    (expected before.eventFilters.getAllFiltersWithIds.iter (matching emitted satisfies)
      (before.committed after.eventLastLedger)).Subperm (sent (before.fetchNextEvents ledgerRange poll).2)
  | .updateEventFilters _ => True

def Answered (self : StellarStreamClient) (poll : Poll EventStart Event) (range : EventStart) : Prop :=
  ∀ entry ∈ self.eventFilters.getAllFiltersWithIds.iter, ∃ events, poll.getEvents (.ofFilter range entry.1) = .ok events

/-- Where the requests of the poll are answered, the matching events of each filter fit one page. -/
def FitsPage (before : StellarStreamClient) (act : PollerAct EventStart Event) (_ : StellarStreamClient) : Prop :=
  match act with
  | .poll poll => before.eventLedgerOnce = true → ∀ currLedger range, poll.getLatestLedger = .ok currLedger →
    ledgerRange (before.eventLastLedger + 1) (currLedger + 1) = .ok range → before.Answered poll range →
      ∀ entry ∈ before.eventFilters.getAllFiltersWithIds.iter,
        (found emitted satisfies (before.committed currLedger) entry.1).length ≤ page
  | .updateEventFilters _ => True

variable {ledgerRange} {emitted} {satisfies} {page}

theorem committed_of_le (self : StellarStreamClient) (ledger : UInt32) (passed : ledger ≤ self.eventLastLedger) :
    self.committed ledger = [] := by
  rw [UInt32.le_iff_toNat_le] at passed
  simp [committed,span,passed]

theorem getEventsOfFilters_of_answered (poll : Poll EventStart Event) (range : EventStart)
    (filters : List (StellarEventFilter × List StellarRpcId))
    (answered : ∀ entry ∈ filters, ∃ events, poll.getEvents (.ofFilter range entry.1) = .ok events) :
    ∃ allEvents, getEventsOfFilters poll range filters = .ok allEvents := by
  induction filters with
  | nil => exact ⟨[],rfl⟩
  | cons entry filters ih =>
    obtain ⟨filter,ids⟩ := entry
    obtain ⟨⟨events,first⟩,rest⟩ := List.forall_mem_cons.mp answered
    obtain ⟨others,later⟩ := ih rest
    exact ⟨(events,ids)::others,by simp [getEventsOfFilters,first,later]⟩

/-- A poll whose requests are answered moves the client and returns, unless there is no later ledger. -/
theorem fetchNextEvents_answered (self : StellarStreamClient) (poll : Poll EventStart Event) (currLedger : UInt32)
    (range : EventStart) (old : self.eventLedgerOnce = true) (observed : poll.getLatestLedger = .ok currLedger)
    (later : ¬currLedger < self.eventLastLedger + 1)
    (allowed : ledgerRange (self.eventLastLedger + 1) (currLedger + 1) = .ok range)
    (answered : self.Answered poll range) :
    ∃ allEvents, getEventsOfFilters poll range (poll.walk self.eventFilters.getAllFiltersWithIds) = .ok allEvents ∧
      self.fetchNextEvents ledgerRange poll = ({self with eventLastLedger := currLedger},.ok allEvents) := by
  obtain ⟨allEvents,all⟩ := getEventsOfFilters_of_answered poll range
    (poll.walk self.eventFilters.getAllFiltersWithIds)
    (fun entry member => answered entry ((poll.walks _).mem_iff.mp member))
  exact ⟨allEvents,all,by simp [fetchNextEvents,observed,old,later,allowed,all]⟩

/-- What a poll that moves sends is the first page of each filter. -/
theorem sent_paged (filters : EventFilters) (poll : Poll EventStart Event)
    (answers : AnswersPaged ledgerRange emitted satisfies page poll) (start stop : UInt32) (range : EventStart)
    (allEvents : List (List Event × List StellarRpcId)) (allowed : ledgerRange start stop = .ok range)
    (answered : getEventsOfFilters poll range (poll.walk filters.getAllFiltersWithIds) = .ok allEvents) :
    (sent (.ok allEvents)).Perm (filters.getAllFiltersWithIds.iter.flatMap (fun entry =>
      ((span (start.toNat,stop.toNat)).flatMap (matching emitted satisfies entry)).take page)) := by
  obtain ⟨answer,each,rfl⟩ := getEventsOfFilters_ok poll range _ allEvents answered
  simp only [sent,List.flatMap_map]
  refine (List.Perm.flatMap_left (poll.walk filters.getAllFiltersWithIds) ?_).trans ((poll.walks _).flatMap_right _)
  intro entry member
  rw [answers start stop range entry.1 (answer entry) allowed (each entry member),List.map_take,found,List.map_flatMap]
  exact List.Perm.refl _

/-- The ledgers asked for are those that the client moves past, unless a number wraps around. -/
theorem committed_asked (self : StellarStreamClient) (currLedger : UInt32)
    (ordered : self.eventLastLedger + 1 ≤ currLedger + 1) :
    self.committed currLedger = [] ∨
      self.committed currLedger = span ((self.eventLastLedger + 1).toNat,(currLedger + 1).toNat) := by
  have one : UInt32.toNat 1 = 1 := rfl
  have small := currLedger.toNat_lt
  rw [UInt32.le_iff_toNat_le,UInt32.toNat_add,UInt32.toNat_add,one] at ordered
  by_cases last : self.eventLastLedger.toNat = 2 ^ 32 - 1
  · left
    apply committed_of_le
    rw [UInt32.le_iff_toNat_le]
    omega
  · right
    have low := self.eventLastLedger.toNat_lt
    rw [Nat.mod_eq_of_lt (by omega)] at ordered
    have below : currLedger.toNat < 2 ^ 32 - 1 := by
      by_contra top
      have wraps : currLedger.toNat + 1 = 2 ^ 32 := by omega
      rw [wraps,Nat.mod_self] at ordered
      omega
    rw [next_toNat self.eventLastLedger (by omega),next_toNat currLedger below,committed]

theorem le_of_lt_next (ledger last : UInt32) (less : ledger < last + 1) : ledger ≤ last := by
  have one : UInt32.toNat 1 = 1 := rfl
  have bound := Nat.mod_le (last.toNat + 1) (2 ^ 32)
  rw [UInt32.lt_iff_toNat_lt,UInt32.toNat_add,one] at less
  rw [UInt32.le_iff_toNat_le]
  omega

theorem expected_nil (self : StellarStreamClient) :
    expected self.eventFilters.getAllFiltersWithIds.iter (matching emitted satisfies) [] = [] := by
  simp [expected]

theorem length_matching (ledgers : List Nat) (entry : StellarEventFilter × List StellarRpcId) :
    (ledgers.flatMap (matching emitted satisfies entry)).length = (found emitted satisfies ledgers entry.1).length := by
  simp [found,matching,List.length_flatMap]

variable (ledgerRange) in
/-- A poll that fails or leaves the client as it was fits: there is no later ledger, or a request failed. -/
theorem committed_unmoved (self : StellarStreamClient) (poll : Poll EventStart Event) (currLedger : UInt32)
    (range : EventStart) (old : self.eventLedgerOnce = true) (observed : poll.getLatestLedger = .ok currLedger)
    (allowed : ledgerRange (self.eventLastLedger + 1) (currLedger + 1) = .ok range)
    (answered : self.Answered poll range)
    (unmoved : (∃ error, (self.fetchNextEvents ledgerRange poll).2 = .error error) ∨
      (self.fetchNextEvents ledgerRange poll).1 = self) : self.committed currLedger = [] := by
  apply committed_of_le
  by_cases earlier : currLedger < self.eventLastLedger + 1
  · exact le_of_lt_next currLedger self.eventLastLedger earlier
  · obtain ⟨allEvents,_,result⟩ := self.fetchNextEvents_answered poll currLedger range old observed earlier
      allowed answered
    rw [result] at unmoved
    rcases unmoved with ⟨error,failed⟩ | same
    · cases failed
    · have last := congrArg eventLastLedger same
      exact last ▸ UInt32.le_refl _

/-- A poll that moves sends every event of its ledgers exactly when those of each filter fit a page. -/
theorem subperm_sent_moved (self : StellarStreamClient) (poll : Poll EventStart Event)
    (answers : AnswersPaged ledgerRange emitted satisfies page poll) (currLedger : UInt32) (range : EventStart)
    (allEvents : List (List Event × List StellarRpcId))
    (ordered : self.eventLastLedger + 1 ≤ currLedger + 1)
    (allowed : ledgerRange (self.eventLastLedger + 1) (currLedger + 1) = .ok range)
    (answered : getEventsOfFilters poll range (poll.walk self.eventFilters.getAllFiltersWithIds) = .ok allEvents) :
    (expected self.eventFilters.getAllFiltersWithIds.iter (matching emitted satisfies)
        (self.committed currLedger)).Subperm (sent (.ok allEvents)) ↔
      ∀ entry ∈ self.eventFilters.getAllFiltersWithIds.iter,
        (found emitted satisfies (self.committed currLedger) entry.1).length ≤ page := by
  rcases self.committed_asked currLedger ordered with nothing | asked
  · rw [nothing,expected_nil]
    exact iff_of_true List.nil_subperm (fun entry _ => Nat.zero_le page)
  · have pages := sent_paged self.eventFilters poll answers _ _ range allEvents allowed answered
    rw [← asked] at pages
    refine (subperm_pages _ _ page _ pages).trans ?_
    simp only [length_matching]

/-- A poll sends every event of the ledgers it moves past exactly when they fit a page. -/
theorem sendsAll_iff_fitsPage (ordered : ∀ start stop range, ledgerRange start stop = .ok range → start ≤ stop)
    (before after : StellarStreamClient) (act : PollerAct EventStart Event)
    (answers : ∀ poll, act = .poll poll → AnswersPaged ledgerRange emitted satisfies page poll)
    (taken : before.pollerStep ledgerRange act = some after) :
    SendsAll ledgerRange emitted satisfies before act after ↔
      FitsPage ledgerRange emitted satisfies page before act after := by
  cases act with
  | updateEventFilters filters => exact Iff.rfl
  | poll poll =>
    cases taken
    refine forall_congr' ?_
    intro old
    have unmoved := fun currLedger range => before.committed_unmoved ledgerRange poll currLedger range old
    have idle : before.committed before.eventLastLedger = [] := committed_of_le _ _ (UInt32.le_refl _)
    have step := fetched ledgerRange before poll
    generalize before.fetchNextEvents ledgerRange poll = result at step unmoved
    generalize before.returned ledgerRange poll = returned at step
    cases step with
    | failed error =>
      rw [idle,expected_nil]
      refine iff_of_true List.nil_subperm ?_
      intro currLedger range observed allowed answered entry _
      rw [unmoved currLedger range observed allowed answered (.inr rfl)]
      exact Nat.zero_le page
    | first currLedger observed new =>
      rw [old] at new
      cases new
    | still currLedger observed _ =>
      rw [idle,expected_nil]
      refine iff_of_true List.nil_subperm ?_
      intro currLedger range observed allowed answered entry _
      rw [unmoved currLedger range observed allowed answered (.inr rfl)]
      exact Nat.zero_le page
    | moved currLedger range allEvents observed _ later allowed answered =>
      have moved := before.subperm_sent_moved poll (answers poll rfl) currLedger range allEvents
        (ordered _ _ range allowed) allowed answered
      refine moved.trans ?_
      obtain ⟨answer,each,_⟩ := getEventsOfFilters_ok poll range _ allEvents answered
      constructor
      · intro fits other otherRange reached _ _
        cases observed.symm.trans reached
        exact fits
      · intro fits
        exact fits currLedger range observed allowed
          (fun entry member => ⟨answer entry,each entry ((poll.walks _).mem_iff.mpr member)⟩)

/-- On a server that answers in pages, the poller sends every matching event before it moves past its ledger,
along a run of polls and updates of the filters, exactly when the events of every filter fit one page at each
poll whose requests are answered. -/
theorem sendsAll_along_iff (ordered : ∀ start stop range, ledgerRange start stop = .ok range → start ≤ stop)
    (filters : EventFilters) (acts : List (PollerAct EventStart Event))
    (answers : ∀ poll, .poll poll ∈ acts → AnswersPaged ledgerRange emitted satisfies page poll) :
    Along (pollerStep ledgerRange) (SendsAll ledgerRange emitted satisfies) (new filters) acts ↔
      Along (pollerStep ledgerRange) (FitsPage ledgerRange emitted satisfies page) (new filters) acts :=
  along_iff_of_allowed _ _ (fun _ => True)
    (fun act => ∀ poll, act = .poll poll → AnswersPaged ledgerRange emitted satisfies page poll)
    (fun before act after paged taken _ => sendsAll_iff_fitsPage ordered before after act paged taken)
    (fun _ _ _ _ _ _ _ => trivial) (new filters) acts
    (fun _ member poll same => answers poll (same ▸ member)) trivial

/-- A contract that emits two events in ledger 12. -/
def crowded (ledger : Nat) : List String := if ledger = 12 then ["CABCD","CABCD"] else []

def ofContract (filter : StellarEventFilter) (event : String) : Bool := [filter.contractId] = [event]

/-- A server whose pages hold one event. -/
def crowdedPoll (getLatestLedger : Except StellarClientError UInt32) : Poll (UInt32 × UInt32) String :=
  {transferPoll getLatestLedger with
    getEvents request := .ok (((span (request.start.1.toNat,request.start.2.toNat)).flatMap
      (fun ledger => (crowded ledger).filter (fun event => request.contractIds = [event]))).take 1)}

theorem acceptedRange_ordered (start stop : UInt32) (range : UInt32 × UInt32)
    (allowed : acceptedRange start stop = .ok range) : start ≤ stop := by
  unfold acceptedRange at allowed
  split at allowed
  next less => exact UInt32.le_of_lt less
  next => cases allowed

theorem crowdedPoll_answers (getLatestLedger : Except StellarClientError UInt32) :
    AnswersPaged acceptedRange crowded ofContract 1 (crowdedPoll getLatestLedger) := by
  intro start stop range filter events allowed answered
  unfold acceptedRange at allowed
  split at allowed
  · cases allowed
    cases answered
    rfl
  · cases allowed

def crowdedPolls : List (PollerAct (UInt32 × UInt32) String) :=
  [.poll (crowdedPoll (.ok 10)),.poll (crowdedPoll (.error (.connection "timed out"))),.poll (crowdedPoll (.ok 13))]

theorem crowdedPolls_answer (poll : Poll (UInt32 × UInt32) String) (member : .poll poll ∈ crowdedPolls) :
    AnswersPaged acceptedRange crowded ofContract 1 poll := by
  simp only [crowdedPolls,List.mem_cons,PollerAct.poll.injEq,List.not_mem_nil,or_false] at member
  rcases member with rfl | rfl | rfl
  · exact crowdedPoll_answers _
  · exact crowdedPoll_answers _
  · exact crowdedPoll_answers _

theorem crowdedPolls_along_iff :
    Along (pollerStep acceptedRange) (SendsAll acceptedRange crowded ofContract) (new transferFilters) crowdedPolls ↔
      Along (pollerStep acceptedRange) (FitsPage acceptedRange crowded ofContract 1) (new transferFilters)
        crowdedPolls :=
  sendsAll_along_iff acceptedRange_ordered transferFilters crowdedPolls crowdedPolls_answer

/-- The second event of ledger 12 is not sent, and the client moves on to ledger 13. -/
theorem crowdedPolls_loses : (∀ poll, .poll poll ∈ crowdedPolls → AnswersPaged acceptedRange crowded ofContract 1 poll) ∧
    ¬Along (pollerStep acceptedRange) (SendsAll acceptedRange crowded ofContract) (new transferFilters)
      crowdedPolls := by
  refine ⟨crowdedPolls_answer,?_⟩
  intro along
  obtain ⟨_,_,sends,_⟩ := along
  have few := (sends rfl).length_le
  revert few
  decide

end Warpdrive.Trigger.StellarStreamClient
