import Mathlib.Algebra.Group.Nat.Defs
import Warpdrive.Foundation.Cursor
import Warpdrive.Trigger.Lookup

/-! The event poller of a Stellar chain (`stellar_stream/poller.rs`) and the client it asks
(`stellar_stream/client.rs`). The RPC client crate is a parameter: the answers of the server, and which ranges
of ledgers the crate accepts. -/
namespace Warpdrive.Trigger

open Warpdrive.Foundation Warpdrive.Foundation.Cursor Warpdrive.Types

namespace EventFilters

def getAllFiltersWithIds (self : EventFilters) : HashMap StellarEventFilter (List StellarRpcId) := self.dedupeList

end EventFilters

inductive StellarEventType
  | contract
  deriving DecidableEq

structure GetEvents (EventStart : Type) where
  start : EventStart
  eventType : Option StellarEventType
  contractIds : List String
  topics : List (List String)
  limit : Option Nat

def GetEvents.ofFilter {EventStart : Type} (range : EventStart) (filter : StellarEventFilter) : GetEvents EventStart where
  start := range
  eventType := some .contract
  contractIds := [filter.contractId]
  topics := [filter.topicSegmentsXdrBase64]
  limit := none

/-- What one poll meets: the answers of the server, and the order in which the map of the filters is walked. -/
structure Poll (EventStart Event : Type) where
  getLatestLedger : Except StellarClientError UInt32
  getEvents : GetEvents EventStart → Except StellarClientError (List Event)
  walk : HashMap StellarEventFilter (List StellarRpcId) → List (StellarEventFilter × List StellarRpcId)
  walks : ∀ filters, (walk filters).Perm filters.iter

structure StellarStreamClient where
  eventFilters : EventFilters
  eventLastLedger : UInt32
  eventLedgerOnce : Bool

namespace StellarStreamClient

def new (eventFilters : EventFilters) : StellarStreamClient := ⟨eventFilters,0,false⟩

variable {EventStart Event : Type} (ledgerRange : UInt32 → UInt32 → Except String EventStart)

/-- The requests for each filter, up to the first that fails. -/
def getEventsOfFilters (poll : Poll EventStart Event) (range : EventStart) :
    List (StellarEventFilter × List StellarRpcId) → Except StellarClientError (List (List Event × List StellarRpcId))
  | [] => .ok []
  | (filter,ids)::filters =>
    match poll.getEvents (.ofFilter range filter) with
    | .error error => .error error
    | .ok events =>
      match getEventsOfFilters poll range filters with
      | .error error => .error error
      | .ok others => .ok ((events,ids)::others)

def fetchNextEvents (self : StellarStreamClient) (poll : Poll EventStart Event) :
    StellarStreamClient × Except StellarClientError (List (List Event × List StellarRpcId)) :=
  match poll.getLatestLedger with
  | .error error => (self,.error error)
  | .ok currLedger =>
    if !self.eventLedgerOnce then
      ({self with eventLastLedger := currLedger, eventLedgerOnce := true},.ok [])
    else
      let nextLedger := self.eventLastLedger + 1
      if currLedger < nextLedger then (self,.ok [])
      else
        match ledgerRange nextLedger (currLedger + 1) with
        | .error _ => (self,.error (.invalidLedgerRange nextLedger (currLedger + 1)))
        | .ok range =>
          match getEventsOfFilters poll range (poll.walk self.eventFilters.getAllFiltersWithIds) with
          | .error error => (self,.error error)
          | .ok allEvents => ({self with eventLastLedger := currLedger},.ok allEvents)

/-- What the poller sends for one poll. -/
def sent (result : Except StellarClientError (List (List Event × List StellarRpcId))) :
    List (Event × List StellarRpcId) :=
  match result with
  | .error _ => []
  | .ok eventAndIds => eventAndIds.flatMap (fun answer => answer.1.map (fun event => (event,answer.2)))

/-- The ledgers whose events a poll asks for, when it asks. -/
def asked (self : StellarStreamClient) (poll : Poll EventStart Event) : Option (Nat × Nat) :=
  match poll.getLatestLedger with
  | .error _ => none
  | .ok currLedger =>
    if self.eventLedgerOnce ∧ ¬currLedger < self.eventLastLedger + 1 then
      some ((self.eventLastLedger + 1).toNat,(currLedger + 1).toNat)
    else none

def returned (self : StellarStreamClient) (poll : Poll EventStart Event) : Option (Nat × Nat) :=
  match (self.fetchNextEvents ledgerRange poll).2 with
  | .error _ => none
  | .ok _ => self.asked poll

def polled (self : StellarStreamClient) (polls : List (Poll EventStart Event)) : StellarStreamClient :=
  polls.foldl (fun self poll => (self.fetchNextEvents ledgerRange poll).1) self

def forwarded (self : StellarStreamClient) : List (Poll EventStart Event) → List (Event × List StellarRpcId)
  | [] => []
  | poll::polls =>
    sent (self.fetchNextEvents ledgerRange poll).2 ++
      forwarded (self.fetchNextEvents ledgerRange poll).1 polls

/-- The ranges of the polls that return events, one after the other. -/
def ranges (self : StellarStreamClient) : List (Poll EventStart Event) → List (Nat × Nat)
  | [] => []
  | poll::polls =>
    (self.returned ledgerRange poll).toList ++ ranges (self.fetchNextEvents ledgerRange poll).1 polls

def firstObserved (polls : List (Poll EventStart Event)) : Option UInt32 :=
  polls.findSome? (fun poll => poll.getLatestLedger.toOption)

/-- The events of one ledger that match a filter, with the filter's ids. -/
def matching (emitted : Nat → List Event) (satisfies : StellarEventFilter → Event → Bool)
    (entry : StellarEventFilter × List StellarRpcId) (ledger : Nat) : List (Event × List StellarRpcId) :=
  ((emitted ledger).filter (satisfies entry.1)).map (fun event => (event,entry.2))

/-- A request that is answered is answered with the events of its ledgers that match its filter. -/
def Answers (emitted : Nat → List Event) (satisfies : StellarEventFilter → Event → Bool)
    (poll : Poll EventStart Event) : Prop :=
  ∀ start stop range filter events, ledgerRange start stop = .ok range →
    poll.getEvents (.ofFilter range filter) = .ok events →
    events.Perm ((span (start.toNat,stop.toNat)).flatMap (fun ledger => (emitted ledger).filter (satisfies filter)))

theorem getEventsOfFilters_ok (poll : Poll EventStart Event) (range : EventStart)
    (filters : List (StellarEventFilter × List StellarRpcId)) (allEvents : List (List Event × List StellarRpcId))
    (answered : getEventsOfFilters poll range filters = .ok allEvents) :
    ∃ found : StellarEventFilter × List StellarRpcId → List Event,
      (∀ entry ∈ filters, poll.getEvents (.ofFilter range entry.1) = .ok (found entry)) ∧
        allEvents = filters.map (fun entry => (found entry,entry.2)) := by
  -- The answer to a request, where there is one.
  refine ⟨fun entry => (poll.getEvents (.ofFilter range entry.1)).toOption.getD [],?_⟩
  induction filters generalizing allEvents with
  | nil =>
    cases answered
    exact ⟨by simp,rfl⟩
  | cons entry filters ih =>
    obtain ⟨filter,ids⟩ := entry
    simp only [getEventsOfFilters] at answered
    split at answered
    · cases answered
    · next events first =>
      split at answered
      · cases answered
      · next others rest =>
        cases answered
        obtain ⟨later,same⟩ := ih others rest
        constructor
        · intro entry member
          rcases List.mem_cons.mp member with rfl | member
          · simp [first,Except.toOption]
          · exact later entry member
        · rw [List.map_cons,same]
          simp [first,Except.toOption]

/-- What one poll does: the client after it, its result and the ledgers whose events it returns. -/
inductive Fetched (self : StellarStreamClient) (poll : Poll EventStart Event) :
    StellarStreamClient × Except StellarClientError (List (List Event × List StellarRpcId)) →
      Option (Nat × Nat) → Prop
  | failed (error : StellarClientError) : Fetched self poll (self,.error error) none
  | first (currLedger : UInt32) (observed : poll.getLatestLedger = .ok currLedger)
      (new : self.eventLedgerOnce = false) :
      Fetched self poll ({self with eventLastLedger := currLedger, eventLedgerOnce := true},.ok []) none
  | still (currLedger : UInt32) (observed : poll.getLatestLedger = .ok currLedger)
      (old : self.eventLedgerOnce = true) : Fetched self poll (self,.ok []) none
  | moved (currLedger : UInt32) (range : EventStart) (allEvents : List (List Event × List StellarRpcId))
      (observed : poll.getLatestLedger = .ok currLedger) (old : self.eventLedgerOnce = true)
      (later : ¬currLedger < self.eventLastLedger + 1)
      (allowed : ledgerRange (self.eventLastLedger + 1) (currLedger + 1) = .ok range)
      (answered : getEventsOfFilters poll range (poll.walk self.eventFilters.getAllFiltersWithIds) = .ok allEvents) :
      Fetched self poll ({self with eventLastLedger := currLedger},.ok allEvents)
        (some ((self.eventLastLedger + 1).toNat,(currLedger + 1).toNat))

theorem fetched (self : StellarStreamClient) (poll : Poll EventStart Event) :
    Fetched ledgerRange self poll (self.fetchNextEvents ledgerRange poll) (self.returned ledgerRange poll) := by
  unfold returned asked fetchNextEvents
  cases observed : poll.getLatestLedger with
  | error error => exact .failed error
  | ok currLedger =>
    dsimp only
    cases once : self.eventLedgerOnce with
    | false =>
      simp only [Bool.not_false,if_true,Bool.false_eq_true,false_and,if_false]
      exact .first currLedger observed once
    | true =>
      simp only [Bool.not_true,Bool.false_eq_true,if_false,true_and]
      by_cases earlier : currLedger < self.eventLastLedger + 1
      · simp only [earlier,not_true_eq_false,if_true,if_false]
        exact .still currLedger observed once
      · simp only [if_neg earlier,if_pos earlier]
        cases allowed : ledgerRange (self.eventLastLedger + 1) (currLedger + 1) with
        | error reason => exact .failed _
        | ok range =>
          dsimp only
          cases answered : getEventsOfFilters poll range (poll.walk self.eventFilters.getAllFiltersWithIds) with
          | error error => exact .failed error
          | ok allEvents =>
            have moved := Fetched.moved currLedger range allEvents observed once earlier allowed answered
            rw [once] at moved
            exact moved

/-- A poll that fails sends nothing and leaves the client as it was. -/
theorem fetchNextEvents_failed (self : StellarStreamClient) (poll : Poll EventStart Event) (error : StellarClientError)
    (failed : (self.fetchNextEvents ledgerRange poll).2 = .error error) :
    (self.fetchNextEvents ledgerRange poll).1 = self ∧ sent (self.fetchNextEvents ledgerRange poll).2 = [] := by
  have step := fetched ledgerRange self poll
  generalize self.fetchNextEvents ledgerRange poll = result at step failed
  generalize self.returned ledgerRange poll = range at step
  cases step with
  | failed error => exact ⟨rfl,rfl⟩
  | _ => cases failed

variable {ledgerRange} {emitted : Nat → List Event} {satisfies : StellarEventFilter → Event → Bool}

/-- What a poll that moves sends is what its ledgers hold for each filter. -/
theorem sent_moved (filters : EventFilters) (poll : Poll EventStart Event)
    (answers : Answers ledgerRange emitted satisfies poll) (start stop : UInt32) (range : EventStart)
    (allEvents : List (List Event × List StellarRpcId)) (allowed : ledgerRange start stop = .ok range)
    (answered : getEventsOfFilters poll range (poll.walk filters.getAllFiltersWithIds) = .ok allEvents) :
    (sent (.ok allEvents)).Perm (expected filters.getAllFiltersWithIds.iter (matching emitted satisfies)
      (span (start.toNat,stop.toNat))) := by
  obtain ⟨found,each,rfl⟩ := getEventsOfFilters_ok poll range _ allEvents answered
  simp only [sent,List.flatMap_map]
  refine expected_perm _ _ _ _ _ (poll.walks _) ?_
  intro entry member
  have answer := answers start stop range entry.1 (found entry) allowed (each entry member)
  have mapped := answer.map (fun event => (event,entry.2))
  rw [List.map_flatMap] at mapped
  exact mapped

theorem next_toNat (ledger : UInt32) (bound : ledger.toNat < 2 ^ 32 - 1) : (ledger + 1).toNat = ledger.toNat + 1 := by
  have one : UInt32.toNat 1 = 1 := rfl
  rw [UInt32.toNat_add,one]
  exact Nat.mod_eq_of_lt (by omega)

/-- From a client that has observed a ledger, the ranges go on after its last one. -/
theorem forwarded_from (self : StellarStreamClient) (polls : List (Poll EventStart Event))
    (old : self.eventLedgerOnce = true) (bound : self.eventLastLedger.toNat < 2 ^ 32 - 1)
    (below : ∀ poll ∈ polls, ∀ ledger, poll.getLatestLedger = .ok ledger → ledger.toNat < 2 ^ 32 - 1)
    (answers : ∀ poll ∈ polls, Answers ledgerRange emitted satisfies poll) :
    Consecutive (self.eventLastLedger.toNat + 1) (self.ranges ledgerRange polls)
        ((self.polled ledgerRange polls).eventLastLedger.toNat + 1) ∧
      (self.forwarded ledgerRange polls).Perm (expected self.eventFilters.getAllFiltersWithIds.iter
        (matching emitted satisfies) ((self.ranges ledgerRange polls).flatMap span)) := by
  induction polls generalizing self with
  | nil =>
    refine ⟨.nil _,?_⟩
    simp [forwarded,ranges,expected]
  | cons poll polls ih =>
    have below' := below poll List.mem_cons_self
    have later := fun client old bound => ih client old bound
      (fun other member => below other (List.mem_cons_of_mem poll member))
      (fun other member => answers other (List.mem_cons_of_mem poll member))
    have step := fetched ledgerRange self poll
    unfold ranges forwarded
    change Consecutive _ _ (((self.fetchNextEvents ledgerRange poll).1.polled ledgerRange polls).eventLastLedger.toNat + 1) ∧ _
    generalize self.fetchNextEvents ledgerRange poll = result at step
    generalize self.returned ledgerRange poll = range at step
    cases step with
    | failed error => exact later self old bound
    | first currLedger observed new =>
      rw [old] at new
      cases new
    | still currLedger observed _ => exact later self old bound
    | moved currLedger range allEvents observed _ after allowed answered =>
      have limit := below' currLedger observed
      obtain ⟨rest,sends⟩ := later {self with eventLastLedger := currLedger} old limit
      have start := next_toNat self.eventLastLedger bound
      have stop := next_toNat currLedger limit
      have grows : self.eventLastLedger.toNat + 1 ≤ currLedger.toNat := by
        rw [UInt32.lt_iff_toNat_lt,start] at after
        omega
      have own := sent_moved self.eventFilters poll (answers poll List.mem_cons_self) _ _ range allEvents allowed answered
      simp only [Option.toList_some,List.singleton_append,List.flatMap_cons]
      rw [start,stop] at own ⊢
      refine ⟨.cons _ _ _ _ (by omega) rest,?_⟩
      exact (own.append sends).trans (expected_append _ _ _ _)

/-- Before a ledger is observed nothing is asked for and nothing is sent. -/
theorem unobserved (self : StellarStreamClient) (polls : List (Poll EventStart Event))
    (new : self.eventLedgerOnce = false) (none_yet : firstObserved polls = none) :
    self.ranges ledgerRange polls = [] ∧ self.forwarded ledgerRange polls = [] := by
  induction polls generalizing self with
  | nil => exact ⟨rfl,rfl⟩
  | cons poll polls ih =>
    simp only [firstObserved,List.findSome?_cons] at none_yet
    split at none_yet
    · cases none_yet
    · next silent =>
      have step := fetched ledgerRange self poll
      unfold ranges forwarded
      generalize self.fetchNextEvents ledgerRange poll = result at step
      generalize self.returned ledgerRange poll = range at step
      cases step with
      | failed error => exact ih self new none_yet
      | first currLedger observed _ =>
        rw [observed] at silent
        cases silent
      | still currLedger observed old =>
        rw [new] at old
        cases old
      | moved currLedger range allEvents observed old later allowed answered =>
        rw [new] at old
        cases old

theorem observed_from (self : StellarStreamClient) (polls : List (Poll EventStart Event))
    (new : self.eventLedgerOnce = false) (first : UInt32) (observed : firstObserved polls = some first)
    (below : ∀ poll ∈ polls, ∀ ledger, poll.getLatestLedger = .ok ledger → ledger.toNat < 2 ^ 32 - 1)
    (answers : ∀ poll ∈ polls, Answers ledgerRange emitted satisfies poll) :
    Consecutive (first.toNat + 1) (self.ranges ledgerRange polls)
        ((self.polled ledgerRange polls).eventLastLedger.toNat + 1) ∧
      (self.forwarded ledgerRange polls).Perm (expected self.eventFilters.getAllFiltersWithIds.iter
        (matching emitted satisfies) ((self.ranges ledgerRange polls).flatMap span)) := by
  induction polls generalizing self with
  | nil => cases observed
  | cons poll polls ih =>
    have below' := below poll List.mem_cons_self
    have others := fun other member => below other (List.mem_cons_of_mem poll member)
    have replies := fun other member => answers other (List.mem_cons_of_mem poll member)
    have step := fetched ledgerRange self poll
    simp only [firstObserved,List.findSome?_cons] at observed
    unfold ranges forwarded
    change Consecutive _ _ (((self.fetchNextEvents ledgerRange poll).1.polled ledgerRange polls).eventLastLedger.toNat + 1) ∧ _
    cases answer : poll.getLatestLedger with
    | error error =>
      rw [answer] at observed
      generalize self.fetchNextEvents ledgerRange poll = result at step
      generalize self.returned ledgerRange poll = range at step
      cases step with
      | failed error => exact ih self new observed others replies
      | first currLedger reached _ => cases answer.symm.trans reached
      | still currLedger reached _ => cases answer.symm.trans reached
      | moved currLedger range allEvents reached _ _ _ _ => cases answer.symm.trans reached
    | ok ledger =>
      rw [answer] at observed
      cases observed
      have limit := below' first answer
      have start : self.fetchNextEvents ledgerRange poll =
          ({self with eventLastLedger := first, eventLedgerOnce := true},.ok []) := by
        simp [fetchNextEvents,answer,new]
      have nothing : self.returned ledgerRange poll = none := by
        simp [returned,asked,start,answer,new]
      rw [start,nothing]
      exact forwarded_from {self with eventLastLedger := first, eventLedgerOnce := true} polls rfl limit others replies

/-- With its filters fixed, the poller asks for consecutive ranges from the ledger after the first observed one
up to the last, and sends each event of these ledgers that matches a filter once, with the filter's ids. A poll
that fails sends nothing and moves nothing. -/
theorem events_forwarded_once (filters : EventFilters) (polls : List (Poll EventStart Event))
    (below : ∀ poll ∈ polls, ∀ ledger, poll.getLatestLedger = .ok ledger → ledger.toNat < 2 ^ 32 - 1)
    (answers : ∀ poll ∈ polls, Answers ledgerRange emitted satisfies poll) :
    (∀ earlier poll later error, polls = earlier ++ poll::later →
      (((new filters).polled ledgerRange earlier).fetchNextEvents ledgerRange poll).2 = .error error →
        (((new filters).polled ledgerRange earlier).fetchNextEvents ledgerRange poll).1 =
          (new filters).polled ledgerRange earlier ∧
        sent (((new filters).polled ledgerRange earlier).fetchNextEvents ledgerRange poll).2 = []) ∧
    (firstObserved polls = none →
      (new filters).ranges ledgerRange polls = [] ∧ (new filters).forwarded ledgerRange polls = []) ∧
    ∀ first, firstObserved polls = some first →
      Consecutive (first.toNat + 1) ((new filters).ranges ledgerRange polls)
        (((new filters).polled ledgerRange polls).eventLastLedger.toNat + 1) ∧
      ((new filters).ranges ledgerRange polls).Pairwise (fun a b => a.2 ≤ b.1) ∧
      ((new filters).ranges ledgerRange polls).flatMap span = List.range' (first.toNat + 1)
        (((new filters).polled ledgerRange polls).eventLastLedger.toNat - first.toNat) ∧
      ((new filters).forwarded ledgerRange polls).Perm (expected filters.getAllFiltersWithIds.iter
        (matching emitted satisfies) (List.range' (first.toNat + 1)
          (((new filters).polled ledgerRange polls).eventLastLedger.toNat - first.toNat))) := by
  refine ⟨fun earlier poll later error _ failed => fetchNextEvents_failed ledgerRange _ poll error failed,
    fun none_yet => unobserved _ polls rfl none_yet,fun first observed => ?_⟩
  obtain ⟨consecutive,sends⟩ := observed_from (new filters) polls rfl first observed below answers
  have spans := consecutive.spans
  rw [Nat.add_sub_add_right] at spans
  rw [spans] at sends
  exact ⟨consecutive,consecutive.disjoint,spans,sends⟩

def transferFilters : EventFilters := ((EventFilters.new .firstVersions).addFilter ⟨"CABCD",["*"]⟩).2

/-- A contract that emits an event in ledger 12, and another that does in ledger 13. -/
def transfers (ledger : Nat) : List String :=
  if ledger = 12 then ["CABCD"] else if ledger = 13 then ["COTHER"] else []

def acceptedRange (start stop : UInt32) : Except String (UInt32 × UInt32) :=
  if start < stop then .ok (start,stop) else .error "start must come before end"

/-- A server that answers with the events of the contracts asked for. -/
def transferPoll (getLatestLedger : Except StellarClientError UInt32) : Poll (UInt32 × UInt32) String where
  getLatestLedger := getLatestLedger
  getEvents request := .ok ((span (request.start.1.toNat,request.start.2.toNat)).flatMap
    (fun ledger => (transfers ledger).filter (fun event => request.contractIds = [event])))
  walk filters := filters.iter
  walks _ := List.Perm.refl _

theorem transferPoll_answers (getLatestLedger : Except StellarClientError UInt32) :
    Answers acceptedRange transfers (fun filter event => [filter.contractId] = [event]) (transferPoll getLatestLedger) := by
  intro start stop range filter events allowed answered
  unfold acceptedRange at allowed
  split at allowed
  · cases allowed
    cases answered
    exact List.Perm.refl _
  · cases allowed

def transferPolls : List (Poll (UInt32 × UInt32) String) :=
  [transferPoll (.ok 10),transferPoll (.error (.connection "timed out")),transferPoll (.ok 13),transferPoll (.ok 12)]

theorem transferPolls_forwarded_once :
    ((new transferFilters).forwarded acceptedRange transferPolls).Perm
      (expected transferFilters.getAllFiltersWithIds.iter
        (matching transfers (fun filter event => [filter.contractId] = [event])) (List.range' 11 3)) :=
  ((events_forwarded_once transferFilters transferPolls (by
      intro poll member ledger observed
      simp only [transferPolls,List.mem_cons,List.not_mem_nil,or_false] at member
      rcases member with rfl | rfl | rfl | rfl <;> cases observed <;> decide) (by
      intro poll member
      simp only [transferPolls,List.mem_cons,List.not_mem_nil,or_false] at member
      rcases member with rfl | rfl | rfl | rfl <;> exact transferPoll_answers _)).2.2 10 rfl).2.2.2

end StellarStreamClient
end Warpdrive.Trigger
