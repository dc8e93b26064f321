import Mathlib.Data.Finset.Sort
import Warpdrive.Foundation.Wildcard
import Warpdrive.Trigger.Feed
import Warpdrive.Trigger.Requests

/-! What a change of the log filter does to the logs that are selected. The filter goes out as a JSON
object that leaves out an empty set, and the server reads what is left out as everything. -/
namespace Warpdrive.Trigger.EvmStream

open Warpdrive.Foundation Warpdrive.Types Warpdrive.Foundation.Execution Warpdrive.Foundation.Wildcard

/-- The `address` entry of the filter object. -/
inductive JsonAddress where
  | single (address : Address)
  | many (addresses : List Address)

/-- The filter object of `eth_subscribe`, with an entry left out as `none`. -/
structure JsonFilter where
  address : Option JsonAddress
  topics : Option (List (List (FixedBytes 32)))

/-- `Serialize for SubscribeParams`, of `SubscribeParams::Logs`. -/
def LogFilter.serialize (self : LogFilter) : JsonFilter where
  address :=
    if self.addresses = ∅ then none
    else match self.addresses.sort with
      | [address] => some (.single address)
      | addresses => some (.many addresses)
  topics := if self.topics = ∅ then none else some [self.topics.sort]

def JsonAddress.selects (address : Address) : JsonAddress → Prop
  | .single own => address = own
  | .many addresses => address ∈ addresses

/-- The logs that the server selects: the topics are alternatives for each position of the log. -/
def JsonFilter.selects (self : JsonFilter) (log : Log) : Prop :=
  (∀ address ∈ self.address, address.selects log.address) ∧
    ∀ positions ∈ self.topics, ∀ (i : Nat) (alternatives : List (FixedBytes 32)),
      positions[i]? = some alternatives →
      ∃ topic ∈ log.logData.topics[i]?, topic ∈ alternatives

theorem selects_serialize (self : LogFilter) (log : Log) :
    self.serialize.selects log ↔ self.admits log = true := by
  have addresses : (∀ address ∈ self.serialize.address, address.selects log.address) ↔
      self.addresses = ∅ ∨ log.address ∈ self.addresses := by
    by_cases none : self.addresses = ∅
    · simp [LogFilter.serialize,none]
    · simp only [LogFilter.serialize,none,if_false,false_or]
      rw [← Finset.mem_sort (fun a b => a ≤ b)]
      split
      next address only => simp [JsonAddress.selects,only]
      next => simp [JsonAddress.selects]
  have topics : (∀ positions ∈ self.serialize.topics, ∀ (i : Nat) (alternatives : List (FixedBytes 32)),
      positions[i]? = some alternatives → ∃ topic ∈ log.logData.topics[i]?, topic ∈ alternatives) ↔
      self.topics = ∅ ∨ ∃ topic ∈ log.logData.topics.head?, topic ∈ self.topics := by
    by_cases none : self.topics = ∅
    · simp [LogFilter.serialize,none]
    · simp [LogFilter.serialize,none,List.getElem?_cons,List.head?_eq_getElem?]
  rw [JsonFilter.selects,addresses,topics,LogFilter.admits,decide_eq_true_iff]

def selected (logs : Option LogFilter) : Set Log := {log | ∃ filter ∈ logs, filter.serialize.selects log}

def asked (addresses : List Address) (topics : List (FixedBytes 32)) : Set Log :=
  {log | (addresses = [] ∨ log.address ∈ addresses) ∧
    (topics = [] ∨ ∃ topic ∈ log.logData.topics.head?, topic ∈ topics)}

def place (log : Log) : Address × Option (FixedBytes 32) := (log.address,log.logData.topics.head?)

theorem place_surjective : Function.Surjective place := by
  rintro ⟨address,topic⟩
  refine ⟨⟨address,⟨topic.toList,[]⟩,none,none⟩,?_⟩
  cases topic with
  | none => rfl
  | some topic => rfl

/-- The logs of the listed addresses with the listed topics, where an empty list is everything. -/
def rectangle (addresses : Finset Address) (topics : Finset (FixedBytes 32)) : Set Log :=
  Set.preimage place (allowed addresses ×ˢ allowed (topics.map .some))

theorem mem_rectangle (addresses : Finset Address) (topics : Finset (FixedBytes 32)) (log : Log) :
    log ∈ rectangle addresses topics ↔ (addresses = ∅ ∨ log.address ∈ addresses) ∧
      (topics = ∅ ∨ ∃ topic ∈ log.logData.topics.head?, topic ∈ topics) := by
  cases first : log.logData.topics.head? with
  | none => simp [rectangle,place,allowed,first]
  | some topic => simp [rectangle,place,allowed,first]

theorem selected_none : selected none = ∅ := by
  simp [selected]

theorem selected_some (filter : LogFilter) : selected (some filter) = rectangle filter.addresses filter.topics := by
  ext log
  rw [mem_rectangle]
  simp [selected,selects_serialize,LogFilter.admits]

theorem asked_eq (addresses : List Address) (topics : List (FixedBytes 32)) :
    asked addresses topics = rectangle addresses.toFinset topics.toFinset := by
  ext log
  rw [mem_rectangle]
  simp [asked]

theorem rectangle_subset (addresses others : Finset Address) (topics rest : Finset (FixedBytes 32)) :
    rectangle addresses topics ⊆ rectangle others rest ↔ allowed addresses ⊆ allowed others ∧
      allowed (topics.map .some) ⊆ allowed (rest.map .some) := by
  have inhabited : Nonempty Address := ⟨FixedBytes.filled 20 0⟩
  unfold rectangle
  rw [place_surjective.preimage_subset_preimage_iff]
  exact Set.prod_subset_prod_iff' ((allowed_nonempty addresses).prod (allowed_nonempty _))

/-- Adding to the filter adds to what it selects: nothing that stands for everything gets a first member,
and nothing is asked for everything beside a list of members. -/
def LogFilter.Grows (self : LogFilter) (addresses : Finset Address) (topics : Finset (FixedBytes 32)) : Prop :=
  (self.addresses = ∅ → Total addresses) ∧ (addresses = ∅ → Total self.addresses) ∧
    (self.topics = ∅ ↔ topics = ∅)

/-- Removing from the filter takes from what it selects: it is removed whole, or nothing of it loses its
last member. -/
def LogFilter.Shrinks (self : LogFilter) (addresses : Finset Address) (topics : Finset (FixedBytes 32)) : Prop :=
  self.addresses ⊆ addresses ∧ self.topics ⊆ topics ∨
    (self.addresses ⊆ addresses → Total self.addresses) ∧ (self.topics ⊆ topics → self.topics = ∅)

theorem grows_iff (filter : LogFilter) (addresses : Finset Address) (topics : Finset (FixedBytes 32)) :
    rectangle filter.addresses filter.topics ⊆ rectangle (filter.addresses ∪ addresses) (filter.topics ∪ topics) ∧
      rectangle addresses topics ⊆ rectangle (filter.addresses ∪ addresses) (filter.topics ∪ topics) ↔
    filter.Grows addresses topics := by
  have kept := allowed_subset_union filter.addresses addresses
  have keptTopics := allowed_subset_union (filter.topics.map .some) (topics.map .some)
  have added := allowed_subset_union addresses filter.addresses
  have addedTopics := allowed_subset_union (topics.map .some) (filter.topics.map .some)
  rw [total_map_some,Finset.map_eq_empty] at keptTopics addedTopics
  rw [Finset.union_comm] at added addedTopics
  rw [rectangle_subset,rectangle_subset,Finset.map_union,kept,keptTopics,added,addedTopics,LogFilter.Grows,
    iff_iff_implies_and_implies]
  constructor
  · rintro ⟨⟨first,second⟩,third,fourth⟩
    exact ⟨first,third,second,fourth⟩
  · rintro ⟨first,third,second,fourth⟩
    exact ⟨⟨first,second⟩,third,fourth⟩

theorem shrinks_iff (filter : LogFilter) (addresses : Finset Address) (topics : Finset (FixedBytes 32)) :
    rectangle (filter.addresses \ addresses) (filter.topics \ topics) ⊆ rectangle filter.addresses filter.topics ↔
      (filter.addresses ⊆ addresses → Total filter.addresses) ∧ (filter.topics ⊆ topics → filter.topics = ∅) := by
  have kept := allowed_sdiff_subset filter.addresses addresses
  have keptTopics := allowed_sdiff_subset (filter.topics.map .some) (topics.map .some)
  rw [total_map_some,Finset.map_subset_map] at keptTopics
  rw [rectangle_subset,Finset.map_sdiff,kept,keptTopics]

theorem logs_apply (self : Subscriptions) (call : Call) : (call.apply self).logs = call.filter self.logs := by
  have aimed := Call.desired_apply self call .allLogs
  simp only [Subscriptions.desired] at aimed
  refine Option.map_injective ?_ aimed
  rintro ⟨addresses,topics⟩ ⟨others,rest⟩ same
  cases same
  rfl

theorem enableLogs_grows (self : Subscriptions) (addresses : List Address) (topics : List (FixedBytes 32)) :
    selected self.logs ⊆ selected (self.enableLogs addresses topics).logs ∧
      asked addresses topics ⊆ selected (self.enableLogs addresses topics).logs ↔
    ∀ filter ∈ self.logs, filter.Grows addresses.toFinset topics.toFinset := by
  have after : (self.enableLogs addresses topics).logs = (Call.enableLogs addresses topics).filter self.logs :=
    logs_apply self (.enableLogs addresses topics)
  rw [after,asked_eq]
  cases self.logs with
  | none => simp [Call.filter,selected_none,selected_some]
  | some filter =>
    simp only [Call.filter,Option.getD_some,selected_some,Option.mem_def,Option.some.injEq,forall_eq']
    exact grows_iff filter addresses.toFinset topics.toFinset

theorem disableLogs_shrinks (self : Subscriptions) (addresses : List Address) (topics : List (FixedBytes 32)) :
    selected (self.disableLogs addresses topics).logs ⊆ selected self.logs ↔
      ∀ filter ∈ self.logs, filter.Shrinks addresses.toFinset topics.toFinset := by
  have after : (self.disableLogs addresses topics).logs = (Call.disableLogs addresses topics).filter self.logs :=
    logs_apply self (.disableLogs addresses topics)
  rw [after]
  cases self.logs with
  | none => simp [Call.filter]
  | some filter =>
    simp only [Call.filter,Finset.sdiff_eq_empty_iff_subset,Option.mem_def,Option.some.injEq,forall_eq',
      LogFilter.Shrinks]
    split
    next emptied => simp [selected_none,emptied]
    next some =>
      simp only [selected_some,some,false_or]
      exact shrinks_iff filter addresses.toFinset topics.toFinset

/-- Enabling adds what it asks for and takes nothing, disabling adds nothing. -/
def FilterMonotone (before : Client) (act : Act) (after : Client) : Prop :=
  match act with
  | .call (.enableLogs addresses topics) => selected before.inner.logs ⊆ selected after.inner.logs ∧
    asked addresses topics ⊆ selected after.inner.logs
  | .call (.disableLogs _ _) => selected after.inner.logs ⊆ selected before.inner.logs
  | _ => True

/-- The call fits the filter that it changes. -/
def FilterFits (before : Client) (act : Act) (_ : Client) : Prop :=
  match act with
  | .call (.enableLogs addresses topics) =>
    ∀ filter ∈ before.inner.logs, filter.Grows addresses.toFinset topics.toFinset
  | .call (.disableLogs addresses topics) =>
    ∀ filter ∈ before.inner.logs, filter.Shrinks addresses.toFinset topics.toFinset
  | _ => True

theorem filterMonotone_iff_fits (before after : Client) (act : Act) (taken : before.step act = some after) :
    FilterMonotone before act after ↔ FilterFits before act after := by
  cases act with
  | call call =>
    cases taken
    cases call with
    | enableLogs addresses topics => exact enableLogs_grows before.inner addresses topics
    | disableLogs addresses topics => exact disableLogs_shrinks before.inner addresses topics
    | _ => exact Iff.rfl
  | _ => exact Iff.rfl

/-- Filter changes are monotone along a run exactly when each fits the filter that it changes. -/
theorem filterMonotone_iff (keys : SlotKeys) (acts : List Act) :
    Along Client.step FilterMonotone (Client.new keys) acts ↔ Along Client.step FilterFits (Client.new keys) acts :=
  along_iff_of_invariant FilterFits FilterMonotone (fun _ => True)
    (fun before act after taken _ => filterMonotone_iff_fits before after act taken)
    (fun _ _ _ _ _ _ => trivial) (Client.new keys) acts trivial

/-- After everything was asked for, one contract is asked for as well. -/
theorem filterMonotone_narrowed : ¬Along Client.step FilterMonotone (Client.new .firstVersions)
    [.call (.enableLogs [] []),.call (.enableLogs [FixedBytes.filled 20 1] [])] := by
  intro along
  obtain ⟨_,narrowed,_⟩ := along
  have grows := (enableLogs_grows _ _ _).mp narrowed ⟨∅,∅⟩ rfl
  rcases grows.1 rfl with empty | full
  · simp at empty
  · have other := full (FixedBytes.filled 20 2)
    revert other
    decide

end Warpdrive.Trigger.EvmStream
