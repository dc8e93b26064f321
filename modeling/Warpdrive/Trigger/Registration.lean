import Warpdrive.Trigger.Places

/-! What `add_service` and `remove_service` of the lookup maps do to the places of the
triggers, also where they fail halfway, and the triggers that are accepted. -/
namespace Warpdrive.Trigger.Lookup

open Warpdrive.Foundation Warpdrive.Types

variable (cron : CronLib)

/-- A trigger adds to its own place only, whether it is accepted or not. -/
theorem lists_insertTrigger (self : Lookup) (lookupId : LookupId) (trigger : Trigger) (place : Place)
    (id : LookupId) (listed : (insertTrigger cron self lookupId trigger).1.Lists place id) :
    self.Lists place id ∨ placeOf trigger = some place := by
  cases trigger with
  | manual => exact .inl listed
  | evmContractEvent address chain eventHash =>
    cases place with
    | evm key =>
      rcases (Index.lists_add _ _ _ _ _).mp listed with ⟨rfl,_⟩ | old
      · exact .inr rfl
      · exact .inl old
    | _ => exact .inl listed
  | cosmosContractEvent address chain eventType =>
    cases place with
    | cosmos key =>
      rcases (Index.lists_add _ _ _ _ _).mp listed with ⟨rfl,_⟩ | old
      · exact .inr rfl
      · exact .inl old
    | _ => exact .inl listed
  | stellarContractEvent chain contractId topicSegments =>
    cases place with
    | stellar => exact .inr rfl
    | _ =>
      left
      simp only [insertTrigger] at listed
      split at listed
      · exact listed
      · split at listed <;> exact listed
  | atProtoEvent collection repoDid action =>
    simp only [insertTrigger] at listed
    split at listed
    · next wildcard =>
      cases place with
      | atprotoPattern key =>
        rcases (Index.lists_add _ _ _ _ _).mp listed with ⟨rfl,_⟩ | old
        · exact .inr (by simp [placeOf,wildcard])
        · exact .inl old
      | _ => exact .inl listed
    · next wildcard =>
      cases place with
      | atprotoExact key =>
        rcases (Index.lists_add _ _ _ _ _).mp listed with ⟨rfl,_⟩ | old
        · exact .inr (by simp [placeOf,wildcard])
        · exact .inl old
      | _ => exact .inl listed
  | cron schedule startTime endTime =>
    cases place with
    | cron => exact .inr rfl
    | _ =>
      left
      simp only [insertTrigger] at listed
      split at listed
      · exact listed
      · split at listed <;> exact listed
  | blockInterval chain nBlocks startBlock endBlock =>
    by_cases own : place = .block chain
    · exact .inr (by rw [own]; rfl)
    · left
      simp only [insertTrigger] at listed
      cases place with
      | block other =>
        have apart : other ≠ chain := fun same => own (by rw [same])
        split at listed <;>
          simpa [Lists,HashMap.get_insert_ne _ _ _ _ apart] using listed
      | _ => split at listed <;> exact listed

theorem lists_addTriggers (configs : List TriggerConfig) (self : Lookup) (place : Place) (id : LookupId)
    (listed : (addTriggers cron self configs).1.Lists place id) :
    self.Lists place id ∨ ∃ config ∈ configs, placeOf config.trigger = some place := by
  induction configs generalizing self with
  | nil => exact .inl listed
  | cons config configs ih =>
    have inserted := lists_insertTrigger cron {self with lookupId := self.lookupId + 1} self.lookupId
      config.trigger place id
    simp only [addTriggers,addTrigger] at listed
    rcases result : insertTrigger cron {self with lookupId := self.lookupId + 1} self.lookupId config.trigger
      with ⟨next,_ | _⟩
    · simp only [result] at listed inserted
      rcases inserted listed with old | own
      · exact .inl (by cases place <;> exact old)
      · exact .inr ⟨config,List.mem_cons_self,own⟩
    · simp only [result] at listed inserted
      rcases ih _ listed with before | ⟨other,member,own⟩
      · rcases inserted (by cases place <;> exact before) with old | own
        · exact .inl (by cases place <;> exact old)
        · exact .inr ⟨config,List.mem_cons_self,own⟩
      · exact .inr ⟨other,List.mem_cons_of_mem config member,own⟩

/-- What a service adds is in the places of its triggers. -/
theorem lists_addService (prim : IdPrimitives) (self : Lookup) (service : Service) (place : Place)
    (id : LookupId) (listed : (addService cron prim self service).1.Lists place id) :
    self.Lists place id ∨ ∃ entry ∈ service.workflows.entries, placeOf entry.2.trigger = some place := by
  unfold addService at listed
  rcases lists_addTriggers cron _ _ place id listed with old | ⟨config,member,own⟩
  · exact .inl (by cases place <;> exact old)
  · obtain ⟨entry,inside,rfl⟩ := List.mem_map.mp member
    exact .inr ⟨entry,inside,own⟩

theorem lists_removeTrigger (self : Lookup) (lookupId : LookupId) (trigger : Trigger) (place : Place)
    (id : LookupId) (listed : (removeTrigger cron self lookupId trigger).1.Lists place id) :
    self.Lists place id := by
  cases trigger with
  | manual => exact listed
  | evmContractEvent address chain eventHash =>
    cases place with
    | evm key => exact ((Index.lists_drop _ _ _ _ _).mp listed).1
    | _ => exact listed
  | cosmosContractEvent address chain eventType =>
    cases place with
    | cosmos key => exact ((Index.lists_drop _ _ _ _ _).mp listed).1
    | _ => exact listed
  | stellarContractEvent chain contractId topicSegments =>
    simp only [removeTrigger] at listed
    split at listed
    · exact listed
    · cases place with
      | stellar =>
        split at listed
        all_goals
          obtain ⟨rpcId,related⟩ := listed
          exact ⟨rpcId,((BiMap.relates_removeByRight _ _ _ _).mp related).2⟩
      | _ => split at listed <;> exact listed
  | atProtoEvent collection repoDid action =>
    simp only [removeTrigger] at listed
    split at listed
    · cases place with
      | atprotoPattern key => exact ((Index.lists_drop _ _ _ _ _).mp listed).1
      | _ => exact listed
    · cases place with
      | atprotoExact key => exact ((Index.lists_drop _ _ _ _ _).mp listed).1
      | _ => exact listed
  | cron schedule startTime endTime =>
    cases place with
    | cron => exact ((HashSet.mem_remove _ _ _).mp listed).2
    | _ => exact listed
  | blockInterval chain nBlocks startBlock endBlock =>
    simp only [removeTrigger] at listed
    split at listed
    · exact listed
    · next scheduler found =>
      cases place with
      | block other =>
        obtain ⟨after,present,member⟩ := listed
        simp only [HashMap.get_insert] at present
        split at present
        · next same =>
          cases present
          exact ⟨scheduler,by rw [same,found],((HashSet.mem_remove _ _ _).mp member).2⟩
        · exact ⟨after,present,member⟩
      | _ => exact listed

theorem lists_removeTriggers (lookupIds : List LookupId) (self : Lookup) (place : Place) (id : LookupId)
    (listed : (removeTriggers cron self lookupIds).1.Lists place id) : self.Lists place id := by
  induction lookupIds generalizing self with
  | nil => exact listed
  | cons lookupId lookupIds ih =>
    have removed : (removeLookup cron self lookupId).1.Lists place id → self.Lists place id := by
      unfold removeLookup
      split
      · exact fun same => same
      · exact lists_removeTrigger cron self lookupId _ place id
    simp only [removeTriggers] at listed
    rcases result : removeLookup cron self lookupId with ⟨next,_ | _⟩
    · simp only [result] at listed removed
      exact removed listed
    · simp only [result] at listed removed
      exact removed (ih next listed)

/-- Removing a service lists nothing anew. -/
theorem lists_removeService (self : Lookup) (serviceId : ServiceId) (place : Place) (id : LookupId)
    (listed : (removeService cron self serviceId).1.Lists place id) : self.Lists place id := by
  simp only [removeService] at listed
  split at listed
  · cases place <;> exact listed
  · next workflows _ =>
    have removed := lists_removeTriggers cron (workflows.entries.map Prod.snd)
      {self with serviceManager := self.serviceManager.removeByLeft serviceId} place id
    split at listed
    · next result =>
      rw [result] at removed
      cases place <;> exact removed listed
    · next result =>
      rw [result] at removed
      cases place <;> exact removed (by exact listed)

/-- The trigger's expression parses, its interval does not end before it starts, and a
Stellar trigger has no trailing wildcard and finds its controller. -/
def Accepts (self : Lookup) : Trigger → Prop
  | .stellarContractEvent chain _ topicSegments =>
    .restWildcard ∉ topicSegments ∧ self.stellarControllers.get chain ≠ none
  | .blockInterval _ _ startBlock endBlock =>
    ∀ start stop, startBlock = some start → endBlock = some stop → start.val ≤ stop.val
  | .cron schedule startTime endTime => cron.parse schedule = .ok () ∧
    ∀ start stop, startTime = some start → endTime = some stop → ¬stop < start
  | _ => True

instance (self : Lookup) (trigger : Trigger) : Decidable (self.Accepts cron trigger) :=
  match trigger with
  | .stellarContractEvent _ _ _ => inferInstanceAs (Decidable (_ ∧ _))
  | .blockInterval _ _ (some start) (some stop) =>
    decidable_of_iff (start.val ≤ stop.val) (by simp [Accepts])
  | .blockInterval _ _ none _ => .isTrue (by simp [Accepts])
  | .blockInterval _ _ (some _) none => .isTrue (by simp [Accepts])
  | .cron schedule (some start) (some stop) =>
    decidable_of_iff (cron.parse schedule = .ok () ∧ ¬stop < start) (by simp [Accepts])
  | .cron schedule none _ => decidable_of_iff (cron.parse schedule = .ok ()) (by simp [Accepts])
  | .cron schedule (some _) none => decidable_of_iff (cron.parse schedule = .ok ()) (by simp [Accepts])
  | .cosmosContractEvent _ _ _ => .isTrue trivial
  | .evmContractEvent _ _ _ => .isTrue trivial
  | .atProtoEvent _ _ _ => .isTrue trivial
  | .manual => .isTrue trivial

theorem filter_ok (contractId : String) (topicSegments : List StellarTopicSegment)
    (plain : .restWildcard ∉ topicSegments) :
    ∃ filter, StellarEventFilter.new contractId topicSegments = .ok filter := by
  have encoded : ∃ texts, topicSegments.mapM StellarEventFilter.encodeTopicSegment = .ok texts := by
    induction topicSegments with
    | nil => exact ⟨[],rfl⟩
    | cons segment segments ih =>
      obtain ⟨texts,rest⟩ := ih (fun member => plain (List.mem_cons_of_mem segment member))
      cases segment with
      | restWildcard => exact absurd List.mem_cons_self plain
      | exact value => exact ⟨_,by rw [List.mapM_cons,rest]; rfl⟩
      | wildcard => exact ⟨_,by rw [List.mapM_cons,rest]; rfl⟩
  obtain ⟨texts,encoded⟩ := encoded
  exact ⟨⟨contractId,texts⟩,by simp [StellarEventFilter.new,encoded]⟩

theorem addTrigger_ok_of {T S : Type} [LT T] [DecidableLT T] (interval : IntervalState T S)
    (scheduler : IntervalScheduler T S) (state : S)
    (proper : IntervalScheduler.startsAfterEnd interval state = false) :
    ∃ result, scheduler.addTrigger interval state = .ok result := by
  unfold IntervalScheduler.addTrigger
  rw [proper]
  split
  · next impossible => cases impossible
  · split <;> exact ⟨_,rfl⟩

theorem insertTrigger_accepts (self : Lookup) (lookupId : LookupId) (trigger : Trigger)
    (accepts : self.Accepts cron trigger) : ∃ next, insertTrigger cron self lookupId trigger = (next,.ok ()) := by
  cases trigger with
  | stellarContractEvent chain contractId topicSegments =>
    obtain ⟨filter,made⟩ := filter_ok contractId topicSegments accepts.1
    obtain ⟨controller,found⟩ := Option.ne_none_iff_exists'.mp accepts.2
    simp only [insertTrigger,made,found]
    exact ⟨_,rfl⟩
  | blockInterval chain nBlocks startBlock endBlock =>
    have proper : IntervalScheduler.startsAfterEnd blockInterval
        (.new lookupId nBlocks (startBlock.map .mk) (endBlock.map .mk)) = false := by
      unfold IntervalScheduler.startsAfterEnd
      cases startBlock with
      | none => rfl
      | some start =>
        cases endBlock with
        | none => rfl
        | some stop =>
          have ordered := UInt64.le_iff_toNat_le.mp (accepts start stop rfl rfl)
          exact decide_eq_false (Nat.not_lt.mpr ordered)
    obtain ⟨⟨added,scheduler⟩,scheduled⟩ := addTrigger_ok_of blockInterval
      ((self.blockSchedulers.get chain).getD .new) _ proper
    simp only [insertTrigger,scheduled]
    exact ⟨_,rfl⟩
  | cron schedule startTime endTime =>
    have proper : IntervalScheduler.startsAfterEnd (cronInterval cron)
        (.new lookupId schedule startTime endTime) = false := by
      unfold IntervalScheduler.startsAfterEnd
      cases startTime with
      | none => rfl
      | some start =>
        cases endTime with
        | none => rfl
        | some stop => exact decide_eq_false (accepts.2 start stop rfl rfl)
    obtain ⟨⟨added,scheduler⟩,scheduled⟩ := addTrigger_ok_of (cronInterval cron) self.cronScheduler _ proper
    simp only [insertTrigger,accepts.1,scheduled]
    exact ⟨_,rfl⟩
  | atProtoEvent collection repoDid action =>
    simp only [insertTrigger]
    split <;> exact ⟨_,rfl⟩
  | _ => exact ⟨_,rfl⟩

/-- Inserting a trigger removes no controller. -/
theorem insertTrigger_controllers (self : Lookup) (lookupId : LookupId) (trigger : Trigger) (chain : ChainKey) :
    (insertTrigger cron self lookupId trigger).1.stellarControllers.get chain = none ↔
      self.stellarControllers.get chain = none := by
  cases trigger with
  | stellarContractEvent on contractId topicSegments =>
    simp only [insertTrigger]
    split
    · exact Iff.rfl
    · split
      · exact Iff.rfl
      · next controller found =>
        simp only [StellarControllers.updateEventFilters,HashMap.get_insert]
        split
        · next same => simp [same,found]
        · exact Iff.rfl
  | blockInterval on nBlocks startBlock endBlock =>
    simp only [insertTrigger]
    split <;> exact Iff.rfl
  | cron schedule startTime endTime =>
    simp only [insertTrigger]
    split
    · exact Iff.rfl
    · split <;> exact Iff.rfl
  | atProtoEvent collection repoDid action =>
    simp only [insertTrigger]
    split <;> exact Iff.rfl
  | _ => exact Iff.rfl

theorem Accepts.of_controllers {self next : Lookup} {trigger : Trigger} (accepts : self.Accepts cron trigger)
    (controllers : ∀ chain, self.stellarControllers.get chain ≠ none → next.stellarControllers.get chain ≠ none) :
    next.Accepts cron trigger := by
  cases trigger with
  | stellarContractEvent chain contractId topicSegments => exact ⟨accepts.1,controllers chain accepts.2⟩
  | _ => exact accepts

theorem addTriggers_accepts (configs : List TriggerConfig) (self : Lookup)
    (accepts : ∀ config ∈ configs, self.Accepts cron config.trigger) :
    ∃ next, addTriggers cron self configs = (next,.ok ()) := by
  induction configs generalizing self with
  | nil => exact ⟨self,rfl⟩
  | cons config configs ih =>
    have first : Accepts cron {self with lookupId := self.lookupId + 1} config.trigger :=
      (accepts config List.mem_cons_self).of_controllers cron (fun _ present => present)
    obtain ⟨next,inserted⟩ := insertTrigger_accepts cron _ self.lookupId config.trigger first
    have kept : ∀ chain, self.stellarControllers.get chain ≠ none → next.stellarControllers.get chain ≠ none := by
      intro chain present
      have same := insertTrigger_controllers cron {self with lookupId := self.lookupId + 1} self.lookupId
        config.trigger chain
      rw [inserted] at same
      exact same.not.mpr present
    simp only [addTriggers,addTrigger,inserted]
    apply ih
    intro other member
    exact (accepts other (List.mem_cons_of_mem config member)).of_controllers cron kept

/-- A service whose triggers are all accepted is added. -/
theorem addService_accepts (prim : IdPrimitives) (self : Lookup) (service : Service)
    (accepts : ∀ entry ∈ service.workflows.entries, self.Accepts cron entry.2.trigger) :
    ∃ next, addService cron prim self service = (next,.ok ()) := by
  unfold addService
  apply addTriggers_accepts
  intro config member
  obtain ⟨entry,inside,rfl⟩ := List.mem_map.mp member
  exact (accepts entry inside).of_controllers cron (fun _ present => present)

end Warpdrive.Trigger.Lookup
