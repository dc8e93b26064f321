import Warpdrive.Trigger.Registration
import Warpdrive.Trigger.StellarIndex
import Warpdrive.Trigger.Watcher

/-! The indexes of the lookup maps against the registered triggers. In every state of the watcher and of
the maps, whatever the operations returned, an index of Cosmos, EVM or AtProto triggers lists under a key
the registered triggers that have it, and no others. -/
namespace Warpdrive.Trigger

open Warpdrive.Foundation Warpdrive.Types

/-- The place is a key of an index of sets. -/
def Place.Indexed : Place → Prop
  | .cosmos _ => True
  | .evm _ => True
  | .atprotoExact _ => True
  | .atprotoPattern _ => True
  | .stellar => False
  | .block _ => False
  | .cron => False

/-- A trigger that no index of sets keeps. -/
inductive Unindexed : Trigger → Prop
  | stellar (chain : ChainKey) (contractId : String) (topicSegments : List StellarTopicSegment) :
      Unindexed (.stellarContractEvent chain contractId topicSegments)
  | block (chain : ChainKey) (nBlocks : NonZeroU32) (startBlock endBlock : Option NonZeroU64) :
      Unindexed (.blockInterval chain nBlocks startBlock endBlock)
  | cron (schedule : String) (startTime endTime : Option Timestamp) : Unindexed (.cron schedule startTime endTime)
  | manual : Unindexed .manual

theorem Unindexed.elsewhere {trigger : Trigger} (unindexed : Unindexed trigger) (place : Place)
    (indexed : place.Indexed) : placeOf trigger ≠ some place := by
  intro same
  cases unindexed <;> cases same <;> cases indexed

namespace Lookup

variable (cron : CronLib)

/-- The registry and the four indexes are as they were. -/
structure SameIndexes (before after : Lookup) : Prop where
  configs : after.triggerConfigs = before.triggerConfigs
  counter : after.lookupId = before.lookupId
  lists : ∀ place, place.Indexed → ∀ id, after.Lists place id ↔ before.Lists place id

theorem SameIndexes.of_eq {before after : Lookup} (configs : after.triggerConfigs = before.triggerConfigs)
    (counter : after.lookupId = before.lookupId)
    (cosmos : after.triggersByCosmosContractEvent = before.triggersByCosmosContractEvent)
    (evm : after.triggersByEvmContractEvent = before.triggersByEvmContractEvent)
    (exact : after.triggersByAtprotoEventExact = before.triggersByAtprotoEventExact)
    (pattern : after.triggersByAtprotoEventPattern = before.triggersByAtprotoEventPattern) :
    SameIndexes before after where
  configs := configs
  counter := counter
  lists place indexed id := by
    cases place with
    | cosmos key =>
      change after.triggersByCosmosContractEvent.Lists key id ↔ _
      rw [cosmos]
      rfl
    | evm key =>
      change after.triggersByEvmContractEvent.Lists key id ↔ _
      rw [evm]
      rfl
    | atprotoExact key =>
      change after.triggersByAtprotoEventExact.Lists key id ↔ _
      rw [exact]
      rfl
    | atprotoPattern key =>
      change after.triggersByAtprotoEventPattern.Lists key id ↔ _
      rw [pattern]
      rfl
    | stellar => cases indexed
    | block chain => cases indexed
    | cron => cases indexed

/-- What `insertTrigger` does to the indexes, also where it fails. -/
structure IndexInserted (before after : Lookup) (lookupId : LookupId) (trigger : Trigger) : Prop where
  configs : after.triggerConfigs = before.triggerConfigs
  counter : after.lookupId = before.lookupId
  lists : ∀ place, place.Indexed → ∀ id, after.Lists place id ↔
    before.Lists place id ∨ placeOf trigger = some place ∧ id = lookupId

theorem SameIndexes.inserted {before after : Lookup} (same : SameIndexes before after) (lookupId : LookupId)
    (trigger : Trigger) (unindexed : Unindexed trigger) : IndexInserted before after lookupId trigger where
  configs := same.configs
  counter := same.counter
  lists place indexed id := by
    rw [same.lists place indexed]
    simp [unindexed.elsewhere place indexed]

theorem insertTrigger_unindexed (self : Lookup) (lookupId : LookupId) (trigger : Trigger)
    (unindexed : Unindexed trigger) : SameIndexes self (insertTrigger cron self lookupId trigger).1 := by
  cases unindexed with
  | stellar chain contractId topicSegments =>
    simp only [insertTrigger]
    split
    · exact .of_eq rfl rfl rfl rfl rfl rfl
    · split <;> exact .of_eq rfl rfl rfl rfl rfl rfl
  | block chain nBlocks startBlock endBlock =>
    simp only [insertTrigger]
    split <;> exact .of_eq rfl rfl rfl rfl rfl rfl
  | cron schedule startTime endTime =>
    simp only [insertTrigger]
    split
    · exact .of_eq rfl rfl rfl rfl rfl rfl
    · split <;> exact .of_eq rfl rfl rfl rfl rfl rfl
  | manual => exact .of_eq rfl rfl rfl rfl rfl rfl

theorem indexInserted (self : Lookup) (lookupId : LookupId) (trigger : Trigger) :
    IndexInserted self (insertTrigger cron self lookupId trigger).1 lookupId trigger := by
  cases trigger with
  | evmContractEvent address chain eventHash =>
    refine ⟨rfl,rfl,fun place indexed id => ?_⟩
    cases place with
    | evm key =>
      refine (Index.lists_add _ _ _ _ _).trans ?_
      simp [placeOf,Lists,eq_comm,or_comm]
    | _ => simp [placeOf,Lists,insertTrigger]
  | cosmosContractEvent address chain eventType =>
    refine ⟨rfl,rfl,fun place indexed id => ?_⟩
    cases place with
    | cosmos key =>
      refine (Index.lists_add _ _ _ _ _).trans ?_
      simp [placeOf,Lists,eq_comm,or_comm]
    | _ => simp [placeOf,Lists,insertTrigger]
  | stellarContractEvent chain contractId topicSegments =>
    have unindexed : Unindexed _ := .stellar chain contractId topicSegments
    exact (insertTrigger_unindexed cron self lookupId _ unindexed).inserted lookupId _ unindexed
  | blockInterval chain nBlocks startBlock endBlock =>
    have unindexed : Unindexed _ := .block chain nBlocks startBlock endBlock
    exact (insertTrigger_unindexed cron self lookupId _ unindexed).inserted lookupId _ unindexed
  | cron schedule startTime endTime =>
    have unindexed : Unindexed _ := .cron schedule startTime endTime
    exact (insertTrigger_unindexed cron self lookupId _ unindexed).inserted lookupId _ unindexed
  | manual =>
    have unindexed : Unindexed _ := .manual
    exact (insertTrigger_unindexed cron self lookupId _ unindexed).inserted lookupId _ unindexed
  | atProtoEvent collection repoDid action =>
    simp only [insertTrigger]
    by_cases wildcard : isCollectionPattern collection
    · rw [if_pos wildcard]
      refine ⟨rfl,rfl,fun place indexed id => ?_⟩
      cases place with
      | atprotoPattern key =>
        refine (Index.lists_add _ _ _ _ _).trans ?_
        simp [placeOf,wildcard,Lists,eq_comm,or_comm]
      | _ => simp [placeOf,wildcard,Lists]
    · rw [if_neg wildcard]
      refine ⟨rfl,rfl,fun place indexed id => ?_⟩
      cases place with
      | atprotoExact key =>
        refine (Index.lists_add _ _ _ _ _).trans ?_
        simp [placeOf,wildcard,Lists,eq_comm,or_comm]
      | _ => simp [placeOf,wildcard,Lists]

/-- What `removeTrigger` does to the indexes, also where it fails. -/
structure IndexRemoved (before after : Lookup) (lookupId : LookupId) (trigger : Trigger) : Prop where
  configs : after.triggerConfigs = before.triggerConfigs
  counter : after.lookupId = before.lookupId
  lists : ∀ place, place.Indexed → ∀ id, after.Lists place id ↔
    before.Lists place id ∧ ¬(placeOf trigger = some place ∧ id = lookupId)

theorem SameIndexes.removed {before after : Lookup} (same : SameIndexes before after) (lookupId : LookupId)
    (trigger : Trigger) (unindexed : Unindexed trigger) : IndexRemoved before after lookupId trigger where
  configs := same.configs
  counter := same.counter
  lists place indexed id := by
    rw [same.lists place indexed]
    simp [unindexed.elsewhere place indexed]

theorem removeTrigger_unindexed (self : Lookup) (lookupId : LookupId) (trigger : Trigger)
    (unindexed : Unindexed trigger) : SameIndexes self (removeTrigger cron self lookupId trigger).1 := by
  cases unindexed with
  | stellar chain contractId topicSegments =>
    simp only [removeTrigger]
    split
    · exact .of_eq rfl rfl rfl rfl rfl rfl
    · split <;> exact .of_eq rfl rfl rfl rfl rfl rfl
  | block chain nBlocks startBlock endBlock =>
    simp only [removeTrigger]
    split <;> exact .of_eq rfl rfl rfl rfl rfl rfl
  | cron schedule startTime endTime => exact .of_eq rfl rfl rfl rfl rfl rfl
  | manual => exact .of_eq rfl rfl rfl rfl rfl rfl

theorem indexRemoved (self : Lookup) (lookupId : LookupId) (trigger : Trigger) :
    IndexRemoved self (removeTrigger cron self lookupId trigger).1 lookupId trigger := by
  cases trigger with
  | evmContractEvent address chain eventHash =>
    refine ⟨rfl,rfl,fun place indexed id => ?_⟩
    cases place with
    | evm key =>
      refine (Index.lists_drop _ _ _ _ _).trans ?_
      simp [placeOf,Lists,eq_comm]
    | _ => simp [placeOf,Lists,removeTrigger]
  | cosmosContractEvent address chain eventType =>
    refine ⟨rfl,rfl,fun place indexed id => ?_⟩
    cases place with
    | cosmos key =>
      refine (Index.lists_drop _ _ _ _ _).trans ?_
      simp [placeOf,Lists,eq_comm]
    | _ => simp [placeOf,Lists,removeTrigger]
  | stellarContractEvent chain contractId topicSegments =>
    have unindexed : Unindexed _ := .stellar chain contractId topicSegments
    exact (removeTrigger_unindexed cron self lookupId _ unindexed).removed lookupId _ unindexed
  | blockInterval chain nBlocks startBlock endBlock =>
    have unindexed : Unindexed _ := .block chain nBlocks startBlock endBlock
    exact (removeTrigger_unindexed cron self lookupId _ unindexed).removed lookupId _ unindexed
  | cron schedule startTime endTime =>
    have unindexed : Unindexed _ := .cron schedule startTime endTime
    exact (removeTrigger_unindexed cron self lookupId _ unindexed).removed lookupId _ unindexed
  | manual =>
    have unindexed : Unindexed _ := .manual
    exact (removeTrigger_unindexed cron self lookupId _ unindexed).removed lookupId _ unindexed
  | atProtoEvent collection repoDid action =>
    simp only [removeTrigger]
    by_cases wildcard : isCollectionPattern collection
    · rw [if_pos wildcard]
      refine ⟨rfl,rfl,fun place indexed id => ?_⟩
      cases place with
      | atprotoPattern key =>
        refine (Index.lists_drop _ _ _ _ _).trans ?_
        simp [placeOf,wildcard,Lists,eq_comm]
      | _ => simp [placeOf,wildcard,Lists]
    · rw [if_neg wildcard]
      refine ⟨rfl,rfl,fun place indexed id => ?_⟩
      cases place with
      | atprotoExact key =>
        refine (Index.lists_drop _ _ _ _ _).trans ?_
        simp [placeOf,wildcard,Lists,eq_comm]
      | _ => simp [placeOf,wildcard,Lists]

/-- An index lists the registered triggers of each of its keys, and the chain of a registered Stellar
trigger has a client. -/
structure Indexed (maps : Lookup) : Prop where
  placed : ∀ place, place.Indexed → ∀ id, maps.Lists place id ↔
    ∃ config, maps.triggerConfigs.get id = some config ∧ placeOf config.trigger = some place
  client : ∀ id config chain, maps.triggerConfigs.get id = some config →
    stellarChain config.trigger = some chain → maps.stellarControllers.get chain ≠ none
  minted : ∀ id config, maps.triggerConfigs.get id = some config → id < maps.lookupId

theorem Indexed.lists_iff {maps : Lookup} (indexed : Indexed maps) (place : Place) (kind : place.Indexed)
    (id : LookupId) (config : TriggerConfig) (found : maps.triggerConfigs.get id = some config) :
    maps.Lists place id ↔ placeOf config.trigger = some place := by
  rw [indexed.placed place kind id]
  constructor
  · intro held
    obtain ⟨other,again,own⟩ := held
    cases found.symm.trans again
    exact own
  · exact fun own => ⟨config,found,own⟩

theorem indexed_new (controllers : StellarControllers) :
    Indexed {LookupMaps.new with stellarControllers := controllers} where
  placed place indexed id := by
    cases place with
    | stellar => cases indexed
    | block chain => cases indexed
    | cron => cases indexed
    | _ => simp [Lists,LookupMaps.new,Index.not_lists_new]
  client id config chain found := by simp [LookupMaps.new] at found
  minted id config found := by simp [LookupMaps.new] at found

/-- A change that leaves the registry, the indexes and the presence of the clients. -/
theorem Indexed.of_same {before after : Lookup} (indexed : Indexed before) (same : SameIndexes before after)
    (clients : ∀ chain, before.stellarControllers.get chain ≠ none → after.stellarControllers.get chain ≠ none) :
    Indexed after where
  placed place kind id := by
    rw [same.lists place kind,same.configs]
    exact indexed.placed place kind id
  client id config chain found chained := by
    rw [same.configs] at found
    exact clients chain (indexed.client id config chain found chained)
  minted id config found := by
    rw [same.configs] at found
    rw [same.counter]
    exact indexed.minted id config found

theorem indexed_addTrigger (self : Lookup) (config : TriggerConfig) (indexed : Indexed self) :
    Indexed (addTrigger cron self config).1 := by
  have unused : self.triggerConfigs.get self.lookupId = none := by
    by_contra present
    obtain ⟨old,found⟩ := Option.ne_none_iff_exists'.mp present
    exact Nat.lt_irrefl _ (indexed.minted _ old found)
  have inserted := indexInserted cron {self with lookupId := self.lookupId + 1} self.lookupId config.trigger
  have clients : ∀ chain, self.stellarControllers.get chain ≠ none →
      (insertTrigger cron {self with lookupId := self.lookupId + 1} self.lookupId config.trigger).1.stellarControllers.get
        chain ≠ none := fun chain present =>
    (insertTrigger_controllers cron {self with lookupId := self.lookupId + 1} self.lookupId config.trigger
      chain).not.mpr present
  unfold addTrigger
  dsimp only
  rcases outcome : insertTrigger cron {self with lookupId := self.lookupId + 1} self.lookupId config.trigger with
    ⟨next,error | _⟩
  · rw [outcome] at inserted clients
    dsimp only at inserted clients ⊢
    -- A trigger that is refused belongs to no index.
    have elsewhere : ∀ place, place.Indexed → placeOf config.trigger ≠ some place := by
      intro place kind own
      have accepts : Accepts cron {self with lookupId := self.lookupId + 1} config.trigger := by
        cases shaped : config.trigger with
        | stellarContractEvent chain contractId topicSegments =>
          exact absurd own (shaped ▸ (Unindexed.stellar chain contractId topicSegments).elsewhere place kind)
        | blockInterval chain nBlocks startBlock endBlock =>
          exact absurd own (shaped ▸ (Unindexed.block chain nBlocks startBlock endBlock).elsewhere place kind)
        | cron schedule startTime endTime =>
          exact absurd own (shaped ▸ (Unindexed.cron schedule startTime endTime).elsewhere place kind)
        | _ => trivial
      obtain ⟨after,accepted⟩ := insertTrigger_accepts cron _ self.lookupId config.trigger accepts
      cases accepted.symm.trans outcome
    refine ⟨fun place kind id => ?_,?_,?_⟩
    · rw [inserted.lists place kind,inserted.configs]
      simp only [elsewhere place kind,false_and,or_false]
      exact indexed.placed place kind id
    · intro id held chain found chained
      rw [inserted.configs] at found
      exact clients chain (indexed.client id held chain found chained)
    · intro id held found
      rw [inserted.configs] at found
      rw [inserted.counter]
      exact Nat.lt_succ_of_lt (indexed.minted id held found)
  · rw [outcome] at inserted clients
    dsimp only at inserted clients ⊢
    have split : ∀ id held, (next.triggerConfigs.insert self.lookupId config).get id = some held →
        id = self.lookupId ∧ held = config ∨ self.triggerConfigs.get id = some held := by
      intro id held found
      rw [inserted.configs,HashMap.get_insert] at found
      by_cases new : id = self.lookupId
      · rw [if_pos new] at found
        exact .inl ⟨new,(Option.some.inj found).symm⟩
      · rw [if_neg new] at found
        exact .inr found
    refine ⟨fun place kind id => ?_,?_,?_⟩
    · have same : Lists {next with
          triggersByServiceWorkflow := next.triggersByServiceWorkflow.insert config.serviceId
            (((next.triggersByServiceWorkflow.get config.serviceId).getD ⟨[],List.Pairwise.nil⟩).insert
              config.workflowId self.lookupId)
          triggerConfigs := next.triggerConfigs.insert self.lookupId config} place id ↔ next.Lists place id := by
        cases place <;> rfl
      have bumped : Lists {self with lookupId := self.lookupId + 1} place id ↔ self.Lists place id := by
        cases place <;> rfl
      rw [same,inserted.lists place kind,bumped,indexed.placed place kind,inserted.configs]
      simp only [HashMap.get_insert]
      by_cases new : id = self.lookupId
      · simp [new,unused]
      · simp [new]
    · intro id held chain found chained
      rcases split id held found with ⟨_,rfl⟩ | old
      · cases shaped : held.trigger with
        | stellarContractEvent on contractId topicSegments =>
          rw [shaped] at chained
          cases chained
          have accepted := outcome
          rw [shaped] at accepted
          simp only [insertTrigger] at accepted
          split at accepted
          · cases accepted
          · split at accepted
            · cases accepted
            · next controller present =>
              exact clients chain (by
                rw [present]
                simp)
        | _ =>
          rw [shaped] at chained
          cases chained
      · exact clients chain (indexed.client id held chain old chained)
    · intro id held found
      change id < next.lookupId
      rw [inserted.counter]
      rcases split id held found with ⟨rfl,_⟩ | old
      · exact Nat.lt_succ_self _
      · exact Nat.lt_succ_of_lt (indexed.minted id held old)

theorem indexed_addTriggers (configs : List TriggerConfig) (self : Lookup) (indexed : Indexed self) :
    Indexed (addTriggers cron self configs).1 := by
  induction configs generalizing self with
  | nil => exact indexed
  | cons config configs ih =>
    have first := indexed_addTrigger cron self config indexed
    unfold addTriggers
    split
    · next next error result =>
      rw [result] at first
      exact first
    · next next result =>
      rw [result] at first
      exact ih next first

/-- What removing lookup ids leaves of the indexes. -/
structure IndexCleared (before after : Lookup) (ids : List LookupId) : Prop where
  configs : after.triggerConfigs = before.triggerConfigs
  counter : after.lookupId = before.lookupId
  lists : ∀ place, place.Indexed → ∀ id, after.Lists place id ↔ before.Lists place id ∧ id ∉ ids
  clients : ∀ chain, before.stellarControllers.get chain ≠ none → after.stellarControllers.get chain ≠ none

theorem indexCleared_removeLookup (self : Lookup) (lookupId : LookupId)
    (placed : ∀ place, place.Indexed → ∀ id, self.Lists place id →
      ∃ config, self.triggerConfigs.get id = some config ∧ placeOf config.trigger = some place)
    (client : ∀ id config chain, self.triggerConfigs.get id = some config →
      stellarChain config.trigger = some chain → self.stellarControllers.get chain ≠ none) :
    ∃ next, removeLookup cron self lookupId = (next,.ok ()) ∧ IndexCleared self next [lookupId] := by
  unfold removeLookup
  split
  · next missing =>
    refine ⟨self,rfl,rfl,rfl,fun place kind id => ?_,fun _ present => present⟩
    rw [iff_self_and,List.mem_singleton]
    intro listed same
    obtain ⟨config,found,_⟩ := placed place kind id listed
    rw [same,missing] at found
    cases found
  · next config found =>
    obtain ⟨next,result⟩ := removeTrigger_succeeds cron self lookupId config.trigger
      (fun chain chained => client lookupId config chain found chained)
    have removed := indexRemoved cron self lookupId config.trigger
    rw [result] at removed
    refine ⟨next,result,removed.configs,removed.counter,fun place kind id => ?_,
      fun chain present => removeTrigger_clients cron self next lookupId config.trigger chain result present⟩
    rw [removed.lists place kind,List.mem_singleton]
    apply and_congr_right
    intro listed
    by_cases same : id = lookupId
    · obtain ⟨held,again,own⟩ := placed place kind id listed
      rw [same,found] at again
      cases again
      simp [same,own]
    · simp [same]

theorem indexCleared_removeTriggers (ids : List LookupId) (self : Lookup)
    (placed : ∀ place, place.Indexed → ∀ id, self.Lists place id →
      ∃ config, self.triggerConfigs.get id = some config ∧ placeOf config.trigger = some place)
    (client : ∀ id config chain, self.triggerConfigs.get id = some config →
      stellarChain config.trigger = some chain → self.stellarControllers.get chain ≠ none) :
    ∃ next, removeTriggers cron self ids = (next,.ok ()) ∧ IndexCleared self next ids := by
  induction ids generalizing self with
  | nil => exact ⟨self,rfl,rfl,rfl,by simp,fun _ present => present⟩
  | cons id ids ih =>
    obtain ⟨middle,first,cleared⟩ := indexCleared_removeLookup cron self id placed client
    obtain ⟨next,result,others⟩ := ih middle
      (by
        intro place kind other listed
        rw [cleared.configs]
        exact placed place kind other ((cleared.lists place kind other).mp listed).1)
      (by
        intro other config chain found chained
        rw [cleared.configs] at found
        exact cleared.clients chain (client other config chain found chained))
    refine ⟨next,?_,others.configs.trans cleared.configs,others.counter.trans cleared.counter,
      fun place kind other => ?_,
      fun chain present => others.clients chain (cleared.clients chain present)⟩
    · simp only [removeTriggers,first]
      exact result
    · rw [others.lists place kind,cleared.lists place kind]
      simp [and_assoc]

/-- The configurations go with the entries of the indexes. -/
theorem IndexCleared.indexed {before after : Lookup} {ids : List LookupId} (cleared : IndexCleared before after ids)
    (indexed : Indexed before) (final : Lookup) (same : final = {after with
      triggersByServiceWorkflow := final.triggersByServiceWorkflow
      triggerConfigs := final.triggerConfigs})
    (configs : ∀ id, final.triggerConfigs.get id = if id ∈ ids then none else after.triggerConfigs.get id) :
    Indexed final := by
  have kept : ∀ id config, final.triggerConfigs.get id = some config →
      id ∉ ids ∧ before.triggerConfigs.get id = some config := by
    intro id config found
    rw [configs,cleared.configs] at found
    split at found
    · cases found
    · next outside => exact ⟨outside,found⟩
  refine ⟨fun place kind id => ?_,?_,?_⟩
  · have listed : final.Lists place id ↔ after.Lists place id := by
      rw [same]
      cases place <;> rfl
    rw [listed,cleared.lists place kind,indexed.placed place kind]
    constructor
    · intro both
      obtain ⟨⟨config,found,own⟩,outside⟩ := both
      refine ⟨config,?_,own⟩
      rw [configs,if_neg outside,cleared.configs]
      exact found
    · intro held
      obtain ⟨config,found,own⟩ := held
      obtain ⟨outside,old⟩ := kept id config found
      exact ⟨⟨config,old,own⟩,outside⟩
  · intro id config chain found chained
    rw [same]
    exact cleared.clients chain (indexed.client id config chain (kept id config found).2 chained)
  · intro id config found
    rw [same]
    change id < after.lookupId
    rw [cleared.counter]
    exact indexed.minted id config (kept id config found).2

theorem indexed_removeWorkflow (self : Lookup) (serviceId : ServiceId) (workflowId : WorkflowId)
    (indexed : Indexed self) : Indexed (removeWorkflow cron self serviceId workflowId).1 := by
  unfold removeWorkflow
  split
  · exact indexed
  · next workflows _ =>
    split
    · exact indexed
    · next lookupId _ =>
      dsimp only
      have start : Indexed {self with triggersByServiceWorkflow :=
          self.triggersByServiceWorkflow.insert serviceId (workflows.remove workflowId)} :=
        indexed.of_same (.of_eq rfl rfl rfl rfl rfl rfl) (fun _ present => present)
      obtain ⟨next,removed,cleared⟩ := indexCleared_removeLookup cron _ lookupId
        (fun place kind id => (start.placed place kind id).mp) start.client
      rw [removed]
      refine cleared.indexed start _ rfl (fun id => ?_)
      rw [HashMap.get_remove]
      simp

theorem indexed_removeService (self : Lookup) (serviceId : ServiceId) (indexed : Indexed self) :
    Indexed (removeService cron self serviceId).1 := by
  have start : Indexed {self with serviceManager := self.serviceManager.removeByLeft serviceId} :=
    indexed.of_same (.of_eq rfl rfl rfl rfl rfl rfl) (fun _ present => present)
  unfold removeService
  dsimp only
  split
  · exact start
  · next workflows _ =>
    obtain ⟨next,removed,cleared⟩ := indexCleared_removeTriggers cron (workflows.entries.map Prod.snd) _
      (fun place kind id => (start.placed place kind id).mp) start.client
    rw [removed]
    exact cleared.indexed start _ rfl (fun id => get_foldl_remove _ _ id)

theorem indexed_apply (prim : IdPrimitives) (self : Lookup) (op : Op) (indexed : Indexed self) :
    Indexed (op.apply cron prim self).1 := by
  cases op with
  | addService service =>
    apply indexed_addTriggers
    exact indexed.of_same (.of_eq rfl rfl rfl rfl rfl rfl) (fun _ present => present)
  | addTrigger config => exact indexed_addTrigger cron self config indexed
  | removeWorkflow serviceId workflowId => exact indexed_removeWorkflow cron self serviceId workflowId indexed
  | removeService serviceId => exact indexed_removeService cron self serviceId indexed

end Lookup

namespace Watcher

open Lookup

theorem present_insert (controllers : StellarControllers) (on : ChainKey) (controller : StellarStreamController)
    (chain : ChainKey) (present : controllers.get chain ≠ none) : (controllers.insert on controller).get chain ≠ none := by
  rw [HashMap.get_insert]
  split
  · simp
  · exact present

theorem onLocalCommand_clients (lib : EventLib) (connecting : Connecting) (self : Watcher) (command : TriggerCommand)
    (chain : ChainKey) (present : self.lookup.stellarControllers.get chain ≠ none) :
    (self.onLocalCommand lib connecting command).1.lookup.stellarControllers.get chain ≠ none := by
  cases command with
  | startListeningChain on =>
    have begun := started connecting self on
    simp only [onLocalCommand]
    generalize self.startListeningChain connecting on = result at begun ⊢
    obtain ⟨next,_ | _⟩ := result
    · cases begun
      exact present
    · cases begun with
      | stellar config => exact present_insert _ _ _ chain present
      | _ => exact present
  | watchEvmBlocks on =>
    simp only [onLocalCommand,sharing,Manager.callEvm]
    split <;> exact present
  | watchEvmContractEvents on addresses eventHashes =>
    simp only [onLocalCommand,sharing,Manager.callEvm]
    split <;> exact present
  | watchStellarBlocks on =>
    simp only [onLocalCommand,sharing,Manager.watchStellarBlocks]
    split
    · exact present
    · exact present_insert _ _ _ chain present
  | watchStellarServiceUri serviceId on projectRoot =>
    simp only [onLocalCommand,sharing,Manager.watchStellarServiceUri]
    split
    · exact present
    · split
      · exact present
      · exact present_insert _ _ _ chain present
  | unwatchStellarServiceUri serviceId =>
    simp only [onLocalCommand,sharing,Manager.unwatchStellarServiceUri]
    split
    · exact present
    · split
      · exact present
      · exact present_insert _ _ _ chain present
  | _ => exact present

theorem indexed_processBlocks (isActive : ServiceId → Bool) (self : Manager) (chain : ChainKey)
    (blockHeight : UInt64) (indexed : Indexed self.lookup) :
    Indexed (self.processBlocks isActive chain blockHeight).1.lookup := by
  unfold Manager.processBlocks
  split
  · exact indexed
  · split
    · exact indexed
    · exact indexed.of_same (.of_eq rfl rfl rfl rfl rfl rfl) (fun _ present => present)

/-- Every pass of the loop keeps the indexes. -/
theorem indexed_handle (lib : EventLib) (isActive : ServiceId → Bool) (connecting : Connecting) (self : Watcher)
    (item : Except TriggerError StreamTriggers) (indexed : Indexed self.lookup) :
    Indexed (self.handle lib isActive connecting item).1.lookup := by
  cases item with
  | error error => exact indexed
  | ok item =>
    cases item with
    | localCommand command =>
      have same := onLocalCommand_lookupMaps lib connecting self command
      refine indexed.of_same (.of_eq ?_ ?_ ?_ ?_ ?_ ?_) (onLocalCommand_clients lib connecting self command)
      · exact congrArg LookupMaps.triggerConfigs same
      · exact congrArg LookupMaps.lookupId same
      · exact congrArg LookupMaps.triggersByCosmosContractEvent same
      · exact congrArg LookupMaps.triggersByEvmContractEvent same
      · exact congrArg LookupMaps.triggersByAtprotoEventExact same
      · exact congrArg LookupMaps.triggersByAtprotoEventPattern same
    | evm event =>
      simp only [handle]
      split <;> exact indexed
    | cosmos chain contractEvents blockHeight => exact indexed_processBlocks isActive _ chain blockHeight indexed
    | evmBlock chain blockHeight => exact indexed_processBlocks isActive _ chain blockHeight indexed
    | stellarLedgerSequence chain ledger =>
      exact indexed_processBlocks isActive _ chain ledger.toUInt64 indexed
    | _ => exact indexed

/-- An operation on the lookup maps, or a pass of the loop. -/
inductive Turn
  | change (op : Op)
  | arrive (isActive : ServiceId → Bool) (connecting : Connecting) (item : Except TriggerError StreamTriggers)

variable (cron : CronLib) (prim : IdPrimitives) (lib : EventLib)

def turn (self : Watcher) : Turn → Watcher
  | .change op => self.sharing {self.toManager with lookup := (op.apply cron prim self.lookup).1}
  | .arrive isActive connecting item => (self.handle lib isActive connecting item).1

/-- The watcher after any turns, also those that return an error. -/
def turns (self : Watcher) (acts : List Turn) : Watcher := acts.foldl (turn cron prim lib) self

theorem indexed_turns (self : Watcher) (acts : List Turn) (indexed : Indexed self.lookup) :
    Indexed (self.turns cron prim lib acts).lookup := by
  induction acts generalizing self with
  | nil => exact indexed
  | cons act acts ih =>
    apply ih
    cases act with
    | change op => exact indexed_apply cron prim self.lookup op indexed
    | arrive isActive connecting item => exact indexed_handle lib isActive connecting self item indexed

theorem indexed_run (chainConfigs : ChainConfigs) (disableNetworking : Bool) (acts : List Turn) :
    Indexed ((Manager.new chainConfigs disableNetworking).watch.turns cron prim lib acts).lookup :=
  indexed_turns cron prim lib _ acts (indexed_new .new)

end Watcher
end Warpdrive.Trigger
