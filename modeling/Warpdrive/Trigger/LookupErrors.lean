import Warpdrive.Trigger.CronTriggers
import Warpdrive.Trigger.Indexed

/-! What an operation on the lookup maps leaves behind when it fails. A refused trigger leaves nothing but, for
block intervals, the scheduler its arm made before the check. A service that fails at a later workflow leaves
its manager and the workflows before it registered, and a removal that misses its Stellar client has already
taken its entries out. -/
namespace Warpdrive.Trigger.Lookup

open Warpdrive.Foundation Warpdrive.Types

/-- Every map, every scheduler and the filters of every Stellar client, the lookup id counter aside. -/
structure SameMaps (before after : Lookup) : Prop where
  triggerConfigs : ∀ id, after.triggerConfigs.get id = before.triggerConfigs.get id
  cosmos : ∀ key, after.triggersByCosmosContractEvent.get key = before.triggersByCosmosContractEvent.get key
  evm : ∀ key, after.triggersByEvmContractEvent.get key = before.triggersByEvmContractEvent.get key
  stellar : ∀ rpcId id, after.triggersByStellarContractEvent.Relates rpcId id ↔
    before.triggersByStellarContractEvent.Relates rpcId id
  atprotoExact : ∀ key, after.triggersByAtprotoEventExact.get key = before.triggersByAtprotoEventExact.get key
  atprotoPattern : ∀ key, after.triggersByAtprotoEventPattern.get key = before.triggersByAtprotoEventPattern.get key
  serviceManager : ∀ id address, after.serviceManager.Relates id address ↔ before.serviceManager.Relates id address
  blockSchedulers : ∀ chain, after.blockSchedulers.get chain = before.blockSchedulers.get chain
  serviceWorkflow : ∀ id, after.triggersByServiceWorkflow.get id = before.triggersByServiceWorkflow.get id
  cronScheduler : after.cronScheduler = before.cronScheduler
  controllers : ∀ chain, after.stellarControllers.get chain = before.stellarControllers.get chain

theorem SameMaps.refl (self : Lookup) : SameMaps self self where
  triggerConfigs _ := rfl
  cosmos _ := rfl
  evm _ := rfl
  stellar _ _ := Iff.rfl
  atprotoExact _ := rfl
  atprotoPattern _ := rfl
  serviceManager _ _ := Iff.rfl
  blockSchedulers _ := rfl
  serviceWorkflow _ := rfl
  cronScheduler := rfl
  controllers _ := rfl

variable (cron : CronLib)

/-- A block trigger is for a chain that has a scheduler. -/
def Scheduled (self : Lookup) : Trigger → Prop
  | .blockInterval chain _ _ _ => self.blockSchedulers.get chain ≠ none
  | _ => True

instance (self : Lookup) (trigger : Trigger) : Decidable (self.Scheduled trigger) :=
  match trigger with
  | .blockInterval chain _ _ _ =>
    decidable_of_iff ((self.blockSchedulers.get chain).isSome = true) (by simp [Scheduled,Option.isSome_iff_ne_none])
  | .stellarContractEvent _ _ _ => .isTrue trivial
  | .cron _ _ _ => .isTrue trivial
  | .cosmosContractEvent _ _ _ => .isTrue trivial
  | .evmContractEvent _ _ _ => .isTrue trivial
  | .atProtoEvent _ _ _ => .isTrue trivial
  | .manual => .isTrue trivial

/-- The scheduler that the block arm makes before it checks the trigger. -/
def withScheduler (self : Lookup) : Trigger → Lookup
  | .blockInterval chain _ _ _ =>
    {self with blockSchedulers :=
      self.blockSchedulers.insert chain ((self.blockSchedulers.get chain).getD .new)}
  | _ => self

theorem withScheduler_same (self : Lookup) (trigger : Trigger) :
    SameMaps self (self.withScheduler trigger) ↔ self.Scheduled trigger := by
  cases trigger with
  | blockInterval chain nBlocks startBlock endBlock =>
    constructor
    · intro same absent
      have kept := same.blockSchedulers chain
      simp only [withScheduler,HashMap.get_insert_self] at kept
      rw [absent] at kept
      cases kept
    · intro scheduled
      obtain ⟨scheduler,found⟩ := Option.ne_none_iff_exists'.mp scheduled
      refine {SameMaps.refl self with blockSchedulers := ?_}
      intro on
      simp only [withScheduler,HashMap.get_insert]
      by_cases same : on = chain
      · rw [if_pos same,same,found]
        rfl
      · rw [if_neg same]
  | _ => exact ⟨fun _ => trivial,fun _ => SameMaps.refl self⟩

theorem filter_plain (contractId : String) (topicSegments : List StellarTopicSegment) (filter : StellarEventFilter)
    (made : StellarEventFilter.new contractId topicSegments = .ok filter) : .restWildcard ∉ topicSegments := by
  intro member
  have refused : ∃ error, topicSegments.mapM StellarEventFilter.encodeTopicSegment = .error error := by
    clear made
    induction topicSegments with
    | nil => cases member
    | cons segment segments ih =>
      rw [List.mapM_cons]
      cases segment with
      | restWildcard => exact ⟨_,rfl⟩
      | _ =>
        have rest : .restWildcard ∈ segments := by simpa using member
        obtain ⟨error,failed⟩ := ih rest
        rw [failed]
        exact ⟨error,rfl⟩
  obtain ⟨error,failed⟩ := refused
  simp [StellarEventFilter.new,failed] at made

theorem addTrigger_proper {T S : Type} [LT T] [DecidableLT T] (interval : IntervalState T S)
    (scheduler : IntervalScheduler T S) (state : S) (result : Bool × IntervalScheduler T S)
    (added : scheduler.addTrigger interval state = .ok result) :
    IntervalScheduler.startsAfterEnd interval state = false := by
  unfold IntervalScheduler.addTrigger at added
  split at added
  · cases added
  · next proper => simpa using proper

theorem accepts_of_inserted (self next : Lookup) (lookupId : LookupId) (trigger : Trigger)
    (inserted : insertTrigger cron self lookupId trigger = (next,.ok ())) : self.Accepts cron trigger := by
  cases trigger with
  | stellarContractEvent chain contractId topicSegments =>
    simp only [insertTrigger] at inserted
    split at inserted
    · cases inserted
    · next filter made =>
      split at inserted
      · cases inserted
      · next controller found =>
        refine ⟨filter_plain contractId topicSegments filter made,?_⟩
        simp [found]
  | blockInterval chain nBlocks startBlock endBlock =>
    simp only [insertTrigger] at inserted
    split at inserted
    · cases inserted
    · next added scheduler scheduled =>
      have proper := addTrigger_proper _ _ _ _ scheduled
      intro start stop first last
      subst first last
      have ordered := of_decide_eq_false proper
      exact UInt64.le_iff_toNat_le.mpr (Nat.not_lt.mp ordered)
  | cron schedule startTime endTime =>
    simp only [insertTrigger] at inserted
    split at inserted
    · cases inserted
    · next parsed =>
      split at inserted
      · cases inserted
      · next added scheduler scheduled =>
        have proper := addTrigger_proper _ _ _ _ scheduled
        refine ⟨parsed,?_⟩
        intro start stop first last
        subst first last
        exact of_decide_eq_false proper
  | _ => trivial

/-- A refused trigger leaves no more than the scheduler of its chain. -/
theorem insertTrigger_refused (self next : Lookup) (lookupId : LookupId) (trigger : Trigger) (error : TriggerError)
    (refused : insertTrigger cron self lookupId trigger = (next,.error error)) : next = self.withScheduler trigger := by
  cases trigger with
  | stellarContractEvent chain contractId topicSegments =>
    simp only [insertTrigger] at refused
    split at refused
    · cases refused
      rfl
    · split at refused
      · cases refused
        rfl
      · cases refused
  | blockInterval chain nBlocks startBlock endBlock =>
    simp only [insertTrigger] at refused
    split at refused
    · cases refused
      rfl
    · cases refused
  | cron schedule startTime endTime =>
    simp only [insertTrigger] at refused
    split at refused
    · cases refused
      rfl
    · split at refused
      · cases refused
        rfl
      · cases refused
  | atProtoEvent collection repoDid action =>
    simp only [insertTrigger] at refused
    split at refused <;> cases refused
  | _ => cases refused

theorem addTrigger_refused (self next : Lookup) (config : TriggerConfig) (error : TriggerError)
    (refused : addTrigger cron self config = (next,.error error)) :
    next = {self.withScheduler config.trigger with lookupId := self.lookupId + 1} := by
  unfold addTrigger at refused
  dsimp only at refused
  split at refused
  · next reached reason outcome =>
    cases refused
    rw [insertTrigger_refused cron _ _ _ _ _ outcome]
    cases config.trigger <;> rfl
  · cases refused

theorem addTrigger_inserted (self next : Lookup) (config : TriggerConfig)
    (added : addTrigger cron self config = (next,.ok ())) :
    self.Accepts cron config.trigger ∧ next.lookupId = self.lookupId + 1 ∧
      ∀ id, next.triggerConfigs.get id = if id = self.lookupId then some config else self.triggerConfigs.get id := by
  have inserted := indexInserted cron {self with lookupId := self.lookupId + 1} self.lookupId config.trigger
  unfold addTrigger at added
  dsimp only at added
  split at added
  · cases added
  · next reached outcome =>
    rw [outcome] at inserted
    cases added
    have accepts := accepts_of_inserted cron _ _ _ _ outcome
    refine ⟨accepts.of_controllers cron (fun _ present => present),inserted.counter,fun id => ?_⟩
    rw [HashMap.get_insert,inserted.configs]

theorem addTriggers_older (configs : List TriggerConfig) (self : Lookup) (id : LookupId) (older : id < self.lookupId) :
    (addTriggers cron self configs).1.triggerConfigs.get id = self.triggerConfigs.get id := by
  induction configs generalizing self with
  | nil => rfl
  | cons config configs ih =>
    unfold addTriggers
    split
    · next next error result =>
      rw [addTrigger_refused cron self next config error result]
      cases config.trigger <;> rfl
    · next next result =>
      obtain ⟨_,counter,registered⟩ := addTrigger_inserted cron self next config result
      have bumped : id < next.lookupId := by
        rw [counter]
        exact Nat.lt_succ_of_lt older
      rw [ih next bumped,registered,if_neg (Nat.ne_of_lt older)]

/-- The lookup ids of the registered triggers were minted. -/
def Counted (self : LookupMaps) : Prop :=
  ∀ id config, self.triggerConfigs.get id = some config → id < self.lookupId

theorem Counted.unused {self : LookupMaps} (counted : Counted self) : self.triggerConfigs.get self.lookupId = none := by
  by_contra present
  obtain ⟨config,found⟩ := Option.ne_none_iff_exists'.mp present
  exact Nat.lt_irrefl _ (counted _ config found)

theorem Counted.mono {before after : LookupMaps} (counted : Counted before) (counter : after.lookupId = before.lookupId)
    (configs : ∀ id config, after.triggerConfigs.get id = some config → before.triggerConfigs.get id = some config) :
    Counted after := by
  intro id config found
  rw [counter]
  exact counted id config (configs id config found)

theorem counted_addTrigger (self : Lookup) (config : TriggerConfig) (counted : Counted self.toLookupMaps) :
    Counted (addTrigger cron self config).1.toLookupMaps := by
  rcases outcome : addTrigger cron self config with ⟨next,error | _⟩
  · rw [addTrigger_refused cron self next config error outcome]
    intro id held found
    refine Nat.lt_succ_of_lt (counted id held ?_)
    cases shaped : config.trigger <;> rw [shaped] at found <;> exact found
  · obtain ⟨_,counter,registered⟩ := addTrigger_inserted cron self next config outcome
    intro id held found
    change id < next.lookupId
    rw [counter]
    rw [registered] at found
    split at found
    · next same => exact same ▸ Nat.lt_succ_self _
    · exact Nat.lt_succ_of_lt (counted id held found)

theorem counted_addTriggers (configs : List TriggerConfig) (self : Lookup) (counted : Counted self.toLookupMaps) :
    Counted (addTriggers cron self configs).1.toLookupMaps := by
  induction configs generalizing self with
  | nil => exact counted
  | cons config configs ih =>
    have first := counted_addTrigger cron self config counted
    unfold addTriggers
    split
    · next next error result =>
      rw [result] at first
      exact first
    · next next result =>
      rw [result] at first
      exact ih next first

theorem removeLookup_registry (self : Lookup) (lookupId : LookupId) :
    (removeLookup cron self lookupId).1.triggerConfigs = self.triggerConfigs ∧
      (removeLookup cron self lookupId).1.lookupId = self.lookupId := by
  unfold removeLookup
  split
  · exact ⟨rfl,rfl⟩
  · next config _ =>
    have removed := indexRemoved cron self lookupId config.trigger
    exact ⟨removed.configs,removed.counter⟩

theorem removeTriggers_registry (ids : List LookupId) (self : Lookup) :
    (removeTriggers cron self ids).1.triggerConfigs = self.triggerConfigs ∧
      (removeTriggers cron self ids).1.lookupId = self.lookupId := by
  induction ids generalizing self with
  | nil => exact ⟨rfl,rfl⟩
  | cons id ids ih =>
    have first := removeLookup_registry cron self id
    unfold removeTriggers
    split
    · next next error result =>
      rw [result] at first
      exact first
    · next next result =>
      rw [result] at first
      exact ⟨(ih next).1.trans first.1,(ih next).2.trans first.2⟩

theorem counted_removeWorkflow (self : Lookup) (serviceId : ServiceId) (workflowId : WorkflowId)
    (counted : Counted self.toLookupMaps) :
    Counted (removeWorkflow cron self serviceId workflowId).1.toLookupMaps := by
  unfold removeWorkflow
  split
  · exact counted
  · next workflows _ =>
    split
    · exact counted
    · next lookupId _ =>
      dsimp only
      have kept := removeLookup_registry cron
        {self with triggersByServiceWorkflow :=
          self.triggersByServiceWorkflow.insert serviceId (workflows.remove workflowId)} lookupId
      split
      · next next error result =>
        rw [result] at kept
        exact counted.mono kept.2 (fun id config found => kept.1 ▸ found)
      · next next result =>
        rw [result] at kept
        refine counted.mono kept.2 ?_
        intro id config found
        simp only [HashMap.get_remove] at found
        split at found
        · cases found
        · exact kept.1 ▸ found

theorem counted_removeService (self : Lookup) (serviceId : ServiceId) (counted : Counted self.toLookupMaps) :
    Counted (removeService cron self serviceId).1.toLookupMaps := by
  unfold removeService
  dsimp only
  split
  · exact counted
  · next workflows _ =>
    have kept := removeTriggers_registry cron (workflows.entries.map Prod.snd)
      {self with serviceManager := self.serviceManager.removeByLeft serviceId}
    split
    · next next error result =>
      rw [result] at kept
      exact counted.mono kept.2 (fun id config found => kept.1 ▸ found)
    · next next result =>
      rw [result] at kept
      refine counted.mono kept.2 ?_
      intro id config found
      simp only [get_foldl_remove] at found
      split at found
      · cases found
      · exact kept.1 ▸ found

theorem counted_apply (prim : IdPrimitives) (self : Lookup) (op : Op) (counted : Counted self.toLookupMaps) :
    Counted (op.apply cron prim self).1.toLookupMaps := by
  cases op with
  | addService service =>
    apply counted_addTriggers
    exact counted
  | addTrigger config => exact counted_addTrigger cron self config counted
  | removeWorkflow serviceId workflowId => exact counted_removeWorkflow cron self serviceId workflowId counted
  | removeService serviceId => exact counted_removeService cron self serviceId counted

/-- Removing adds nothing to the Stellar index, and where it fails a lookup id has left the index. -/
structure StellarLeft (before after : Lookup) (failed : Prop) : Prop where
  within : ∀ rpcId id, after.triggersByStellarContractEvent.Relates rpcId id →
    before.triggersByStellarContractEvent.Relates rpcId id
  left : failed → ∃ rpcId id, before.triggersByStellarContractEvent.Relates rpcId id ∧
    ¬after.triggersByStellarContractEvent.Relates rpcId id

theorem StellarLeft.not_same {self before after : Lookup} {failed : Prop} (gone : StellarLeft before after failed)
    (start : self.triggersByStellarContractEvent = before.triggersByStellarContractEvent) (fails : failed) :
    ¬SameMaps self after := by
  intro same
  obtain ⟨rpcId,id,related,absent⟩ := gone.left fails
  rw [← start] at related
  exact absent ((same.stellar rpcId id).mpr related)

def Failed (result : Lookup × Except TriggerError Unit) : Prop := ∃ error, result.2 = .error error

theorem not_failed_ok (self : Lookup) : ¬Failed (self,.ok ()) := by
  intro failed
  obtain ⟨error,impossible⟩ := failed
  cases impossible

theorem stellarLeft_ok {before after : Lookup}
    (same : after.triggersByStellarContractEvent = before.triggersByStellarContractEvent) :
    StellarLeft before after (Failed (after,.ok ())) where
  within _ _ related := same ▸ related
  left failed := absurd failed (not_failed_ok after)

theorem stellarLeft_removeTrigger (self : Lookup) (lookupId : LookupId) (trigger : Trigger) :
    StellarLeft self (removeTrigger cron self lookupId trigger).1 (Failed (removeTrigger cron self lookupId trigger)) := by
  cases trigger with
  | stellarContractEvent chain contractId topicSegments =>
    simp only [removeTrigger]
    split
    · exact stellarLeft_ok rfl
    · next rpcId found =>
      have related := (BiMap.getByRight_iff _ _ _).mp found
      have within : ∀ other id, (self.triggersByStellarContractEvent.removeByRight lookupId).Relates other id →
          self.triggersByStellarContractEvent.Relates other id :=
        fun other id kept => ((BiMap.relates_removeByRight _ _ _ _).mp kept).2
      have gone : ¬(self.triggersByStellarContractEvent.removeByRight lookupId).Relates rpcId lookupId :=
        fun kept => ((BiMap.relates_removeByRight _ _ _ _).mp kept).1 rfl
      split
      · exact ⟨within,fun _ => ⟨rpcId,lookupId,related,gone⟩⟩
      · exact ⟨within,fun _ => ⟨rpcId,lookupId,related,gone⟩⟩
  | blockInterval chain nBlocks startBlock endBlock =>
    simp only [removeTrigger]
    split <;> exact stellarLeft_ok rfl
  | atProtoEvent collection repoDid action =>
    simp only [removeTrigger]
    split <;> exact stellarLeft_ok rfl
  | _ => exact stellarLeft_ok rfl

theorem stellarLeft_removeLookup (self : Lookup) (lookupId : LookupId) :
    StellarLeft self (removeLookup cron self lookupId).1 (Failed (removeLookup cron self lookupId)) := by
  unfold removeLookup
  split
  · exact stellarLeft_ok rfl
  · exact stellarLeft_removeTrigger cron self lookupId _

theorem stellarLeft_removeTriggers (ids : List LookupId) (self : Lookup) :
    StellarLeft self (removeTriggers cron self ids).1 (Failed (removeTriggers cron self ids)) := by
  induction ids generalizing self with
  | nil => exact stellarLeft_ok rfl
  | cons id ids ih =>
    have first := stellarLeft_removeLookup cron self id
    unfold removeTriggers
    split
    · next next error result =>
      rw [result] at first
      exact first
    · next next result =>
      rw [result] at first
      have others := ih next
      refine ⟨fun rpcId other kept => first.within rpcId other (others.within rpcId other kept),fun failed => ?_⟩
      obtain ⟨rpcId,other,related,gone⟩ := others.left failed
      exact ⟨rpcId,other,first.within rpcId other related,gone⟩

theorem addTrigger_same_iff (self next : Lookup) (config : TriggerConfig) (error : TriggerError)
    (refused : addTrigger cron self config = (next,.error error)) :
    SameMaps self next ↔ self.Scheduled config.trigger := by
  rw [addTrigger_refused cron self next config error refused,← withScheduler_same]
  constructor
  · intro same
    exact {same with}
  · intro same
    exact {same with}

/-- The service's manager is recorded already, and the trigger of its first workflow is refused with no
scheduler made for it. -/
def RefusedAtFirst (prim : IdPrimitives) (self : Lookup) (service : Service) : Prop :=
  self.serviceManager.Relates (service.id prim) service.manager.address ∧
    ∃ config configs, serviceTriggers (service.id prim) service = config::configs ∧
      ¬self.Accepts cron config.trigger ∧ self.Scheduled config.trigger

theorem SameMaps.recorded {before after : Lookup} {id : ServiceId} {address : ChainAddress}
    (same : SameMaps {before with serviceManager := before.serviceManager.insert id address} after)
    (related : before.serviceManager.Relates id address) : SameMaps before after := by
  refine {same with serviceManager := ?_}
  intro other held
  rw [same.serviceManager,BiMap.relates_insert]
  constructor
  · intro kept
    rcases kept with ⟨rfl,rfl⟩ | ⟨_,_,kept⟩
    · exact related
    · exact kept
  · intro kept
    by_cases own : other = id
    · subst own
      exact .inl ⟨rfl,BiMap.relates_left _ _ _ _ kept related⟩
    · refine .inr ⟨own,fun shared => own ?_,kept⟩
      subst shared
      exact BiMap.relates_right _ _ _ _ kept related

theorem addService_same_iff (prim : IdPrimitives) (self next : Lookup) (service : Service) (error : TriggerError)
    (counted : Counted self.toLookupMaps) (failed : addService cron prim self service = (next,.error error)) :
    SameMaps self next ↔ RefusedAtFirst cron prim self service := by
  unfold addService at failed
  dsimp only at failed
  unfold RefusedAtFirst
  cases triggers : serviceTriggers (service.id prim) service with
  | nil =>
    rw [triggers] at failed
    cases failed
  | cons config configs =>
    rw [triggers] at failed
    unfold addTriggers at failed
    split at failed
    · next reached reason result =>
      cases failed
      have refused : ¬self.Accepts cron config.trigger := by
        intro accepts
        obtain ⟨_,accepted⟩ := addTriggers_accepts cron [config]
          {self with serviceManager := self.serviceManager.insert (service.id prim) service.manager.address}
          (by
            intro other member
            rw [List.mem_singleton.mp member]
            exact accepts.of_controllers cron (fun _ present => present))
        simp only [addTriggers,result] at accepted
        cases accepted
      have scheduled : Scheduled {self with
          serviceManager := self.serviceManager.insert (service.id prim) service.manager.address} config.trigger ↔
          self.Scheduled config.trigger := by
        cases config.trigger <;> exact Iff.rfl
      have first := addTrigger_same_iff cron _ next config error result
      rw [scheduled] at first
      constructor
      · intro same
        have manager : next.serviceManager =
            self.serviceManager.insert (service.id prim) service.manager.address := by
          rw [addTrigger_refused cron _ next config error result]
          cases config.trigger <;> rfl
        have related : self.serviceManager.Relates (service.id prim) service.manager.address := by
          rw [← same.serviceManager,manager,BiMap.relates_insert]
          exact .inl ⟨rfl,rfl⟩
        refine ⟨related,config,configs,rfl,refused,first.mp ?_⟩
        refine {same with serviceManager := ?_}
        rw [manager]
        exact fun _ _ => Iff.rfl
      · intro held
        obtain ⟨related,_,_,same,_,timely⟩ := held
        cases same
        exact (first.mpr timely).recorded related
    · next reached result =>
      -- The first trigger is registered under a lookup id that was not in use.
      obtain ⟨accepts,counter,registered⟩ := addTrigger_inserted cron _ reached config result
      have older : self.lookupId < reached.lookupId := by
        rw [counter]
        exact Nat.lt_succ_self _
      have kept := addTriggers_older cron configs reached self.lookupId older
      rw [failed,registered,if_pos rfl] at kept
      constructor
      · intro same
        have unused := same.triggerConfigs self.lookupId
        rw [kept,counted.unused] at unused
        cases unused
      · intro held
        obtain ⟨_,_,_,same,refused,_⟩ := held
        cases same
        exact absurd (accepts.of_controllers cron (fun _ present => present)) refused

theorem removeWorkflow_same_iff (self next : Lookup) (serviceId : ServiceId) (workflowId : WorkflowId)
    (error : TriggerError) (failed : removeWorkflow cron self serviceId workflowId = (next,.error error)) :
    SameMaps self next ↔ self.workflowLookup serviceId workflowId = none := by
  unfold removeWorkflow at failed
  unfold LookupMaps.workflowLookup
  split at failed
  · next unknown =>
    cases failed
    simp [unknown,SameMaps.refl]
  · next workflows known =>
    split at failed
    · next unknown =>
      cases failed
      simp [known,unknown,SameMaps.refl]
    · next lookupId found =>
      simp only [known,found,Option.bind_some,reduceCtorEq,iff_false]
      have gone := stellarLeft_removeLookup cron
        {self with triggersByServiceWorkflow :=
          self.triggersByServiceWorkflow.insert serviceId (workflows.remove workflowId)} lookupId
      dsimp only at failed
      split at failed
      · next reached reason result =>
        cases failed
        rw [result] at gone
        exact gone.not_same rfl ⟨error,rfl⟩
      · cases failed

theorem removeService_not_same (self next : Lookup) (serviceId : ServiceId) (error : TriggerError)
    (failed : removeService cron self serviceId = (next,.error error)) : ¬SameMaps self next := by
  unfold removeService at failed
  dsimp only at failed
  split at failed
  · cases failed
  · next workflows _ =>
    have gone := stellarLeft_removeTriggers cron (workflows.entries.map Prod.snd)
      {self with serviceManager := self.serviceManager.removeByLeft serviceId}
    split at failed
    · next reached reason result =>
      cases failed
      rw [result] at gone
      exact gone.not_same rfl ⟨error,rfl⟩
    · cases failed

/-- Where an operation that fails leaves the maps: a trigger is refused with no scheduler made for it, a
recorded service is refused at its first trigger, or a workflow is not registered. -/
def Op.FailsUntouched (prim : IdPrimitives) (self : Lookup) : Op → Prop
  | .addService service => RefusedAtFirst cron prim self service
  | .addTrigger config => self.Scheduled config.trigger
  | .removeWorkflow serviceId workflowId => self.workflowLookup serviceId workflowId = none
  | .removeService _ => False

theorem apply_same_iff (prim : IdPrimitives) (self next : Lookup) (op : Op) (error : TriggerError)
    (counted : Counted self.toLookupMaps) (failed : op.apply cron prim self = (next,.error error)) :
    SameMaps self next ↔ op.FailsUntouched cron prim self := by
  cases op with
  | addService service => exact addService_same_iff cron prim self next service error counted failed
  | addTrigger config => exact addTrigger_same_iff cron self next config error failed
  | removeWorkflow serviceId workflowId => exact removeWorkflow_same_iff cron self next serviceId workflowId error failed
  | removeService serviceId => exact iff_of_false (removeService_not_same cron self next serviceId error failed) id

/-- A call on the lookup maps: an operation with the Stellar controllers it is handed, or a tick of one of
the schedulers. -/
inductive Call
  | change (controllers : StellarControllers) (op : Op)
  | tickBlocks (chain : ChainKey) (blockHeight : BlockHeight)
  | tickCron (now : Timestamp)

def handed (self : LookupMaps) (controllers : StellarControllers) : Lookup :=
  {self with stellarControllers := controllers}

def call (prim : IdPrimitives) (self : LookupMaps) : Call → LookupMaps
  | .change controllers op => (op.apply cron prim (handed self controllers)).1.toLookupMaps
  | .tickBlocks chain blockHeight =>
    match self.blockSchedulers.get chain with
    | none => self
    | some scheduler =>
      {self with blockSchedulers :=
        self.blockSchedulers.insert chain (scheduler.tick blockInterval blockHeight).2}
  | .tickCron now => {self with cronScheduler := (self.cronScheduler.tick (cronInterval cron) now).2}

/-- The lookup maps after any calls, also those that fail. -/
def calls (prim : IdPrimitives) (self : LookupMaps) (made : List Call) : LookupMaps :=
  made.foldl (call cron prim) self

theorem counted_call (prim : IdPrimitives) (self : LookupMaps) (made : Call) (counted : Counted self) :
    Counted (call cron prim self made) := by
  cases made with
  | change controllers op => exact counted_apply cron prim (handed self controllers) op counted
  | tickBlocks chain blockHeight =>
    unfold call
    dsimp only
    split <;> exact counted
  | tickCron now => exact counted

theorem counted_calls (prim : IdPrimitives) (self : LookupMaps) (made : List Call) (counted : Counted self) :
    Counted (calls cron prim self made) := by
  induction made generalizing self with
  | nil => exact counted
  | cons first made ih => exact ih _ (counted_call cron prim self first counted)

theorem counted_new : Counted .new := by
  intro id config found
  simp [LookupMaps.new] at found

/-- After any calls, an operation that fails leaves the maps, the schedulers and the Stellar filters as they
were exactly where it fails before its first write. -/
theorem failed_untouched_iff (prim : IdPrimitives) (made : List Call) (controllers : StellarControllers) (op : Op)
    (next : Lookup) (error : TriggerError)
    (failed : op.apply cron prim (handed (calls cron prim .new made) controllers) = (next,.error error)) :
    SameMaps (handed (calls cron prim .new made) controllers) next ↔
      op.FailsUntouched cron prim (handed (calls cron prim .new made) controllers) :=
  apply_same_iff cron prim _ next op error (counted_calls cron prim .new made counted_new) failed

/-- The deployed service with an EVM trigger and a block trigger that ends before it starts. -/
def backwardsService : Service :=
  {deployedService with
    workflows := ⟨[(observedWorkflow,⟨logTrigger,noopComponent,.none⟩),
      (secondWorkflow,⟨.blockInterval localChain ⟨1,by decide⟩ (some ⟨5,by decide⟩) (some ⟨3,by decide⟩),
        noopComponent,.none⟩)],by decide⟩}

theorem backwardsService_spoils :
    ¬SameMaps (handed (calls everyMinute deployedIds .new []) .new)
      ((Op.addService backwardsService).apply everyMinute deployedIds
        (handed (calls everyMinute deployedIds .new []) .new)).1 := by
  intro same
  have unused := same.triggerConfigs 0
  revert unused
  decide +kernel

/-- The first workflow of a service stays registered when the second is refused. -/
theorem backwardsService_half_added :
    ∃ next, (Op.addService backwardsService).apply everyMinute deployedIds
        (handed (calls everyMinute deployedIds .new []) .new) = (next,.error .intervalStartAfterEnd) ∧
      ¬SameMaps (handed (calls everyMinute deployedIds .new []) .new) next :=
  ⟨_,rfl,backwardsService_spoils⟩

theorem backwardsService_untouched_iff :
    ∃ next, (Op.addService backwardsService).apply everyMinute deployedIds
        (handed (calls everyMinute deployedIds .new []) .new) = (next,.error .intervalStartAfterEnd) ∧
      ¬SameMaps (handed (calls everyMinute deployedIds .new []) .new) next ∧
      ¬(Op.addService backwardsService).FailsUntouched everyMinute deployedIds
        (handed (calls everyMinute deployedIds .new []) .new) :=
  ⟨_,rfl,backwardsService_spoils,mt (failed_untouched_iff everyMinute deployedIds [] .new
    (.addService backwardsService) _ .intervalStartAfterEnd rfl).mpr backwardsService_spoils⟩

end Warpdrive.Trigger.Lookup
