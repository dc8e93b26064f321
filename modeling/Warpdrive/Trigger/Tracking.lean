import Warpdrive.Trigger.Consistency
import Warpdrive.Trigger.Registration

/-! When `LookupMaps::add_service` succeeds, and which triggers are tracked after it. A service is
added exactly when each of its triggers is accepted; its triggers are then tracked, and those of the
other services stay so, whether it is added or not. -/
namespace Warpdrive.Trigger.Lookup

open Warpdrive.Foundation Warpdrive.Types

variable (cron : CronLib)

theorem filter_error (contractId : String) (topicSegments : List StellarTopicSegment)
    (wild : .restWildcard ∈ topicSegments) :
    ∃ error, StellarEventFilter.new contractId topicSegments = .error error := by
  have encoded : ∃ error, topicSegments.mapM StellarEventFilter.encodeTopicSegment = .error error := by
    induction topicSegments with
    | nil => cases wild
    | cons segment segments ih =>
      cases segment with
      | restWildcard => exact ⟨_,by rw [List.mapM_cons]; rfl⟩
      | exact value =>
        obtain ⟨error,rest⟩ := ih ((List.mem_cons.mp wild).resolve_left (fun same => nomatch same))
        exact ⟨error,by rw [List.mapM_cons,rest]; rfl⟩
      | wildcard =>
        obtain ⟨error,rest⟩ := ih ((List.mem_cons.mp wild).resolve_left (fun same => nomatch same))
        exact ⟨error,by rw [List.mapM_cons,rest]; rfl⟩
  obtain ⟨error,encoded⟩ := encoded
  exact ⟨error,by simp [StellarEventFilter.new,encoded]⟩

/-- A trigger that is not accepted is not inserted. -/
theorem accepts_of_insertTrigger (self next : Lookup) (lookupId : LookupId) (trigger : Trigger)
    (result : insertTrigger cron self lookupId trigger = (next,.ok ())) : self.Accepts cron trigger := by
  cases trigger with
  | stellarContractEvent chain contractId topicSegments =>
    simp only [insertTrigger] at result
    split at result
    · cases result
    · next filter made =>
      split at result
      · cases result
      · next controller found =>
        refine ⟨?_,by simp [found]⟩
        intro wild
        obtain ⟨error,failed⟩ := filter_error contractId topicSegments wild
        rw [made] at failed
        cases failed
  | blockInterval chain nBlocks startBlock endBlock =>
    intro start stop starts ends
    subst starts
    subst ends
    by_contra reversed
    have late : IntervalScheduler.startsAfterEnd blockInterval
        (.new lookupId nBlocks ((some start).map .mk) ((some stop).map .mk)) = true :=
      decide_eq_true (Nat.lt_of_not_le (fun ordered => reversed (UInt64.le_iff_toNat_le.mpr ordered)))
    simp only [insertTrigger,IntervalScheduler.addTrigger,late,if_true] at result
    cases result
  | cron schedule startTime endTime =>
    simp only [insertTrigger] at result
    split at result
    · cases result
    · next parsed =>
      refine ⟨parsed,?_⟩
      intro start stop starts ends reversed
      subst starts
      subst ends
      have late : IntervalScheduler.startsAfterEnd (cronInterval cron)
          (.new lookupId schedule (some start) (some stop)) = true := decide_eq_true reversed
      simp only [IntervalScheduler.addTrigger,late,if_true] at result
      cases result
  | _ => trivial

/-- Inserting a trigger leaves the registry alone, also when it fails. -/
theorem sameRegistry_insertTrigger (self next : Lookup) (lookupId : LookupId) (trigger : Trigger)
    (outcome : Except TriggerError Unit) (result : insertTrigger cron self lookupId trigger = (next,outcome)) :
    SameRegistry self next := by
  have reached : next = (insertTrigger cron self lookupId trigger).1 := by rw [result]
  rw [reached]
  cases trigger with
  | stellarContractEvent chain contractId topicSegments =>
    simp only [insertTrigger]
    split
    · exact ⟨rfl,rfl,rfl⟩
    · split <;> exact ⟨rfl,rfl,rfl⟩
  | blockInterval chain nBlocks startBlock endBlock =>
    simp only [insertTrigger]
    split <;> exact ⟨rfl,rfl,rfl⟩
  | cron schedule startTime endTime =>
    simp only [insertTrigger]
    split
    · exact ⟨rfl,rfl,rfl⟩
    · split <;> exact ⟨rfl,rfl,rfl⟩
  | atProtoEvent collection repoDid action =>
    simp only [insertTrigger]
    split <;> exact ⟨rfl,rfl,rfl⟩
  | _ => exact ⟨rfl,rfl,rfl⟩

/-- The workflow of the trigger has a lookup id, and it is the trigger's. -/
def Tracked (self : Lookup) (config : TriggerConfig) : Prop :=
  ∃ id, id < self.lookupId ∧ self.workflowLookup config.serviceId config.workflowId = some id ∧
    self.triggerConfigs.get id = some config

theorem tracked_addTrigger_other (self : Lookup) (config other : TriggerConfig) (tracked : self.Tracked other)
    (apart : ¬(other.serviceId = config.serviceId ∧ other.workflowId = config.workflowId)) :
    (addTrigger cron self config).1.Tracked other := by
  obtain ⟨id,minted,lookup,found⟩ := tracked
  unfold addTrigger
  simp only
  split
  · next next error inserted =>
    have same := sameRegistry_insertTrigger cron _ next _ _ _ inserted
    refine ⟨id,?_,?_,?_⟩
    · rw [same.counter]
      exact Nat.lt_succ_of_lt minted
    · rw [LookupMaps.workflowLookup,same.workflows]
      exact lookup
    · rw [same.configs]
      exact found
  · next next inserted =>
    have same := sameRegistry_insertTrigger cron _ next _ _ _ inserted
    have workflows : next.triggersByServiceWorkflow = self.triggersByServiceWorkflow := same.workflows
    have configs : next.triggerConfigs = self.triggerConfigs := same.configs
    refine ⟨id,?_,?_,?_⟩
    · change id < next.lookupId
      rw [same.counter]
      exact Nat.lt_succ_of_lt minted
    · simp only [LookupMaps.workflowLookup,HashMap.get_insert] at lookup ⊢
      rw [workflows]
      by_cases here : other.serviceId = config.serviceId
      · rw [if_pos here,Option.bind_some,BTreeMap.get_insert,if_neg (fun equal => apart ⟨here,equal⟩)]
        rw [here] at lookup
        cases known : self.triggersByServiceWorkflow.get config.serviceId with
        | none =>
          rw [known] at lookup
          cases lookup
        | some entries =>
          rw [known] at lookup
          exact lookup
      · rw [if_neg here]
        exact lookup
    · change (next.triggerConfigs.insert self.lookupId config).get id = some other
      rw [HashMap.get_insert_ne _ _ _ _ minted.ne,configs]
      exact found

theorem tracked_addTrigger (self next : Lookup) (config : TriggerConfig)
    (result : addTrigger cron self config = (next,.ok ())) : next.Tracked config := by
  unfold addTrigger at result
  simp only at result
  split at result
  · cases result
  · next middle inserted =>
    have same := sameRegistry_insertTrigger cron _ middle _ _ _ inserted
    cases result
    refine ⟨self.lookupId,?_,?_,?_⟩
    · change self.lookupId < middle.lookupId
      rw [same.counter]
      exact Nat.lt_succ_self _
    · simp [LookupMaps.workflowLookup,BTreeMap.get_insert]
    · simp

theorem tracked_addTriggers_other (configs : List TriggerConfig) (self : Lookup) (other : TriggerConfig)
    (tracked : self.Tracked other)
    (apart : ∀ config ∈ configs, ¬(other.serviceId = config.serviceId ∧ other.workflowId = config.workflowId)) :
    (addTriggers cron self configs).1.Tracked other := by
  induction configs generalizing self with
  | nil => exact tracked
  | cons config rest ih =>
    have kept := tracked_addTrigger_other cron self config other tracked (apart config List.mem_cons_self)
    unfold addTriggers
    split
    · next next error failed =>
      rw [failed] at kept
      exact kept
    · next next added =>
      rw [added] at kept
      exact ih next kept (fun config member => apart config (List.mem_cons_of_mem _ member))

theorem tracked_addTriggers (configs : List TriggerConfig) (self next : Lookup)
    (distinct : configs.Pairwise (fun a b => ¬(b.serviceId = a.serviceId ∧ b.workflowId = a.workflowId)))
    (result : addTriggers cron self configs = (next,.ok ())) : ∀ config ∈ configs, next.Tracked config := by
  induction configs generalizing self with
  | nil =>
    intro config member
    cases member
  | cons config rest ih =>
    obtain ⟨apart,distinct⟩ := List.pairwise_cons.mp distinct
    unfold addTriggers at result
    split at result
    · cases result
    · next middle added =>
      intro other member
      rcases List.mem_cons.mp member with rfl | member
      · have kept := tracked_addTriggers_other cron rest middle other (tracked_addTrigger cron self middle other added)
          (fun config inside same => apart config inside ⟨same.1.symm,same.2.symm⟩)
        rw [result] at kept
        exact kept
      · exact ih middle distinct result other member

/-- A service whose triggers are all added has each of them tracked, and so has every other service
what it had. -/
theorem tracked_addService (prim : IdPrimitives) (self next : Lookup) (service : Service)
    (result : addService cron prim self service = (next,.ok ())) :
    ∀ config ∈ serviceTriggers (service.id prim) service, next.Tracked config :=
  tracked_addTriggers cron _ _ next (serviceTriggers_distinct (service.id prim) service) result

theorem tracked_addService_other (prim : IdPrimitives) (self : Lookup) (service : Service) (other : TriggerConfig)
    (tracked : self.Tracked other) (apart : other.serviceId ≠ service.id prim) :
    (addService cron prim self service).1.Tracked other := by
  apply tracked_addTriggers_other
  · exact tracked
  · intro config member same
    obtain ⟨entry,_,rfl⟩ := List.mem_map.mp member
    exact apart same.1

theorem addTriggers_controllers (configs : List TriggerConfig) (self : Lookup) (chain : ChainKey) :
    (addTriggers cron self configs).1.stellarControllers.get chain = none ↔
      self.stellarControllers.get chain = none := by
  induction configs generalizing self with
  | nil => exact Iff.rfl
  | cons config rest ih =>
    have first := insertTrigger_controllers cron {self with lookupId := self.lookupId + 1} self.lookupId
      config.trigger chain
    have step : (addTrigger cron self config).1.stellarControllers.get chain = none ↔
        self.stellarControllers.get chain = none := by
      unfold addTrigger
      simp only
      split
      · next next error inserted =>
        rw [inserted] at first
        exact first
      · next next inserted =>
        rw [inserted] at first
        exact first
    unfold addTriggers
    split
    · next next error failed =>
      rw [failed] at step
      exact step
    · next next added =>
      rw [added] at step
      exact (ih next).trans step

/-- A service is added exactly when all its triggers are accepted. -/
theorem addService_ok_iff (prim : IdPrimitives) (self : Lookup) (service : Service) :
    (addService cron prim self service).2 = .ok () ↔
      ∀ entry ∈ service.workflows.entries, self.Accepts cron entry.2.trigger := by
  constructor
  · intro added
    have general : ∀ (configs : List TriggerConfig) (self : Lookup), (addTriggers cron self configs).2 = .ok () →
        ∀ config ∈ configs, self.Accepts cron config.trigger := by
      intro configs
      induction configs with
      | nil =>
        intro self _ config member
        cases member
      | cons config rest ih =>
        intro self added
        unfold addTriggers at added
        split at added
        · cases added
        · next next first =>
          have controllers : ∀ chain, next.stellarControllers.get chain ≠ none →
              self.stellarControllers.get chain ≠ none := by
            intro chain present
            have same := addTriggers_controllers cron [config] self chain
            simp only [addTriggers,first] at same
            exact same.not.mp present
          intro other member
          rcases List.mem_cons.mp member with rfl | member
          · unfold addTrigger at first
            simp only at first
            split at first
            · cases first
            · next middle inserted =>
              exact (accepts_of_insertTrigger cron _ middle self.lookupId other.trigger inserted).of_controllers
                cron (fun _ present => present)
          · exact (ih next added other member).of_controllers cron controllers
    intro entry member
    exact (general _ _ added ⟨_,entry.1,entry.2.trigger⟩ (List.mem_map.mpr ⟨entry,member,rfl⟩)).of_controllers
      cron (fun _ present => present)
  · intro accepts
    obtain ⟨next,added⟩ := addService_accepts cron prim self service accepts
    rw [added]

section Serving

variable {cron}

/-- No trigger of the service is registered. -/
def Idle (self : Lookup) (serviceId : ServiceId) : Prop :=
  ∀ id config, self.triggerConfigs.get id = some config → config.serviceId ≠ serviceId

/-- The registered triggers of the service are those of its definition. -/
structure Serves (maps : Lookup) (serviceId : ServiceId) (service : Service) : Prop where
  only : ∀ id config, maps.triggerConfigs.get id = some config → config.serviceId = serviceId →
    config ∈ serviceTriggers serviceId service
  tracked : ∀ config ∈ serviceTriggers serviceId service, maps.Tracked config

theorem Tracked.of_maps {before after : Lookup} {config : TriggerConfig} (tracked : before.Tracked config)
    (maps : after.toLookupMaps = before.toLookupMaps) : after.Tracked config := by
  unfold Tracked
  rw [maps]
  exact tracked

/-- In consistent maps a tracked trigger has one lookup id. -/
theorem Consistent.unique {self : Lookup} (consistent : Consistent cron self) (config : TriggerConfig)
    (tracked : self.Tracked config) : ∃! id, self.triggerConfigs.get id = some config := by
  obtain ⟨id,_,lookup,found⟩ := tracked
  refine ⟨id,found,?_⟩
  intro other also
  have same := consistent.registered other config also
  rw [lookup] at same
  exact (Option.some.inj same).symm

theorem Idle.free {self : Lookup} {serviceId : ServiceId} (consistent : Consistent cron self)
    (idle : self.Idle serviceId) (workflowId : WorkflowId) : self.workflowLookup serviceId workflowId = none := by
  by_contra present
  obtain ⟨id,found⟩ := Option.ne_none_iff_exists'.mp present
  obtain ⟨trigger,known⟩ := consistent.known serviceId workflowId id found
  exact idle id _ known rfl

/-- Another controller leaves the maps consistent. -/
theorem Consistent.connected {before after : Lookup} (consistent : Consistent cron before)
    (maps : after.toLookupMaps = before.toLookupMaps)
    (kept : ∀ chain controller, before.stellarControllers.get chain = some controller →
      after.stellarControllers.get chain = some controller) : Consistent cron after := by
  obtain ⟨beforeMaps,beforeControllers⟩ := before
  obtain ⟨afterMaps,afterControllers⟩ := after
  change afterMaps = beforeMaps at maps
  subst maps
  refine ⟨consistent.registered,consistent.known,consistent.placed,?_,{consistent.sound with},consistent.minted⟩
  intro id config found
  have held := consistent.held id config found
  cases shape : config.trigger with
  | stellarContractEvent chain contractId topicSegments =>
    rw [shape] at held
    obtain ⟨rpcId,filter,related,made,controller,client,handles⟩ := held
    exact ⟨rpcId,filter,related,made,controller,kept chain controller client,handles⟩
  | blockInterval chain nBlocks startBlock endBlock =>
    rw [shape] at held
    exact held
  | cron schedule startTime endTime =>
    rw [shape] at held
    exact held
  | _ => trivial

/-- Removing a service leaves none of its triggers. -/
theorem idle_removeService (chain : ChainKey) (before next : Lookup) (serviceId : ServiceId)
    (consistent : Consistent cron before) (onChain : before.OnChain chain)
    (result : removeService cron before serviceId = (next,.ok ())) :
    Consistent cron next ∧ next.OnChain chain ∧ next.Idle serviceId := by
  obtain ⟨ids,all,_,removed⟩ := unregistered_removeService before next serviceId consistent result
  refine ⟨removed.consistent consistent,removed.onChain chain onChain,?_⟩
  rintro id config found rfl
  rw [removed.configs] at found
  split at found
  · cases found
  · next kept => exact kept (all config.workflowId id (consistent.registered id config found))

theorem configs_addTriggers (configs : List TriggerConfig) (before : Lookup) (id : LookupId) (config : TriggerConfig)
    (found : (addTriggers cron before configs).1.triggerConfigs.get id = some config) :
    before.triggerConfigs.get id = some config ∨ config ∈ configs := by
  induction configs generalizing before with
  | nil => exact .inl found
  | cons first rest ih =>
    have step : (addTrigger cron before first).1.triggerConfigs.get id = some config →
        before.triggerConfigs.get id = some config ∨ config = first := by
      intro registered
      unfold addTrigger at registered
      simp only at registered
      split at registered
      · next next error inserted =>
        have same := (sameRegistry_insertTrigger cron _ next _ _ _ inserted).configs
        rw [same] at registered
        exact .inl registered
      · next next inserted =>
        have same := (sameRegistry_insertTrigger cron _ next _ _ _ inserted).configs
        simp only [HashMap.get_insert,same] at registered
        split at registered
        · cases registered
          exact .inr rfl
        · exact .inl registered
    unfold addTriggers at found
    split at found
    · next next error failed =>
      rw [failed] at step
      rcases step found with before | rfl
      · exact .inl before
      · exact .inr List.mem_cons_self
    · next next added =>
      rw [added] at step
      rcases ih next found with here | later
      · rcases step here with before | rfl
        · exact .inl before
        · exact .inr List.mem_cons_self
      · exact .inr (List.mem_cons_of_mem _ later)

/-- A service none of whose triggers is registered has those of its definition once it is added. -/
theorem serves_addService (prim : IdPrimitives) (chain : ChainKey) (service : Service) (before next : Lookup)
    (consistent : Consistent cron before) (onChain : before.OnChain chain)
    (on : ∀ config ∈ serviceTriggers (service.id prim) service, StellarOn chain config.trigger)
    (idle : before.Idle (service.id prim)) (result : addService cron prim before service = (next,.ok ())) :
    Consistent cron next ∧ next.OnChain chain ∧ next.Serves (service.id prim) service := by
  have free : ∀ config ∈ serviceTriggers (service.id prim) service,
      before.workflowLookup config.serviceId config.workflowId = none := by
    intro config member
    obtain ⟨entry,_,rfl⟩ := List.mem_map.mp member
    exact idle.free consistent entry.1
  obtain ⟨consistentNext,onChainNext,_⟩ :=
    consistent_addService prim chain service before next consistent onChain on free result
  refine ⟨consistentNext,onChainNext,?_,tracked_addService cron prim before next service result⟩
  intro id config found own
  have source := configs_addTriggers (serviceTriggers (service.id prim) service) _ id config (by
    rw [addService] at result
    rw [result]
    exact found)
  rcases source with old | new
  · exact absurd own (idle id config old)
  · exact new

end Serving

end Warpdrive.Trigger.Lookup
