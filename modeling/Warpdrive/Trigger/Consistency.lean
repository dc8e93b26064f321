import Warpdrive.Foundation.Execution
import Warpdrive.Types.Submission
import Warpdrive.Trigger.Places

/-! The lookup maps stay consistent with each other over every run of successful
registrations and removals with the Stellar triggers on one chain: a lookup id has a
configuration exactly while it is the value of its workflow, exactly while it is listed
in its trigger's place and nowhere else. -/
namespace Warpdrive.Trigger

open Warpdrive.Foundation Warpdrive.Types Warpdrive.Foundation.Execution

namespace Lookup

variable {cron : CronLib}

section Consistent

/-- A Stellar trigger is on this chain. -/
def StellarOn (chain : ChainKey) : Trigger → Prop
  | .stellarContractEvent on _ _ => on = chain
  | _ => True

instance decidableStellarOn (chain : ChainKey) (trigger : Trigger) : Decidable (StellarOn chain trigger) :=
  match trigger with
  | .stellarContractEvent on _ _ => inferInstanceAs (Decidable (on = chain))
  | .cosmosContractEvent _ _ _ => .isTrue trivial
  | .evmContractEvent _ _ _ => .isTrue trivial
  | .blockInterval _ _ _ _ => .isTrue trivial
  | .cron _ _ _ => .isTrue trivial
  | .atProtoEvent _ _ _ => .isTrue trivial
  | .manual => .isTrue trivial

variable (cron)

/-- The maps agree: a lookup id has a configuration exactly while it is the value of its
workflow, exactly while it is listed in the place of its trigger and nowhere else. -/
structure Consistent (maps : Lookup) : Prop where
  registered : ∀ id config, maps.triggerConfigs.get id = some config →
    maps.workflowLookup config.serviceId config.workflowId = some id
  known : ∀ serviceId workflowId id, maps.workflowLookup serviceId workflowId = some id →
    ∃ trigger, maps.triggerConfigs.get id = some ⟨serviceId,workflowId,trigger⟩
  placed : ∀ place id, maps.Lists place id ↔
    ∃ config, maps.triggerConfigs.get id = some config ∧ placeOf config.trigger = some place
  held : ∀ id config, maps.triggerConfigs.get id = some config → maps.Holds cron id config.trigger
  sound : maps.Sound cron
  minted : ∀ id config, maps.triggerConfigs.get id = some config → id < maps.lookupId

/-- Every registered Stellar trigger is on this chain. -/
def OnChain (chain : ChainKey) (self : Lookup) : Prop :=
  ∀ id config, self.triggerConfigs.get id = some config → StellarOn chain config.trigger

theorem consistent_new (controllers : StellarControllers) :
    Consistent cron {LookupMaps.new with stellarControllers := controllers} where
  registered id config found := by simp [LookupMaps.new] at found
  known serviceId workflowId id found := by simp [LookupMaps.workflowLookup,LookupMaps.new] at found
  placed place id := by
    cases place with
    | block chain => simp [Lists,LookupMaps.new]
    | cron => simp [Lists,LookupMaps.new,IntervalScheduler.new]
    | stellar => simp [Lists,LookupMaps.new]
    | _ => simp [Lists,LookupMaps.new,Index.not_lists_new]
  held id config found := by simp [LookupMaps.new] at found
  sound :=
    {cosmos := Index.tight_new
     evm := Index.tight_new
     atprotoExact := Index.tight_new
     atprotoPattern := Index.tight_new
     block := by
      intro chain scheduler found
      simp [LookupMaps.new] at found
     cronKnown := IntervalScheduler.known_new _}
  minted id config found := by simp [LookupMaps.new] at found

variable {cron}

theorem Consistent.onlyPlaced {self : Lookup} (consistent : Consistent cron self) (id : LookupId) :
    self.OnlyPlaced id :=
  fun place listed => (consistent.placed place id).mp listed

/-- On one chain a client mints only handles that the index does not have. -/
theorem Consistent.mintable {self : Lookup} (consistent : Consistent cron self) (chain : ChainKey)
    (onChain : self.OnChain chain) (trigger : Trigger) (on : StellarOn chain trigger) :
    self.Mintable trigger := by
  intro new contractId topicSegments controller shape found other related
  subst shape
  have same : new = chain := on
  subst same
  obtain ⟨config,registered,placed⟩ := (consistent.placed .stellar other).mp ⟨_,related⟩
  have held := consistent.held other config registered
  have onIt := onChain other config registered
  cases shaped : config.trigger with
  | stellarContractEvent old oldContract oldSegments =>
    rw [shaped] at held onIt
    have here : old = new := onIt
    subst here
    obtain ⟨rpcId,filter,again,_,client,present,handles⟩ := held
    rw [found] at present
    cases present
    have twice := self.triggersByStellarContractEvent.relates_right _ _ _ related again
    rw [← twice] at handles
    have dead := handles.1
    rw [controller.eventFilters.list.get_next] at dead
    cases dead
  | atProtoEvent collection repoDid action =>
    rw [shaped] at placed
    simp only [placeOf] at placed
    split at placed <;> cases placed
  | _ =>
    rw [shaped] at placed
    cases placed

variable (cron) in
/-- What a successful `add_trigger` does: a new lookup id is registered under its
workflow and listed in the place of its trigger, and nothing else has changed. -/
structure Registered (before after : Lookup) (config : TriggerConfig) : Prop where
  configs : ∀ id, after.triggerConfigs.get id =
    if id = before.lookupId then some config else before.triggerConfigs.get id
  workflows : ∀ serviceId workflowId, after.workflowLookup serviceId workflowId =
    if serviceId = config.serviceId ∧ workflowId = config.workflowId then some before.lookupId
    else before.workflowLookup serviceId workflowId
  counter : after.lookupId = before.lookupId + 1
  lists : ∀ place id, after.Lists place id ↔
    before.Lists place id ∨ placeOf config.trigger = some place ∧ id = before.lookupId
  holds : after.Holds cron before.lookupId config.trigger
  untouched : ∀ id, id ≠ before.lookupId → Untouched cron before after id
  sound : after.Sound cron

/-- The maps beside the places may change without touching an entry. -/
theorem untouched_registry (self : Lookup) (configs : HashMap LookupId TriggerConfig)
    (manager : BiMap ServiceId ChainAddress)
    (workflows : HashMap ServiceId (BTreeMap WorkflowId LookupId)) (counter id : LookupId) :
    Untouched cron self {self with
      triggerConfigs := configs
      serviceManager := manager
      triggersByServiceWorkflow := workflows
      lookupId := counter} id where
  lists place := by cases place <;> rfl
  handle _ := Iff.rfl
  filter _ _ _ _ := Iff.rfl
  block _ := rfl
  cronStates := rfl

theorem registered_addTrigger (before next : Lookup) (config : TriggerConfig) (sound : before.Sound cron)
    (absent : ∀ place, ¬before.Lists place before.lookupId) (mintable : before.Mintable config.trigger)
    (result : addTrigger cron before config = (next,.ok ())) :
    Registered cron before next config := by
  unfold addTrigger at result
  simp only at result
  have bump : ∀ id, Untouched cron before {before with lookupId := before.lookupId + 1} id :=
    untouched_registry before _ _ _ _
  split at result
  · cases result
  · next middle inserted =>
    have nowhere : ∀ place, ¬Lists {before with lookupId := before.lookupId + 1} place before.lookupId := by
      intro place
      rw [(bump before.lookupId).lists]
      exact absent place
    have added := inserted_trigger cron {before with lookupId := before.lookupId + 1} middle
      before.lookupId config.trigger {sound with} nowhere mintable inserted
    have finish : ∀ id, Untouched cron middle next id := by
      cases result
      exact untouched_registry middle _ _ _ _
    refine ⟨?_,?_,?_,?_,?_,?_,?_⟩
    · cases result
      intro id
      simp only [HashMap.get_insert,added.same.configs]
    · cases result
      intro serviceId workflowId
      simp only [LookupMaps.workflowLookup,HashMap.get_insert,added.same.workflows]
      by_cases here : serviceId = config.serviceId
      · subst serviceId
        cases found : before.triggersByServiceWorkflow.get config.serviceId with
        | none => simp [BTreeMap.get_insert]
        | some workflows => simp [BTreeMap.get_insert]
      · simp [here]
    · cases result
      exact added.same.counter
    · intro place id
      rw [(finish id).lists,added.lists,(bump id).lists]
    · exact (finish before.lookupId).holds config.trigger added.holds
    · intro id apart
      exact (bump id).trans ((added.untouched id apart).trans (finish id))
    · cases result
      exact {added.sound {sound with} with}

/-- The next lookup id is not in use. -/
theorem Consistent.unused {self : Lookup} (consistent : Consistent cron self) :
    self.triggerConfigs.get self.lookupId = none := by
  by_contra present
  obtain ⟨config,found⟩ := Option.ne_none_iff_exists'.mp present
  exact Nat.lt_irrefl _ (consistent.minted _ config found)

theorem consistent_addTrigger (chain : ChainKey) (before next : Lookup) (config : TriggerConfig)
    (consistent : Consistent cron before) (onChain : before.OnChain chain)
    (on : StellarOn chain config.trigger)
    (free : before.workflowLookup config.serviceId config.workflowId = none)
    (result : addTrigger cron before config = (next,.ok ())) :
    Consistent cron next ∧ next.OnChain chain ∧ Registered cron before next config := by
  have unused := consistent.unused
  have absent : ∀ place, ¬before.Lists place before.lookupId := by
    intro place listed
    obtain ⟨old,found,_⟩ := (consistent.placed place _).mp listed
    rw [unused] at found
    cases found
  have added := registered_addTrigger before next config consistent.sound absent
    (consistent.mintable chain onChain config.trigger on) result
  have split : ∀ id held, next.triggerConfigs.get id = some held →
      id = before.lookupId ∧ held = config ∨ id ≠ before.lookupId ∧ before.triggerConfigs.get id = some held := by
    intro id held found
    rw [added.configs] at found
    by_cases new : id = before.lookupId
    · rw [if_pos new] at found
      exact .inl ⟨new,(Option.some.inj found).symm⟩
    · rw [if_neg new] at found
      exact .inr ⟨new,found⟩
  refine ⟨⟨?_,?_,?_,?_,added.sound,?_⟩,?_,added⟩
  · intro id held found
    rw [added.workflows]
    rcases split id held found with ⟨rfl,rfl⟩ | ⟨old,found⟩
    · simp
    · have registered := consistent.registered id held found
      rw [if_neg]
      · exact registered
      · rintro ⟨service,workflow⟩
        rw [service,workflow,free] at registered
        cases registered
  · intro serviceId workflowId id found
    rw [added.workflows] at found
    rw [added.configs]
    split at found
    · next key =>
      cases found
      refine ⟨config.trigger,?_⟩
      rw [if_pos rfl,key.1,key.2]
    · obtain ⟨trigger,known⟩ := consistent.known serviceId workflowId id found
      have old : id ≠ before.lookupId := by
        intro same
        rw [same,unused] at known
        cases known
      exact ⟨trigger,by rw [if_neg old]; exact known⟩
  · intro place id
    rw [added.lists,added.configs,consistent.placed]
    by_cases new : id = before.lookupId
    · simp [new,unused]
    · simp [new]
  · intro id held found
    rcases split id held found with ⟨rfl,rfl⟩ | ⟨old,found⟩
    · exact added.holds
    · exact (added.untouched id old).holds held.trigger (consistent.held id held found)
  · intro id held found
    rw [added.counter]
    rcases split id held found with ⟨rfl,rfl⟩ | ⟨old,found⟩
    · exact Nat.lt_succ_self _
    · exact Nat.lt_succ_of_lt (consistent.minted id held found)
  · intro id held found
    rcases split id held found with ⟨rfl,rfl⟩ | ⟨old,found⟩
    · exact on
    · exact onChain id held found

variable (cron) in
/-- What stays of the lookup ids in use before: each is as it was, and a lookup id that
was not in use and was minted before is not in use again. -/
structure Extends (before after : Lookup) : Prop where
  counter : before.lookupId ≤ after.lookupId
  kept : ∀ id config, before.triggerConfigs.get id = some config →
    after.triggerConfigs.get id = some config ∧ Untouched cron before after id
  new : ∀ id config, after.triggerConfigs.get id = some config → id < before.lookupId →
    before.triggerConfigs.get id = some config

theorem Extends.trans {first second third : Lookup} (one : Extends cron first second)
    (two : Extends cron second third) : Extends cron first third where
  counter := one.counter.trans two.counter
  kept id config found :=
    have middle := one.kept id config found
    have last := two.kept id config middle.1
    ⟨last.1,middle.2.trans last.2⟩
  new id config found minted :=
    one.new id config (two.new id config found (minted.trans_le one.counter)) minted

theorem Registered.extends {before after : Lookup} {config : TriggerConfig}
    (added : Registered cron before after config) (consistent : Consistent cron before) :
    Extends cron before after where
  counter := by
    rw [added.counter]
    exact Nat.le_succ _
  kept id held found := by
    have old : id ≠ before.lookupId := (consistent.minted id held found).ne
    exact ⟨by rw [added.configs,if_neg old]; exact found,added.untouched id old⟩
  new id held found minted := by
    rw [added.configs,if_neg minted.ne] at found
    exact found

theorem extends_refl (self : Lookup) : Extends cron self self where
  counter := Nat.le_refl _
  kept id _ found := ⟨found,(cleared_nil cron self).untouched id List.not_mem_nil⟩
  new _ _ found _ := found

theorem consistent_addTriggers (chain : ChainKey) (configs : List TriggerConfig) (before next : Lookup)
    (consistent : Consistent cron before) (onChain : before.OnChain chain)
    (on : ∀ config ∈ configs, StellarOn chain config.trigger)
    (free : ∀ config ∈ configs, before.workflowLookup config.serviceId config.workflowId = none)
    (distinct : configs.Pairwise (fun a b => ¬(b.serviceId = a.serviceId ∧ b.workflowId = a.workflowId)))
    (result : addTriggers cron before configs = (next,.ok ())) :
    Consistent cron next ∧ next.OnChain chain ∧ Extends cron before next := by
  induction configs generalizing before with
  | nil =>
    cases result
    exact ⟨consistent,onChain,extends_refl _⟩
  | cons config rest ih =>
    obtain ⟨apart,distinct⟩ := List.pairwise_cons.mp distinct
    unfold addTriggers at result
    split at result
    · cases result
    · next middle first =>
      obtain ⟨consistentMiddle,onChainMiddle,added⟩ := consistent_addTrigger chain before middle config
        consistent onChain (on config List.mem_cons_self) (free config List.mem_cons_self) first
      obtain ⟨consistentNext,onChainNext,grown⟩ := ih middle consistentMiddle onChainMiddle
        (fun other member => on other (List.mem_cons_of_mem _ member))
        (fun other member => by
          rw [added.workflows,if_neg (apart other member)]
          exact free other (List.mem_cons_of_mem _ member))
        distinct result
      exact ⟨consistentNext,onChainNext,(added.extends consistent).trans grown⟩

/-- A service has one trigger for each of its workflows. -/
theorem serviceTriggers_distinct (id : ServiceId) (service : Service) :
    (serviceTriggers id service).Pairwise
      (fun a b => ¬(b.serviceId = a.serviceId ∧ b.workflowId = a.workflowId)) := by
  unfold serviceTriggers
  rw [List.pairwise_map]
  apply service.workflows.ascending.imp
  intro a b below same
  simp only at same
  rw [same.2] at below
  exact irrefl_of (· < ·) a.1 below

theorem consistent_serviceManager (before : Lookup) (manager : BiMap ServiceId ChainAddress)
    (consistent : Consistent cron before) : Consistent cron {before with serviceManager := manager} := by
  have same : ∀ id, Untouched cron before {before with serviceManager := manager} id :=
    untouched_registry before _ _ _ _
  refine {consistent with placed := ?_, held := ?_, sound := {consistent.sound with}}
  · intro place id
    rw [(same id).lists]
    exact consistent.placed place id
  · intro id config found
    exact (same id).holds config.trigger (consistent.held id config found)

theorem consistent_addService (prim : IdPrimitives) (chain : ChainKey) (service : Service)
    (before next : Lookup) (consistent : Consistent cron before) (onChain : before.OnChain chain)
    (on : ∀ config ∈ serviceTriggers (service.id prim) service, StellarOn chain config.trigger)
    (free : ∀ config ∈ serviceTriggers (service.id prim) service,
      before.workflowLookup config.serviceId config.workflowId = none)
    (result : addService cron prim before service = (next,.ok ())) :
    Consistent cron next ∧ next.OnChain chain ∧ Extends cron before next := by
  unfold addService at result
  obtain ⟨consistentNext,onChainNext,grown⟩ := consistent_addTriggers chain _ _ next
    (consistent_serviceManager before
      (before.serviceManager.insert (service.id prim) service.manager.address) consistent) onChain on free
    (serviceTriggers_distinct (service.id prim) service) result
  refine ⟨consistentNext,onChainNext,⟨grown.counter,?_,grown.new⟩⟩
  intro id config found
  obtain ⟨kept,untouched⟩ := grown.kept id config found
  exact ⟨kept,(untouched_registry before _ _ _ _ id).trans untouched⟩

variable (cron) in
/-- What a successful removal does: the lookup ids lose their configurations, their
workflows and their places, and nothing else has changed. -/
structure Unregistered (before after : Lookup) (ids : List LookupId) : Prop where
  configs : ∀ id, after.triggerConfigs.get id =
    if id ∈ ids then none else before.triggerConfigs.get id
  workflows : ∀ serviceId workflowId id, after.workflowLookup serviceId workflowId = some id ↔
    before.workflowLookup serviceId workflowId = some id ∧ id ∉ ids
  counter : after.lookupId = before.lookupId
  gone : ∀ place id, id ∈ ids → ¬after.Lists place id
  untouched : ∀ id, id ∉ ids → Untouched cron before after id
  sound : after.Sound cron

theorem Unregistered.consistent {before after : Lookup} {ids : List LookupId}
    (removed : Unregistered cron before after ids) (consistent : Consistent cron before) :
    Consistent cron after := by
  have split : ∀ id config, after.triggerConfigs.get id = some config →
      id ∉ ids ∧ before.triggerConfigs.get id = some config := by
    intro id config found
    rw [removed.configs] at found
    split at found
    · cases found
    · next kept => exact ⟨kept,found⟩
  refine ⟨?_,?_,?_,?_,removed.sound,?_⟩
  · intro id config found
    obtain ⟨kept,found⟩ := split id config found
    exact (removed.workflows _ _ _).mpr ⟨consistent.registered id config found,kept⟩
  · intro serviceId workflowId id found
    obtain ⟨found,kept⟩ := (removed.workflows _ _ _).mp found
    obtain ⟨trigger,known⟩ := consistent.known serviceId workflowId id found
    exact ⟨trigger,by rw [removed.configs,if_neg kept]; exact known⟩
  · intro place id
    rw [removed.configs]
    by_cases gone : id ∈ ids
    · simp [gone,removed.gone place id gone]
    · rw [(removed.untouched id gone).lists,consistent.placed,if_neg gone]
  · intro id config found
    obtain ⟨kept,found⟩ := split id config found
    exact (removed.untouched id kept).holds config.trigger (consistent.held id config found)
  · intro id config found
    rw [removed.counter]
    exact consistent.minted id config (split id config found).2

/-- Two workflows with one lookup id are the same workflow. -/
theorem Consistent.workflow_unique {self : Lookup} (consistent : Consistent cron self)
    (serviceId otherService : ServiceId) (workflowId otherWorkflow : WorkflowId) (id : LookupId)
    (first : self.workflowLookup serviceId workflowId = some id)
    (second : self.workflowLookup otherService otherWorkflow = some id) :
    otherService = serviceId ∧ otherWorkflow = workflowId := by
  obtain ⟨trigger,found⟩ := consistent.known _ _ _ first
  obtain ⟨otherTrigger,again⟩ := consistent.known _ _ _ second
  rw [found] at again
  cases again
  exact ⟨rfl,rfl⟩

theorem unregistered_removeWorkflow (before next : Lookup) (serviceId : ServiceId) (workflowId : WorkflowId)
    (consistent : Consistent cron before)
    (result : removeWorkflow cron before serviceId workflowId = (next,.ok ())) :
    ∃ id, before.workflowLookup serviceId workflowId = some id ∧
      Unregistered cron before next [id] := by
  unfold removeWorkflow at result
  split at result
  · cases result
  · next workflows service =>
    split at result
    · cases result
    · next id workflow =>
      have lookup : before.workflowLookup serviceId workflowId = some id := by
        simp [LookupMaps.workflowLookup,service,workflow]
      refine ⟨id,lookup,?_⟩
      simp only at result
      have start : ∀ other, Untouched cron before {before with
          triggersByServiceWorkflow :=
            before.triggersByServiceWorkflow.insert serviceId (workflows.remove workflowId)} other :=
        untouched_registry before _ _ _ _
      split at result
      · cases result
      · next middle removed =>
        have only : OnlyPlaced {before with
            triggersByServiceWorkflow :=
              before.triggersByServiceWorkflow.insert serviceId (workflows.remove workflowId)} id := by
          intro place listed
          rw [(start id).lists] at listed
          exact consistent.onlyPlaced id place listed
        have cleared := cleared_removeLookup cron _ middle id only removed
        have finish : ∀ other, Untouched cron middle next other := by
          cases result
          exact untouched_registry middle _ _ _ _
        refine ⟨?_,?_,?_,?_,?_,?_⟩
        · cases result
          intro other
          simp only [HashMap.get_remove,cleared.same.configs,List.mem_singleton]
        · cases result
          intro otherService otherWorkflow other
          simp only [LookupMaps.workflowLookup,cleared.same.workflows,HashMap.get_insert]
          by_cases here : otherService = serviceId
          · subst otherService
            simp only [if_true,Option.bind_some,service,BTreeMap.get_remove]
            by_cases same : otherWorkflow = workflowId
            · subst otherWorkflow
              simp [workflow,eq_comm]
            · simp only [same,if_false,List.mem_singleton,iff_self_and]
              intro found twice
              subst twice
              have also : before.workflowLookup serviceId otherWorkflow = some other := by
                simp [LookupMaps.workflowLookup,service,found]
              exact same (consistent.workflow_unique _ _ _ _ _ lookup also).2
          · simp only [here,if_false,List.mem_singleton,iff_self_and]
            intro found twice
            subst twice
            exact here (consistent.workflow_unique _ _ _ _ _ lookup found).1
        · cases result
          exact cleared.same.counter
        · intro place other member
          rw [(finish other).lists]
          exact cleared.gone place other member
        · intro other absent
          exact (start other).trans ((cleared.untouched other absent).trans (finish other))
        · cases result
          exact {cleared.sound {consistent.sound with} with}

theorem get_foldl_remove (configs : HashMap LookupId TriggerConfig) (ids : List LookupId) (id : LookupId) :
    (ids.foldl (fun configs id => configs.remove id) configs).get id =
      if id ∈ ids then none else configs.get id := by
  induction ids generalizing configs with
  | nil => simp
  | cons first rest ih =>
    rw [List.foldl_cons,ih,HashMap.get_remove]
    by_cases same : id = first
    · simp [same]
    · simp [same]

theorem unregistered_removeService (before next : Lookup) (serviceId : ServiceId)
    (consistent : Consistent cron before)
    (result : removeService cron before serviceId = (next,.ok ())) :
    ∃ ids, (∀ workflowId id, before.workflowLookup serviceId workflowId = some id → id ∈ ids) ∧
      (∀ id ∈ ids, ∃ workflowId, before.workflowLookup serviceId workflowId = some id) ∧
      Unregistered cron before next ids := by
  unfold removeService at result
  simp only at result
  have start : ∀ id, Untouched cron before {before with
      serviceManager := before.serviceManager.removeByLeft serviceId} id :=
    untouched_registry before _ _ _ _
  split at result
  · next missing =>
    have none' : ∀ workflowId, before.workflowLookup serviceId workflowId = none := by
      intro workflowId
      simp [LookupMaps.workflowLookup,missing]
    cases result
    refine ⟨[],?_,?_,⟨fun _ => rfl,?_,rfl,?_,fun id _ => start id,{consistent.sound with}⟩⟩
    · intro workflowId id found
      rw [none'] at found
      cases found
    · intro id member
      cases member
    · intro otherService workflowId id
      simp [LookupMaps.workflowLookup]
    · intro place id member
      cases member
  · next workflows service =>
    have lookups : ∀ workflowId, before.workflowLookup serviceId workflowId = workflows.get workflowId := by
      intro workflowId
      simp [LookupMaps.workflowLookup,service]
    have member : ∀ workflowId id, before.workflowLookup serviceId workflowId = some id →
        id ∈ workflows.entries.map Prod.snd := by
      intro workflowId id found
      rw [lookups,BTreeMap.get_iff] at found
      exact List.mem_map_of_mem found
    have owner : ∀ id ∈ workflows.entries.map Prod.snd,
        ∃ workflowId, before.workflowLookup serviceId workflowId = some id := by
      intro id inside
      obtain ⟨entry,listed,rfl⟩ := List.mem_map.mp inside
      exact ⟨entry.1,by rw [lookups,BTreeMap.get_iff]; exact listed⟩
    refine ⟨workflows.entries.map Prod.snd,member,owner,?_⟩
    split at result
    · cases result
    · next middle removed =>
      have only : ∀ id ∈ workflows.entries.map Prod.snd, OnlyPlaced {before with
          serviceManager := before.serviceManager.removeByLeft serviceId} id := by
        intro id _ place listed
        rw [(start id).lists] at listed
        exact consistent.onlyPlaced id place listed
      have cleared := cleared_removeTriggers cron _ _ middle only removed
      have finish : ∀ id, Untouched cron middle next id := by
        cases result
        exact untouched_registry middle _ _ _ _
      refine ⟨?_,?_,?_,?_,?_,?_⟩
      · cases result
        intro id
        rw [get_foldl_remove,cleared.same.configs]
      · cases result
        intro otherService workflowId id
        simp only [LookupMaps.workflowLookup,cleared.same.workflows,HashMap.get_remove]
        by_cases here : otherService = serviceId
        · subst otherService
          constructor
          · intro found
            simp at found
          · rintro ⟨found,outside⟩
            exact absurd (member workflowId id found) outside
        · simp only [here,if_false,iff_self_and]
          intro found inside
          obtain ⟨otherWorkflow,also⟩ := owner id inside
          exact here (consistent.workflow_unique _ _ _ _ _ also found).1
      · cases result
        exact cleared.same.counter
      · intro place id inside
        rw [(finish id).lists]
        exact cleared.gone place id inside
      · intro id outside
        exact (start id).trans ((cleared.untouched id outside).trans (finish id))
      · cases result
        exact {cleared.sound {consistent.sound with} with}

end Consistent

/-- The operations on the lookup maps. -/
inductive Op
  | addService (service : Service)
  | addTrigger (config : TriggerConfig)
  | removeWorkflow (serviceId : ServiceId) (workflowId : WorkflowId)
  | removeService (serviceId : ServiceId)

section Run

variable (cron) (prim : IdPrimitives)

def Op.apply (self : Lookup) : Op → Lookup × Except TriggerError Unit
  | .addService service => Lookup.addService cron prim self service
  | .addTrigger config => Lookup.addTrigger cron self config
  | .removeWorkflow serviceId workflowId => Lookup.removeWorkflow cron self serviceId workflowId
  | .removeService serviceId => Lookup.removeService cron self serviceId

/-- The triggers an operation adds. -/
def Op.added : Op → List TriggerConfig
  | .addService service => serviceTriggers (service.id prim) service
  | .addTrigger config => [config]
  | _ => []

/-- The operation removes this trigger. -/
def Op.Removes : Op → TriggerConfig → Prop
  | .removeWorkflow serviceId workflowId,config => config.serviceId = serviceId ∧ config.workflowId = workflowId
  | .removeService serviceId,config => config.serviceId = serviceId
  | _,_ => False

/-- An operation that returns `Ok` and registers no workflow that is registered. -/
def stepOp (self : Lookup) (op : Op) : Option Lookup :=
  match op.apply cron prim self with
  | (_,.error _) => none
  | (next,.ok ()) =>
    if ∀ config ∈ op.added prim, self.workflowLookup config.serviceId config.workflowId = none then some next
    else none

/-- What one operation keeps: every trigger it does not remove, with all its entries, and
every lookup id minted before it and not in use is still not in use. -/
structure Keeps (before : Lookup) (op : Op) (after : Lookup) : Prop where
  counter : before.lookupId ≤ after.lookupId
  kept : ∀ id config, before.triggerConfigs.get id = some config → ¬op.Removes config →
    after.triggerConfigs.get id = some config ∧ Untouched cron before after id
  new : ∀ id config, after.triggerConfigs.get id = some config → id < before.lookupId →
    before.triggerConfigs.get id = some config

variable {cron}

theorem Extends.keeps {before after : Lookup} (grown : Extends cron before after) (op : Op) :
    Keeps cron before op after :=
  ⟨grown.counter,fun id config found _ => grown.kept id config found,grown.new⟩

theorem Unregistered.keeps {before after : Lookup} {ids : List LookupId}
    (removed : Unregistered cron before after ids) (op : Op)
    (inside : ∀ id ∈ ids, ∀ config, before.triggerConfigs.get id = some config → op.Removes config) :
    Keeps cron before op after := by
  refine ⟨removed.counter.ge,?_,?_⟩
  · intro id config found stays
    have outside : id ∉ ids := fun member => stays (inside id member config found)
    exact ⟨by rw [removed.configs,if_neg outside]; exact found,removed.untouched id outside⟩
  · intro id config found _
    rw [removed.configs] at found
    split at found
    · cases found
    · exact found

theorem Unregistered.onChain {before after : Lookup} {ids : List LookupId}
    (removed : Unregistered cron before after ids) (chain : ChainKey)
    (onChain : before.OnChain chain) : after.OnChain chain := by
  intro id config found
  rw [removed.configs] at found
  split at found
  · cases found
  · exact onChain id config found

theorem consistent_stepOp (chain : ChainKey) (before next : Lookup) (op : Op)
    (taken : stepOp cron prim before op = some next)
    (on : ∀ config ∈ op.added prim, StellarOn chain config.trigger)
    (inv : Consistent cron before ∧ before.OnChain chain) :
    (Consistent cron next ∧ next.OnChain chain) ∧ Keeps cron before op next := by
  obtain ⟨consistent,onChain⟩ := inv
  unfold stepOp at taken
  split at taken
  · cases taken
  · next after result =>
    split at taken
    · next free =>
      cases taken
      cases op with
      | addService service =>
        obtain ⟨consistentNext,onChainNext,grown⟩ :=
          consistent_addService prim chain service before next consistent onChain on free result
        exact ⟨⟨consistentNext,onChainNext⟩,grown.keeps _⟩
      | addTrigger config =>
        obtain ⟨consistentNext,onChainNext,added⟩ := consistent_addTrigger chain before next config
          consistent onChain (on config List.mem_cons_self) (free config List.mem_cons_self) result
        exact ⟨⟨consistentNext,onChainNext⟩,(added.extends consistent).keeps _⟩
      | removeWorkflow serviceId workflowId =>
        obtain ⟨id,lookup,removed⟩ :=
          unregistered_removeWorkflow before next serviceId workflowId consistent result
        refine ⟨⟨removed.consistent consistent,removed.onChain chain onChain⟩,removed.keeps _ ?_⟩
        intro other member config found
        rw [List.mem_singleton] at member
        subst member
        exact consistent.workflow_unique _ _ _ _ _ lookup (consistent.registered _ config found)
      | removeService serviceId =>
        obtain ⟨ids,_,owner,removed⟩ := unregistered_removeService before next serviceId consistent result
        refine ⟨⟨removed.consistent consistent,removed.onChain chain onChain⟩,removed.keeps _ ?_⟩
        intro id member config found
        obtain ⟨workflowId,lookup⟩ := owner id member
        exact (consistent.workflow_unique _ _ _ _ _ lookup (consistent.registered _ config found)).1
    · cases taken

/-- A lookup id minted by some point of a run and in use at its end is in use at that
point for the same trigger. -/
theorem never_reused (first last : Lookup) (ops : List Op)
    (reached : run (stepOp cron prim) first ops = some last)
    (keeps : Along (stepOp cron prim) (Keeps cron) first ops) :
    first.lookupId ≤ last.lookupId ∧ ∀ id config, last.triggerConfigs.get id = some config →
      id < first.lookupId → first.triggerConfigs.get id = some config := by
  induction ops generalizing first with
  | nil =>
    cases reached
    exact ⟨Nat.le_refl _,fun _ _ found _ => found⟩
  | cons op rest ih =>
    obtain ⟨next,taken,reached⟩ := (run_cons _ _ _ _).mp reached
    obtain ⟨now,later⟩ := (along_cons _ _ _ _ _ taken).mp keeps
    obtain ⟨counter,older⟩ := ih next reached later
    refine ⟨now.counter.trans counter,?_⟩
    intro id config found minted
    exact now.new id config (older id config found (minted.trans_le now.counter)) minted

/-- The lookup maps before any operation, with the Stellar controllers they are handed. -/
def fresh (controllers : StellarControllers) : Lookup :=
  {LookupMaps.new with stellarControllers := controllers}

theorem lookup_maps_stay_consistent (controllers : StellarControllers) (chain : ChainKey) (ops : List Op)
    (final : Lookup) (reached : run (stepOp cron prim) (fresh controllers) ops = some final)
    (single : ∀ op ∈ ops, ∀ config ∈ op.added prim, StellarOn chain config.trigger) :
    Consistent cron final ∧ Along (stepOp cron prim) (Keeps cron) (fresh controllers) ops ∧
      ∀ earlier later middle, ops = earlier ++ later →
        run (stepOp cron prim) (fresh controllers) earlier = some middle →
        ∀ id config, final.triggerConfigs.get id = some config → id < middle.lookupId →
          middle.triggerConfigs.get id = some config := by
  have along : Along (stepOp cron prim)
      (fun _ op _ => ∀ config ∈ op.added prim, StellarOn chain config.trigger) (fresh controllers) ops :=
    along_of_forall _ _ _ (fun op member _ _ => single op member)
  have empty : (fresh controllers).OnChain chain := by
    intro id config found
    simp [fresh,LookupMaps.new] at found
  obtain ⟨keeps,consistent,_⟩ := along_of_invariant _ (Keeps cron) _
    (fun before op next taken on inv => consistent_stepOp prim chain before next op taken on inv)
    (fresh controllers) final ops reached along ⟨consistent_new cron controllers,empty⟩
  refine ⟨consistent,keeps,?_⟩
  intro earlier later middle split before
  subst split
  obtain ⟨between,first,second⟩ := (run_append _ _ _ _).mp reached
  rw [before] at first
  cases first
  exact (never_reused prim middle final later second
    (along_append _ middle earlier later before keeps)).2

end Run

end Lookup

def testnet : ChainKey := ⟨.stellar,testnetId⟩

/-- `ScVal::Symbol("transfer")`. -/
def transferSymbol : ScVal := ⟨[0,0,0,15,0,0,0,8] ++ utf8 "transfer"⟩

def transferTrigger (chain : ChainKey) : Trigger :=
  .stellarContractEvent chain "CABCD" [.exact transferSymbol]

def logTrigger : Trigger := .evmContractEvent deployedManager localChain (FixedBytes.filled 32 1)

def secondWorkflow : WorkflowId := ⟨"second",by decide⟩

/-- The deployed service with one EVM trigger and one Stellar trigger. -/
def watchingService : Service :=
  {deployedService with
    workflows := ⟨[(observedWorkflow,⟨logTrigger,noopComponent,.none⟩),
      (secondWorkflow,⟨transferTrigger testnet,noopComponent,.none⟩)],by decide⟩}

def deployedId : ServiceId :=
  ⟨FixedBytes.ofNat 32 0x76d41ff256803de151fce2ed99d145cf985af50e6def0809072e9f68932f5d11⟩

/-- SHA-256 on the one preimage the schedules look up. -/
def deployedIds : IdPrimitives where
  sha256 bytes := if bytes = utf8 "evmevm:31337" ++ deployedManager.toList then deployedId.inner
    else FixedBytes.filled 32 0
  cosmosBytes _ := []

/-- The cron crate on the one expression the schedules use. -/
def everyMinute : CronLib where
  parse expression := if expression = "0 * * * * *" then .ok () else .error "Invalid expression"
  after _ _ _ := none

def idleController : StellarStreamController := ⟨false,.new .firstVersions⟩

def oneController : StellarControllers := HashMap.new.insert testnet idleController

def consistentSchedule : List Lookup.Op :=
  [.addService watchingService,
    .addTrigger ⟨deployedId,⟨"third",by decide⟩,.cron "0 * * * * *" none none⟩,
    .removeWorkflow deployedId secondWorkflow,
    .addTrigger ⟨deployedId,secondWorkflow,transferTrigger testnet⟩,
    .removeService deployedId]

theorem consistentSchedule_stays_consistent :
    ∃ final, run (Lookup.stepOp everyMinute deployedIds) (Lookup.fresh oneController) consistentSchedule =
      some final ∧ Lookup.Consistent everyMinute final := by
  have runs : (run (Lookup.stepOp everyMinute deployedIds) (Lookup.fresh oneController)
      consistentSchedule).isSome = true := by
    decide +kernel
  obtain ⟨final,reached⟩ := Option.isSome_iff_exists.mp runs
  have single : ∀ op ∈ consistentSchedule, ∀ config ∈ op.added deployedIds,
      Lookup.StellarOn testnet config.trigger := by
    decide +kernel
  exact ⟨final,reached,(Lookup.lookup_maps_stay_consistent deployedIds oneController testnet
    consistentSchedule final reached single).1⟩

end Warpdrive.Trigger
