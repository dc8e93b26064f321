import Warpdrive.Trigger.Registration
import Warpdrive.Trigger.StellarIndex

/-! Filter handles that belong to no trigger. The lookup maps share the clients of the
Stellar chains with the watcher, which adds filters of its own; what the maps do to their
triggers leaves the handles of the watcher as they are. -/
namespace Warpdrive.Trigger

open Warpdrive.Foundation Warpdrive.Types

/-- The handles that the client has minted stay minted, and the owned ones name the filters they named. -/
structure EventFilters.Retains (owned : StellarRpcId → Prop) (before after : EventFilters) : Prop where
  minted : ∀ rpcId, before.list.Minted rpcId → after.list.Minted rpcId
  list : ∀ rpcId, before.list.Minted rpcId → owned rpcId → after.list.get rpcId = before.list.get rpcId
  handles : ∀ rpcId, before.list.Minted rpcId → owned rpcId → ∀ filter,
    before.Handles rpcId filter → after.Handles rpcId filter

namespace EventFilters

variable {owned : StellarRpcId → Prop}

theorem Retains.refl (self : EventFilters) : Retains owned self self :=
  ⟨fun _ minted => minted,fun _ _ _ => rfl,fun _ _ _ _ handles => handles⟩

theorem Retains.trans {first second third : EventFilters} (one : Retains owned first second)
    (two : Retains owned second third) : Retains owned first third where
  minted rpcId old := two.minted rpcId (one.minted rpcId old)
  list rpcId old own := (two.list rpcId (one.minted rpcId old) own).trans (one.list rpcId old own)
  handles rpcId old own filter here :=
    two.handles rpcId (one.minted rpcId old) own filter (one.handles rpcId old own filter here)

theorem retains_addFilter (self : EventFilters) (filter : StellarEventFilter) :
    Retains owned self (self.addFilter filter).2 where
  minted _ old := old.insert filter
  list rpcId old _ := by rw [list_addFilter,if_neg old.ne_next]
  handles rpcId old _ other := (self.handles_addFilter_other filter other rpcId old.ne_next).mpr

theorem minted_removeFilterById (self : EventFilters) (id rpcId : StellarRpcId) :
    (self.removeFilterById id).list.Minted rpcId ↔ self.list.Minted rpcId := by
  unfold removeFilterById
  split
  · rfl
  · simp only
    split
    · rfl
    · split <;> rfl

theorem retains_removeFilterById (self : EventFilters) (id : StellarRpcId) (free : ¬owned id) :
    Retains owned self (self.removeFilterById id) where
  minted rpcId := (self.minted_removeFilterById id rpcId).mpr
  list rpcId _ own := by
    have apart : rpcId ≠ id := fun same => free (same ▸ own)
    rw [list_removeFilterById,if_neg apart]
  handles rpcId _ own filter := by
    have apart : rpcId ≠ id := fun same => free (same ▸ own)
    exact (self.handles_removeFilterById id rpcId filter apart).mpr

end EventFilters

/-- No controller goes, and the owned handles of each are kept. -/
structure StellarControllers.Keeps (owned : ChainKey → StellarRpcId → Prop)
    (before after : StellarControllers) : Prop where
  present : ∀ chain controller, before.get chain = some controller → ∃ next, after.get chain = some next ∧
    controller.eventFilters.Retains (owned chain) next.eventFilters

/-- No controller comes either. -/
structure StellarControllers.Retains (owned : ChainKey → StellarRpcId → Prop)
    (before after : StellarControllers) : Prop extends Keeps owned before after where
  absent : ∀ chain, before.get chain = none → after.get chain = none

namespace StellarControllers

variable {owned : ChainKey → StellarRpcId → Prop}

theorem Retains.refl (self : StellarControllers) : Retains owned self self :=
  ⟨⟨fun _ controller found => ⟨controller,found,.refl _⟩⟩,fun _ missing => missing⟩

theorem Retains.trans {first second third : StellarControllers} (one : Retains owned first second)
    (two : Retains owned second third) : Retains owned first third where
  absent chain missing := two.absent chain (one.absent chain missing)
  present chain controller found := by
    obtain ⟨middle,between,kept⟩ := one.present chain controller found
    obtain ⟨next,last,again⟩ := two.present chain middle between
    exact ⟨next,last,kept.trans again⟩

theorem retains_insert (self : StellarControllers) (chain : ChainKey) (controller next : StellarStreamController)
    (found : self.get chain = some controller)
    (kept : controller.eventFilters.Retains (owned chain) next.eventFilters) :
    Retains owned self (self.insert chain next) where
  absent other missing := by
    have apart : other ≠ chain := by
      intro same
      rw [same,found] at missing
      cases missing
    rw [HashMap.get_insert_ne _ _ _ _ apart]
    exact missing
  present other current here := by
    by_cases same : other = chain
    · subst other
      rw [found] at here
      cases here
      exact ⟨next,HashMap.get_insert_self _ _ _,kept⟩
    · exact ⟨current,(HashMap.get_insert_ne _ _ _ _ same).trans here,.refl _⟩

end StellarControllers

namespace Lookup

variable (cron : CronLib)

/-- The client of the chain has minted the handle. -/
def Minted (self : Lookup) (chain : ChainKey) (rpcId : StellarRpcId) : Prop :=
  ∃ controller, self.stellarControllers.get chain = some controller ∧ controller.eventFilters.list.Minted rpcId

/-- The handle names a filter in the client of the chain. -/
def Live (self : Lookup) (chain : ChainKey) (rpcId : StellarRpcId) : Prop :=
  ∃ controller, self.stellarControllers.get chain = some controller ∧
    controller.eventFilters.list.get rpcId ≠ none

/-- The handles of the triggers and the owned ones are minted and apart. -/
structure Apart (owned : ChainKey → StellarRpcId → Prop) (maps : Lookup) : Prop where
  counted : ∀ id config, maps.triggerConfigs.get id = some config → id < maps.lookupId
  backed : maps.StellarBacked
  trigger : ∀ rpcId id config chain, maps.triggersByStellarContractEvent.Relates rpcId id →
    maps.triggerConfigs.get id = some config → stellarChain config.trigger = some chain →
    ¬owned chain rpcId ∧ maps.Minted chain rpcId
  minted : ∀ chain rpcId, owned chain rpcId → maps.Minted chain rpcId

/-- The maps keep the owned handles and stay apart from them. -/
structure Spares (owned : ChainKey → StellarRpcId → Prop) (before after : Lookup) : Prop where
  retains : before.stellarControllers.Retains owned after.stellarControllers
  apart : Apart owned after

variable {owned : ChainKey → StellarRpcId → Prop}

theorem Minted.retained {before after : Lookup} {chain : ChainKey} {rpcId : StellarRpcId}
    (minted : before.Minted chain rpcId)
    (keeps : before.stellarControllers.Keeps owned after.stellarControllers) : after.Minted chain rpcId := by
  obtain ⟨controller,found,old⟩ := minted
  obtain ⟨next,here,kept⟩ := keeps.present chain controller found
  exact ⟨next,here,kept.minted rpcId old⟩

theorem Handles.retained {before after : Lookup} {chain : ChainKey} {rpcId : StellarRpcId}
    {filter : StellarEventFilter} (handles : before.Handles chain rpcId filter)
    (keeps : before.stellarControllers.Keeps owned after.stellarControllers) (own : owned chain rpcId)
    (minted : before.Minted chain rpcId) : after.Handles chain rpcId filter := by
  obtain ⟨controller,found,named⟩ := handles
  obtain ⟨_,again,old⟩ := minted
  rw [found] at again
  cases again
  obtain ⟨next,here,kept⟩ := keeps.present chain controller found
  exact ⟨next,here,kept.handles rpcId old own filter named⟩

theorem Live.retained {before after : Lookup} {chain : ChainKey} {rpcId : StellarRpcId}
    (live : after.Live chain rpcId)
    (keeps : before.stellarControllers.Keeps owned after.stellarControllers) (own : owned chain rpcId)
    (minted : before.Minted chain rpcId) : before.Live chain rpcId := by
  obtain ⟨controller,found,old⟩ := minted
  obtain ⟨next,here,kept⟩ := keeps.present chain controller found
  obtain ⟨_,again,named⟩ := live
  rw [here] at again
  cases again
  rw [kept.list rpcId old own] at named
  exact ⟨controller,found,named⟩

theorem Spares.trans {first second third : Lookup} (one : Spares owned first second)
    (two : Spares owned second third) : Spares owned first third :=
  ⟨one.retains.trans two.retains,two.apart⟩

/-- A change of the parts that have nothing to do with Stellar. -/
theorem Apart.spares_same {before after : Lookup} (apart : Apart owned before) (same : StellarSame before after)
    (counter : before.lookupId ≤ after.lookupId) : Spares owned before after where
  retains := by
    rw [same.clients]
    exact .refl _
  apart := by
    refine ⟨?_,⟨?_,?_⟩,?_,?_⟩
    · intro id config found
      rw [same.configs] at found
      exact (apart.counted id config found).trans_le counter
    · rw [same.handle,same.configs]
      exact apart.backed.registered
    · rw [same.configs,same.clients]
      exact apart.backed.client
    · intro rpcId id config chain related found chained
      rw [same.handle] at related
      rw [same.configs] at found
      unfold Minted
      rw [same.clients]
      exact apart.trigger rpcId id config chain related found chained
    · unfold Minted
      rw [same.clients]
      exact apart.minted

/-- A change of the controllers alone that drops no handle that was minted. -/
theorem Apart.of_keeps {self : Lookup} {other : ChainKey → StellarRpcId → Prop} (apart : Apart owned self)
    (controllers : StellarControllers) (keeps : self.stellarControllers.Keeps other controllers) :
    Apart owned {self with stellarControllers := controllers} := by
  have minted : ∀ chain rpcId, self.Minted chain rpcId →
      Minted {self with stellarControllers := controllers} chain rpcId := by
    intro chain rpcId old
    exact old.retained keeps
  refine ⟨apart.counted,⟨apart.backed.registered,?_⟩,?_,
    fun chain rpcId own => minted chain rpcId (apart.minted chain rpcId own)⟩
  · intro id config chain found chained
    obtain ⟨controller,present⟩ := Option.ne_none_iff_exists'.mp (apart.backed.client id config chain found chained)
    obtain ⟨next,here,_⟩ := keeps.present chain controller present
    simp [here]
  · intro rpcId id config chain related found chained
    obtain ⟨free,old⟩ := apart.trigger rpcId id config chain related found chained
    exact ⟨free,minted chain rpcId old⟩

/-- One more handle is owned. -/
theorem Apart.own {self : Lookup} {more : ChainKey → StellarRpcId → Prop} (apart : Apart owned self)
    (chain : ChainKey) (rpcId : StellarRpcId) (minted : self.Minted chain rpcId)
    (free : ∀ id config, self.triggersByStellarContractEvent.Relates rpcId id →
      self.triggerConfigs.get id = some config → stellarChain config.trigger ≠ some chain)
    (grown : ∀ on other, more on other → owned on other ∨ on = chain ∧ other = rpcId) : Apart more self where
  counted := apart.counted
  backed := apart.backed
  trigger other id config on related found chained := by
    obtain ⟨apartFrom,old⟩ := apart.trigger other id config on related found chained
    refine ⟨?_,old⟩
    intro own
    rcases grown on other own with before | ⟨rfl,rfl⟩
    · exact apartFrom before
    · exact free id config related found chained
  minted on other own := by
    rcases grown on other own with before | ⟨rfl,rfl⟩
    · exact apart.minted on other before
    · exact minted

theorem retains_insertTrigger (self : Lookup) (lookupId : LookupId) (trigger : Trigger) :
    self.stellarControllers.Retains owned (insertTrigger cron self lookupId trigger).1.stellarControllers := by
  cases trigger with
  | stellarContractEvent chain contractId topicSegments =>
    simp only [insertTrigger]
    split
    · exact .refl _
    · split
      · exact .refl _
      · next controller found =>
        exact self.stellarControllers.retains_insert chain controller _ found
          (controller.eventFilters.retains_addFilter _)
  | blockInterval chain nBlocks startBlock endBlock =>
    simp only [insertTrigger]
    split <;> exact .refl _
  | cron schedule startTime endTime =>
    simp only [insertTrigger]
    split
    · exact .refl _
    · split <;> exact .refl _
  | atProtoEvent collection repoDid action =>
    simp only [insertTrigger]
    split <;> exact .refl _
  | _ => exact .refl _

theorem retains_addTrigger (self : Lookup) (config : TriggerConfig) :
    self.stellarControllers.Retains owned (addTrigger cron self config).1.stellarControllers := by
  have inserted : self.stellarControllers.Retains owned (insertTrigger cron
      {self with lookupId := self.lookupId + 1} self.lookupId config.trigger).1.stellarControllers :=
    retains_insertTrigger cron {self with lookupId := self.lookupId + 1} self.lookupId config.trigger
  simp only [addTrigger]
  split
  · next result =>
    rw [result] at inserted
    exact inserted
  · next result =>
    rw [result] at inserted
    exact inserted

/-- The handle of an accepted Stellar trigger is minted by its own chain's client. -/
theorem minted_addTrigger (before next : Lookup) (config : TriggerConfig) (chain : ChainKey)
    (rpcId : StellarRpcId) (result : addTrigger cron before config = (next,.ok ()))
    (mints : before.mints config.trigger = some (chain,rpcId)) :
    next.Minted chain rpcId ∧ ¬before.Minted chain rpcId := by
  cases shaped : config.trigger with
  | stellarContractEvent on contractId topicSegments =>
    simp only [addTrigger,insertTrigger,shaped] at result
    split at result
    · next refused =>
      cases result
    · next accepted =>
      split at accepted
      · cases accepted
      · split at accepted
        · cases accepted
        · next controller found =>
          cases accepted
          cases result
          simp only [Lookup.mints,shaped,stellarChain,Option.bind_some,found,Option.map_some,
            Option.some.injEq,Prod.mk.injEq] at mints
          obtain ⟨rfl,rfl⟩ := mints
          refine ⟨⟨_,HashMap.get_insert_self _ _ _,(controller.eventFilters.list.minted_insert _ _).mpr (.inl rfl)⟩,?_⟩
          rintro ⟨_,again,old⟩
          rw [found] at again
          cases again
          exact controller.eventFilters.list.not_minted_next old
  | _ => simp [Lookup.mints,shaped,stellarChain] at mints

theorem spares_addTrigger (before next : Lookup) (config : TriggerConfig) (apart : Apart owned before)
    (result : addTrigger cron before config = (next,.ok ())) : Spares owned before next := by
  have retains : before.stellarControllers.Retains owned (addTrigger cron before config).1.stellarControllers :=
    retains_addTrigger cron before config
  have effect := stellarAdded_addTrigger cron before next config result
  rw [result] at retains
  have old : ∀ id held, next.triggerConfigs.get id = some held →
      id = before.lookupId ∧ held = config ∨ id < before.lookupId ∧ before.triggerConfigs.get id = some held := by
    intro id held found
    rw [effect.configs] at found
    split at found
    · next same => exact .inl ⟨same,(Option.some.inj found).symm⟩
    · exact .inr ⟨apart.counted id held found,found⟩
  have related : ∀ rpcId id, next.triggersByStellarContractEvent.Relates rpcId id →
      id = before.lookupId ∧ (∃ chain, before.mints config.trigger = some (chain,rpcId)) ∨
        id < before.lookupId ∧ before.triggersByStellarContractEvent.Relates rpcId id := by
    intro rpcId id here
    rw [effect.handle] at here
    split at here
    · next chain minted mints =>
      rcases here with ⟨rfl,rfl⟩ | ⟨_,_,before⟩
      · exact .inl ⟨rfl,chain,mints⟩
      · obtain ⟨held,found,_⟩ := apart.backed.registered rpcId id before
        exact .inr ⟨apart.counted id held found,before⟩
    · obtain ⟨held,found,_⟩ := apart.backed.registered rpcId id here
      exact .inr ⟨apart.counted id held found,here⟩
  have minting : ∀ chain rpcId, before.mints config.trigger = some (chain,rpcId) →
      stellarChain config.trigger = some chain := by
    intro chain rpcId mints
    unfold Lookup.mints at mints
    cases chained : stellarChain config.trigger with
    | none => simp [chained] at mints
    | some on =>
      simp only [chained,Option.bind_some,Option.map_eq_some_iff,Prod.mk.injEq] at mints
      obtain ⟨_,_,rfl,_⟩ := mints
      rfl
  refine ⟨retains,?_,⟨?_,?_⟩,?_,fun chain rpcId own => (apart.minted chain rpcId own).retained retains.toKeeps⟩
  · intro id held found
    rw [effect.counter]
    rcases old id held found with ⟨rfl,_⟩ | ⟨less,_⟩
    · exact Nat.lt_succ_self _
    · exact Nat.lt_succ_of_lt less
  · intro rpcId id here
    rcases related rpcId id here with ⟨rfl,chain,mints⟩ | ⟨less,before⟩
    · exact ⟨config,by rw [effect.configs,if_pos rfl],by simp [minting chain rpcId mints]⟩
    · obtain ⟨held,found,stellar⟩ := apart.backed.registered rpcId id before
      exact ⟨held,by rw [effect.configs,if_neg less.ne,found],stellar⟩
  · intro id held chain found chained
    rcases old id held found with ⟨rfl,rfl⟩ | ⟨_,found⟩
    · obtain ⟨rpcId,mints⟩ := effect.minted chain chained
      obtain ⟨⟨controller,here,_⟩,_⟩ := minted_addTrigger cron before next held chain rpcId result mints
      simp [here]
    · exact effect.clients chain (apart.backed.client id held chain found chained)
  · intro rpcId id held chain here found chained
    rcases related rpcId id here with ⟨rfl,on,mints⟩ | ⟨less,before⟩
    · rcases old _ held found with ⟨_,rfl⟩ | ⟨less,_⟩
      · have same := (minting on rpcId mints).symm.trans chained
        cases same
        obtain ⟨new,fresh⟩ := minted_addTrigger cron before next held chain rpcId result mints
        exact ⟨fun own => fresh (apart.minted chain rpcId own),new⟩
      · exact absurd less (Nat.lt_irrefl _)
    · rcases old id held found with ⟨rfl,_⟩ | ⟨_,found⟩
      · exact absurd less (Nat.lt_irrefl _)
      · obtain ⟨free,minted⟩ := apart.trigger rpcId id held chain before found chained
        exact ⟨free,minted.retained retains.toKeeps⟩

theorem spares_addTriggers (configs : List TriggerConfig) (self : Lookup) (apart : Apart owned self) :
    Spares owned self (addTriggers cron self configs).1 := by
  induction configs generalizing self with
  | nil => exact ⟨.refl _,apart⟩
  | cons config configs ih =>
    simp only [addTriggers]
    split
    · next next error result =>
      obtain ⟨same,counter⟩ := addTrigger_error cron self next config error result
      exact apart.spares_same same (by rw [counter]; exact Nat.le_succ _)
    · next next result =>
      have first := spares_addTrigger cron self next config apart result
      exact first.trans (ih next first.apart)

/-- `add_service` keeps the owned handles, also where it fails. -/
theorem spares_addService (prim : IdPrimitives) (self : Lookup) (service : Service) (apart : Apart owned self) :
    Spares owned self (addService cron prim self service).1 := by
  let manager := self.serviceManager.insert (service.id prim) service.manager.address
  have managed : Spares owned self {self with serviceManager := manager} :=
    apart.spares_same ⟨rfl,rfl,rfl⟩ (Nat.le_refl _)
  exact managed.trans (spares_addTriggers cron _ _ managed.apart)

theorem retains_removeTrigger (self : Lookup) (lookupId : LookupId) (trigger : Trigger)
    (free : ∀ chain rpcId, stellarChain trigger = some chain →
      self.triggersByStellarContractEvent.Relates rpcId lookupId → ¬owned chain rpcId) :
    self.stellarControllers.Retains owned (removeTrigger cron self lookupId trigger).1.stellarControllers := by
  cases trigger with
  | stellarContractEvent chain contractId topicSegments =>
    simp only [removeTrigger]
    split
    · exact .refl _
    · next rpcId found =>
      split
      · exact .refl _
      · next controller present =>
        exact self.stellarControllers.retains_insert chain controller _ present
          (controller.eventFilters.retains_removeFilterById rpcId
            (free chain rpcId rfl ((BiMap.getByRight_iff _ _ _).mp found)))
  | blockInterval chain nBlocks startBlock endBlock =>
    simp only [removeTrigger]
    split <;> exact .refl _
  | atProtoEvent collection repoDid action =>
    simp only [removeTrigger]
    split <;> exact .refl _
  | _ => exact .refl _

/-- The trigger's handle goes, and only it. -/
theorem spares_removeLookup (self next : Lookup) (id : LookupId) (apart : Apart owned self)
    (result : removeLookup cron self id = (next,.ok ())) : Spares owned self next := by
  obtain ⟨_,again,cleared⟩ := stellarCleared_removeLookup cron self id apart.backed
  rw [result] at again
  cases again
  have retains : self.stellarControllers.Retains owned next.stellarControllers := by
    unfold removeLookup at result
    split at result
    · cases result
      exact .refl _
    · next config found =>
      have kept := retains_removeTrigger cron self id config.trigger (fun chain rpcId chained related =>
        (apart.trigger rpcId id config chain related found chained).1)
      rw [result] at kept
      exact kept
  refine ⟨retains,?_,cleared.backed apart.backed,?_,
    fun chain rpcId own => (apart.minted chain rpcId own).retained retains.toKeeps⟩
  · rw [cleared.configs,cleared.counter]
    exact apart.counted
  · intro rpcId other config chain related found chained
    rw [cleared.configs] at found
    obtain ⟨free,minted⟩ := apart.trigger rpcId other config chain ((cleared.handle rpcId other).mp related).1
      found chained
    exact ⟨free,minted.retained retains.toKeeps⟩

theorem spares_removeTriggers (ids : List LookupId) (self next : Lookup) (apart : Apart owned self)
    (result : removeTriggers cron self ids = (next,.ok ())) : Spares owned self next := by
  induction ids generalizing self with
  | nil =>
    cases result
    exact ⟨.refl _,apart⟩
  | cons id ids ih =>
    simp only [removeTriggers] at result
    split at result
    · cases result
    · next middle first =>
      have removed := spares_removeLookup cron self middle id apart first
      exact removed.trans (ih middle removed.apart result)

/-- `remove_service` succeeds and keeps the owned handles. -/
theorem spares_removeService (self : Lookup) (serviceId : ServiceId) (apart : Apart owned self) :
    ∃ next, removeService cron self serviceId = (next,.ok ()) ∧ Spares owned self next := by
  have managed : Spares owned self {self with serviceManager := self.serviceManager.removeByLeft serviceId} :=
    apart.spares_same ⟨rfl,rfl,rfl⟩ (Nat.le_refl _)
  unfold removeService
  simp only
  split
  · exact ⟨_,rfl,managed⟩
  · next workflows service =>
    obtain ⟨next,removed,cleared⟩ := stellarCleared_removeTriggers cron (workflows.entries.map Prod.snd) _
      managed.apart.backed
    have kept := managed.trans (spares_removeTriggers cron _ _ next managed.apart removed)
    rw [removed]
    refine ⟨_,rfl,kept.retains,?_⟩
    have split : ∀ id config, ((workflows.entries.map Prod.snd).foldl
        (fun configs lookupId => configs.remove lookupId) next.triggerConfigs).get id = some config →
        next.triggerConfigs.get id = some config := by
      intro id config found
      rw [get_foldl_remove] at found
      split at found
      · cases found
      · exact found
    refine ⟨fun id config found => kept.apart.counted id config (split id config found),⟨?_,?_⟩,?_,
      kept.apart.minted⟩
    · intro rpcId id related
      obtain ⟨config,found,stellar⟩ := kept.apart.backed.registered rpcId id related
      refine ⟨config,?_,stellar⟩
      simp only [get_foldl_remove,if_neg ((cleared.handle rpcId id).mp related).2]
      exact found
    · exact fun id config chain found => kept.apart.backed.client id config chain (split id config found)
    · exact fun rpcId id config chain related found =>
        kept.apart.trigger rpcId id config chain related (split id config found)

end Lookup
end Warpdrive.Trigger
