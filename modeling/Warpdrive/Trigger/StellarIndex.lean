import Warpdrive.Trigger.Consistency
import Warpdrive.Trigger.Watcher

/-! Stellar triggers on several chains. The index from filter handles to lookup ids is
shared by all chains, while each chain's client mints handles of its own, for triggers and
for the service URIs that the watcher looks out for. The handle that a chain's client mints
for a trigger is recorded beside the maps as a trace; the index keeps the handle of every
registered trigger as long as no client mints a handle that the index holds already. -/
namespace Warpdrive.Trigger

open Warpdrive.Foundation Warpdrive.Types Warpdrive.Foundation.Execution

/-- The chain of a Stellar trigger. -/
def stellarChain : Trigger → Option ChainKey
  | .stellarContractEvent chain _ _ => some chain
  | _ => none

theorem placeOf_stellar_iff (trigger : Trigger) :
    placeOf trigger = some .stellar ↔ stellarChain trigger ≠ none := by
  cases trigger with
  | atProtoEvent collection repoDid action =>
    simp only [placeOf,stellarChain]
    split <;> simp
  | _ => simp [placeOf,stellarChain]

namespace Lookup

variable (cron : CronLib)

/-- The chain and the handle its client is about to mint for the trigger. -/
def mints (self : Lookup) (trigger : Trigger) : Option (ChainKey × StellarRpcId) :=
  (stellarChain trigger).bind (fun chain =>
    (self.stellarControllers.get chain).map (fun controller => (chain,controller.eventFilters.list.next)))

/-- The configurations a `StellarEvent` with these matched handles dispatches. -/
def dispatchStellar (isActive : ServiceId → Bool) (self : Lookup) (rpcIds : List StellarRpcId) :
    List TriggerConfig :=
  self.getTriggerConfigs isActive (rpcIds.filterMap self.triggersByStellarContractEvent.getByLeft)

/-- What `add_trigger` does to the configurations and to the Stellar parts. -/
structure StellarAdded (before after : Lookup) (config : TriggerConfig) : Prop where
  counter : after.lookupId = before.lookupId + 1
  configs : ∀ id, after.triggerConfigs.get id =
    if id = before.lookupId then some config else before.triggerConfigs.get id
  minted : ∀ chain, stellarChain config.trigger = some chain →
    ∃ rpcId, before.mints config.trigger = some (chain,rpcId)
  handle : ∀ rpcId id, after.triggersByStellarContractEvent.Relates rpcId id ↔
    match before.mints config.trigger with
    | some (_,new) => rpcId = new ∧ id = before.lookupId ∨ rpcId ≠ new ∧ id ≠ before.lookupId ∧
        before.triggersByStellarContractEvent.Relates rpcId id
    | none => before.triggersByStellarContractEvent.Relates rpcId id
  clients : ∀ chain, before.stellarControllers.get chain ≠ none → after.stellarControllers.get chain ≠ none

/-- The Stellar parts and the registry are as they were, apart from the counter. -/
structure StellarSame (before after : Lookup) : Prop where
  configs : after.triggerConfigs = before.triggerConfigs
  handle : after.triggersByStellarContractEvent = before.triggersByStellarContractEvent
  clients : after.stellarControllers = before.stellarControllers

theorem insertTrigger_error (before next : Lookup) (id : LookupId) (trigger : Trigger) (error : TriggerError)
    (result : insertTrigger cron before id trigger = (next,.error error)) :
    StellarSame before next ∧ next.lookupId = before.lookupId := by
  cases trigger with
  | stellarContractEvent chain contractId topicSegments =>
    simp only [insertTrigger] at result
    split at result
    · cases result
      exact ⟨⟨rfl,rfl,rfl⟩,rfl⟩
    · split at result
      · cases result
        exact ⟨⟨rfl,rfl,rfl⟩,rfl⟩
      · cases result
  | blockInterval chain nBlocks startBlock endBlock =>
    simp only [insertTrigger] at result
    split at result
    · cases result
      exact ⟨⟨rfl,rfl,rfl⟩,rfl⟩
    · cases result
  | cron schedule startTime endTime =>
    simp only [insertTrigger] at result
    split at result
    · cases result
      exact ⟨⟨rfl,rfl,rfl⟩,rfl⟩
    · split at result
      · cases result
        exact ⟨⟨rfl,rfl,rfl⟩,rfl⟩
      · cases result
  | atProtoEvent collection repoDid action =>
    simp only [insertTrigger] at result
    split at result <;> cases result
  | _ => cases result

/-- A trigger of another kind leaves the Stellar parts alone. -/
theorem insertTrigger_other (before next : Lookup) (id : LookupId) (trigger : Trigger)
    (other : stellarChain trigger = none)
    (result : insertTrigger cron before id trigger = (next,.ok ())) :
    StellarSame before next ∧ next.lookupId = before.lookupId := by
  cases trigger with
  | stellarContractEvent chain contractId topicSegments => cases other
  | blockInterval chain nBlocks startBlock endBlock =>
    simp only [insertTrigger] at result
    split at result
    · cases result
    · cases result
      exact ⟨⟨rfl,rfl,rfl⟩,rfl⟩
  | cron schedule startTime endTime =>
    simp only [insertTrigger] at result
    split at result
    · cases result
    · split at result
      · cases result
      · cases result
        exact ⟨⟨rfl,rfl,rfl⟩,rfl⟩
  | atProtoEvent collection repoDid action =>
    simp only [insertTrigger] at result
    split at result <;> cases result <;> exact ⟨⟨rfl,rfl,rfl⟩,rfl⟩
  | _ =>
    cases result
    exact ⟨⟨rfl,rfl,rfl⟩,rfl⟩

theorem addTrigger_error (before next : Lookup) (config : TriggerConfig) (error : TriggerError)
    (result : addTrigger cron before config = (next,.error error)) :
    StellarSame before next ∧ next.lookupId = before.lookupId + 1 := by
  unfold addTrigger at result
  simp only at result
  split at result
  · next middle _ inserted =>
    cases result
    obtain ⟨same,counter⟩ := insertTrigger_error cron _ _ _ _ _ inserted
    exact ⟨⟨same.configs,same.handle,same.clients⟩,counter⟩
  · cases result

theorem stellarAdded_addTrigger (before next : Lookup) (config : TriggerConfig)
    (result : addTrigger cron before config = (next,.ok ())) : StellarAdded before next config := by
  unfold addTrigger at result
  simp only at result
  split at result
  · cases result
  · next middle inserted =>
    cases result
    cases chained : stellarChain config.trigger with
    | none =>
      obtain ⟨same,counter⟩ := insertTrigger_other cron _ _ _ _ chained inserted
      refine ⟨counter,?_,?_,?_,?_⟩
      · intro id
        simp only [HashMap.get_insert,same.configs]
      · intro chain some
        rw [chained] at some
        cases some
      · intro rpcId id
        simp only [mints,chained,Option.bind_none,same.handle]
      · intro chain present
        simp only [same.clients]
        exact present
    | some chain =>
      cases shaped : config.trigger with
      | stellarContractEvent on contractId topicSegments =>
        rw [shaped] at chained inserted
        cases chained
        simp only [insertTrigger] at inserted
        split at inserted
        · cases inserted
        · split at inserted
          · cases inserted
          · next controller found =>
            cases inserted
            refine ⟨rfl,?_,?_,?_,?_⟩
            · intro id
              simp only [HashMap.get_insert]
            · intro other same
              rw [shaped] at same
              cases same
              exact ⟨controller.eventFilters.list.next,by simp [mints,shaped,stellarChain,found]⟩
            · intro rpcId id
              simp only [BiMap.relates_insert,mints,shaped,stellarChain,Option.bind_some,found,
                Option.map_some,EventFilters.addFilter_fst]
            · intro other present
              simp only [StellarControllers.updateEventFilters,HashMap.get_insert]
              split
              · simp
              · exact present
      | _ =>
        rw [shaped] at chained
        cases chained

/-- What removing lookup ids does to the configurations and to the Stellar parts. -/
structure StellarCleared (before after : Lookup) (ids : List LookupId) : Prop where
  configs : after.triggerConfigs = before.triggerConfigs
  workflows : after.triggersByServiceWorkflow = before.triggersByServiceWorkflow
  counter : after.lookupId = before.lookupId
  handle : ∀ rpcId id, after.triggersByStellarContractEvent.Relates rpcId id ↔
    before.triggersByStellarContractEvent.Relates rpcId id ∧ id ∉ ids
  clients : ∀ chain, before.stellarControllers.get chain ≠ none → after.stellarControllers.get chain ≠ none

/-- The index holds handles only of registered Stellar triggers, and the chain of each
registered Stellar trigger has a client. -/
structure StellarBacked (maps : Lookup) : Prop where
  registered : ∀ rpcId id, maps.triggersByStellarContractEvent.Relates rpcId id →
    ∃ config, maps.triggerConfigs.get id = some config ∧ stellarChain config.trigger ≠ none
  client : ∀ id config chain, maps.triggerConfigs.get id = some config →
    stellarChain config.trigger = some chain → maps.stellarControllers.get chain ≠ none

theorem removeTrigger_clients (before next : Lookup) (id : LookupId) (trigger : Trigger) (chain : ChainKey)
    (result : removeTrigger cron before id trigger = (next,.ok ()))
    (present : before.stellarControllers.get chain ≠ none) : next.stellarControllers.get chain ≠ none := by
  cases trigger with
  | stellarContractEvent on contractId topicSegments =>
    simp only [removeTrigger] at result
    split at result
    · cases result
      exact present
    · split at result
      · cases result
      · cases result
        simp only [StellarControllers.updateEventFilters,HashMap.get_insert]
        split
        · simp
        · exact present
  | blockInterval on nBlocks startBlock endBlock =>
    simp only [removeTrigger] at result
    split at result <;> cases result <;> exact present
  | atProtoEvent collection repoDid action =>
    simp only [removeTrigger] at result
    split at result <;> cases result <;> exact present
  | _ =>
    cases result
    exact present

theorem removeTrigger_succeeds (before : Lookup) (id : LookupId) (trigger : Trigger)
    (client : ∀ chain, stellarChain trigger = some chain → before.stellarControllers.get chain ≠ none) :
    ∃ next, removeTrigger cron before id trigger = (next,.ok ()) := by
  cases trigger with
  | stellarContractEvent chain contractId topicSegments =>
    simp only [removeTrigger]
    split
    · exact ⟨_,rfl⟩
    · split
      · next missing => exact absurd missing (client chain rfl)
      · exact ⟨_,rfl⟩
  | blockInterval chain nBlocks startBlock endBlock =>
    simp only [removeTrigger]
    split <;> exact ⟨_,rfl⟩
  | atProtoEvent collection repoDid action =>
    simp only [removeTrigger]
    split <;> exact ⟨_,rfl⟩
  | _ => exact ⟨_,rfl⟩

theorem stellarCleared_removeLookup (before : Lookup) (id : LookupId) (backed : StellarBacked before) :
    ∃ next, removeLookup cron before id = (next,.ok ()) ∧ StellarCleared before next [id] := by
  unfold removeLookup
  split
  · next missing =>
    refine ⟨before,rfl,⟨rfl,rfl,rfl,?_,fun _ present => present⟩⟩
    intro rpcId other
    rw [iff_self_and,List.mem_singleton]
    intro related same
    subst same
    obtain ⟨config,found,_⟩ := backed.registered rpcId other related
    rw [missing] at found
    cases found
  · next config found =>
    obtain ⟨next,result⟩ := removeTrigger_succeeds cron before id config.trigger
      (fun chain chained => backed.client id config chain found chained)
    have removed := removed_trigger cron before next id config.trigger result
    refine ⟨next,result,⟨removed.same.configs,removed.same.workflows,removed.same.counter,?_,
      fun chain present => removeTrigger_clients cron before next id config.trigger chain result present⟩⟩
    intro rpcId other
    rw [List.mem_singleton]
    by_cases same : other = id
    · subst other
      have gone : ¬next.triggersByStellarContractEvent.Relates rpcId id := by
        intro related
        obtain ⟨⟨old,before⟩,elsewhere⟩ := (removed.lists .stellar id).mp ⟨rpcId,related⟩
        obtain ⟨held,again,stellar⟩ := backed.registered old id before
        rw [found] at again
        cases again
        exact elsewhere ⟨(placeOf_stellar_iff _).mpr stellar,rfl⟩
      simp [gone]
    · rw [(removed.untouched other same).handle]
      simp [same]

theorem StellarCleared.backed {before after : Lookup} {ids : List LookupId}
    (cleared : StellarCleared before after ids) (backed : StellarBacked before) : StellarBacked after where
  registered rpcId id related := by
    rw [cleared.configs]
    exact backed.registered rpcId id ((cleared.handle rpcId id).mp related).1
  client id config chain found chained := by
    rw [cleared.configs] at found
    exact cleared.clients chain (backed.client id config chain found chained)

theorem stellarCleared_removeTriggers (ids : List LookupId) (before : Lookup) (backed : StellarBacked before) :
    ∃ next, removeTriggers cron before ids = (next,.ok ()) ∧ StellarCleared before next ids := by
  induction ids generalizing before with
  | nil => exact ⟨before,rfl,⟨rfl,rfl,rfl,by simp,fun _ present => present⟩⟩
  | cons id rest ih =>
    obtain ⟨middle,first,cleared⟩ := stellarCleared_removeLookup cron before id backed
    obtain ⟨next,result,others⟩ := ih middle (cleared.backed backed)
    refine ⟨next,?_,⟨others.configs.trans cleared.configs,others.workflows.trans cleared.workflows,
      others.counter.trans cleared.counter,?_,
      fun chain present => others.clients chain (cleared.clients chain present)⟩⟩
    · simp only [removeTriggers,first]
      exact result
    · intro rpcId other
      rw [others.handle,cleared.handle]
      simp [and_assoc]

/-- The configurations and the index are as they were, and every chain that had a client
has one. -/
structure StellarKept (before after : Lookup) : Prop where
  counter : before.lookupId ≤ after.lookupId
  configs : after.triggerConfigs = before.triggerConfigs
  handle : after.triggersByStellarContractEvent = before.triggersByStellarContractEvent
  clients : ∀ chain, before.stellarControllers.get chain ≠ none → after.stellarControllers.get chain ≠ none

theorem StellarSame.kept {before after : Lookup} (same : StellarSame before after)
    (counter : before.lookupId ≤ after.lookupId) : StellarKept before after :=
  ⟨counter,same.configs,same.handle,fun chain present => by rw [same.clients]; exact present⟩

/-- A chain is given another controller. -/
theorem StellarKept.insert (before : Lookup) (chain : ChainKey) (controller : StellarStreamController) :
    StellarKept before {before with
      stellarControllers := before.stellarControllers.insert chain controller} := by
  refine ⟨Nat.le_refl _,rfl,rfl,?_⟩
  intro other present
  simp only [HashMap.get_insert]
  split
  · exact Option.some_ne_none _
  · exact present

end Lookup

namespace Manager

theorem stellarKept_watchStellarServiceUri (lib : EventLib) (self : Manager) (serviceId : ServiceId)
    (chain : ChainKey) (projectRoot : FixedBytes 32) :
    self.lookup.StellarKept (self.watchStellarServiceUri lib serviceId chain projectRoot).lookup := by
  have still : self.lookup.StellarKept self.lookup := ⟨Nat.le_refl _,rfl,rfl,fun _ present => present⟩
  unfold watchStellarServiceUri
  split
  · exact still
  · split
    · exact still
    · exact .insert _ _ _

theorem stellarKept_unwatchStellarServiceUri (self : Manager) (serviceId : ServiceId) :
    self.lookup.StellarKept (self.unwatchStellarServiceUri serviceId).lookup := by
  have still : self.lookup.StellarKept self.lookup := ⟨Nat.le_refl _,rfl,rfl,fun _ present => present⟩
  unfold unwatchStellarServiceUri
  split
  · exact still
  · simp only
    split
    · exact still
    · exact .insert _ _ _

end Manager

/-- The manager with the chain and the handle minted for each lookup id. -/
structure Traced extends Manager where
  minted : HashMap LookupId (ChainKey × StellarRpcId)

namespace Traced

variable (cron : CronLib) (prim : IdPrimitives)

def addTrigger (self : Traced) (config : TriggerConfig) : Traced × Except TriggerError Unit :=
  match Lookup.addTrigger cron self.lookup config with
  | (next,.error error) => ({self with lookup := next},.error error)
  | (next,.ok ()) =>
    match self.lookup.mints config.trigger with
    | none => ({self with lookup := next},.ok ())
    | some handle =>
      ({self with
        lookup := next
        minted := self.minted.insert self.lookup.lookupId handle},.ok ())

def addTriggers (self : Traced) : List TriggerConfig → Traced × Except TriggerError Unit
  | [] => (self,.ok ())
  | config::configs =>
    match addTrigger cron self config with
    | (self,.error error) => (self,.error error)
    | (self,.ok ()) => addTriggers self configs

/-- The manager of a service is entered before its triggers. -/
def withManager (self : Traced) (service : Service) : Traced :=
  {self with
    lookup := {self.lookup with
      serviceManager := self.lookup.serviceManager.insert (service.id prim) service.manager.address}}

def addService (self : Traced) (service : Service) : Traced × Except TriggerError Unit :=
  addTriggers cron (self.withManager prim service) (Lookup.serviceTriggers (service.id prim) service)

theorem addTrigger_erases (self : Traced) (config : TriggerConfig) :
    Lookup.addTrigger cron self.lookup config =
      ((addTrigger cron self config).1.lookup,(addTrigger cron self config).2) := by
  unfold addTrigger
  split
  · next added => exact added
  · next added =>
    split
    · exact added
    · exact added

theorem addTriggers_erases (configs : List TriggerConfig) (self : Traced) :
    Lookup.addTriggers cron self.lookup configs =
      ((addTriggers cron self configs).1.lookup,(addTriggers cron self configs).2) := by
  induction configs generalizing self with
  | nil => rfl
  | cons config rest ih =>
    have first := addTrigger_erases cron self config
    unfold Lookup.addTriggers addTriggers
    rw [first]
    cases added : addTrigger cron self config with
    | mk next result =>
      cases result with
      | error error => rfl
      | ok _ => exact ih next

/-- The trace is only beside the maps: without it, `add_service` is the maps' own. -/
theorem addService_erases (self : Traced) (service : Service) :
    Lookup.addService cron prim self.lookup service =
      ((addService cron prim self service).1.lookup,(addService cron prim self service).2) := by
  unfold Lookup.addService addService
  exact addTriggers_erases cron _ (self.withManager prim service)

/-- The handle minted for the trigger is one that the index holds already. -/
def claimed (self : Traced) (trigger : Trigger) : Bool :=
  match self.lookup.mints trigger with
  | none => false
  | some (_,rpcId) => (self.lookup.triggersByStellarContractEvent.getByLeft rpcId).isSome

/-- No trigger of the list is minted a handle that the index holds when it is added. -/
def unclaimed (self : Traced) : List TriggerConfig → Bool
  | [] => true
  | config::configs => !self.claimed config.trigger &&
    match addTrigger cron self config with
    | (_,.error _) => true
    | (next,.ok ()) => unclaimed next configs

/-- Every registered Stellar trigger is related to the handle its own chain's client
minted for it, and nothing else is in the index. -/
structure Separate (traced : Traced) : Prop where
  minted : ∀ id config, traced.lookup.triggerConfigs.get id = some config → id < traced.lookup.lookupId
  own : ∀ id config chain, traced.lookup.triggerConfigs.get id = some config →
    stellarChain config.trigger = some chain → ∃ rpcId, traced.minted.get id = some (chain,rpcId) ∧
      traced.lookup.triggersByStellarContractEvent.Relates rpcId id
  registered : ∀ rpcId id, traced.lookup.triggersByStellarContractEvent.Relates rpcId id →
    ∃ config chain, traced.lookup.triggerConfigs.get id = some config ∧
      stellarChain config.trigger = some chain ∧ traced.minted.get id = some (chain,rpcId)
  client : ∀ id config chain, traced.lookup.triggerConfigs.get id = some config →
    stellarChain config.trigger = some chain → traced.lookup.stellarControllers.get chain ≠ none

theorem Separate.backed {self : Traced} (separate : Separate self) : self.lookup.StellarBacked where
  registered rpcId id related := by
    obtain ⟨config,chain,found,chained,_⟩ := separate.registered rpcId id related
    exact ⟨config,found,by rw [chained]; simp⟩
  client := separate.client

variable {cron}

theorem Separate.of_kept {self : Traced} (separate : Separate self) (manager : Manager)
    (kept : self.lookup.StellarKept manager.lookup) : Separate ⟨manager,self.minted⟩ where
  minted id config found := by
    rw [kept.configs] at found
    exact (separate.minted id config found).trans_le kept.counter
  own id config chain found chained := by
    rw [kept.configs] at found
    rw [kept.handle]
    exact separate.own id config chain found chained
  registered rpcId id related := by
    rw [kept.handle] at related
    rw [kept.configs]
    exact separate.registered rpcId id related
  client id config chain found chained := by
    rw [kept.configs] at found
    exact kept.clients chain (separate.client id config chain found chained)

theorem separate_addTrigger (self next : Traced) (config : TriggerConfig)
    (separate : Separate self) (free : self.claimed config.trigger = false)
    (result : addTrigger cron self config = (next,.ok ())) : Separate next := by
  unfold addTrigger at result
  split at result
  · cases result
  · next lookup added =>
    have effect := Lookup.stellarAdded_addTrigger cron self.lookup lookup config added
    have split : ∀ id held, lookup.triggerConfigs.get id = some held →
        id = self.lookup.lookupId ∧ held = config ∨
          id < self.lookup.lookupId ∧ self.lookup.triggerConfigs.get id = some held := by
      intro id held found
      rw [effect.configs] at found
      by_cases new : id = self.lookup.lookupId
      · rw [if_pos new] at found
        exact .inl ⟨new,(Option.some.inj found).symm⟩
      · rw [if_neg new] at found
        exact .inr ⟨separate.minted id held found,found⟩
    have counted : ∀ id held, lookup.triggerConfigs.get id = some held → id < lookup.lookupId := by
      intro id held found
      rw [effect.counter]
      rcases split id held found with ⟨same,_⟩ | ⟨old,_⟩
      · rw [same]
        exact Nat.lt_succ_self _
      · exact Nat.lt_succ_of_lt old
    split at result
    · next nothing =>
      cases result
      have plain : stellarChain config.trigger = none := by
        cases chained : stellarChain config.trigger with
        | none => rfl
        | some chain =>
          obtain ⟨rpcId,minted⟩ := effect.minted chain chained
          rw [nothing] at minted
          cases minted
      have handle : ∀ rpcId id, lookup.triggersByStellarContractEvent.Relates rpcId id ↔
          self.lookup.triggersByStellarContractEvent.Relates rpcId id := by
        intro rpcId id
        rw [effect.handle,nothing]
      refine ⟨counted,?_,?_,?_⟩
      · intro id held chain found chained
        rcases split id held found with ⟨rfl,rfl⟩ | ⟨_,found⟩
        · rw [plain] at chained
          cases chained
        · obtain ⟨rpcId,minted,related⟩ := separate.own id held chain found chained
          exact ⟨rpcId,minted,(handle rpcId id).mpr related⟩
      · intro rpcId id related
        obtain ⟨held,chain,found,chained,minted⟩ := separate.registered rpcId id ((handle rpcId id).mp related)
        refine ⟨held,chain,?_,chained,minted⟩
        rw [effect.configs,if_neg (separate.minted id held found).ne]
        exact found
      · intro id held chain found chained
        rcases split id held found with ⟨rfl,rfl⟩ | ⟨_,found⟩
        · rw [plain] at chained
          cases chained
        · exact effect.clients chain (separate.client id held chain found chained)
    · next handle minted =>
      obtain ⟨chain,rpcId⟩ := handle
      cases result
      have fresh : ∀ id, ¬self.lookup.triggersByStellarContractEvent.Relates rpcId id := by
        intro id related
        rw [← BiMap.getByLeft_iff] at related
        simp [claimed,minted,related] at free
      have handle : ∀ other id, lookup.triggersByStellarContractEvent.Relates other id ↔
          other = rpcId ∧ id = self.lookup.lookupId ∨ id < self.lookup.lookupId ∧
            self.lookup.triggersByStellarContractEvent.Relates other id := by
        intro other id
        rw [effect.handle,minted]
        constructor
        · rintro (new | ⟨_,_,related⟩)
          · exact .inl new
          · obtain ⟨held,_,found,_⟩ := separate.registered other id related
            exact .inr ⟨separate.minted id held found,related⟩
        · rintro (new | ⟨old,related⟩)
          · exact .inl new
          · refine .inr ⟨?_,old.ne,related⟩
            intro same
            subst same
            exact fresh id related
      have chained : stellarChain config.trigger = some chain ∧
          self.lookup.stellarControllers.get chain ≠ none := by
        unfold Lookup.mints at minted
        cases on : stellarChain config.trigger with
        | none => simp [on] at minted
        | some other =>
          cases client : self.lookup.stellarControllers.get other with
          | none => simp [on,client] at minted
          | some controller =>
            simp only [on,client,Option.bind_some,Option.map_some,Option.some.injEq,Prod.mk.injEq] at minted
            rw [← minted.1,client]
            simp
      refine ⟨counted,?_,?_,?_⟩
      · intro id held other found on
        rcases split id held found with ⟨rfl,rfl⟩ | ⟨old,found⟩
        · rw [chained.1] at on
          cases on
          exact ⟨rpcId,HashMap.get_insert_self _ _ _,(handle _ _).mpr (.inl ⟨rfl,rfl⟩)⟩
        · obtain ⟨otherRpc,kept,related⟩ := separate.own id held other found on
          exact ⟨otherRpc,by rw [HashMap.get_insert_ne _ _ _ _ old.ne]; exact kept,
            (handle _ _).mpr (.inr ⟨old,related⟩)⟩
      · intro otherRpc id related
        rcases (handle otherRpc id).mp related with ⟨rfl,rfl⟩ | ⟨old,related⟩
        · exact ⟨config,chain,by rw [effect.configs,if_pos rfl],chained.1,HashMap.get_insert_self _ _ _⟩
        · obtain ⟨held,other,found,on,kept⟩ := separate.registered otherRpc id related
          refine ⟨held,other,?_,on,by rw [HashMap.get_insert_ne _ _ _ _ old.ne]; exact kept⟩
          rw [effect.configs,if_neg old.ne]
          exact found
      · intro id held other found on
        apply effect.clients
        rcases split id held found with ⟨rfl,rfl⟩ | ⟨_,found⟩
        · rw [chained.1] at on
          cases on
          exact chained.2
        · exact separate.client id held other found on

theorem separate_addTriggers (configs : List TriggerConfig) (self : Traced) (separate : Separate self)
    (free : self.unclaimed cron configs = true) : Separate (addTriggers cron self configs).1 := by
  induction configs generalizing self with
  | nil => exact separate
  | cons config rest ih =>
    simp only [unclaimed,Bool.and_eq_true,Bool.not_eq_true'] at free
    obtain ⟨first,free⟩ := free
    unfold addTriggers
    cases added : addTrigger cron self config with
    | mk next result =>
      rw [added] at free
      cases result with
      | ok _ => exact ih next (separate_addTrigger self next config separate first added) free
      | error error =>
        have erased := addTrigger_erases cron self config
        rw [added] at erased
        obtain ⟨same,counter⟩ := Lookup.addTrigger_error cron self.lookup next.lookup config error erased
        have kept : next.minted = self.minted := by
          unfold addTrigger at added
          split at added
          · cases added
            rfl
          · split at added <;> cases added
        have moved := separate.of_kept next.toManager (same.kept (by rw [counter]; exact Nat.le_succ _))
        rw [← kept] at moved
        exact moved

/-- The lookup maps' operations, a Stellar stream that starts with the keys that its client's
filters are to mint, the watcher's filters on the same client, and a Stellar event. -/
inductive StellarAct
  | addService (service : Service)
  | removeService (serviceId : ServiceId)
  | startStream (chain : ChainKey) (keys : SlotKeys)
  | watchStellarServiceUri (serviceId : ServiceId) (chain : ChainKey) (projectRoot : FixedBytes 32)
  | unwatchStellarServiceUri (serviceId : ServiceId)
  | event (isActive : ServiceId → Bool) (chain : ChainKey) (rpcIds : List StellarRpcId)

variable (cron) (lib : EventLib)

/-- A chain whose stream starts gets a controller with a fresh client, once. -/
def startStream (self : Traced) (chain : ChainKey) (keys : SlotKeys) : Traced :=
  match self.lookup.stellarControllers.get chain with
  | some _ => self
  | none =>
    {self with
      lookup := {self.lookup with
        stellarControllers := self.lookup.stellarControllers.insert chain ⟨false,.new keys⟩}}

def stepStellar (self : Traced) : StellarAct → Option Traced
  | .addService service => some (addService cron prim self service).1
  | .removeService serviceId =>
    some {self with lookup := (Lookup.removeService cron self.lookup serviceId).1}
  | .startStream chain keys => some (self.startStream chain keys)
  | .watchStellarServiceUri serviceId chain projectRoot =>
    some {self with toManager := self.toManager.watchStellarServiceUri lib serviceId chain projectRoot}
  | .unwatchStellarServiceUri serviceId =>
    some {self with toManager := self.toManager.unwatchStellarServiceUri serviceId}
  | .event _ _ _ => some self

/-- No added trigger is minted a handle that the index holds, and no matched handle of an
event is in the index for an active trigger on another chain. -/
def Clear (self : Traced) : StellarAct → Prop
  | .addService service =>
    (self.withManager prim service).unclaimed cron (Lookup.serviceTriggers (service.id prim) service) = true
  | .event isActive chain rpcIds => ∀ rpcId ∈ rpcIds, ∀ id config,
      self.lookup.triggersByStellarContractEvent.Relates rpcId id →
      self.lookup.triggerConfigs.get id = some config → isActive config.serviceId = true →
      stellarChain config.trigger = some chain
  | _ => True

/-- An event dispatches the active triggers on its chain whose own handle it matched. -/
def DispatchesOwn (self : Traced) : StellarAct → Prop
  | .event isActive chain rpcIds => ∀ config,
      config ∈ self.lookup.dispatchStellar isActive rpcIds ↔
        ∃ id rpcId, self.lookup.triggerConfigs.get id = some config ∧ isActive config.serviceId = true ∧
          stellarChain config.trigger = some chain ∧ self.minted.get id = some (chain,rpcId) ∧ rpcId ∈ rpcIds
  | _ => True

variable {cron}

theorem separate_removeService (self : Traced) (serviceId : ServiceId) (separate : Separate self) :
    Separate {self with lookup := (Lookup.removeService cron self.lookup serviceId).1} := by
  unfold Lookup.removeService
  simp only
  split
  · exact separate.of_kept {self.toManager with lookup := _} ⟨Nat.le_refl _,rfl,rfl,fun _ present => present⟩
  · next workflows service =>
    have backed : Lookup.StellarBacked {self.lookup with
        serviceManager := self.lookup.serviceManager.removeByLeft serviceId} :=
      ⟨separate.backed.registered,separate.backed.client⟩
    obtain ⟨next,removed,cleared⟩ := Lookup.stellarCleared_removeTriggers cron
      (workflows.entries.map Prod.snd) _ backed
    rw [removed]
    have split : ∀ id config, ((workflows.entries.map Prod.snd).foldl
        (fun configs lookupId => configs.remove lookupId) next.triggerConfigs).get id = some config →
        id ∉ workflows.entries.map Prod.snd ∧ self.lookup.triggerConfigs.get id = some config := by
      intro id config found
      rw [Lookup.get_foldl_remove,cleared.configs] at found
      split at found
      · cases found
      · next outside => exact ⟨outside,found⟩
    refine ⟨?_,?_,?_,?_⟩
    · intro id config found
      simp only [cleared.counter]
      exact separate.minted id config (split id config found).2
    · intro id config chain found chained
      obtain ⟨outside,found⟩ := split id config found
      obtain ⟨rpcId,minted,related⟩ := separate.own id config chain found chained
      exact ⟨rpcId,minted,(cleared.handle rpcId id).mpr ⟨related,outside⟩⟩
    · intro rpcId id related
      obtain ⟨related,outside⟩ := (cleared.handle rpcId id).mp related
      obtain ⟨config,chain,found,chained,minted⟩ := separate.registered rpcId id related
      refine ⟨config,chain,?_,chained,minted⟩
      simp only [Lookup.get_foldl_remove,cleared.configs,if_neg outside]
      exact found
    · intro id config chain found chained
      exact cleared.clients chain (separate.client id config chain (split id config found).2 chained)

theorem separate_startStream (self : Traced) (chain : ChainKey) (keys : SlotKeys) (separate : Separate self) :
    Separate (self.startStream chain keys) := by
  unfold startStream
  split
  · exact separate
  · exact separate.of_kept {self.toManager with lookup := _} (.insert _ _ _)

theorem separate_step (self next : Traced) (act : StellarAct)
    (taken : stepStellar cron prim lib self act = some next) (clear : self.Clear cron prim act)
    (separate : Separate self) : Separate next := by
  cases act with
  | addService service =>
    cases taken
    exact separate_addTriggers _ _ (separate.of_kept (self.withManager prim service).toManager
      ⟨Nat.le_refl _,rfl,rfl,fun _ present => present⟩) clear
  | removeService serviceId =>
    cases taken
    exact separate_removeService self serviceId separate
  | startStream chain keys =>
    cases taken
    exact separate_startStream self chain keys separate
  | watchStellarServiceUri serviceId chain projectRoot =>
    cases taken
    exact separate.of_kept _ (Manager.stellarKept_watchStellarServiceUri lib _ serviceId chain projectRoot)
  | unwatchStellarServiceUri serviceId =>
    cases taken
    exact separate.of_kept _ (Manager.stellarKept_unwatchStellarServiceUri _ serviceId)
  | event isActive chain rpcIds =>
    cases taken
    exact separate

theorem mem_dispatchStellar (isActive : ServiceId → Bool) (lookup : Lookup) (rpcIds : List StellarRpcId)
    (config : TriggerConfig) :
    config ∈ lookup.dispatchStellar isActive rpcIds ↔
      ∃ id, ∃ rpcId ∈ rpcIds, lookup.triggersByStellarContractEvent.Relates rpcId id ∧
        lookup.triggerConfigs.get id = some config ∧ isActive config.serviceId = true := by
  simp only [Lookup.dispatchStellar,LookupMaps.getTriggerConfigs,List.mem_filter,List.mem_filterMap,
    BiMap.getByLeft_iff]
  constructor
  · rintro ⟨⟨id,⟨rpcId,member,related⟩,found⟩,active⟩
    exact ⟨id,rpcId,member,related,found,active⟩
  · rintro ⟨id,rpcId,member,related,found,active⟩
    exact ⟨⟨id,⟨rpcId,member,related⟩,found⟩,active⟩

theorem clear_event_iff (self : Traced) (isActive : ServiceId → Bool) (chain : ChainKey)
    (rpcIds : List StellarRpcId) :
    self.Clear cron prim (.event isActive chain rpcIds) ↔
      ∀ config ∈ self.lookup.dispatchStellar isActive rpcIds, stellarChain config.trigger = some chain := by
  simp only [Clear,mem_dispatchStellar]
  constructor
  · rintro clear config ⟨id,rpcId,member,related,found,active⟩
    exact clear rpcId member id config related found active
  · intro dispatched rpcId member id config related found active
    exact dispatched config ⟨id,rpcId,member,related,found,active⟩

instance (self : Traced) (act : StellarAct) : Decidable (self.Clear cron prim act) :=
  match act with
  | .addService _ => inferInstanceAs (Decidable (_ = true))
  | .event isActive chain rpcIds =>
    decidable_of_iff _ (clear_event_iff prim self isActive chain rpcIds).symm
  | .removeService _ => .isTrue trivial
  | .startStream _ _ => .isTrue trivial
  | .watchStellarServiceUri _ _ _ => .isTrue trivial
  | .unwatchStellarServiceUri _ => .isTrue trivial

/-- With every handle in its place, an event dispatches exactly its own chain's matched
triggers, if and only if it matched no active trigger's handle of another chain. -/
theorem dispatchesOwn_iff (self : Traced) (separate : Separate self) (isActive : ServiceId → Bool)
    (chain : ChainKey) (rpcIds : List StellarRpcId) :
    self.DispatchesOwn (.event isActive chain rpcIds) ↔
      self.Clear cron prim (.event isActive chain rpcIds) := by
  simp only [DispatchesOwn,Clear,mem_dispatchStellar]
  constructor
  · intro dispatched rpcId member id config related found active
    obtain ⟨other,otherRpc,_,_,chained,_⟩ :=
      (dispatched config).mp ⟨id,rpcId,member,related,found,active⟩
    exact chained
  · intro clear config
    constructor
    · rintro ⟨id,rpcId,member,related,found,active⟩
      have chained := clear rpcId member id config related found active
      obtain ⟨held,on,again,other,minted⟩ := separate.registered rpcId id related
      rw [found] at again
      cases again
      rw [chained] at other
      cases other
      exact ⟨id,rpcId,found,active,chained,minted,member⟩
    · rintro ⟨id,rpcId,found,active,chained,minted,member⟩
      obtain ⟨own,again,related⟩ := separate.own id config chain found chained
      rw [minted] at again
      cases again
      exact ⟨id,rpcId,member,related,found,active⟩

/-- A manager before any operation on its maps, with the controllers they are handed. -/
def fresh (manager : Manager) (controllers : StellarControllers) : Traced :=
  ⟨{manager with lookup := .fresh controllers},.new⟩

theorem separate_fresh (manager : Manager) (controllers : StellarControllers) :
    Separate (fresh manager controllers) := by
  have empty : ∀ id, (Lookup.fresh controllers).triggerConfigs.get id = none := fun id => HashMap.get_new id
  refine ⟨?_,?_,?_,?_⟩
  · intro id config found
    rw [fresh,empty] at found
    cases found
  · intro id config chain found
    rw [fresh,empty] at found
    cases found
  · intro rpcId id related
    exact absurd related (BiMap.not_relates_new rpcId id)
  · intro id config chain found
    rw [fresh,empty] at found
    cases found

/-- In a run whose steps are all clear, every registered Stellar trigger is related to its
own chain's handle and every event dispatches exactly its own chain's matched triggers. -/
theorem stellar_chains_separate (manager : Manager) (controllers : StellarControllers) (acts : List StellarAct)
    (final : Traced) (reached : run (stepStellar cron prim lib) (fresh manager controllers) acts = some final)
    (clear : Along (stepStellar cron prim lib) (fun self act _ => self.Clear cron prim act)
      (fresh manager controllers) acts) :
    Separate final ∧ Along (stepStellar cron prim lib) (fun self act _ => self.DispatchesOwn act)
      (fresh manager controllers) acts := by
  obtain ⟨dispatched,separate⟩ := along_of_invariant (fun self act _ => self.Clear cron prim act)
    (fun self act _ => self.DispatchesOwn act) Separate
    (fun self act next taken clear separate =>
      ⟨separate_step prim lib self next act taken clear separate,by
        cases act with
        | event isActive chain rpcIds => exact (dispatchesOwn_iff prim self separate isActive chain rpcIds).mpr clear
        | _ => trivial⟩)
    (fresh manager controllers) final acts reached clear (separate_fresh manager controllers)
  exact ⟨separate,dispatched⟩

/-- Decoders that find nothing. -/
def plainEvents : EventLib where
  decodeLogData _ := .error "no data"
  isUri _ := false
  isType _ _ := false
  contractFromString _ := none
  contractDisplay contract := hexEncode contract.toList
  base64Decode _ := none
  fromXdr _ := none

def oneChainManager : Manager := .new ⟨.new,.new,.new,.new⟩ false

/-- A stream that starts, a service with a Stellar trigger and an event that it matches. The
watcher's filter takes the slot that the removed trigger has left. -/
def oneChainSchedule : List StellarAct :=
  [.startStream testnet .reusedOnce,.addService watchingService,
    .event (fun _ => true) testnet [4294967297],.removeService deployedId,
    .watchStellarServiceUri deployedId testnet (FixedBytes.filled 32 7),.addService watchingService,
    .event (fun _ => true) testnet [4294967298],.unwatchStellarServiceUri deployedId]

theorem oneChainSchedule_separates :
    ∃ final, run (stepStellar everyMinute deployedIds plainEvents) (fresh oneChainManager .new)
        oneChainSchedule = some final ∧ Separate final ∧
      Along (stepStellar everyMinute deployedIds plainEvents) (fun self act _ => self.DispatchesOwn act)
        (fresh oneChainManager .new) oneChainSchedule := by
  have runs : (run (stepStellar everyMinute deployedIds plainEvents) (fresh oneChainManager .new)
      oneChainSchedule).isSome = true := by
    decide +kernel
  obtain ⟨final,reached⟩ := Option.isSome_iff_exists.mp runs
  have clear : Along (stepStellar everyMinute deployedIds plainEvents)
      (fun self act _ => self.Clear everyMinute deployedIds act) (fresh oneChainManager .new)
      oneChainSchedule := by
    decide +kernel
  exact ⟨final,reached,stellar_chains_separate deployedIds plainEvents oneChainManager .new oneChainSchedule
    final reached clear⟩

def futurenet : ChainKey := ⟨.stellar,⟨"futurenet",by decide⟩⟩

/-- The deployed service with one trigger on each of two Stellar chains. -/
def twoChainService : Service :=
  {deployedService with
    workflows := ⟨[(observedWorkflow,⟨transferTrigger testnet,noopComponent,.none⟩),
      (secondWorkflow,⟨transferTrigger futurenet,noopComponent,.none⟩)],by decide⟩}

def twoChainSchedule : List StellarAct :=
  [.startStream testnet .firstVersions,.startStream futurenet .firstVersions,.addService twoChainService]

/-- Both clients mint the same first handle: the second trigger displaces the first, and
an event on the first chain dispatches the second chain's trigger. -/
theorem second_chain_displaces_handle :
    ∃ final, run (stepStellar everyMinute deployedIds plainEvents) (fresh oneChainManager .new)
        twoChainSchedule = some final ∧
      final.lookup.triggerConfigs.get 0 = some ⟨deployedId,observedWorkflow,transferTrigger testnet⟩ ∧
      final.minted.get 0 = some (testnet,4294967297) ∧
      final.lookup.triggersByStellarContractEvent.getByRight 0 = none ∧ ¬Separate final ∧
      final.lookup.dispatchStellar (fun _ => true) [4294967297] =
        [⟨deployedId,secondWorkflow,transferTrigger futurenet⟩] ∧
      ¬final.DispatchesOwn (.event (fun _ => true) testnet [4294967297]) := by
  obtain ⟨final,reached,tested⟩ := run_any (stepStellar everyMinute deployedIds plainEvents)
    (fresh oneChainManager .new) twoChainSchedule (fun final =>
      final.lookup.triggerConfigs.get 0 = some ⟨deployedId,observedWorkflow,transferTrigger testnet⟩ ∧
      final.minted.get 0 = some (testnet,4294967297) ∧
      final.lookup.triggersByStellarContractEvent.getByRight 0 = none ∧
      final.lookup.dispatchStellar (fun _ => true) [4294967297] =
        [⟨deployedId,secondWorkflow,transferTrigger futurenet⟩]) (by decide +kernel)
  obtain ⟨registered,minted,displaced,dispatched⟩ := of_decide_eq_true tested
  refine ⟨final,reached,registered,minted,displaced,?_,dispatched,?_⟩
  · intro separate
    obtain ⟨rpcId,_,related⟩ := separate.own 0 _ testnet registered rfl
    rw [← BiMap.getByRight_iff,displaced] at related
    cases related
  · intro own
    obtain ⟨_,_,_,_,chained,_⟩ := (own ⟨deployedId,secondWorkflow,transferTrigger futurenet⟩).mp (by
      rw [dispatched]
      exact List.mem_singleton_self _)
    exact absurd chained (by decide)

end Traced
end Warpdrive.Trigger
