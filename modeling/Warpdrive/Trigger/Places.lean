import Warpdrive.Trigger.Lookup

/-! The place of a trigger: the index or scheduler of its kind under the key computed
from it. Adding a lookup id lists it in its trigger's place, removing it takes it out
again, and both leave every entry of every other lookup id as it is. -/
namespace Warpdrive.Trigger

open Warpdrive.Foundation Warpdrive.Types

/-- An index with a key, or a scheduler. -/
inductive Place
  | cosmos (key : ChainKey × CosmosAddr × String)
  | evm (key : ChainKey × Address × FixedBytes 32)
  | stellar
  | atprotoExact (key : AtProtoIndexKey)
  | atprotoPattern (key : AtProtoIndexKey)
  | block (chain : ChainKey)
  | cron

/-- The place computed from a trigger. A manual trigger has none. -/
def placeOf : Trigger → Option Place
  | .cosmosContractEvent address chain eventType => some (.cosmos (chain,address,eventType))
  | .evmContractEvent address chain eventHash => some (.evm (chain,address,eventHash))
  | .stellarContractEvent _ _ _ => some .stellar
  | .blockInterval chain _ _ _ => some (.block chain)
  | .cron _ _ _ => some .cron
  | .atProtoEvent collection repoDid action =>
    if isCollectionPattern collection then some (.atprotoPattern (collection,repoDid,action))
    else some (.atprotoExact (collection,repoDid,action))
  | .manual => none

namespace Lookup

variable (cron : CronLib)

def Lists (self : Lookup) : Place → LookupId → Prop
  | .cosmos key,id => self.triggersByCosmosContractEvent.Lists key id
  | .evm key,id => self.triggersByEvmContractEvent.Lists key id
  | .stellar,id => ∃ rpcId, self.triggersByStellarContractEvent.Relates rpcId id
  | .atprotoExact key,id => self.triggersByAtprotoEventExact.Lists key id
  | .atprotoPattern key,id => self.triggersByAtprotoEventPattern.Lists key id
  | .block chain,id => ∃ scheduler, self.blockSchedulers.get chain = some scheduler ∧
      id ∈ scheduler.triggerIds
  | .cron,id => id ∈ self.cronScheduler.triggerIds

/-- The handle names the filter in the client of the chain. -/
def Handles (self : Lookup) (chain : ChainKey) (rpcId : StellarRpcId) (filter : StellarEventFilter) : Prop :=
  ∃ controller, self.stellarControllers.get chain = some controller ∧
    controller.eventFilters.Handles rpcId filter

/-- The states of one trigger in the block scheduler of a chain. -/
def blockStates (self : Lookup) (chain : ChainKey) (id : LookupId) : List BlockIntervalState :=
  ((self.blockSchedulers.get chain).map (fun scheduler => scheduler.statesOf blockInterval id)).getD []

def cronStates (self : Lookup) (id : LookupId) : List CronIntervalState :=
  self.cronScheduler.statesOf (cronInterval cron) id

/-- What the place of a trigger holds for it: a handle of its own filter in its chain's
client, or one state with its own parameters. -/
def Holds (self : Lookup) (id : LookupId) : Trigger → Prop
  | .stellarContractEvent chain contractId topicSegments =>
    ∃ rpcId filter, self.triggersByStellarContractEvent.Relates rpcId id ∧
      StellarEventFilter.new contractId topicSegments = .ok filter ∧ self.Handles chain rpcId filter
  | .blockInterval chain nBlocks startBlock endBlock =>
    self.blockStates chain id = [.new id nBlocks (startBlock.map .mk) (endBlock.map .mk)]
  | .cron schedule startTime endTime =>
    self.cronStates cron id = [.new id schedule startTime endTime]
  | _ => True

/-- No index has an empty set, and no scheduler a state of a trigger it does not know. -/
structure Sound (maps : Lookup) : Prop where
  cosmos : maps.triggersByCosmosContractEvent.Tight
  evm : maps.triggersByEvmContractEvent.Tight
  atprotoExact : maps.triggersByAtprotoEventExact.Tight
  atprotoPattern : maps.triggersByAtprotoEventPattern.Tight
  block : ∀ chain scheduler, maps.blockSchedulers.get chain = some scheduler →
    scheduler.Known blockInterval
  cronKnown : maps.cronScheduler.Known (cronInterval cron)

/-- Every entry of the lookup id is as it was: its place, its handle with the filter the
handle names, and its scheduler states. -/
structure Untouched (before after : Lookup) (id : LookupId) : Prop where
  lists : ∀ place, after.Lists place id ↔ before.Lists place id
  handle : ∀ rpcId, after.triggersByStellarContractEvent.Relates rpcId id ↔
    before.triggersByStellarContractEvent.Relates rpcId id
  filter : ∀ rpcId, before.triggersByStellarContractEvent.Relates rpcId id →
    ∀ chain filter, after.Handles chain rpcId filter ↔ before.Handles chain rpcId filter
  block : ∀ chain, after.blockStates chain id = before.blockStates chain id
  cronStates : after.cronStates cron id = before.cronStates cron id

/-- The parts of the maps that adding to or removing from a place leaves alone. -/
structure SameRegistry (before after : Lookup) : Prop where
  configs : after.triggerConfigs = before.triggerConfigs
  workflows : after.triggersByServiceWorkflow = before.triggersByServiceWorkflow
  counter : after.lookupId = before.lookupId

variable {cron}

theorem Untouched.trans {first second third : Lookup} {id : LookupId}
    (one : Untouched cron first second id) (two : Untouched cron second third id) :
    Untouched cron first third id where
  lists place := (two.lists place).trans (one.lists place)
  handle rpcId := (two.handle rpcId).trans (one.handle rpcId)
  filter rpcId related chain filter :=
    (two.filter rpcId ((one.handle rpcId).mpr related) chain filter).trans
      (one.filter rpcId related chain filter)
  block chain := (two.block chain).trans (one.block chain)
  cronStates := two.cronStates.trans one.cronStates

theorem Untouched.holds {before after : Lookup} {id : LookupId} (untouched : Untouched cron before after id)
    (trigger : Trigger) (holds : before.Holds cron id trigger) : after.Holds cron id trigger := by
  cases trigger with
  | stellarContractEvent chain contractId topicSegments =>
    obtain ⟨rpcId,filter,related,made,handles⟩ := holds
    exact ⟨rpcId,filter,(untouched.handle rpcId).mpr related,made,
      (untouched.filter rpcId related chain filter).mpr handles⟩
  | blockInterval chain nBlocks startBlock endBlock => exact (untouched.block chain).trans holds
  | cron schedule startTime endTime => exact untouched.cronStates.trans holds
  | _ => trivial

section Change

variable (cron)

/-- Only the entries of one lookup id have changed. -/
structure Confined (before after : Lookup) (id : LookupId) : Prop where
  same : SameRegistry before after
  untouched : ∀ other, other ≠ id → Untouched cron before after other
  sound : before.Sound cron → after.Sound cron

/-- The lookup id has left the place of its trigger, and nothing else has changed. -/
structure Removed (before after : Lookup) (id : LookupId) (trigger : Trigger) : Prop
    extends Confined cron before after id where
  lists : ∀ place other, after.Lists place other ↔
    before.Lists place other ∧ ¬(placeOf trigger = some place ∧ other = id)

/-- The lookup id is in the place of its trigger, and nothing else has changed. -/
structure Inserted (before after : Lookup) (id : LookupId) (trigger : Trigger) : Prop
    extends Confined cron before after id where
  lists : ∀ place other, after.Lists place other ↔
    before.Lists place other ∨ placeOf trigger = some place ∧ other = id
  holds : after.Holds cron id trigger

/-- Of the places that are not indexes of sets, and of the clients' filters, only the
entries of one lookup id have changed. -/
structure Beside (before after : Lookup) (id : LookupId) : Prop where
  same : SameRegistry before after
  handle : ∀ other, other ≠ id → ∀ rpcId, after.triggersByStellarContractEvent.Relates rpcId other ↔
    before.triggersByStellarContractEvent.Relates rpcId other
  filter : ∀ other, other ≠ id → ∀ rpcId, before.triggersByStellarContractEvent.Relates rpcId other →
    ∀ chain filter, after.Handles chain rpcId filter ↔ before.Handles chain rpcId filter
  block : ∀ other, other ≠ id → ∀ chain, after.blockStates chain other = before.blockStates chain other
  cronStates : ∀ other, other ≠ id → after.cronStates cron other = before.cronStates cron other
  sound : before.Sound cron → after.Sound cron

variable {cron} {before after : Lookup} {id : LookupId} {trigger : Trigger}

theorem Beside.confined (beside : Beside cron before after id)
    (lists : ∀ place other, other ≠ id → (after.Lists place other ↔ before.Lists place other)) :
    Confined cron before after id := by
  refine ⟨beside.same,?_,beside.sound⟩
  intro other apart
  exact ⟨fun place => lists place other apart,beside.handle other apart,beside.filter other apart,
    beside.block other apart,beside.cronStates other apart⟩

theorem Beside.removed (beside : Beside cron before after id)
    (lists : ∀ place other, after.Lists place other ↔
      before.Lists place other ∧ ¬(placeOf trigger = some place ∧ other = id)) :
    Removed cron before after id trigger := by
  refine ⟨beside.confined ?_,lists⟩
  intro place other apart
  rw [lists]
  simp [apart]

theorem Beside.inserted (beside : Beside cron before after id)
    (lists : ∀ place other, after.Lists place other ↔
      before.Lists place other ∨ placeOf trigger = some place ∧ other = id)
    (holds : after.Holds cron id trigger) : Inserted cron before after id trigger := by
  refine ⟨beside.confined ?_,lists,holds⟩
  intro place other apart
  rw [lists]
  simp [apart]

/-- A change to one of the four indexes of sets. -/
theorem beside_of_index (same : SameRegistry before after)
    (handles : after.triggersByStellarContractEvent = before.triggersByStellarContractEvent)
    (controllers : after.stellarControllers = before.stellarControllers)
    (block : after.blockSchedulers = before.blockSchedulers)
    (cronSame : after.cronScheduler = before.cronScheduler)
    (sound : before.Sound cron → after.Sound cron) : Beside cron before after id := by
  refine ⟨same,?_,?_,?_,?_,sound⟩
  · intro other _ rpcId
    rw [handles]
  · intro other _ rpcId _ chain filter
    unfold Handles
    rw [controllers]
  · intro other _ chain
    unfold blockStates
    rw [block]
  · intro other _
    unfold Lookup.cronStates
    rw [cronSame]

end Change

section Remove

variable (cron)

theorem removed_stellar (self next : Lookup) (id : LookupId) (chain : ChainKey) (contractId : String)
    (topicSegments : List StellarTopicSegment)
    (result : removeTrigger cron self id (.stellarContractEvent chain contractId topicSegments) =
      (next,.ok ())) :
    Removed cron self next id (.stellarContractEvent chain contractId topicSegments) := by
  simp only [removeTrigger] at result
  split at result
  · next missing =>
    cases result
    have absent : ∀ rpcId, ¬self.triggersByStellarContractEvent.Relates rpcId id := by
      intro rpcId related
      rw [← BiMap.getByRight_iff,missing] at related
      cases related
    refine Beside.removed (beside_of_index ⟨rfl,rfl,rfl⟩ rfl rfl rfl rfl (fun sound => sound)) ?_
    intro place other
    cases place with
    | stellar =>
      constructor
      · intro listed
        obtain ⟨rpcId,related⟩ := listed
        refine ⟨⟨rpcId,related⟩,?_⟩
        rintro ⟨_,rfl⟩
        exact absent rpcId related
      · intro listed
        exact listed.1
    | _ => simp [placeOf]
  · next rpcId found =>
    have related := (BiMap.getByRight_iff _ _ _).mp found
    split at result
    · cases result
    · next controller present =>
      cases result
      refine Beside.removed ⟨⟨rfl,rfl,rfl⟩,?_,?_,fun _ _ _ => rfl,fun _ _ => rfl,
        fun sound => {sound with}⟩ ?_
      · intro other apart otherRpc
        simp [BiMap.relates_removeByRight,apart]
      · intro other apart otherRpc otherRelated otherChain filter
        have distinct : otherRpc ≠ rpcId := by
          intro same
          subst same
          exact apart (self.triggersByStellarContractEvent.relates_left _ _ _ otherRelated related)
        unfold Handles StellarControllers.updateEventFilters
        simp only [HashMap.get_insert]
        by_cases here : otherChain = chain
        · subst otherChain
          simp [present,EventFilters.handles_removeFilterById _ _ _ _ distinct]
        · simp [here]
      · intro place other
        cases place with
        | stellar => simp [Lists,placeOf,BiMap.relates_removeByRight,and_comm]
        | _ => simp [Lists,placeOf]

theorem removed_block (self next : Lookup) (id : LookupId) (chain : ChainKey) (nBlocks : NonZeroU32)
    (startBlock endBlock : Option NonZeroU64)
    (result : removeTrigger cron self id (.blockInterval chain nBlocks startBlock endBlock) =
      (next,.ok ())) :
    Removed cron self next id (.blockInterval chain nBlocks startBlock endBlock) := by
  simp only [removeTrigger] at result
  split at result
  · next missing =>
    cases result
    refine Beside.removed (beside_of_index ⟨rfl,rfl,rfl⟩ rfl rfl rfl rfl (fun sound => sound)) ?_
    intro place other
    cases place with
    | block elsewhere =>
      constructor
      · intro listed
        refine ⟨listed,?_⟩
        rintro ⟨same,_⟩
        cases same
        obtain ⟨scheduler,found,_⟩ := listed
        rw [missing] at found
        cases found
      · intro listed
        exact listed.1
    | _ => simp [placeOf]
  · next scheduler found =>
    cases result
    refine Beside.removed ⟨⟨rfl,rfl,rfl⟩,fun _ _ _ => Iff.rfl,fun _ _ _ _ _ _ => Iff.rfl,?_,
      fun _ _ => rfl,?_⟩ ?_
    · intro other apart elsewhere
      simp only [blockStates,HashMap.get_insert]
      by_cases here : elsewhere = chain
      · subst elsewhere
        simp [found,IntervalScheduler.statesOf_removeTrigger,apart]
      · simp [here]
    · intro sound
      refine {sound with block := ?_}
      intro elsewhere other present
      simp only [HashMap.get_insert] at present
      split at present
      · cases present
        exact scheduler.known_removeTrigger blockInterval id (sound.block chain scheduler found)
      · exact sound.block elsewhere other present
    · intro place other
      cases place with
      | block elsewhere =>
        simp only [Lists,placeOf,HashMap.get_insert,Option.some.injEq,Place.block.injEq]
        by_cases here : elsewhere = chain
        · subst elsewhere
          simp [found,IntervalScheduler.removeTrigger,and_comm]
        · simp [here,Ne.symm here]
      | _ => simp [Lists,placeOf]

theorem removed_cron (self : Lookup) (id : LookupId) (schedule : String)
    (startTime endTime : Option Timestamp) :
    Removed cron self (removeTrigger cron self id (.cron schedule startTime endTime)).1 id
      (.cron schedule startTime endTime) := by
  refine Beside.removed ⟨⟨rfl,rfl,rfl⟩,fun _ _ _ => Iff.rfl,fun _ _ _ _ _ _ => Iff.rfl,
    fun _ _ _ => rfl,?_,?_⟩ ?_
  · intro other apart
    exact (self.cronScheduler.statesOf_removeTrigger (cronInterval cron) id other).trans (if_neg apart)
  · intro sound
    exact {sound with
      cronKnown := self.cronScheduler.known_removeTrigger (cronInterval cron) id sound.cronKnown}
  · intro place other
    cases place with
    | cron => simp [Lists,placeOf,removeTrigger,IntervalScheduler.removeTrigger,and_comm]
    | _ => simp [Lists,placeOf,removeTrigger]

theorem removed_trigger (self next : Lookup) (id : LookupId) (trigger : Trigger)
    (result : removeTrigger cron self id trigger = (next,.ok ())) :
    Removed cron self next id trigger := by
  cases trigger with
  | cosmosContractEvent address chain eventType =>
    cases result
    refine Beside.removed (beside_of_index ⟨rfl,rfl,rfl⟩ rfl rfl rfl rfl ?_) ?_
    · intro sound
      exact {sound with cosmos := Index.tight_drop _ _ _ sound.cosmos}
    · intro place other
      cases place with
      | cosmos key => simp [Lists,placeOf,Index.lists_drop,eq_comm]
      | _ => simp [Lists,placeOf]
  | evmContractEvent address chain eventHash =>
    cases result
    refine Beside.removed (beside_of_index ⟨rfl,rfl,rfl⟩ rfl rfl rfl rfl ?_) ?_
    · intro sound
      exact {sound with evm := Index.tight_drop _ _ _ sound.evm}
    · intro place other
      cases place with
      | evm key => simp [Lists,placeOf,Index.lists_drop,eq_comm]
      | _ => simp [Lists,placeOf]
  | stellarContractEvent chain contractId topicSegments =>
    exact removed_stellar cron self next id chain contractId topicSegments result
  | blockInterval chain nBlocks startBlock endBlock =>
    exact removed_block cron self next id chain nBlocks startBlock endBlock result
  | cron schedule startTime endTime =>
    cases result
    exact removed_cron cron self id schedule startTime endTime
  | atProtoEvent collection repoDid action =>
    simp only [removeTrigger] at result
    split at result
    · next wildcard =>
      cases result
      refine Beside.removed (beside_of_index ⟨rfl,rfl,rfl⟩ rfl rfl rfl rfl ?_) ?_
      · intro sound
        exact {sound with atprotoPattern := Index.tight_drop _ _ _ sound.atprotoPattern}
      · intro place other
        cases place with
        | atprotoPattern key => simp [Lists,placeOf,wildcard,Index.lists_drop,eq_comm]
        | _ => simp [Lists,placeOf,wildcard]
    · next wildcard =>
      cases result
      refine Beside.removed (beside_of_index ⟨rfl,rfl,rfl⟩ rfl rfl rfl rfl ?_) ?_
      · intro sound
        exact {sound with atprotoExact := Index.tight_drop _ _ _ sound.atprotoExact}
      · intro place other
        cases place with
        | atprotoExact key => simp [Lists,placeOf,wildcard,Index.lists_drop,eq_comm]
        | _ => simp [Lists,placeOf,wildcard]
  | manual =>
    cases result
    refine Beside.removed (beside_of_index ⟨rfl,rfl,rfl⟩ rfl rfl rfl rfl (fun sound => sound)) ?_
    intro place other
    simp [placeOf]

end Remove

section Insert

variable (cron)

/-- No chain's client is about to mint a handle that the index has already. -/
def Mintable (self : Lookup) (trigger : Trigger) : Prop :=
  ∀ chain contractId topicSegments controller,
    trigger = .stellarContractEvent chain contractId topicSegments →
    self.stellarControllers.get chain = some controller →
    ∀ other, ¬self.triggersByStellarContractEvent.Relates controller.eventFilters.list.next other

theorem inserted_stellar (self next : Lookup) (id : LookupId) (chain : ChainKey) (contractId : String)
    (topicSegments : List StellarTopicSegment)
    (absent : ∀ place, ¬self.Lists place id)
    (mintable : self.Mintable (.stellarContractEvent chain contractId topicSegments))
    (result : insertTrigger cron self id (.stellarContractEvent chain contractId topicSegments) =
      (next,.ok ())) :
    Inserted cron self next id (.stellarContractEvent chain contractId topicSegments) := by
  simp only [insertTrigger] at result
  split at result
  · cases result
  · next filter made =>
    split at result
    · cases result
    · next controller found =>
      cases result
      have free := mintable chain contractId topicSegments controller rfl found
      have fresh : ∀ rpcId, ¬self.triggersByStellarContractEvent.Relates rpcId id :=
        fun rpcId related => absent .stellar ⟨rpcId,related⟩
      have minted : ∀ rpcId other, self.triggersByStellarContractEvent.Relates rpcId other →
          rpcId ≠ controller.eventFilters.list.next := by
        intro rpcId other related same
        subst same
        exact free other related
      refine Beside.inserted ⟨⟨rfl,rfl,rfl⟩,?_,?_,fun _ _ _ => rfl,fun _ _ => rfl,
        fun sound => {sound with}⟩ ?_ ?_
      · intro other apart rpcId
        rw [BiMap.relates_insert]
        constructor
        · rintro (⟨_,same⟩ | ⟨_,_,related⟩)
          · exact absurd same apart
          · exact related
        · intro related
          exact .inr ⟨minted rpcId other related,apart,related⟩
      · intro other apart rpcId related otherChain otherFilter
        unfold Handles StellarControllers.updateEventFilters
        simp only [HashMap.get_insert]
        by_cases here : otherChain = chain
        · subst otherChain
          simp [found,EventFilters.handles_addFilter_other _ _ _ _ (minted rpcId other related)]
        · simp [here]
      · intro place other
        cases place with
        | stellar =>
          simp only [Lists,placeOf,BiMap.relates_insert,EventFilters.addFilter_fst,true_and]
          constructor
          · rintro ⟨rpcId,⟨_,same⟩ | ⟨_,_,related⟩⟩
            · exact .inr same
            · exact .inl ⟨rpcId,related⟩
          · rintro (⟨rpcId,related⟩ | same)
            · refine ⟨rpcId,.inr ⟨minted rpcId other related,?_,related⟩⟩
              intro same
              subst same
              exact fresh rpcId related
            · exact ⟨_,.inl ⟨rfl,same⟩⟩
        | _ => simp [Lists,placeOf]
      · refine ⟨controller.eventFilters.list.next,filter,?_,made,_,HashMap.get_insert_self _ _ _,
          controller.eventFilters.handles_addFilter filter⟩
        exact (BiMap.relates_insert _ _ _ _ _).mpr (.inl ⟨rfl,rfl⟩)

theorem inserted_block (self next : Lookup) (id : LookupId) (chain : ChainKey) (nBlocks : NonZeroU32)
    (startBlock endBlock : Option NonZeroU64) (sound : self.Sound cron)
    (absent : ∀ place, ¬self.Lists place id)
    (result : insertTrigger cron self id (.blockInterval chain nBlocks startBlock endBlock) =
      (next,.ok ())) :
    Inserted cron self next id (.blockInterval chain nBlocks startBlock endBlock) := by
  simp only [insertTrigger] at result
  have known : ((self.blockSchedulers.get chain).getD .new).Known blockInterval := by
    cases found : self.blockSchedulers.get chain with
    | none => exact IntervalScheduler.known_new blockInterval
    | some scheduler => exact sound.block chain scheduler found
  have unknown : id ∉ ((self.blockSchedulers.get chain).getD .new).triggerIds := by
    cases found : self.blockSchedulers.get chain with
    | none => exact HashSet.not_mem_empty id
    | some scheduler =>
      intro member
      exact absent (.block chain) ⟨scheduler,found,member⟩
  have states : ∀ other, ((self.blockSchedulers.get chain).getD .new).statesOf blockInterval other =
      self.blockStates chain other := by
    intro other
    unfold blockStates
    cases self.blockSchedulers.get chain <;> rfl
  have members : ∀ other, other ∈ ((self.blockSchedulers.get chain).getD .new).triggerIds ↔
      self.Lists (.block chain) other := by
    intro other
    cases found : self.blockSchedulers.get chain with
    | none => simp [Lists,found,IntervalScheduler.new]
    | some scheduler => simp [Lists,found]
  generalize (self.blockSchedulers.get chain).getD .new = scheduler at result known unknown states members
  split at result
  · cases result
  · next added grown scheduled =>
    cases result
    obtain ⟨ids,_⟩ := scheduler.addTrigger_ok blockInterval grown _ added scheduled unknown
    have grownStates := scheduler.statesOf_addTrigger blockInterval grown _ added scheduled known unknown
    refine Beside.inserted ⟨⟨rfl,rfl,rfl⟩,fun _ _ _ => Iff.rfl,fun _ _ _ _ _ _ => Iff.rfl,?_,
      fun _ _ => rfl,?_⟩ ?_ ?_
    · intro other apart elsewhere
      simp only [blockStates,HashMap.get_insert]
      by_cases here : elsewhere = chain
      · subst elsewhere
        have kept := (grownStates other).trans (if_neg apart)
        simp only [if_true,Option.map_some,Option.getD_some]
        rw [kept,states]
        rfl
      · simp [here]
    · intro sound
      refine {sound with block := ?_}
      intro elsewhere other present
      simp only [HashMap.get_insert] at present
      split at present
      · cases present
        exact scheduler.known_addTrigger blockInterval grown _ added scheduled known unknown
      · exact sound.block elsewhere other present
    · intro place other
      cases place with
      | block elsewhere =>
        by_cases here : elsewhere = chain
        · subst elsewhere
          rw [← members]
          simp only [Lists,placeOf,HashMap.get_insert_self,Option.some.injEq,exists_eq_left',ids,
            HashSet.mem_insert,true_and]
          exact or_comm
        · simp [Lists,placeOf,HashMap.get_insert,here,Ne.symm here]
      | _ => simp [Lists,placeOf]
    · simp only [Holds,blockStates,HashMap.get_insert_self,Option.map_some,Option.getD_some]
      exact (grownStates id).trans (if_pos rfl)

theorem inserted_cron (self next : Lookup) (id : LookupId) (schedule : String)
    (startTime endTime : Option Timestamp) (sound : self.Sound cron)
    (absent : ∀ place, ¬self.Lists place id)
    (result : insertTrigger cron self id (.cron schedule startTime endTime) = (next,.ok ())) :
    Inserted cron self next id (.cron schedule startTime endTime) := by
  simp only [insertTrigger] at result
  split at result
  · cases result
  · split at result
    · cases result
    · next added grown scheduled =>
      cases result
      have unknown : id ∉ self.cronScheduler.triggerIds := absent .cron
      obtain ⟨ids,_⟩ := self.cronScheduler.addTrigger_ok (cronInterval cron) grown _ added scheduled unknown
      have grownStates := self.cronScheduler.statesOf_addTrigger (cronInterval cron) grown _ added
        scheduled sound.cronKnown unknown
      refine Beside.inserted ⟨⟨rfl,rfl,rfl⟩,fun _ _ _ => Iff.rfl,fun _ _ _ _ _ _ => Iff.rfl,
        fun _ _ _ => rfl,?_,?_⟩ ?_ ?_
      · intro other apart
        exact (grownStates other).trans (if_neg apart)
      · intro sound
        exact {sound with
          cronKnown := self.cronScheduler.known_addTrigger (cronInterval cron) grown _ added
            scheduled sound.cronKnown unknown}
      · intro place other
        cases place with
        | cron =>
          simp only [Lists,placeOf,ids,HashSet.mem_insert,true_and]
          exact or_comm
        | _ => simp [Lists,placeOf]
      · exact (grownStates id).trans (if_pos rfl)

theorem inserted_trigger (self next : Lookup) (id : LookupId) (trigger : Trigger)
    (sound : self.Sound cron) (absent : ∀ place, ¬self.Lists place id)
    (mintable : self.Mintable trigger)
    (result : insertTrigger cron self id trigger = (next,.ok ())) :
    Inserted cron self next id trigger := by
  cases trigger with
  | cosmosContractEvent address chain eventType =>
    cases result
    refine Beside.inserted (beside_of_index ⟨rfl,rfl,rfl⟩ rfl rfl rfl rfl ?_) ?_ trivial
    · intro sound
      exact {sound with cosmos := Index.tight_add _ _ _ sound.cosmos}
    · intro place other
      cases place with
      | cosmos key => simp [Lists,placeOf,Index.lists_add,eq_comm,or_comm]
      | _ => simp [Lists,placeOf]
  | evmContractEvent address chain eventHash =>
    cases result
    refine Beside.inserted (beside_of_index ⟨rfl,rfl,rfl⟩ rfl rfl rfl rfl ?_) ?_ trivial
    · intro sound
      exact {sound with evm := Index.tight_add _ _ _ sound.evm}
    · intro place other
      cases place with
      | evm key => simp [Lists,placeOf,Index.lists_add,eq_comm,or_comm]
      | _ => simp [Lists,placeOf]
  | stellarContractEvent chain contractId topicSegments =>
    exact inserted_stellar cron self next id chain contractId topicSegments absent mintable result
  | blockInterval chain nBlocks startBlock endBlock =>
    exact inserted_block cron self next id chain nBlocks startBlock endBlock sound absent result
  | cron schedule startTime endTime =>
    exact inserted_cron cron self next id schedule startTime endTime sound absent result
  | atProtoEvent collection repoDid action =>
    simp only [insertTrigger] at result
    split at result
    · next wildcard =>
      cases result
      refine Beside.inserted (beside_of_index ⟨rfl,rfl,rfl⟩ rfl rfl rfl rfl ?_) ?_ trivial
      · intro sound
        exact {sound with atprotoPattern := Index.tight_add _ _ _ sound.atprotoPattern}
      · intro place other
        cases place with
        | atprotoPattern key => simp [Lists,placeOf,wildcard,Index.lists_add,eq_comm,or_comm]
        | _ => simp [Lists,placeOf,wildcard]
    · next wildcard =>
      cases result
      refine Beside.inserted (beside_of_index ⟨rfl,rfl,rfl⟩ rfl rfl rfl rfl ?_) ?_ trivial
      · intro sound
        exact {sound with atprotoExact := Index.tight_add _ _ _ sound.atprotoExact}
      · intro place other
        cases place with
        | atprotoExact key => simp [Lists,placeOf,wildcard,Index.lists_add,eq_comm,or_comm]
        | _ => simp [Lists,placeOf,wildcard]
  | manual =>
    cases result
    refine Beside.inserted (beside_of_index ⟨rfl,rfl,rfl⟩ rfl rfl rfl rfl (fun sound => sound)) ?_ trivial
    intro place other
    simp [placeOf]

end Insert

section Clear

variable (cron)

/-- The lookup ids have left every place, and nothing else has changed. -/
structure Cleared (before after : Lookup) (ids : List LookupId) : Prop where
  same : SameRegistry before after
  gone : ∀ place id, id ∈ ids → ¬after.Lists place id
  untouched : ∀ id, id ∉ ids → Untouched cron before after id
  sound : before.Sound cron → after.Sound cron

/-- The lookup id is listed in no other place than its trigger's. -/
def OnlyPlaced (self : Lookup) (id : LookupId) : Prop :=
  ∀ place, self.Lists place id →
    ∃ config, self.triggerConfigs.get id = some config ∧ placeOf config.trigger = some place

variable {cron}

theorem Cleared.trans {first second third : Lookup} {xs ys : List LookupId}
    (one : Cleared cron first second xs) (two : Cleared cron second third ys) :
    Cleared cron first third (xs ++ ys) where
  same := ⟨two.same.configs.trans one.same.configs,two.same.workflows.trans one.same.workflows,
    two.same.counter.trans one.same.counter⟩
  gone place id member := by
    by_cases later : id ∈ ys
    · exact two.gone place id later
    · have earlier : id ∈ xs := (List.mem_append.mp member).resolve_right later
      rw [(two.untouched id later).lists place]
      exact one.gone place id earlier
  untouched id absent := by
    rw [List.mem_append,not_or] at absent
    exact (one.untouched id absent.1).trans (two.untouched id absent.2)
  sound sound := two.sound (one.sound sound)

variable (cron)

theorem cleared_nil (self : Lookup) : Cleared cron self self [] where
  same := ⟨rfl,rfl,rfl⟩
  gone _ _ member := absurd member List.not_mem_nil
  untouched _ _ := ⟨fun _ => Iff.rfl,fun _ => Iff.rfl,fun _ _ _ _ => Iff.rfl,fun _ => rfl,rfl⟩
  sound sound := sound

theorem cleared_removeLookup (self next : Lookup) (id : LookupId) (only : self.OnlyPlaced id)
    (result : removeLookup cron self id = (next,.ok ())) : Cleared cron self next [id] := by
  unfold removeLookup at result
  split at result
  · next missing =>
    cases result
    refine {cleared_nil cron self with gone := ?_, untouched := fun other _ =>
      (cleared_nil cron self).untouched other List.not_mem_nil}
    intro place other member listed
    rw [List.mem_singleton] at member
    subst member
    obtain ⟨config,found,_⟩ := only place listed
    rw [missing] at found
    cases found
  · next config found =>
    have removed := removed_trigger cron self next id config.trigger result
    refine ⟨removed.same,?_,?_,removed.sound⟩
    · intro place other member listed
      rw [List.mem_singleton] at member
      subst member
      obtain ⟨before,elsewhere⟩ := (removed.lists place other).mp listed
      obtain ⟨same,again,placed⟩ := only place before
      rw [found] at again
      cases again
      exact elsewhere ⟨placed,rfl⟩
    · intro other absent
      exact removed.untouched other (by simpa using absent)

theorem cleared_removeTriggers (ids : List LookupId) (before next : Lookup)
    (only : ∀ id ∈ ids, before.OnlyPlaced id)
    (result : removeTriggers cron before ids = (next,.ok ())) : Cleared cron before next ids := by
  induction ids generalizing before with
  | nil =>
    cases result
    exact cleared_nil cron _
  | cons id rest ih =>
    unfold removeTriggers at result
    split at result
    · cases result
    · next middle removed =>
      have first := cleared_removeLookup cron before middle id (only id List.mem_cons_self) removed
      refine first.trans (ih middle ?_ result)
      intro other member place listed
      rw [first.same.configs]
      by_cases again : other ∈ [id]
      · exact absurd listed (first.gone place other again)
      · rw [(first.untouched other again).lists] at listed
        exact only other (List.mem_cons_of_mem id member) place listed

end Clear

end Lookup
end Warpdrive.Trigger
