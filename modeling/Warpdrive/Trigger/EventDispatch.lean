import Mathlib.Algebra.GroupWithZero.Nat
import Warpdrive.Trigger.Indexed
import Warpdrive.Trigger.Survival

/-! Which triggers a Cosmos contract event and an AtProto event start: the registered and active ones
that the event is for, each once, and no others. A Cosmos event that announces a URI and has none starts
nothing. -/
namespace Warpdrive.Trigger

open Warpdrive.Foundation Warpdrive.Types

def DispatcherCommand.action : DispatcherCommand → Option TriggerAction
  | .trigger action => some action
  | .changeServiceUri _ _ => none

namespace Manager

/-- The commands start each registered and active trigger that is wanted once, with the data, and no
other trigger. -/
def DispatchesTo (self : Manager) (isActive : ServiceId → Bool) (wanted : Trigger → Prop) (data : TriggerData)
    (commands : List DispatcherCommand) : Prop :=
  ∃ ids : List LookupId, ids.Nodup ∧
    (∀ id, id ∈ ids ↔ ∃ config, self.lookup.triggerConfigs.get id = some config ∧ wanted config.trigger ∧
      isActive config.serviceId = true) ∧
    commands.filterMap DispatcherCommand.action =
      (ids.filterMap self.lookup.triggerConfigs.get).map (fun config => ⟨config,data⟩)

variable (isActive : ServiceId → Bool) (self : Manager)

theorem actions_triggerActions (ids : List LookupId) (data : TriggerData) :
    (self.triggerActions isActive ids data).filterMap DispatcherCommand.action =
      (self.lookup.toLookupMaps.getTriggerConfigs isActive ids).map (fun config => ⟨config,data⟩) := by
  unfold triggerActions
  rw [List.filterMap_map]
  exact congrFun (List.filterMap_eq_map (f := fun config => (⟨config,data⟩ : TriggerAction))) _

theorem actions_changeServiceUri (address : ChainAddress) (uri : String) :
    (self.changeServiceUri address uri).filterMap DispatcherCommand.action = [] := by
  unfold changeServiceUri
  split <;> rfl

/-- Lookup ids that hold the wanted triggers among the registered ones. -/
theorem dispatchesTo_triggerActions (ids : List LookupId) (nodup : ids.Nodup) (wanted : Trigger → Prop)
    (data : TriggerData) (every : ∀ id config, self.lookup.triggerConfigs.get id = some config →
      (id ∈ ids ↔ wanted config.trigger)) :
    self.DispatchesTo isActive wanted data (self.triggerActions isActive ids data) := by
  refine ⟨ids.filter (fun id => (self.lookup.triggerConfigs.get id).any (fun config => isActive config.serviceId)),
    nodup.filter _,fun id => ?_,?_⟩
  · rw [List.mem_filter,Option.any_eq_true]
    constructor
    · intro both
      obtain ⟨member,config,found,active⟩ := both
      exact ⟨config,found,(every id config found).mp member,active⟩
    · intro held
      obtain ⟨config,found,own,active⟩ := held
      exact ⟨(every id config found).mpr own,config,found,active⟩
  · rw [actions_triggerActions]
    congr 1
    unfold LookupMaps.getTriggerConfigs
    clear nodup every
    induction ids with
    | nil => rfl
    | cons id ids ih =>
      cases found : self.lookup.triggerConfigs.get id with
      | none => simpa [found] using ih
      | some config => by_cases active : isActive config.serviceId <;> simp [found,active,ih]

/-- Nothing is started exactly where there is nothing to start. -/
theorem dispatchesTo_nil_iff (wanted : Trigger → Prop) (data : TriggerData) :
    self.DispatchesTo isActive wanted data [] ↔ ∀ id config, self.lookup.triggerConfigs.get id = some config →
      wanted config.trigger → isActive config.serviceId = false := by
  constructor
  · intro dispatches id config found own
    obtain ⟨ids,_,every,started⟩ := dispatches
    by_contra active
    have member : id ∈ ids := (every id).mpr ⟨config,found,own,by simpa using active⟩
    have inside : config ∈ ids.filterMap self.lookup.triggerConfigs.get :=
      List.mem_filterMap.mpr ⟨id,member,found⟩
    rw [List.map_eq_nil_iff.mp started.symm] at inside
    cases inside
  · intro idle
    refine ⟨[],List.nodup_nil,fun id => ?_,rfl⟩
    constructor
    · intro member
      cases member
    · intro held
      obtain ⟨config,found,own,active⟩ := held
      rw [idle id config found own] at active
      cases active

theorem indexedActions_eq (found : Option (HashSet LookupId)) (data : TriggerData) :
    self.indexedActions isActive found data =
      self.triggerActions isActive ((found.getD .empty).toList) data := by
  cases found <;> rfl

theorem mem_getD_iff {K : Type} [DecidableEq K] (index : Index K LookupId) (key : K) (id : LookupId) :
    id ∈ ((index.get key).getD .empty).toList ↔ index.Lists key id := by
  unfold Index.Lists
  cases index.get key with
  | none => simp [HashSet.empty]
  | some set => simp [HashSet.mem_def]

theorem placeOf_cosmos_iff (trigger : Trigger) (address : CosmosAddr) (chain : ChainKey) (eventType : String) :
    placeOf trigger = some (.cosmos (chain,address,eventType)) ↔
      trigger = .cosmosContractEvent address chain eventType := by
  cases trigger with
  | atProtoEvent collection repoDid action =>
    simp only [placeOf]
    split <;> simp
  | cosmosContractEvent on at_ ty =>
    simp only [placeOf,Option.some.injEq,Place.cosmos.injEq,Prod.mk.injEq,Trigger.cosmosContractEvent.injEq]
    exact and_left_comm
  | _ => simp [placeOf]

variable {self} in
/-- What the index has for an event is what is registered for it. -/
theorem dispatchesTo_indexedCosmos (indexed : self.lookup.Indexed) (address : CosmosAddr) (chain : ChainKey)
    (eventType : String) (data : TriggerData) :
    self.DispatchesTo isActive (· = .cosmosContractEvent address chain eventType) data
      (self.indexedActions isActive (self.lookup.triggersByCosmosContractEvent.get (chain,address,eventType))
        data) := by
  rw [indexedActions_eq]
  apply dispatchesTo_triggerActions
  · exact ((self.lookup.triggersByCosmosContractEvent.get (chain,address,eventType)).getD .empty).nodup
  · intro id config found
    rw [mem_getD_iff]
    rw [← placeOf_cosmos_iff]
    exact indexed.lists_iff (.cosmos (chain,address,eventType)) trivial id config found

/-- The events of a batch for which a trigger waits announce a URI in the right form, where they announce
one. -/
def CosmosAnnounced (lib : EventLib) (isActive : ServiceId → Bool) (self : Manager) (chain : ChainKey)
    (contractEvent : StreamTriggerCosmosContractEvent) : Prop :=
  lib.isType contractEvent.event wavsServiceUriUpdatedEvent = true → cosmosServiceUri lib contractEvent.event = none →
    ∀ id config, self.lookup.triggerConfigs.get id = some config →
      config.trigger = .cosmosContractEvent contractEvent.contractAddress chain contractEvent.event.ty →
        isActive config.serviceId = false

variable {self} in
theorem onCosmosEvent_dispatches_iff (lib : EventLib) (indexed : self.lookup.Indexed) (chain : ChainKey)
    (blockHeight : UInt64) (contractEvent : StreamTriggerCosmosContractEvent) :
    self.DispatchesTo isActive
        (· = .cosmosContractEvent contractEvent.contractAddress chain contractEvent.event.ty)
        (.cosmosContractEvent ⟨contractEvent.contractAddress,chain,contractEvent.event,blockHeight,
          contractEvent.eventIndex⟩)
        (self.onCosmosEvent lib isActive chain blockHeight contractEvent) ↔
      self.CosmosAnnounced lib isActive chain contractEvent := by
  have whole := dispatchesTo_indexedCosmos isActive indexed contractEvent.contractAddress chain
    contractEvent.event.ty (.cosmosContractEvent ⟨contractEvent.contractAddress,chain,contractEvent.event,
      blockHeight,contractEvent.eventIndex⟩)
  simp only [onCosmosEvent,CosmosAnnounced]
  split
  · next typed =>
    cases announced : cosmosServiceUri lib contractEvent.event with
    | none =>
      simp only [typed,forall_const]
      exact self.dispatchesTo_nil_iff isActive _ _
    | some uri =>
      have reaches : self.DispatchesTo isActive
          (· = .cosmosContractEvent contractEvent.contractAddress chain contractEvent.event.ty)
          (.cosmosContractEvent ⟨contractEvent.contractAddress,chain,contractEvent.event,blockHeight,
            contractEvent.eventIndex⟩)
          (self.changeServiceUri (.cosmos contractEvent.contractAddress) uri ++
            self.indexedActions isActive (self.lookup.triggersByCosmosContractEvent.get
              (chain,contractEvent.contractAddress,contractEvent.event.ty))
              (.cosmosContractEvent ⟨contractEvent.contractAddress,chain,contractEvent.event,blockHeight,
                contractEvent.eventIndex⟩)) := by
        obtain ⟨ids,nodup,every,started⟩ := whole
        refine ⟨ids,nodup,every,?_⟩
        rw [List.filterMap_append,actions_changeServiceUri]
        exact started
      simp [reaches]
  · next plain => simp [whole,plain]

end Manager

namespace Watcher

variable (cron : CronLib) (prim : IdPrimitives)

/-- In every state, each event of a Cosmos batch starts the triggers that are registered for it exactly
when no event for which one waits announces a URI without a valid one. -/
theorem cosmos_batch_dispatched (lib : EventLib) (chainConfigs : ChainConfigs) (disableNetworking : Bool)
    (acts : List Turn) (isActive : ServiceId → Bool) (connecting : Connecting) (chain : ChainKey)
    (contractEvents : List StreamTriggerCosmosContractEvent) (blockHeight : UInt64) :
    let self := (Manager.new chainConfigs disableNetworking).watch.turns cron prim lib acts
    (self.handle lib isActive connecting (.ok (.cosmos chain contractEvents blockHeight))).2 =
        .sent ((contractEvents.map (self.onCosmosEvent lib isActive chain blockHeight)).flatten ++
          (self.processBlocks isActive chain blockHeight).2) ∧
      ((∀ contractEvent ∈ contractEvents, self.DispatchesTo isActive
          (· = .cosmosContractEvent contractEvent.contractAddress chain contractEvent.event.ty)
          (.cosmosContractEvent ⟨contractEvent.contractAddress,chain,contractEvent.event,blockHeight,
            contractEvent.eventIndex⟩)
          (self.onCosmosEvent lib isActive chain blockHeight contractEvent)) ↔
        ∀ contractEvent ∈ contractEvents, self.CosmosAnnounced lib isActive chain contractEvent) := by
  intro self
  have indexed : self.lookup.Indexed := indexed_run cron prim lib chainConfigs disableNetworking acts
  refine ⟨?_,?_⟩
  · rw [← List.flatMap_def]
    rfl
  · refine forall₂_congr (fun contractEvent _ => ?_)
    exact Manager.onCosmosEvent_dispatches_iff isActive lib indexed chain blockHeight contractEvent

end Watcher

def neutronChain : ChainKey := ⟨.cosmos,⟨"neutron-1",by decide⟩⟩

/-- An update of a service URI that has lost its attribute. -/
def bareUpdate : StreamTriggerCosmosContractEvent :=
  ⟨⟨"neutron1contract",7⟩,⟨"wasm-wavs-service-uri-updated",[]⟩,0⟩

def waitingConfig : TriggerConfig :=
  ⟨deployedId,secondWorkflow,.cosmosContractEvent bareUpdate.contractAddress neutronChain bareUpdate.event.ty⟩

theorem bareUpdate_passed_over :
    let self := (Manager.new ⟨.new,.new,.new,.new⟩ false).watch.turns everyMinute deployedIds Watcher.twoStrings
      [.change (.addTrigger waitingConfig)]
    self.lookup.triggerConfigs.get 0 = some waitingConfig ∧
      ¬∀ contractEvent ∈ [bareUpdate], self.DispatchesTo (fun _ => true)
        (· = .cosmosContractEvent contractEvent.contractAddress neutronChain contractEvent.event.ty)
        (.cosmosContractEvent ⟨contractEvent.contractAddress,neutronChain,contractEvent.event,1,
          contractEvent.eventIndex⟩)
        (self.onCosmosEvent Watcher.twoStrings (fun _ => true) neutronChain 1 contractEvent) := by
  intro self
  have registered : self.lookup.triggerConfigs.get 0 = some waitingConfig := by decide
  refine ⟨registered,fun reached => ?_⟩
  have nothing : self.onCosmosEvent Watcher.twoStrings (fun _ => true) neutronChain 1 bareUpdate = [] := by decide
  have dispatched := reached bareUpdate List.mem_cons_self
  rw [nothing] at dispatched
  have idle := (self.dispatchesTo_nil_iff _ _ _).mp dispatched 0 waitingConfig registered rfl
  cases idle

def utf8Len (chars : List Char) : Nat := (chars.map Char.utf8Size).sum

/-- `&text[bytes..]`, which panics off a character boundary. -/
def sliceFrom : List Char → Nat → Option (List Char)
  | chars,0 => some chars
  | [],_ + 1 => none
  | char::chars,bytes + 1 =>
    if char.utf8Size ≤ bytes + 1 then sliceFrom chars (bytes + 1 - char.utf8Size) else none

/-- `matches_collection_pattern` with its byte slice, without a result where the slice panics. -/
def matchesCollectionPatternChecked (pattern actual : String) : Option Bool :=
  if pattern = actual then some true
  else if ['.','*'].isSuffixOf pattern.toList then
    let stem := pattern.toList.dropLast.dropLast
    if stem.isPrefixOf actual.toList && decide (utf8Len stem < utf8Len actual.toList) then
      (sliceFrom actual.toList (utf8Len stem)).map (fun rest => decide (rest.head? = some '.'))
    else some false
  else some false

/-- The bytes of a prefix end at a character boundary. -/
theorem sliceFrom_append (stem rest : List Char) : sliceFrom (stem ++ rest) (utf8Len stem) = some rest := by
  induction stem with
  | nil => cases rest <;> rfl
  | cons char stem ih =>
    have positive : 0 < char.utf8Size := char.utf8Size_pos
    have split : utf8Len (char::stem) = char.utf8Size + utf8Len stem := rfl
    obtain ⟨bytes,total⟩ := Nat.exists_eq_succ_of_ne_zero (n := utf8Len (char::stem)) (by omega)
    rw [total,List.cons_append]
    unfold sliceFrom
    rw [if_pos (by omega)]
    have remaining : bytes + 1 - char.utf8Size = utf8Len stem := by omega
    rw [remaining,ih]

theorem utf8Len_append (stem rest : List Char) : utf8Len (stem ++ rest) = utf8Len stem + utf8Len rest := by
  simp [utf8Len]

theorem utf8Len_pos_iff (chars : List Char) : 0 < utf8Len chars ↔ chars ≠ [] := by
  cases chars with
  | nil => simp [utf8Len]
  | cons char chars =>
    have positive : 0 < char.utf8Size := char.utf8Size_pos
    have split : utf8Len (char::chars) = char.utf8Size + utf8Len chars := rfl
    simp only [ne_eq,reduceCtorEq,not_false_eq_true,iff_true]
    omega

theorem matchesCollectionPatternChecked_eq (pattern actual : String) :
    matchesCollectionPatternChecked pattern actual = some (matchesCollectionPattern pattern actual) := by
  unfold matchesCollectionPatternChecked matchesCollectionPattern
  split
  · rfl
  · split
    · dsimp only
      generalize pattern.toList.dropLast.dropLast = stem
      by_cases begins : stem.isPrefixOf actual.toList
      · obtain ⟨rest,whole⟩ := List.isPrefixOf_iff_prefix.mp begins
        rw [← whole,sliceFrom_append,utf8Len_append,List.length_append,List.drop_left]
        have longer : utf8Len stem < utf8Len stem + utf8Len rest ↔ stem.length < stem.length + rest.length := by
          rw [Nat.lt_add_right_iff_pos,Nat.lt_add_right_iff_pos,utf8Len_pos_iff,List.length_pos_iff]
        simp only [decide_eq_decide.mpr longer]
        by_cases more : stem.length < stem.length + rest.length <;> simp [more]
      · simp [begins]
    · rfl

/-- The collection of an event is the trigger's, or continues the trigger's `p.*` after `p.`. -/
def CollectionMatches (collection actual : String) : Prop :=
  collection = actual ∨ ∃ stem rest : String, collection = stem ++ ".*" ∧ actual = stem ++ "." ++ rest

theorem matchesCollectionPattern_iff (pattern actual : String) :
    matchesCollectionPattern pattern actual = true ↔ CollectionMatches pattern actual := by
  unfold matchesCollectionPattern CollectionMatches
  by_cases same : pattern = actual
  · simp [same]
  · rw [if_neg same]
    simp only [same,false_or]
    by_cases wild : ['.','*'].isSuffixOf pattern.toList
    · rw [if_pos wild]
      obtain ⟨stem,shape⟩ := List.isSuffixOf_iff_suffix.mp wild
      have cut : pattern.toList.dropLast.dropLast = stem := by
        rw [← shape]
        simp
      rw [cut]
      constructor
      · intro passes
        simp only [Bool.and_eq_true,decide_eq_true_eq] at passes
        obtain ⟨⟨begins,_⟩,dot⟩ := passes
        obtain ⟨rest,whole⟩ := List.isPrefixOf_iff_prefix.mp begins
        rw [← whole,List.drop_left] at dot
        obtain ⟨tail,split⟩ := List.head?_eq_some_iff.mp dot
        refine ⟨String.ofList stem,String.ofList tail,?_,?_⟩
        · apply String.toList_injective
          rw [String.toList_append,String.toList_ofList,← shape]
          rfl
        · apply String.toList_injective
          rw [String.toList_append,String.toList_append,String.toList_ofList,String.toList_ofList,← whole,split]
          simp
      · intro continues
        obtain ⟨text,rest,rfl,rfl⟩ := continues
        have own : text.toList = stem := by
          rw [String.toList_append] at shape
          exact (List.append_cancel_right shape).symm
        rw [String.toList_append,String.toList_append,own]
        simp
    · rw [if_neg wild]
      simp only [Bool.false_eq_true,false_iff]
      intro continues
      obtain ⟨text,rest,rfl,rfl⟩ := continues
      apply wild
      rw [List.isSuffixOf_iff_suffix,String.toList_append]
      exact List.suffix_append _ _

/-- The collection, the repository and the action of an event are those of a key, where it has them. -/
def AtProtoFits (event : AtProtoEvent) (key : AtProtoIndexKey) : Prop :=
  CollectionMatches key.1 event.collection ∧ (∀ repo ∈ key.2.1, repo = event.repo) ∧
    ∀ action ∈ key.2.2, action = event.action

def AtProtoWanted (event : AtProtoEvent) (trigger : Trigger) : Prop :=
  ∃ collection repoDid action, trigger = .atProtoEvent collection repoDid action ∧
    AtProtoFits event (collection,repoDid,action)

namespace Manager

theorem mem_foldl_insert (values : List LookupId) (matched : HashSet LookupId) (id : LookupId) :
    id ∈ values.foldl HashSet.insert matched ↔ id ∈ matched ∨ id ∈ values := by
  induction values generalizing matched with
  | nil => simp
  | cons first rest ih =>
    rw [List.foldl_cons,ih,HashSet.mem_insert,List.mem_cons,or_assoc,or_left_comm]

theorem mem_extendMatches {K : Type} [DecidableEq K] (index : Index K LookupId) (key : K)
    (matched : HashSet LookupId) (id : LookupId) :
    id ∈ extendMatches (index.get key) matched ↔ id ∈ matched ∨ index.Lists key id := by
  unfold extendMatches Index.Lists
  cases index.get key with
  | none => simp
  | some set =>
    rw [mem_foldl_insert]
    simp [HashSet.mem_def]

theorem mem_patterns (entries : List (AtProtoIndexKey × HashSet LookupId)) (event : AtProtoEvent)
    (matched : HashSet LookupId) (id : LookupId) :
    id ∈ entries.foldl (fun matched entry =>
      let ((pattern,repoDid,action),lookupIds) := entry
      if matchesCollectionPattern pattern event.collection && repoDid.all (· = event.repo) &&
          action.all (· = event.action) then
        extendMatches (some lookupIds) matched
      else matched) matched ↔
    id ∈ matched ∨ ∃ key lookupIds, (key,lookupIds) ∈ entries ∧ id ∈ lookupIds ∧ AtProtoFits event key := by
  induction entries generalizing matched with
  | nil => simp
  | cons entry entries ih =>
    obtain ⟨⟨pattern,repoDid,action⟩,lookupIds⟩ := entry
    rw [List.foldl_cons,ih]
    have passes : (matchesCollectionPattern pattern event.collection && repoDid.all (· = event.repo) &&
        action.all (· = event.action)) = true ↔ AtProtoFits event (pattern,repoDid,action) := by
      unfold AtProtoFits
      rw [Bool.and_eq_true,Bool.and_eq_true,matchesCollectionPattern_iff,and_assoc]
      cases repoDid <;> cases action <;> simp
    have first : (id ∈ if matchesCollectionPattern pattern event.collection && repoDid.all (· = event.repo) &&
          action.all (· = event.action) then extendMatches (some lookupIds) matched else matched) ↔
        id ∈ matched ∨ id ∈ lookupIds ∧ AtProtoFits event (pattern,repoDid,action) := by
      by_cases wanted : (matchesCollectionPattern pattern event.collection && repoDid.all (· = event.repo) &&
          action.all (· = event.action)) = true
      · rw [if_pos wanted,and_iff_left (passes.mp wanted)]
        unfold extendMatches
        rw [mem_foldl_insert,HashSet.mem_def lookupIds]
      · rw [if_neg wanted]
        have other := mt passes.mpr wanted
        simp [other]
    refine (or_congr_left first).trans ?_
    rw [or_assoc]
    refine or_congr_right ?_
    constructor
    · intro held
      rcases held with own | later
      · exact ⟨_,lookupIds,List.mem_cons_self,own⟩
      · obtain ⟨key,found,member,rest⟩ := later
        exact ⟨key,found,List.mem_cons_of_mem _ member,rest⟩
    · intro held
      obtain ⟨key,found,member,rest⟩ := held
      rcases List.mem_cons.mp member with same | later
      · cases same
        exact .inl rest
      · exact .inr ⟨key,found,later,rest⟩

/-- A key without a wildcard fits an event that has its very collection. -/
theorem exactKey_iff (event : AtProtoEvent) (collection : String) (repoDid : Option String)
    (action : Option AtProtoAction) (plain : isCollectionPattern collection = false) :
    AtProtoFits event (collection,repoDid,action) ↔ collection = event.collection ∧
      (repoDid = some event.repo ∨ repoDid = none) ∧ (action = some event.action ∨ action = none) := by
  have equal : CollectionMatches collection event.collection ↔ collection = event.collection := by
    unfold CollectionMatches
    refine or_iff_left (fun continues => ?_)
    obtain ⟨stem,rest,rfl,_⟩ := continues
    simp [isCollectionPattern] at plain
  unfold AtProtoFits
  dsimp only
  rw [equal]
  cases repoDid <;> cases action <;> simp

/-- The lookups and the scan together find the registered triggers that the event is for. -/
theorem onAtProto_dispatches (isActive : ServiceId → Bool) (self : Manager) (indexed : self.lookup.Indexed)
    (event : AtProtoEvent) :
    self.DispatchesTo isActive (AtProtoWanted event) (.atProtoEvent event) (self.onAtProto isActive event) := by
  unfold onAtProto
  dsimp only
  apply dispatchesTo_triggerActions
  · exact (HashSet.nodup _)
  · intro id config found
    rw [← HashSet.mem_def,mem_patterns]
    simp only [mem_extendMatches,HashSet.not_mem_empty,false_or,HashMap.mem_iter]
    have exactly : ∀ key, self.lookup.triggersByAtprotoEventExact.Lists key id ↔
        placeOf config.trigger = some (.atprotoExact key) :=
      fun key => indexed.lists_iff (.atprotoExact key) trivial id config found
    have scanned : (∃ key lookupIds, self.lookup.triggersByAtprotoEventPattern.get key = some lookupIds ∧
        id ∈ lookupIds ∧ AtProtoFits event key) ↔
        ∃ key, placeOf config.trigger = some (.atprotoPattern key) ∧ AtProtoFits event key := by
      refine exists_congr (fun key => ?_)
      rw [← indexed.lists_iff (.atprotoPattern key) trivial id config found]
      constructor
      · intro held
        obtain ⟨lookupIds,at_,member,fits⟩ := held
        exact ⟨⟨lookupIds,at_,member⟩,fits⟩
      · intro held
        obtain ⟨⟨lookupIds,at_,member⟩,fits⟩ := held
        exact ⟨lookupIds,at_,member,fits⟩
    rw [scanned]
    simp only [exactly]
    cases shaped : config.trigger with
    | atProtoEvent collection repoDid action =>
      have wanted : AtProtoWanted event (.atProtoEvent collection repoDid action) ↔
          AtProtoFits event (collection,repoDid,action) := by
        constructor
        · intro held
          obtain ⟨_,_,_,same,fits⟩ := held
          cases same
          exact fits
        · exact fun fits => ⟨_,_,_,rfl,fits⟩
      rw [wanted]
      simp only [placeOf]
      by_cases wild : isCollectionPattern collection
      · simp [wild]
      · have plain : isCollectionPattern collection = false := by simpa using wild
        rw [exactKey_iff event collection repoDid action plain]
        simp [wild]
        grind
    | _ => simp [placeOf,AtProtoWanted]

end Manager

namespace Watcher

/-- In every state, an AtProto event starts each active trigger that it is for once and no other one, and
the test of a collection pattern never slices a text off a character boundary. -/
theorem atProto_event_dispatched (cron : CronLib) (prim : IdPrimitives) (lib : EventLib)
    (chainConfigs : ChainConfigs) (disableNetworking : Bool) (acts : List Turn) (isActive : ServiceId → Bool)
    (connecting : Connecting) (event : AtProtoEvent) :
    let self := (Manager.new chainConfigs disableNetworking).watch.turns cron prim lib acts
    (∃ commands, (self.handle lib isActive connecting (.ok (.atProto event))).2 = .sent commands ∧
        self.DispatchesTo isActive (AtProtoWanted event) (.atProtoEvent event) commands) ∧
      ∀ pattern actual, matchesCollectionPatternChecked pattern actual =
        some (matchesCollectionPattern pattern actual) := by
  intro self
  have indexed : self.lookup.Indexed := indexed_run cron prim lib chainConfigs disableNetworking acts
  exact ⟨⟨_,rfl,self.onAtProto_dispatches isActive indexed event⟩,matchesCollectionPatternChecked_eq⟩

end Watcher
end Warpdrive.Trigger
