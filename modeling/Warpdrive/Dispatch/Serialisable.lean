import Warpdrive.Foundation.Execution
import Warpdrive.Dispatch.Atomicity
import Warpdrive.Dispatch.Updates

/-! The updates of one service are serialisable where no two of them are between removal and
registration at once and no removal meets one that is under way: at most one update has the
service without triggers, and between updates the registered triggers are those of the stored
definition. -/
namespace Warpdrive.Dispatch.Updates

open Warpdrive.Foundation Warpdrive.Types Warpdrive.Trigger Warpdrive.Foundation.Execution

variable (cron : CronLib) (id : ServiceId)

/-- One update has removed the service and not yet registered it. -/
structure During (state : Updates) (task : Nat) (stage : Stage) (service : Service) : Prop where
  current : state.tasks[task]? = some stage
  entering : stage.entering = some service
  alone : ∀ other stage, state.tasks[other]? = some stage → stage.entering ≠ none → other = task
  stored : state.dispatcher.services.services.getCloned id = some service
  idle : state.dispatcher.lookup.Idle id

/-- No update is under way: the service runs with a definition that one of them has finished, or
with the first, or it is removed. -/
structure Between (initial : Service) (state : Updates) : Prop where
  quiet : ∀ stage ∈ state.tasks, stage.entering = none
  served : (∃ service, state.dispatcher.services.services.getCloned id = some service ∧
      state.dispatcher.lookup.Serves id service ∧
      (.finished service ∈ state.tasks ∨ (∀ stage ∈ state.tasks, stage.finishes = none) ∧ service = initial)) ∨
    (state.removed = true ∧ state.dispatcher.services.services.getCloned id = none ∧
      state.dispatcher.lookup.Idle id)

variable (prim : IdPrimitives) (info : Bool) (chain : ChainKey)

/-- What the steps keep as long as none fails. -/
structure Steady (initial : Service) (state : Updates) : Prop where
  consistent : Lookup.Consistent cron state.dispatcher.lookup
  onChain : state.dispatcher.lookup.OnChain chain
  documents : ∀ stage ∈ state.tasks, ∀ service, stage.document = some service → service.id prim = id ∧
    ∀ workflow ∈ service.workflows.entries, Lookup.StellarOn chain workflow.2.trigger
  phase : (∃ task stage service, During id state task stage service) ∨ Between id initial state
  last : state.removedLast = true → state.dispatcher.services.services.getCloned id = none ∧
    state.dispatcher.lookup.Idle id ∧ ∀ stage ∈ state.tasks, stage.harmless info = true

variable {cron id prim info chain}

theorem mem_set {A : Type} (values : List A) (index : Nat) (value other : A)
    (member : other ∈ values.set index value) : other = value ∨ other ∈ values := by
  rcases List.mem_or_eq_of_mem_set member with old | new
  · exact .inr old
  · exact .inl new

/-- What is not the entry that is set is still there. -/
theorem mem_set_of_ne {A : Type} (values : List A) (index : Nat) (value old other : A)
    (current : values[index]? = some old) (member : other ∈ values) (apart : other ≠ old) :
    other ∈ values.set index value := by
  obtain ⟨place,found⟩ := List.mem_iff_getElem?.mp member
  have differ : index ≠ place := by
    rintro rfl
    rw [current] at found
    exact apart (Option.some.inj found).symm
  refine List.mem_iff_getElem?.mpr ⟨place,?_⟩
  rw [List.getElem?_set_ne differ]
  exact found

theorem mem_set_self {A : Type} (values : List A) (index : Nat) (value old : A)
    (current : values[index]? = some old) : value ∈ values.set index value := by
  obtain ⟨bound,_⟩ := List.getElem?_eq_some_iff.mp current
  exact List.mem_set bound value

theorem Steady.no_entering {initial : Service} {state : Updates}
    (inv : Steady cron id prim info chain initial state) (quiet : ∀ stage ∈ state.tasks, stage.entering = none) :
    Between id initial state := by
  rcases inv.phase with ⟨task,stage,service,during⟩ | between
  · have absent := quiet stage (List.mem_of_getElem? during.current)
    rw [during.entering] at absent
    cases absent
  · exact between

theorem Steady.entering {initial : Service} {state : Updates}
    (inv : Steady cron id prim info chain initial state) (task : Nat) (stage : Stage) (service : Service)
    (current : state.tasks[task]? = some stage) (entering : stage.entering = some service) :
    During id state task stage service := by
  rcases inv.phase with ⟨other,place,held,during⟩ | between
  · have same := during.alone task stage current (by rw [entering]; simp)
    subst same
    have is := during.current
    rw [current] at is
    cases is
    have value := during.entering
    rw [entering] at value
    cases value
    exact during
  · have absent := between.quiet stage (List.mem_of_getElem? current)
    rw [entering] at absent
    cases absent

theorem Steady.settle_fetched {initial : Service} {state : Updates}
    (inv : Steady cron id prim info chain initial state) (task : Nat) (service : Service) (hdIndex : UInt32)
    (current : state.tasks[task]? = some .requested) (named : service.id prim = id)
    (on : ∀ workflow ∈ service.workflows.entries, Lookup.StellarOn chain workflow.2.trigger)
    (logged : info = true → state.dispatcher.services.services.getCloned id ≠ none) :
    Steady cron id prim info chain initial
      {state with tasks := state.tasks.set task (.downloading service hdIndex)} := by
  have member := List.mem_of_getElem? current
  refine ⟨inv.consistent,inv.onChain,?_,?_,?_⟩
  · intro stage inside document held
    rcases mem_set _ _ _ _ inside with rfl | old
    · cases held
      exact ⟨named,on⟩
    · exact inv.documents stage old document held
  · rcases inv.phase with ⟨other,stage,held,during⟩ | between
    · have apart : task ≠ other := by
        rintro rfl
        have same := during.current
        rw [current] at same
        cases same
        cases during.entering
      refine .inl ⟨other,stage,held,?_,during.entering,?_,during.stored,during.idle⟩
      · simp only [List.getElem?_set_ne apart]
        exact during.current
      · intro place another found entering
        by_cases same : task = place
        · subst same
          simp only [List.getElem?_set] at found
          split at found
          · split at found
            · cases found
              exact absurd rfl entering
            · cases found
          · exact during.alone task another found entering
        · simp only [List.getElem?_set_ne same] at found
          exact during.alone place another found entering
    · refine .inr ⟨?_,?_⟩
      · intro stage inside
        rcases mem_set _ _ _ _ inside with rfl | old
        · rfl
        · exact between.quiet stage old
      · rcases between.served with ⟨held,stored,serves,source⟩ | gone
        · refine .inl ⟨held,stored,serves,?_⟩
          rcases source with finished | ⟨unfinished,first⟩
          · exact .inl (mem_set_of_ne _ _ _ _ _ current finished (fun impossible => nomatch impossible))
          · refine .inr ⟨?_,first⟩
            intro stage inside
            rcases mem_set _ _ _ _ inside with rfl | old
            · rfl
            · exact unfinished stage old
        · exact .inr gone
  · intro last
    obtain ⟨absent,_,harmless⟩ := inv.last last
    have level := harmless _ member
    exact absurd absent (logged level)


/-- A task that goes on from its removal waits as the only one, or ends with its service running. -/
theorem Steady.settle_entered {initial : Service} {state : Updates}
    (inv : Steady cron id prim info chain initial state) (task : Nat) (old stage : Stage) (service : Service)
    (current : state.tasks[task]? = some old) (document : old.document = some service)
    (alone : ∀ other stage, state.tasks[other]? = some stage → stage.entering ≠ none → other = task)
    (middle after : Dispatcher) (consistent : Lookup.Consistent cron middle.lookup)
    (onChain : middle.lookup.OnChain chain) (stored : middle.services.services.getCloned id = some service)
    (idle : middle.lookup.Idle id) (enters : @Dispatcher.Enters cron prim service stage middle after) :
    Steady cron id prim info chain initial
      {state with dispatcher := after, tasks := state.tasks.set task stage} := by
  have member := List.mem_of_getElem? current
  obtain ⟨named,on⟩ := inv.documents old member service document
  have present : after.services.services.getCloned id = some service := by
    rw [enters.services]
    exact stored
  have last : state.removedLast = true → False := by
    intro removed
    obtain ⟨_,_,harmless⟩ := inv.last removed
    have level := harmless old member
    cases old with
    | downloading _ _ => cases level
    | saving _ _ => cases level
    | waiting _ _ => cases level
    | _ => cases document
  have others : ∀ other stage', (state.tasks.set task stage)[other]? = some stage' → other ≠ task →
      stage'.entering = none := by
    intro other stage' found apart
    rw [List.getElem?_set_ne (Ne.symm apart)] at found
    by_contra entering
    exact apart (alone other stage' found entering)
  have here : (state.tasks.set task stage)[task]? = some stage := by
    obtain ⟨bound,_⟩ := List.getElem?_eq_some_iff.mp current
    simp [bound]
  have documents : (∀ service', stage.document = some service' → service' = service) →
      ∀ stage' ∈ state.tasks.set task stage, ∀ service', stage'.document = some service' → service'.id prim = id ∧
        ∀ workflow ∈ service'.workflows.entries, Lookup.StellarOn chain workflow.2.trigger := by
    intro own stage' inside service' held
    rcases mem_set _ _ _ _ inside with rfl | before
    · rw [own service' held]
      exact ⟨named,on⟩
    · exact inv.documents stage' before service' held
  rcases enters.lookup with ⟨rfl,added⟩ | ⟨suspended,same⟩
  · subst named
    have triggers : ∀ config ∈ Lookup.serviceTriggers (service.id prim) service,
        Lookup.StellarOn chain config.trigger := by
      intro config inside
      obtain ⟨workflow,listed,rfl⟩ := List.mem_map.mp inside
      exact on workflow listed
    obtain ⟨kept,onIt,serves⟩ := Lookup.serves_addService prim chain service middle.lookup after.lookup consistent
      onChain triggers idle added
    refine ⟨kept,onIt,documents (fun _ impossible => nomatch impossible),.inr ⟨?_,.inl ⟨service,present,serves,?_⟩⟩,
      fun removed => (last removed).elim⟩
    · intro stage' inside
      obtain ⟨place,found⟩ := List.mem_iff_getElem?.mp inside
      by_cases same : place = task
      · subst same
        cases here.symm.trans found
        rfl
      · exact others place stage' found same
    · exact .inl (mem_set_self _ _ _ _ current)
  · have entering : stage.entering = some service ∧ ∀ service', stage.document = some service' → service' = service := by
      rcases suspended with ⟨hdIndex,rfl⟩ | ⟨taken,rfl⟩
      · exact ⟨rfl,fun _ found => (Option.some.inj found).symm⟩
      · exact ⟨rfl,fun _ found => (Option.some.inj found).symm⟩
    refine ⟨?_,?_,documents entering.2,.inl ⟨task,stage,service,here,entering.1,?_,present,?_⟩,
      fun removed => (last removed).elim⟩
    · change Lookup.Consistent cron after.lookup
      rw [same]
      exact consistent
    · change after.lookup.OnChain chain
      rw [same]
      exact onChain
    · intro other stage' found held
      by_contra apart
      exact held (others other stage' found apart)
    · change after.lookup.Idle id
      rw [same]
      exact idle


/-- The task that waits goes on. -/
theorem Steady.settle_waited {initial : Service} {state : Updates}
    (inv : Steady cron id prim info chain initial state) (task : Nat) (old stage : Stage) (service : Service)
    (current : state.tasks[task]? = some old) (entering : old.entering = some service) (after : Dispatcher)
    (enters : @Dispatcher.Enters cron prim service stage state.dispatcher after) :
    Steady cron id prim info chain initial
      {state with dispatcher := after, tasks := state.tasks.set task stage} := by
  have during := inv.entering task old service current entering
  have document : old.document = some service := by
    cases old with
    | saving _ _ => exact entering
    | waiting _ _ => exact entering
    | _ => cases entering
  exact inv.settle_entered task old stage service current document during.alone state.dispatcher after inv.consistent
    inv.onChain during.stored during.idle enters

theorem Steady.connect {initial : Service} {state : Updates}
    (inv : Steady cron id prim info chain initial state) (on : ChainKey) (controller : StellarStreamController) :
    Steady cron id prim info chain initial {state with dispatcher :=
      {state.dispatcher with triggerManager := state.dispatcher.triggerManager.connect on controller}} := by
  obtain ⟨maps,_⟩ := state.dispatcher.triggerManager.maps_connect on controller
  have configs : (state.dispatcher.triggerManager.connect on controller).lookup.triggerConfigs =
      state.dispatcher.lookup.triggerConfigs := congrArg LookupMaps.triggerConfigs maps
  have kept : ∀ other present, state.dispatcher.lookup.stellarControllers.get other = some present →
      (state.dispatcher.triggerManager.connect on controller).lookup.stellarControllers.get other = some present := by
    intro other present found
    exact state.dispatcher.triggerManager.kept_connect on controller other present found
  have idle : state.dispatcher.lookup.Idle id →
      (state.dispatcher.triggerManager.connect on controller).lookup.Idle id := by
    intro before lookupId config found
    rw [configs] at found
    exact before lookupId config found
  refine ⟨inv.consistent.connected maps kept,?_,inv.documents,?_,?_⟩
  · intro lookupId config found
    change (state.dispatcher.triggerManager.connect on controller).lookup.triggerConfigs.get lookupId = _ at found
    rw [configs] at found
    exact inv.onChain lookupId config found
  · rcases inv.phase with ⟨task,stage,service,during⟩ | between
    · exact .inl ⟨task,stage,service,during.current,during.entering,during.alone,during.stored,idle during.idle⟩
    · refine .inr ⟨between.quiet,?_⟩
      rcases between.served with ⟨service,stored,serves,source⟩ | ⟨removed,absent,none'⟩
      · refine .inl ⟨service,stored,⟨?_,?_⟩,source⟩
        · intro lookupId config found own
          change (state.dispatcher.triggerManager.connect on controller).lookup.triggerConfigs.get lookupId = _ at found
          rw [configs] at found
          exact serves.only lookupId config found own
        · intro config member
          exact (serves.tracked config member).of_maps maps
      · exact .inr ⟨removed,absent,idle none'⟩
  · intro removed
    obtain ⟨absent,none',harmless⟩ := inv.last removed
    exact ⟨absent,idle none',harmless⟩

theorem Steady.request {initial : Service} {state : Updates}
    (inv : Steady cron id prim info chain initial state) :
    Steady cron id prim info chain initial
      {state with tasks := state.tasks ++ [.requested], removedLast := false} := by
  have split : ∀ stage ∈ state.tasks ++ [.requested], stage ∈ state.tasks ∨ stage = .requested := by
    intro stage member
    rcases List.mem_append.mp member with old | new
    · exact .inl old
    · exact .inr (List.mem_singleton.mp new)
  refine ⟨inv.consistent,inv.onChain,?_,?_,fun impossible => nomatch impossible⟩
  · intro stage member service document
    rcases split stage member with old | rfl
    · exact inv.documents stage old service document
    · cases document
  · rcases inv.phase with ⟨task,stage,service,during⟩ | between
    · obtain ⟨bound,_⟩ := List.getElem?_eq_some_iff.mp during.current
      refine .inl ⟨task,stage,service,?_,during.entering,?_,during.stored,during.idle⟩
      · rw [← during.current]
        exact List.getElem?_append_left bound
      · intro other held found entering
        simp only [List.getElem?_append] at found
        split at found
        · exact during.alone other held found entering
        · rw [List.mem_singleton.mp (List.mem_of_getElem? found)] at entering
          exact absurd rfl entering
    · refine .inr ⟨?_,?_⟩
      · intro stage member
        rcases split stage member with old | rfl
        · exact between.quiet stage old
        · rfl
      · rcases between.served with ⟨service,stored,serves,source⟩ | gone
        · refine .inl ⟨service,stored,serves,?_⟩
          rcases source with finished | ⟨unfinished,first⟩
          · exact .inl (List.mem_append_left _ finished)
          · refine .inr ⟨?_,first⟩
            intro stage member
            rcases split stage member with old | rfl
            · exact unfinished stage old
            · rfl
        · exact .inr gone

/-- A removal that meets no update under way takes the service and its triggers away. -/
theorem Steady.remove {initial : Service} {state : Updates}
    (inv : Steady cron id prim info chain initial state) (after : Dispatcher)
    (harmless : ∀ stage ∈ state.tasks, stage.harmless info = true)
    (result : Lookup.removeService cron state.dispatcher.lookup id = (after.lookup,.ok ()))
    (absent : after.services.services.getCloned id = none) :
    Steady cron id prim info chain initial
      {state with dispatcher := after, removed := true, removedLast := true} := by
  obtain ⟨consistent,onChain,idle⟩ :=
    Lookup.idle_removeService chain _ after.lookup id inv.consistent inv.onChain result
  have quiet : ∀ stage ∈ state.tasks, stage.entering = none := by
    intro stage member
    have level := harmless stage member
    cases stage with
    | saving _ _ => cases level
    | waiting _ _ => cases level
    | _ => rfl
  exact ⟨consistent,onChain,inv.documents,.inr ⟨quiet,.inr ⟨rfl,absent,idle⟩⟩,fun _ => ⟨absent,idle,harmless⟩⟩

/-- A task that goes on has met no error. -/
theorem settle_clean (self : Updates) (task : Nat) (result : Dispatcher × Except DispatcherError Stage)
    (clean : (self.settle task result).errors = []) : self.errors = [] ∧
      ∃ after stage, result = (after,.ok stage) ∧
        self.settle task result = {self with dispatcher := after, tasks := self.tasks.set task stage} := by
  obtain ⟨after,outcome⟩ := result
  cases outcome with
  | error error => simp [settle] at clean
  | ok stage => exact ⟨clean,after,stage,rfl,rfl⟩

theorem steady_step {mnemonic : Mnemonic} {initial : Service} (before : Updates) (act : Act) (next : Updates)
    (taken : step cron prim mnemonic info id before act = some next) (ordered : Ordered info chain before act next)
    (inv : before.errors = [] → Steady cron id prim info chain initial before) :
    next.errors = [] → Steady cron id prim info chain initial next := by
  intro clean
  cases act with
  | request =>
    cases taken
    exact (inv clean).request
  | fetched task outcomes fetched =>
    simp only [step] at taken
    split at taken
    · next current =>
      cases taken
      obtain ⟨before_clean,after,stage,called,reached⟩ := settle_clean before task _ clean
      obtain ⟨service,hdIndex,rfl,rfl,rfl,named,logged⟩ :=
        Dispatcher.onFetched_ok info outcomes id _ before.dispatcher after stage called
      rw [reached]
      exact (inv before_clean).settle_fetched task service hdIndex current named (ordered service rfl) logged
    · cases taken
  | stored task outcomes =>
    simp only [step] at taken
    split at taken
    · next service hdIndex current =>
      cases taken
      obtain ⟨before_clean,after,stage,called,reached⟩ := settle_clean before task _ clean
      have steady := inv before_clean
      obtain ⟨named,_⟩ := steady.documents _ (List.mem_of_getElem? current) service rfl
      obtain ⟨middle,result,stored,enters⟩ :=
        Dispatcher.onStored_ok outcomes id service hdIndex before.dispatcher after stage named called
      obtain ⟨consistent,onChain,idle⟩ :=
        Lookup.idle_removeService chain _ middle.lookup id steady.consistent steady.onChain result
      rw [reached]
      refine steady.settle_entered task _ stage service current rfl ?_ middle after consistent onChain stored idle enters
      intro other held found entering
      exact absurd (ordered held (List.mem_of_getElem? found)) entering
    · cases taken
  | answered task outcomes =>
    simp only [step] at taken
    split at taken
    · next service hdIndex current =>
      cases taken
      obtain ⟨before_clean,after,stage,called,reached⟩ := settle_clean before task _ clean
      have steady := inv before_clean
      rw [reached]
      exact steady.settle_waited task _ stage service current rfl after
        (Dispatcher.enter_ok outcomes service hdIndex before.dispatcher after stage called)
    · cases taken
  | connect on controller =>
    cases taken
    exact (inv clean).connect on controller
  | wake task =>
    simp only [step] at taken
    split at taken
    · next service wanted current =>
      split at taken
      · cases taken
        obtain ⟨before_clean,after,stage,called,reached⟩ := settle_clean before task _ clean
        rw [reached]
        exact (inv before_clean).settle_waited task _ stage service current rfl after
          (Dispatcher.onWoken_ok service wanted before.dispatcher after stage called)
      · cases taken
    · cases taken
  | timeout task =>
    simp only [step] at taken
    split at taken
    · next service wanted current =>
      split at taken
      · cases taken
      · cases taken
        obtain ⟨before_clean,after,stage,called,reached⟩ := settle_clean before task _ clean
        rw [reached]
        exact (inv before_clean).settle_waited task _ stage service current rfl after
          (Dispatcher.onWoken_ok service wanted before.dispatcher after stage called)
    · cases taken
  | remove outcomes =>
    simp only [step] at taken
    split at taken
    · next after called =>
      cases taken
      obtain ⟨result,absent⟩ := Dispatcher.removeService_ok outcomes id before.dispatcher after called
      exact (inv clean).remove after ordered result absent
    · cases taken
      simp at clean


/-- A service that is added runs with its definition. -/
theorem runs_registerAndAddService {mnemonic : Mnemonic} (outcomes : Outcomes) (service : Service)
    (before after : Dispatcher) (consistent : Lookup.Consistent cron before.lookup)
    (onChain : before.lookup.OnChain chain)
    (on : ∀ workflow ∈ service.workflows.entries, Lookup.StellarOn chain workflow.2.trigger)
    (idle : before.lookup.Idle (service.id prim))
    (added : before.registerAndAddService cron prim mnemonic outcomes service = (after,.ok ())) :
    Runs cron (service.id prim) service after ∧ after.lookup.OnChain chain := by
  obtain ⟨_,_,stores⟩ := Dispatcher.registerAndAddService_effect cron prim mnemonic outcomes service before
  rw [added] at stores
  obtain ⟨stored,_⟩ := stores rfl
  obtain ⟨hdIndex,registered,entered,rest⟩ := (Attempt.bind_ok _ _ _ _ _).mp added
  obtain ⟨registry,_,rfl⟩ := (Attempt.within_ok _ _ _ _ _ _ _).mp entered
  unfold Attempt.undoing at rest
  split at rest
  · next last value direct =>
    cases rest
    obtain ⟨_,first,checked,second⟩ := (Attempt.bind_ok _ _ _ _ _).mp direct
    obtain ⟨_,middle,downloads,third⟩ := (Attempt.bind_ok _ _ _ _ _).mp second
    obtain ⟨_,saved,saves,fourth⟩ := (Attempt.bind_ok _ _ _ _ _).mp third
    obtain ⟨_,keyed,keys,fifth⟩ := (Attempt.bind_ok _ _ _ _ _).mp fourth
    obtain ⟨_,managed,manages,subscribes⟩ := (Attempt.bind_ok _ _ _ _ _).mp fifth
    cases subscribes
    have start : keyed.triggerManager = before.triggerManager := by
      have one : first = {before with serviceRegistry := registry} := congrArg Prod.fst checked.symm
      have two : middle = first := congrArg Prod.fst downloads.symm
      have three : saved.triggerManager = middle.triggerManager :=
        congrArg (fun result => result.1.triggerManager) saves.symm
      have four : keyed.triggerManager = saved.triggerManager :=
        congrArg (fun result => result.1.triggerManager) keys.symm
      rw [four,three,two,one]
    obtain ⟨triggers,called,rfl⟩ := (Attempt.within_ok _ _ _ _ _ _ _).mp manages
    change TriggerManager.addService cron prim outcomes service keyed.triggerManager = (triggers,.ok ()) at called
    rw [start] at called
    obtain ⟨ok,lookup⟩ := TriggerManager.addService_ok cron prim outcomes service before.triggerManager
    rw [called] at ok lookup
    obtain ⟨_,_,outcome⟩ := ok.mp rfl
    obtain ⟨maps,_⟩ := TriggerManager.maps_connectAll outcomes.connected before.triggerManager
    have configs : (before.triggerManager.connectAll outcomes.connected).lookup.triggerConfigs =
        before.lookup.triggerConfigs := congrArg LookupMaps.triggerConfigs maps
    have connected := consistent.connected maps
      (TriggerManager.kept_connectAll outcomes.connected before.triggerManager)
    have reached : Lookup.addService cron prim (before.triggerManager.connectAll outcomes.connected).lookup service =
        (triggers.lookup,.ok ()) := Prod.ext (lookup rfl).1.symm outcome
    obtain ⟨kept,onIt,serves⟩ := Lookup.serves_addService prim chain service _ triggers.lookup connected
      (by
        intro lookupId config found
        rw [configs] at found
        exact onChain lookupId config found)
      (by
        intro config inside
        obtain ⟨workflow,listed,rfl⟩ := List.mem_map.mp inside
        exact on workflow listed)
      (by
        intro lookupId config found
        rw [configs] at found
        exact idle lookupId config found) reached
    exact ⟨⟨kept,stored,fun config inside => kept.unique config (serves.tracked config inside),serves.only⟩,onIt⟩
  · cases rest

section Theorem

variable (cron id prim info chain)

/-- Where the updates keep out of each other's way, the service ends with the definition of one of
them, and with exactly its triggers, or is gone after a removal. -/
theorem updates_serialisable (mnemonic : Mnemonic) (initial : Service) (start : Dispatcher)
    (runs : Runs cron id initial start) (onChain : start.lookup.OnChain chain) (acts : List Act) (final : Updates)
    (reached : run (step cron prim mnemonic info id) (new start) acts = some final)
    (ordered : Along (step cron prim mnemonic info id) (Ordered info chain) (new start) acts)
    (done : final.Done) : Serial cron id initial final := by
  have first : Steady cron id prim info chain initial (new start) := by
    refine ⟨runs.consistent,onChain,?_,.inr ⟨?_,.inl ⟨initial,runs.stored,⟨runs.only,?_⟩,.inr ⟨?_,rfl⟩⟩⟩,
      fun impossible => nomatch impossible⟩
    · intro stage member
      cases member
    · intro stage member
      cases member
    · intro config member
      obtain ⟨lookupId,found,_⟩ := runs.once config member
      exact ⟨lookupId,runs.consistent.minted lookupId config found,runs.consistent.registered lookupId config found,
        found⟩
    · intro stage member
      cases member
  have inv := invariant_along (Ordered info chain)
    (fun state => state.errors = [] → Steady cron id prim info chain initial state) steady_step (new start) final acts
    reached ordered (fun _ => first)
  obtain ⟨ended,clean⟩ := done
  have steady := inv clean
  have quiet : ∀ stage ∈ final.tasks, stage.entering = none := by
    intro stage member
    have ending := ended stage member
    cases stage with
    | finished service => rfl
    | _ => exact absurd rfl ending
  constructor
  · intro kept
    rcases (steady.no_entering quiet).served with ⟨service,stored,serves,source⟩ | ⟨removed,_⟩
    · refine ⟨service,⟨steady.consistent,stored,?_,serves.only⟩,?_⟩
      · intro config member
        exact steady.consistent.unique config (serves.tracked config member)
      · rcases source with finished | ⟨unfinished,same⟩
        · exact .inl finished
        · refine .inr ⟨?_,same⟩
          by_contra some'
          obtain ⟨stage,member⟩ := List.exists_mem_of_ne_nil _ some'
          exact ended stage member (unfinished stage member)
    · rw [kept] at removed
      cases removed
  · intro last
    obtain ⟨absent,idle,_⟩ := steady.last last
    exact ⟨steady.consistent,absent,idle⟩

end Theorem


/-- Every task has finished and there is no error. -/
def ends (self : Updates) : Bool := self.tasks.all (fun stage => stage.finishes.isSome) && self.errors.isEmpty

theorem done_of_ends (self : Updates) (ends : self.ends = true) : self.Done := by
  rw [Updates.ends,Bool.and_eq_true,List.all_eq_true] at ends
  refine ⟨?_,List.isEmpty_iff.mp ends.2⟩
  intro stage member absent
  have finished := ends.1 stage member
  rw [absent] at finished
  cases finished

/-- A process that watches the Stellar test network, with the deployed service added. -/
def watched : Dispatcher := .new
  ⟨.new,.new,HashMap.new.insert testnetId ⟨1000,"http://localhost:8000","Test",none⟩,.new⟩ none

def serving : Dispatcher :=
  (watched.registerAndAddService everyMinute deployedIds operatorMnemonic reachable deployedService).1

theorem serving_runs : Runs everyMinute deployedId deployedService serving ∧ serving.lookup.OnChain testnet := by
  have added : watched.registerAndAddService everyMinute deployedIds operatorMnemonic reachable deployedService =
      (serving,.ok ()) := Prod.ext rfl (by decide +kernel)
  have empty : ∀ lookupId config, watched.lookup.triggerConfigs.get lookupId ≠ some config := by
    intro lookupId config found
    simp [watched,Dispatcher.lookup,Dispatcher.new,Manager.new,LookupMaps.new] at found
  exact runs_registerAndAddService reachable deployedService watched serving (Lookup.consistent_new everyMinute .new)
    (fun lookupId config found => absurd found (empty lookupId config)) (by decide)
    (fun lookupId config found => absurd found (empty lookupId config)) added

def renamedService : Service := {deployedService with name := "renamed"}

/-- The second update passes its checks before the first ends, and removes the service after it. -/
def orderlyUpdates : List Act := [
  .request,
  .request,
  .fetched 0 reachable (.ok watchingService),
  .fetched 1 reachable (.ok renamedService),
  .stored 0 reachable,
  .connect testnet idleController,
  .wake 0,
  .stored 1 reachable]

theorem orderly_updates_serial :
    (∃ final, run (step everyMinute deployedIds operatorMnemonic true deployedId) (new serving) orderlyUpdates =
        some final ∧ final.removed = false ∧ final.Done ∧ Serial everyMinute deployedId deployedService final) ∧
      ∃ final, run (step everyMinute deployedIds operatorMnemonic true deployedId) (new serving)
          (orderlyUpdates ++ [.remove reachable]) = some final ∧ final.removedLast = true ∧ final.Done ∧
        Serial everyMinute deployedId deployedService final := by
  obtain ⟨runs,onChain⟩ := serving_runs
  constructor
  · obtain ⟨final,reached,passes⟩ := run_any (step everyMinute deployedIds operatorMnemonic true deployedId)
      (new serving) orderlyUpdates (fun final => !final.removed && final.ends) (by decide +kernel)
    rw [Bool.and_eq_true,Bool.not_eq_true'] at passes
    have done := final.done_of_ends passes.2
    exact ⟨final,reached,passes.1,done,updates_serialisable everyMinute deployedId deployedIds true testnet
      operatorMnemonic deployedService serving runs onChain orderlyUpdates final reached (by decide +kernel) done⟩
  · obtain ⟨final,reached,passes⟩ := run_any (step everyMinute deployedIds operatorMnemonic true deployedId)
      (new serving) (orderlyUpdates ++ [.remove reachable]) (fun final => final.removedLast && final.ends)
      (by decide +kernel)
    rw [Bool.and_eq_true] at passes
    have done := final.done_of_ends passes.2
    exact ⟨final,reached,passes.1,done,updates_serialisable everyMinute deployedId deployedIds true testnet
      operatorMnemonic deployedService serving runs onChain _ final reached (by decide +kernel) done⟩

/-- Two updates remove the service, wait for the controller of the test network, and both register. -/
def overlappingUpdates : List Act := [
  .request,
  .request,
  .fetched 0 reachable (.ok watchingService),
  .fetched 1 reachable (.ok watchingService),
  .stored 0 reachable,
  .stored 1 reachable,
  .connect testnet idleController,
  .wake 0,
  .wake 1]

/-- The service is removed while an update downloads the components. -/
def overtakenRemoval : List Act := [
  .request,
  .fetched 0 reachable (.ok renamedService),
  .remove reachable,
  .stored 0 reachable]

theorem overlapping_updates_not_serial :
    (∃ final, run (step everyMinute deployedIds operatorMnemonic true deployedId) (new serving) overlappingUpdates =
        some final ∧ final.removed = false ∧ final.Done ∧ ¬Serial everyMinute deployedId deployedService final) ∧
      ∃ final, run (step everyMinute deployedIds operatorMnemonic true deployedId) (new serving) overtakenRemoval =
        some final ∧ final.removedLast = true ∧ final.Done ∧ ¬Serial everyMinute deployedId deployedService final := by
  constructor
  · obtain ⟨final,reached,passes⟩ := run_any (step everyMinute deployedIds operatorMnemonic true deployedId)
      (new serving) overlappingUpdates (fun final => !final.removed && final.ends &&
        decide (final.dispatcher.services.services.getCloned deployedId = some watchingService ∧
          final.dispatcher.lookup.triggerConfigs.get 1 = some ⟨deployedId,observedWorkflow,logTrigger⟩ ∧
          final.dispatcher.lookup.triggerConfigs.get 3 = some ⟨deployedId,observedWorkflow,logTrigger⟩))
      (by decide +kernel)
    simp only [Bool.and_eq_true,Bool.not_eq_true',decide_eq_true_eq] at passes
    obtain ⟨⟨kept,ends⟩,stored,first,second⟩ := passes
    refine ⟨final,reached,kept,final.done_of_ends ends,?_⟩
    intro serial
    obtain ⟨service,runs,_⟩ := serial.updated kept
    cases stored.symm.trans runs.stored
    have twice := (runs.once ⟨deployedId,observedWorkflow,logTrigger⟩ (by decide)).unique first second
    exact absurd twice (by decide)
  · obtain ⟨final,reached,passes⟩ := run_any (step everyMinute deployedIds operatorMnemonic true deployedId)
      (new serving) overtakenRemoval (fun final => final.removedLast && final.ends &&
        decide (final.dispatcher.services.services.getCloned deployedId = some renamedService)) (by decide +kernel)
    simp only [Bool.and_eq_true,decide_eq_true_eq] at passes
    obtain ⟨⟨last,ends⟩,stored⟩ := passes
    refine ⟨final,reached,last,final.done_of_ends ends,?_⟩
    intro serial
    cases (serial.removed last).stored.symm.trans stored

end Warpdrive.Dispatch.Updates
