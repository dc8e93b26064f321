import Warpdrive.Dispatch.Effects

/-! The tasks that change one service, with the removals that run beside them
(`ChangeServiceUri` of `Dispatcher::start`, `change_service` and `remove_service`). A task runs from
one await point to the next: it waits for the document, for the components, for the contracts of
a Stellar service manager and for the controllers of the Stellar chains it watches. -/
namespace Warpdrive.Dispatch

open Warpdrive.Foundation Warpdrive.Types Warpdrive.Trigger

/-- What a task waits for, or how it has ended. -/
inductive Stage
  | requested
  | downloading (service : Service) (hdIndex : UInt32)
  | saving (service : Service) (hdIndex : UInt32)
  | waiting (service : Service) (taken : Option Nat)
  | finished (service : Service)
  | failed

namespace Stage

/-- The task has removed the old definition and not yet registered its own. -/
def entering : Stage → Option Service
  | .saving service _ => some service
  | .waiting service _ => some service
  | _ => none

/-- The document that the task goes on with. -/
def document : Stage → Option Service
  | .downloading service _ => some service
  | stage => stage.entering

/-- The task ends without a change once the service is gone. -/
def harmless (info : Bool) : Stage → Bool
  | .requested => info
  | .finished _ => true
  | .failed => true
  | _ => false

def finishes : Stage → Option Service
  | .finished service => some service
  | _ => none

end Stage

namespace Dispatcher

variable (cron : CronLib) (prim : IdPrimitives) (mnemonic : Mnemonic)

/-- `save` asks the chain for the contracts of the manager. -/
def asksContracts (chainConfigs : ChainConfigs) (service : Service) : Bool :=
  match service.manager with
  | .stellar chain _ =>
    match chainConfigs.getChain chain with
    | some (.stellar _) => true
    | _ => false
  | _ => false

def lookup (self : Dispatcher) : Lookup := self.triggerManager.lookup

/-- Every controller is there that the service waits for. -/
def ready (service : Service) (self : Dispatcher) : Bool :=
  (self.triggerManager.unconnected
    (TriggerManager.chainsToWaitFor prim self.triggerManager.chainConfigs service)).isNone

/-- From the document to the download of its components. -/
def checkFetched (info : Bool) (outcomes : Outcomes) (id : ServiceId) (fetched : Except String Service) :
    Call (Service × UInt32) := do
  let service ← .checks (fun _ => fetched.mapError .fetchService)
  let hdIndex ← checkChange prim info outcomes id service
  pure (service,hdIndex)

/-- From the components to the first await of `save`. -/
def replaceService (outcomes : Outcomes) (id : ServiceId) (service : Service) : Call Unit := do
  storeComponents outcomes service
  removeServiceInner cron outcomes id
  .changes (fun self => {self with services := self.services.insert prim service})

/-- From the contracts to the wait for the controllers. -/
def enterService (outcomes : Outcomes) (service : Service) (hdIndex : UInt32) : Call (Option Nat) := do
  let chainConfigs ← .reads (fun self => self.triggerManager.chainConfigs)
  onServices (Services.populate prim chainConfigs outcomes.projectRoot service)
  addServiceKey mnemonic (service.id prim) (some hdIndex)
  onTriggers (TriggerManager.startChains prim outcomes.taken service)

/-- From the end of the wait on. -/
def registerService (service : Service) (taken : Option Nat) : Call Unit := do
  onTriggers (TriggerManager.awaitControllers prim service)
  onTriggers (TriggerManager.register cron prim taken service)
  .changes (send (.subscribeService (service.id prim)))

/-- A task that finds every controller does not wait. -/
def enter (outcomes : Outcomes) (service : Service) (hdIndex : UInt32) : Call Stage := do
  let taken ← enterService prim mnemonic outcomes service hdIndex
  let ready ← .reads (ready prim service)
  if ready then do
    registerService cron prim service taken
    pure (.finished service)
  else pure (.waiting service taken)

def onFetched (info : Bool) (outcomes : Outcomes) (id : ServiceId) (fetched : Except String Service) :
    Call Stage := do
  let (service,hdIndex) ← checkFetched prim info outcomes id fetched
  pure (.downloading service hdIndex)

def onStored (outcomes : Outcomes) (id : ServiceId) (service : Service) (hdIndex : UInt32) : Call Stage := do
  replaceService cron prim outcomes id service
  let chainConfigs ← .reads (fun self => self.triggerManager.chainConfigs)
  if asksContracts chainConfigs service then pure (.saving service hdIndex)
  else enter cron prim mnemonic outcomes service hdIndex

def onWoken (service : Service) (taken : Option Nat) : Call Stage := do
  registerService cron prim service taken
  pure (.finished service)

theorem saveService_split (outcomes : Outcomes) (service : Service) : saveService prim outcomes service = (do
    .changes (fun self => {self with services := self.services.insert prim service})
    let chainConfigs ← .reads (fun self => self.triggerManager.chainConfigs)
    onServices (Services.populate prim chainConfigs outcomes.projectRoot service) : Call Unit) := rfl

theorem onTriggers_addService (outcomes : Outcomes) (service : Service) :
    onTriggers (TriggerManager.addService cron prim outcomes service) = (do
      let taken ← onTriggers (TriggerManager.startChains prim outcomes.taken service)
      .changes (fun self => {self with triggerManager := self.triggerManager.connectAll outcomes.connected})
      onTriggers (TriggerManager.awaitControllers prim service)
      onTriggers (TriggerManager.register cron prim taken service) : Call Unit) := by
  have split : ∀ {A B : Type} (first : Attempt TriggerManager TriggerError A)
      (rest : A → Attempt TriggerManager TriggerError B),
      onTriggers (first >>= rest) = onTriggers first >>= fun value => onTriggers (rest value) := by
    intro A B first rest
    exact Attempt.within_bind _ _ _ first rest (fun _ _ => rfl) (fun _ _ _ => rfl)
  unfold TriggerManager.addService
  rw [split]
  congr 1
  funext taken
  rw [split,split]
  rfl

/-- A task that is never interrupted does what `change_service` does in one call. -/
theorem change_segments (info : Bool) (outcomes : Outcomes) (id : ServiceId) (fetched : Except String Service) :
    changeService cron prim mnemonic info outcomes id fetched = (do
      let (service,hdIndex) ← checkFetched prim info outcomes id fetched
      replaceService cron prim outcomes id service
      let taken ← enterService prim mnemonic outcomes service hdIndex
      .changes (fun self => {self with triggerManager := self.triggerManager.connectAll outcomes.connected})
      registerService cron prim service taken : Call Unit) := by
  simp only [changeService,changeServiceInner,checkFetched,replaceService,enterService,registerService,
    addServiceToManagers,saveService_split,onTriggers_addService,Attempt.bind_assoc]
  rfl

section Effects

variable {cron prim mnemonic}

theorem removeServiceInner_ok (outcomes : Outcomes) (id : ServiceId) (self after : Dispatcher)
    (removed : removeServiceInner cron outcomes id self = (after,.ok ())) :
    Lookup.removeService cron self.lookup id = (after.lookup,.ok ()) ∧
      after.services.services.getCloned id = none := by
  obtain ⟨_,first,taken,second⟩ := (Attempt.bind_ok _ _ _ _ _).mp removed
  cases taken
  obtain ⟨_,middle,left,unsubscribed⟩ := (Attempt.bind_ok _ _ _ _ _).mp second
  cases unsubscribed
  obtain ⟨triggers,called,rfl⟩ := (Attempt.within_ok _ _ _ _ _ _ _).mp left
  refine ⟨?_,WavsDbTable.getCloned_remove _ _⟩
  obtain ⟨_,emptied,lookups,rest⟩ := (Attempt.bind_ok _ _ _ _ _).mp called
  obtain ⟨lookup,dropped,rfl⟩ := (Attempt.within_ok _ _ _ _ _ _ _).mp lookups
  obtain ⟨watched,same,read,sent⟩ := (Attempt.bind_ok _ _ _ _ _).mp rest
  cases read
  have kept : triggers.lookup = lookup := by
    split at sent
    · obtain ⟨_,last,sends,ends⟩ := (Attempt.bind_ok _ _ _ _ _).mp sent
      cases ends
      rcases TriggerManager.sendAll_cases outcomes.unwatchTaken [.unwatchStellarServiceUri id]
          (self.triggerManager.setLookup lookup) with ⟨other,failed,_,_⟩ | ⟨other,took,manager,_⟩
      · cases sends.symm.trans failed
      · cases sends.symm.trans took
        rw [manager]
        rfl
    · cases sent
      rfl
  change Lookup.removeService cron self.triggerManager.lookup id = (triggers.lookup,.ok ())
  rw [kept]
  exact dropped

theorem removeService_ok (outcomes : Outcomes) (id : ServiceId) (self after : Dispatcher)
    (removed : removeService cron prim outcomes id self = (after,.ok ())) :
    Lookup.removeService cron self.lookup id = (after.lookup,.ok ()) ∧
      after.services.services.getCloned id = none := by
  rw [removeService,Attempt.bind_of_ok _ _ _ _ _ (Attempt.reads_run _ self)] at removed
  cases found : self.managerToRemove prim id with
  | none =>
    simp only [found] at removed
    exact removeServiceInner_ok outcomes id self after removed
  | some manager =>
    simp only [found] at removed
    obtain ⟨_,middle,unregistered,inner⟩ := (Attempt.bind_ok _ _ _ _ _).mp removed
    obtain ⟨registry,_,rfl⟩ := (Attempt.within_ok _ _ _ _ _ _ _).mp unregistered
    obtain ⟨gone,absent⟩ := removeServiceInner_ok outcomes id {self with serviceRegistry := registry} after inner
    exact ⟨gone,absent⟩

/-- The definitions, the lookup maps and the controllers are as before. -/
structure SameTriggers (before after : Dispatcher) : Prop where
  services : after.services.services = before.services.services
  lookup : after.lookup = before.lookup

theorem SameTriggers.trans (first second third : Dispatcher) (one : SameTriggers first second)
    (two : SameTriggers second third) : SameTriggers first third :=
  ⟨two.services.trans one.services,two.lookup.trans one.lookup⟩

/-- Up to the wait for the controllers nothing is registered. -/
theorem enterService_leaves (outcomes : Outcomes) (service : Service) (hdIndex : UInt32) :
    Attempt.Leaves SameTriggers (enterService prim mnemonic outcomes service hdIndex) := by
  have trans := SameTriggers.trans
  refine Attempt.leaves_bind trans _ _ (fun _ => ⟨rfl,rfl⟩) (fun chainConfigs => ?_)
  refine Attempt.leaves_bind trans _ _ ?_ (fun _ => ?_)
  · intro self
    exact ⟨Services.services_populate prim chainConfigs outcomes.projectRoot service self.services,rfl⟩
  refine Attempt.leaves_bind trans _ _ (fun _ => ⟨rfl,rfl⟩) (fun _ => ?_)
  intro self
  refine ⟨rfl,?_⟩
  change (TriggerManager.startChains prim outcomes.taken service self.triggerManager).1.lookup =
    self.triggerManager.lookup
  rw [TriggerManager.startChains,Attempt.bind_of_ok _ _ _ _ _ (Attempt.reads_run _ _)]
  rcases TriggerManager.sendAll_cases outcomes.taken _ self.triggerManager with
    ⟨after,sent,manager,_⟩ | ⟨after,sent,manager,_⟩
  · rw [sent,manager]
  · rw [sent,manager]

theorem registerService_ok (service : Service) (taken : Option Nat) (self after : Dispatcher)
    (registered : registerService cron prim service taken self = (after,.ok ())) :
    after.services = self.services ∧ self.ready prim service = true ∧
      Lookup.addService cron prim self.lookup service = (after.lookup,.ok ()) := by
  obtain ⟨_,first,awaited,second⟩ := (Attempt.bind_ok _ _ _ _ _).mp registered
  obtain ⟨waited,present,rfl⟩ := (Attempt.within_ok _ _ _ _ _ _ _).mp awaited
  rw [TriggerManager.awaitControllers,Attempt.checks_run] at present
  obtain ⟨rfl,outcome⟩ := Prod.mk.inj present
  have ready : self.ready prim service = true := by
    unfold Dispatcher.ready
    split at outcome
    · next connected =>
      rw [connected]
      rfl
    · cases outcome
  obtain ⟨_,middle,entered,subscribed⟩ := (Attempt.bind_ok _ _ _ _ _).mp second
  cases subscribed
  obtain ⟨triggers,called,rfl⟩ := (Attempt.within_ok _ _ _ _ _ _ _).mp entered
  obtain ⟨ok,manager⟩ := TriggerManager.register_ok cron prim taken service self.triggerManager
  refine ⟨rfl,ready,?_⟩
  have result : (TriggerManager.register cron prim taken service self.triggerManager) = (triggers,.ok ()) := called
  rw [result] at ok manager
  change Lookup.addService cron prim self.triggerManager.lookup service = (triggers.lookup,.ok ())
  rw [manager]
  exact Prod.ext rfl (ok.mp rfl).1

/-- How a task goes on from the removal of its service: it is suspended with nothing registered, or
ends with its service added to the lookup maps. -/
structure Enters (service : Service) (stage : Stage) (before after : Dispatcher) : Prop where
  services : after.services.services = before.services.services
  lookup : (stage = .finished service ∧ Lookup.addService cron prim before.lookup service = (after.lookup,.ok ())) ∨
    ((∃ hdIndex, stage = .saving service hdIndex) ∨ (∃ taken, stage = .waiting service taken)) ∧
      after.lookup = before.lookup

theorem onWoken_ok (service : Service) (taken : Option Nat) (self after : Dispatcher) (stage : Stage)
    (woken : onWoken cron prim service taken self = (after,.ok stage)) :
    @Enters cron prim service stage self after := by
  obtain ⟨_,middle,registered,ends⟩ := (Attempt.bind_ok _ _ _ _ _).mp woken
  cases ends
  obtain ⟨services,_,added⟩ := registerService_ok service taken self after registered
  exact ⟨congrArg Services.services services,.inl ⟨rfl,added⟩⟩

theorem enter_ok (outcomes : Outcomes) (service : Service) (hdIndex : UInt32) (self after : Dispatcher)
    (stage : Stage) (entered : enter cron prim mnemonic outcomes service hdIndex self = (after,.ok stage)) :
    @Enters cron prim service stage self after := by
  obtain ⟨taken,first,started,second⟩ := (Attempt.bind_ok _ _ _ _ _).mp entered
  have same := @enterService_leaves prim mnemonic outcomes service hdIndex self
  rw [started] at same
  obtain ⟨ready,middle,read,rest⟩ := (Attempt.bind_ok _ _ _ _ _).mp second
  cases read
  split at rest
  · have finished := onWoken_ok service taken first after stage rest
    refine ⟨finished.services.trans same.services,?_⟩
    have lookup : first.lookup = self.lookup := same.lookup
    rw [← lookup]
    exact finished.lookup
  · cases rest
    exact ⟨same.services,.inr ⟨.inr ⟨taken,rfl⟩,same.lookup⟩⟩

/-- From the components on, the old triggers go and the new definition is stored. -/
theorem onStored_ok (outcomes : Outcomes) (id : ServiceId) (service : Service) (hdIndex : UInt32)
    (self after : Dispatcher) (stage : Stage) (named : service.id prim = id)
    (stored : onStored cron prim mnemonic outcomes id service hdIndex self = (after,.ok stage)) :
    ∃ middle : Dispatcher, Lookup.removeService cron self.lookup id = (middle.lookup,.ok ()) ∧
      middle.services.services.getCloned id = some service ∧ @Enters cron prim service stage middle after := by
  obtain ⟨_,replaced,replaces,second⟩ := (Attempt.bind_ok _ _ _ _ _).mp stored
  obtain ⟨_,first,downloads,third⟩ := (Attempt.bind_ok _ _ _ _ _).mp replaces
  have same : first = self := congrArg Prod.fst downloads.symm
  subst same
  obtain ⟨_,removed,removes,inserts⟩ := (Attempt.bind_ok _ _ _ _ _).mp third
  obtain ⟨gone,_⟩ := removeServiceInner_ok outcomes id first removed removes
  cases inserts
  refine ⟨{removed with services := removed.services.insert prim service},gone,?_,?_⟩
  · subst named
    exact WavsDbTable.getCloned_insert _ _ _
  · obtain ⟨chainConfigs,middle,read,rest⟩ := (Attempt.bind_ok _ _ _ _ _).mp second
    cases read
    split at rest
    · cases rest
      exact ⟨rfl,.inr ⟨.inl ⟨hdIndex,rfl⟩,rfl⟩⟩
    · exact enter_ok outcomes service hdIndex _ after stage rest

/-- A task whose checks pass has touched nothing, and with tracing of `INFO` the service was stored. -/
theorem onFetched_ok (info : Bool) (outcomes : Outcomes) (id : ServiceId) (fetched : Except String Service)
    (self after : Dispatcher) (stage : Stage)
    (passed : onFetched prim info outcomes id fetched self = (after,.ok stage)) :
    ∃ service hdIndex, fetched = .ok service ∧ stage = .downloading service hdIndex ∧ after = self ∧
      service.id prim = id ∧ (info = true → self.services.services.getCloned id ≠ none) := by
  obtain ⟨found,checked,checks,ends⟩ := (Attempt.bind_ok _ _ _ _ _).mp passed
  cases ends
  obtain ⟨service,first,document,rest⟩ := (Attempt.bind_ok _ _ _ _ _).mp checks
  obtain ⟨hdIndex,second,change,ends⟩ := (Attempt.bind_ok _ _ _ _ _).mp rest
  cases ends
  cases fetched with
  | error reason => cases document
  | ok fetched =>
    cases document
    obtain ⟨same,named,_⟩ := checkChange_ok prim info outcomes id service self after hdIndex change
    exact ⟨service,hdIndex,rfl,rfl,same,named,checkChange_stored prim outcomes id service self after hdIndex info change⟩

end Effects

end Dispatcher

/-- The dispatcher with the tasks that change one service. Kept beside them are the errors of tasks
and removals, and whether a removal has run, since the start and since the last request. -/
structure Updates where
  dispatcher : Dispatcher
  tasks : List Stage
  errors : List DispatcherError
  removed : Bool
  removedLast : Bool

inductive Updates.Act
  | request
  | fetched (task : Nat) (outcomes : Outcomes) (fetched : Except String Service)
  | stored (task : Nat) (outcomes : Outcomes)
  | answered (task : Nat) (outcomes : Outcomes)
  | connect (chain : ChainKey) (controller : StellarStreamController)
  | wake (task : Nat)
  | timeout (task : Nat)
  | remove (outcomes : Outcomes)

namespace Updates

def new (dispatcher : Dispatcher) : Updates := ⟨dispatcher,[],[],false,false⟩

/-- The task goes on to its next stage, or ends with its error. -/
def settle (self : Updates) (task : Nat) : Dispatcher × Except DispatcherError Stage → Updates
  | (dispatcher,.ok stage) => {self with dispatcher := dispatcher, tasks := self.tasks.set task stage}
  | (dispatcher,.error error) =>
    {self with dispatcher := dispatcher, tasks := self.tasks.set task .failed, errors := self.errors ++ [error]}

section Step

variable (cron : CronLib) (prim : IdPrimitives) (mnemonic : Mnemonic) (info : Bool) (id : ServiceId)

def step (self : Updates) : Act → Option Updates
  | .request => some {self with tasks := self.tasks ++ [.requested], removedLast := false}
  | .fetched task outcomes fetched =>
    match self.tasks[task]? with
    | some .requested => some (self.settle task (self.dispatcher.onFetched prim info outcomes id fetched))
    | _ => none
  | .stored task outcomes =>
    match self.tasks[task]? with
    | some (.downloading service hdIndex) =>
      some (self.settle task (self.dispatcher.onStored cron prim mnemonic outcomes id service hdIndex))
    | _ => none
  | .answered task outcomes =>
    match self.tasks[task]? with
    | some (.saving service hdIndex) =>
      some (self.settle task (self.dispatcher.enter cron prim mnemonic outcomes service hdIndex))
    | _ => none
  | .connect chain controller =>
    some {self with dispatcher :=
      {self.dispatcher with triggerManager := self.dispatcher.triggerManager.connect chain controller}}
  | .wake task =>
    match self.tasks[task]? with
    | some (.waiting service taken) =>
      if self.dispatcher.ready prim service then
        some (self.settle task (self.dispatcher.onWoken cron prim service taken))
      else none
    | _ => none
  | .timeout task =>
    match self.tasks[task]? with
    | some (.waiting service taken) =>
      if self.dispatcher.ready prim service then none
      else some (self.settle task (self.dispatcher.onWoken cron prim service taken))
    | _ => none
  | .remove outcomes =>
    match self.dispatcher.removeService cron prim outcomes id with
    | (dispatcher,.ok ()) => some {self with dispatcher := dispatcher, removed := true, removedLast := true}
    | (dispatcher,.error error) =>
      some {self with
        dispatcher := dispatcher
        errors := self.errors ++ [error]
        removed := true
        removedLast := true}

end Step

/-- Every task and every removal has ended without error. -/
def Done (self : Updates) : Prop := (∀ stage ∈ self.tasks, stage.finishes ≠ none) ∧ self.errors = []

/-- No two updates are between removal and registration at once, a removal meets no update that has
passed its checks or would pass them without the service, and the Stellar triggers are on one chain. -/
def Ordered (info : Bool) (chain : ChainKey) (self : Updates) : Act → Updates → Prop
  | .fetched _ _ fetched,_ => ∀ service, fetched = .ok service →
    ∀ workflow ∈ service.workflows.entries, Lookup.StellarOn chain workflow.2.trigger
  | .stored _ _,_ => ∀ stage ∈ self.tasks, stage.entering = none
  | .remove _,_ => ∀ stage ∈ self.tasks, stage.harmless info = true
  | _,_ => True

instance (info : Bool) (chain : ChainKey) (self : Updates) (act : Act) (next : Updates) :
    Decidable (Ordered info chain self act next) :=
  match act with
  | .fetched _ _ _ => inferInstanceAs (Decidable (∀ service, _ = Except.ok service → ∀ workflow ∈ _, _))
  | .stored _ _ => decidable_of_iff (∀ stage ∈ self.tasks, stage.entering.isNone = true) (by simp [Ordered])
  | .remove _ => inferInstanceAs (Decidable (∀ stage ∈ self.tasks, _ = true))
  | .request => .isTrue trivial
  | .answered _ _ => .isTrue trivial
  | .connect _ _ => .isTrue trivial
  | .wake _ => .isTrue trivial
  | .timeout _ => .isTrue trivial

variable (cron : CronLib) (id : ServiceId)

/-- The service runs with this definition: it is stored, and its triggers, and no others of the
service, are registered, each under one lookup id. -/
structure Runs (service : Service) (state : Dispatcher) : Prop where
  consistent : Lookup.Consistent cron state.lookup
  stored : state.services.services.getCloned id = some service
  once : ∀ config ∈ Lookup.serviceTriggers id service, ∃! lookupId,
    state.lookup.triggerConfigs.get lookupId = some config
  only : ∀ lookupId config, state.lookup.triggerConfigs.get lookupId = some config → config.serviceId = id →
    config ∈ Lookup.serviceTriggers id service

/-- The service is not stored, and none of its triggers is registered. -/
structure Gone (state : Dispatcher) : Prop where
  consistent : Lookup.Consistent cron state.lookup
  stored : state.services.services.getCloned id = none
  idle : state.lookup.Idle id

/-- Without a removal the service runs with the definition of one update, or of the start when there
was none. After a removal that met every request it is gone. -/
structure Serial (initial : Service) (state : Updates) : Prop where
  updated : state.removed = false → ∃ service, Runs cron id service state.dispatcher ∧
    (.finished service ∈ state.tasks ∨ state.tasks = [] ∧ service = initial)
  removed : state.removedLast = true → Gone cron id state.dispatcher

end Updates
end Warpdrive.Dispatch
