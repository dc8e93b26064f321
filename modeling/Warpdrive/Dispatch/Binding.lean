import Warpdrive.Foundation.Execution
import Warpdrive.Dispatch.Effects
import Warpdrive.Dispatch.Staleness

/-! A service stays bound to the manager and the key it was registered with, over runs of
`add_service`, restarts with their restore, `change_service` and `remove_service`. What is fetched
for a manager is an arbitrary document, which names a manager of its own. -/
namespace Warpdrive.Dispatch

open Warpdrive.Foundation Warpdrive.Types Warpdrive.Trigger Warpdrive.Foundation.Execution

namespace Dispatcher

variable (cron : CronLib) (prim : IdPrimitives) (mnemonic : Mnemonic)

/-- The managers that the services were made to run for, where the loop of a restore has handled
their entries. -/
def origins (startup : Startup) : List Fetched → Dispatcher → HashMap ServiceId ServiceManager →
    HashMap ServiceId ServiceManager
  | [],_,known => known
  | fetched::rest,self,known =>
    match restoreEntry cron prim mnemonic startup fetched self with
    | (middle,.ok services) => origins startup rest middle
        (services.foldl (fun known service => known.insert (service.id prim) fetched.1.serviceManager) known)
    | (_,.error _) => known

theorem restoreAll_cons (startup : Startup) (fetched : Fetched) (rest : List Fetched) (self middle : Dispatcher)
    (services : List Service)
    (handled : restoreEntry cron prim mnemonic startup fetched self = (middle,.ok services)) :
    (restoreAll cron prim mnemonic startup (fetched::rest) self).1 =
      (restoreAll cron prim mnemonic startup rest middle).1 := by
  have first : restoreAll cron prim mnemonic startup [fetched] self = (middle,.ok (services ++ [])) := by
    rw [restoreAll,Attempt.bind_of_ok _ _ _ _ _ handled]
    rfl
  exact restoreAll_append [fetched] rest self middle _ first

/-- What handling a fetched entry can do to its service: it has the definition or not, and its
signer, where it is new, has the index of the entry. -/
structure Installs (service : Service) (hdIndex : UInt32) (before after : Dispatcher) : Prop where
  confined : Confines prim (service.id prim) before after
  stored : after.services.services.getCloned (service.id prim) = before.services.services.getCloned (service.id prim) ∨
    after.services.services.getCloned (service.id prim) = some service
  signed : after.submissionManager.signers.get (service.id prim) =
      before.submissionManager.signers.get (service.id prim) ∨
    after.submissionManager.hdIndexOf (service.id prim) = some hdIndex

theorem Installs.trans (service : Service) (hdIndex : UInt32) (first second third : Dispatcher)
    (one : Installs prim service hdIndex first second) (two : Installs prim service hdIndex second third) :
    Installs prim service hdIndex first third := by
  refine ⟨.trans prim _ _ _ _ one.confined two.confined,?_,?_⟩
  · rcases two.stored with same | new
    · rw [same]
      exact one.stored
    · exact .inr new
  · rcases two.signed with same | new
    · unfold SubmissionManager.hdIndexOf
      rw [same]
      exact one.signed
    · exact .inr new

theorem installs_restoreService (startup : Startup) (entry : RegistryEntry) (service : Service) :
    Attempt.Leaves (Installs prim service entry.hdIndex)
      (restoreService cron prim mnemonic startup entry service) := by
  have trans := Installs.trans prim service entry.hdIndex
  refine Attempt.leaves_bind trans _ _ (fun _ => ⟨.refl prim _ _,.inl rfl,.inl rfl⟩) (fun alreadyInMemory => ?_)
  refine Attempt.leaves_bind trans _ _ ?_ (fun _ => ?_)
  · intro self
    refine ⟨confines_saveService prim _ service self,.inr ?_,.inl rfl⟩
    rw [services_saveService]
    exact WavsDbTable.getCloned_insert _ _ _
  refine Attempt.leaves_bind trans _ _ (fun _ => ⟨.refl prim _ _,.inl rfl,.inl rfl⟩) (fun _ => ?_)
  cases alreadyInMemory with
  | true => exact fun _ => ⟨.refl prim _ _,.inl rfl,.inl rfl⟩
  | false =>
    refine Attempt.leaves_bind trans _ _ ?_ (fun _ => ?_)
    · intro self
      refine ⟨confines_addServiceKey prim mnemonic _ entry.hdIndex self,.inl rfl,?_⟩
      rw [addServiceKey_run]
      unfold SubmissionManager.hdIndexOf
      rcases SubmissionManager.addServiceKey_cases mnemonic self.services (service.id prim) entry.hdIndex
          self.submissionManager with ⟨_,_,same⟩ | ⟨signer,_,inserted⟩
      · refine .inl ?_
        rw [same]
      · simp [inserted]
    refine Attempt.leaves_bind trans _ _ ?_ (fun _ => ?_)
    · exact fun _ => ⟨.of_same prim _ _ _ rfl rfl,.inl rfl,.inl rfl⟩
    · exact fun _ => ⟨.of_same prim _ _ _ rfl rfl,.inl rfl,.inl rfl⟩

/-- A service that is not in memory and whose entry is handled has its definition and the key of the
entry. -/
theorem restoreService_new (startup : Startup) (entry : RegistryEntry) (service : Service)
    (self after : Dispatcher) (absent : self.services.contains (service.id prim) = false)
    (restored : restoreService cron prim mnemonic startup entry service self = (after,.ok ())) :
    after.services.services.getCloned (service.id prim) = some service ∧
      after.submissionManager.hdIndexOf (service.id prim) = some entry.hdIndex := by
  obtain ⟨found,first,looked,second⟩ := (Attempt.bind_ok _ _ _ _ _).mp restored
  rw [Attempt.reads_run] at looked
  cases looked
  obtain ⟨_,saved,saves,third⟩ := (Attempt.bind_ok _ _ _ _ _).mp second
  have present : saved.services.services.getCloned (service.id prim) = some service := by
    have inserted := services_saveService prim (startup.outcomesOf entry) service self
    rw [saves] at inserted
    rw [inserted]
    exact WavsDbTable.getCloned_insert _ _ _
  obtain ⟨_,stored,stores,fourth⟩ := (Attempt.bind_ok _ _ _ _ _).mp third
  have same : stored = saved := congrArg Prod.fst stores.symm
  subst same
  rw [absent] at fourth
  obtain ⟨_,effect⟩ := addServiceToManagers_ok cron prim mnemonic (startup.outcomesOf entry) service stored
    entry.hdIndex present
  change addServiceToManagers cron prim mnemonic (startup.outcomesOf entry) service (some entry.hdIndex) stored =
    (after,.ok ()) at fourth
  rw [fourth] at effect
  obtain ⟨submissions,signer,reached,signers⟩ := effect rfl
  change after = _ at reached
  rw [reached]
  refine ⟨present,?_⟩
  simp only [SubmissionManager.hdIndexOf,signers]
  simp

/-- What the loop of a restore has reached when it has handled these entries: every definition and
every signer is of one of them, and the services that were made to run are bound. -/
structure Restored (handled : List Fetched) (known : HashMap ServiceId ServiceManager) (state : Dispatcher) :
    Prop where
  sourced : ∀ id service, state.services.services.getCloned id = some service → ∃ one ∈ handled,
    one.2 = .ok service ∧ service.manager = one.1.serviceManager ∧ service.id prim = id
  signed : ∀ id hdIndex, state.submissionManager.hdIndexOf id = some hdIndex → ∃ one ∈ handled,
    .ofManager prim one.1.serviceManager = id ∧ one.1.hdIndex = hdIndex
  bound : ∀ id manager, known.get id = some manager → ∃ one ∈ handled, one.1.serviceManager = manager ∧
    .ofManager prim manager = id ∧ one.1 ∈ state.serviceRegistry.entries ∧
    state.submissionManager.hdIndexOf id = some one.1.hdIndex ∧
    ∀ service, state.services.services.getCloned id = some service → service.manager = manager

variable {prim}

theorem Restored.more {handled : List Fetched} {known : HashMap ServiceId ServiceManager} {self : Dispatcher}
    (inv : Restored prim handled known self) (rest : List Fetched) : Restored prim (handled ++ rest) known self := by
  refine ⟨?_,?_,?_⟩
  · intro id service stored
    obtain ⟨one,member,found⟩ := inv.sourced id service stored
    exact ⟨one,List.mem_append_left _ member,found⟩
  · intro id hdIndex signed
    obtain ⟨one,member,found⟩ := inv.signed id hdIndex signed
    exact ⟨one,List.mem_append_left _ member,found⟩
  · intro id manager recorded
    obtain ⟨one,member,found⟩ := inv.bound id manager recorded
    exact ⟨one,List.mem_append_left _ member,found⟩

/-- An entry whose query failed can only lose its own registration. -/
theorem Restored.forget {handled : List Fetched} {known : HashMap ServiceId ServiceManager} {self : Dispatcher}
    (inv : Restored prim handled known self) (manager : ServiceManager) (registry : ServiceRegistry)
    (apart : ∀ other ∈ handled, other.1.serviceManager ≠ manager)
    (kept : ∀ entry ∈ self.serviceRegistry.entries, entry.serviceManager ≠ manager → entry ∈ registry.entries) :
    Restored prim handled known {self with serviceRegistry := registry} := by
  refine ⟨inv.sourced,inv.signed,?_⟩
  intro id other recorded
  obtain ⟨one,member,named,own,listed,rest⟩ := inv.bound id other recorded
  exact ⟨one,member,named,own,kept one.1 listed (apart one member),rest⟩

/-- A document that names the manager of its entry touches none of the services that run. -/
theorem Restored.install {handled : List Fetched} {known : HashMap ServiceId ServiceManager}
    {self after : Dispatcher} (inv : Restored prim handled known self) (entry : RegistryEntry) (service : Service)
    (named : service.manager = entry.serviceManager)
    (apart : ∀ other ∈ handled, ServiceId.ofManager prim other.1.serviceManager ≠ service.id prim)
    (installs : Installs prim service entry.hdIndex self after)
    (registry : after.serviceRegistry = self.serviceRegistry) :
    Restored prim (handled ++ [(entry,.ok service)]) known after := by
  have own : ServiceId.ofManager prim entry.serviceManager = service.id prim := by
    rw [← named]
    rfl
  have before := inv.more [(entry,.ok service)]
  have present : (entry,.ok service) ∈ handled ++ [(entry,(.ok service : Except DispatcherError Service))] :=
    List.mem_append_right _ List.mem_cons_self
  refine ⟨?_,?_,?_⟩
  · intro id other stored
    by_cases same : id = service.id prim
    · subst same
      rcases installs.stored with unchanged | new
      · rw [unchanged] at stored
        exact before.sourced _ other stored
      · rw [new] at stored
        cases stored
        exact ⟨_,present,rfl,named,rfl⟩
    · rw [installs.confined.services id same] at stored
      exact before.sourced id other stored
  · intro id hdIndex signed
    by_cases same : id = service.id prim
    · subst same
      rcases installs.signed with unchanged | new
      · unfold SubmissionManager.hdIndexOf at signed
        rw [unchanged] at signed
        exact before.signed _ hdIndex signed
      · rw [new] at signed
        cases signed
        exact ⟨_,present,own,rfl⟩
    · unfold SubmissionManager.hdIndexOf at signed
      rw [installs.confined.signers id same] at signed
      exact before.signed id hdIndex signed
  · intro id manager recorded
    obtain ⟨one,member,is,made,listed,signed,stored⟩ := inv.bound id manager recorded
    have other : id ≠ service.id prim := by
      rw [← made,← is]
      exact apart one member
    refine ⟨one,List.mem_append_left _ member,is,made,?_,?_,?_⟩
    · rw [registry]
      exact listed
    · unfold SubmissionManager.hdIndexOf
      rw [installs.confined.signers id other]
      exact signed
    · rw [installs.confined.services id other]
      exact stored

/-- The service that runs from now on is bound to the manager of its entry. -/
theorem Restored.record {handled : List Fetched} {known : HashMap ServiceId ServiceManager} {self : Dispatcher}
    (inv : Restored prim handled known self) (one : Fetched) (service : Service) (member : one ∈ handled)
    (named : service.manager = one.1.serviceManager) (listed : one.1 ∈ self.serviceRegistry.entries)
    (stored : self.services.services.getCloned (service.id prim) = some service)
    (signed : self.submissionManager.hdIndexOf (service.id prim) = some one.1.hdIndex) :
    Restored prim handled (known.insert (service.id prim) one.1.serviceManager) self := by
  refine ⟨inv.sourced,inv.signed,?_⟩
  intro id manager recorded
  by_cases same : id = service.id prim
  · subst same
    rw [HashMap.get_insert_self] at recorded
    cases recorded
    refine ⟨one,member,rfl,?_,listed,signed,?_⟩
    · rw [← named]
      rfl
    · intro other found
      cases stored.symm.trans found
      exact named
  · rw [HashMap.get_insert_ne _ _ _ _ same] at recorded
    exact inv.bound id manager recorded

variable {cron mnemonic}

theorem Restored.entry {startup : Startup} {handled : List Fetched} {known : HashMap ServiceId ServiceManager}
    {self : Dispatcher} (inv : Restored prim handled known self) (one : Fetched)
    (named : ∀ service, one.2 = .ok service → service.manager = one.1.serviceManager)
    (listed : one.1 ∈ self.serviceRegistry.entries)
    (apart : ∀ other ∈ handled, ServiceId.ofManager prim other.1.serviceManager ≠ .ofManager prim one.1.serviceManager) :
    (∀ middle error, restoreEntry cron prim mnemonic startup one self = (middle,.error error) →
        Restored prim (handled ++ [one]) known middle) ∧
      ∀ middle services, restoreEntry cron prim mnemonic startup one self = (middle,.ok services) →
        Restored prim (handled ++ [one])
          (services.foldl (fun known service => known.insert (service.id prim) one.1.serviceManager) known)
          middle := by
  obtain ⟨entry,result⟩ := one
  cases result with
  | error reason =>
    have differ : ∀ other ∈ handled, other.1.serviceManager ≠ entry.serviceManager := by
      intro other member same
      exact apart other member (congrArg _ same)
    have forgotten := inv.more [(entry,.error reason)]
    constructor
    · intro middle error called
      unfold restoreEntry at called
      simp only at called
      split at called <;> cases called
    · intro middle services called
      unfold restoreEntry at called
      simp only at called
      split at called
      · cases called
        refine (inv.forget entry.serviceManager _ differ ?_).more _
        intro kept member other
        exact (ServiceRegistry.mem_remove _ _ _ kept).mpr ⟨member,other⟩
      · cases called
        exact forgotten
  | ok service =>
    have own : ServiceId.ofManager prim entry.serviceManager = service.id prim := by
      rw [← named service rfl]
      rfl
    have registry : (restoreEntry cron prim mnemonic startup (entry,.ok service) self).1.serviceRegistry =
        self.serviceRegistry := leaves_restoreEntry entry service self
    have installs := installs_restoreService cron prim mnemonic startup entry service self
    have other : ∀ earlier ∈ handled, ServiceId.ofManager prim earlier.1.serviceManager ≠ service.id prim := by
      rw [← own]
      exact apart
    cases called : restoreService cron prim mnemonic startup entry service self with
    | mk after outcome =>
      rw [called] at installs
      cases outcome with
      | error reason =>
        have failed : restoreEntry cron prim mnemonic startup (entry,.ok service) self = (after,.error reason) :=
          Attempt.bind_of_error _ _ _ _ _ called
        rw [failed] at registry ⊢
        constructor
        · intro middle error reached
          cases reached
          exact inv.install entry service (named service rfl) other installs registry
        · intro middle services reached
          cases reached
      | ok done =>
        have handles : restoreEntry cron prim mnemonic startup (entry,.ok service) self = (after,.ok [service]) :=
          Attempt.bind_of_ok _ _ _ _ _ called
        rw [handles] at registry ⊢
        constructor
        · intro middle error reached
          cases reached
        · intro middle services reached
          cases reached
          have absent : self.services.contains (service.id prim) = false := by
            cases found : self.services.services.getCloned (service.id prim) with
            | none => simp [Services.contains,found]
            | some stored =>
              obtain ⟨earlier,member,_,is,same⟩ := inv.sourced _ stored found
              refine absurd ?_ (other earlier member)
              rw [← same,← is]
              rfl
          obtain ⟨stored,signed⟩ := restoreService_new cron prim mnemonic startup entry service self after absent called
          have installed := inv.install entry service (named service rfl) other installs registry
          refine installed.record (entry,.ok service) service (List.mem_append_right _ List.mem_cons_self)
            (named service rfl) ?_ stored signed
          rw [registry]
          exact listed

/-- The loop keeps bound what runs, when each document names the manager of its entry and no two
entries share a service id. -/
theorem restored_restoreAll {startup : Startup} (rest handled : List Fetched)
    (known : HashMap ServiceId ServiceManager) (self : Dispatcher)
    (named : ∀ one ∈ rest, ∀ service, one.2 = .ok service → service.manager = one.1.serviceManager)
    (listed : ∀ one ∈ rest, one.1 ∈ self.serviceRegistry.entries)
    (distinct : ((handled ++ rest).map (fun one => ServiceId.ofManager prim one.1.serviceManager)).Nodup)
    (inv : Restored prim handled known self) :
    Restored prim (handled ++ rest) (origins cron prim mnemonic startup rest self known)
      (restoreAll cron prim mnemonic startup rest self).1 := by
  induction rest generalizing handled known self with
  | nil =>
    rw [List.append_nil]
    exact inv
  | cons one rest ih =>
    have split : handled ++ one::rest = (handled ++ [one]) ++ rest := by simp
    have apart : ∀ other ∈ handled, ServiceId.ofManager prim other.1.serviceManager ≠
        .ofManager prim one.1.serviceManager := by
      intro other member
      rw [List.map_append,List.map_cons,List.nodup_append] at distinct
      exact distinct.2.2 _ (List.mem_map_of_mem member) _ List.mem_cons_self
    obtain ⟨stops,goes⟩ := @Restored.entry cron prim mnemonic startup handled known self inv one
      (named one List.mem_cons_self) (listed one List.mem_cons_self) apart
    rw [split]
    cases called : restoreEntry cron prim mnemonic startup one self with
    | mk middle outcome =>
      cases outcome with
      | error error =>
        rw [origins,called,restoreAll,Attempt.bind_of_error _ _ _ _ _ called]
        exact (stops middle error called).more rest
      | ok services =>
        rw [origins,called,restoreAll_cons cron prim mnemonic startup one rest self middle services called]
        rw [split] at distinct
        refine ih (handled ++ [one]) _ middle (fun other member => named other (List.mem_cons_of_mem _ member)) ?_
          distinct (goes middle services called)
        intro other member
        have kept := @entries_restoreEntry cron prim mnemonic startup one self other.1
        rw [called] at kept
        refine kept.mpr ⟨listed other (List.mem_cons_of_mem _ member),?_⟩
        rintro ⟨_,same⟩
        rw [List.map_append,List.nodup_append] at distinct
        refine distinct.2.2 _ (List.mem_map_of_mem (List.mem_append_right _ List.mem_cons_self)) _
          (List.mem_map_of_mem member) ?_
        rw [same]

end Dispatcher

/-- The process with, for each service that a call or a restore has made run, the manager that the
call was for or whose entry was restored. -/
structure Node where
  dispatcher : Dispatcher
  origins : HashMap ServiceId ServiceManager

/-- `add_service` and `change_service` with what their queries find, `remove_service`, and a start
of the process from the registry file, at which the queries end in this order. -/
inductive Node.Act
  | addService (manager : ServiceManager) (outcomes : Outcomes) (replies : Replies)
  | changeService (info : Bool) (outcomes : Outcomes) (id : ServiceId) (fetched : Except String Service)
  | removeService (outcomes : Outcomes) (id : ServiceId)
  | restart (chainConfigs : ChainConfigs) (startup : Startup) (order : List RegistryEntry)

namespace Node

def new (chainConfigs : ChainConfigs) (file : Option RegistryState) : Node := ⟨.new chainConfigs file,.new⟩

variable (cron : CronLib) (prim : IdPrimitives) (mnemonic : Mnemonic)

/-- A query that panics ends the call before it has changed anything. -/
def addService (manager : ServiceManager) (outcomes : Outcomes) (replies : Replies) (self : Node) : Node :=
  match replies.queryServiceFromAddress self.dispatcher.triggerManager.chainConfigs manager with
  | none => self
  | some fetched =>
    match Dispatcher.addService cron prim mnemonic outcomes fetched self.dispatcher with
    | (dispatcher,.ok service) => ⟨dispatcher,self.origins.insert (service.id prim) manager⟩
    | (dispatcher,.error _) => ⟨dispatcher,self.origins⟩

def changeService (info : Bool) (outcomes : Outcomes) (id : ServiceId) (fetched : Except String Service)
    (self : Node) : Node :=
  {self with dispatcher := (self.dispatcher.changeService cron prim mnemonic info outcomes id fetched).1}

def removeService (outcomes : Outcomes) (id : ServiceId) (self : Node) : Node :=
  let dispatcher := (Dispatcher.removeService cron prim outcomes id self.dispatcher).1
  ⟨dispatcher,if dispatcher.services.contains id then self.origins else self.origins.remove id⟩

def restart (chainConfigs : ChainConfigs) (startup : Startup) (order : List RegistryEntry) (self : Node) :
    Option Node :=
  let file := self.dispatcher.serviceRegistry.file
  if order.Perm (ServiceRegistry.load file).entries then
    (startup.fetchAll chainConfigs order).map (fun fetched =>
      ⟨(Dispatcher.restoreAll cron prim mnemonic startup fetched (.new chainConfigs file)).1,
        Dispatcher.origins cron prim mnemonic startup fetched (.new chainConfigs file) .new⟩)
  else none

def step (self : Node) : Act → Option Node
  | .addService manager outcomes replies => some (addService cron prim mnemonic manager outcomes replies self)
  | .changeService info outcomes id fetched =>
    some (changeService cron prim mnemonic info outcomes id fetched self)
  | .removeService outcomes id => some (removeService cron prim outcomes id self)
  | .restart chainConfigs startup order => restart cron prim mnemonic chainConfigs startup order self

/-- Every service that was made to run for a manager has that manager, and its key has the index of
the registry entry of the manager. -/
def Bound (node : Node) : Prop :=
  ∀ id manager service, node.origins.get id = some manager →
    node.dispatcher.services.services.getCloned id = some service →
    service.manager = manager ∧ ∃ hdIndex, node.dispatcher.submissionManager.hdIndexOf id = some hdIndex ∧
      ⟨manager,hdIndex⟩ ∈ node.dispatcher.serviceRegistry.entries

/-- A call creates, replaces and re-keys no service but the one of its manager, and a start none but
those of the managers whose documents it has fetched. -/
def Confined (node : Node) : Act → Node → Prop
  | .addService manager _ _,next =>
    Dispatcher.Confines prim (.ofManager prim manager) node.dispatcher next.dispatcher
  | .changeService _ _ id _,next => Dispatcher.Confines prim id node.dispatcher next.dispatcher
  | .removeService _ id,next => Dispatcher.Confines prim id node.dispatcher next.dispatcher
  | .restart chainConfigs startup order,next =>
    (∀ id service, next.dispatcher.services.services.getCloned id = some service → ∃ entry ∈ order,
      startup.query chainConfigs entry = some (.ok service) ∧ .ofManager prim entry.serviceManager = id) ∧
    ∀ id hdIndex, next.dispatcher.submissionManager.hdIndexOf id = some hdIndex → ∃ entry ∈ order,
      .ofManager prim entry.serviceManager = id ∧ entry.hdIndex = hdIndex

/-- No other manager of the registry has the service id of this one. -/
def Apart (node : Node) (manager : ServiceManager) : Prop :=
  ∀ entry ∈ node.dispatcher.serviceRegistry.entries,
    ServiceId.ofManager prim entry.serviceManager = .ofManager prim manager → entry.serviceManager = manager

instance (node : Node) (manager : ServiceManager) : Decidable (Apart prim node manager) :=
  inferInstanceAs (Decidable (∀ entry ∈ _, _ → _))

/-- Each document that is fetched for a manager names it, no two managers share a service id, and the
registry without a stored service can be written. -/
def Faithful (node : Node) : Act → Node → Prop
  | .addService manager _ replies,_ => ∀ service,
    replies.queryServiceFromAddress node.dispatcher.triggerManager.chainConfigs manager = some (.ok service) →
      service.manager = manager ∧ Apart prim node manager
  | .changeService _ _ id fetched,_ => ∀ service, fetched = .ok service → service.id prim = id →
    Apart prim node service.manager
  | .removeService outcomes id,_ => node.dispatcher.services.contains id = true → outcomes.removeWrite = .ok ()
  | .restart chainConfigs startup order,_ =>
    (∀ entry ∈ order, ∀ service, startup.query chainConfigs entry = some (.ok service) →
      service.manager = entry.serviceManager) ∧
    (order.map (fun entry => ServiceId.ofManager prim entry.serviceManager)).Nodup

instance (node : Node) (act : Act) (next : Node) : Decidable (Faithful prim node act next) :=
  match act with
  | .addService _ _ _ => inferInstanceAs (Decidable (∀ service, _ = some (Except.ok service) → _ ∧ _))
  | .changeService _ _ _ _ => inferInstanceAs (Decidable (∀ service, _ = Except.ok service → _ → _))
  | .removeService _ _ => inferInstanceAs (Decidable (_ → _))
  | .restart _ _ _ => inferInstanceAs (Decidable ((∀ entry ∈ _, ∀ service, _ = some (Except.ok service) → _) ∧ _))

/-- What the steps keep: a service that was made to run for a manager has the id and the key of the
manager, and is stored with it, where it is stored at all. -/
structure Keeps (node : Node) : Prop where
  named : ∀ id service, node.dispatcher.services.services.getCloned id = some service → service.id prim = id
  bound : ∀ id manager, node.origins.get id = some manager → .ofManager prim manager = id ∧
    ∃ hdIndex, node.dispatcher.submissionManager.hdIndexOf id = some hdIndex ∧
      ⟨manager,hdIndex⟩ ∈ node.dispatcher.serviceRegistry.entries ∧
      ∀ service, node.dispatcher.services.services.getCloned id = some service → service.manager = manager

variable {prim}

theorem Keeps.isBound {node : Node} (inv : Keeps prim node) : Bound node := by
  intro id manager service recorded stored
  obtain ⟨_,hdIndex,signed,listed,names⟩ := inv.bound id manager recorded
  exact ⟨names service stored,hdIndex,signed,listed⟩

theorem keeps_new (chainConfigs : ChainConfigs) (file : Option RegistryState) :
    Keeps prim (new chainConfigs file) where
  named id service stored := by simp [new,Dispatcher.new,Services.new] at stored
  bound id manager recorded := by simp [new] at recorded

theorem Keeps.names {node : Node} (inv : Keeps prim node) (id : ServiceId) (after : Dispatcher)
    (confined : Dispatcher.Confines prim id node.dispatcher after) (other : ServiceId) (service : Service)
    (stored : after.services.services.getCloned other = some service) : service.id prim = other := by
  by_cases same : other = id
  · subst same
    rcases confined.own service stored with before | own
    · exact inv.named other service before
    · exact own
  · rw [confined.services other same] at stored
    exact inv.named other service stored

/-- What is bound stays bound where a call cannot touch it and its entry is kept. -/
theorem Keeps.untouched {node : Node} (inv : Keeps prim node) (id : ServiceId) (after : Dispatcher)
    (confined : Dispatcher.Confines prim id node.dispatcher after) (other : ServiceId) (manager : ServiceManager)
    (recorded : node.origins.get other = some manager) (apart : other ≠ id)
    (kept : ∀ entry ∈ node.dispatcher.serviceRegistry.entries, entry.serviceManager = manager →
      entry ∈ after.serviceRegistry.entries) : .ofManager prim manager = other ∧
    ∃ hdIndex, after.submissionManager.hdIndexOf other = some hdIndex ∧
      ⟨manager,hdIndex⟩ ∈ after.serviceRegistry.entries ∧
      ∀ service, after.services.services.getCloned other = some service → service.manager = manager := by
  obtain ⟨own,hdIndex,signed,listed,names⟩ := inv.bound other manager recorded
  refine ⟨own,hdIndex,?_,kept _ listed rfl,?_⟩
  · unfold SubmissionManager.hdIndexOf
    rw [confined.signers other apart]
    exact signed
  · rw [confined.services other apart]
    exact names

variable {cron mnemonic}

theorem Keeps.addService {node : Node} (inv : Keeps prim node) (manager : ServiceManager) (outcomes : Outcomes)
    (replies : Replies) (next : Node) (faithful : Faithful prim node (.addService manager outcomes replies) next) :
    Keeps prim (addService cron prim mnemonic manager outcomes replies node) ∧
      Dispatcher.Confines prim (.ofManager prim manager) node.dispatcher
        (addService cron prim mnemonic manager outcomes replies node).dispatcher := by
  unfold Node.addService
  cases queried : replies.queryServiceFromAddress node.dispatcher.triggerManager.chainConfigs manager with
  | none => exact ⟨inv,.refl prim _ _⟩
  | some fetched =>
    cases fetched with
    | error error => exact ⟨⟨inv.named,inv.bound⟩,.refl prim _ _⟩
    | ok service =>
      obtain ⟨named,apart⟩ := faithful service queried
      have own : service.id prim = .ofManager prim manager := congrArg _ named
      have confined := Dispatcher.confines_registerAndAddService cron prim mnemonic outcomes service node.dispatcher
      obtain ⟨refused,grown,added⟩ := Dispatcher.registerAndAddService_effect cron prim mnemonic outcomes service
        node.dispatcher
      -- a service that was made to run under this id is of this manager, which is then registered
      have fresh : ∀ other earlier, ¬node.dispatcher.serviceRegistry.state.Lists service.manager →
          node.origins.get other = some earlier → other ≠ service.id prim := by
        rintro other earlier free recorded rfl
        obtain ⟨is,hdIndex,_,listed,_⟩ := inv.bound _ earlier recorded
        have same := apart _ listed (is.trans own)
        refine free (List.mem_map.mpr ⟨_,listed,?_⟩)
        rw [named]
        exact same
      have others : ∀ after : Dispatcher, ¬node.dispatcher.serviceRegistry.state.Lists service.manager →
          Dispatcher.Confines prim (service.id prim) node.dispatcher after →
          (∀ entry ∈ node.dispatcher.serviceRegistry.entries, entry ∈ after.serviceRegistry.entries) →
          Keeps prim ⟨after,node.origins⟩ := by
        intro after free confined kept
        refine ⟨inv.names _ after confined,?_⟩
        intro other earlier recorded
        exact inv.untouched _ after confined other earlier recorded (fresh other earlier free recorded)
          (fun entry member _ => kept entry member)
      rw [← own]
      simp only [Dispatcher.addService_fetched]
      cases called : Dispatcher.registerAndAddService cron prim mnemonic outcomes service node.dispatcher with
      | mk after outcome =>
        rw [called] at confined refused grown added
        refine ⟨?_,by cases outcome <;> exact confined⟩
        by_cases listed : node.dispatcher.serviceRegistry.state.Lists service.manager
        · obtain ⟨same,error,failed⟩ := refused listed
          change after = node.dispatcher at same
          change outcome = .error error at failed
          subst same failed
          exact ⟨inv.named,inv.bound⟩
        · have kept := others after listed confined (grown listed)
          cases outcome with
          | error error => exact kept
          | ok done =>
            obtain ⟨stored,hdIndex,signed,entered⟩ := added rfl
            refine ⟨kept.named,?_⟩
            intro other earlier recorded
            by_cases same : other = service.id prim
            · subst same
              change (node.origins.insert (service.id prim) manager).get (service.id prim) = some earlier at recorded
              rw [HashMap.get_insert_self] at recorded
              cases recorded
              rw [named] at entered
              refine ⟨own.symm,hdIndex,signed,entered,?_⟩
              intro found is
              cases stored.symm.trans is
              exact named
            · change (node.origins.insert (service.id prim) manager).get other = some earlier at recorded
              rw [HashMap.get_insert_ne _ _ _ _ same] at recorded
              exact kept.bound other earlier recorded

theorem Keeps.changeService {node : Node} (inv : Keeps prim node) (info : Bool) (outcomes : Outcomes)
    (id : ServiceId) (fetched : Except String Service) (next : Node)
    (faithful : Faithful prim node (.changeService info outcomes id fetched) next) :
    Keeps prim (changeService cron prim mnemonic info outcomes id fetched node) ∧
      Dispatcher.Confines prim id node.dispatcher
        (changeService cron prim mnemonic info outcomes id fetched node).dispatcher := by
  unfold Node.changeService
  rcases Dispatcher.changeService_effect cron prim mnemonic info outcomes id fetched node.dispatcher with
    same | ⟨service,hdIndex,found,named,keyed,revises⟩
  · rw [same]
    exact ⟨inv,.refl prim _ _⟩
  · refine ⟨⟨inv.names id _ revises.confined,?_⟩,revises.confined⟩
    intro other manager recorded
    by_cases same : other = id
    · subst same
      obtain ⟨own,index,signed,listed,names⟩ := inv.bound _ manager recorded
      rw [keyed] at signed
      cases signed
      refine ⟨own,hdIndex,revises.keyed keyed,?_,?_⟩
      · rw [revises.registry]
        exact listed
      · intro stored is
        rcases revises.stored with before | gone | new
        · rw [before] at is
          exact names stored is
        · rw [gone] at is
          cases is
        · rw [new] at is
          cases is
          exact (faithful service found named _ listed (own.trans named.symm)).symm
    · refine inv.untouched id _ revises.confined other manager recorded same ?_
      intro entry member _
      rw [revises.registry]
      exact member

theorem Keeps.removeService {node : Node} (inv : Keeps prim node) (outcomes : Outcomes) (id : ServiceId)
    (next : Node) (faithful : Faithful prim node (.removeService outcomes id) next) :
    Keeps prim (removeService cron prim outcomes id node) ∧
      Dispatcher.Confines prim id node.dispatcher (removeService cron prim outcomes id node).dispatcher := by
  have confined := Dispatcher.confines_removeService cron prim outcomes id node.dispatcher
  obtain ⟨_,kept,gone⟩ := Dispatcher.removeService_effect cron prim outcomes id node.dispatcher
  have absent : (Dispatcher.removeService cron prim outcomes id node.dispatcher).1.services.contains id = false := by
    simp [Services.contains,gone faithful]
  unfold Node.removeService
  simp only [absent,Bool.false_eq_true,if_false]
  refine ⟨⟨inv.names id _ confined,?_⟩,confined⟩
  intro other manager recorded
  by_cases same : other = id
  · subst same
    simp at recorded
  · simp only [HashMap.get_remove_ne _ _ _ same] at recorded
    refine inv.untouched id _ confined other manager recorded same ?_
    rintro entry member rfl
    refine kept entry member ?_
    -- the manager whose entry is removed has the id that is removed
    intro removed
    obtain ⟨own,_⟩ := inv.bound other entry.serviceManager recorded
    refine same (own.symm.trans ?_)
    unfold Dispatcher.managerToRemove at removed
    split at removed
    · next service stored =>
      rw [← Option.some.inj removed]
      exact inv.named id service stored
    · obtain ⟨listed,found,is⟩ := Option.map_eq_some_iff.mp removed
      have has := List.find?_some found
      rw [← is]
      exact of_decide_eq_true has

theorem keeps_restart {node next : Node} {chainConfigs : ChainConfigs} {startup : Startup}
    {order : List RegistryEntry}
    (started : restart cron prim mnemonic chainConfigs startup order node = some next)
    (faithful : Faithful prim node (.restart chainConfigs startup order) next) :
    Keeps prim next ∧ Confined prim node (.restart chainConfigs startup order) next := by
  obtain ⟨documents,distinct⟩ := faithful
  unfold Node.restart at started
  simp only at started
  split at started
  · next complete =>
    obtain ⟨fetched,answered,rfl⟩ := Option.map_eq_some_iff.mp started
    obtain ⟨names,asked⟩ := (startup.fetchAll_iff chainConfigs order fetched).mp answered
    have member : ∀ one ∈ fetched, one.1 ∈ order := by
      intro one inside
      rw [← names]
      exact List.mem_map_of_mem inside
    have named : ∀ one ∈ fetched, ∀ service, one.2 = .ok service → service.manager = one.1.serviceManager := by
      intro one inside service found
      refine documents one.1 (member one inside) service ?_
      rw [asked one inside,found]
    have initial : Dispatcher.Restored prim [] .new (.new chainConfigs node.dispatcher.serviceRegistry.file) := by
      refine ⟨?_,?_,?_⟩
      · intro id service stored
        simp [Dispatcher.new,Services.new] at stored
      · intro id hdIndex signed
        simp [Dispatcher.new,SubmissionManager.new,SubmissionManager.hdIndexOf] at signed
      · intro id manager recorded
        simp at recorded
    have restored := @Dispatcher.restored_restoreAll cron prim mnemonic startup fetched [] .new _ named ?_ ?_ initial
    · rw [List.nil_append] at restored
      refine ⟨⟨?_,?_⟩,?_,?_⟩
      · intro id service stored
        obtain ⟨_,_,_,_,own⟩ := restored.sourced id service stored
        exact own
      · intro id manager recorded
        obtain ⟨one,_,rfl,own,listed,signed,stored⟩ := restored.bound id manager recorded
        exact ⟨own,_,signed,listed,stored⟩
      · intro id service stored
        obtain ⟨one,inside,found,is,own⟩ := restored.sourced id service stored
        refine ⟨one.1,member one inside,?_,?_⟩
        · rw [asked one inside,found]
        · rw [← is]
          exact own
      · intro id hdIndex signed
        obtain ⟨one,inside,own,index⟩ := restored.signed id hdIndex signed
        exact ⟨one.1,member one inside,own,index⟩
    · intro one inside
      exact complete.mem_iff.mp (member one inside)
    · rw [← names,List.map_map] at distinct
      exact distinct
  · cases started

theorem keeps_step (node : Node) (act : Act) (next : Node) (taken : step cron prim mnemonic node act = some next)
    (faithful : Faithful prim node act next) (inv : Keeps prim node) :
    Keeps prim next ∧ Confined prim node act next := by
  cases act with
  | addService manager outcomes replies =>
    cases taken
    exact inv.addService manager outcomes replies _ faithful
  | changeService info outcomes id fetched =>
    cases taken
    exact inv.changeService info outcomes id fetched _ faithful
  | removeService outcomes id =>
    cases taken
    exact inv.removeService outcomes id _ faithful
  | restart chainConfigs startup order => exact keeps_restart taken faithful

section Runs

variable (cron mnemonic)

/-- Where each fetched document names the manager it was fetched for, every service that runs is
bound to the manager and the key of its registration, and no call touches another service. -/
theorem services_stay_bound (chainConfigs : ChainConfigs) (file : Option RegistryState) (acts : List Act)
    (final : Node) (reached : run (step cron prim mnemonic) (new chainConfigs file) acts = some final)
    (faithful : Along (step cron prim mnemonic) (Faithful prim) (new chainConfigs file) acts) :
    Bound final ∧ Along (step cron prim mnemonic) (Confined prim) (new chainConfigs file) acts := by
  obtain ⟨confined,inv⟩ := along_of_invariant (Faithful prim) (Confined prim) (Keeps prim) keeps_step
    (new chainConfigs file) final acts reached faithful (keeps_new chainConfigs file)
  exact ⟨inv.isBound,confined⟩

end Runs

/-- Two managers are added, the first service is changed, the second removed, and the process is
started anew. -/
def boundRun : List Act := [
  .addService firstEntry.serviceManager reachable (publishes deployedService),
  .addService secondEntry.serviceManager reachable (publishes secondService),
  .changeService true reachable deployedId (.ok {deployedService with name := "renamed"}),
  .removeService reachable secondId,
  .restart localConfigs (startsWith deployedService) [firstEntry]]

theorem first_stays_bound :
    ∃ final, run (step everyMinute bothIds operatorMnemonic) (new localConfigs none) boundRun = some final ∧
      (final.origins.get deployedId = some firstEntry.serviceManager ∧
        final.dispatcher.services.contains deployedId = true) ∧
      Bound final ∧
      Along (step everyMinute bothIds operatorMnemonic) (Confined bothIds) (new localConfigs none) boundRun := by
  obtain ⟨final,reached,runs⟩ := run_any (step everyMinute bothIds operatorMnemonic) (new localConfigs none) boundRun
    (fun final => decide (final.origins.get deployedId = some firstEntry.serviceManager ∧
      final.dispatcher.services.contains deployedId = true)) (by decide +kernel)
  exact ⟨final,reached,of_decide_eq_true runs,
    services_stay_bound everyMinute operatorMnemonic localConfigs none boundRun final reached (by decide +kernel)⟩

/-- A document that is added for the first manager and names the second. -/
def foreignDocument : List Act := [.addService firstEntry.serviceManager reachable (publishes secondService)]

/-- A restore at which the first entry's document names the second manager. -/
def foreignRestore : List Act := [.restart localConfigs (startsWith secondService) [firstEntry,secondEntry]]

theorem foreign_document_runs :
    (∃ final, run (step everyMinute bothIds operatorMnemonic) (new localConfigs none) foreignDocument = some final ∧
      ¬Bound final ∧ ¬Along (step everyMinute bothIds operatorMnemonic) (Confined bothIds) (new localConfigs none)
        foreignDocument) ∧
    ∃ final, run (step everyMinute bothIds operatorMnemonic) (new localConfigs (some bothRegistered)) foreignRestore =
        some final ∧ ¬Bound final := by
  constructor
  · obtain ⟨final,reached,runs⟩ := run_any (step everyMinute bothIds operatorMnemonic) (new localConfigs none)
      foreignDocument (fun final => decide (final.origins.get secondId = some firstEntry.serviceManager ∧
        final.dispatcher.services.services.getCloned secondId = some secondService)) (by decide +kernel)
    obtain ⟨recorded,stored⟩ := of_decide_eq_true runs
    refine ⟨final,reached,?_,?_⟩
    · intro bound
      have named := (bound secondId _ secondService recorded stored).1
      exact absurd named (by decide)
    · intro along
      obtain ⟨next,taken,ends⟩ := (run_cons _ _ _ _).mp reached
      cases ends
      obtain ⟨confined,_⟩ := (along_cons _ _ _ _ _ taken).mp along
      have other := confined.services secondId (by decide +kernel)
      rw [stored] at other
      simp [new,Dispatcher.new,Services.new] at other
  · obtain ⟨final,reached,runs⟩ := run_any (step everyMinute bothIds operatorMnemonic)
      (new localConfigs (some bothRegistered)) foreignRestore
      (fun final => decide (final.origins.get secondId = some secondEntry.serviceManager ∧
        final.dispatcher.services.services.getCloned secondId = some secondService ∧
        final.dispatcher.submissionManager.hdIndexOf secondId = some 1 ∧
        final.dispatcher.serviceRegistry.entries = [firstEntry,secondEntry])) (by decide +kernel)
    obtain ⟨recorded,stored,signed,entries⟩ := of_decide_eq_true runs
    refine ⟨final,reached,?_⟩
    intro bound
    obtain ⟨_,hdIndex,index,listed⟩ := bound secondId _ secondService recorded stored
    rw [signed] at index
    cases index
    rw [entries] at listed
    exact absurd listed (by decide)

end Node
end Warpdrive.Dispatch
