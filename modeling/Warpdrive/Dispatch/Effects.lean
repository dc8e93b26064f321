import Warpdrive.Dispatch.Restore

/-! What each call of the dispatcher leaves behind, whether it fails or not: which services it can
touch, what it does to the registry, and what its own service has in the end. -/
namespace Warpdrive.Dispatch

open Warpdrive.Foundation Warpdrive.Types Warpdrive.Trigger

namespace Dispatcher

section Frame

variable (cron : CronLib) (prim : IdPrimitives) (mnemonic : Mnemonic)

/-- The definitions and signers of the other services are as before, and a definition that is new is
of this service. -/
structure Confines (id : ServiceId) (before after : Dispatcher) : Prop where
  services : ∀ other, other ≠ id →
    after.services.services.getCloned other = before.services.services.getCloned other
  signers : ∀ other, other ≠ id →
    after.submissionManager.signers.get other = before.submissionManager.signers.get other
  own : ∀ service, after.services.services.getCloned id = some service →
    before.services.services.getCloned id = some service ∨ service.id prim = id

theorem Confines.refl (id : ServiceId) (self : Dispatcher) : Confines prim id self self :=
  ⟨fun _ _ => rfl,fun _ _ => rfl,fun _ => .inl⟩

theorem Confines.trans (id : ServiceId) (first second third : Dispatcher) (one : Confines prim id first second)
    (two : Confines prim id second third) : Confines prim id first third := by
  refine ⟨fun other apart => (two.services other apart).trans (one.services other apart),
    fun other apart => (two.signers other apart).trans (one.signers other apart),?_⟩
  intro service stored
  rcases two.own service stored with before | named
  · exact one.own service before
  · exact .inr named

/-- A step that writes neither store. -/
theorem Confines.of_same (id : ServiceId) (before after : Dispatcher)
    (services : after.services.services = before.services.services)
    (signers : after.submissionManager.signers = before.submissionManager.signers) :
    Confines prim id before after := by
  refine ⟨fun other _ => ?_,fun other _ => ?_,fun service stored => .inl ?_⟩
  · rw [services]
  · rw [signers]
  · rw [← services]
    exact stored

/-- A step that removes the definition of the service, and nothing else. -/
theorem Confines.of_remove (id : ServiceId) (before after : Dispatcher)
    (services : after.services.services = before.services.services.remove id)
    (signers : after.submissionManager.signers = before.submissionManager.signers) :
    Confines prim id before after := by
  refine ⟨fun other apart => ?_,fun other _ => ?_,fun service stored => ?_⟩
  · rw [services]
    exact WavsDbTable.getCloned_remove_ne _ _ _ apart
  · rw [signers]
  · rw [services,WavsDbTable.getCloned_remove] at stored
    cases stored

theorem confines_saveService (outcomes : Outcomes) (service : Service) :
    Attempt.Leaves (Confines prim (service.id prim)) (saveService prim outcomes service) := by
  intro self
  refine ⟨?_,fun _ _ => rfl,?_⟩
  · intro other apart
    rw [services_saveService,WavsDbTable.getCloned_insert_ne _ _ _ _ apart]
  · intro other stored
    rw [services_saveService,WavsDbTable.getCloned_insert] at stored
    cases stored
    exact .inr rfl

theorem confines_addServiceKey (id : ServiceId) (hdIndex : UInt32) :
    Attempt.Leaves (Confines prim id) (addServiceKey mnemonic id (some hdIndex)) := by
  intro self
  refine ⟨fun _ _ => rfl,?_,fun _ => .inl⟩
  intro other apart
  rw [addServiceKey_run]
  rcases SubmissionManager.addServiceKey_cases mnemonic self.services id hdIndex self.submissionManager with
    ⟨_,_,same⟩ | ⟨signer,_,inserted⟩
  · simp only [same]
  · simp only [inserted,HashMap.get_insert_ne _ _ _ _ apart]

theorem confines_addServiceToManagers (outcomes : Outcomes) (service : Service) (hdIndex : UInt32) :
    Attempt.Leaves (Confines prim (service.id prim))
      (addServiceToManagers cron prim mnemonic outcomes service (some hdIndex)) := by
  have trans := Confines.trans prim (service.id prim)
  refine Attempt.leaves_bind trans _ _ (confines_addServiceKey prim mnemonic _ hdIndex) (fun _ => ?_)
  refine Attempt.leaves_bind trans _ _ (fun _ => .of_same prim _ _ _ rfl rfl) (fun _ => ?_)
  exact fun _ => .of_same prim _ _ _ rfl rfl

theorem confines_addServiceDirect (outcomes : Outcomes) (service : Service) (hdIndex : UInt32) :
    Attempt.Leaves (Confines prim (service.id prim))
      (addServiceDirect cron prim mnemonic outcomes service (some hdIndex)) := by
  have trans := Confines.trans prim (service.id prim)
  refine Attempt.leaves_bind trans _ _ (fun _ => .refl prim _ _) (fun _ => ?_)
  refine Attempt.leaves_bind trans _ _ (fun _ => .refl prim _ _) (fun _ => ?_)
  refine Attempt.leaves_bind trans _ _ (confines_saveService prim outcomes service) (fun _ => ?_)
  exact confines_addServiceToManagers cron prim mnemonic outcomes service hdIndex

theorem confines_registerAndAddService (outcomes : Outcomes) (service : Service) :
    Attempt.Leaves (Confines prim (service.id prim))
      (registerAndAddService cron prim mnemonic outcomes service) := by
  have trans := Confines.trans prim (service.id prim)
  refine Attempt.leaves_bind trans _ _ (fun _ => .of_same prim _ _ _ rfl rfl) (fun hdIndex => ?_)
  intro self
  have inner := confines_addServiceDirect cron prim mnemonic outcomes service hdIndex self
  unfold Attempt.undoing
  split
  · next state value called =>
    rw [called] at inner
    exact inner
  · next state error called =>
    rw [called] at inner
    exact .trans prim _ _ _ _ inner (.of_same prim _ _ _ rfl rfl)

theorem confines_removeServiceInner (outcomes : Outcomes) (id : ServiceId) :
    Attempt.Leaves (Confines prim id) (removeServiceInner cron outcomes id) := by
  have trans := Confines.trans prim id
  refine Attempt.leaves_bind trans _ _ (fun _ => .of_remove prim _ _ _ rfl rfl) (fun _ => ?_)
  refine Attempt.leaves_bind trans _ _ (fun _ => .of_same prim _ _ _ rfl rfl) (fun _ => ?_)
  exact fun _ => .of_same prim _ _ _ rfl rfl

theorem confines_removeService (outcomes : Outcomes) (id : ServiceId) :
    Attempt.Leaves (Confines prim id) (removeService cron prim outcomes id) := by
  have trans := Confines.trans prim id
  refine Attempt.leaves_bind trans _ _ (fun _ => .refl prim _ _) (fun manager => ?_)
  cases manager with
  | none => exact confines_removeServiceInner cron prim outcomes id
  | some manager =>
    refine Attempt.leaves_bind trans _ _ (fun _ => .of_same prim _ _ _ rfl rfl) (fun _ => ?_)
    exact confines_removeServiceInner cron prim outcomes id

/-- What a change can do to its service: the registry and the index of the key stay, and the stored
definition stays, goes or is the new one. -/
structure Revises (id : ServiceId) (hdIndex : UInt32) (service : Service) (before after : Dispatcher) : Prop where
  confined : Confines prim id before after
  registry : after.serviceRegistry = before.serviceRegistry
  keyed : before.submissionManager.hdIndexOf id = some hdIndex → after.submissionManager.hdIndexOf id = some hdIndex
  stored : after.services.services.getCloned id = before.services.services.getCloned id ∨
    after.services.services.getCloned id = none ∨ after.services.services.getCloned id = some service

theorem Revises.trans (id : ServiceId) (hdIndex : UInt32) (service : Service) (first second third : Dispatcher)
    (one : Revises prim id hdIndex service first second) (two : Revises prim id hdIndex service second third) :
    Revises prim id hdIndex service first third := by
  refine ⟨.trans prim id first second third one.confined two.confined,two.registry.trans one.registry,
    fun keyed => two.keyed (one.keyed keyed),?_⟩
  rcases two.stored with same | other
  · rw [same]
    exact one.stored
  · exact .inr other

theorem revises_addServiceToManagers (outcomes : Outcomes) (service : Service) (hdIndex : UInt32) :
    Attempt.Leaves (Revises prim (service.id prim) hdIndex service)
      (addServiceToManagers cron prim mnemonic outcomes service (some hdIndex)) := by
  have trans := Revises.trans prim (service.id prim) hdIndex service
  refine Attempt.leaves_bind trans _ _ ?_ (fun _ => ?_)
  · intro self
    refine ⟨confines_addServiceKey prim mnemonic _ hdIndex self,rfl,?_,.inl rfl⟩
    intro keyed
    rw [addServiceKey_run]
    unfold SubmissionManager.hdIndexOf at keyed ⊢
    rcases SubmissionManager.addServiceKey_cases mnemonic self.services (service.id prim) hdIndex
        self.submissionManager with ⟨_,_,same⟩ | ⟨signer,_,inserted⟩
    · simp only [same,keyed]
    · simp [inserted]
  refine Attempt.leaves_bind trans _ _ ?_ (fun _ => ?_)
  · exact fun _ => ⟨.of_same prim _ _ _ rfl rfl,rfl,fun keyed => keyed,.inl rfl⟩
  · exact fun _ => ⟨.of_same prim _ _ _ rfl rfl,rfl,fun keyed => keyed,.inl rfl⟩

/-- Once its checks have passed, a change revises its service. -/
theorem revises_change (outcomes : Outcomes) (service : Service) (hdIndex : UInt32) :
    Attempt.Leaves (Revises prim (service.id prim) hdIndex service)
      (do storeComponents outcomes service
          removeServiceInner cron outcomes (service.id prim)
          saveService prim outcomes service
          addServiceToManagers cron prim mnemonic outcomes service (some hdIndex) : Call Unit) := by
  have trans := Revises.trans prim (service.id prim) hdIndex service
  refine Attempt.leaves_bind trans _ _ ?_ (fun _ => ?_)
  · exact fun _ => ⟨.of_same prim _ _ _ rfl rfl,rfl,fun keyed => keyed,.inl rfl⟩
  refine Attempt.leaves_bind trans _ _ ?_ (fun _ => ?_)
  · refine Attempt.leaves_bind trans _ _ ?_ (fun _ => ?_)
    · intro self
      have gone := WavsDbTable.getCloned_remove self.services.services (service.id prim)
      exact ⟨.of_remove prim _ _ _ rfl rfl,rfl,fun keyed => keyed,.inr (.inl gone)⟩
    refine Attempt.leaves_bind trans _ _ ?_ (fun _ => ?_)
    · exact fun _ => ⟨.of_same prim _ _ _ rfl rfl,rfl,fun keyed => keyed,.inl rfl⟩
    · exact fun _ => ⟨.of_same prim _ _ _ rfl rfl,rfl,fun keyed => keyed,.inl rfl⟩
  refine Attempt.leaves_bind trans _ _ ?_ (fun _ => ?_)
  · intro self
    refine ⟨confines_saveService prim outcomes service self,rfl,fun keyed => keyed,.inr (.inr ?_)⟩
    rw [services_saveService]
    exact WavsDbTable.getCloned_insert _ _ _
  · exact revises_addServiceToManagers cron prim mnemonic outcomes service hdIndex

/-- The checks of a change touch nothing, and pass for a document of the service at the index of its
signer. -/
theorem checkChange_ok (info : Bool) (outcomes : Outcomes) (id : ServiceId) (service : Service)
    (self middle : Dispatcher) (hdIndex : UInt32)
    (passed : checkChange prim info outcomes id service self = (middle,.ok hdIndex)) :
    middle = self ∧ service.id prim = id ∧ self.submissionManager.hdIndexOf id = some hdIndex := by
  obtain ⟨_,first,named,signed⟩ := (Attempt.bind_ok _ _ _ _ _).mp passed
  rw [Attempt.checks_run] at named
  split at named
  · next same =>
    cases named
    obtain ⟨signer,second,keyed,logged⟩ := (Attempt.bind_ok _ _ _ _ _).mp signed
    rw [Attempt.checks_run] at keyed
    have found : self.submissionManager.signers.get id = some signer ∧ second = self := by
      unfold SubmissionManager.getServiceSigner at keyed
      cases signers : self.submissionManager.signers.get id with
      | none =>
        rw [signers] at keyed
        cases keyed
      | some other =>
        rw [signers] at keyed
        cases keyed
        exact ⟨rfl,rfl⟩
    obtain ⟨found,rfl⟩ := found
    have index : second.submissionManager.hdIndexOf id = some signer.hdIndex := by
      rw [SubmissionManager.hdIndexOf,found]
      rfl
    cases info with
    | false =>
      cases logged
      exact ⟨rfl,same,index⟩
    | true =>
      obtain ⟨old,third,stored,hashes⟩ := (Attempt.bind_ok _ _ _ _ _).mp logged
      obtain ⟨_,fourth,hashed,rest⟩ := (Attempt.bind_ok _ _ _ _ _).mp hashes
      obtain ⟨_,fifth,again,result⟩ := (Attempt.bind_ok _ _ _ _ _).mp rest
      have one : third = second := congrArg Prod.fst stored.symm
      have two : fourth = third := congrArg Prod.fst hashed.symm
      have three : fifth = fourth := congrArg Prod.fst again.symm
      have four : middle = fifth := congrArg Prod.fst result.symm
      have value : signer.hdIndex = hdIndex := by
        cases result
        rfl
      rw [← value]
      exact ⟨four.trans (three.trans (two.trans one)),same,index⟩
  · cases named

/-- With tracing of `INFO` the checks look the old definition up. -/
theorem checkChange_stored (outcomes : Outcomes) (id : ServiceId) (service : Service) (self middle : Dispatcher)
    (hdIndex : UInt32) (info : Bool)
    (passed : checkChange prim info outcomes id service self = (middle,.ok hdIndex)) (logged : info = true) :
    self.services.services.getCloned id ≠ none := by
  subst logged
  obtain ⟨_,first,named,signed⟩ := (Attempt.bind_ok _ _ _ _ _).mp passed
  obtain ⟨_,second,keyed,hashes⟩ := (Attempt.bind_ok _ _ _ _ _).mp signed
  obtain ⟨old,third,stored,_⟩ := (Attempt.bind_ok _ _ _ _ _).mp hashes
  have one : first = self := congrArg Prod.fst named.symm
  have two : second = first := congrArg Prod.fst keyed.symm
  subst one two
  intro absent
  rw [Attempt.checks_run,Services.get,absent] at stored
  cases stored

theorem checkChange_state (info : Bool) (outcomes : Outcomes) (id : ServiceId) (service : Service) :
    Attempt.Leaves (fun before after : Dispatcher => after = before) (checkChange prim info outcomes id service) := by
  have trans : ∀ first second third : Dispatcher, second = first → third = second → third = first :=
    fun _ _ _ one two => two.trans one
  refine Attempt.leaves_bind trans _ _ (fun _ => rfl) (fun _ => ?_)
  refine Attempt.leaves_bind trans _ _ (fun _ => rfl) (fun signer => ?_)
  cases info with
  | false => exact fun _ => rfl
  | true =>
    refine Attempt.leaves_bind trans _ _ (fun _ => rfl) (fun _ => ?_)
    refine Attempt.leaves_bind trans _ _ (fun _ => rfl) (fun _ => ?_)
    exact Attempt.leaves_bind trans _ _ (fun _ => rfl) (fun _ _ => rfl)

/-- What `change_service` leaves behind, whether it fails or not. -/
theorem changeService_effect (info : Bool) (outcomes : Outcomes) (id : ServiceId) (fetched : Except String Service)
    (self : Dispatcher) :
    (changeService cron prim mnemonic info outcomes id fetched self).1 = self ∨
      ∃ service hdIndex, fetched = .ok service ∧ service.id prim = id ∧
        self.submissionManager.hdIndexOf id = some hdIndex ∧
        Revises prim id hdIndex service self (changeService cron prim mnemonic info outcomes id fetched self).1 := by
  cases fetched with
  | error error => exact .inl rfl
  | ok service =>
    change (changeServiceInner cron prim mnemonic info outcomes id service self).1 = self ∨ ∃ other hdIndex,
      Except.ok service = Except.ok other ∧ other.id prim = id ∧ self.submissionManager.hdIndexOf id = some hdIndex ∧
        Revises prim id hdIndex other self (changeServiceInner cron prim mnemonic info outcomes id service self).1
    unfold changeServiceInner
    cases called : checkChange prim info outcomes id service self with
    | mk middle outcome =>
      cases outcome with
      | error error =>
        have same := checkChange_state prim info outcomes id service self
        rw [called] at same
        rw [Attempt.bind_of_error _ _ _ _ _ called]
        exact .inl same
      | ok hdIndex =>
        obtain ⟨rfl,named,keyed⟩ := checkChange_ok prim info outcomes id service self middle hdIndex called
        rw [Attempt.bind_of_ok _ _ _ _ _ called]
        subst named
        exact .inr ⟨service,hdIndex,rfl,rfl,keyed,revises_change cron prim mnemonic outcomes service hdIndex _⟩

theorem registry_addServiceDirect (outcomes : Outcomes) (service : Service) (hdIndex : Option UInt32) :
    Attempt.Leaves (fun before after : Dispatcher => after.serviceRegistry = before.serviceRegistry)
      (addServiceDirect cron prim mnemonic outcomes service hdIndex) := by
  have trans : ∀ first second third : Dispatcher, second.serviceRegistry = first.serviceRegistry →
      third.serviceRegistry = second.serviceRegistry → third.serviceRegistry = first.serviceRegistry :=
    fun _ _ _ one two => two.trans one
  refine Attempt.leaves_bind trans _ _ (fun _ => rfl) (fun _ => ?_)
  refine Attempt.leaves_bind trans _ _ (fun _ => rfl) (fun _ => ?_)
  refine Attempt.leaves_bind trans _ _ (fun _ => rfl) (fun _ => ?_)
  exact fun self => (leaves_addServiceToManagers cron prim mnemonic outcomes service hdIndex self).2

/-- A service that is added is stored, and its signer has the given index. -/
theorem addServiceDirect_ok (outcomes : Outcomes) (service : Service) (hdIndex : UInt32) (self after : Dispatcher)
    (added : addServiceDirect cron prim mnemonic outcomes service (some hdIndex) self = (after,.ok ())) :
    after.services.services.getCloned (service.id prim) = some service ∧
      after.submissionManager.hdIndexOf (service.id prim) = some hdIndex := by
  obtain ⟨_,_,_,first⟩ := (Attempt.bind_ok _ _ _ _ _).mp added
  obtain ⟨_,stored,_,second⟩ := (Attempt.bind_ok _ _ _ _ _).mp first
  obtain ⟨_,saved,saves,third⟩ := (Attempt.bind_ok _ _ _ _ _).mp second
  have inserted := services_saveService prim outcomes service stored
  rw [saves] at inserted
  have present : saved.services.services.getCloned (service.id prim) = some service := by
    rw [inserted]
    exact WavsDbTable.getCloned_insert _ _ _
  obtain ⟨_,effect⟩ := addServiceToManagers_ok cron prim mnemonic outcomes service saved hdIndex present
  rw [third] at effect
  obtain ⟨submissions,signer,reached,signers⟩ := effect rfl
  change after = _ at reached
  rw [reached]
  refine ⟨present,?_⟩
  simp only [SubmissionManager.hdIndexOf,signers]
  simp

/-- What `add_service` leaves behind: nothing when the manager of the document is registered; else
it touches no other service, loses no entry, and on success the service is stored with the key of
its entry. -/
theorem registerAndAddService_effect (outcomes : Outcomes) (service : Service) (self : Dispatcher) :
    (self.serviceRegistry.state.Lists service.manager →
        (registerAndAddService cron prim mnemonic outcomes service self).1 = self ∧
        ∃ error, (registerAndAddService cron prim mnemonic outcomes service self).2 = .error error) ∧
      (¬self.serviceRegistry.state.Lists service.manager →
        ∀ entry ∈ self.serviceRegistry.entries,
          entry ∈ (registerAndAddService cron prim mnemonic outcomes service self).1.serviceRegistry.entries) ∧
      ((registerAndAddService cron prim mnemonic outcomes service self).2 = .ok () →
        (registerAndAddService cron prim mnemonic outcomes service self).1.services.services.getCloned
            (service.id prim) = some service ∧
          ∃ hdIndex, (registerAndAddService cron prim mnemonic outcomes service self).1.submissionManager.hdIndexOf
              (service.id prim) = some hdIndex ∧
            ⟨service.manager,hdIndex⟩ ∈
              (registerAndAddService cron prim mnemonic outcomes service self).1.serviceRegistry.entries) := by
  rcases registerAndAddService_cases cron prim mnemonic outcomes service self with
    ⟨reason,run,cause⟩ | ⟨free,next,registry,fits,pushed,run⟩
  · rw [run]
    exact ⟨fun _ => ⟨rfl,_,rfl⟩,fun _ _ member => member,fun impossible => by cases impossible⟩
  · refine ⟨fun listed => absurd listed free,?_⟩
    have grown : ∀ (registry : ServiceRegistry) entry, registry.state = self.serviceRegistry.state.push
        service.manager next free → entry ∈ self.serviceRegistry.entries → entry ∈ registry.entries := by
      intro registry entry same member
      rw [ServiceRegistry.entries,same]
      exact List.mem_append_left _ member
    rcases run with ⟨reason,written,run⟩ | ⟨written,run⟩
    · rw [run]
      exact ⟨fun _ entry member => grown _ entry pushed member,fun impossible => by cases impossible⟩
    · rw [run,Attempt.undoing]
      have kept := registry_addServiceDirect cron prim mnemonic outcomes service
        (some self.serviceRegistry.state.nextHdIndex) {self with serviceRegistry := registry}
      split
      · next after value added =>
        rw [added] at kept
        have state : after.serviceRegistry.state = self.serviceRegistry.state.push service.manager next free := by
          rw [kept]
          exact pushed
        obtain ⟨stored,keyed⟩ := addServiceDirect_ok cron prim mnemonic outcomes service _ _ after added
        refine ⟨fun _ entry member => grown _ entry state member,fun _ => ⟨stored,_,keyed,?_⟩⟩
        rw [ServiceRegistry.entries,state]
        exact List.mem_append_right _ List.mem_cons_self
      · next after error failed =>
        rw [failed] at kept
        refine ⟨?_,fun impossible => by cases impossible⟩
        intro _ entry member
        have state : after.serviceRegistry.state = self.serviceRegistry.state.push service.manager next free := by
          rw [kept]
          exact pushed
        rw [onRegistry_run]
        change entry ∈ (ServiceRegistry.remove _ service.manager after.serviceRegistry).1.entries
        rw [ServiceRegistry.entries_remove_push _ _ next _ free _ state]
        exact member

/-- With its document there, `add_service` registers and adds it, and returns it. -/
theorem addService_fetched (outcomes : Outcomes) (service : Service) (self : Dispatcher) :
    addService cron prim mnemonic outcomes (.ok service) self =
      ((registerAndAddService cron prim mnemonic outcomes service self).1,
        (registerAndAddService cron prim mnemonic outcomes service self).2.map (fun _ => service)) := by
  change (registerAndAddService cron prim mnemonic outcomes service >>= fun _ => pure service : Call Service) self = _
  cases called : registerAndAddService cron prim mnemonic outcomes service self with
  | mk after outcome =>
    cases outcome with
    | error error =>
      rw [Attempt.bind_of_error _ _ _ _ _ called]
      rfl
    | ok done =>
      rw [Attempt.bind_of_ok _ _ _ _ _ called]
      rfl

/-- What `remove_service` leaves behind: only entries of the manager it removes are lost, and the
service is not stored, unless it was and the registry could not be written. -/
theorem removeService_effect (outcomes : Outcomes) (id : ServiceId) (self : Dispatcher) :
    (removeService cron prim outcomes id self).1.submissionManager = self.submissionManager ∧
      (∀ entry ∈ self.serviceRegistry.entries, self.managerToRemove prim id ≠ some entry.serviceManager →
        entry ∈ (removeService cron prim outcomes id self).1.serviceRegistry.entries) ∧
      ((self.services.contains id = true → outcomes.removeWrite = .ok ()) →
        (removeService cron prim outcomes id self).1.services.services.getCloned id = none) := by
  have inner : ∀ state : Dispatcher, (removeServiceInner cron outcomes id state).1.submissionManager =
      state.submissionManager ∧
      (removeServiceInner cron outcomes id state).1.serviceRegistry = state.serviceRegistry := by
    intro state
    have leaves : Attempt.Leaves (fun before after : Dispatcher =>
        after.submissionManager = before.submissionManager ∧ after.serviceRegistry = before.serviceRegistry)
        (removeServiceInner cron outcomes id) := by
      have trans : ∀ first second third : Dispatcher,
          (second.submissionManager = first.submissionManager ∧ second.serviceRegistry = first.serviceRegistry) →
          (third.submissionManager = second.submissionManager ∧ third.serviceRegistry = second.serviceRegistry) →
          third.submissionManager = first.submissionManager ∧ third.serviceRegistry = first.serviceRegistry :=
        fun _ _ _ one two => ⟨two.1.trans one.1,two.2.trans one.2⟩
      refine Attempt.leaves_bind trans _ _ (fun _ => ⟨rfl,rfl⟩) (fun _ => ?_)
      exact Attempt.leaves_bind trans _ _ (fun _ => ⟨rfl,rfl⟩) (fun _ _ => ⟨rfl,rfl⟩)
    exact leaves state
  have gone : ∀ state : Dispatcher,
      (removeServiceInner cron outcomes id state).1.services.services.getCloned id = none := by
    intro state
    rcases removeServiceInner_cases cron outcomes id state with ⟨after,error,result,table⟩ | ⟨after,result,table,_⟩
    · rw [result,table]
      exact WavsDbTable.getCloned_remove _ _
    · rw [result,table]
      exact WavsDbTable.getCloned_remove _ _
  rw [removeService,Attempt.bind_of_ok _ _ _ _ _ (Attempt.reads_run _ self)]
  cases found : self.managerToRemove prim id with
  | none =>
    refine ⟨(inner self).1,?_,fun _ => gone self⟩
    intro entry member _
    change entry ∈ (removeServiceInner cron outcomes id self).1.serviceRegistry.entries
    rw [(inner self).2]
    exact member
  | some manager =>
    have kept : ∀ entry ∈ self.serviceRegistry.entries, some manager ≠ some entry.serviceManager →
        entry ∈ (ServiceRegistry.remove outcomes.removeWrite manager self.serviceRegistry).1.entries := by
      intro entry member differ
      exact (ServiceRegistry.mem_remove _ _ _ entry).mpr ⟨member,fun same => differ (congrArg some same.symm)⟩
    cases called : onRegistry (ServiceRegistry.remove outcomes.removeWrite manager) self with
    | mk middle outcome =>
      have reached : middle = {self with serviceRegistry := (ServiceRegistry.remove outcomes.removeWrite manager
          self.serviceRegistry).1} := by
        have run := onRegistry_run self (ServiceRegistry.remove outcomes.removeWrite manager)
        rw [called] at run
        exact congrArg Prod.fst run
      cases outcome with
      | error error =>
        simp only
        rw [Attempt.bind_of_error _ _ _ _ _ called]
        subst reached
        refine ⟨rfl,kept,?_⟩
        intro safe
        by_cases present : self.services.contains id = true
        · have written := safe present
          have run := onRegistry_run self (ServiceRegistry.remove outcomes.removeWrite manager)
          rw [called,written,ServiceRegistry.outcome_remove] at run
          cases congrArg Prod.snd run
        · simpa [Services.contains] using present
      | ok done =>
        simp only
        rw [Attempt.bind_of_ok _ _ _ _ _ called]
        refine ⟨?_,?_,fun _ => gone middle⟩
        · rw [(inner middle).1,reached]
        · intro entry member differ
          rw [(inner middle).2,reached]
          exact kept entry member differ

end Frame
end Dispatcher
end Warpdrive.Dispatch
