import Warpdrive.Dispatch.Calls
import Warpdrive.Trigger.Consistency

/-! What a failed registration and a failed change of a service leave behind. Neither undoes what
it has written to the services table, so each is without effect exactly when it fails before its
first write there. -/
namespace Warpdrive.Dispatch.Dispatcher

open Warpdrive.Foundation Warpdrive.Types Warpdrive.Trigger

variable {cron : CronLib} {prim : IdPrimitives} {mnemonic : Mnemonic}

/-- The services table, the lookup maps with their schedulers and the registry's entries are as
before. -/
structure Unchanged (before after : Dispatcher) : Prop where
  services : after.services = before.services
  lookup : after.triggerManager.lookup.toLookupMaps = before.triggerManager.lookup.toLookupMaps
  entries : after.serviceRegistry.entries = before.serviceRegistry.entries

variable (prim) in
/-- The manager has an entry or no index is left for it; or the entry is written, and then the
service is stored already or a component of it is not to be had. -/
def RefusedBeforeInsert (self : Dispatcher) (outcomes : Outcomes) (service : Service) : Prop :=
  self.serviceRegistry.state.Lists service.manager ∨
    checkedSucc self.serviceRegistry.state.nextHdIndex = none ∨
    outcomes.appendWrite = .ok () ∧ (self.services.contains (service.id prim) = true ∨
      ∃ error, storeComponentsForService outcomes.storeComponentFromSource service = .error error)

/-- A failing `add_service_direct` has done nothing, or has stored the service. -/
theorem addServiceDirect_error (outcomes : Outcomes) (service : Service) (hdIndex : Option UInt32)
    (self after : Dispatcher) (error : DispatcherError)
    (failed : addServiceDirect cron prim mnemonic outcomes service hdIndex self = (after,.error error)) :
    (after = self ∧ (self.services.contains (service.id prim) = true ∨
        ∃ error, storeComponentsForService outcomes.storeComponentFromSource service = .error error)) ∨
      (self.services.contains (service.id prim) = false ∧
        storeComponentsForService outcomes.storeComponentFromSource service = .ok () ∧
        after.services.contains (service.id prim) = true) := by
  have saved : ∀ state : Dispatcher, state.services.services =
      self.services.services.insert (service.id prim) service →
      state.services.contains (service.id prim) = true := by
    intro state stored
    simp [Services.contains,stored]
  rcases (Attempt.bind_error _ _ _ _ _).mp failed with present | ⟨_,_,absent,failed⟩
  · rw [Attempt.checks_run] at present
    split at present
    · next stored =>
      cases present
      exact .inl ⟨rfl,.inl stored⟩
    · cases present
  rw [Attempt.checks_run] at absent
  split at absent
  · cases absent
  next absentBefore =>
  cases absent
  have fresh : self.services.contains (service.id prim) = false := by simpa using absentBefore
  rcases (Attempt.bind_error _ _ _ _ _).mp failed with unstored | ⟨_,_,stored,failed⟩
  · rw [storeComponents_run] at unstored
    cases downloads : storeComponentsForService outcomes.storeComponentFromSource service with
    | ok done =>
      rw [downloads] at unstored
      cases unstored
    | error reason =>
      rw [downloads] at unstored
      cases unstored
      exact .inl ⟨rfl,.inr ⟨reason,rfl⟩⟩
  rw [storeComponents_run] at stored
  cases downloads : storeComponentsForService outcomes.storeComponentFromSource service with
  | error reason =>
    rw [downloads] at stored
    cases stored
  | ok done =>
    rw [downloads] at stored
    cases stored
    refine .inr ⟨fresh,rfl,?_⟩
    have stored := services_saveService prim outcomes service self
    rcases (Attempt.bind_error _ _ _ _ _).mp failed with unsaved | ⟨_,middle,written,failed⟩
    · rw [unsaved] at stored
      exact saved after stored
    · rw [written] at stored
      have kept := leaves_addServiceToManagers cron prim mnemonic outcomes service hdIndex middle
      rw [failed] at kept
      apply saved
      rw [kept.1]
      exact stored

/-- A registration that fails is without effect exactly when it is refused before the service is
stored. -/
theorem registration_undone_iff (outcomes : Outcomes) (service : Service) (before after : Dispatcher)
    (error : DispatcherError)
    (failed : registerAndAddService cron prim mnemonic outcomes service before = (after,.error error)) :
    Unchanged before after ↔ before.RefusedBeforeInsert prim outcomes service := by
  unfold RefusedBeforeInsert
  rcases registerAndAddService_cases cron prim mnemonic outcomes service before with
    ⟨reason,run,cause⟩ | ⟨free,next,registry,fits,pushed,run⟩
  · rw [run] at failed
    cases failed
    refine iff_of_true ⟨rfl,rfl,rfl⟩ ?_
    rcases cause with listed | used
    · exact .inl listed
    · exact .inr (.inl used)
  · have open' : ¬checkedSucc before.serviceRegistry.state.nextHdIndex = none := by simp [fits]
    simp only [free,open',false_or]
    rcases run with ⟨reason,written,run⟩ | ⟨written,run⟩
    · rw [run] at failed
      cases failed
      refine iff_of_false ?_ (fun claim => nomatch written.symm.trans claim.1)
      intro unchanged
      have entries := unchanged.entries
      unfold ServiceRegistry.entries at entries
      rw [pushed] at entries
      exact List.cons_ne_nil _ _ (List.append_right_eq_self.mp entries)
    · rw [run,Attempt.undoing] at failed
      split at failed
      · cases failed
      · next middle reason stopped =>
        cases failed
        rcases addServiceDirect_error outcomes service _ _ middle error stopped with
          ⟨rfl,cause⟩ | ⟨absent,downloads,stored⟩
        · refine iff_of_true ⟨rfl,rfl,?_⟩ ⟨written,cause⟩
          exact ServiceRegistry.entries_remove_push _ _ next _ free _ pushed
        · refine iff_of_false ?_ ?_
          · intro unchanged
            change before.services.contains (service.id prim) = false at absent
            change middle.services.contains (service.id prim) = true at stored
            have services : middle.services = before.services := unchanged.services
            rw [services,absent] at stored
            cases stored
          · rintro ⟨_,present | ⟨cause,failed⟩⟩
            · exact Bool.noConfusion (present.symm.trans absent)
            · rw [downloads] at failed
              cases failed

def launched : Dispatcher := .new ⟨.new,.new,.new,.new⟩ none

def withoutComponents : Outcomes :=
  {reachable with storeComponentFromSource := fun _ => .error ⟨"connection refused"⟩}

def connects : Outcomes := {reachable with connected := [(testnet,idleController)]}

theorem missing_component_undone :
    ∃ after error, registerAndAddService everyMinute deployedIds operatorMnemonic withoutComponents
      watchingService launched = (after,.error error) ∧ Unchanged launched after := by
  have failed : registerAndAddService everyMinute deployedIds operatorMnemonic withoutComponents
      watchingService launched = ((registerAndAddService everyMinute deployedIds operatorMnemonic
        withoutComponents watchingService launched).1,.error (.engine ⟨"connection refused"⟩)) :=
    Prod.ext rfl (by decide +kernel)
  exact ⟨_,_,failed,(registration_undone_iff _ _ _ _ _ failed).mpr
    (.inr (.inr ⟨rfl,.inr ⟨_,rfl⟩⟩))⟩

theorem missing_controller_stays :
    ∃ after, registerAndAddService everyMinute deployedIds operatorMnemonic reachable watchingService launched =
        (after,.error (.trigger (.stellarMissingClient testnet))) ∧ reachable.removeWrite = .ok () ∧
      ¬Unchanged launched after ∧
      (registerAndAddService everyMinute deployedIds operatorMnemonic connects watchingService after).2 =
        .error (.serviceRegistered deployedId) := by
  refine ⟨(registerAndAddService everyMinute deployedIds operatorMnemonic reachable watchingService launched).1,
    Prod.ext rfl (by decide +kernel),rfl,?_,by decide +kernel⟩
  intro unchanged
  have stored : (registerAndAddService everyMinute deployedIds operatorMnemonic reachable watchingService
      launched).1.services.contains deployedId = true := by
    decide +kernel
  rw [unchanged.services] at stored
  exact absurd stored (by decide +kernel)

variable (prim) in
/-- The document is for another service, the service has no signer, a definition cannot be hashed
for the log, or a component is not to be had. -/
def RefusesChange (self : Dispatcher) (info : Bool) (outcomes : Outcomes) (id : ServiceId)
    (old service : Service) : Prop :=
  service.id prim ≠ id ∨ self.submissionManager.signers.get id = none ∨
    (info = true ∧ ((∃ error, outcomes.hash old = .error error) ∨ ∃ error, outcomes.hash service = .error error)) ∨
    ∃ error, storeComponentsForService outcomes.storeComponentFromSource service = .error error

variable (prim) in
/-- The change ends before the old definition is removed. -/
def EndsBeforeRemoval (self : Dispatcher) (info : Bool) (outcomes : Outcomes) (id : ServiceId) (old : Service) :
    Except String Service → Prop
  | .error _ => True
  | .ok service => self.RefusesChange prim info outcomes id old service

/-- The stored definition, the lookup maps with their schedulers and the subscription are those of
the old definition. -/
structure StillRuns (before after : Dispatcher) (id : ServiceId) (old : Service) : Prop where
  stored : after.services.services.getCloned id = some old
  lookup : after.triggerManager.lookup.toLookupMaps = before.triggerManager.lookup.toLookupMaps
  subscribed : Subscribed after.aggregatorCommands id = true

/-- The checks of a change touch nothing, and pass exactly when none of them refuses it. -/
theorem checkChange_cases (info : Bool) (outcomes : Outcomes) (id : ServiceId) (old service : Service)
    (self : Dispatcher) (stored : self.services.services.getCloned id = some old) :
    (∃ error, (checkChange prim info outcomes id service self = (self,.error error)) ∧
        self.RefusesChange prim info outcomes id old service) ∨
      ∃ signer, self.submissionManager.signers.get id = some signer ∧
        checkChange prim info outcomes id service self = (self,.ok signer.hdIndex) ∧ service.id prim = id ∧
        (info = true → (∀ error, outcomes.hash old ≠ .error error) ∧ ∀ error, outcomes.hash service ≠ .error error) := by
  have found : self.services.get id = .ok old := by simp only [Services.get,stored]
  by_cases same : service.id prim = id
  · cases keyed : self.submissionManager.signers.get id with
    | none =>
      refine .inl ⟨.submission (.missingServiceKey id),?_,.inr (.inl keyed)⟩
      simp [checkChange,Attempt.bind_run,Attempt.andThen,same,SubmissionManager.getServiceSigner,keyed,
        Except.mapError]
    | some signer =>
      have ready : checkChange prim info outcomes id service self =
          (if info then do
            let oldService ← Attempt.checks (fun self => (self.services.get id).mapError .unknownService)
            .checks (fun _ => (outcomes.hash oldService).mapError .service)
            .checks (fun _ => (outcomes.hash service).mapError .service)
            pure signer.hdIndex
          else pure signer.hdIndex : Call UInt32) self := by
        simp [checkChange,Attempt.bind_run,Attempt.andThen,same,SubmissionManager.getServiceSigner,keyed,
          Except.mapError]
      rw [ready]
      cases info with
      | false => exact .inr ⟨signer,rfl,rfl,same,fun impossible => by cases impossible⟩
      | true =>
        simp only [if_true,Attempt.bind_run,Attempt.andThen,Attempt.checks_run,found,Except.mapError]
        cases hashed : outcomes.hash old with
        | error error => exact .inl ⟨_,rfl,.inr (.inr (.inl ⟨rfl,.inl ⟨error,hashed⟩⟩))⟩
        | ok done =>
          cases again : outcomes.hash service with
          | error error => exact .inl ⟨_,rfl,.inr (.inr (.inl ⟨rfl,.inr ⟨error,again⟩⟩))⟩
          | ok done =>
            exact .inr ⟨signer,rfl,rfl,same,fun _ =>
              ⟨(fun _ impossible => by cases impossible),fun _ impossible => by cases impossible⟩⟩
  · refine .inl ⟨.changeIdMismatch id (service.id prim),?_,.inl same⟩
    simp [checkChange,Attempt.bind_run,Attempt.andThen,same]

/-- Once the old definition is removed, a failing change leaves the service without a stored
definition or without its subscription. -/
theorem not_stillRuns_of_removed (outcomes : Outcomes) (id : ServiceId) (old service : Service)
    (hdIndex : Option UInt32) (before after : Dispatcher) (error : DispatcherError)
    (failed : (do removeServiceInner cron outcomes id
                  saveService prim outcomes service
                  addServiceToManagers cron prim mnemonic outcomes service hdIndex : Call Unit) before =
      (after,.error error)) : ¬StillRuns before after id old := by
  intro runs
  rcases removeServiceInner_cases cron outcomes id before with
    ⟨middle,reason,stopped,table⟩ | ⟨middle,removed,_,commands⟩
  · rw [Attempt.bind_of_error _ _ _ _ _ stopped] at failed
    cases failed
    have stored := runs.stored
    rw [table] at stored
    simp [Services.remove] at stored
  · have silent : Subscribed middle.aggregatorCommands id = false := by
      rw [commands,subscribed_unsubscribe,if_pos rfl]
    have kept : after.aggregatorCommands = middle.aggregatorCommands := by
      rw [Attempt.bind_of_ok _ _ _ _ _ removed] at failed
      rcases (Attempt.bind_error _ _ _ _ _).mp failed with unsaved | ⟨_,last,saved,failed⟩
      · have reached : after = (saveService prim outcomes service middle).1 := by rw [unsaved]
        rw [reached,saveService_run]
      · have reached : last = (saveService prim outcomes service middle).1 := by rw [saved]
        rw [addServiceToManagers_error cron prim mnemonic outcomes service last hdIndex after error failed,
          reached,saveService_run]
    have subscribed := runs.subscribed
    rw [kept,silent] at subscribed
    cases subscribed

/-- A failed change leaves the old service running exactly when it ends before the removal. -/
theorem failed_change_harmless_iff (info : Bool) (outcomes : Outcomes) (id : ServiceId)
    (fetched : Except String Service) (old : Service) (before after : Dispatcher) (error : DispatcherError)
    (stored : before.services.services.getCloned id = some old)
    (subscribed : Subscribed before.aggregatorCommands id = true)
    (failed : changeService cron prim mnemonic info outcomes id fetched before = (after,.error error)) :
    StillRuns before after id old ↔ before.EndsBeforeRemoval prim info outcomes id old fetched := by
  have same : after = before → StillRuns before after id old := by
    rintro rfl
    exact ⟨stored,rfl,subscribed⟩
  unfold EndsBeforeRemoval
  cases fetched with
  | error reason =>
    cases failed
    exact iff_of_true (same rfl) trivial
  | ok service =>
    change changeServiceInner cron prim mnemonic info outcomes id service before = _ at failed
    unfold changeServiceInner at failed
    rcases checkChange_cases info outcomes id old service before stored with
      ⟨reason,refused,cause⟩ | ⟨signer,keyed,checked,named,hashed⟩
    · rw [Attempt.bind_of_error _ _ _ _ _ refused] at failed
      cases failed
      exact iff_of_true (same rfl) cause
    · rw [Attempt.bind_of_ok _ _ _ _ _ checked] at failed
      cases downloads : storeComponentsForService outcomes.storeComponentFromSource service with
      | error reason =>
        rw [Attempt.bind_of_error _ _ _ before (.engine reason)
          (by rw [storeComponents_run,downloads]; rfl)] at failed
        cases failed
        exact iff_of_true (same rfl) (.inr (.inr (.inr ⟨reason,downloads⟩)))
      | ok done =>
        rw [Attempt.bind_of_ok _ _ _ before () (by rw [storeComponents_run,downloads]; rfl)] at failed
        refine iff_of_false (not_stillRuns_of_removed outcomes id old service _ before after error failed) ?_
        rintro (other | unkeyed | ⟨logged,hash⟩ | ⟨reason,missing⟩)
        · exact other named
        · rw [keyed] at unkeyed
          cases unkeyed
        · rcases hash with ⟨reason,unhashed⟩ | ⟨reason,unhashed⟩
          · exact (hashed logged).1 reason unhashed
          · exact (hashed logged).2 reason unhashed
        · rw [downloads] at missing
          cases missing

/-- The deployed service, registered. -/
def deployed : Dispatcher :=
  (registerAndAddService everyMinute deployedIds operatorMnemonic reachable deployedService launched).1

theorem missing_component_harmless :
    ∃ after error, changeService everyMinute deployedIds operatorMnemonic true withoutComponents deployedId
      (.ok watchingService) deployed = (after,.error error) ∧ StillRuns deployed after deployedId deployedService := by
  have failed : changeService everyMinute deployedIds operatorMnemonic true withoutComponents deployedId
      (.ok watchingService) deployed = ((changeService everyMinute deployedIds operatorMnemonic true
        withoutComponents deployedId (.ok watchingService) deployed).1,.error (.engine ⟨"connection refused"⟩)) :=
    Prod.ext rfl (by decide +kernel)
  exact ⟨_,_,failed,(failed_change_harmless_iff _ _ _ _ _ _ _ _ (by decide +kernel) (by decide +kernel)
    failed).mpr (.inr (.inr (.inr ⟨_,rfl⟩)))⟩

theorem missing_controller_stops_service :
    deployed.services.services.getCloned deployedId = some deployedService ∧
      Subscribed deployed.aggregatorCommands deployedId = true ∧
      ∃ after, changeService everyMinute deployedIds operatorMnemonic true reachable deployedId
          (.ok watchingService) deployed = (after,.error (.trigger (.stellarMissingClient testnet))) ∧
        ¬StillRuns deployed after deployedId deployedService ∧
        after.services.services.getCloned deployedId = some watchingService ∧
        Subscribed after.aggregatorCommands deployedId = false := by
  refine ⟨by decide +kernel,by decide +kernel,
    (changeService everyMinute deployedIds operatorMnemonic true reachable deployedId (.ok watchingService) deployed).1,
    Prod.ext rfl (by decide +kernel),?_,by decide +kernel,by decide +kernel⟩
  intro runs
  exact absurd runs.subscribed (by decide +kernel)

end Warpdrive.Dispatch.Dispatcher
