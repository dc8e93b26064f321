import Warpdrive.Dispatch.Restore

/-! Which registry entries the restore forgets. The loop takes every failed call of an EVM service
manager for a sign that the contract is gone, also one that the chain did not answer. -/
namespace Warpdrive.Dispatch

open Warpdrive.Foundation Warpdrive.Types Warpdrive.Trigger

/-- The chain answered that there is no such contract, or with something that is no URI. -/
def AlloyContractError.isAbsent : AlloyContractError → Bool
  | .contractNotDeployed => true
  | .zeroData _ _ => true
  | .abiError _ => true
  | _ => false

namespace Replies

variable (self : Replies) (chainConfigs : ChainConfigs)

def callsContract : ServiceManager → Bool
  | .evm chain _ =>
    match chainConfigs.getChain chain with
    | some (.evm config) => self.providerCached || config.httpEndpoint.any self.isEndpoint
    | _ => false
  | _ => false

/-- The chain answered, and the contract is absent or its URI is invalid. -/
def AnsweredGone (manager : ServiceManager) : Prop :=
  (self.callsContract chainConfigs manager = true ∧
      ∃ error, self.getServiceUri = .error error ∧ error.isAbsent = true) ∨
    ∃ uri, self.serviceUri chainConfigs manager = some (.ok uri) ∧ self.isUri uri = false

/-- The call of the contract failed without such an answer. -/
def CallFails (manager : ServiceManager) : Prop :=
  self.callsContract chainConfigs manager = true ∧
    ∃ error, self.getServiceUri = .error error ∧ error.isAbsent = false

variable {self chainConfigs}

theorem stellarServiceUri_error (chain : ChainKey) (projectRoot : FixedBytes 32) (error : DispatcherError)
    (failed : self.stellarServiceUri chainConfigs chain projectRoot = .error error) : ∃ text, error = .config text := by
  unfold stellarServiceUri at failed
  split at failed
  · cases env : self.sorobanEnv with
    | error reason =>
      rw [env] at failed
      cases failed
      exact ⟨_,rfl⟩
    | ok done =>
      rw [env] at failed
      cases answered : self.projectSpecRepo with
      | error reason =>
        rw [answered] at failed
        cases failed
        exact ⟨_,rfl⟩
      | ok uri =>
        rw [answered] at failed
        cases failed
  · cases failed
    exact ⟨_,rfl⟩

theorem cosmosServiceUri_error (error : DispatcherError) (failed : self.cosmosServiceUri = .error error) :
    ∃ reason, error = .cosmosQuery reason := by
  unfold cosmosServiceUri at failed
  cases client : self.cosmosClient with
  | error reason =>
    rw [client] at failed
    cases failed
    exact ⟨_,rfl⟩
  | ok done =>
    rw [client] at failed
    cases answered : self.warpDriveServiceUri with
    | error reason =>
      rw [answered] at failed
      cases failed
      exact ⟨_,rfl⟩
    | ok uri =>
      rw [answered] at failed
      cases failed

theorem callsContract_of_provider (chain : ChainKey) (config : EvmChainConfig)
    (made : self.provider chain config = some (.ok ())) :
    (self.providerCached || config.httpEndpoint.any self.isEndpoint) = true := by
  unfold provider at made
  split at made
  · next cached => simp [cached]
  · split at made
    · cases made
    · next endpoint found =>
      split at made
      · next valid => simp [found,valid]
      · cases made

theorem provider_error (chain : ChainKey) (config : EvmChainConfig) (error : DispatcherError)
    (failed : self.provider chain config = some (.error error)) : ∃ text, error = .config text := by
  unfold provider at failed
  split at failed
  · cases failed
  · split at failed
    · cases failed
      exact ⟨_,rfl⟩
    · split at failed <;> cases failed

/-- The service URI fails with an error that counts as stale only by the call of the contract. -/
theorem serviceUri_stale (manager : ServiceManager) (error : DispatcherError)
    (failed : self.serviceUri chainConfigs manager = some (.error error)) (stale : error.isGenuineStale = true) :
    self.callsContract chainConfigs manager = true ∧ ∃ cause, self.getServiceUri = .error cause := by
  cases manager with
  | stellar chain projectRoot =>
    obtain ⟨text,rfl⟩ := stellarServiceUri_error chain projectRoot _ (Option.some.inj failed)
    cases stale
  | cosmos chain address =>
    unfold serviceUri at failed
    simp only [ServiceManager.chain] at failed
    split at failed
    · cases failed
      cases stale
    · next config _ =>
      obtain ⟨provider,made,failed⟩ := Option.map_eq_some_iff.mp failed
      cases provider with
      | error other =>
        obtain ⟨text,rfl⟩ := provider_error chain config other made
        cases failed
        cases stale
      | ok done =>
        cases failed
        cases stale
    · obtain ⟨reason,rfl⟩ := cosmosServiceUri_error _ (Option.some.inj failed)
      cases stale
    · cases failed
  | evm chain address =>
    unfold serviceUri at failed
    simp only [ServiceManager.chain] at failed
    split at failed
    · cases failed
      cases stale
    · next config configured =>
      obtain ⟨provider,made,failed⟩ := Option.map_eq_some_iff.mp failed
      cases provider with
      | error other =>
        obtain ⟨text,rfl⟩ := provider_error chain config other made
        cases failed
        cases stale
      | ok done =>
        have ready : self.callsContract chainConfigs (.evm chain address) = true := by
          simp only [callsContract,configured]
          exact callsContract_of_provider chain config made
        refine ⟨ready,?_⟩
        cases answered : self.getServiceUri with
        | error cause => exact ⟨cause,rfl⟩
        | ok uri =>
          rw [answered] at failed
          cases failed
    · obtain ⟨reason,rfl⟩ := cosmosServiceUri_error _ (Option.some.inj failed)
      cases stale
    · cases failed

theorem query_of_call (manager : ServiceManager) (error : AlloyContractError)
    (calls : self.callsContract chainConfigs manager = true) (failed : self.getServiceUri = .error error) :
    self.queryServiceFromAddress chainConfigs manager = some (.error (.alloyContract error)) := by
  unfold callsContract at calls
  split at calls
  · next chain address =>
    split at calls
    · next config configured =>
      have made : self.provider chain config = some (.ok ()) := by
        unfold provider
        cases cached : self.providerCached with
        | true => rfl
        | false =>
          rw [cached,Bool.false_or] at calls
          cases endpoint : config.httpEndpoint with
          | none =>
            rw [endpoint] at calls
            cases calls
          | some url =>
            rw [endpoint] at calls
            simp only [Option.any_some] at calls
            simp [calls]
      unfold queryServiceFromAddress serviceUri
      simp only [ServiceManager.chain,configured,made,failed]
      rfl
    · cases calls
  · cases calls

/-- The errors of a query that the restore takes for stale: the contract or its URI is gone, or the
call of the contract fails. -/
theorem stale_iff (manager : ServiceManager) :
    (∃ error, self.queryServiceFromAddress chainConfigs manager = some (.error error) ∧
        error.isGenuineStale = true) ↔
      self.AnsweredGone chainConfigs manager ∨ self.CallFails chainConfigs manager := by
  constructor
  · rintro ⟨error,queried,stale⟩
    obtain ⟨uri,found,failed⟩ := Option.map_eq_some_iff.mp queried
    cases uri with
    | error cause =>
      cases failed
      obtain ⟨calls,reason,answered⟩ := serviceUri_stale manager _ found stale
      cases absent : reason.isAbsent with
      | true => exact .inl (.inl ⟨calls,reason,answered,absent⟩)
      | false => exact .inr ⟨calls,reason,answered,absent⟩
    | ok uri =>
      cases valid : self.isUri uri with
      | false => exact .inl (.inr ⟨uri,found,valid⟩)
      | true =>
        change (if self.isUri uri = true then (self.fetchService uri).mapError .fetchService
          else .error (.uriCreation uri)) = Except.error error at failed
        rw [if_pos valid] at failed
        cases document : self.fetchService uri with
        | error reason =>
          rw [document] at failed
          cases failed
          cases stale
        | ok service =>
          rw [document] at failed
          cases failed
  · rintro ((⟨calls,error,failed,_⟩ | ⟨uri,found,invalid⟩) | ⟨calls,error,failed,_⟩)
    · exact ⟨_,query_of_call manager error calls failed,rfl⟩
    · refine ⟨.uriCreation uri,?_,rfl⟩
      rw [queryServiceFromAddress,found]
      change some (if self.isUri uri = true then (self.fetchService uri).mapError DispatcherError.fetchService
        else .error (DispatcherError.uriCreation uri)) = _
      rw [invalid]
      rfl
    · exact ⟨_,query_of_call manager error calls failed,rfl⟩

end Replies
namespace Dispatcher

variable {cron : CronLib} {prim : IdPrimitives} {mnemonic : Mnemonic} {startup : Startup}

theorem leaves_restoreEntry (entry : RegistryEntry) (service : Service) :
    Attempt.Leaves (fun before after : Dispatcher => after.serviceRegistry = before.serviceRegistry)
      (restoreEntry cron prim mnemonic startup (entry,.ok service)) := by
  have trans : ∀ first second third : Dispatcher, second.serviceRegistry = first.serviceRegistry →
      third.serviceRegistry = second.serviceRegistry → third.serviceRegistry = first.serviceRegistry :=
    fun _ _ _ one two => two.trans one
  refine Attempt.leaves_bind trans _ _ ?_ (fun _ _ => rfl)
  refine Attempt.leaves_bind trans _ _ (fun _ => rfl) ?_
  intro alreadyInMemory
  refine Attempt.leaves_bind trans _ _ (fun _ => rfl) (fun _ => ?_)
  refine Attempt.leaves_bind trans _ _ (fun _ => rfl) (fun _ => ?_)
  cases alreadyInMemory with
  | true => exact fun _ => rfl
  | false =>
    intro state
    exact (leaves_addServiceToManagers cron prim mnemonic _ service _ state).2

/-- What handling one entry does to the registry: the entry goes when its error counts as stale. -/
theorem entries_restoreEntry (fetched : Fetched) (self : Dispatcher) (entry : RegistryEntry) :
    entry ∈ (restoreEntry cron prim mnemonic startup fetched self).1.serviceRegistry.entries ↔
      entry ∈ self.serviceRegistry.entries ∧
        ¬((∃ error, fetched.2 = .error error ∧ error.isGenuineStale = true) ∧
          entry.serviceManager = fetched.1.serviceManager) := by
  obtain ⟨one,result⟩ := fetched
  cases result with
  | ok service =>
    rw [leaves_restoreEntry one service self]
    simp
  | error error =>
    unfold restoreEntry
    simp only
    split
    · next stale =>
      change entry ∈ (ServiceRegistry.remove _ one.serviceManager self.serviceRegistry).1.state.entries ↔ _
      rw [ServiceRegistry.mem_remove]
      simp [stale,ServiceRegistry.entries]
    · next fresh =>
      simp [fresh]

theorem leaves_restoreAll (fetched : List Fetched) :
    Attempt.Leaves (fun before after : Dispatcher => ∀ entry ∈ after.serviceRegistry.entries,
      entry ∈ before.serviceRegistry.entries) (restoreAll cron prim mnemonic startup fetched) := by
  induction fetched with
  | nil => exact fun _ _ member => member
  | cons one rest ih =>
    have trans : ∀ first second third : Dispatcher,
        (∀ entry ∈ second.serviceRegistry.entries, entry ∈ first.serviceRegistry.entries) →
        (∀ entry ∈ third.serviceRegistry.entries, entry ∈ second.serviceRegistry.entries) →
        ∀ entry ∈ third.serviceRegistry.entries, entry ∈ first.serviceRegistry.entries :=
      fun _ _ _ one two entry member => one entry (two entry member)
    refine Attempt.leaves_bind trans _ _ ?_ (fun _ => ?_)
    · intro state entry member
      exact ((entries_restoreEntry one state entry).mp member).1
    · exact Attempt.leaves_bind trans _ _ ih (fun _ _ _ member => member)

theorem restoreAll_append (earlier later : List Fetched) (self middle : Dispatcher) (services : List Service)
    (handled : restoreAll cron prim mnemonic startup earlier self = (middle,.ok services)) :
    (restoreAll cron prim mnemonic startup (earlier ++ later) self).1 =
      (restoreAll cron prim mnemonic startup later middle).1 := by
  induction earlier generalizing self services with
  | nil =>
    cases handled
    rfl
  | cons one rest ih =>
    obtain ⟨first,state,entry,rest'⟩ := (Attempt.bind_ok _ _ _ _ _).mp handled
    obtain ⟨others,last,ends,finish⟩ := (Attempt.bind_ok _ _ _ _ _).mp rest'
    cases finish
    have same := ih state others ends
    rw [List.cons_append,restoreAll,Attempt.bind_of_ok _ _ _ _ _ entry,← same]
    cases called : restoreAll cron prim mnemonic startup (rest ++ later) state with
    | mk final outcome =>
      cases outcome with
      | error error => rw [Attempt.bind_of_error _ _ _ _ _ called]
      | ok more => rw [Attempt.bind_of_ok _ _ _ _ _ called]; rfl

/-- An entry that the loop has lost was lost at an entry of its manager whose error counts as
stale, and that the loop came to. -/
theorem lost_at (fetched : List Fetched) (self : Dispatcher) (entry : RegistryEntry)
    (listed : entry ∈ self.serviceRegistry.entries)
    (lost : entry ∉ (restoreAll cron prim mnemonic startup fetched self).1.serviceRegistry.entries) :
    ∃ earlier one later, fetched = earlier ++ one :: later ∧
      (∃ services, (restoreAll cron prim mnemonic startup earlier self).2 = .ok services) ∧
      (∃ error, one.2 = .error error ∧ error.isGenuineStale = true) ∧
      entry.serviceManager = one.1.serviceManager := by
  induction fetched generalizing self with
  | nil => exact absurd listed lost
  | cons one rest ih =>
    have step : entry ∈ (restoreEntry cron prim mnemonic startup one self).1.serviceRegistry.entries ↔ _ :=
      entries_restoreEntry one self entry
    by_cases gone : (∃ error, one.2 = .error error ∧ error.isGenuineStale = true) ∧
        entry.serviceManager = one.1.serviceManager
    · exact ⟨[],one,rest,rfl,⟨[],rfl⟩,gone.1,gone.2⟩
    · have kept := step.mpr ⟨listed,gone⟩
      cases called : restoreEntry cron prim mnemonic startup one self with
      | mk middle outcome =>
        rw [called] at kept
        cases outcome with
        | error error =>
          rw [restoreAll,Attempt.bind_of_error _ _ _ _ _ called] at lost
          exact absurd kept lost
        | ok services =>
          have first : restoreAll cron prim mnemonic startup [one] self = (middle,.ok (services ++ [])) := by
            rw [restoreAll,Attempt.bind_of_ok _ _ _ _ _ called]
            rfl
          have same := restoreAll_append [one] rest self middle _ first
          rw [List.singleton_append] at same
          rw [same] at lost
          obtain ⟨earlier,last,later,rfl,⟨others,handled⟩,stale,named⟩ := ih middle kept lost
          refine ⟨one::earlier,last,later,rfl,⟨services ++ others,?_⟩,stale,named⟩
          have rest : restoreAll cron prim mnemonic startup earlier middle =
              ((restoreAll cron prim mnemonic startup earlier middle).1,.ok others) := Prod.ext rfl handled
          rw [restoreAll,Attempt.bind_of_ok _ _ _ _ _ called,Attempt.bind_of_ok _ _ _ _ _ rest]
          rfl

/-- The loop loses an entry that it comes to and whose error counts as stale. -/
theorem not_mem_of_stale (earlier later : List Fetched) (one : Fetched) (error : DispatcherError)
    (self : Dispatcher) (services : List Service)
    (handled : (restoreAll cron prim mnemonic startup earlier self).2 = .ok services)
    (failed : one.2 = .error error) (stale : error.isGenuineStale = true) :
    one.1 ∉ (restoreAll cron prim mnemonic startup (earlier ++ one :: later) self).1.serviceRegistry.entries := by
  intro member
  rw [restoreAll_append earlier (one::later) self _ services (Prod.ext rfl handled)] at member
  have first : restoreAll cron prim mnemonic startup [one]
      (restoreAll cron prim mnemonic startup earlier self).1 =
        ((restoreEntry cron prim mnemonic startup one (restoreAll cron prim mnemonic startup earlier self).1).1,
          .ok []) := by
    obtain ⟨entry,result⟩ := one
    cases failed
    simp only [restoreAll,restoreEntry,stale,if_true]
    rfl
  have same := restoreAll_append [one] later _ _ [] first
  rw [List.singleton_append] at same
  rw [same] at member
  have before := leaves_restoreAll later _ one.1 member
  exact ((entries_restoreEntry one _ one.1).mp before).2 ⟨⟨error,failed,stale⟩,rfl⟩

end Dispatcher

theorem Startup.fetchAll_none (startup : Startup) (chainConfigs : ChainConfigs) (order : List RegistryEntry)
    (panics : startup.fetchAll chainConfigs order = none) :
    ∃ entry ∈ order, startup.query chainConfigs entry = none := by
  unfold fetchAll at panics
  induction order with
  | nil => cases panics
  | cons entry rest ih =>
    cases asked : startup.query chainConfigs entry with
    | none => exact ⟨entry,List.mem_cons_self,asked⟩
    | some result =>
      rw [List.mapM_cons,asked] at panics
      cases others : rest.mapM (fun entry => (startup.query chainConfigs entry).map (fun result => (entry,result))) with
      | none =>
        obtain ⟨other,member,failed⟩ := ih others
        exact ⟨other,List.mem_cons_of_mem _ member,failed⟩
      | some fetched =>
        rw [others] at panics
        cases panics

theorem Replies.not_answeredGone {self : Replies} {chainConfigs : ChainConfigs} (manager : ServiceManager)
    (fails : self.CallFails chainConfigs manager) : ¬self.AnsweredGone chainConfigs manager := by
  obtain ⟨calls,error,failed,present⟩ := fails
  rintro (⟨_,other,also,absent⟩ | ⟨uri,found,invalid⟩)
  · cases failed.symm.trans also
    rw [present] at absent
    cases absent
  · have queried := query_of_call manager error calls failed
    rw [queryServiceFromAddress,found] at queried
    change some (if self.isUri uri = true then (self.fetchService uri).mapError DispatcherError.fetchService
      else .error (DispatcherError.uriCreation uri)) = _ at queried
    rw [invalid] at queried
    cases queried

namespace Dispatcher

variable (cron : CronLib) (prim : IdPrimitives) (mnemonic : Mnemonic) (startup : Startup)

/-- An entry is forgotten only when the chain has answered that its contract or URI is gone. -/
def ForgetsOnlyGone (chainConfigs : ChainConfigs) (file : Option RegistryState) (order : List RegistryEntry) : Prop :=
  ∀ after outcome, restore cron prim mnemonic startup order (new chainConfigs file) = some (after,outcome) →
    ∀ entry ∈ (ServiceRegistry.load file).entries, entry ∉ after.serviceRegistry.entries →
      (startup.replies entry).AnsweredGone chainConfigs entry.serviceManager

/-- Only entries that are gone are forgotten exactly when no call of a contract fails at an entry that
the loop comes to, or a query panics. -/
theorem forgets_only_gone_iff (chainConfigs : ChainConfigs) (file : Option RegistryState)
    (order : List RegistryEntry) (complete : order.Perm (ServiceRegistry.load file).entries) :
    ForgetsOnlyGone cron prim mnemonic startup chainConfigs file order ↔
      (∃ entry ∈ order, startup.query chainConfigs entry = none) ∨
        ∀ earlier entry later, order = earlier ++ entry :: later →
          (∃ fetched, startup.fetchAll chainConfigs earlier = some fetched ∧
            RestoresFrom cron prim mnemonic startup chainConfigs [] fetched) →
          ¬(startup.replies entry).CallFails chainConfigs entry.serviceManager := by
  have initial := restoring_new cron prim mnemonic startup chainConfigs file
  constructor
  · intro careful
    cases answered : startup.fetchAll chainConfigs order with
    | none => exact .inl (startup.fetchAll_none chainConfigs order answered)
    | some fetched =>
      right
      rintro earlier entry later rfl ⟨handled,answers,restores⟩ fails
      obtain ⟨names,asked⟩ := (startup.fetchAll_iff chainConfigs _ fetched).mp answered
      obtain ⟨first,rest,rfl,before,after⟩ := List.map_eq_append_iff.mp names
      obtain ⟨one,others,rfl,rfl,after⟩ := List.map_eq_cons_iff.mp after
      have same : startup.fetchAll chainConfigs earlier = some first :=
        (startup.fetchAll_iff chainConfigs earlier first).mpr
          ⟨before,fun one member => asked one (List.mem_append_left _ member)⟩
      cases answers.symm.trans same
      obtain ⟨services,reached⟩ := (restoreAll_ok chainConfigs handled [] _ initial).1.mpr restores
      obtain ⟨error,queried,stale⟩ := Replies.stale_iff one.1.serviceManager |>.mpr (.inr fails)
      have failed : one.2 = .error error :=
        Option.some.inj ((asked one (List.mem_append_right _ List.mem_cons_self)).symm.trans queried)
      have lost := not_mem_of_stale handled others one error _ services reached failed stale
      have listed : one.1 ∈ (ServiceRegistry.load file).entries :=
        complete.mem_iff.mp (List.mem_append_right _ List.mem_cons_self)
      exact Replies.not_answeredGone _ fails (careful _ _
        (Option.map_eq_some_iff.mpr ⟨_,answered,rfl⟩) one.1 listed lost)
  · rintro condition after outcome restored entry listed lost
    obtain ⟨fetched,answered,result⟩ := Option.map_eq_some_iff.mp restored
    obtain ⟨names,asked⟩ := (startup.fetchAll_iff chainConfigs order fetched).mp answered
    rw [← show (restoreAll cron prim mnemonic startup fetched (new chainConfigs file)).1 = after by rw [result]]
      at lost
    obtain ⟨earlier,one,later,rfl,⟨services,handled⟩,⟨error,failed,stale⟩,named⟩ := lost_at fetched _ entry listed lost
    have present : one.1 ∈ (ServiceRegistry.load file).entries := by
      rw [← complete.mem_iff,← names]
      exact List.mem_map_of_mem (List.mem_append_right _ List.mem_cons_self)
    have same : entry = one.1 :=
      List.inj_on_of_nodup_map (ServiceRegistry.load file).state.distinct listed present named
    subst same
    have queried := asked one (List.mem_append_right _ List.mem_cons_self)
    rw [failed] at queried
    rcases (Replies.stale_iff one.1.serviceManager).mp ⟨error,queried,stale⟩ with gone | fails
    · exact gone
    · rcases condition with ⟨other,member,panics⟩ | condition
      · rw [← names] at member
        obtain ⟨another,inside,rfl⟩ := List.mem_map.mp member
        rw [asked another inside] at panics
        cases panics
      · refine absurd fails (condition (earlier.map Prod.fst) one.1 (later.map Prod.fst) ?_ ⟨earlier,?_,?_⟩)
        · rw [← names,List.map_append,List.map_cons]
        · exact (startup.fetchAll_iff chainConfigs _ earlier).mpr
            ⟨rfl,fun one member => asked one (List.mem_append_left _ member)⟩
        · exact (restoreAll_ok chainConfigs earlier [] _ initial).1.mp ⟨services,handled⟩

end Dispatcher

/-- A start at which the call of the first entry's contract fails. -/
def callFailing (error : AlloyContractError) : Startup where
  replies entry := if entry = firstEntry then {publishes deployedService with getServiceUri := .error error}
    else publishes secondService
  outcomes _ := reachable
  connected := []

namespace Dispatcher

theorem reset_chain_forgotten :
    [firstEntry,secondEntry].Perm (ServiceRegistry.load (some bothRegistered)).entries ∧
      ForgetsOnlyGone everyMinute bothIds operatorMnemonic (callFailing (.zeroData "getServiceURI" "overrun"))
        localConfigs (some bothRegistered) [firstEntry,secondEntry] := by
  have complete : [firstEntry,secondEntry].Perm (ServiceRegistry.load (some bothRegistered)).entries :=
    List.Perm.refl _
  refine ⟨complete,(forgets_only_gone_iff _ _ _ _ _ _ _ complete).mpr (.inr ?_)⟩
  rintro earlier entry later split _ ⟨_,error,failed,present⟩
  have member : entry ∈ [firstEntry,secondEntry] := by
    rw [split]
    exact List.mem_append_right _ List.mem_cons_self
  simp only [List.mem_cons,List.not_mem_nil,or_false] at member
  rcases member with rfl | rfl
  · have cause : ((callFailing (.zeroData "getServiceURI" "overrun")).replies firstEntry).getServiceUri =
        .error (.zeroData "getServiceURI" "overrun") := rfl
    cases cause.symm.trans failed
    cases present
  · have answer : ((callFailing (.zeroData "getServiceURI" "overrun")).replies secondEntry).getServiceUri =
        .ok "https://services.local/service.json" := rfl
    cases answer.symm.trans failed

theorem unreachable_node_forgotten :
    [firstEntry,secondEntry].Perm (ServiceRegistry.load (some bothRegistered)).entries ∧
      ¬ForgetsOnlyGone everyMinute bothIds operatorMnemonic
        (callFailing (.transportError (.transport "connection refused"))) localConfigs (some bothRegistered)
        [firstEntry,secondEntry] := by
  refine ⟨List.Perm.refl _,fun careful => ?_⟩
  have fails : ((callFailing (.transportError (.transport "connection refused"))).replies firstEntry).CallFails
      localConfigs firstEntry.serviceManager := ⟨by decide +kernel,_,rfl,rfl⟩
  have lost : (restore everyMinute bothIds operatorMnemonic
      (callFailing (.transportError (.transport "connection refused"))) [firstEntry,secondEntry]
      (new localConfigs (some bothRegistered))).any
        (fun final => decide (firstEntry ∉ final.1.serviceRegistry.entries)) = true := by
    decide +kernel
  cases reached : restore everyMinute bothIds operatorMnemonic
      (callFailing (.transportError (.transport "connection refused"))) [firstEntry,secondEntry]
      (new localConfigs (some bothRegistered)) with
  | none =>
    rw [reached] at lost
    cases lost
  | some final =>
    rw [reached] at lost
    exact Replies.not_answeredGone _ fails (careful final.1 final.2 reached firstEntry (by decide +kernel)
      (of_decide_eq_true lost))

end Dispatcher
end Warpdrive.Dispatch
