import Warpdrive.Trigger.Watcher

/-! When the loop of `start_watcher` goes on. The items of the streams and the commands
arrive in any order, and between two of them the other tasks may leave the shared state as
they like. `start` panics where the loop returns an error. -/
namespace Warpdrive.Trigger

open Warpdrive.Foundation Warpdrive.Types Warpdrive.Foundation.Execution

def DispatcherCommand.IsTrigger : DispatcherCommand → Prop
  | .trigger _ => True
  | .changeServiceUri _ _ => False

namespace Watcher

/-- An item arrives, with what connecting gives on it and the services that are active, or
the other tasks change the shared state. -/
inductive Act
  | shared (manager : Manager)
  | arrive (isActive : ServiceId → Bool) (connecting : Connecting)
      (item : Except TriggerError StreamTriggers)

def Act.Kill : Act → Prop
  | .arrive _ _ (.ok (.localCommand .kill)) => True
  | _ => False

/-- `start_watcher` over what arrives: the watcher that waits for the next item, and the
commands it has sent on each. -/
def startWatcher (lib : EventLib) (self : Watcher) :
    List Act → Except TriggerError (Watcher × List (List DispatcherCommand))
  | [] => .ok (self,[])
  | .shared manager::acts => startWatcher lib (self.sharing manager) acts
  | .arrive isActive connecting item::acts =>
    match self.handle lib isActive connecting item with
    | (_,.failed error) => .error error
    | (self,.stopped) => .ok (self,[])
    | (self,.sent commands) =>
      match startWatcher lib self acts with
      | .error error => .error error
      | .ok (final,later) => .ok (final,commands::later)

/-- The watcher that each act leaves, also where the loop ends with it. -/
def step (lib : EventLib) (self : Watcher) : Act → Option Watcher
  | .shared manager => some (self.sharing manager)
  | .arrive isActive connecting item => some (self.handle lib isActive connecting item).1

/-- The start command finds a chain that it gives up on with an error: a Cosmos client or a
Stellar controller that cannot be made, or a configuration without an endpoint. -/
def Unconnectable (self : Watcher) (connecting : Connecting) (chain : ChainKey) : Prop :=
  self.disableNetworking = false ∧ self.listeningChainStates chain = .waiting ∧
    match self.chainConfigs.getChain chain with
    | none => False
    | some (.cosmos _) => ∃ reason, connecting.cosmosClient = .error reason
    | some (.evm config) => config.wsEndpoints.isEmpty
    | some (.stellar config) => config.rpcUrl.isEmpty ∨
      self.lookup.stellarControllers.get config.chainKey = none ∧
        ∃ error, connecting.stellarController = .error error

/-- The log is a `ServiceURIUpdated` that decodes to the text. -/
def Announces (lib : EventLib) (event : EvmContractEvent) (text : String) : Prop :=
  event.logData.topics.head? = some serviceUriUpdatedHash ∧ lib.decodeLogData event.logData = .ok text

/-- Neither a log that announces a service URI which is none, nor the start of a chain that
cannot be connected. -/
def Harmless (lib : EventLib) (self : Watcher) : Act → Prop
  | .arrive _ _ (.ok (.evm event)) => ∀ text, Announces lib event text → lib.isUri text = true
  | .arrive _ connecting (.ok (.localCommand (.startListeningChain chain))) =>
    ¬self.Unconnectable connecting chain
  | _ => True

def AllHarmless (lib : EventLib) (self : Watcher) (acts : List Act) : Prop :=
  Along (step lib) (fun before act _ => before.Harmless lib act) self acts

def Unstartable (self : Watcher) (connecting : Connecting) (chain : ChainKey) : Prop :=
  match self.chainConfigs.getChain chain with
  | none => True
  | some (.cosmos _) => connecting.cosmosClient ≠ .ok () ∨ connecting.cosmosStream ≠ .ok ()
  | some (.evm config) =>
    config.wsEndpoints.isEmpty ∨ connecting.evmEventStream ≠ .ok () ∨ connecting.evmBlockStream ≠ .ok ()
  | some (.stellar config) => config.rpcUrl.isEmpty ∨
    self.lookup.stellarControllers.get config.chainKey = none ∧
      (connecting.stellarController ≠ .ok () ∨ connecting.stellarEventStream ≠ .ok () ∨
        connecting.stellarLedgerStream ≠ .ok ())

def BadCommand (self : Watcher) (connecting : Connecting) : TriggerCommand → Prop
  | .startListeningChain chain => self.Unstartable connecting chain
  | .startListeningCron => connecting.cronStream ≠ .ok ()
  | .startListeningAtProto => connecting.atprotoStream ≠ .ok ()
  | .watchEvmBlocks chain => self.evmControllers.get chain = none
  | .watchEvmContractEvents chain _ _ => self.evmControllers.get chain = none
  | .watchStellarBlocks chain => self.lookup.stellarControllers.get chain = none
  | .watchStellarServiceUri _ chain _ => self.lookup.stellarControllers.get chain = none
  | .unwatchStellarServiceUri serviceId => self.stellarUriSubscriptions.get serviceId = none
  | .kill => False
  | .manualTrigger _ => False

/-- An item that the watcher cannot use: a stream's error, a URI update without a URI, a
block without a height, a command that cannot be carried out. -/
def Bad (lib : EventLib) (self : Watcher) : Act → Prop
  | .shared _ => False
  | .arrive _ connecting item =>
    match item with
    | .error _ => True
    | .ok (.evm event) => event.logData.topics.head? = some serviceUriUpdatedHash ∧
      ∀ text, lib.decodeLogData event.logData = .ok text → lib.isUri text = false
    | .ok (.stellarEvent event _) =>
      isUpdatedSpecRepoTopic lib event.topicSegments = true ∧ Manager.stellarServiceUri lib event = none
    | .ok (.evmBlock _ blockHeight) => blockHeight = 0
    | .ok (.stellarLedgerSequence _ ledger) => ledger = 0
    | .ok (.localCommand command) => self.BadCommand connecting command
    | .ok (.cosmos _ _ _) => False
    | .ok (.cron _) => False
    | .ok (.atProto _) => False

/-- A Cosmos URI update without a URI. -/
def BadEvent (lib : EventLib) (contractEvent : StreamTriggerCosmosContractEvent) : Prop :=
  lib.isType contractEvent.event wavsServiceUriUpdatedEvent = true ∧
    Manager.cosmosServiceUri lib contractEvent.event = none

/-- The loop returns no error. A bad item changes no service's URI, and what it leaves and
the commands of the other items are those of the run without it; a bad event of a Cosmos
block leaves the run of the block without it. -/
structure Survives (lib : EventLib) (watcher : Watcher) (acts : List Act) : Prop where
  returns : ∃ result, watcher.startWatcher lib acts = .ok result
  skips : ∀ earlier act later before, acts = earlier ++ act::later →
    run (step lib) watcher earlier = some before → before.Bad lib act →
      ∃ final first own rest, watcher.startWatcher lib acts = .ok (final,first ++ own::rest) ∧
        watcher.startWatcher lib (earlier ++ later) = .ok (final,first ++ rest) ∧
        ∀ command ∈ own, command.IsTrigger
  skipsEvents : ∀ earlier isActive connecting chain events event others blockHeight later,
    acts = earlier ++
      .arrive isActive connecting (.ok (.cosmos chain (events ++ event::others) blockHeight))::later →
    BadEvent lib event →
      watcher.startWatcher lib acts = watcher.startWatcher lib (earlier ++
        .arrive isActive connecting (.ok (.cosmos chain (events ++ others) blockHeight))::later)

theorem startListeningChain_error_iff (connecting : Connecting) (self : Watcher) (chain : ChainKey) :
    (∃ error, (self.startListeningChain connecting chain).2 = .error error) ↔
      self.Unconnectable connecting chain := by
  unfold startListeningChain Unconnectable
  cases self.disableNetworking with
  | true => simp
  | false =>
    have configs : (self.setChainState chain .connecting).chainConfigs = self.chainConfigs := rfl
    have controllers : (self.setChainState chain .connecting).lookup.stellarControllers =
      self.lookup.stellarControllers := rfl
    cases self.listeningChainStates chain with
    | connected => simp
    | connecting => simp
    | waiting =>
      simp only [Bool.false_eq_true,if_false,configs,true_and]
      rcases self.chainConfigs.getChain chain with _ | config | config | config
      · simp
      · unfold startCosmos
        cases connecting.cosmosClient with
        | error reason => simp
        | ok _ => cases connecting.cosmosStream <;> simp
      · unfold startEvm
        cases endpoints : config.wsEndpoints.isEmpty with
        | true => simp [endpoints]
        | false =>
          cases connecting.evmEventStream with
          | error _ => simp [endpoints]
          | ok _ => cases connecting.evmBlockStream <;> simp [endpoints]
      · unfold startStellar
        simp only [controllers]
        cases config.rpcUrl.isEmpty with
        | true => simp
        | false =>
          cases self.lookup.stellarControllers.get config.chainKey with
          | some controller => simp
          | none =>
            cases connecting.stellarController with
            | error error => simp
            | ok _ => cases connecting.stellarEventStream <;> cases connecting.stellarLedgerStream <;> simp

theorem onEvm_error_iff (lib : EventLib) (isActive : ServiceId → Bool) (self : Manager)
    (event : EvmContractEvent) :
    (∃ error, self.onEvm lib isActive event = .error error) ↔
      ∃ text, Announces lib event text ∧ lib.isUri text = false := by
  unfold Manager.onEvm Manager.evmServiceUri Announces
  cases event.logData.topics.head? with
  | none => simp
  | some eventHash =>
    by_cases announced : eventHash = serviceUriUpdatedHash
    · cases lib.decodeLogData event.logData with
      | error reason => simp [announced]
      | ok text => cases valid : lib.isUri text <;> simp [announced,valid]
    · simp [announced]

/-- A pass ends with an error on exactly the harmful items. -/
theorem handle_failed_iff (lib : EventLib) (isActive : ServiceId → Bool) (connecting : Connecting)
    (self : Watcher) (item : Except TriggerError StreamTriggers) :
    (∃ error, (self.handle lib isActive connecting item).2 = .failed error) ↔
      ¬self.Harmless lib (.arrive isActive connecting item) := by
  rcases item with _ | ⟨_ | event | _ | _ | _ | _ | command | _⟩ <;> try simp [handle,Harmless]
  · have error := onEvm_error_iff lib isActive self.toManager event
    cases outcome : self.onEvm lib isActive event with
    | error reason => simpa [outcome] using error
    | ok commands =>
      simp only [outcome,reduceCtorEq,exists_false,false_iff,not_exists,not_and,Bool.not_eq_false] at error
      simpa using error
  · cases command <;> try simp [onLocalCommand]
    next chain =>
    have error := startListeningChain_error_iff connecting self chain
    rcases outcome : self.startListeningChain connecting chain with ⟨next,_ | _⟩
    · simpa [outcome] using error
    · simpa [outcome] using error

theorem handle_stopped_iff (lib : EventLib) (isActive : ServiceId → Bool) (connecting : Connecting)
    (self : Watcher) (item : Except TriggerError StreamTriggers) :
    (self.handle lib isActive connecting item).2 = .stopped ↔ Act.Kill (.arrive isActive connecting item) := by
  rcases item with _ | ⟨_ | event | _ | _ | _ | _ | command | _⟩ <;> try simp [handle,Act.Kill]
  · split <;> simp
  · cases command <;> try simp [onLocalCommand]
    split <;> simp

theorem handle_sent (lib : EventLib) (isActive : ServiceId → Bool) (connecting : Connecting)
    (self : Watcher) (item : Except TriggerError StreamTriggers)
    (harmless : self.Harmless lib (.arrive isActive connecting item))
    (goes : ¬Act.Kill (.arrive isActive connecting item)) :
    ∃ commands, (self.handle lib isActive connecting item).2 = .sent commands := by
  have failed := handle_failed_iff lib isActive connecting self item
  have stopped := handle_stopped_iff lib isActive connecting self item
  cases reply : (self.handle lib isActive connecting item).2 with
  | sent commands => exact ⟨commands,rfl⟩
  | failed error => exact absurd harmless (failed.mp ⟨error,reply⟩)
  | stopped => exact absurd (stopped.mp reply) goes

/-- The run up to a state is sent as it is, whatever comes after it. -/
theorem startWatcher_append (lib : EventLib) (self before : Watcher) (earlier : List Act)
    (reached : run (step lib) self earlier = some before)
    (harmless : self.AllHarmless lib earlier) (goes : ∀ act ∈ earlier, ¬act.Kill) :
    ∃ first, ∀ later, self.startWatcher lib (earlier ++ later) =
      (before.startWatcher lib later).map (fun rest => (rest.1,first ++ rest.2)) := by
  induction earlier generalizing self with
  | nil =>
    cases reached
    refine ⟨[],fun later => ?_⟩
    cases outcome : before.startWatcher lib later <;> simp [outcome,Except.map]
  | cons act acts ih =>
    obtain ⟨next,taken,rest⟩ := (run_cons self before act acts).mp reached
    obtain ⟨now,along⟩ := (along_cons _ self next act acts taken).mp harmless
    obtain ⟨first,sent⟩ := ih next rest along (fun other member => goes other (List.mem_cons_of_mem act member))
    cases act with
    | shared manager =>
      cases taken
      exact ⟨first,sent⟩
    | arrive isActive connecting item =>
      cases taken
      obtain ⟨commands,reply⟩ := handle_sent lib isActive connecting self item now (goes _ List.mem_cons_self)
      refine ⟨commands::first,fun later => ?_⟩
      have handled : self.handle lib isActive connecting item =
        ((self.handle lib isActive connecting item).1,.sent commands) := Prod.ext rfl reply
      rw [List.cons_append,startWatcher,handled]
      simp only [sent later]
      cases before.startWatcher lib later <;> simp [Except.map]

theorem harmless_of_returns (lib : EventLib) (self : Watcher) (acts : List Act)
    (goes : ∀ act ∈ acts, ¬act.Kill) (result : Watcher × List (List DispatcherCommand))
    (returned : self.startWatcher lib acts = .ok result) : self.AllHarmless lib acts := by
  induction acts generalizing self result with
  | nil => trivial
  | cons act acts ih =>
    have others : ∀ other ∈ acts, ¬other.Kill := fun other member => goes other (List.mem_cons_of_mem act member)
    cases act with
    | shared manager => exact ⟨trivial,ih (self.sharing manager) others result returned⟩
    | arrive isActive connecting item =>
      have failed := handle_failed_iff lib isActive connecting self item
      have stopped := handle_stopped_iff lib isActive connecting self item
      rw [startWatcher] at returned
      rcases handled : self.handle lib isActive connecting item with ⟨next,commands | error | _⟩
      · have now : self.Harmless lib (.arrive isActive connecting item) := by
          by_contra harmful
          obtain ⟨error,reply⟩ := failed.mpr harmful
          simp [handled] at reply
        simp only [handled] at returned
        cases outcome : next.startWatcher lib acts with
        | error error => simp [outcome] at returned
        | ok rest =>
          refine (along_cons _ self next (.arrive isActive connecting item) acts ?_).mpr
            ⟨now,ih next others rest outcome⟩
          simp [step,handled]
      · simp [handled] at returned
      · exact absurd (stopped.mp (by rw [handled])) (goes _ List.mem_cons_self)

theorem triggerActions_isTrigger (isActive : ServiceId → Bool) (self : Manager) (lookupIds : List LookupId)
    (data : TriggerData) (command : DispatcherCommand)
    (sent : command ∈ self.triggerActions isActive lookupIds data) : command.IsTrigger := by
  obtain ⟨config,_,rfl⟩ := List.mem_map.mp sent
  trivial

theorem processBlocks_zero (isActive : ServiceId → Bool) (self : Manager) (chain : ChainKey) :
    self.processBlocks isActive chain 0 = (self,[]) := by
  simp [Manager.processBlocks,BlockHeight.ofU64]

theorem startListeningChain_unstartable (connecting : Connecting) (self : Watcher) (chain : ChainKey)
    (unstartable : self.Unstartable connecting chain) (connectable : ¬self.Unconnectable connecting chain) :
    self.startListeningChain connecting chain = (self,.ok ()) := by
  have begun := started connecting self chain
  have error := (startListeningChain_error_iff connecting self chain).not.mpr connectable
  generalize outcome : self.startListeningChain connecting chain = result at begun error ⊢
  obtain ⟨next,answer⟩ := result
  simp only at begun error
  cases begun with
  | unchanged => rfl
  | cosmos config online waiting found client stream => simp [Unstartable,found,client,stream] at unstartable
  | evm config online waiting found endpoints events blocks =>
    simp [Unstartable,found,endpoints,events,blocks] at unstartable
  | stellar config online waiting found endpoint absent created events ledgers =>
    simp [Unstartable,found,endpoint,created,events,ledgers] at unstartable
  | running config controller online waiting found endpoint present =>
    simp [Unstartable,found,endpoint,present] at unstartable
  | refused reason => exact absurd ⟨reason,rfl⟩ error

theorem startedState_error (disableNetworking : Bool) (stream : Except TriggerError Unit)
    (state : StreamStartState) (fails : stream ≠ .ok ()) :
    startedState disableNetworking stream state = state := by
  cases stream with
  | ok _ => exact absurd rfl fails
  | error error => cases state <;> simp [startedState]

theorem onLocalCommand_bad (lib : EventLib) (connecting : Connecting) (self : Watcher)
    (command : TriggerCommand) (bad : self.BadCommand connecting command)
    (connectable : ∀ chain, command = .startListeningChain chain → ¬self.Unconnectable connecting chain) :
    self.onLocalCommand lib connecting command = (self,.sent []) := by
  cases command with
  | kill => exact bad.elim
  | manualTrigger action => exact bad.elim
  | startListeningChain chain =>
    simp [onLocalCommand,startListeningChain_unstartable connecting self chain bad (connectable chain rfl)]
  | startListeningCron => simp [onLocalCommand,startedState_error _ _ _ bad]
  | startListeningAtProto => simp [onLocalCommand,startedState_error _ _ _ bad]
  | watchEvmBlocks chain =>
    have missing : self.evmControllers.get chain = none := bad
    simp [onLocalCommand,Manager.callEvm,sharing,missing]
  | watchEvmContractEvents chain addresses eventHashes =>
    have missing : self.evmControllers.get chain = none := bad
    simp [onLocalCommand,Manager.callEvm,sharing,missing]
  | watchStellarBlocks chain =>
    have missing : self.lookup.stellarControllers.get chain = none := bad
    simp [onLocalCommand,Manager.watchStellarBlocks,sharing,missing]
  | watchStellarServiceUri serviceId chain projectRoot =>
    have missing : self.lookup.stellarControllers.get chain = none := bad
    simp only [onLocalCommand,Manager.watchStellarServiceUri,sharing,missing]
    split <;> rfl
  | unwatchStellarServiceUri serviceId =>
    have missing : self.stellarUriSubscriptions.get serviceId = none := bad
    simp [onLocalCommand,Manager.unwatchStellarServiceUri,sharing,missing]

/-- A log that announces no URI starts the workflows of its event only. -/
theorem onEvm_bad (lib : EventLib) (isActive : ServiceId → Bool) (self : Manager) (event : EvmContractEvent)
    (announced : event.logData.topics.head? = some serviceUriUpdatedHash)
    (bad : ∀ text, lib.decodeLogData event.logData ≠ .ok text) :
    ∃ own, self.onEvm lib isActive event = .ok own ∧ ∀ command ∈ own, command.IsTrigger := by
  unfold Manager.onEvm Manager.evmServiceUri
  cases decoded : lib.decodeLogData event.logData with
  | ok text => exact absurd decoded (bad text)
  | error reason =>
    simp only [announced,if_true,Option.map_none,Option.getD_none,List.nil_append]
    refine ⟨_,rfl,?_⟩
    unfold Manager.indexedActions
    split
    · exact fun command sent => triggerActions_isTrigger isActive self _ _ command sent
    · simp

theorem handle_bad (lib : EventLib) (isActive : ServiceId → Bool) (connecting : Connecting)
    (self : Watcher) (item : Except TriggerError StreamTriggers)
    (harmless : self.Harmless lib (.arrive isActive connecting item))
    (bad : self.Bad lib (.arrive isActive connecting item)) :
    ∃ own, self.handle lib isActive connecting item = (self,.sent own) ∧ ∀ command ∈ own, command.IsTrigger := by
  cases item with
  | error error => exact ⟨[],rfl,by simp⟩
  | ok item =>
    cases item with
    | cosmos chain contractEvents blockHeight => exact bad.elim
    | cron hits => exact bad.elim
    | atProto event => exact bad.elim
    | evmBlock chain blockHeight =>
      have zero : blockHeight = 0 := bad
      exact ⟨[],by simp [handle,zero,processBlocks_zero,sharing],by simp⟩
    | stellarLedgerSequence chain ledger =>
      have zero : ledger = 0 := bad
      exact ⟨[],by simp [handle,zero,processBlocks_zero,sharing],by simp⟩
    | evm event =>
      obtain ⟨announced,none⟩ := bad
      have undecodable : ∀ text, lib.decodeLogData event.logData ≠ .ok text := by
        intro text decoded
        have valid := harmless text ⟨announced,decoded⟩
        rw [none text decoded] at valid
        cases valid
      obtain ⟨own,sent,triggers⟩ := onEvm_bad lib isActive self.toManager event announced undecodable
      exact ⟨own,by simp [handle,sent],triggers⟩
    | stellarEvent event rpcIds =>
      refine ⟨_,rfl,?_⟩
      simp only [Manager.onStellarEvent,bad.2,List.nil_append]
      exact fun command sent => triggerActions_isTrigger isActive self.toManager _ _ command sent
    | localCommand command =>
      refine ⟨[],onLocalCommand_bad lib connecting self command bad ?_,by simp⟩
      intro chain starts
      subst command
      exact harmless

/-- A URI update of a Cosmos block that holds no URI is as if it were not in the block. -/
theorem handle_badEvent (lib : EventLib) (isActive : ServiceId → Bool) (connecting : Connecting)
    (self : Watcher) (chain : ChainKey) (events others : List StreamTriggerCosmosContractEvent)
    (event : StreamTriggerCosmosContractEvent) (blockHeight : UInt64) (bad : BadEvent lib event) :
    self.handle lib isActive connecting (.ok (.cosmos chain (events ++ event::others) blockHeight)) =
      self.handle lib isActive connecting (.ok (.cosmos chain (events ++ others) blockHeight)) := by
  have passed : self.onCosmosEvent lib isActive chain blockHeight event = [] := by
    simp [Manager.onCosmosEvent,bad.1,bad.2]
  simp [handle,passed]

/-- The run with one act replaced by another that the watcher handles in the same way. -/
theorem startWatcher_congr (lib : EventLib) (self : Watcher) (earlier later : List Act)
    (isActive : ServiceId → Bool) (connecting : Connecting)
    (item other : Except TriggerError StreamTriggers)
    (same : ∀ watcher : Watcher, watcher.handle lib isActive connecting item =
      watcher.handle lib isActive connecting other) :
    self.startWatcher lib (earlier ++ .arrive isActive connecting item::later) =
      self.startWatcher lib (earlier ++ .arrive isActive connecting other::later) := by
  induction earlier generalizing self with
  | nil => simp only [List.nil_append,startWatcher,same]
  | cons act acts ih =>
    cases act with
    | shared manager => exact ih (self.sharing manager)
    | arrive active tried first =>
      simp only [List.cons_append,startWatcher]
      split
      · rfl
      · rfl
      · next next commands _ => rw [ih next]

theorem run_total (lib : EventLib) (self : Watcher) (acts : List Act) :
    ∃ final, run (step lib) self acts = some final := by
  induction acts generalizing self with
  | nil => exact ⟨self,rfl⟩
  | cons act acts ih =>
    cases act with
    | shared manager => exact ih (self.sharing manager)
    | arrive isActive connecting item => exact ih (self.handle lib isActive connecting item).1

/-- The watcher survives what arrives exactly when none of it announces a service URI that
is none or starts a chain that cannot be connected. -/
theorem survives_iff_harmless (lib : EventLib) (self : Watcher) (acts : List Act)
    (goes : ∀ act ∈ acts, ¬act.Kill) : self.Survives lib acts ↔ self.AllHarmless lib acts := by
  constructor
  · intro survives
    obtain ⟨result,returned⟩ := survives.returns
    exact harmless_of_returns lib self acts goes result returned
  · intro harmless
    obtain ⟨final,reached⟩ := run_total lib self acts
    refine ⟨?_,?_,?_⟩
    · obtain ⟨first,sent⟩ := startWatcher_append lib self final acts reached harmless goes
      have whole := sent []
      rw [List.append_nil] at whole
      exact ⟨_,whole⟩
    · intro earlier act later before split passed bad
      subst acts
      have others : ∀ act ∈ earlier, ¬act.Kill := fun act member => goes act (List.mem_append_left _ member)
      obtain ⟨first,sent⟩ := startWatcher_append lib self before earlier passed
        (along_stem self earlier (act::later) harmless) others
      have along := along_append self before earlier (act::later) passed harmless
      cases act with
      | shared manager => exact bad.elim
      | arrive isActive connecting item =>
        obtain ⟨own,handled,triggers⟩ := handle_bad lib isActive connecting before item along.1 bad
        obtain ⟨last,rest⟩ := run_total lib before later
        have taken : step lib before (.arrive isActive connecting item) = some before := by
          simp [step,handled]
        have remaining := ((along_cons _ before before _ later taken).mp along).2
        obtain ⟨after,continued⟩ := startWatcher_append lib before last later rest remaining
          (fun act member => goes act (List.mem_append_right _ (List.mem_cons_of_mem _ member)))
        have finished : before.startWatcher lib later = .ok (last,after) := by
          simpa [startWatcher,Except.map] using continued []
        refine ⟨last,first,own,after,?_,?_,triggers⟩
        · rw [sent]
          simp [startWatcher,handled,finished,Except.map]
        · rw [sent,finished]
          rfl
    · intro earlier isActive connecting chain events event others blockHeight later split bad
      subst acts
      exact startWatcher_congr lib self earlier later isActive connecting _ _
        (fun watcher => handle_badEvent lib isActive connecting watcher chain events others event blockHeight bad)

def abiString (text : String) : List UInt8 :=
  let bytes := utf8 text
  beBytes 32 32 ++ beBytes 32 bytes.length ++ bytes ++ List.replicate ((32 - bytes.length % 32) % 32) 0

def uriLog (data : List UInt8) : EvmContractEvent where
  chain := ⟨.evm,anvilId⟩
  contractAddress := .filled 20 7
  logData := ⟨[serviceUriUpdatedHash],data⟩
  txHash := .filled 32 1
  blockNumber := 12
  logIndex := 0
  blockHash := .filled 32 2
  blockTimestamp := none
  txIndex := 0

/-- The decoders on two strings, of which the one with blanks is no URI. -/
def twoStrings : EventLib where
  decodeLogData log :=
    if log.data = abiString "ipfs://spec" then .ok "ipfs://spec"
    else if log.data = abiString "not a uri" then .ok "not a uri"
    else .error "type check failed"
  isUri text := text.toList.all (· ≠ ' ')
  isType event ty := event.ty = ty || event.ty = "wasm-" ++ ty
  contractFromString _ := none
  contractDisplay contract := hexEncode contract.toList
  base64Decode _ := none
  fromXdr _ := none

def idle : Watcher := (Manager.new ⟨.new,.new,.new,.new⟩ false).watch

def uriLogArrives (data : List UInt8) : Act := .arrive (fun _ => true) .succeeds (.ok (.evm (uriLog data)))

def unknownChainStarts : Act :=
  .arrive (fun _ => true) .succeeds
    (.ok (.localCommand (.startListeningChain ⟨.stellar,testnetId⟩)))

/-- A log without a string, a chain without a configuration and a log with a URI. -/
def harmlessSchedule : List Act :=
  [uriLogArrives [1,2,3],unknownChainStarts,uriLogArrives (abiString "ipfs://spec")]

theorem twoStrings_decodes (text : String)
    (decoded : twoStrings.decodeLogData (uriLog (abiString "ipfs://spec")).logData = .ok text) :
    text = "ipfs://spec" := by
  have known : twoStrings.decodeLogData (uriLog (abiString "ipfs://spec")).logData = .ok "ipfs://spec" := by
    decide +kernel
  rw [known] at decoded
  exact (Except.ok.inj decoded).symm

theorem harmlessSchedule_survives : idle.Survives twoStrings harmlessSchedule := by
  apply (survives_iff_harmless twoStrings idle harmlessSchedule ?_).mpr
  · refine ⟨?_,?_,?_,trivial⟩
    · intro text announces
      have undecodable : twoStrings.decodeLogData (uriLog [1,2,3]).logData = .error "type check failed" := by
        decide +kernel
      rw [announces.2] at undecodable
      cases undecodable
    · intro unconnectable
      exact unconnectable.2.2
    · intro text announces
      rw [twoStrings_decodes text announces.2]
      decide +kernel
  · intro act member
    simp only [harmlessSchedule,List.mem_cons,List.not_mem_nil,or_false] at member
    rcases member with rfl | rfl | rfl <;> exact id

/-- Anyone can emit the log that ends the watcher. -/
theorem announced_text_ends_watcher :
    ¬Act.Kill (uriLogArrives (abiString "not a uri")) ∧
      idle.startWatcher twoStrings [uriLogArrives (abiString "not a uri")] =
        .error (.uriCreation "not a uri") ∧
      ¬idle.Survives twoStrings [uriLogArrives (abiString "not a uri")] := by
  have refused : Manager.evmServiceUri twoStrings (uriLog (abiString "not a uri")) =
      .error (.uriCreation "not a uri") := by decide +kernel
  have ends : idle.startWatcher twoStrings [uriLogArrives (abiString "not a uri")] =
      .error (.uriCreation "not a uri") := by
    have fails : idle.onEvm twoStrings (fun _ => true) (uriLog (abiString "not a uri")) =
        .error (.uriCreation "not a uri") := by
      unfold Manager.onEvm
      rw [refused]
      rfl
    simp [startWatcher,uriLogArrives,handle,fails]
  refine ⟨id,ends,?_⟩
  intro survives
  obtain ⟨result,returned⟩ := survives.returns
  rw [ends] at returned
  cases returned

end Watcher
end Warpdrive.Trigger
