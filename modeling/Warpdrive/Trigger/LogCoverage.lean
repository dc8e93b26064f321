import Warpdrive.Trigger.Commands
import Warpdrive.Trigger.Consistency
import Warpdrive.Trigger.Registration
import Warpdrive.Trigger.Requests

/-! Coverage of the EVM triggers by what their controllers are to subscribe to. Every
registered trigger and every registered manager has its watch command: in a call that will
send it, in the queue, carried out, or dropped. -/
namespace Warpdrive.Trigger

open Warpdrive.Foundation Warpdrive.Types Warpdrive.Foundation.Execution

namespace EvmStream.Client

/-- The log filter that is desired has the address and the event hash. -/
def Watches (self : Client) (address : Address) (eventHash : FixedBytes 32) : Prop :=
  ∃ addresses topics, self.inner.desired .allLogs = some (.logs addresses topics) ∧
    address ∈ addresses ∧ eventHash ∈ topics

/-- Block headers are desired. -/
def Heads (self : Client) : Prop := self.inner.desired .newHeads = some .newHeads

/-- What is desired changes by calls only. -/
theorem desired_step (self next : Client) (act : Act) (taken : self.step act = some next)
    (quiet : ∀ call, act ≠ .call call) (category : SubscriptionCategory) :
    next.inner.desired category = self.inner.desired category := by
  have plain : ∀ rpcIds connectionSendRpc delayed isConnected ids rpcIdsInFlight,
      {self.inner with rpcIds,connectionSendRpc,delayed,isConnected,ids,rpcIdsInFlight}.desired category =
        self.inner.desired category := by
    intro rpcIds connectionSendRpc delayed isConnected ids rpcIdsInFlight
    cases category <;> rfl
  cases act with
  | call call => exact absurd rfl (quiet call)
  | connect =>
    simp only [step] at taken
    split at taken <;> cases taken
    rfl
  | disconnect =>
    simp only [step] at taken
    split at taken <;> cases taken
    exact plain _ _ _ _ _ _
  | connectFails =>
    simp only [step] at taken
    split at taken <;> cases taken
    rfl
  | clearAll =>
    simp only [step] at taken
    split at taken <;> cases taken
    exact plain _ _ _ _ _ _
  | deliver subscriptionId success =>
    simp only [step,deliver] at taken
    split at taken
    · cases taken
    · split at taken
      · split at taken
        · split at taken <;> cases taken
          exact plain _ _ _ _ _ _
        · cases taken
          exact plain _ _ _ _ _ _
      · cases taken
        exact plain _ _ _ _ _ _
  | processState =>
    simp only [step] at taken
    split at taken
    · cases taken
    · cases taken
      simp only [Subscriptions.setIsConnected]
      split
      · rw [Subscriptions.desired_resubscribe]
        exact plain _ _ _ _ _ _
      · exact plain _ _ _ _ _ _
  | receive index =>
    simp only [step] at taken
    split at taken
    · cases taken
    · next id response _ =>
      cases taken
      exact (Subscriptions.received self.inner id response).aim.1 category
  | delayPasses index =>
    simp only [step] at taken
    split at taken
    · cases taken
    · cases taken
      simp only [Subscriptions.sendDelayed]
      split_ifs <;> exact plain _ _ _ _ _ _

theorem watches_apply (self : Client) (addresses : List Address) (topics : List (FixedBytes 32))
    (address : Address) (eventHash : FixedBytes 32)
    (watches : self.Watches address eventHash ∨ address ∈ addresses ∧ eventHash ∈ topics) :
    Watches {self with inner := (Call.enableLogs addresses topics).apply self.inner} address eventHash := by
  unfold Watches
  simp only [Call.desired_apply]
  refine ⟨_,_,rfl,?_⟩
  rcases watches with ⟨_,_,wanted,here,there⟩ | ⟨here,there⟩
  · simp only [Subscriptions.desired,Option.map_eq_some_iff] at wanted
    obtain ⟨filter,found,same⟩ := wanted
    cases same
    simp [found,here,there]
  · simp [here,there]

theorem heads_apply (self : Client) (addresses : List Address) (topics : List (FixedBytes 32))
    (heads : self.Heads) :
    Heads {self with inner := (Call.enableLogs addresses topics).apply self.inner} := by
  unfold Heads
  simp only [Call.desired_apply]
  exact heads

theorem watches_toggle (self : Client) (address : Address) (eventHash : FixedBytes 32)
    (watches : self.Watches address eventHash) :
    Watches {self with inner := (Call.toggleBlockHeight true).apply self.inner} address eventHash := by
  unfold Watches
  simp only [Call.desired_apply]
  exact watches

theorem heads_toggle (self : Client) :
    Heads {self with inner := (Call.toggleBlockHeight true).apply self.inner} := by
  unfold Heads
  simp only [Call.desired_apply]
  rfl

end EvmStream.Client

/-- The chain of an EVM watch command. -/
def TriggerCommand.evmChain : TriggerCommand → Option ChainKey
  | .watchEvmBlocks chain => some chain
  | .watchEvmContractEvents chain _ _ => some chain
  | _ => none

/-- The watch command for the triggers of a place. -/
def Place.watch : Place → Option TriggerCommand
  | .evm (chain,address,eventHash) => some (.watchEvmContractEvents chain [address] [eventHash])
  | .block chain => some (.watchEvmBlocks chain)
  | _ => none

theorem Place.evmChain_watch (self : Place) (command : TriggerCommand) (watch : self.watch = some command) :
    command.evmChain ≠ none := by
  cases self <;> cases watch <;> exact Option.some_ne_none _

namespace Watcher

/-- The start command connects an EVM chain. -/
def EvmStarts (self : Watcher) (connecting : Connecting) (chain : ChainKey) : Prop :=
  self.disableNetworking = false ∧ self.listeningChainStates chain = .waiting ∧
    (∃ config, self.chainConfigs.getChain chain = some (.evm config) ∧ config.wsEndpoints.isEmpty = false) ∧
    connecting.evmEventStream = .ok () ∧ connecting.evmBlockStream = .ok ()

instance (self : Watcher) (connecting : Connecting) (chain : ChainKey) :
    Decidable (self.EvmStarts connecting chain) :=
  have : Decidable (∃ config, self.chainConfigs.getChain chain = some (.evm config) ∧
      config.wsEndpoints.isEmpty = false) :=
    match found : self.chainConfigs.getChain chain with
    | some (.evm config) => decidable_of_iff (config.wsEndpoints.isEmpty = false) (by simp)
    | some (.cosmos _) => .isFalse (by simp)
    | some (.stellar _) => .isFalse (by simp)
    | none => .isFalse (by simp)
  inferInstanceAs (Decidable (_ ∧ _))

/-- The command has been carried out. -/
def Done (self : Watcher) : TriggerCommand → Prop
  | .watchEvmBlocks chain => ∃ client, self.evmControllers.get chain = some client ∧ client.Heads
  | .watchEvmContractEvents chain addresses eventHashes =>
    ∃ client, self.evmControllers.get chain = some client ∧
      ∀ address ∈ addresses, ∀ eventHash ∈ eventHashes, client.Watches address eventHash
  | _ => False

/-- The controllers that a watcher has had keep what they are to subscribe to, and a new one
comes with its chain connected. -/
structure Keeps (connecting : Connecting) (before : Watcher) (command : TriggerCommand) (after : Watcher) :
    Prop where
  done : ∀ other, before.Done other → after.Done other
  configs : after.chainConfigs = before.chainConfigs
  controllers : ∀ chain, after.evmControllers.get chain ≠ none → before.evmControllers.get chain ≠ none ∨
    command = .startListeningChain chain ∧ before.EvmStarts connecting chain ∧
      after.listeningChainStates chain = .connected
  states : ∀ chain, before.listeningChainStates chain = .connected → after.listeningChainStates chain = .connected

theorem Done.of_controllers {self next : Watcher} {command : TriggerCommand} (done : self.Done command)
    (kept : ∀ chain client, self.evmControllers.get chain = some client →
      ∃ after, next.evmControllers.get chain = some after ∧ (client.Heads → after.Heads) ∧
        ∀ address eventHash, client.Watches address eventHash → after.Watches address eventHash) :
    next.Done command := by
  cases command with
  | watchEvmBlocks chain =>
    obtain ⟨client,found,heads⟩ := done
    obtain ⟨after,present,keeps,_⟩ := kept chain client found
    exact ⟨after,present,keeps heads⟩
  | watchEvmContractEvents chain addresses eventHashes =>
    obtain ⟨client,found,watches⟩ := done
    obtain ⟨after,present,_,keeps⟩ := kept chain client found
    exact ⟨after,present,fun address here eventHash there =>
      keeps address eventHash (watches address here eventHash there)⟩
  | _ => exact done.elim

theorem Keeps.same {connecting : Connecting} {before after : Watcher} (command : TriggerCommand)
    (controllers : after.evmControllers = before.evmControllers) (configs : after.chainConfigs = before.chainConfigs)
    (states : ∀ chain, before.listeningChainStates chain = .connected →
      after.listeningChainStates chain = .connected) : Keeps connecting before command after where
  done other done := by
    cases other with
    | watchEvmBlocks chain => simpa [Done,controllers] using done
    | watchEvmContractEvents chain addresses eventHashes => simpa [Done,controllers] using done
    | _ => exact done.elim
  configs := configs
  controllers chain present := .inl (by rwa [controllers] at present)
  states := states

theorem connected_setChainState (self : Watcher) (chain other : ChainKey) (state : StreamStartState)
    (waiting : self.listeningChainStates chain = .waiting)
    (connected : self.listeningChainStates other = .connected) :
    (self.setChainState chain state).listeningChainStates other = .connected := by
  have apart : other ≠ chain := by
    intro same
    rw [same,waiting] at connected
    cases connected
  simpa [setChainState,Function.update_of_ne apart] using connected

theorem keeps_start (connecting : Connecting) (self next : Watcher) (chain : ChainKey)
    (begun : Started connecting self chain next (.ok ()))
    (connected : ∀ other, self.evmControllers.get other ≠ none → self.listeningChainStates other = .connected) :
    Keeps connecting self (.startListeningChain chain) next := by
  cases begun with
  | unchanged => exact .same _ rfl rfl (fun _ held => held)
  | cosmos config online waiting found client stream =>
    exact .same _ rfl rfl (fun other held => self.connected_setChainState chain other _ waiting held)
  | stellar config online waiting found endpoint absent created events ledgers =>
    exact .same _ rfl rfl (fun other held => connected_setChainState _ chain other _ waiting held)
  | running config controller online waiting found endpoint present =>
    exact .same _ rfl rfl (fun other held => self.connected_setChainState chain other _ waiting held)
  | evm config online waiting found endpoints events blocks =>
    have free : self.evmControllers.get chain = none := by
      by_contra present
      have held := connected chain present
      rw [waiting] at held
      cases held
    refine ⟨?_,rfl,?_,fun other held => connected_setChainState _ chain other _ waiting held⟩
    · intro other done
      apply done.of_controllers
      intro elsewhere client present
      have apart : elsewhere ≠ chain := by
        intro same
        rw [same,free] at present
        cases present
      exact ⟨client,(HashMap.get_insert_ne _ _ _ _ apart).trans present,fun heads => heads,
        fun _ _ watches => watches⟩
    · intro other present
      by_cases same : other = chain
      · subst other
        refine .inr ⟨rfl,⟨online,waiting,⟨config,found,endpoints⟩,events,blocks⟩,?_⟩
        simp [setChainState]
      · left
        rwa [← HashMap.get_insert_ne self.evmControllers chain other (.new connecting.evmKeys) same]

theorem keeps_callEvm (connecting : Connecting) (self : Watcher) (chain : ChainKey) (call : EvmStream.Call)
    (command : TriggerCommand)
    (heads : ∀ client : EvmStream.Client, client.Heads →
      EvmStream.Client.Heads {client with inner := call.apply client.inner})
    (watches : ∀ (client : EvmStream.Client) address eventHash, client.Watches address eventHash →
      EvmStream.Client.Watches {client with inner := call.apply client.inner} address eventHash) :
    Keeps connecting self command (self.sharing (self.callEvm chain call)) := by
  unfold Manager.callEvm
  split
  · next client found =>
    refine ⟨?_,rfl,?_,fun _ held => held⟩
    · intro other done
      apply done.of_controllers
      intro elsewhere before present
      by_cases same : elsewhere = chain
      · subst elsewhere
        rw [found] at present
        cases present
        exact ⟨_,HashMap.get_insert_self _ _ _,heads client,watches client⟩
      · exact ⟨before,(HashMap.get_insert_ne _ _ _ _ same).trans present,fun held => held,fun _ _ held => held⟩
    · intro other present
      left
      by_cases same : other = chain
      · simp [same,found]
      · rwa [← HashMap.get_insert_ne self.evmControllers chain other _ same]
  · exact .same _ rfl rfl (fun _ held => held)

/-- Every command keeps the EVM controllers. -/
theorem keeps_onLocalCommand (lib : EventLib) (connecting : Connecting) (self next : Watcher)
    (command : TriggerCommand) (commands : List DispatcherCommand)
    (handled : self.onLocalCommand lib connecting command = (next,.sent commands))
    (connected : ∀ other, self.evmControllers.get other ≠ none → self.listeningChainStates other = .connected) :
    Keeps connecting self command next := by
  cases command with
  | kill => cases handled
  | startListeningChain chain =>
    have begun := started connecting self chain
    simp only [onLocalCommand] at handled
    split at handled
    · next after result =>
      cases handled
      rw [result] at begun
      exact keeps_start connecting self next chain begun connected
    · cases handled
  | watchEvmContractEvents chain addresses eventHashes =>
    cases handled
    exact keeps_callEvm connecting self chain _ _
      (fun client heads => client.heads_apply addresses eventHashes heads)
      (fun client address eventHash held => client.watches_apply addresses eventHashes address eventHash (.inl held))
  | watchEvmBlocks chain =>
    cases handled
    exact keeps_callEvm connecting self chain _ _ (fun client _ => client.heads_toggle)
      (fun client address eventHash held => client.watches_toggle address eventHash held)
  | watchStellarServiceUri serviceId chain projectRoot =>
    cases handled
    simp only [Manager.watchStellarServiceUri]
    split
    · exact .same _ rfl rfl (fun _ held => held)
    · split <;> exact .same _ rfl rfl (fun _ held => held)
  | unwatchStellarServiceUri serviceId =>
    cases handled
    simp only [Manager.unwatchStellarServiceUri]
    split
    · exact .same _ rfl rfl (fun _ held => held)
    · split <;> exact .same _ rfl rfl (fun _ held => held)
  | watchStellarBlocks chain =>
    cases handled
    simp only [Manager.watchStellarBlocks]
    split <;> exact .same _ rfl rfl (fun _ held => held)
  | _ =>
    cases handled
    exact .same _ rfl rfl (fun _ held => held)

/-- A watch command that finds its controller is carried out. -/
theorem done_of_finds (lib : EventLib) (connecting : Connecting) (self next : Watcher)
    (command : TriggerCommand) (commands : List DispatcherCommand)
    (handled : self.onLocalCommand lib connecting command = (next,.sent commands))
    (watch : command.evmChain ≠ none) (finds : System.finds self command = true) : next.Done command := by
  cases command with
  | watchEvmContractEvents chain addresses eventHashes =>
    obtain ⟨client,found⟩ := Option.isSome_iff_exists.mp finds
    cases handled
    simp only [Manager.callEvm,found]
    exact ⟨_,HashMap.get_insert_self _ _ _,fun address here eventHash there =>
      client.watches_apply addresses eventHashes address eventHash (.inr ⟨here,there⟩)⟩
  | watchEvmBlocks chain =>
    obtain ⟨client,found⟩ := Option.isSome_iff_exists.mp finds
    cases handled
    simp only [Manager.callEvm,found]
    exact ⟨_,HashMap.get_insert_self _ _ _,client.heads_toggle⟩
  | _ => exact absurd rfl watch

end Watcher

namespace System

def Tended (self : System) (command : TriggerCommand) : Prop :=
  self.Pending command ∨ self.watcher.Done command ∨ command ∈ self.dropped

/-- The blocks of a chain that is none of the EVM chains. -/
def Foreign (self : System) (command : TriggerCommand) : Prop :=
  ∃ chain config, command = .watchEvmBlocks chain ∧ self.watcher.chainConfigs.getChain chain = some config ∧
    ∀ evm, config ≠ .evm evm

/-- The commands of a call are those that its service needs. -/
def Prepared (self : System) (service : Service) (commands : List TriggerCommand) : Prop :=
  (∀ entry ∈ service.workflows.entries, ∀ place command, placeOf entry.2.trigger = some place →
    place.watch = some command → command ∈ commands ∨ command ∈ self.dropped ∨ self.Foreign command) ∧
  ∀ chain address, service.manager = .evm chain address →
    .watchEvmContractEvents chain [address] [serviceUriUpdatedHash] ∈ commands

/-- The controllers have what the registered triggers and managers of their chains need. -/
def Covered (self : System) : Prop :=
  ∀ chain client, self.watcher.evmControllers.get chain = some client →
    (∀ address eventHash id, self.watcher.lookup.Lists (.evm (chain,address,eventHash)) id →
      client.Watches address eventHash) ∧
    (∀ serviceId address, self.managers.get serviceId = some (.evm chain address) →
      client.Watches address serviceUriUpdatedHash) ∧
    ∀ id, self.watcher.lookup.Lists (.block chain) id → client.Heads

/-- The invariant. -/
structure Attended (system : System) : Prop where
  listed : ∀ place id command, system.watcher.lookup.Lists place id → place.watch = some command →
    system.Tended command ∨ system.Foreign command
  managed : ∀ serviceId chain address, system.managers.get serviceId = some (.evm chain address) →
    system.Tended (.watchEvmContractEvents chain [address] [serviceUriUpdatedHash])
  adding : ∀ call service waits commands, system.calls.get call = some (.adding service waits commands) →
    system.Prepared service commands
  dropped : ∀ command ∈ system.dropped, ∀ chain, command.evmChain = some chain →
    system.watcher.evmControllers.get chain = none
  configured : ∀ chain, system.watcher.evmControllers.get chain ≠ none →
    ∃ config, system.watcher.chainConfigs.getChain chain = some (.evm config)
  connected : ∀ chain, system.watcher.evmControllers.get chain ≠ none →
    system.watcher.listeningChainStates chain = .connected

theorem Attended.covered {self : System} (attended : Attended self) (empty : self.queue = [])
    (settled : ∀ call commands, self.calls.get call ≠ some (.sending commands)) : self.Covered := by
  have done : ∀ command chain, self.Tended command → command.evmChain = some chain →
      self.watcher.evmControllers.get chain ≠ none → self.watcher.Done command := by
    intro command chain tended own present
    rcases tended with (queued | ⟨call,commands,sending,_⟩) | done | dropped
    · rw [empty] at queued
      cases queued
    · exact absurd sending (settled call commands)
    · exact done
    · exact absurd (attended.dropped command dropped chain own) present
  intro chain client found
  have present : self.watcher.evmControllers.get chain ≠ none := by simp [found]
  have watches : ∀ address eventHash,
      self.Tended (.watchEvmContractEvents chain [address] [eventHash]) → client.Watches address eventHash := by
    intro address eventHash tended
    obtain ⟨other,same,watched⟩ := done _ chain tended rfl present
    rw [found] at same
    cases same
    exact watched address List.mem_cons_self eventHash List.mem_cons_self
  refine ⟨?_,fun serviceId address managed => watches _ _ (attended.managed serviceId chain address managed),?_⟩
  · intro address eventHash id listed
    rcases attended.listed _ id _ listed rfl with tended | ⟨_,_,foreign,_⟩
    · exact watches address eventHash tended
    · cases foreign
  · intro id listed
    rcases attended.listed _ id _ listed rfl with tended | ⟨_,config,same,configured,other⟩
    · obtain ⟨other,same,heads⟩ := done _ chain tended rfl present
      rw [found] at same
      cases same
      exact heads
    · cases same
      obtain ⟨evm,known⟩ := attended.configured chain present
      rw [configured] at known
      exact absurd (Option.some.inj known) (other evm)

theorem lists_congr (self next : Lookup) (same : next.toLookupMaps = self.toLookupMaps) (place : Place)
    (id : LookupId) (listed : next.Lists place id) : self.Lists place id := by
  obtain ⟨maps,controllers⟩ := self
  obtain ⟨others,rest⟩ := next
  cases same
  cases place <;> exact listed

/-- What has to be shown of a step: whatever is listed, managed or prepared anew is tended
for, and what was tended for stays so. -/
theorem Attended.of {self next : System} (attended : Attended self)
    (tended : ∀ command, command.evmChain ≠ none → self.Tended command → next.Tended command)
    (listed : ∀ place id, next.watcher.lookup.Lists place id → self.watcher.lookup.Lists place id ∨
      ∀ command, place.watch = some command → next.Tended command ∨ next.Foreign command)
    (managed : ∀ serviceId manager, next.managers.get serviceId = some manager →
      self.managers.get serviceId = some manager ∨ ∀ chain address, manager = .evm chain address →
        next.Tended (.watchEvmContractEvents chain [address] [serviceUriUpdatedHash]))
    (adding : ∀ call service waits commands, next.calls.get call = some (.adding service waits commands) →
      (∃ before, self.calls.get call = some (.adding service before commands)) ∨ next.Prepared service commands)
    (configs : ∀ chain config, self.watcher.chainConfigs.getChain chain = some config →
      next.watcher.chainConfigs.getChain chain = some config)
    (kept : ∀ command ∈ self.dropped, command ∈ next.dropped)
    (dropped : ∀ command ∈ next.dropped, ∀ chain, command.evmChain = some chain →
      next.watcher.evmControllers.get chain = none)
    (controllers : ∀ chain, next.watcher.evmControllers.get chain ≠ none →
      (∃ config, next.watcher.chainConfigs.getChain chain = some (.evm config)) ∧
        next.watcher.listeningChainStates chain = .connected) : Attended next := by
  have foreign : ∀ command, self.Foreign command → next.Foreign command := by
    rintro command ⟨chain,config,same,found,other⟩
    exact ⟨chain,config,same,configs chain config found,other⟩
  refine ⟨?_,?_,?_,dropped,fun chain present => (controllers chain present).1,
    fun chain present => (controllers chain present).2⟩
  · intro place id command here watch
    rcases listed place id here with old | new
    · rcases attended.listed place id command old watch with held | other
      · exact .inl (tended command (place.evmChain_watch command watch) held)
      · exact .inr (foreign command other)
    · exact new command watch
  · intro serviceId chain address here
    rcases managed serviceId _ here with old | new
    · exact tended _ (Option.some_ne_none chain) (attended.managed serviceId chain address old)
    · exact new chain address rfl
  · intro call service waits commands here
    rcases adding call service waits commands here with ⟨before,old⟩ | new
    · obtain ⟨workflows,manager⟩ := attended.adding call service before commands old
      refine ⟨?_,manager⟩
      intro entry member place command own watch
      rcases workflows entry member place command own watch with sent | gone | other
      · exact .inl sent
      · exact .inr (.inl (kept command gone))
      · exact .inr (.inr (foreign command other))
    · exact new

/-- A step that leaves the watcher, the registered services and the dropped commands. -/
theorem Attended.of_calls {self next : System} (attended : Attended self) (watcher : next.watcher = self.watcher)
    (managers : next.managers = self.managers) (dropped : next.dropped = self.dropped)
    (pending : ∀ command, self.Pending command → next.Pending command)
    (adding : ∀ call service waits commands, next.calls.get call = some (.adding service waits commands) →
      ∃ before, self.calls.get call = some (.adding service before commands)) : Attended next := by
  apply attended.of
  · rintro command _ (held | done | gone)
    · exact .inl (pending command held)
    · exact .inr (.inl (by rwa [watcher]))
    · exact .inr (.inr (by rwa [dropped]))
  · intro place id listed
    rw [watcher] at listed
    exact .inl listed
  · intro serviceId manager managed
    rw [managers] at managed
    exact .inl managed
  · exact fun call service waits commands current => .inl (adding call service waits commands current)
  · intro chain config found
    rwa [watcher]
  · intro command gone
    rwa [dropped]
  · rw [dropped,watcher]
    exact attended.dropped
  · rw [watcher]
    exact fun chain present => ⟨attended.configured chain present,attended.connected chain present⟩

/-- What a call has to send stays with it, or goes into the queue. -/
theorem pending_setCall (self : System) (call : Nat) (state : Option Call) (sent : List TriggerCommand)
    (own : ∀ commands, self.calls.get call = some (.sending commands) → ∀ command ∈ commands,
      command ∈ sent ∨ ∃ rest, state = some (.sending rest) ∧ command ∈ rest)
    (command : TriggerCommand) (pending : self.Pending command) :
    ({self with queue := self.queue ++ sent}.setCall call state).Pending command := by
  unfold Pending
  simp only [queue_setCall,calls_setCall]
  rcases pending with queued | ⟨other,commands,sending,member⟩
  · exact .inl (List.mem_append_left _ queued)
  · by_cases same : other = call
    · subst other
      rcases own commands sending command member with new | ⟨rest,moved,inside⟩
      · exact .inl (List.mem_append_right _ new)
      · exact .inr ⟨call,rest,by simp [moved],inside⟩
    · exact .inr ⟨other,commands,by simp [same,sending],member⟩

/-- A call goes on to a state that is not before a registration, or stays before its own. -/
theorem Attended.setCall {self : System} (attended : Attended self) (call : Nat) (state : Option Call)
    (sent : List TriggerCommand)
    (own : ∀ commands, self.calls.get call = some (.sending commands) → ∀ command ∈ commands,
      command ∈ sent ∨ ∃ rest, state = some (.sending rest) ∧ command ∈ rest)
    (adding : ∀ service waits commands, state = some (.adding service waits commands) →
      ∃ before, self.calls.get call = some (.adding service before commands)) :
    Attended ({self with queue := self.queue ++ sent}.setCall call state) := by
  refine attended.of_calls (watcher_setCall _ _ _) (managers_setCall _ _ _) (dropped_setCall _ _ _)
    (self.pending_setCall call state sent own) ?_
  intro other service waits commands current
  rw [calls_setCall] at current
  split at current
  · next same =>
    subst same
    exact adding service waits commands current
  · exact ⟨waits,current⟩

theorem Attended.setCall_only {self : System} (attended : Attended self) (call : Nat) (state : Option Call)
    (own : ∀ commands, self.calls.get call = some (.sending commands) → ∀ command ∈ commands,
      ∃ rest, state = some (.sending rest) ∧ command ∈ rest)
    (adding : ∀ service waits commands, state = some (.adding service waits commands) →
      ∃ before, self.calls.get call = some (.adding service before commands)) :
    Attended (self.setCall call state) := by
  have moved := attended.setCall call state [] (fun commands current command member =>
    .inr (own commands current command member)) adding
  simpa using moved

section Steps

variable (cron : CronLib) (prim : IdPrimitives) (lib : EventLib)

theorem mem_workflowCommands (chainConfigs : ChainConfigs) (service : Service)
    (entry : WorkflowId × Workflow) (member : entry ∈ service.workflows.entries) (command : TriggerCommand)
    (mapped : command ∈ TriggerCommand.map ⟨service.id prim,entry.1,entry.2.trigger⟩ chainConfigs) :
    command ∈ Call.workflowCommands prim chainConfigs service :=
  List.mem_flatMap.mpr ⟨_,List.mem_map.mpr ⟨entry,member,rfl⟩,mapped⟩

/-- A call begins with the commands that its service needs. -/
theorem prepared_beginAdd (self : System) (call : Nat) (service : Service) :
    (self.beginAdd prim call service).Prepared service
      (Call.managerCommands prim service ++
        Call.workflowCommands prim self.watcher.chainConfigs service) := by
  constructor
  · rintro ⟨workflowId,workflow⟩ member place command own watch
    have sent := mem_workflowCommands prim self.watcher.chainConfigs service (workflowId,workflow) member command
    cases shape : workflow.trigger with
    | evmContractEvent address chain eventHash =>
      simp only [shape,placeOf,Option.some.injEq] at own
      subst place
      cases watch
      exact .inl (List.mem_append_right _ (sent (by simp [TriggerCommand.map,shape])))
    | blockInterval chain nBlocks startBlock endBlock =>
      simp only [shape,placeOf,Option.some.injEq] at own
      subst place
      cases watch
      rcases found : self.watcher.chainConfigs.getChain chain with _ | config | config | config
      · refine .inr (.inl (List.mem_append_right _ (List.mem_filterMap.mpr ⟨_,member,?_⟩)))
        simp only [shape]
        exact if_pos (Option.isNone_iff_eq_none.mpr found)
      · exact .inr (.inr ⟨chain,_,rfl,found,fun _ other => by cases other⟩)
      · exact .inl (List.mem_append_right _ (sent (by simp [TriggerCommand.map,shape,found])))
      · exact .inr (.inr ⟨chain,_,rfl,found,fun _ other => by cases other⟩)
    | atProtoEvent collection repoDid action =>
      simp only [shape,placeOf] at own
      split at own <;> cases own <;> cases watch
    | _ =>
      simp only [shape,placeOf] at own
      cases own <;> cases watch
  · intro chain address managed
    apply List.mem_append_left
    simp [Call.managerCommands,managed]

theorem attended_begin (self : System) (call : Nat) (service : Service) (free : self.calls.get call = none)
    (attended : Attended self) : Attended (self.beginAdd prim call service) := by
  apply attended.of
  · rintro command _ ((queued | ⟨other,commands,sending,member⟩) | done | gone)
    · exact .inl (.inl queued)
    · have apart : other ≠ call := by
        intro same
        rw [same,free] at sending
        cases sending
      have kept := calls_setCall self call other (some (.addService prim self.watcher.chainConfigs service))
      rw [if_neg apart] at kept
      exact .inl (.inr ⟨other,commands,kept.trans sending,member⟩)
    · exact .inr (.inl done)
    · exact .inr (.inr (List.mem_append_left _ gone))
  · exact fun _ _ listed => .inl listed
  · exact fun _ _ managed => .inl managed
  · intro other added waits commands current
    have moved := (self.calls_setCall call other _).symm.trans current
    split at moved
    · next same =>
      simp only [Call.addService,Option.some.injEq,Call.adding.injEq] at moved
      obtain ⟨rfl,rfl,rfl⟩ := moved
      exact .inr (prepared_beginAdd prim self call service)
    · exact .inl ⟨waits,moved⟩
  · exact fun _ _ found => found
  · exact fun _ gone => List.mem_append_left _ gone
  · intro command gone chain own
    rcases List.mem_append.mp gone with old | new
    · exact attended.dropped command old chain own
    · obtain ⟨entry,member,shaped⟩ := List.mem_filterMap.mp new
      split at shaped
      · split at shaped
        · next missing =>
          cases shaped
          cases own
          by_contra present
          obtain ⟨config,found⟩ := attended.configured chain present
          have none_ := Option.isNone_iff_eq_none.mp missing
          rw [show (self.setCall call _).watcher.chainConfigs.getChain chain =
            self.watcher.chainConfigs.getChain chain from rfl,found] at none_
          cases none_
        · cases shaped
      · cases shaped
  · exact fun chain present => ⟨attended.configured chain present,attended.connected chain present⟩

theorem attended_register (self : System) (call : Nat) (service : Service) (commands : List TriggerCommand)
    (current : self.calls.get call = some (.adding service [] commands))
    (accepts : ∀ entry ∈ service.workflows.entries, self.watcher.lookup.Accepts cron entry.2.trigger)
    (attended : Attended self) : Attended (self.register cron prim call service commands) := by
  obtain ⟨lookup,result⟩ := Lookup.addService_accepts cron prim self.watcher.lookup service accepts
  have lists := Lookup.lists_addService cron prim self.watcher.lookup service
  obtain ⟨workflows,manager⟩ := attended.adding call service [] commands current
  simp only [register,result]
  rw [result] at lists
  have sending : ∀ command ∈ commands, Tended (setCall
      {self.setLookup lookup with managers := self.managers.insert (service.id prim) service.manager} call
        (some (.sending commands))) command := by
    intro command member
    exact .inl (.inr ⟨call,commands,by simp [setCall],member⟩)
  apply attended.of
  · rintro command _ ((queued | ⟨other,others,waiting,member⟩) | done | gone)
    · exact .inl (.inl queued)
    · have apart : other ≠ call := by
        intro same
        rw [same,current] at waiting
        cases waiting
      refine .inl (.inr ⟨other,others,?_,member⟩)
      rw [calls_setCall,if_neg apart]
      exact waiting
    · exact .inr (.inl (by cases command <;> exact done))
    · exact .inr (.inr gone)
  · intro place id listed
    rcases lists place id listed with old | ⟨entry,member,own⟩
    · exact .inl old
    · right
      intro command watch
      rcases workflows entry member place command own watch with sent | gone | foreign
      · exact .inl (sending command sent)
      · exact .inl (.inr (.inr gone))
      · exact .inr foreign
  · intro serviceId other managed
    simp only [setCall,setLookup,HashMap.get_insert] at managed
    split at managed
    · cases managed
      exact .inr (fun chain address same => sending _ (manager chain address same))
    · exact .inl managed
  · intro other added waits others present
    have moved := (calls_setCall _ call other _).symm.trans present
    split at moved
    · cases moved
    · exact .inl ⟨waits,moved⟩
  · exact fun _ _ found => found
  · exact fun _ gone => gone
  · exact attended.dropped
  · exact fun chain present => ⟨attended.configured chain present,attended.connected chain present⟩

theorem attended_unregister (self : System) (call : Nat) (serviceId : ServiceId)
    (free : self.calls.get call = none) (attended : Attended self) :
    Attended (self.unregister cron call serviceId) := by
  have lists := Lookup.lists_removeService cron self.watcher.lookup serviceId
  rcases result : self.watcher.lookup.removeService cron serviceId with ⟨lookup,answer⟩
  rw [result] at lists
  have removed : Attended {self.setLookup lookup with managers := self.managers.remove serviceId} := by
    apply attended.of
    · rintro command _ (pending | done | gone)
      · exact .inl pending
      · exact .inr (.inl (by cases command <;> exact done))
      · exact .inr (.inr gone)
    · exact fun place id listed => .inl (lists place id listed)
    · intro other manager managed
      simp only [HashMap.get_remove] at managed
      split at managed
      · cases managed
      · exact .inl managed
    · exact fun _ _ waits _ current => .inl ⟨waits,current⟩
    · exact fun _ _ found => found
    · exact fun _ gone => gone
    · exact attended.dropped
    · exact fun chain present => ⟨attended.configured chain present,attended.connected chain present⟩
  simp only [unregister,result]
  cases answer with
  | error error => exact removed
  | ok _ =>
    apply removed.setCall_only
    · intro commands sending
      have idle : self.calls.get call = some (.sending commands) := sending
      rw [free] at idle
      cases idle
    · intro service waits commands moved
      cases moved

theorem attended_configure (self : System) (key : ChainKey) (config : AnyChainConfig)
    (chainConfigs : ChainConfigs) (added : self.watcher.chainConfigs.addChain key config = .ok chainConfigs)
    (attended : Attended self) :
    Attended {self with watcher := self.watcher.sharing {self.watcher.toManager with chainConfigs}} := by
  have configs : ∀ chain config, self.watcher.chainConfigs.getChain chain = some config →
      chainConfigs.getChain chain = some config := by
    intro chain known found
    rw [ChainConfigs.getChain_addChain _ _ key config added chain]
    split
    · next same =>
      rw [same] at found
      simp [ChainConfigs.addChain,found] at added
    · exact found
  apply attended.of
  · rintro command _ (pending | done | gone)
    · exact .inl pending
    · exact .inr (.inl (by cases command <;> exact done))
    · exact .inr (.inr gone)
  · exact fun _ _ listed => .inl listed
  · exact fun _ _ managed => .inl managed
  · exact fun _ _ waits _ current => .inl ⟨waits,current⟩
  · exact configs
  · exact fun _ gone => gone
  · exact attended.dropped
  · intro chain present
    obtain ⟨evm,found⟩ := attended.configured chain present
    exact ⟨⟨evm,configs chain _ found⟩,attended.connected chain present⟩

theorem attended_connect (self : System) (chain : ChainKey) (act : EvmStream.Act)
    (client next : EvmStream.Client) (quiet : ∀ call, act ≠ .call call)
    (found : self.watcher.evmControllers.get chain = some client) (taken : client.step act = some next)
    (attended : Attended self) :
    Attended {self with watcher := self.watcher.sharing {self.watcher.toManager with
      evmControllers := self.watcher.evmControllers.insert chain next}} := by
  have desired := EvmStream.Client.desired_step client next act taken quiet
  have present : ∀ other, (self.watcher.evmControllers.insert chain next).get other ≠ none →
      self.watcher.evmControllers.get other ≠ none := by
    intro other here
    by_cases same : other = chain
    · simp [same,found]
    · rwa [HashMap.get_insert_ne _ _ _ _ same] at here
  apply attended.of
  · rintro command _ (pending | done | gone)
    · exact .inl pending
    · refine .inr (.inl (done.of_controllers ?_))
      intro other before here
      by_cases same : other = chain
      · subst other
        rw [found] at here
        cases here
        refine ⟨next,HashMap.get_insert_self _ _ _,?_,?_⟩
        · intro heads
          exact (desired .newHeads).trans heads
        · rintro address eventHash ⟨addresses,topics,wanted,inside⟩
          exact ⟨addresses,topics,(desired .allLogs).trans wanted,inside⟩
      · exact ⟨before,(HashMap.get_insert_ne _ _ _ _ same).trans here,fun heads => heads,fun _ _ watches => watches⟩
    · exact .inr (.inr gone)
  · exact fun _ _ listed => .inl listed
  · exact fun _ _ managed => .inl managed
  · exact fun _ _ waits _ current => .inl ⟨waits,current⟩
  · exact fun _ _ known => known
  · exact fun _ gone => gone
  · intro command gone other own
    by_contra here
    exact present other here (attended.dropped command gone other own)
  · intro other here
    exact ⟨attended.configured other (present other here),attended.connected other (present other here)⟩

theorem attended_process (self : System) (connecting : Connecting) (command : TriggerCommand)
    (queue : List TriggerCommand) (watcher : Watcher) (commands : List DispatcherCommand)
    (first : self.queue = command::queue)
    (handled : self.watcher.onLocalCommand lib connecting command = (watcher,.sent commands))
    (timely : ∀ chain, command = .startListeningChain chain → self.watcher.EvmStarts connecting chain →
      ∀ other ∈ self.dropped, other.evmChain ≠ some chain)
    (attended : Attended self) :
    Attended {self with
      watcher := watcher
      queue := queue
      dropped := if finds self.watcher command then self.dropped else self.dropped ++ [command]
      owners := self.claimHandle command} := by
  have keeps := Watcher.keeps_onLocalCommand lib connecting self.watcher watcher command commands handled
    attended.connected
  have maps := Watcher.onLocalCommand_lookupMaps lib connecting self.watcher command
  rw [handled] at maps
  have kept : ∀ other ∈ self.dropped, other ∈
      if finds self.watcher command then self.dropped else self.dropped ++ [command] := by
    intro other gone
    split
    · exact gone
    · exact List.mem_append_left _ gone
  have controllers : ∀ chain, watcher.evmControllers.get chain ≠ none →
      (∃ config, watcher.chainConfigs.getChain chain = some (.evm config)) ∧
        watcher.listeningChainStates chain = .connected := by
    intro chain present
    rw [keeps.configs]
    rcases keeps.controllers chain present with before | ⟨_,starts,connected⟩
    · exact ⟨attended.configured chain before,keeps.states chain (attended.connected chain before)⟩
    · obtain ⟨config,found,_⟩ := starts.2.2.1
      exact ⟨⟨config,found⟩,connected⟩
  apply attended.of
  · rintro other watch ((queued | sending) | done | gone)
    · rw [first] at queued
      rcases List.mem_cons.mp queued with rfl | rest
      · cases found : finds self.watcher other with
        | true =>
          exact .inr (.inl (Watcher.done_of_finds lib connecting self.watcher watcher other commands handled
            watch found))
        | false => exact .inr (.inr (by simp))
      · exact .inl (.inl rest)
    · exact .inl (.inr sending)
    · exact .inr (.inl (keeps.done other done))
    · exact .inr (.inr (kept other gone))
  · exact fun place id listed => .inl (lists_congr self.watcher.lookup watcher.lookup maps place id listed)
  · exact fun _ _ managed => .inl managed
  · exact fun _ _ waits _ current => .inl ⟨waits,current⟩
  · intro chain config found
    rwa [keeps.configs]
  · exact kept
  · intro other gone chain own
    by_contra present
    have lost : other ∈ self.dropped ∨ finds self.watcher command = false ∧ other = command := by
      cases found : finds self.watcher command with
      | true => exact .inl (by simpa [found] using gone)
      | false => simpa [found] using gone
    rcases keeps.controllers chain present with before | ⟨starting,starts,_⟩
    · rcases lost with old | ⟨missing,rfl⟩
      · exact before (attended.dropped other old chain own)
      · cases other with
        | watchEvmBlocks on =>
          cases own
          exact before (by simpa [finds] using missing)
        | watchEvmContractEvents on addresses eventHashes =>
          cases own
          exact before (by simpa [finds] using missing)
        | _ => cases own
    · rcases lost with old | ⟨_,rfl⟩
      · exact timely chain starting starts other old own
      · rw [starting] at own
        cases own
  · exact controllers

/-- A service is registered only when all its triggers are accepted, and no EVM chain is
connected after a watch command for it was dropped. -/
def Timely (self : System) : Act → Prop
  | .advance call => ∀ service commands, self.calls.get call = some (.adding service [] commands) →
    ∀ entry ∈ service.workflows.entries, self.watcher.lookup.Accepts cron entry.2.trigger
  | .process connecting => ∀ chain queue, self.queue = .startListeningChain chain::queue →
    self.watcher.EvmStarts connecting chain → ∀ command ∈ self.dropped, command.evmChain ≠ some chain
  | _ => True

instance (self : System) (act : Act) : Decidable (self.Timely cron act) :=
  match act with
  | .advance call =>
    match current : self.calls.get call with
    | some (.adding service [] commands) =>
      decidable_of_iff (∀ entry ∈ service.workflows.entries, self.watcher.lookup.Accepts cron entry.2.trigger)
        (by simp [Timely,current])
    | none => .isTrue (by simp [Timely,current])
    | some (.adding _ (_::_) _) => .isTrue (by simp [Timely,current])
    | some (.sending _) => .isTrue (by simp [Timely,current])
    | some (.removing _) => .isTrue (by simp [Timely,current])
  | .process connecting =>
    match first : self.queue with
    | .startListeningChain chain::queue =>
      decidable_of_iff (self.watcher.EvmStarts connecting chain →
        ∀ command ∈ self.dropped, command.evmChain ≠ some chain) (by simp [Timely,first])
    | [] => .isTrue (by simp [Timely,first])
    | .kill::_ => .isTrue (by simp [Timely,first])
    | .startListeningCron::_ => .isTrue (by simp [Timely,first])
    | .watchEvmBlocks _::_ => .isTrue (by simp [Timely,first])
    | .watchEvmContractEvents _ _ _::_ => .isTrue (by simp [Timely,first])
    | .watchStellarBlocks _::_ => .isTrue (by simp [Timely,first])
    | .watchStellarServiceUri _ _ _::_ => .isTrue (by simp [Timely,first])
    | .unwatchStellarServiceUri _::_ => .isTrue (by simp [Timely,first])
    | .startListeningAtProto::_ => .isTrue (by simp [Timely,first])
    | .manualTrigger _::_ => .isTrue (by simp [Timely,first])
  | .addService _ _ => .isTrue trivial
  | .removeService _ _ => .isTrue trivial
  | .timeout _ => .isTrue trivial
  | .addChain _ _ => .isTrue trivial
  | .notify _ => .isTrue trivial
  | .connection _ _ => .isTrue trivial

theorem attended_step (self next : System) (act : Act) (taken : self.step cron prim lib act = some next)
    (timely : self.Timely cron act) (attended : Attended self) : Attended next := by
  have moved := moves cron prim lib self next act taken
  cases moved with
  | begins call service free => exact attended_begin prim self call service free attended
  | starts call service chain waits commands current =>
    apply attended.setCall call _ [.startListeningChain chain]
    · intro others sending
      rw [current] at sending
      cases sending
    · intro added before others same
      cases same
      exact ⟨_,current⟩
  | waits call service chain waits commands current =>
    apply attended.setCall_only
    · intro others sending
      rw [current] at sending
      cases sending
    · intro added before others same
      cases same
      exact ⟨_,current⟩
  | registers call service commands current =>
    exact attended_register cron prim self call service commands current (timely service commands current)
      attended
  | sends call command commands current =>
    apply attended.setCall call _ [command]
    · intro others sending other member
      rw [current] at sending
      cases sending
      rcases List.mem_cons.mp member with rfl | rest
      · exact .inl List.mem_cons_self
      · exact .inr ⟨commands,rfl,rest⟩
    · intro added before others same
      cases same
  | returns call current =>
    apply attended.setCall_only
    · intro others sending other member
      rw [current] at sending
      cases sending
      cases member
    · intro added before others same
      cases same
  | tracked call serviceId current held =>
    apply attended.setCall_only
    · intro others sending
      rw [current] at sending
      cases sending
    · intro added before others same
      cases same
  | untracked call serviceId current missing =>
    apply attended.setCall_only
    · intro others sending
      rw [current] at sending
      cases sending
    · intro added before others same
      cases same
  | givesUp call service waits commands current =>
    apply attended.setCall_only
    · intro others sending
      rw [current] at sending
      cases sending
    · intro added before others same
      cases same
  | unregisters call serviceId free => exact attended_unregister cron self call serviceId free attended
  | configures key config chainConfigs added =>
    exact attended_configure self key config chainConfigs added attended
  | refuses key config => exact attended
  | notifies chain =>
    refine attended.of_calls rfl rfl rfl ?_ (fun _ _ waits _ current => ⟨waits,current⟩)
    rintro command (queued | sending)
    · exact .inl (List.mem_append_left _ queued)
    · exact .inr sending
  | processes connecting command queue watcher commands first handled =>
    apply attended_process lib self connecting command queue watcher commands first handled _ attended
    intro chain starting
    subst starting
    exact timely chain queue first
  | connects chain act client after quiet found moved =>
    exact attended_connect self chain act client after quiet found moved attended

theorem attended_new (chainConfigs : ChainConfigs) (disableNetworking : Bool) :
    Attended (new chainConfigs disableNetworking) where
  listed place id command listed watch := by
    cases place with
    | evm key => exact absurd listed (Index.not_lists_new key id)
    | block chain =>
      obtain ⟨scheduler,found,_⟩ := listed
      simp [new,Manager.new,Manager.watch,LookupMaps.new] at found
    | _ => cases watch
  managed _ _ _ managed := by simp [new] at managed
  adding _ _ _ _ current := by cases current
  dropped _ gone := by cases gone
  configured _ present := by simp [new,Manager.new,Manager.watch] at present
  connected _ present := by simp [new,Manager.new,Manager.watch] at present

/-- In every run in which services are registered whole and no EVM chain is connected after
a watch command for it was dropped, every state with an empty queue and no call between its
registration and its return has its EVM triggers and managers covered. -/
theorem evm_watches_cover (chainConfigs : ChainConfigs) (disableNetworking : Bool) (acts : List Act)
    (final : System) (reached : run (step cron prim lib) (new chainConfigs disableNetworking) acts = some final)
    (timely : Along (step cron prim lib) (fun self act _ => self.Timely cron act)
      (new chainConfigs disableNetworking) acts)
    (empty : final.queue = []) (settled : ∀ call commands, final.calls.get call ≠ some (.sending commands)) :
    final.Covered := by
  have attended := invariant_along _ Attended
    (fun self act next taken timely attended => attended_step cron prim lib self next act taken timely attended)
    _ final acts reached timely (attended_new chainConfigs disableNetworking)
  exact attended.covered empty settled

end Steps

end System

/-- The deployed service with one EVM trigger. -/
def logService : Service :=
  {deployedService with workflows := ⟨[(observedWorkflow,⟨logTrigger,noopComponent,.none⟩)],by decide⟩}

def localConfig : AnyChainConfig := .evm ⟨localChain.id,["ws://localhost:8545"],none,none,none⟩

/-- A system that starts without any chain. -/
def bareSystem : System := .new ⟨.new,.new,.new,.new⟩ false

/-- The decoders play no part in the commands of a service on an EVM chain. -/
def silentLib : EventLib where
  decodeLogData _ := .error "type check failed"
  isUri _ := false
  isType _ _ := false
  contractFromString _ := none
  contractDisplay contract := hexEncode contract.toList
  base64Decode _ := none
  fromXdr _ := none

/-- The chain is configured before the service is added. -/
def timelySchedule : List System.Act :=
  [.addChain localChain localConfig,.addService 0 logService,.advance 0,.advance 0,.process .succeeds,
    .advance 0,.advance 0,.advance 0,.process .succeeds,.process .succeeds,.process .succeeds,.advance 0]

theorem timelySchedule_covers :
    ∃ final, run (System.step everyMinute deployedIds silentLib) bareSystem timelySchedule = some final ∧
      (final.watcher.evmControllers.get localChain).isSome = true ∧
      (final.watcher.lookup.triggersByEvmContractEvent.get
        (localChain,deployedManager,.filled 32 1)).isSome = true ∧ final.Covered := by
  have runs : (run (System.step everyMinute deployedIds silentLib) bareSystem timelySchedule).any (fun final =>
      final.queue.isEmpty && final.calls.iter.isEmpty &&
        (final.watcher.evmControllers.get localChain).isSome &&
        (final.watcher.lookup.triggersByEvmContractEvent.get
          (localChain,deployedManager,.filled 32 1)).isSome) = true := by
    decide +kernel
  obtain ⟨final,reached,checks⟩ := run_any _ _ _ _ runs
  simp only [Bool.and_eq_true,List.isEmpty_iff] at checks
  obtain ⟨⟨⟨empty,returned⟩,controlled⟩,indexed⟩ := checks
  have timely : Along (System.step everyMinute deployedIds silentLib)
      (fun self act _ => self.Timely everyMinute act) bareSystem timelySchedule := by
    decide +kernel
  refine ⟨final,reached,controlled,indexed,?_⟩
  apply System.evm_watches_cover everyMinute deployedIds silentLib ⟨.new,.new,.new,.new⟩ false timelySchedule final
    reached timely empty
  intro call commands sending
  have member := (HashMap.mem_iter final.calls call _).mpr sending
  rw [returned] at member
  cases member

/-- The service is added before its chain is configured. -/
def lateSchedule : List System.Act :=
  [.addService 0 logService,.advance 0,.advance 0,.advance 0,.advance 0,.advance 0,.advance 0,
    .process .succeeds,.process .succeeds,.process .succeeds,.process .succeeds,
    .addChain localChain localConfig,.notify localChain,.process .succeeds]

/-- The watch commands were dropped, and the controller that comes later is to subscribe to
nothing. -/
theorem late_chain_unwatched :
    ((run (System.step everyMinute deployedIds silentLib) bareSystem lateSchedule).any (fun final =>
      final.queue.isEmpty ∧ final.calls.iter.isEmpty ∧
      ((final.watcher.evmControllers.get localChain).any (fun client =>
        decide (client.inner.desired .allLogs = none))) ∧
      (final.watcher.lookup.triggersByEvmContractEvent.get
        (localChain,deployedManager,.filled 32 1)).isSome ∧
      final.managers.get deployedId = some (.evm localChain deployedManager))) = true := by
  decide +kernel

end Warpdrive.Trigger
