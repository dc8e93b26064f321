import Warpdrive.Trigger.UriQueue

/-! The `UpdatedSpecRepo` filters track the registered services, in every run in which the
watch and unwatch commands of a service do not overtake its registration. -/
namespace Warpdrive.Trigger

open Warpdrive.Foundation Warpdrive.Types Warpdrive.Foundation.Execution

namespace System

section Steps

variable (cron : CronLib) (prim : IdPrimitives) (lib : EventLib)

theorem plain_map (config : TriggerConfig) (chainConfigs : ChainConfigs) :
    ∀ command ∈ TriggerCommand.map config chainConfigs, command.Plain := by
  intro command member
  unfold TriggerCommand.map at member
  split at member
  case h_5 =>
    split at member <;> simp at member <;> rcases member with rfl | rfl <;> trivial
  all_goals
    simp at member
    try (rcases member with rfl | rfl <;> trivial)

theorem plain_workflowCommands (chainConfigs : ChainConfigs) (service : Service) :
    ∀ command ∈ Call.workflowCommands prim chainConfigs service, command.Plain := by
  intro command member
  obtain ⟨config,_,mapped⟩ := List.mem_flatMap.mp member
  exact plain_map config chainConfigs command mapped

variable {prim lib}

/-- One call goes on with commands in order. -/
theorem Tidy.of_calls {self next : System} (tidy : Tidy prim self) (call : Nat)
    (others : ∀ other, other ≠ call → next.calls.get other = self.calls.get other)
    (adding : ∀ service waits commands, next.calls.get call = some (.adding service waits commands) →
      ∃ rest, commands = Call.managerCommands prim service ++ rest ∧ ∀ command ∈ rest, command.Plain)
    (sending : ∀ command commands, next.calls.get call = some (.sending (command::commands)) →
      ∀ other ∈ commands, other.Plain) : Tidy prim next where
  adding other service waits commands current := by
    by_cases same : other = call
    · subst other
      exact adding service waits commands current
    · rw [others other same] at current
      exact tidy.adding other service waits commands current
  sending other command commands current := by
    by_cases same : other = call
    · subst other
      exact sending command commands current
    · rw [others other same] at current
      exact tidy.sending other command commands current

theorem Tidy.setCall {self next : System} (tidy : Tidy prim self) (call : Nat) (state : Option Call)
    (calls : next.calls = (self.setCall call state).calls)
    (adding : ∀ service waits commands, state = some (.adding service waits commands) →
      ∃ rest, commands = Call.managerCommands prim service ++ rest ∧ ∀ command ∈ rest, command.Plain)
    (sending : ∀ command commands, state = some (.sending (command::commands)) →
      ∀ other ∈ commands, other.Plain) : Tidy prim next := by
  refine tidy.of_calls call ?_ ?_ ?_
  · intro other apart
    rw [calls,calls_setCall,if_neg apart]
  · intro service waits commands current
    rw [calls,calls_setCall,if_pos rfl] at current
    exact adding service waits commands current
  · intro command commands current
    rw [calls,calls_setCall,if_pos rfl] at current
    exact sending command commands current

/-- The first command of a registered service's call is its manager's own. -/
theorem Tidy.registers {self : System} (tidy : Tidy prim self) (call : Nat) (service : Service)
    (commands : List TriggerCommand) (current : self.calls.get call = some (.adding service [] commands)) :
    (∀ command rest, commands = command::rest → ∀ other ∈ rest, other.Plain) ∧
      Call.duty (.sending commands) =
        match service.manager with
        | .stellar chain projectRoot => some (.watch (service.id prim) chain projectRoot)
        | _ => none := by
  obtain ⟨rest,rfl,plain⟩ := tidy.adding call service [] commands current
  unfold Call.managerCommands
  cases service.manager with
  | stellar chain projectRoot =>
    refine ⟨?_,rfl⟩
    rintro command others same other member
    cases same
    exact plain other member
  | evm chain address =>
    refine ⟨?_,rfl⟩
    rintro command others same other member
    cases same
    exact plain other member
  | cosmos chain address =>
    refine ⟨?_,duty_of_plain rest plain⟩
    rintro command others same other member
    apply plain
    rw [show rest = command::others from same]
    exact List.mem_cons_of_mem command member

/-- A pending watch command is in the queue, or the next that a call sends. -/
theorem Tidy.pending {self : System} (tidy : Tidy prim self) (serviceId : ServiceId) (chain : ChainKey)
    (projectRoot : FixedBytes 32) (pending : self.Pending (.watchStellarServiceUri serviceId chain projectRoot)) :
    (∃ call, self.duty call = some (.watch serviceId chain projectRoot)) ∨
      .watchStellarServiceUri serviceId chain projectRoot ∈ self.queue := by
  rcases pending with queued | ⟨call,commands,current,member⟩
  · exact .inr queued
  · cases commands with
    | nil => cases member
    | cons command commands =>
      rcases List.mem_cons.mp member with rfl | later
      · refine .inl ⟨call,?_⟩
        unfold duty
        rw [current]
        rfl
      · exact (tidy.sending call command commands current _ later).elim

variable (prim) (lib)

/-- A service is registered only when it is not registered as Stellar-managed, a
Stellar-managed one only when all its triggers are accepted and no removal of it is under
way. A removal looks at the subscription only when no call has the watch command of the
service still to send, and, where there is none, when the queue leads to none. A Stellar
controller comes only when the watch commands of its chain's registered services are still
to come. -/
def Unraced (self : System) : Act → Prop
  | .advance call =>
    match self.calls.get call with
    | some (.adding service [] _) => self.uriOf (service.id prim) = none ∧
      match service.manager with
      | .stellar _ _ =>
        (∀ entry ∈ service.workflows.entries, self.watcher.lookup.Accepts cron entry.2.trigger) ∧
          ∀ holder duty, self.duty holder = some duty → ¬duty.Leaves (service.id prim)
      | _ => True
    | some (.removing serviceId) =>
      (∀ holder duty, self.duty holder = some duty → ¬duty.Watches serviceId) ∧
        (self.watcher.stellarUriSubscriptions.get serviceId = none →
          Register.settle (TriggerCommand.uriWrite serviceId) none self.queue = none)
    | _ => True
  | .process connecting => ∀ chain ∈ self.queue.head?.bind TriggerCommand.starting, ∀ config,
    self.watcher.StellarStarts connecting chain config → ∀ serviceId projectRoot,
      self.managers.get serviceId = some (.stellar config.chainKey projectRoot) →
        self.Pending (.watchStellarServiceUri serviceId config.chainKey projectRoot)
  | _ => True

/-- The invariant. -/
structure Orderly (system : System) : Prop where
  recorded : Recorded lib system
  heading : ∀ serviceId, Heading system serviceId
  tidy : Tidy prim system

theorem orderly_new (chainConfigs : ChainConfigs) (disableNetworking : Bool) :
    Orderly prim lib (new chainConfigs disableNetworking) where
  recorded := by
    refine ⟨⟨?_,⟨?_,?_⟩,?_,?_⟩,?_,?_⟩
    · intro id config found
      simp [new,Manager.new,Manager.watch,LookupMaps.new] at found
    · intro rpcId id related
      exact absurd related (BiMap.not_relates_new rpcId id)
    · intro id config chain found
      simp [new,Manager.new,Manager.watch,LookupMaps.new] at found
    · intro rpcId id config chain related
      exact absurd related (BiMap.not_relates_new rpcId id)
    · intro chain rpcId own
      exact absurd rfl own
    · intro chain rpcId serviceId root owned
      cases owned
    · intro serviceId chain rpcId found
      simp [new,Manager.new,Manager.watch] at found
  heading serviceId := by
    have idle : ∀ call, (new chainConfigs disableNetworking).duty call = none := fun call => rfl
    refine ⟨trivial,?_,fun _ => .inl rfl,?_,?_,?_⟩
    · intro chain projectRoot managed
      cases managed
    · intro call chain projectRoot present
      rw [idle] at present
      cases present
    · intro call other chain projectRoot duty present
      rw [idle] at present
      cases present
    · intro call duty present
      rw [idle] at present
      cases present
  tidy := by
    refine ⟨?_,?_⟩
    · intro call service waits commands current
      cases current
    · intro call command commands current
      cases current

variable {cron prim lib}

theorem orderly_setCall (self : System) (call : Nat) (state : Option Call) (sent : List TriggerCommand)
    (heading : ∀ serviceId, Heading ({self with queue := self.queue ++ sent}.setCall call state) serviceId)
    (adding : ∀ service waits commands, state = some (.adding service waits commands) →
      ∃ rest, commands = Call.managerCommands prim service ++ rest ∧ ∀ command ∈ rest, command.Plain)
    (sending : ∀ command commands, state = some (.sending (command::commands)) →
      ∀ other ∈ commands, other.Plain)
    (orderly : Orderly prim lib self) :
    Orderly prim lib ({self with queue := self.queue ++ sent}.setCall call state) where
  recorded := by
    have recorded := orderly.recorded
    apply recorded.of_keeps
    · rw [watcher_setCall]
      exact (StellarControllers.Retains.refl _).toKeeps
    · rw [watcher_setCall]
      exact recorded.apart
    · rw [owners_setCall]
    · rw [watcher_setCall]
  heading := heading
  tidy := by
    refine orderly.tidy.setCall call state ?_ adding sending
    cases state <;> rfl

theorem orderly_setCall_only (self : System) (call : Nat) (state : Option Call)
    (heading : ∀ serviceId, Heading (self.setCall call state) serviceId)
    (adding : ∀ service waits commands, state = some (.adding service waits commands) →
      ∃ rest, commands = Call.managerCommands prim service ++ rest ∧ ∀ command ∈ rest, command.Plain)
    (sending : ∀ command commands, state = some (.sending (command::commands)) →
      ∀ other ∈ commands, other.Plain)
    (orderly : Orderly prim lib self) : Orderly prim lib (self.setCall call state) := by
  have moved := orderly_setCall self call state [] (by simpa using heading) adding sending orderly
  simpa using moved

theorem duty_of_calls (self : System) (call : Nat) (state : Call) (current : self.calls.get call = some state) :
    self.duty call = state.duty := by
  unfold duty
  rw [current]
  rfl

/-- A call before its registration goes on before it, or gives up. -/
theorem orderly_adding (self : System) (call : Nat) (service : Service) (waits : List Wait)
    (commands sent : List TriggerCommand) (state : Option Call)
    (current : self.calls.get call = some (.adding service waits commands))
    (plain : ∀ command ∈ sent, command.Plain)
    (stays : state = none ∨ ∃ rest, state = some (.adding service rest commands))
    (orderly : Orderly prim lib self) :
    Orderly prim lib ({self with queue := self.queue ++ sent}.setCall call state) := by
  have idle : state.bind Call.duty = none := by
    rcases stays with rfl | ⟨rest,rfl⟩ <;> rfl
  have moved := self.moved_setCall call state sent
  rw [idle] at moved
  apply orderly_setCall self call state sent
    (heading_idle moved plain (self.duty_of_calls call _ current) orderly.heading)
  · intro other others later same
    rcases stays with rfl | ⟨rest,rfl⟩
    · cases same
    · cases same
      exact orderly.tidy.adding call service waits commands current
  · intro command others same
    rcases stays with rfl | ⟨rest,rfl⟩ <;> cases same
  · exact orderly

/-- A call sends its next command. -/
theorem orderly_sends (self : System) (call : Nat) (command : TriggerCommand) (commands : List TriggerCommand)
    (current : self.calls.get call = some (.sending (command::commands))) (orderly : Orderly prim lib self) :
    Orderly prim lib ((self.send command).setCall call (some (.sending commands))) := by
  have plain := orderly.tidy.sending call command commands current
  have moved := self.moved_setCall call (some (.sending commands)) [command]
  rw [Option.bind_some,duty_of_plain commands plain] at moved
  have present := self.duty_of_calls call _ current
  apply orderly_setCall self call _ [command] _ _ _ orderly
  · cases command with
    | watchStellarServiceUri service chain projectRoot =>
      exact heading_watch service orderly.heading chain projectRoot present moved
    | unwatchStellarServiceUri service => exact heading_unwatch service orderly.heading present moved
    | _ =>
      apply heading_idle moved _ present orderly.heading
      intro other member
      rw [List.mem_singleton.mp member]
      trivial
  · intro service waits others same
    cases same
  · intro first others same other member
    cases same
    exact plain other (List.mem_cons_of_mem first member)

/-- A removal looks at the subscription. -/
theorem orderly_check (self : System) (call : Nat) (serviceId : ServiceId) (state : Option Call)
    (current : self.calls.get call = some (.removing serviceId))
    (free : ∀ holder duty, self.duty holder = some duty → ¬duty.Watches serviceId)
    (outcome : state = some (.sending [.unwatchStellarServiceUri serviceId]) ∨
      state = none ∧ self.ends serviceId = none)
    (orderly : Orderly prim lib self) : Orderly prim lib (self.setCall call state) := by
  apply orderly_setCall_only self call state _ _ _ orderly
  · apply heading_check serviceId orderly.heading (state.bind Call.duty) (self.duty_of_calls call _ current)
      (self.moved_setCall_only call state) free
    rcases outcome with rfl | ⟨rfl,empty⟩
    · exact .inl rfl
    · exact .inr ⟨rfl,empty⟩
  · intro service waits commands same
    rcases outcome with rfl | ⟨rfl,_⟩ <;> cases same
  · intro command commands same
    rcases outcome with rfl | ⟨rfl,_⟩
    · cases same
      exact fun _ member => by cases member
    · cases same

/-- The lookup maps change, a manager is entered or taken out, and a call goes on. -/
theorem Recorded.relooked {self : System} (recorded : Recorded lib self) (lookup : Lookup)
    (spares : self.watcher.lookup.Spares self.Owned lookup) (managers : HashMap ServiceId ServiceManager)
    (call : Nat) (state : Option Call) :
    Recorded lib (setCall {self.setLookup lookup with managers := managers} call state) := by
  apply recorded.of_keeps
  · rw [watcher_setCall]
    exact spares.retains.toKeeps
  · rw [watcher_setCall]
    exact spares.apart
  · rw [owners_setCall]
    rfl
  · rw [watcher_setCall]
    rfl

theorem held_relooked (self : System) (lookup : Lookup) (managers : HashMap ServiceId ServiceManager)
    (call : Nat) (state : Option Call) (serviceId : ServiceId) :
    (setCall {self.setLookup lookup with managers := managers} call state).held serviceId =
      self.held serviceId :=
  held_congr _ _ (owners_setCall _ _ _) (by rw [watcher_setCall]) serviceId

theorem absent_relooked (self : System) (lookup : Lookup)
    (spares : self.watcher.lookup.Spares self.Owned lookup) (managers : HashMap ServiceId ServiceManager)
    (call : Nat) (state : Option Call) (chain : ChainKey)
    (missing : self.watcher.lookup.stellarControllers.get chain = none) :
    (setCall {self.setLookup lookup with managers := managers} call
      state).watcher.lookup.stellarControllers.get chain = none := by
  rw [watcher_setCall]
  exact spares.retains.absent chain missing

theorem uriOf_relooked (self : System) (lookup : Lookup) (managers : HashMap ServiceId ServiceManager)
    (call : Nat) (state : Option Call) (serviceId : ServiceId) :
    (setCall {self.setLookup lookup with managers := managers} call state).uriOf serviceId =
      (managers.get serviceId).bind projectRootOf := by
  unfold uriOf
  rw [managers_setCall]

theorem duty_relooked (self : System) (lookup : Lookup) (managers : HashMap ServiceId ServiceManager)
    (call : Nat) (state : Option Call) (holder : Nat) :
    (setCall {self.setLookup lookup with managers := managers} call state).duty holder =
      if holder = call then state.bind Call.duty else self.duty holder := by
  rw [duty_setCall]
  rfl

theorem tidy_relooked (self : System) (lookup : Lookup) (managers : HashMap ServiceId ServiceManager)
    (call : Nat) (state : Option Call) (tidy : Tidy prim self)
    (adding : ∀ service waits commands, state ≠ some (.adding service waits commands))
    (sending : ∀ command commands, state = some (.sending (command::commands)) →
      ∀ other ∈ commands, other.Plain) :
    Tidy prim (setCall {self.setLookup lookup with managers := managers} call state) := by
  refine tidy.setCall call state ?_ (fun service waits commands same => absurd same (adding service waits commands))
    sending
  cases state <;> rfl

theorem orderly_register (self : System) (call : Nat) (service : Service) (commands : List TriggerCommand)
    (current : self.calls.get call = some (.adding service [] commands))
    (unraced : self.Unraced cron prim (.advance call)) (orderly : Orderly prim lib self) :
    Orderly prim lib (self.register cron prim call service commands) := by
  simp only [Unraced,current] at unraced
  obtain ⟨unmanaged,accepted⟩ := unraced
  obtain ⟨tail,duties⟩ := orderly.tidy.registers call service commands current
  have spares := Lookup.spares_addService cron prim self.watcher.lookup service orderly.recorded.apart
  have idle := self.duty_of_calls call _ current
  rcases result : self.watcher.lookup.addService cron prim service with ⟨lookup,answer⟩
  rw [result] at spares
  have state : ∃ state, self.register cron prim call service commands = setCall {self.setLookup lookup with
        managers := self.managers.insert (service.id prim) service.manager} call state ∧
      (state = some (.sending commands) ∨ state = none ∧ ∀ entry, answer ≠ .ok entry) := by
    simp only [register,result]
    cases answer with
    | ok _ => exact ⟨_,rfl,.inl rfl⟩
    | error error => exact ⟨_,rfl,.inr ⟨rfl,fun _ same => by cases same⟩⟩
  obtain ⟨state,registered,answered⟩ := state
  rw [registered]
  refine ⟨orderly.recorded.relooked lookup spares _ call state,?_,?_⟩
  · cases managed : service.manager with
    | stellar chain projectRoot =>
      simp only [managed] at accepted duties
      have sent : state = some (.sending commands) := by
        rcases answered with sent | ⟨_,refused⟩
        · exact sent
        · obtain ⟨_,added⟩ := Lookup.addService_accepts cron prim self.watcher.lookup service accepted.1
          rw [result] at added
          cases added
          exact absurd rfl (refused ())
      apply heading_register self _ call (service.id prim) chain projectRoot orderly.heading
      · rw [queue_setCall]
        rfl
      · exact self.held_relooked lookup _ call state
      · exact self.absent_relooked lookup spares _ call state
      · intro serviceId
        rw [uriOf_relooked,HashMap.get_insert]
        by_cases same : serviceId = service.id prim
        · rw [if_pos same,if_pos same]
          rfl
        · rw [if_neg same,if_neg same]
          rfl
      · exact idle
      · rw [duty_relooked,if_pos rfl,sent]
        exact duties
      · intro holder apart
        rw [duty_relooked,if_neg apart]
      · exact unmanaged
      · exact accepted.2
    | _ =>
      simp only [managed] at duties
      have quiet : state.bind Call.duty = none := by
        rcases answered with rfl | ⟨rfl,_⟩
        · exact duties
        · rfl
      intro serviceId
      apply (orderly.heading serviceId).of_other call []
      · rw [queue_setCall,List.append_nil]
        rfl
      · intro command member
        cases member
      · exact self.held_relooked lookup _ call state serviceId
      · rw [uriOf_relooked,HashMap.get_insert]
        by_cases same : serviceId = service.id prim
        · rw [if_pos same,same,unmanaged]
          rfl
        · rw [if_neg same]
          rfl
      · exact self.absent_relooked lookup spares _ call state
      · intro holder apart
        rw [duty_relooked,if_neg apart]
      · intro duty present
        rw [idle] at present
        cases present
      · intro duty present
        rw [duty_relooked,if_pos rfl,quiet] at present
        cases present
  · apply self.tidy_relooked lookup _ call state orderly.tidy
    · intro other waits others same
      rcases answered with rfl | ⟨rfl,_⟩ <;> cases same
    · intro command others same
      rcases answered with rfl | ⟨rfl,_⟩
      · cases same
        exact tail command others rfl
      · cases same

theorem orderly_unregister (self : System) (call : Nat) (serviceId : ServiceId)
    (free : self.calls.get call = none) (orderly : Orderly prim lib self) :
    Orderly prim lib (self.unregister cron call serviceId) := by
  obtain ⟨lookup,result,spares⟩ :=
    Lookup.spares_removeService cron self.watcher.lookup serviceId orderly.recorded.apart
  simp only [unregister,result]
  refine ⟨orderly.recorded.relooked lookup spares _ call _,?_,?_⟩
  · apply heading_unregister self _ call serviceId orderly.heading
    · rw [queue_setCall]
      rfl
    · exact self.held_relooked lookup _ call _
    · exact self.absent_relooked lookup spares _ call _
    · intro other
      rw [uriOf_relooked,HashMap.get_remove]
      by_cases same : other = serviceId
      · rw [if_pos same,if_pos same]
        rfl
      · rw [if_neg same,if_neg same]
        rfl
    · unfold duty
      rw [free]
      rfl
    · rw [duty_relooked,if_pos rfl]
      rfl
    · intro holder apart
      rw [duty_relooked,if_neg apart]
  · apply self.tidy_relooked lookup _ call _ orderly.tidy
    · intro service waits commands same
      cases same
    · intro command commands same
      cases same

theorem orderly_process (self : System) (connecting : Connecting) (command : TriggerCommand)
    (queue : List TriggerCommand) (watcher : Watcher) (commands : List DispatcherCommand)
    (first : self.queue = command::queue)
    (handled : self.watcher.onLocalCommand lib connecting command = (watcher,.sent commands))
    (unraced : self.Unraced cron prim (.process connecting)) (orderly : Orderly prim lib self) :
    Orderly prim lib (self.taken watcher command queue) := by
  have free : ∀ serviceId chain projectRoot, command = .watchStellarServiceUri serviceId chain projectRoot →
      self.held serviceId = none := by
    rintro serviceId chain projectRoot rfl
    have ordered := (orderly.heading serviceId).orderly
    rw [first] at ordered
    exact ordered.1 (chain,projectRoot) (by simp [TriggerCommand.uriWrite])
  obtain ⟨recorded,written⟩ := process_taken connecting self watcher command commands queue orderly.recorded handled
    free
  refine ⟨recorded,?_,orderly.tidy.adding,orderly.tidy.sending⟩
  apply heading_process connecting self _ command queue first rfl written rfl rfl _ orderly.heading
  rintro on config serviceId projectRoot rfl starts managed
  simp only [Unraced,first] at unraced
  apply orderly.tidy.pending
  exact unraced on rfl config starts serviceId projectRoot ((self.uriOf_eq_some _ _ _).mp managed)

/-- A step that leaves the lookup maps, the subscriptions and the calls. -/
theorem orderly_still (self next : System) (sent : List TriggerCommand) (plain : ∀ command ∈ sent, command.Plain)
    (queue : next.queue = self.queue ++ sent) (lookup : next.watcher.lookup = self.watcher.lookup)
    (subscriptions : next.watcher.stellarUriSubscriptions = self.watcher.stellarUriSubscriptions)
    (calls : next.calls = self.calls) (managers : next.managers = self.managers)
    (owners : next.owners = self.owners) (orderly : Orderly prim lib self) : Orderly prim lib next where
  recorded := by
    apply orderly.recorded.of_keeps _ _ owners subscriptions
    · rw [lookup]
      exact (StellarControllers.Retains.refl _).toKeeps
    · rw [lookup]
      exact orderly.recorded.apart
  heading serviceId := by
    apply (orderly.heading serviceId).of_same sent queue
      (fun command member => (plain command member).uriWrite serviceId) (held_congr _ _ owners subscriptions serviceId)
    · unfold uriOf
      rw [managers]
    · intro chain missing
      rw [lookup]
      exact missing
    · intro holder duty _
      unfold System.duty
      rw [calls]
  tidy := by
    refine ⟨?_,?_⟩
    · rw [calls]
      exact orderly.tidy.adding
    · rw [calls]
      exact orderly.tidy.sending

variable (cron prim lib)

theorem orderly_step (self next : System) (act : Act) (stepped : self.step cron prim lib act = some next)
    (unraced : self.Unraced cron prim act) (orderly : Orderly prim lib self) : Orderly prim lib next := by
  have moved := moves cron prim lib self next act stepped
  cases moved with
  | begins call service free =>
    have idle : self.duty call = none := by
      unfold duty
      rw [free]
      rfl
    have begun := orderly_setCall_only self call (some (.addService prim self.watcher.chainConfigs service))
      (heading_idle (self.moved_setCall_only call _) (fun _ member => by cases member) idle orderly.heading)
      (by
        intro other waits commands same
        cases same
        exact ⟨_,rfl,plain_workflowCommands prim self.watcher.chainConfigs service⟩)
      (by
        intro command commands same
        cases same) orderly
    exact ⟨⟨begun.recorded.apart,begun.recorded.live,begun.recorded.handle⟩,
      fun serviceId => ⟨(begun.heading serviceId).orderly,(begun.heading serviceId).registered,
        (begun.heading serviceId).unregistered,(begun.heading serviceId).watching,
        (begun.heading serviceId).alone,(begun.heading serviceId).leaving⟩,
      begun.tidy.adding,begun.tidy.sending⟩
  | starts call service chain waits commands current =>
    refine orderly_adding self call service _ commands [.startListeningChain chain] _ current ?_ (.inr ⟨waits,rfl⟩)
      orderly
    intro command member
    rw [List.mem_singleton.mp member]
    trivial
  | waits call service chain waits commands current =>
    have stayed := orderly_adding self call service _ commands [] _ current (fun _ member => by cases member)
      (.inr ⟨waits,rfl⟩) orderly
    simpa using stayed
  | registers call service commands current =>
    exact orderly_register self call service commands current unraced orderly
  | sends call command commands current => exact orderly_sends self call command commands current orderly
  | returns call current =>
    apply orderly_setCall_only self call none _ _ _ orderly
    · exact heading_idle (self.moved_setCall_only call none) (fun _ member => by cases member)
        (self.duty_of_calls call _ current) orderly.heading
    · intro service waits commands same
      cases same
    · intro command commands same
      cases same
  | tracked call serviceId current found =>
    simp only [Unraced,current] at unraced
    exact orderly_check self call serviceId _ current unraced.1 (.inl rfl) orderly
  | untracked call serviceId current missing =>
    simp only [Unraced,current] at unraced
    refine orderly_check self call serviceId _ current unraced.1 (.inr ⟨rfl,?_⟩) orderly
    unfold ends
    rw [(orderly.recorded.held_eq_none serviceId).mpr missing]
    exact unraced.2 missing
  | givesUp call service waits commands current =>
    have stayed := orderly_adding self call service waits commands [] none current (fun _ member => by cases member)
      (.inl rfl) orderly
    simpa using stayed
  | unregisters call serviceId free => exact orderly_unregister self call serviceId free orderly
  | configures key config chainConfigs added =>
    exact orderly_still self _ [] (fun _ member => by cases member) (List.append_nil _).symm rfl rfl rfl rfl rfl
      orderly
  | refuses key config => exact orderly
  | notifies chain =>
    refine orderly_still self _ [.startListeningChain chain] ?_ rfl rfl rfl rfl rfl rfl orderly
    intro command member
    rw [List.mem_singleton.mp member]
    trivial
  | processes connecting command queue watcher commands first handled =>
    exact orderly_process self connecting command queue watcher commands first handled unraced orderly
  | connects chain act client after quiet found moved =>
    exact orderly_still self _ [] (fun _ member => by cases member) (List.append_nil _).symm rfl rfl rfl rfl rfl
      orderly

/-- In every run in which no removal looks at a subscription that a pending watch command is
still to fill, no service is added twice or while it is being removed or with a refused
trigger, and no Stellar controller comes after a watch command for it was dropped, every
state with an empty queue, no call with a watch or unwatch command or a look at the
subscriptions still to come, and all the controllers has its URI filters tracked. -/
theorem uri_filters_track (chainConfigs : ChainConfigs) (disableNetworking : Bool) (acts : List Act)
    (final : System) (reached : run (step cron prim lib) (new chainConfigs disableNetworking) acts = some final)
    (unraced : Along (step cron prim lib) (fun self act _ => self.Unraced cron prim act)
      (new chainConfigs disableNetworking) acts)
    (empty : final.queue = []) (settled : ∀ call, final.duty call = none)
    (controlled : ∀ serviceId chain projectRoot, final.managers.get serviceId = some (.stellar chain projectRoot) →
      final.watcher.lookup.stellarControllers.get chain ≠ none) : final.UrisTracked lib := by
  have orderly := invariant_along _ (Orderly prim lib)
    (fun self act next taken unraced orderly => orderly_step cron prim lib self next act taken unraced orderly)
    _ final acts reached unraced (orderly_new prim lib chainConfigs disableNetworking)
  have recorded := orderly.recorded
  have ends : ∀ serviceId, final.ends serviceId = final.held serviceId := by
    intro serviceId
    unfold System.ends
    rw [empty,Register.settle_nil]
  refine ⟨?_,?_⟩
  · intro serviceId chain projectRoot managed
    have uri := (final.uriOf_eq_some serviceId chain projectRoot).mpr managed
    rcases (orderly.heading serviceId).registered chain projectRoot uri with held | ⟨call,watching⟩ | ⟨missing,_⟩
    · rw [ends] at held
      unfold System.held at held
      obtain ⟨⟨on,rpcId⟩,found,owned⟩ := Option.bind_eq_some_iff.mp held
      obtain ⟨⟨owner,root⟩,minted,same⟩ := Option.map_eq_some_iff.mp owned
      cases same
      obtain ⟨_,again,handles⟩ := recorded.handle serviceId on rpcId found
      rw [minted] at again
      cases again
      refine ⟨rpcId,found,minted,handles,?_⟩
      intro other otherId otherRoot foreign live
      have known := recorded.live other otherId serviceId otherRoot foreign live
      rw [found] at known
      cases known
      exact ⟨rfl,rfl⟩
    · rw [settled] at watching
      cases watching
    · exact absurd missing (controlled serviceId chain projectRoot managed)
  · intro chain rpcId serviceId root owned live
    have found := recorded.live chain rpcId serviceId root owned live
    cases managed : final.uriOf serviceId with
    | none =>
      rcases (orderly.heading serviceId).unregistered managed with none_ | ⟨call,duty,present,_⟩
      · rw [ends,recorded.held_eq_none,found] at none_
        cases none_
      · rw [settled] at present
        cases present
    | some uri => exact ⟨uri.1,uri.2,(final.uriOf_eq_some serviceId uri.1 uri.2).mp managed⟩

/-- What holds of every duty of the calls in progress can be tested. -/
instance decidableDuties (self : System) (holds : Duty → Prop) [DecidablePred holds] :
    Decidable (∀ holder duty, self.duty holder = some duty → holds duty) :=
  decidable_of_iff (∀ entry ∈ self.calls.iter, ∀ duty ∈ entry.2.duty, holds duty) (by
    constructor
    · intro checked holder duty present
      obtain ⟨state,current,own⟩ := Option.bind_eq_some_iff.mp present
      exact checked (holder,state) ((HashMap.mem_iter _ _ _).mpr current) duty own
    · intro held entry member duty own
      have current := (HashMap.mem_iter _ entry.1 entry.2).mp member
      exact held entry.1 duty ((self.duty_of_calls entry.1 entry.2 current).trans own))

instance (self : System) (command : TriggerCommand) : Decidable (self.Pending command) :=
  decidable_of_iff (command ∈ self.queue ∨ ∃ entry ∈ self.calls.iter, command ∈ entry.2.unsent) (by
    unfold Pending
    apply or_congr_right
    constructor
    · rintro ⟨⟨call,state⟩,member,unsent⟩
      have current := (HashMap.mem_iter _ call state).mp member
      cases state with
      | sending commands => exact ⟨call,commands,current,unsent⟩
      | adding service waits commands => cases unsent
      | removing serviceId => cases unsent
    · rintro ⟨call,commands,current,member⟩
      exact ⟨(call,.sending commands),(HashMap.mem_iter _ _ _).mpr current,member⟩)

instance (self : Watcher) (connecting : Connecting) (chain : ChainKey) (config : StellarChainConfig) :
    Decidable (self.StellarStarts connecting chain config) :=
  decidable_of_iff (self.disableNetworking = false ∧ self.listeningChainStates chain = .waiting ∧
    self.chainConfigs.getChain chain = some (.stellar config) ∧ config.rpcUrl.isEmpty = false ∧
    (self.lookup.stellarControllers.get config.chainKey).isNone = true ∧ connecting.stellarController = .ok () ∧
    connecting.stellarEventStream = .ok () ∧ connecting.stellarLedgerStream = .ok ()) (by
      rw [Option.isNone_iff_eq_none]
      constructor
      · rintro ⟨online,waiting,found,endpoint,absent,created,events,ledgers⟩
        exact ⟨online,waiting,found,endpoint,absent,created,events,ledgers⟩
      · rintro ⟨online,waiting,found,endpoint,absent,created,events,ledgers⟩
        exact ⟨online,waiting,found,endpoint,absent,created,events,ledgers⟩)

instance decidableUnwatched (self : System) (connecting : Connecting) (chain : ChainKey) :
    Decidable (∀ config, self.watcher.StellarStarts connecting chain config → ∀ serviceId projectRoot,
      self.managers.get serviceId = some (.stellar config.chainKey projectRoot) →
        self.Pending (.watchStellarServiceUri serviceId config.chainKey projectRoot)) :=
  match found : self.watcher.chainConfigs.getChain chain with
  | some (.stellar config) =>
    decidable_of_iff (self.watcher.StellarStarts connecting chain config → ∀ entry ∈ self.managers.iter,
      ∀ uri ∈ projectRootOf entry.2, uri.1 = config.chainKey →
        self.Pending (.watchStellarServiceUri entry.1 uri.1 uri.2)) (by
      constructor
      · intro checked other starts serviceId projectRoot managed
        have same := starts.found
        rw [found] at same
        cases same
        exact checked starts (serviceId,_) ((HashMap.mem_iter _ _ _).mpr managed)
          (config.chainKey,projectRoot) rfl rfl
      · rintro held starts ⟨serviceId,manager⟩ member ⟨on,projectRoot⟩ own rfl
        have managed := (HashMap.mem_iter _ serviceId manager).mp member
        cases manager with
        | stellar onto root =>
          cases own
          exact held config starts serviceId projectRoot managed
        | evm onto address => cases own
        | cosmos onto address => cases own)
  | none => .isTrue (fun config starts => by
    have same := starts.found
    rw [found] at same
    cases same)
  | some (.evm _) => .isTrue (fun config starts => by
    have same := starts.found
    rw [found] at same
    cases same)
  | some (.cosmos _) => .isTrue (fun config starts => by
    have same := starts.found
    rw [found] at same
    cases same)

instance (self : System) (act : Act) : Decidable (self.Unraced cron prim act) :=
  match act with
  | .advance call =>
    match current : self.calls.get call with
    | some (.adding service [] _) =>
      match managed : service.manager with
      | .stellar _ _ =>
        decidable_of_iff (self.uriOf (service.id prim) = none ∧
          (∀ entry ∈ service.workflows.entries, self.watcher.lookup.Accepts cron entry.2.trigger) ∧
            ∀ holder duty, self.duty holder = some duty → ¬duty.Leaves (service.id prim))
          (by simp only [Unraced,current,managed])
      | .evm _ _ => decidable_of_iff (self.uriOf (service.id prim) = none) (by simp [Unraced,current,managed])
      | .cosmos _ _ => decidable_of_iff (self.uriOf (service.id prim) = none) (by simp [Unraced,current,managed])
    | some (.removing serviceId) =>
      decidable_of_iff ((∀ holder duty, self.duty holder = some duty → ¬duty.Watches serviceId) ∧
        (self.watcher.stellarUriSubscriptions.get serviceId = none →
          Register.settle (TriggerCommand.uriWrite serviceId) none self.queue = none))
        (by simp only [Unraced,current])
    | none => .isTrue (by simp [Unraced,current])
    | some (.adding _ (_::_) _) => .isTrue (by simp [Unraced,current])
    | some (.sending _) => .isTrue (by simp [Unraced,current])
  | .process connecting =>
    decidable_of_iff (∀ chain ∈ self.queue.head?.bind TriggerCommand.starting, ∀ config,
      self.watcher.StellarStarts connecting chain config → ∀ serviceId projectRoot,
        self.managers.get serviceId = some (.stellar config.chainKey projectRoot) →
          self.Pending (.watchStellarServiceUri serviceId config.chainKey projectRoot)) Iff.rfl
  | .addService _ _ => .isTrue trivial
  | .removeService _ _ => .isTrue trivial
  | .timeout _ => .isTrue trivial
  | .addChain _ _ => .isTrue trivial
  | .notify _ => .isTrue trivial
  | .connection _ _ => .isTrue trivial

end Steps

end System

/-- The contract that manages the services of the schedules. -/
def rootContract : FixedBytes 32 := .filled 32 7

def rootId : ServiceId :=
  ⟨FixedBytes.ofNat 32 0xe3a8a6d51749eb3477e963ea366abc8653a4979932f6d18ebeff717b3d20fec5⟩

/-- SHA-256 on the one preimage the schedules look up. -/
def rootIds : IdPrimitives where
  sha256 bytes := if bytes = utf8 "stellarstellar:testnet" ++ rootContract.toList then rootId.inner
    else FixedBytes.filled 32 0
  cosmosBytes _ := []

/-- The strkey crate on the one contract of the schedules. -/
def rootLib : EventLib where
  decodeLogData _ := .error "type check failed"
  isUri _ := false
  isType _ _ := false
  contractFromString _ := none
  contractDisplay contract :=
    if contract = rootContract then "CADQOBYHA4DQOBYHA4DQOBYHA4DQOBYHA4DQOBYHA4DQOBYHA4DQP5KR" else ""
  base64Decode _ := none
  fromXdr _ := none

/-- A service with a Stellar manager and a Stellar trigger. -/
def rootService : Service :=
  {deployedService with
    manager := .stellar testnet rootContract
    workflows := ⟨[(observedWorkflow,⟨transferTrigger testnet,noopComponent,.none⟩)],by decide⟩}

def testnetConfig : AnyChainConfig :=
  .stellar ⟨testnet.id,5000,"https://soroban-testnet.stellar.org","Test SDF Network ; September 2015",none⟩

/-- A system that starts without any chain. -/
def unconfiguredSystem : System := .new ⟨.new,.new,.new,.new⟩ false

/-- `add_service` until it returns, with its two start commands handled. -/
def adds (keys : SlotKeys) (call : Nat) : List System.Act :=
  [.addService call rootService,.advance call,.advance call,
    .process {Connecting.succeeds with stellarKeys := keys},.process .succeeds,.advance call,
    .advance call,.advance call,.advance call,.advance call]

/-- The service is added, removed and added again, each call after the commands of the one
before. -/
def unracedSchedule : List System.Act :=
  List.flatten [[.addChain testnet testnetConfig],adds (.reused 2 (by decide)) 0,
    [.process .succeeds,.process .succeeds],[.removeService 1 rootId,.advance 1,.advance 1,.advance 1],
    adds (.reused 2 (by decide)) 2,
    [.process .succeeds,.process .succeeds,.process .succeeds]]

theorem unracedSchedule_tracks :
    ∃ final, run (System.step everyMinute rootIds rootLib) unconfiguredSystem unracedSchedule = some final ∧
      final.managers.get rootId = some (.stellar testnet rootContract) ∧
      final.watcher.stellarUriSubscriptions.get rootId = some (testnet,12884901889) ∧ final.UrisTracked rootLib := by
  have runs : (run (System.step everyMinute rootIds rootLib) unconfiguredSystem unracedSchedule).any
      (fun final => final.queue.isEmpty && final.calls.iter.isEmpty &&
        decide (final.managers.iter = [(rootId,.stellar testnet rootContract)]) &&
        (final.watcher.lookup.stellarControllers.get testnet).isSome &&
        decide (final.watcher.stellarUriSubscriptions.get rootId = some (testnet,12884901889))) = true := by
    decide +kernel
  obtain ⟨final,reached,checks⟩ := run_any _ _ _ _ runs
  simp only [Bool.and_eq_true,List.isEmpty_iff,decide_eq_true_eq] at checks
  obtain ⟨⟨⟨⟨empty,returned⟩,managers⟩,controlled⟩,recorded⟩ := checks
  have unraced : Along (System.step everyMinute rootIds rootLib)
      (fun self act _ => self.Unraced everyMinute rootIds act) unconfiguredSystem unracedSchedule := by
    decide +kernel
  have managed : ∀ serviceId manager, final.managers.get serviceId = some manager →
      serviceId = rootId ∧ manager = .stellar testnet rootContract := by
    intro serviceId manager found
    have member := (HashMap.mem_iter final.managers serviceId manager).mpr found
    rw [managers,List.mem_singleton] at member
    exact ⟨congrArg Prod.fst member,congrArg Prod.snd member⟩
  refine ⟨final,reached,(HashMap.mem_iter _ _ _).mp (by rw [managers]; exact List.mem_cons_self),recorded,?_⟩
  apply System.uri_filters_track everyMinute rootIds rootLib ⟨.new,.new,.new,.new⟩ false unracedSchedule final
    reached unraced empty
  · intro call
    cases current : final.calls.get call with
    | none =>
      unfold System.duty
      rw [current]
      rfl
    | some state =>
      have member := (HashMap.mem_iter final.calls call state).mpr current
      rw [returned] at member
      cases member
  · intro serviceId chain projectRoot found
    obtain ⟨_,same⟩ := managed serviceId _ found
    cases same
    exact Option.isSome_iff_ne_none.mp controlled

/-- The service is removed while its watch command is in the queue. -/
def racedSchedule : List System.Act :=
  List.flatten [[.addChain testnet testnetConfig],adds .reusedOnce 0,[.removeService 1 rootId,.advance 1],
    [.process .succeeds,.process .succeeds]]

/-- `remove_service` finds no subscription to drop, the watch command then makes one, and the
client keeps the filter of a service that is not registered. -/
theorem removed_service_stays_watched :
    ∃ final, run (System.step everyMinute rootIds rootLib) unconfiguredSystem racedSchedule = some final ∧
      final.queue = [] ∧ final.calls.iter = [] ∧ final.managers.iter = [] ∧
      final.owners testnet 12884901889 = some (rootId,rootContract) ∧ final.watcher.lookup.Live testnet 12884901889 ∧
      ¬final.UrisTracked rootLib := by
  have runs : (run (System.step everyMinute rootIds rootLib) unconfiguredSystem racedSchedule).any
      (fun final => final.queue.isEmpty && final.calls.iter.isEmpty && final.managers.iter.isEmpty &&
        decide (final.owners testnet 12884901889 = some (rootId,rootContract)) &&
        (final.watcher.lookup.stellarControllers.get testnet).any (fun controller =>
          (controller.eventFilters.list.get 12884901889).isSome)) = true := by
    decide +kernel
  obtain ⟨final,reached,checks⟩ := run_any _ _ _ _ runs
  simp only [Bool.and_eq_true,List.isEmpty_iff,decide_eq_true_eq,Option.any_eq_true] at checks
  obtain ⟨⟨⟨⟨empty,returned⟩,managers⟩,owned⟩,controller,found,named⟩ := checks
  have live : final.watcher.lookup.Live testnet 12884901889 := ⟨controller,found,Option.isSome_iff_ne_none.mp named⟩
  refine ⟨final,reached,empty,returned,managers,owned,live,?_⟩
  intro tracked
  obtain ⟨on,projectRoot,managed⟩ := tracked.unregistered testnet 12884901889 rootId rootContract owned live
  have member := (HashMap.mem_iter final.managers rootId _).mpr managed
  rw [managers] at member
  cases member

end Warpdrive.Trigger
