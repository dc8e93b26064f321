import Warpdrive.Foundation.Register
import Warpdrive.Trigger.Commands
import Warpdrive.Trigger.UriHandles

/-! The `UpdatedSpecRepo` filters of the Stellar-managed services, as the watcher keeps
them. The subscription of a service is a register that its watch and unwatch commands
write. -/
namespace Warpdrive.Trigger

open Warpdrive.Foundation Warpdrive.Types Warpdrive.Foundation.Execution

/-- The filter for the `UpdatedSpecRepo` events of a project root. -/
def uriFilter (lib : EventLib) (projectRoot : FixedBytes 32) : StellarEventFilter :=
  ⟨lib.contractDisplay projectRoot,[String.ofList (base64Encode updatedSpecRepoTopic.xdr)]⟩

def projectRootOf : ServiceManager → Option (ChainKey × FixedBytes 32)
  | .stellar chain projectRoot => some (chain,projectRoot)
  | _ => none

def TriggerCommand.starting : TriggerCommand → Option ChainKey
  | .startListeningChain chain => some chain
  | _ => none

/-- What a command writes into the subscription of a service. -/
def TriggerCommand.uriWrite (serviceId : ServiceId) : TriggerCommand → Option (Option (ChainKey × FixedBytes 32))
  | .watchStellarServiceUri other chain projectRoot =>
    if other = serviceId then some (some (chain,projectRoot)) else none
  | .unwatchStellarServiceUri other => if other = serviceId then some none else none
  | _ => none

def TriggerCommand.Plain : TriggerCommand → Prop
  | .watchStellarServiceUri _ _ _ => False
  | .unwatchStellarServiceUri _ => False
  | _ => True

theorem TriggerCommand.Plain.uriWrite {self : TriggerCommand} (plain : self.Plain) (serviceId : ServiceId) :
    self.uriWrite serviceId = none := by
  cases self <;> first | rfl | exact plain.elim

/-- What a call still has to do about a subscription: to send the watch command, to look
whether there is a subscription, or to send the unwatch command. -/
inductive Duty
  | watch (serviceId : ServiceId) (chain : ChainKey) (projectRoot : FixedBytes 32)
  | check (serviceId : ServiceId)
  | unwatch (serviceId : ServiceId)
  deriving DecidableEq

def Call.duty : Call → Option Duty
  | .sending (.watchStellarServiceUri serviceId chain projectRoot::_) => some (.watch serviceId chain projectRoot)
  | .sending (.unwatchStellarServiceUri serviceId::_) => some (.unwatch serviceId)
  | .removing serviceId => some (.check serviceId)
  | _ => none

namespace Duty

def service : Duty → ServiceId
  | .watch serviceId _ _ => serviceId
  | .check serviceId => serviceId
  | .unwatch serviceId => serviceId

def Watches (serviceId : ServiceId) : Duty → Prop
  | .watch other _ _ => other = serviceId
  | _ => False

def Leaves (serviceId : ServiceId) : Duty → Prop
  | .watch _ _ _ => False
  | .check other => other = serviceId
  | .unwatch other => other = serviceId

theorem Watches.service {self : Duty} {serviceId : ServiceId} (watches : self.Watches serviceId) :
    self.service = serviceId := by
  cases self <;> first | exact watches | exact watches.elim

theorem Leaves.service {self : Duty} {serviceId : ServiceId} (leaves : self.Leaves serviceId) :
    self.service = serviceId := by
  cases self <;> first | exact leaves | exact leaves.elim

instance (serviceId : ServiceId) (duty : Duty) : Decidable (duty.Watches serviceId) :=
  match duty with
  | .watch other _ _ => inferInstanceAs (Decidable (other = serviceId))
  | .check _ => .isFalse id
  | .unwatch _ => .isFalse id

instance (serviceId : ServiceId) (duty : Duty) : Decidable (duty.Leaves serviceId) :=
  match duty with
  | .watch _ _ _ => .isFalse id
  | .check other => inferInstanceAs (Decidable (other = serviceId))
  | .unwatch other => inferInstanceAs (Decidable (other = serviceId))

end Duty

namespace Watcher

/-- The start command makes the controller of a Stellar chain. -/
structure StellarStarts (watcher : Watcher) (connecting : Connecting) (chain : ChainKey)
    (config : StellarChainConfig) : Prop where
  online : watcher.disableNetworking = false
  waiting : watcher.listeningChainStates chain = .waiting
  found : watcher.chainConfigs.getChain chain = some (.stellar config)
  endpoint : config.rpcUrl.isEmpty = false
  absent : watcher.lookup.stellarControllers.get config.chainKey = none
  created : connecting.stellarController = .ok ()
  events : connecting.stellarEventStream = .ok ()
  ledgers : connecting.stellarLedgerStream = .ok ()

end Watcher

namespace System

def uriOf (self : System) (serviceId : ServiceId) : Option (ChainKey × FixedBytes 32) :=
  (self.managers.get serviceId).bind projectRootOf

theorem uriOf_eq_some (self : System) (serviceId : ServiceId) (chain : ChainKey) (projectRoot : FixedBytes 32) :
    self.uriOf serviceId = some (chain,projectRoot) ↔
      self.managers.get serviceId = some (.stellar chain projectRoot) := by
  unfold uriOf
  cases found : self.managers.get serviceId with
  | none => simp
  | some manager => cases manager <;> simp [projectRootOf]

def held (self : System) (serviceId : ServiceId) : Option (ChainKey × FixedBytes 32) :=
  (self.watcher.stellarUriSubscriptions.get serviceId).bind (fun handle =>
    (self.owners handle.1 handle.2).map (fun owner => (handle.1,owner.2)))

/-- What the subscription of a service is once the queue has been worked off. -/
def ends (self : System) (serviceId : ServiceId) : Option (ChainKey × FixedBytes 32) :=
  Register.settle (TriggerCommand.uriWrite serviceId) (self.held serviceId) self.queue

def duty (self : System) (call : Nat) : Option Duty := (self.calls.get call).bind Call.duty

/-- The handle was minted for a service URI. -/
def Owned (self : System) (chain : ChainKey) (rpcId : StellarRpcId) : Prop := self.owners chain rpcId ≠ none

/-- Every registered Stellar-managed service has one live handle, which is recorded, and
every live handle is that of a registered service. -/
structure UrisTracked (lib : EventLib) (system : System) : Prop where
  registered : ∀ serviceId chain projectRoot, system.managers.get serviceId = some (.stellar chain projectRoot) →
    ∃ rpcId, system.watcher.stellarUriSubscriptions.get serviceId = some (chain,rpcId) ∧
      system.owners chain rpcId = some (serviceId,projectRoot) ∧
      system.watcher.lookup.Handles chain rpcId (uriFilter lib projectRoot) ∧
      ∀ on other root, system.owners on other = some (serviceId,root) → system.watcher.lookup.Live on other →
        on = chain ∧ other = rpcId
  unregistered : ∀ chain rpcId serviceId root, system.owners chain rpcId = some (serviceId,root) →
    system.watcher.lookup.Live chain rpcId →
    ∃ on projectRoot, system.managers.get serviceId = some (.stellar on projectRoot)

/-- The live handles are those recorded, and what is recorded names the service's filter. -/
structure Recorded (lib : EventLib) (system : System) : Prop where
  apart : system.watcher.lookup.Apart system.Owned
  live : ∀ chain rpcId serviceId root, system.owners chain rpcId = some (serviceId,root) →
    system.watcher.lookup.Live chain rpcId →
    system.watcher.stellarUriSubscriptions.get serviceId = some (chain,rpcId)
  handle : ∀ serviceId chain rpcId, system.watcher.stellarUriSubscriptions.get serviceId = some (chain,rpcId) →
    ∃ root, system.owners chain rpcId = some (serviceId,root) ∧
      system.watcher.lookup.Handles chain rpcId (uriFilter lib root)

variable {lib : EventLib}

theorem Recorded.minted {self : System} (recorded : Recorded lib self) (chain : ChainKey) (rpcId : StellarRpcId)
    (owner : ServiceId × FixedBytes 32) (owned : self.owners chain rpcId = some owner) :
    self.Owned chain rpcId ∧ self.watcher.lookup.Minted chain rpcId := by
  have own : self.Owned chain rpcId := by
    unfold Owned
    simp [owned]
  exact ⟨own,recorded.apart.minted chain rpcId own⟩

theorem Recorded.held_eq_none {self : System} (recorded : Recorded lib self) (serviceId : ServiceId) :
    self.held serviceId = none ↔ self.watcher.stellarUriSubscriptions.get serviceId = none := by
  unfold held
  cases found : self.watcher.stellarUriSubscriptions.get serviceId with
  | none => simp
  | some handle =>
    obtain ⟨root,owned,_⟩ := recorded.handle serviceId handle.1 handle.2 found
    simp [owned]

theorem Recorded.of_keeps {self next : System} (recorded : Recorded lib self)
    (keeps : self.watcher.lookup.stellarControllers.Keeps self.Owned next.watcher.lookup.stellarControllers)
    (apart : next.watcher.lookup.Apart self.Owned) (owners : next.owners = self.owners)
    (subscriptions : next.watcher.stellarUriSubscriptions = self.watcher.stellarUriSubscriptions) :
    Recorded lib next where
  apart := by
    have owned : next.Owned = self.Owned := by
      unfold Owned
      rw [owners]
    rw [owned]
    exact apart
  live chain rpcId serviceId root owned live := by
    rw [owners] at owned
    rw [subscriptions]
    obtain ⟨own,minted⟩ := recorded.minted chain rpcId _ owned
    exact recorded.live chain rpcId serviceId root owned (live.retained keeps own minted)
  handle serviceId chain rpcId found := by
    rw [subscriptions] at found
    rw [owners]
    obtain ⟨root,owned,handles⟩ := recorded.handle serviceId chain rpcId found
    obtain ⟨own,minted⟩ := recorded.minted chain rpcId _ owned
    exact ⟨root,owned,handles.retained keeps own minted⟩

/-- A watch command that finds its controller records a handle of its own, where nothing
was recorded for the service. -/
theorem recorded_watch (self : System) (serviceId : ServiceId) (chain : ChainKey) (projectRoot : FixedBytes 32)
    (controller : StellarStreamController) (recorded : Recorded lib self)
    (free : self.watcher.stellarUriSubscriptions.get serviceId = none)
    (found : self.watcher.lookup.stellarControllers.get chain = some controller) (queue dropped : List TriggerCommand) :
    Recorded lib {self with
      watcher := self.watcher.sharing (self.watcher.watchStellarServiceUri lib serviceId chain projectRoot)
      queue := queue
      dropped := dropped
      owners := self.claimHandle (.watchStellarServiceUri serviceId chain projectRoot)} := by
  have keeps : self.watcher.lookup.stellarControllers.Retains self.Owned
      (self.watcher.lookup.stellarControllers.updateEventFilters chain controller
        (controller.eventFilters.addFilter (uriFilter lib projectRoot)).2) :=
    self.watcher.lookup.stellarControllers.retains_insert chain controller _ found
      (controller.eventFilters.retains_addFilter _)
  have owners : ∀ on other, self.claimHandle (.watchStellarServiceUri serviceId chain projectRoot) on other =
      if on = chain ∧ other = controller.eventFilters.list.next then some (serviceId,projectRoot)
      else self.owners on other := by
    intro on other
    simp only [claimHandle,found,Function.update_apply]
    by_cases here : on = chain
    · subst on
      by_cases same : other = controller.eventFilters.list.next <;> simp [same]
    · simp [here]
  have old : ∀ on other, self.watcher.lookup.Minted on other →
      ¬(on = chain ∧ other = controller.eventFilters.list.next) := by
    rintro on other ⟨_,present,minted⟩ ⟨rfl,rfl⟩
    rw [found] at present
    cases present
    exact controller.eventFilters.list.not_minted_next minted
  have watched : self.watcher.watchStellarServiceUri lib serviceId chain projectRoot =
      {self.watcher.toManager.setStellarControllers
        (self.watcher.lookup.stellarControllers.updateEventFilters chain controller
          (controller.eventFilters.addFilter (uriFilter lib projectRoot)).2) with
        stellarUriSubscriptions := self.watcher.stellarUriSubscriptions.insert serviceId
          (chain,controller.eventFilters.list.next)} := by
    unfold Manager.watchStellarServiceUri
    simp only [found]
    rfl
  rw [watched]
  refine ⟨?_,?_,?_⟩
  · apply (recorded.apart.of_keeps _ keeps.toKeeps).own chain controller.eventFilters.list.next
    · exact ⟨_,HashMap.get_insert_self _ _ _,(SlotMap.minted_insert _ _ _).mpr (.inl rfl)⟩
    · intro id config related registered chained
      exact old chain _ (recorded.apart.trigger _ id config chain related registered chained).2 ⟨rfl,rfl⟩
    · intro on other own
      unfold Owned at own
      simp only [owners] at own
      split at own
      · next here => exact .inr here
      · exact .inl own
  · intro on other owner root owned live
    simp only [owners] at owned
    simp only [Watcher.sharing,HashMap.get_insert]
    split at owned
    · next here =>
      cases owned
      simp [here]
    · obtain ⟨own,minted⟩ := recorded.minted on other _ owned
      have known := recorded.live on other owner root owned (live.retained keeps.toKeeps own minted)
      have apart : owner ≠ serviceId := by
        intro same
        rw [same,free] at known
        cases known
      simp [apart,known]
  · intro owner on other known
    simp only [Watcher.sharing,HashMap.get_insert] at known
    simp only [owners]
    split at known
    · next same =>
      cases known
      refine ⟨projectRoot,by simp [same],_,HashMap.get_insert_self _ _ _,?_⟩
      exact controller.eventFilters.handles_addFilter (uriFilter lib projectRoot)
    · obtain ⟨root,owned,handles⟩ := recorded.handle owner on other known
      obtain ⟨own,minted⟩ := recorded.minted on other _ owned
      exact ⟨root,by rw [if_neg (old on other minted),owned],handles.retained keeps.toKeeps own minted⟩

theorem recorded_unwatch (self : System) (serviceId : ServiceId) (recorded : Recorded lib self)
    (queue dropped : List TriggerCommand) :
    Recorded lib {self with
      watcher := self.watcher.sharing (self.watcher.unwatchStellarServiceUri serviceId)
      queue := queue
      dropped := dropped} := by
  cases known : self.watcher.stellarUriSubscriptions.get serviceId with
  | none =>
    have same : self.watcher.unwatchStellarServiceUri serviceId = self.watcher.toManager := by
      unfold Manager.unwatchStellarServiceUri
      rw [known]
    rw [same]
    exact ⟨recorded.apart,recorded.live,recorded.handle⟩
  | some handle =>
    obtain ⟨chain,rpcId⟩ := handle
    obtain ⟨root,owned,controller,found,_⟩ := recorded.handle serviceId chain rpcId known
    have unwatched : self.watcher.unwatchStellarServiceUri serviceId =
        {self.watcher.toManager.setStellarControllers
          (self.watcher.lookup.stellarControllers.updateEventFilters chain controller
            (controller.eventFilters.removeFilterById rpcId)) with
          stellarUriSubscriptions := self.watcher.stellarUriSubscriptions.remove serviceId} := by
      unfold Manager.unwatchStellarServiceUri
      simp only [known,found]
      rfl
    have keeps : self.watcher.lookup.stellarControllers.Retains
        (fun on other => self.Owned on other ∧ ¬(on = chain ∧ other = rpcId))
        (self.watcher.lookup.stellarControllers.updateEventFilters chain controller
          (controller.eventFilters.removeFilterById rpcId)) :=
      self.watcher.lookup.stellarControllers.retains_insert chain controller _ found
        (controller.eventFilters.retains_removeFilterById rpcId (fun own => own.2 ⟨rfl,rfl⟩))
    rw [unwatched]
    refine ⟨recorded.apart.of_keeps _ keeps.toKeeps,?_,?_⟩
    · intro on other owner base held live
      have apart : ¬(on = chain ∧ other = rpcId) := by
        rintro ⟨rfl,rfl⟩
        obtain ⟨_,present,named⟩ := live
        simp only [Watcher.sharing,Manager.setStellarControllers,StellarControllers.updateEventFilters,
          HashMap.get_insert_self,Option.some.injEq] at present
        subst present
        exact named (by simp [EventFilters.list_removeFilterById])
      obtain ⟨own,minted⟩ := recorded.minted on other _ held
      have before := recorded.live on other owner base held (live.retained keeps.toKeeps ⟨own,apart⟩ minted)
      have distinct : owner ≠ serviceId := by
        rintro rfl
        rw [known] at before
        cases before
        exact apart ⟨rfl,rfl⟩
      simpa [Watcher.sharing,HashMap.get_remove_ne _ _ _ distinct] using before
    · intro owner on other listed
      simp only [Watcher.sharing,HashMap.get_remove] at listed
      split at listed
      · cases listed
      · next distinct =>
        obtain ⟨base,held,handles⟩ := recorded.handle owner on other listed
        have apart : ¬(on = chain ∧ other = rpcId) := by
          rintro ⟨rfl,rfl⟩
          rw [owned] at held
          cases held
          exact distinct rfl
        obtain ⟨own,minted⟩ := recorded.minted on other _ held
        exact ⟨base,held,handles.retained keeps.toKeeps ⟨own,apart⟩ minted⟩

/-- What the watcher does with a command, as far as subscriptions and controllers go: the
command writes, or is a watch command that finds no controller; and a controller comes with
a start command only. -/
structure Written (connecting : Connecting) (before : System) (command : TriggerCommand) (after : System) :
    Prop where
  held : ∀ serviceId, after.held serviceId =
      Register.apply (TriggerCommand.uriWrite serviceId) (before.held serviceId) command ∨
    ∃ chain projectRoot, command = .watchStellarServiceUri serviceId chain projectRoot ∧
      before.watcher.lookup.stellarControllers.get chain = none ∧ after.held serviceId = none
  absent : ∀ chain, before.watcher.lookup.stellarControllers.get chain = none →
    after.watcher.lookup.stellarControllers.get chain = none ∨
      ∃ on config, command = .startListeningChain on ∧ before.watcher.StellarStarts connecting on config ∧
        chain = config.chainKey

theorem held_congr (self next : System) (owners : next.owners = self.owners)
    (subscriptions : next.watcher.stellarUriSubscriptions = self.watcher.stellarUriSubscriptions)
    (serviceId : ServiceId) : next.held serviceId = self.held serviceId := by
  unfold held
  rw [owners,subscriptions]

theorem Written.of_plain {connecting : Connecting} {self next : System} {command : TriggerCommand}
    (plain : command.Plain) (owners : next.owners = self.owners)
    (subscriptions : next.watcher.stellarUriSubscriptions = self.watcher.stellarUriSubscriptions)
    (absent : ∀ chain, self.watcher.lookup.stellarControllers.get chain = none →
      next.watcher.lookup.stellarControllers.get chain = none ∨
        ∃ on config, command = .startListeningChain on ∧ self.watcher.StellarStarts connecting on config ∧
          chain = config.chainKey) : Written connecting self command next where
  held serviceId := by
    left
    rw [Register.apply_of_none _ _ (plain.uriWrite serviceId)]
    exact held_congr self next owners subscriptions serviceId
  absent := absent

theorem written_watch (connecting : Connecting) (self next : System) (serviceId : ServiceId) (chain : ChainKey)
    (projectRoot : FixedBytes 32) (recorded : Recorded lib self)
    (watcher : next.watcher = self.watcher.sharing
      (self.watcher.watchStellarServiceUri lib serviceId chain projectRoot))
    (owners : next.owners = self.claimHandle (.watchStellarServiceUri serviceId chain projectRoot))
    (free : self.held serviceId = none) :
    Written connecting self (.watchStellarServiceUri serviceId chain projectRoot) next := by
  have made : StellarEventFilter.new (lib.contractDisplay projectRoot) [.exact updatedSpecRepoTopic] =
      .ok (uriFilter lib projectRoot) := rfl
  cases found : self.watcher.lookup.stellarControllers.get chain with
  | none =>
    have same : self.watcher.watchStellarServiceUri lib serviceId chain projectRoot = self.watcher.toManager := by
      simp only [Manager.watchStellarServiceUri,made,found]
    have kept : next.owners = self.owners := by
      rw [owners]
      simp only [claimHandle,found]
    rw [same] at watcher
    have unchanged := held_congr self next kept (by rw [watcher]; rfl)
    refine ⟨?_,?_⟩
    · intro other
      by_cases own : other = serviceId
      · subst other
        exact .inr ⟨chain,projectRoot,rfl,found,by rw [unchanged,free]⟩
      · left
        have apart : serviceId ≠ other := fun same => own same.symm
        rw [unchanged,Register.apply_of_none _ _ (by simp [TriggerCommand.uriWrite,apart])]
    · intro on missing
      left
      rw [watcher]
      exact missing
  | some controller =>
    have watched : next.watcher.stellarUriSubscriptions =
          self.watcher.stellarUriSubscriptions.insert serviceId (chain,controller.eventFilters.list.next) ∧
        next.watcher.lookup.stellarControllers = self.watcher.lookup.stellarControllers.updateEventFilters chain
          controller (controller.eventFilters.addFilter (uriFilter lib projectRoot)).2 := by
      rw [watcher]
      simp only [Manager.watchStellarServiceUri,made,found]
      exact ⟨rfl,rfl⟩
    refine ⟨?_,?_⟩
    · intro other
      left
      unfold held
      rw [watched.1,owners]
      by_cases own : other = serviceId
      · subst other
        simp [claimHandle,found,Register.apply,TriggerCommand.uriWrite]
      · have apart : serviceId ≠ other := fun same => own same.symm
        rw [Register.apply_of_none _ _ (by simp [TriggerCommand.uriWrite,apart]),
          HashMap.get_insert_ne _ _ _ _ own]
        cases known : self.watcher.stellarUriSubscriptions.get other with
        | none => rfl
        | some handle =>
          obtain ⟨on,rpcId⟩ := handle
          obtain ⟨root,owned,_⟩ := recorded.handle other on rpcId known
          obtain ⟨_,minted⟩ := recorded.minted on rpcId _ owned
          have old : ¬(on = chain ∧ rpcId = controller.eventFilters.list.next) := by
            rintro ⟨rfl,rfl⟩
            obtain ⟨_,present,minted⟩ := minted
            rw [found] at present
            cases present
            exact controller.eventFilters.list.not_minted_next minted
          simp only [claimHandle,found,Option.bind_some,Function.update_apply]
          by_cases here : on = chain
          · subst on
            have other : rpcId ≠ controller.eventFilters.list.next := fun same => old ⟨rfl,same⟩
            simp [other]
          · simp [here]
    · intro on missing
      left
      rw [watched.2]
      have apart : on ≠ chain := by
        rintro rfl
        rw [found] at missing
        cases missing
      exact (HashMap.get_insert_ne _ _ _ _ apart).trans missing

theorem written_unwatch (connecting : Connecting) (self next : System) (serviceId : ServiceId)
    (watcher : next.watcher = self.watcher.sharing (self.watcher.unwatchStellarServiceUri serviceId))
    (owners : next.owners = self.owners) :
    Written connecting self (.unwatchStellarServiceUri serviceId) next := by
  have subscriptions : ∀ other, next.watcher.stellarUriSubscriptions.get other =
      if other = serviceId then none else self.watcher.stellarUriSubscriptions.get other := by
    intro other
    rw [watcher]
    simp only [Watcher.sharing,Manager.unwatchStellarServiceUri]
    split
    · next missing =>
      split
      · next same => rw [same,missing]
      · rfl
    · split <;> exact HashMap.get_remove _ _ _
  refine ⟨?_,?_⟩
  · intro other
    left
    unfold held
    rw [owners,subscriptions]
    by_cases own : other = serviceId
    · subst other
      simp [Register.apply,TriggerCommand.uriWrite]
    · have apart : serviceId ≠ other := fun same => own same.symm
      rw [Register.apply_of_none _ _ (by simp [TriggerCommand.uriWrite,apart]),if_neg own]
  · intro chain missing
    left
    rw [watcher]
    simp only [Watcher.sharing,Manager.unwatchStellarServiceUri]
    split
    · exact missing
    · next on rpcId known =>
      split
      · exact missing
      · next controller present =>
        have apart : chain ≠ on := by
          rintro rfl
          have here : self.watcher.lookup.stellarControllers.get chain = some controller := present
          rw [missing] at here
          cases here
        exact (HashMap.get_insert_ne _ _ _ _ apart).trans missing

def taken (self : System) (watcher : Watcher) (command : TriggerCommand) (queue : List TriggerCommand) : System :=
  {self with
    watcher := watcher
    queue := queue
    dropped := if finds self.watcher command then self.dropped else self.dropped ++ [command]
    owners := self.claimHandle command}

/-- A command that leaves the handles and the subscriptions. -/
theorem plain_taken (connecting : Connecting) (self : System) (watcher : Watcher) (command : TriggerCommand)
    (queue : List TriggerCommand) (recorded : Recorded lib self) (plain : command.Plain)
    (maps : watcher.lookup.toLookupMaps = self.watcher.lookup.toLookupMaps)
    (subscriptions : watcher.stellarUriSubscriptions = self.watcher.stellarUriSubscriptions)
    (keeps : self.watcher.lookup.stellarControllers.Keeps self.Owned watcher.lookup.stellarControllers)
    (absent : ∀ chain, self.watcher.lookup.stellarControllers.get chain = none →
      watcher.lookup.stellarControllers.get chain = none ∨
        ∃ on config, command = .startListeningChain on ∧ self.watcher.StellarStarts connecting on config ∧
          chain = config.chainKey) :
    Recorded lib (self.taken watcher command queue) ∧
      Written connecting self command (self.taken watcher command queue) := by
  have owners : (self.taken watcher command queue).owners = self.owners := by
    cases command <;> first | rfl | exact plain.elim
  have apart : watcher.lookup.Apart self.Owned := by
    have moved := recorded.apart.of_keeps watcher.lookup.stellarControllers keeps
    rw [← maps] at moved
    exact moved
  exact ⟨recorded.of_keeps keeps apart owners subscriptions,.of_plain plain owners subscriptions absent⟩

theorem start_taken (connecting : Connecting) (self : System) (watcher : Watcher) (chain : ChainKey)
    (queue : List TriggerCommand) (recorded : Recorded lib self)
    (begun : Watcher.Started connecting self.watcher chain watcher (.ok ())) :
    Recorded lib (self.taken watcher (.startListeningChain chain) queue) ∧
      Written connecting self (.startListeningChain chain)
        (self.taken watcher (.startListeningChain chain) queue) := by
  have same : ∀ after : Watcher, after.lookup = self.watcher.lookup →
      after.stellarUriSubscriptions = self.watcher.stellarUriSubscriptions →
      Recorded lib (self.taken after (.startListeningChain chain) queue) ∧
        Written connecting self (.startListeningChain chain)
          (self.taken after (.startListeningChain chain) queue) := by
    intro after lookup subscriptions
    refine plain_taken connecting self after _ queue recorded trivial (by rw [lookup]) subscriptions ?_ ?_
    · rw [lookup]
      exact (StellarControllers.Retains.refl _).toKeeps
    · rw [lookup]
      exact fun _ missing => .inl missing
  cases begun with
  | unchanged => exact same _ rfl rfl
  | cosmos config online waiting found client stream => exact same _ rfl rfl
  | evm config online waiting found endpoints events blocks => exact same _ rfl rfl
  | running config controller online waiting found endpoint present => exact same _ rfl rfl
  | stellar config online waiting found endpoint absent created events ledgers =>
    refine plain_taken connecting self _ _ queue recorded trivial rfl rfl ⟨?_⟩ ?_
    · intro on controller present
      have apart : on ≠ config.chainKey := by
        rintro rfl
        rw [absent] at present
        cases present
      exact ⟨controller,(HashMap.get_insert_ne _ _ _ _ apart).trans present,.refl _⟩
    · intro on missing
      by_cases own : on = config.chainKey
      · exact .inr ⟨chain,config,rfl,⟨online,waiting,found,endpoint,absent,created,events,ledgers⟩,own⟩
      · exact .inl ((HashMap.get_insert_ne _ _ _ _ own).trans missing)

theorem process_taken (connecting : Connecting) (self : System) (watcher : Watcher) (command : TriggerCommand)
    (commands : List DispatcherCommand) (queue : List TriggerCommand) (recorded : Recorded lib self)
    (handled : self.watcher.onLocalCommand lib connecting command = (watcher,.sent commands))
    (free : ∀ serviceId chain projectRoot, command = .watchStellarServiceUri serviceId chain projectRoot →
      self.held serviceId = none) :
    Recorded lib (self.taken watcher command queue) ∧
      Written connecting self command (self.taken watcher command queue) := by
  have same : ∀ after : Watcher, command.Plain → after.lookup = self.watcher.lookup →
      after.stellarUriSubscriptions = self.watcher.stellarUriSubscriptions →
      Recorded lib (self.taken after command queue) ∧
        Written connecting self command (self.taken after command queue) := by
    intro after plain lookup subscriptions
    refine plain_taken connecting self after _ queue recorded plain (by rw [lookup]) subscriptions ?_ ?_
    · rw [lookup]
      exact (StellarControllers.Retains.refl _).toKeeps
    · rw [lookup]
      exact fun _ missing => .inl missing
  cases command with
  | kill => cases handled
  | startListeningChain chain =>
    have begun := Watcher.started connecting self.watcher chain
    simp only [Watcher.onLocalCommand] at handled
    split at handled
    · next after result =>
      cases handled
      rw [result] at begun
      exact start_taken connecting self watcher chain queue recorded begun
    · cases handled
  | watchEvmContractEvents chain addresses eventHashes =>
    cases handled
    apply same _ trivial <;> simp only [Watcher.sharing,Manager.callEvm] <;> split <;> rfl
  | watchEvmBlocks chain =>
    cases handled
    apply same _ trivial <;> simp only [Watcher.sharing,Manager.callEvm] <;> split <;> rfl
  | watchStellarBlocks chain =>
    cases handled
    cases found : self.watcher.lookup.stellarControllers.get chain with
    | none =>
      have unchanged : self.watcher.watchStellarBlocks chain = self.watcher.toManager := by
        simp only [Manager.watchStellarBlocks,found]
      rw [unchanged]
      exact same _ trivial rfl rfl
    | some controller =>
      have polled : self.watcher.watchStellarBlocks chain = self.watcher.toManager.setStellarControllers
          (self.watcher.lookup.stellarControllers.insert chain {controller with ledgerPollingEnabled := true}) := by
        simp only [Manager.watchStellarBlocks,found]
      have retains : self.watcher.lookup.stellarControllers.Retains self.Owned
          (self.watcher.lookup.stellarControllers.insert chain {controller with ledgerPollingEnabled := true}) :=
        self.watcher.lookup.stellarControllers.retains_insert chain controller _ found (.refl _)
      rw [polled]
      exact plain_taken connecting self _ _ queue recorded trivial rfl rfl retains.toKeeps
        (fun on missing => .inl (retains.absent on missing))
  | watchStellarServiceUri serviceId chain projectRoot =>
    cases handled
    have empty := free serviceId chain projectRoot rfl
    refine ⟨?_,written_watch connecting self _ serviceId chain projectRoot recorded rfl rfl empty⟩
    cases found : self.watcher.lookup.stellarControllers.get chain with
    | none =>
      have unchanged : self.watcher.watchStellarServiceUri lib serviceId chain projectRoot =
          self.watcher.toManager := by
        unfold Manager.watchStellarServiceUri
        simp only [found]
        rfl
      rw [unchanged]
      refine recorded.of_keeps (StellarControllers.Retains.refl _).toKeeps recorded.apart ?_ rfl
      simp only [taken,claimHandle,found]
    | some controller =>
      exact recorded_watch self serviceId chain projectRoot controller recorded
        ((recorded.held_eq_none serviceId).mp empty) found queue _
  | unwatchStellarServiceUri serviceId =>
    cases handled
    exact ⟨recorded_unwatch self serviceId recorded queue _,
      written_unwatch connecting self _ serviceId rfl rfl⟩
  | startListeningCron =>
    cases handled
    exact same _ trivial rfl rfl
  | startListeningAtProto =>
    cases handled
    exact same _ trivial rfl rfl
  | manualTrigger action =>
    cases handled
    exact same _ trivial rfl rfl

end System
end Warpdrive.Trigger
