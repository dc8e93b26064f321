import Warpdrive.Trigger.Consistency
import Warpdrive.Trigger.Watcher

/-! The start states of the chains (`StartListeningChain` in `start_watcher`). The state is
kept under the commanded chain key, the controller of a Stellar chain under the key of its
configuration. Chains may be configured while the watcher runs. -/
namespace Warpdrive.Trigger.Watcher

open Warpdrive.Foundation Warpdrive.Types Warpdrive.Foundation.Execution

inductive StartAct
  | start (connecting : Connecting) (chain : ChainKey)
  | addChain (key : ChainKey) (config : AnyChainConfig)

/-- A start command that ends the watcher has no next state. A chain that is refused changes
nothing. -/
def stepStart (self : Watcher) : StartAct → Option Watcher
  | .start connecting chain =>
    match self.startListeningChain connecting chain with
    | (next,.ok ()) => some next
    | (_,.error _) => none
  | .addChain key config =>
    match self.chainConfigs.addChain key config with
    | .ok chainConfigs => some (self.sharing {self.toManager with chainConfigs})
    | .error _ => some self

/-- The commanded chain is not left connecting, and every Stellar chain that is connected
has a controller under its key. -/
def Settled (act : StartAct) (next : Watcher) : Prop :=
  (∀ connecting chain, act = .start connecting chain → next.listeningChainStates chain ≠ .connecting) ∧
    ∀ key config, next.chainConfigs.getChain key = some (.stellar config) →
      next.listeningChainStates key = .connected → next.lookup.stellarControllers.get key ≠ none

/-- The command reaches the controllers for a chain whose configuration has another key than
the commanded one: either the controller of that key is found, or one is made. -/
def Misfiled (self : Watcher) : StartAct → Prop
  | .start connecting chain => self.disableNetworking = false ∧ self.listeningChainStates chain = .waiting ∧
    ∃ config, self.chainConfigs.getChain chain = some (.stellar config) ∧ config.chainKey ≠ chain ∧
      config.rpcUrl.isEmpty = false ∧ (self.lookup.stellarControllers.get config.chainKey ≠ none ∨
        connecting.stellarController = .ok () ∧ connecting.stellarEventStream = .ok () ∧
          connecting.stellarLedgerStream = .ok ())
  | .addChain _ _ => False

/-- The invariant: no chain is connecting, exactly the connected Stellar chains have their
controllers, and a chain without a configuration waits. -/
structure Filed (watcher : Watcher) : Prop where
  settled : ∀ key, watcher.listeningChainStates key ≠ .connecting
  controlled : ∀ key config, watcher.chainConfigs.getChain key = some (.stellar config) →
    watcher.listeningChainStates key = .connected → watcher.lookup.stellarControllers.get key ≠ none
  connected : ∀ key, watcher.lookup.stellarControllers.get key ≠ none →
    watcher.listeningChainStates key = .connected
  unknown : ∀ key, watcher.chainConfigs.getChain key = none → watcher.listeningChainStates key = .waiting

theorem setChainState_apply (self : Watcher) (chain key : ChainKey) (state : StreamStartState) :
    (self.setChainState chain state).listeningChainStates key =
      if key = chain then state else self.listeningChainStates key := by
  simp [setChainState,Function.update_apply]

/-- A chain becomes connected: a Stellar one with its controller, any other without. -/
theorem filed_connected (self next : Watcher) (chain : ChainKey) (filed : Filed self)
    (states : ∀ key, next.listeningChainStates key =
      if key = chain then .connected else self.listeningChainStates key)
    (configs : next.chainConfigs = self.chainConfigs) (known : self.chainConfigs.getChain chain ≠ none)
    (controllers : ∀ key, key ≠ chain →
      next.lookup.stellarControllers.get key = self.lookup.stellarControllers.get key)
    (own : ∀ config, self.chainConfigs.getChain chain = some (.stellar config) →
      next.lookup.stellarControllers.get chain ≠ none) : Filed next where
  settled key := by
    rw [states]
    split
    · decide
    · exact filed.settled key
  controlled key config found connected := by
    rw [configs] at found
    rw [states] at connected
    split at connected
    · next here =>
      subst here
      exact own config found
    · next elsewhere =>
      rw [controllers key elsewhere]
      exact filed.controlled key config found connected
  connected key present := by
    rw [states]
    split
    · rfl
    · next elsewhere =>
      rw [controllers key elsewhere] at present
      exact filed.connected key present
  unknown key missing := by
    rw [configs] at missing
    rw [states]
    split
    · next here =>
      subst here
      exact absurd missing known
    · exact filed.unknown key missing

theorem filed_start (self next : Watcher) (connecting : Connecting) (chain : ChainKey) (filed : Filed self)
    (taken : self.stepStart (.start connecting chain) = some next)
    (keyed : ¬self.Misfiled (.start connecting chain)) : Filed next := by
  have begun := started connecting self chain
  simp only [stepStart] at taken
  split at taken
  · next result handled =>
    cases taken
    rw [handled] at begun
    simp only at begun
    cases begun with
    | unchanged => exact filed
    | cosmos config online waiting found client stream =>
      refine filed_connected self _ chain filed (self.setChainState_apply chain · .connected) rfl ?_
        (fun _ _ => rfl) ?_
      · simp [found]
      · simp [found]
    | evm config online waiting found endpoints events blocks =>
      refine filed_connected self _ chain filed (setChainState_apply _ chain · .connected) rfl ?_
        (fun _ _ => rfl) ?_
      · simp [found]
      · simp [found]
    | stellar config online waiting found endpoint absent created events ledgers =>
      have same : config.chainKey = chain := by
        by_contra differs
        exact keyed ⟨online,waiting,config,found,differs,endpoint,.inr ⟨created,events,ledgers⟩⟩
      refine filed_connected self _ chain filed (setChainState_apply _ chain · .connected) rfl ?_ ?_ ?_
      · simp [found]
      · intro key elsewhere
        exact HashMap.get_insert_ne _ _ _ _ (by rwa [same])
      · intro _ _
        simp [setChainState,sharing,Manager.setStellarControllers,same]
    | running config controller online waiting found endpoint present =>
      have here : self.lookup.stellarControllers.get config.chainKey ≠ none := by simp [present]
      by_cases same : config.chainKey = chain
      · have connected := filed.connected config.chainKey here
        rw [same,waiting] at connected
        cases connected
      · exact absurd ⟨online,waiting,config,found,same,endpoint,.inl here⟩ keyed
  · cases taken

theorem filed_addChain (self next : Watcher) (key : ChainKey) (config : AnyChainConfig) (filed : Filed self)
    (taken : self.stepStart (.addChain key config) = some next) : Filed next := by
  simp only [stepStart] at taken
  split at taken
  · next chainConfigs added =>
    cases taken
    have found := ChainConfigs.getChain_addChain self.chainConfigs chainConfigs key config added
    have unknown : self.chainConfigs.getChain key = none := by
      cases known : self.chainConfigs.getChain key with
      | none => rfl
      | some _ => simp [ChainConfigs.addChain,known] at added
    refine ⟨filed.settled,?_,filed.connected,?_⟩
    · intro other stellar present connected
      simp only [sharing,found] at present
      split at present
      · next here =>
        subst here
        have waits : self.listeningChainStates other = .connected := connected
        rw [filed.unknown other unknown] at waits
        cases waits
      · exact filed.controlled other stellar present connected
    · intro other missing
      simp only [sharing,found] at missing
      split at missing
      · cases missing
      · exact filed.unknown other missing
  · cases taken
    exact filed

theorem filed_step (self next : Watcher) (act : StartAct) (taken : self.stepStart act = some next)
    (keyed : ¬self.Misfiled act) (filed : Filed self) : Filed next := by
  cases act with
  | start connecting chain => exact filed_start self next connecting chain filed taken keyed
  | addChain key config => exact filed_addChain self next key config filed taken

theorem Filed.settles {self : Watcher} (filed : Filed self) (act : StartAct) : Settled act self :=
  ⟨fun _ chain _ => filed.settled chain,filed.controlled⟩

/-- A controller that is found under another key leaves the chain connecting; one that is
made under another key leaves it connected without a controller. -/
theorem misfiled_unsettled (self next : Watcher) (act : StartAct) (taken : self.stepStart act = some next)
    (misfiled : self.Misfiled act) (filed : Filed self) : ¬Settled act next := by
  cases act with
  | addChain key config => exact misfiled.elim
  | start connecting chain =>
    obtain ⟨online,waiting,config,found,differs,endpoint,reached⟩ := misfiled
    have configs : (self.setChainState chain .connecting).chainConfigs = self.chainConfigs := rfl
    have controllers : (self.setChainState chain .connecting).lookup.stellarControllers =
      self.lookup.stellarControllers := rfl
    have free : self.lookup.stellarControllers.get chain = none := by
      by_contra present
      have connected := filed.connected chain present
      rw [waiting] at connected
      cases connected
    intro settled
    simp only [stepStart,startListeningChain,online,waiting,configs,found,startStellar,endpoint,
      controllers,Bool.false_eq_true,if_false] at taken
    cases present : self.lookup.stellarControllers.get config.chainKey with
    | some controller =>
      simp only [present,Option.some.injEq] at taken
      subst next
      exact settled.1 connecting chain rfl (by rw [setChainState_apply,if_pos rfl])
    | none =>
      obtain ⟨created,events,ledgers⟩ := reached.resolve_left (fun there => there present)
      simp only [present,created,events,ledgers,Option.some.injEq] at taken
      subst next
      apply settled.2 chain config found
      · rw [setChainState_apply,if_pos rfl]
      · have elsewhere := HashMap.get_insert_ne self.lookup.stellarControllers config.chainKey chain
          ⟨false,.new connecting.stellarKeys⟩ differs.symm
        exact elsewhere.trans free

theorem settled_iff_keyed (self next : Watcher) (act : StartAct) (taken : self.stepStart act = some next)
    (filed : Filed self) : Settled act next ↔ ¬self.Misfiled act := by
  constructor
  · intro settled misfiled
    exact misfiled_unsettled self next act taken misfiled filed settled
  · intro keyed
    exact (filed_step self next act taken keyed filed).settles act

theorem filed_watch (chainConfigs : ChainConfigs) (disableNetworking : Bool) :
    Filed (Manager.new chainConfigs disableNetworking).watch where
  settled _ := by simp [Manager.watch]
  controlled _ _ _ connected := by simp [Manager.watch] at connected
  connected _ present := by simp [Manager.watch,Manager.new] at present
  unknown _ _ := rfl

/-- Along a run of start commands, every command settles its chain and the connected Stellar
chains have their controllers exactly when no command reaches the controllers for a chain
whose configuration has another key. -/
theorem starts_settle_iff_keyed (chainConfigs : ChainConfigs) (disableNetworking : Bool)
    (acts : List StartAct) :
    Along stepStart (fun _ act next => Settled act next) (Manager.new chainConfigs disableNetworking).watch
        acts ↔
      Along stepStart (fun self act _ => ¬self.Misfiled act)
        (Manager.new chainConfigs disableNetworking).watch acts :=
  along_iff_of_invariant _ _ Filed
    (fun self act next taken filed => settled_iff_keyed self next act taken filed)
    (fun self act next taken keyed filed => filed_step self next act taken keyed filed)
    _ acts (filed_watch chainConfigs disableNetworking)

def devStellar : ChainKey := ⟨.dev,⟨"local",by decide⟩⟩

def spareStellar : ChainKey := ⟨.dev,⟨"spare",by decide⟩⟩

def testnetConfig : StellarChainConfig :=
  ⟨testnetId,5000,"http://localhost:8000","Test SDF Network ; September 2015",none⟩

/-- Two development keys for the same Stellar chain. -/
def devConfigs : ChainConfigs where
  cosmos := .new
  evm := .new
  stellar := .new
  dev := (HashMap.new.insert devStellar.id (.stellar testnetConfig)).insert spareStellar.id
    (.stellar testnetConfig)

/-- The first key is connected without a controller of its own, and the second one is left
connecting. -/
theorem dev_keys_unsettled :
    ((run stepStart (Manager.new devConfigs false).watch
        [.start .succeeds devStellar,.start .succeeds spareStellar]).any (fun self =>
      self.chainConfigs.getChain devStellar = some (.stellar testnetConfig) ∧
      self.listeningChainStates devStellar = .connected ∧
      (self.lookup.stellarControllers.get devStellar).isNone ∧
      (self.lookup.stellarControllers.get testnet).isSome ∧
      self.listeningChainStates spareStellar = .connecting)) = true := by
  decide +kernel

end Warpdrive.Trigger.Watcher
