import Warpdrive.Trigger.Lookup
import Warpdrive.Trigger.Subscription

/-! The loop of `TriggerManager::start_watcher` (`trigger.rs`). One pass takes one item of
the multiplexed streams and leaves the state of the manager, the commands for the
dispatcher and, where the pass ends the loop, the reason. The channel to the dispatcher is
open. A chain without an entry in `listening_chain_states` is `Waiting`, as the loop enters
it. What decoding and connecting give is a parameter; metrics, the Cosmos clients (which are
only stored) and the environment variable that drops triggers are left out. -/
namespace Warpdrive.Trigger

open Warpdrive.Foundation Warpdrive.Types

/-- The parts of an `ScVal` that the watcher looks at. -/
inductive ScValue
  | symbol (bytes : List UInt8)
  | string (bytes : List UInt8)
  | map (entries : List (ScValue × ScValue))
  | other

/-- The decoders of other crates: the ABI decoder of a `ServiceURIUpdated` log, the URI
check, the event type test of a Cosmos event, Stellar contract addresses and XDR. -/
structure EventLib where
  decodeLogData : LogData → Except String String
  isUri : String → Bool
  isType : CosmosEvent → String → Bool
  contractFromString : String → Option (FixedBytes 32)
  contractDisplay : FixedBytes 32 → String
  base64Decode : String → Option (List UInt8)
  fromXdr : List UInt8 → Option ScValue

/-- `IWarpDriveServiceManager::ServiceURIUpdated::SIGNATURE_HASH`. -/
def serviceUriUpdatedHash : FixedBytes 32 :=
  .ofNat 32 0xd2f056df94c31bdb3b4e16080f2ac6dbd4233c6001058d94afc3ad1242dff488

/-- `WavsServiceUriUpdatedEvent::EVENT_TYPE`. -/
def wavsServiceUriUpdatedEvent : String := "wavs-service-uri-updated"

/-- `WavsServiceUriUpdatedEvent::EVENT_ATTR_KEY_SERVICE_URI`. -/
def eventAttrKeyServiceUri : String := "service-uri"

/-- The XDR of `ScVal::Symbol("updated_spec_repo")`: its tag, its length and its bytes,
padded to words. -/
def updatedSpecRepoTopic : ScVal :=
  ⟨beBytes 4 15 ++ beBytes 4 17 ++ utf8 "updated_spec_repo" ++ [0,0,0]⟩

inductive TriggerCommand
  | kill
  | startListeningChain (chain : ChainKey)
  | startListeningCron
  | watchEvmBlocks (chain : ChainKey)
  | watchEvmContractEvents (chain : ChainKey) (addresses : List Address)
      (eventHashes : List (FixedBytes 32))
  | watchStellarBlocks (chain : ChainKey)
  | watchStellarServiceUri (serviceId : ServiceId) (chain : ChainKey) (projectRoot : FixedBytes 32)
  | unwatchStellarServiceUri (serviceId : ServiceId)
  | startListeningAtProto
  | manualTrigger (action : TriggerAction)
  deriving DecidableEq

def TriggerCommand.map (config : TriggerConfig) (chainConfigs : ChainConfigs) : List TriggerCommand :=
  match config.trigger with
  | .cron _ _ _ => [.startListeningCron]
  | .evmContractEvent address chain eventHash =>
    [.startListeningChain chain,.watchEvmContractEvents chain [address] [eventHash]]
  | .cosmosContractEvent _ chain _ => [.startListeningChain chain]
  | .stellarContractEvent chain _ _ => [.startListeningChain chain]
  | .blockInterval chain _ _ _ =>
    match chainConfigs.getChain chain with
    | some (.evm _) => [.startListeningChain chain,.watchEvmBlocks chain]
    | some (.cosmos _) => [.startListeningChain chain]
    | some (.stellar _) => [.startListeningChain chain,.watchStellarBlocks chain]
    | none => []
  | .atProtoEvent _ _ _ => [.startListeningAtProto]
  | .manual => []

/-- The commands that the watcher sends. -/
inductive DispatcherCommand
  | trigger (action : TriggerAction)
  | changeServiceUri (serviceId : ServiceId) (uri : String)
  deriving DecidableEq

inductive StreamStartState
  | waiting
  | connecting
  | connected
  deriving DecidableEq

structure CronHit where
  lookupIds : List LookupId
  scheduledTime : Timestamp
  deriving DecidableEq

structure StreamTriggerCosmosContractEvent where
  contractAddress : CosmosAddr
  event : CosmosEvent
  eventIndex : UInt64
  deriving DecidableEq

/-- A log and a Stellar event are held as the trigger data that they become. -/
inductive StreamTriggers
  | cosmos (chain : ChainKey) (contractEvents : List StreamTriggerCosmosContractEvent)
      (blockHeight : UInt64)
  | evm (event : EvmContractEvent)
  | stellarEvent (event : StellarContractEvent) (rpcIds : List StellarRpcId)
  | stellarLedgerSequence (chain : ChainKey) (ledger : UInt32)
  | evmBlock (chain : ChainKey) (blockHeight : UInt64)
  | cron (hits : List CronHit)
  | localCommand (command : TriggerCommand)
  | atProto (event : AtProtoEvent)
  deriving DecidableEq

/-- What each attempt to connect gives, with the keys that the slot maps of a new client mint. -/
structure Connecting where
  cronStream : Except TriggerError Unit
  atprotoStream : Except TriggerError Unit
  cosmosClient : Except String Unit
  cosmosStream : Except TriggerError Unit
  evmEventStream : Except TriggerError Unit
  evmBlockStream : Except TriggerError Unit
  stellarController : Except StellarClientError Unit
  stellarEventStream : Except TriggerError Unit
  stellarLedgerStream : Except TriggerError Unit
  evmKeys : SlotKeys
  stellarKeys : SlotKeys

/-- Every attempt succeeds. -/
def Connecting.succeeds : Connecting :=
  ⟨.ok (),.ok (),.ok (),.ok (),.ok (),.ok (),.ok (),.ok (),.ok (),.firstVersions,.firstVersions⟩

/-- The part of `TriggerManager` that the watcher shares with the other tasks. -/
structure Manager where
  chainConfigs : ChainConfigs
  lookup : Lookup
  evmControllers : HashMap ChainKey EvmStream.Client
  stellarUriSubscriptions : HashMap ServiceId (ChainKey × StellarRpcId)
  disableNetworking : Bool

/-- The manager with the local state of `start_watcher`. -/
structure Watcher extends Manager where
  listeningChainStates : ChainKey → StreamStartState
  cronStreamState : StreamStartState
  atprotoStreamState : StreamStartState

def Manager.new (chainConfigs : ChainConfigs) (disableNetworking : Bool) : Manager where
  chainConfigs := chainConfigs
  lookup := ⟨.new,.new⟩
  evmControllers := .new
  stellarUriSubscriptions := .new
  disableNetworking := disableNetworking

/-- The watcher as `start_watcher` begins. -/
def Manager.watch (self : Manager) : Watcher := ⟨self,fun _ => .waiting,.waiting,.waiting⟩

namespace Manager

def setStellarControllers (self : Manager) (controllers : StellarControllers) : Manager :=
  {self with lookup := {self.lookup with stellarControllers := controllers}}

/-- One call on the subscriptions of an EVM controller. -/
def callEvm (self : Manager) (chain : ChainKey) (call : EvmStream.Call) : Manager :=
  match self.evmControllers.get chain with
  | some client =>
    {self with evmControllers :=
      self.evmControllers.insert chain {client with inner := call.apply client.inner}}
  | none => self

def watchStellarServiceUri (lib : EventLib) (self : Manager) (serviceId : ServiceId) (chain : ChainKey)
    (projectRoot : FixedBytes 32) : Manager :=
  match StellarEventFilter.new (lib.contractDisplay projectRoot) [.exact updatedSpecRepoTopic] with
  | .error _ => self
  | .ok filter =>
    match self.lookup.stellarControllers.get chain with
    | none => self
    | some controller =>
      let (rpcId,filters) := controller.eventFilters.addFilter filter
      let self := self.setStellarControllers
        (self.lookup.stellarControllers.updateEventFilters chain controller filters)
      {self with stellarUriSubscriptions := self.stellarUriSubscriptions.insert serviceId (chain,rpcId)}

def unwatchStellarServiceUri (self : Manager) (serviceId : ServiceId) : Manager :=
  match self.stellarUriSubscriptions.get serviceId with
  | none => self
  | some (chain,rpcId) =>
    let self := {self with stellarUriSubscriptions := self.stellarUriSubscriptions.remove serviceId}
    match self.lookup.stellarControllers.get chain with
    | none => self
    | some controller =>
      self.setStellarControllers (self.lookup.stellarControllers.updateEventFilters chain controller
        (controller.eventFilters.removeFilterById rpcId))

def watchStellarBlocks (self : Manager) (chain : ChainKey) : Manager :=
  match self.lookup.stellarControllers.get chain with
  | none => self
  | some controller =>
    self.setStellarControllers
      (self.lookup.stellarControllers.insert chain {controller with ledgerPollingEnabled := true})

/-- The trigger actions of the looked up configurations. -/
def triggerActions (isActive : ServiceId → Bool) (self : Manager) (lookupIds : List LookupId)
    (data : TriggerData) : List DispatcherCommand :=
  (self.lookup.toLookupMaps.getTriggerConfigs isActive lookupIds).map
    (fun config => .trigger ⟨config,data⟩)

/-- The trigger actions of what an index has under a key. -/
def indexedActions (isActive : ServiceId → Bool) (self : Manager) (found : Option (HashSet LookupId))
    (data : TriggerData) : List DispatcherCommand :=
  match found with
  | some lookupIds => self.triggerActions isActive lookupIds.toList data
  | none => []

def processBlocks (isActive : ServiceId → Bool) (self : Manager) (chain : ChainKey) (blockHeight : UInt64) :
    Manager × List DispatcherCommand :=
  match BlockHeight.ofU64 blockHeight with
  | none => (self,[])
  | some height =>
    match self.lookup.blockSchedulers.get chain with
    | none => (self,[])
    | some scheduler =>
      let (fired,scheduler) := scheduler.tick blockInterval height
      let blockSchedulers := self.lookup.blockSchedulers.insert chain scheduler
      ({self with lookup := {self.lookup with blockSchedulers}},
        self.triggerActions isActive (fired.map Prod.fst) (.blockInterval chain blockHeight))

/-- The service whose manager has the address, and the new URI for it. -/
def changeServiceUri (self : Manager) (address : ChainAddress) (uri : String) : List DispatcherCommand :=
  match self.lookup.serviceManager.getByRight address with
  | some serviceId => [.changeServiceUri serviceId uri]
  | none => []

/-- The URI of a `ServiceURIUpdated` log. -/
def evmServiceUri (lib : EventLib) (event : EvmContractEvent) : Except TriggerError (Option String) :=
  if event.logData.topics.head? = some serviceUriUpdatedHash then
    match lib.decodeLogData event.logData with
    | .ok uri => if lib.isUri uri then .ok (some uri) else .error (.uriCreation uri)
    | .error _ => .ok none
  else .ok none

def onEvm (lib : EventLib) (isActive : ServiceId → Bool) (self : Manager) (event : EvmContractEvent) :
    Except TriggerError (List DispatcherCommand) :=
  match event.logData.topics.head? with
  | none => .ok []
  | some eventHash =>
    match evmServiceUri lib event with
    | .error error => .error error
    | .ok uri =>
      let changes := (uri.map (self.changeServiceUri (.evm event.contractAddress))).getD []
      let found := self.lookup.triggersByEvmContractEvent.get (event.chain,event.contractAddress,eventHash)
      .ok (changes ++ self.indexedActions isActive found (.evmContractEvent event))

end Manager

def isUpdatedSpecRepoTopic (lib : EventLib) (topicSegments : List String) : Bool :=
  match topicSegments.head? with
  | none => false
  | some first =>
    match (lib.base64Decode first).bind lib.fromXdr with
    | some (.symbol bytes) => bytes = utf8 "updated_spec_repo"
    | _ => false

/-- The first string under the field's name decides, also when it is no UTF-8. -/
def stringField (fieldName : String) : List (ScValue × ScValue) → Option String
  | [] => none
  | (.symbol name,.string bytes)::entries =>
    if name = utf8 fieldName then String.fromUTF8? ⟨bytes.toArray⟩ else stringField fieldName entries
  | _::entries => stringField fieldName entries

def decodeStellarEventStringField (lib : EventLib) (valueXdrBase64 fieldName : String) : Option String :=
  match (lib.base64Decode valueXdrBase64).bind lib.fromXdr with
  | some (.string bytes) => String.fromUTF8? ⟨bytes.toArray⟩
  | some (.map entries) => stringField fieldName entries
  | _ => none

/-- `strip_suffix(".*")` of the pattern, which the collection continues with a dot. -/
def matchesCollectionPattern (pattern actual : String) : Bool :=
  if pattern = actual then true
  else if ['.','*'].isSuffixOf pattern.toList then
    let stem := pattern.toList.dropLast.dropLast
    stem.isPrefixOf actual.toList && decide (stem.length < actual.toList.length) &&
      decide ((actual.toList.drop stem.length).head? = some '.')
  else false

namespace Manager

/-- The URI of an `UpdatedSpecRepo` event, with the contract that emitted it. -/
def stellarServiceUri (lib : EventLib) (event : StellarContractEvent) : Option (FixedBytes 32 × String) :=
  if isUpdatedSpecRepoTopic lib event.topicSegments then
    match lib.contractFromString event.contractId with
    | none => none
    | some contract =>
      match decodeStellarEventStringField lib event.value "repo" with
      | none => none
      | some uri => if lib.isUri uri then some (contract,uri) else none
  else none

def onStellarEvent (lib : EventLib) (isActive : ServiceId → Bool) (self : Manager)
    (event : StellarContractEvent) (rpcIds : List StellarRpcId) : List DispatcherCommand :=
  let changes :=
    match stellarServiceUri lib event with
    | some (contract,uri) => self.changeServiceUri (.stellarContract contract) uri
    | none => []
  let lookupIds := rpcIds.filterMap self.lookup.triggersByStellarContractEvent.getByLeft
  changes ++ self.triggerActions isActive lookupIds (.stellarContractEvent event)

/-- The first attribute under the key that holds a URI. -/
def cosmosServiceUri (lib : EventLib) (event : CosmosEvent) : Option String :=
  event.attributes.findSome? (fun attr =>
    if attr.key = eventAttrKeyServiceUri ∧ lib.isUri attr.value then some attr.value else none)

/-- One contract event of a Cosmos block. A URI update without a URI is passed over, with
the triggers of the event. -/
def onCosmosEvent (lib : EventLib) (isActive : ServiceId → Bool) (self : Manager) (chain : ChainKey)
    (blockHeight : UInt64) (contractEvent : StreamTriggerCosmosContractEvent) : List DispatcherCommand :=
  let ⟨contractAddress,event,eventIndex⟩ := contractEvent
  let triggers := self.indexedActions isActive
    (self.lookup.triggersByCosmosContractEvent.get (chain,contractAddress,event.ty))
    (.cosmosContractEvent ⟨contractAddress,chain,event,blockHeight,eventIndex⟩)
  if lib.isType event wavsServiceUriUpdatedEvent then
    match cosmosServiceUri lib event with
    | none => []
    | some uri => self.changeServiceUri (.cosmos contractAddress) uri ++ triggers
  else triggers

def onCron (isActive : ServiceId → Bool) (self : Manager) (hits : List CronHit) : List DispatcherCommand :=
  hits.flatMap (fun hit =>
    (hit.lookupIds.filterMap (self.lookup.toLookupMaps.getTriggerConfig isActive)).map
      (fun config => .trigger ⟨config,.cron hit.scheduledTime⟩))

/-- `matched_lookup_ids.extend(lookup_ids)`, where the index has the key. -/
def extendMatches (found : Option (HashSet LookupId)) (matched : HashSet LookupId) : HashSet LookupId :=
  match found with
  | some lookupIds => lookupIds.toList.foldl HashSet.insert matched
  | none => matched

def onAtProto (isActive : ServiceId → Bool) (self : Manager) (event : AtProtoEvent) :
    List DispatcherCommand :=
  let exactly := self.lookup.triggersByAtprotoEventExact
  let matched := extendMatches (exactly.get (event.collection,some event.repo,some event.action)) .empty
  let matched := extendMatches (exactly.get (event.collection,some event.repo,none)) matched
  let matched := extendMatches (exactly.get (event.collection,none,some event.action)) matched
  let matched := extendMatches (exactly.get (event.collection,none,none)) matched
  let matched := self.lookup.triggersByAtprotoEventPattern.iter.foldl (fun matched entry =>
    let ((pattern,repoDid,action),lookupIds) := entry
    if matchesCollectionPattern pattern event.collection && repoDid.all (· = event.repo) &&
        action.all (· = event.action) then
      extendMatches (some lookupIds) matched
    else matched) matched
  self.triggerActions isActive matched.toList (.atProtoEvent event)

end Manager

namespace Watcher

/-- A change of the shared state alone. -/
def sharing (self : Watcher) (manager : Manager) : Watcher := {self with toManager := manager}

def setChainState (self : Watcher) (chain : ChainKey) (state : StreamStartState) : Watcher :=
  {self with listeningChainStates := Function.update self.listeningChainStates chain state}

def startCosmos (connecting : Connecting) (self : Watcher) (chain : ChainKey) :
    Watcher × Except TriggerError Unit :=
  match connecting.cosmosClient with
  | .error reason => (self,.error (.climb reason))
  | .ok () =>
    match connecting.cosmosStream with
    | .ok () => (self.setChainState chain .connected,.ok ())
    | .error _ => (self.setChainState chain .waiting,.ok ())

def startEvm (connecting : Connecting) (self : Watcher) (chain : ChainKey) (config : EvmChainConfig) :
    Watcher × Except TriggerError Unit :=
  if config.wsEndpoints.isEmpty then (self,.error (.evmMissingWebsocket chain))
  else
    match connecting.evmEventStream with
    | .error _ => (self.setChainState chain .waiting,.ok ())
    | .ok () =>
      match connecting.evmBlockStream with
      | .error _ => (self.setChainState chain .waiting,.ok ())
      | .ok () =>
        let self := {self with evmControllers := self.evmControllers.insert chain (.new connecting.evmKeys)}
        (self.setChainState chain .connected,.ok ())

/-- The controller is kept under the key of the configuration. Where it already runs, the
state of the chain is left as it is. -/
def startStellar (connecting : Connecting) (self : Watcher) (chain : ChainKey)
    (config : StellarChainConfig) : Watcher × Except TriggerError Unit :=
  if config.rpcUrl.isEmpty then (self,.error (.stellarMissingRpc chain))
  else
    match self.lookup.stellarControllers.get config.chainKey with
    | some _ => (self,.ok ())
    | none =>
      match connecting.stellarController with
      | .error error => (self,.error (.stellarClient error))
      | .ok () =>
        match connecting.stellarEventStream,connecting.stellarLedgerStream with
        | .ok (),.ok () =>
          let manager := self.setStellarControllers
            (self.lookup.stellarControllers.insert config.chainKey ⟨false,.new connecting.stellarKeys⟩)
          ((self.sharing manager).setChainState chain .connected,.ok ())
        | _,_ => (self.setChainState chain .waiting,.ok ())

def startListeningChain (connecting : Connecting) (self : Watcher) (chain : ChainKey) :
    Watcher × Except TriggerError Unit :=
  if self.disableNetworking then (self,.ok ())
  else
    match self.listeningChainStates chain with
    | .connected => (self,.ok ())
    | .connecting => (self,.ok ())
    | .waiting =>
      let self := self.setChainState chain .connecting
      match self.chainConfigs.getChain chain with
      | none => (self.setChainState chain .waiting,.ok ())
      | some (.cosmos _) => self.startCosmos connecting chain
      | some (.evm config) => self.startEvm connecting chain config
      | some (.stellar config) => self.startStellar connecting chain config

/-- The state in which the attempt to start the cron or the AtProto stream leaves it. -/
def startedState (disableNetworking : Bool) (stream : Except TriggerError Unit) :
    StreamStartState → StreamStartState
  | .waiting =>
    if disableNetworking then .waiting
    else
      match stream with
      | .ok () => .connected
      | .error _ => .waiting
  | state => state

end Watcher

/-- What a pass of the loop does: the commands it sends, or how it ends the loop. -/
inductive Reply
  | sent (commands : List DispatcherCommand)
  | failed (error : TriggerError)
  | stopped

/-- The commands of the reply. -/
def Reply.commands : Reply → List DispatcherCommand
  | .sent commands => commands
  | _ => []

namespace Watcher

def onLocalCommand (lib : EventLib) (connecting : Connecting) (self : Watcher) :
    TriggerCommand → Watcher × Reply
  | .kill => (self,.stopped)
  | .manualTrigger action => (self,.sent [.trigger action])
  | .startListeningCron =>
    ({self with cronStreamState :=
        startedState self.disableNetworking connecting.cronStream self.cronStreamState},.sent [])
  | .startListeningChain chain =>
    match self.startListeningChain connecting chain with
    | (self,.ok ()) => (self,.sent [])
    | (self,.error error) => (self,.failed error)
  | .watchEvmContractEvents chain addresses eventHashes =>
    (self.sharing (self.callEvm chain (.enableLogs addresses eventHashes)),.sent [])
  | .watchEvmBlocks chain => (self.sharing (self.callEvm chain (.toggleBlockHeight true)),.sent [])
  | .watchStellarServiceUri serviceId chain projectRoot =>
    (self.sharing (self.watchStellarServiceUri lib serviceId chain projectRoot),.sent [])
  | .unwatchStellarServiceUri serviceId =>
    (self.sharing (self.unwatchStellarServiceUri serviceId),.sent [])
  | .watchStellarBlocks chain => (self.sharing (self.watchStellarBlocks chain),.sent [])
  | .startListeningAtProto =>
    ({self with atprotoStreamState :=
        startedState self.disableNetworking connecting.atprotoStream self.atprotoStreamState},.sent [])

/-- One pass of the loop over an item, which a stream gives or fails to give. -/
def handle (lib : EventLib) (isActive : ServiceId → Bool) (connecting : Connecting) (self : Watcher) :
    Except TriggerError StreamTriggers → Watcher × Reply
  | .error _ => (self,.sent [])
  | .ok (.localCommand command) => self.onLocalCommand lib connecting command
  | .ok (.evm event) =>
    match self.onEvm lib isActive event with
    | .error error => (self,.failed error)
    | .ok commands => (self,.sent commands)
  | .ok (.stellarEvent event rpcIds) => (self,.sent (self.onStellarEvent lib isActive event rpcIds))
  | .ok (.cosmos chain contractEvents blockHeight) =>
    let (manager,blocks) := self.processBlocks isActive chain blockHeight
    let events := contractEvents.flatMap (self.onCosmosEvent lib isActive chain blockHeight)
    (self.sharing manager,.sent (events ++ blocks))
  | .ok (.evmBlock chain blockHeight) =>
    let (manager,blocks) := self.processBlocks isActive chain blockHeight
    (self.sharing manager,.sent blocks)
  | .ok (.stellarLedgerSequence chain ledger) =>
    let (manager,blocks) := self.processBlocks isActive chain ledger.toUInt64
    (self.sharing manager,.sent blocks)
  | .ok (.cron hits) => (self,.sent (self.onCron isActive hits))
  | .ok (.atProto event) => (self,.sent (self.onAtProto isActive event))

@[simp] theorem setChainState_setChainState (self : Watcher) (chain : ChainKey)
    (first second : StreamStartState) :
    (self.setChainState chain first).setChainState chain second = self.setChainState chain second := by
  simp [setChainState]

theorem setChainState_same (self : Watcher) (chain : ChainKey) (state : StreamStartState)
    (same : self.listeningChainStates chain = state) : self.setChainState chain state = self := by
  subst state
  simp [setChainState]

/-- What a start command leaves: the watcher as it was, a connected chain with its
controller, a chain left connecting since its controller already runs, or an error. -/
inductive Started (connecting : Connecting) (self : Watcher) (chain : ChainKey) :
    Watcher → Except TriggerError Unit → Prop
  | unchanged : Started connecting self chain self (.ok ())
  | cosmos (config : CosmosChainConfig) (online : self.disableNetworking = false)
      (waiting : self.listeningChainStates chain = .waiting)
      (found : self.chainConfigs.getChain chain = some (.cosmos config))
      (client : connecting.cosmosClient = .ok ()) (stream : connecting.cosmosStream = .ok ()) :
      Started connecting self chain (self.setChainState chain .connected) (.ok ())
  | evm (config : EvmChainConfig) (online : self.disableNetworking = false)
      (waiting : self.listeningChainStates chain = .waiting)
      (found : self.chainConfigs.getChain chain = some (.evm config))
      (endpoints : config.wsEndpoints.isEmpty = false)
      (events : connecting.evmEventStream = .ok ()) (blocks : connecting.evmBlockStream = .ok ()) :
      Started connecting self chain
        ((self.sharing {self.toManager with
          evmControllers := self.evmControllers.insert chain (.new connecting.evmKeys)}).setChainState chain .connected) (.ok ())
  | stellar (config : StellarChainConfig) (online : self.disableNetworking = false)
      (waiting : self.listeningChainStates chain = .waiting)
      (found : self.chainConfigs.getChain chain = some (.stellar config))
      (endpoint : config.rpcUrl.isEmpty = false)
      (absent : self.lookup.stellarControllers.get config.chainKey = none)
      (created : connecting.stellarController = .ok ())
      (events : connecting.stellarEventStream = .ok ()) (ledgers : connecting.stellarLedgerStream = .ok ()) :
      Started connecting self chain
        ((self.sharing (self.setStellarControllers
          (self.lookup.stellarControllers.insert config.chainKey ⟨false,.new connecting.stellarKeys⟩))).setChainState chain
            .connected) (.ok ())
  | running (config : StellarChainConfig) (controller : StellarStreamController)
      (online : self.disableNetworking = false) (waiting : self.listeningChainStates chain = .waiting)
      (found : self.chainConfigs.getChain chain = some (.stellar config))
      (endpoint : config.rpcUrl.isEmpty = false)
      (present : self.lookup.stellarControllers.get config.chainKey = some controller) :
      Started connecting self chain (self.setChainState chain .connecting) (.ok ())
  | refused (error : TriggerError) :
      Started connecting self chain (self.setChainState chain .connecting) (.error error)

theorem started (connecting : Connecting) (self : Watcher) (chain : ChainKey) :
    Started connecting self chain (self.startListeningChain connecting chain).1
      (self.startListeningChain connecting chain).2 := by
  unfold startListeningChain
  by_cases offline : self.disableNetworking = true
  · rw [if_pos offline]
    exact .unchanged
  have online : self.disableNetworking = false := by simpa using offline
  rw [if_neg offline]
  cases waiting : self.listeningChainStates chain with
  | connected => exact .unchanged
  | connecting => exact .unchanged
  | waiting =>
    have restored : (self.setChainState chain .connecting).setChainState chain .waiting = self := by
      rw [setChainState_setChainState,setChainState_same self chain .waiting waiting]
    have configs : (self.setChainState chain .connecting).chainConfigs = self.chainConfigs := rfl
    simp only [configs]
    rcases found : self.chainConfigs.getChain chain with _ | config | config | config
    · rw [restored]
      exact .unchanged
    · simp only [startCosmos]
      cases client : connecting.cosmosClient with
      | error reason => exact .refused _
      | ok _ =>
        cases stream : connecting.cosmosStream with
        | error _ =>
          rw [restored]
          exact .unchanged
        | ok _ =>
          rw [setChainState_setChainState]
          exact .cosmos config online waiting found client stream
    · simp only [startEvm]
      cases endpoints : config.wsEndpoints.isEmpty with
      | true => exact .refused _
      | false =>
        cases events : connecting.evmEventStream with
        | error _ =>
          rw [restored]
          exact .unchanged
        | ok _ =>
          cases blocks : connecting.evmBlockStream with
          | error _ =>
            rw [restored]
            exact .unchanged
          | ok _ =>
            have begun := Started.evm config online waiting found endpoints events blocks
            simpa [setChainState,sharing] using begun
    · have controllers : (self.setChainState chain .connecting).lookup.stellarControllers =
        self.lookup.stellarControllers := rfl
      simp only [startStellar,controllers]
      cases endpoint : config.rpcUrl.isEmpty with
      | true => exact .refused _
      | false =>
        cases present : self.lookup.stellarControllers.get config.chainKey with
        | some controller => exact .running config controller online waiting found endpoint present
        | none =>
          cases created : connecting.stellarController with
          | error error => exact .refused _
          | ok _ =>
            cases events : connecting.stellarEventStream with
            | error _ =>
              rw [restored]
              exact .unchanged
            | ok _ =>
              cases ledgers : connecting.stellarLedgerStream with
              | error _ =>
                rw [restored]
                exact .unchanged
              | ok _ =>
                have begun := Started.stellar config online waiting found endpoint present created events ledgers
                simpa [setChainState,sharing,Manager.setStellarControllers] using begun

/-- A command changes of the lookup maps at most the controllers beside them. -/
theorem onLocalCommand_lookupMaps (lib : EventLib) (connecting : Connecting) (self : Watcher)
    (command : TriggerCommand) :
    (self.onLocalCommand lib connecting command).1.lookup.toLookupMaps = self.lookup.toLookupMaps := by
  cases command with
  | startListeningChain chain =>
    have begun := started connecting self chain
    simp only [onLocalCommand]
    generalize self.startListeningChain connecting chain = result at begun ⊢
    obtain ⟨next,_ | _⟩ := result
    · cases begun
      rfl
    · cases begun <;> rfl
  | watchEvmBlocks chain =>
    simp only [onLocalCommand,sharing,Manager.callEvm]
    split <;> rfl
  | watchEvmContractEvents chain addresses eventHashes =>
    simp only [onLocalCommand,sharing,Manager.callEvm]
    split <;> rfl
  | watchStellarBlocks chain =>
    simp only [onLocalCommand,sharing,Manager.watchStellarBlocks]
    split <;> rfl
  | watchStellarServiceUri serviceId chain projectRoot =>
    simp only [onLocalCommand,sharing,Manager.watchStellarServiceUri]
    split
    · rfl
    · split <;> rfl
  | unwatchStellarServiceUri serviceId =>
    simp only [onLocalCommand,sharing,Manager.unwatchStellarServiceUri]
    split
    · rfl
    · split <;> rfl
  | _ => rfl

end Watcher
end Warpdrive.Trigger
