import Warpdrive.Foundation.Maps
import Warpdrive.Types.Signing

/-! Chain configurations (`types/src/chain_config.rs`) and what a service manager
gives its service: the contract address and the id (`types/src/service.rs`). Under
the three chain namespaces a configuration takes its chain id from the key it is
found under; under `dev` it keeps its own. `gasPrice` holds the bits of the `f32`. -/
namespace Warpdrive.Types

open Warpdrive.Foundation

structure CosmosChainConfig where
  chainId : ChainKeyId
  bech32Prefix : String
  rpcEndpoint : Option String
  grpcEndpoint : Option String
  gasPrice : UInt32
  gasDenom : String
  faucetEndpoint : Option String
  deriving DecidableEq

structure EvmChainConfig where
  chainId : ChainKeyId
  wsEndpoints : List String
  httpEndpoint : Option String
  faucetEndpoint : Option String
  wsPriorityEndpointIndex : Option Nat
  deriving DecidableEq

structure StellarChainConfig where
  chainId : ChainKeyId
  chainPollIntervalMs : UInt64
  rpcUrl : String
  networkPassphrase : String
  friendbotUrl : Option String
  deriving DecidableEq

def CosmosChainConfig.chainKey (config : CosmosChainConfig) : ChainKey := ⟨.cosmos,config.chainId⟩

def EvmChainConfig.chainKey (config : EvmChainConfig) : ChainKey := ⟨.evm,config.chainId⟩

def StellarChainConfig.chainKey (config : StellarChainConfig) : ChainKey := ⟨.stellar,config.chainId⟩

inductive AnyChainConfig
  | cosmos (config : CosmosChainConfig)
  | evm (config : EvmChainConfig)
  | stellar (config : StellarChainConfig)
  deriving DecidableEq

structure CosmosChainConfigBuilder where
  bech32Prefix : String
  rpcEndpoint : Option String
  grpcEndpoint : Option String
  gasPrice : UInt32
  gasDenom : String
  faucetEndpoint : Option String

def CosmosChainConfigBuilder.build (self : CosmosChainConfigBuilder) (id : ChainKeyId) : CosmosChainConfig :=
  ⟨id,self.bech32Prefix,self.rpcEndpoint,self.grpcEndpoint,self.gasPrice,self.gasDenom,self.faucetEndpoint⟩

structure EvmChainConfigBuilder where
  wsEndpoints : List String
  httpEndpoint : Option String
  faucetEndpoint : Option String
  wsPriorityEndpointIndex : Option Nat

def EvmChainConfigBuilder.build (self : EvmChainConfigBuilder) (id : ChainKeyId) : EvmChainConfig :=
  ⟨id,self.wsEndpoints,self.httpEndpoint,self.faucetEndpoint,self.wsPriorityEndpointIndex⟩

structure StellarChainConfigBuilder where
  chainPollIntervalMs : UInt64
  rpcUrl : String
  networkPassphrase : String
  friendbotUrl : Option String

def StellarChainConfigBuilder.build (self : StellarChainConfigBuilder) (id : ChainKeyId) : StellarChainConfig :=
  ⟨id,self.chainPollIntervalMs,self.rpcUrl,self.networkPassphrase,self.friendbotUrl⟩

structure ChainConfigs where
  cosmos : HashMap ChainKeyId CosmosChainConfigBuilder
  evm : HashMap ChainKeyId EvmChainConfigBuilder
  stellar : HashMap ChainKeyId StellarChainConfigBuilder
  dev : HashMap ChainKeyId AnyChainConfig

inductive ChainConfigError
  | duplicateChain (key : ChainKey)
  | invalidNamespaceForCosmos (keyNamespace : ChainKeyNamespace)
  | invalidNamespaceForEvm (keyNamespace : ChainKeyNamespace)
  | invalidNamespaceForStellar (keyNamespace : ChainKeyNamespace)
  | invalidNamespace (keyNamespace : ChainKeyNamespace)
  | idMismatch (expected actual : ChainKeyId)

namespace ChainConfigs

def getChain (self : ChainConfigs) (key : ChainKey) : Option AnyChainConfig :=
  if key.keyNamespace = .cosmos then
    (self.cosmos.get key.id).map (fun config => .cosmos (config.build key.id))
  else if key.keyNamespace = .evm then
    (self.evm.get key.id).map (fun config => .evm (config.build key.id))
  else if key.keyNamespace = .stellar then
    (self.stellar.get key.id).map (fun config => .stellar (config.build key.id))
  else if key.keyNamespace = .dev then self.dev.get key.id
  else none

def addChain (self : ChainConfigs) (key : ChainKey) (config : AnyChainConfig) :
    Except ChainConfigError ChainConfigs :=
  if (self.getChain key).isSome then .error (.duplicateChain key)
  else if key.keyNamespace = .dev then .ok {self with dev := self.dev.insert key.id config}
  else if key.keyNamespace = .evm then
    match config with
    | .evm config =>
      if config.chainId ≠ key.id then .error (.idMismatch key.id config.chainId)
      else .ok {self with evm := self.evm.insert key.id ⟨config.wsEndpoints,config.httpEndpoint,
        config.faucetEndpoint,config.wsPriorityEndpointIndex⟩}
    | _ => .error (.invalidNamespaceForEvm key.keyNamespace)
  else if key.keyNamespace = .cosmos then
    match config with
    | .cosmos config =>
      if config.chainId ≠ key.id then .error (.idMismatch key.id config.chainId)
      else .ok {self with cosmos := self.cosmos.insert key.id ⟨config.bech32Prefix,config.rpcEndpoint,
        config.grpcEndpoint,config.gasPrice,config.gasDenom,config.faucetEndpoint⟩}
    | _ => .error (.invalidNamespaceForCosmos key.keyNamespace)
  else if key.keyNamespace = .stellar then
    match config with
    | .stellar config =>
      if config.chainId ≠ key.id then .error (.idMismatch key.id config.chainId)
      else .ok {self with stellar := self.stellar.insert key.id ⟨config.chainPollIntervalMs,config.rpcUrl,
        config.networkPassphrase,config.friendbotUrl⟩}
    | _ => .error (.invalidNamespaceForStellar key.keyNamespace)
  else .error (.invalidNamespace key.keyNamespace)

/-- A chain that is added is found with its configuration, and no other chain changes. -/
theorem getChain_addChain (self next : ChainConfigs) (key : ChainKey) (config : AnyChainConfig)
    (added : self.addChain key config = .ok next) (other : ChainKey) :
    next.getChain other = if other = key then some config else self.getChain other := by
  have cosmosEvm : ChainKeyNamespace.cosmos ≠ .evm := by decide
  have cosmosStellar : ChainKeyNamespace.cosmos ≠ .stellar := by decide
  have evmStellar : ChainKeyNamespace.evm ≠ .stellar := by decide
  have devCosmos : ChainKeyNamespace.dev ≠ .cosmos := by decide
  have devEvm : ChainKeyNamespace.dev ≠ .evm := by decide
  have devStellar : ChainKeyNamespace.dev ≠ .stellar := by decide
  obtain ⟨keyNamespace,id⟩ := key
  obtain ⟨otherNamespace,otherId⟩ := other
  simp only [addChain] at added
  split at added
  · cases added
  split at added
  · next dev =>
    cases added
    subst keyNamespace
    simp only [getChain,HashMap.get_insert,ChainKey.mk.injEq]
    by_cases here : otherNamespace = .dev
    · subst otherNamespace
      by_cases same : otherId = id <;> simp [same,devCosmos,devEvm,devStellar]
    · simp [here]
  split at added
  · next evm =>
    subst keyNamespace
    cases config with
    | evm config =>
      simp only at added
      split at added
      · cases added
      · next same =>
        cases added
        simp only [getChain,HashMap.get_insert,ChainKey.mk.injEq]
        by_cases here : otherNamespace = .evm
        · subst otherNamespace
          by_cases found : otherId = id
          · subst otherId
            simp [cosmosEvm.symm,EvmChainConfigBuilder.build,← not_not.mp same]
          · simp [found,cosmosEvm.symm]
        · simp [here]
    | _ => cases added
  split at added
  · next cosmos =>
    subst keyNamespace
    cases config with
    | cosmos config =>
      simp only at added
      split at added
      · cases added
      · next same =>
        cases added
        simp only [getChain,HashMap.get_insert,ChainKey.mk.injEq]
        by_cases here : otherNamespace = .cosmos
        · subst otherNamespace
          by_cases found : otherId = id
          · subst otherId
            simp [CosmosChainConfigBuilder.build,← not_not.mp same]
          · simp [found]
        · simp [here]
    | _ => cases added
  split at added
  · next stellar =>
    subst keyNamespace
    cases config with
    | stellar config =>
      simp only at added
      split at added
      · cases added
      · next same =>
        cases added
        simp only [getChain,HashMap.get_insert,ChainKey.mk.injEq]
        by_cases here : otherNamespace = .stellar
        · subst otherNamespace
          by_cases found : otherId = id
          · subst otherId
            simp [cosmosStellar.symm,evmStellar.symm,StellarChainConfigBuilder.build,← not_not.mp same]
          · simp [found,cosmosStellar.symm,evmStellar.symm]
        · simp [here]
    | _ => cases added
  · cases added

end ChainConfigs

def ServiceManager.address : ServiceManager → ChainAddress
  | .evm _ address => .evm address
  | .cosmos _ address => .cosmos address
  | .stellar _ address => .stellarContract address

/-- The SHA-256 digest and the raw bytes of a Cosmos address. -/
structure IdPrimitives where
  sha256 : List UInt8 → FixedBytes 32
  cosmosBytes : CosmosAddr → List UInt8

def ServiceManager.idBytes (prim : IdPrimitives) : ServiceManager → List UInt8
  | .evm chain address => utf8 "evm" ++ utf8 chain.display ++ address.toList
  | .cosmos chain address => utf8 "cosmos" ++ utf8 chain.display ++ prim.cosmosBytes address
  | .stellar chain address => utf8 "stellar" ++ utf8 chain.display ++ address.toList

def ServiceId.ofManager (prim : IdPrimitives) (manager : ServiceManager) : ServiceId :=
  ⟨prim.sha256 (manager.idBytes prim)⟩

def Service.id (prim : IdPrimitives) (self : Service) : ServiceId := .ofManager prim self.manager

end Warpdrive.Types
