import Warpdrive.Foundation.LockOrder
import Warpdrive.Types.Submission
import Warpdrive.Trigger.Lookup

/-! The locks that the lookup maps' operations (`trigger/lookup.rs`) and the event
arms of the watcher (`trigger.rs`) take, each call as the acquisitions and releases it
performs in order. What a call finds on its way decides which of them it performs, so
it is part of the call. `remove_service` takes `trigger_configs` before every index and
before `triggers_by_service_workflow`; the other calls that hold two of these locks take
`trigger_configs` last. -/
namespace Warpdrive.Trigger.Locks

open Warpdrive.Foundation Warpdrive.Types Warpdrive.Foundation.Execution Warpdrive.Foundation.LockOrder

inductive Lock
  | triggerConfigs
  | triggersByCosmosContractEvent
  | triggersByEvmContractEvent
  | triggersByStellarContractEvent
  | triggersByAtprotoEventExact
  | triggersByAtprotoEventPattern
  | serviceManager
  | triggersByServiceWorkflow
  | blockSchedulers
  | cronScheduler
  | stellarControllers
  | eventFilters (chain : ChainKey)
  deriving DecidableEq

abbrev Program := List (Act Lock)

/-- A lock taken for one statement. -/
def brief (mode : Mode) (lock : Lock) : Program := [.acquire mode lock,.release lock]

def briefIf (taken : Bool) (mode : Mode) (lock : Lock) : Program :=
  if taken then brief mode lock else []

/-- What `update_event_filters` of a chain's client needs, where the controllers hold it. -/
inductive ClientFound
  | missing
  | present
  deriving DecidableEq

/-- What removing a Stellar trigger finds: whether the index has its handle, and then
whether the controllers have the client. -/
inductive HandleFound
  | missing
  | present (client : ClientFound)
  deriving DecidableEq

/-- One contract event of a Cosmos batch: whether it carries a service URI, and whether
the index has triggers for it. -/
structure CosmosEventFound where
  serviceUri : Bool
  listed : Bool

/-- What `add_trigger` finds for a Stellar trigger. -/
inductive StellarAdd
  | invalidFilter
  | valid (client : ClientFound)

inductive Call
  | evm (topic0 serviceUri listed : Bool)
  | stellarEvent (specRepo : Bool)
  | cosmos (events : List CosmosEventFound) (hits : Bool)
  | atProto (matched : Bool)
  | addTrigger (trigger : Trigger) (stellar : StellarAdd) (scheduled : Bool)
  | removeWorkflow (found : Option (Option Trigger)) (handle : HandleFound)
  | removeService (triggers : List (Trigger × HandleFound))
  | configsForService

def getTriggerConfigs : Program := brief .read .triggerConfigs

def evmArm (topic0 serviceUri listed : Bool) : Program :=
  if topic0 then
    briefIf serviceUri .read .serviceManager ++ [.acquire .read .triggersByEvmContractEvent] ++
      (if listed then getTriggerConfigs else []) ++ [.release .triggersByEvmContractEvent]
  else []

def stellarEventArm (specRepo : Bool) : Program :=
  briefIf specRepo .read .serviceManager ++ [.acquire .read .triggersByStellarContractEvent] ++
    getTriggerConfigs ++ [.release .triggersByStellarContractEvent]

def cosmosEvent (found : CosmosEventFound) : Program :=
  briefIf found.serviceUri .read .serviceManager ++ if found.listed then getTriggerConfigs else []

/-- `process_blocks`, when the height is not zero. -/
def processBlocks (hits : Bool) : Program :=
  brief .write .blockSchedulers ++ if hits then getTriggerConfigs else []

def cosmosArm (events : List CosmosEventFound) (hits : Bool) : Program :=
  [.acquire .read .triggersByCosmosContractEvent] ++ events.flatMap cosmosEvent ++
    [.release .triggersByCosmosContractEvent] ++ processBlocks hits

def atProtoArm (matched : Bool) : Program :=
  brief .read .triggersByAtprotoEventExact ++ brief .read .triggersByAtprotoEventPattern ++
    if matched then getTriggerConfigs else []

def atProtoIndex (collection : String) : Lock :=
  if isCollectionPattern collection then .triggersByAtprotoEventPattern else .triggersByAtprotoEventExact

/-- The last two writes of `add_trigger`, the same for every trigger. -/
def registered : Program := brief .write .triggersByServiceWorkflow ++ brief .write .triggerConfigs

def addTrigger (trigger : Trigger) (stellar : StellarAdd) (scheduled : Bool) : Program :=
  match trigger with
  | .evmContractEvent _ _ _ => brief .write .triggersByEvmContractEvent ++ registered
  | .cosmosContractEvent _ _ _ => brief .write .triggersByCosmosContractEvent ++ registered
  | .stellarContractEvent chain _ _ =>
    match stellar with
    | .invalidFilter => []
    | .valid .missing => brief .read .stellarControllers
    | .valid .present =>
      [.acquire .read .stellarControllers] ++ brief .write (.eventFilters chain) ++
        brief .write .triggersByStellarContractEvent ++ [.release .stellarControllers] ++ registered
  | .blockInterval _ _ _ _ => brief .write .blockSchedulers ++ if scheduled then registered else []
  | .cron _ _ _ => brief .write .cronScheduler ++ if scheduled then registered else []
  | .atProtoEvent collection _ _ => brief .write (atProtoIndex collection) ++ registered
  | .manual => registered

/-- The Stellar controllers held while one handle is removed from its client. -/
def removeHandle (chain : ChainKey) : ClientFound → Program
  | .missing => brief .read .stellarControllers
  | .present =>
    [.acquire .read .stellarControllers] ++ brief .write (.eventFilters chain) ++
      [.release .stellarControllers]

/-- The arms of `remove_workflow`, which takes the lock of the trigger's index. -/
def removeIndexed (trigger : Trigger) (handle : HandleFound) : Program :=
  match trigger with
  | .evmContractEvent _ _ _ => brief .write .triggersByEvmContractEvent
  | .cosmosContractEvent _ _ _ => brief .write .triggersByCosmosContractEvent
  | .stellarContractEvent chain _ _ =>
    [.acquire .write .triggersByStellarContractEvent] ++
      (match handle with
        | .missing => []
        | .present client => removeHandle chain client) ++ [.release .triggersByStellarContractEvent]
  | .blockInterval _ _ _ _ => brief .write .blockSchedulers
  | .cron _ _ _ => brief .write .cronScheduler
  | .manual => []
  | .atProtoEvent collection _ _ => brief .write (atProtoIndex collection)

/-- The removal ends early at a Stellar trigger whose client is missing. -/
def fails (trigger : Trigger) (handle : HandleFound) : Bool :=
  match trigger,handle with
  | .stellarContractEvent _ _ _,.present .missing => true
  | _,_ => false

def removeWorkflow (found : Option (Option Trigger)) (handle : HandleFound) : Program :=
  [.acquire .write .triggersByServiceWorkflow] ++
    (match found with
      | none => []
      | some none => brief .read .triggerConfigs ++ brief .write .triggerConfigs
      | some (some trigger) =>
        brief .read .triggerConfigs ++ removeIndexed trigger handle ++
          if fails trigger handle then [] else brief .write .triggerConfigs) ++
    [.release .triggersByServiceWorkflow]

/-- The arms of `remove_service`, which holds every index already. -/
def removeHeld (trigger : Trigger) (handle : HandleFound) : Program :=
  match trigger,handle with
  | .stellarContractEvent chain _ _,.present client => removeHandle chain client
  | .blockInterval _ _ _ _,_ => brief .write .blockSchedulers
  | .cron _ _ _,_ => brief .write .cronScheduler
  | _,_ => []

def removeEach : List (Trigger × HandleFound) → Program
  | [] => []
  | (trigger,handle)::rest =>
    removeHeld trigger handle ++ if fails trigger handle then [] else removeEach rest

/-- The locks that `remove_service` holds to its end, in the order it takes them. -/
def serviceLocks : List Lock :=
  [.triggerConfigs,.triggersByEvmContractEvent,.triggersByCosmosContractEvent,
    .triggersByStellarContractEvent,.triggersByAtprotoEventExact,.triggersByAtprotoEventPattern,
    .triggersByServiceWorkflow]

def removeService (triggers : List (Trigger × HandleFound)) : Program :=
  serviceLocks.map (.acquire .write) ++ brief .write .serviceManager ++ removeEach triggers ++
    serviceLocks.reverse.map .release

def configsForService : Program :=
  [.acquire .read .triggersByServiceWorkflow,.acquire .read .triggerConfigs,.release .triggerConfigs,
    .release .triggersByServiceWorkflow]

def Call.program : Call → Program
  | .evm topic0 serviceUri listed => evmArm topic0 serviceUri listed
  | .stellarEvent specRepo => stellarEventArm specRepo
  | .cosmos events hits => cosmosArm events hits
  | .atProto matched => atProtoArm matched
  | .addTrigger trigger stellar scheduled => Locks.addTrigger trigger stellar scheduled
  | .removeWorkflow found handle => Locks.removeWorkflow found handle
  | .removeService triggers => Locks.removeService triggers
  | .configsForService => Locks.configsForService

/-- `remove_service`, the calls that take `trigger_configs` first. -/
def Call.configsFirst : Call → Bool
  | .removeService _ => true
  | _ => false

/-- The calls that take `trigger_configs` while they hold an index or
`triggers_by_service_workflow`. -/
def Call.configsLast : Call → Bool
  | .evm _ _ _ => true
  | .stellarEvent _ => true
  | .cosmos _ _ => true
  | .removeWorkflow _ _ => true
  | .configsForService => true
  | _ => false

/-- The Stellar controllers are only read by these calls. -/
def Contended (lock : Lock) : Prop := lock ≠ .stellarControllers

/-- The order in which `remove_service` takes its locks. -/
def rankConfigsFirst : Lock → Nat
  | .triggerConfigs => 0
  | .triggersByEvmContractEvent => 1
  | .triggersByCosmosContractEvent => 2
  | .triggersByStellarContractEvent => 3
  | .triggersByAtprotoEventExact => 4
  | .triggersByAtprotoEventPattern => 5
  | .triggersByServiceWorkflow => 6
  | _ => 7

/-- The order in which the other calls take theirs. -/
def rankConfigsLast : Lock → Nat
  | .triggersByServiceWorkflow => 0
  | .triggersByEvmContractEvent => 1
  | .triggersByCosmosContractEvent => 1
  | .triggersByStellarContractEvent => 1
  | .triggersByAtprotoEventExact => 1
  | .triggersByAtprotoEventPattern => 1
  | .triggerConfigs => 3
  | _ => 2

theorem ordered_addTrigger (rank : Lock → Nat) (trigger : Trigger) (stellar : StellarAdd)
    (scheduled : Bool) : Ordered Contended rank [] (Locks.addTrigger trigger stellar scheduled) := by
  cases trigger with
  | stellarContractEvent chain contractId topicSegments =>
    rcases stellar with _ | _ | _
    · exact trivial
    · simp [Locks.addTrigger,Ordered,brief]
    · simp [Locks.addTrigger,Ordered,brief,registered,Contended]
  | blockInterval chain nBlocks startBlock endBlock =>
    cases scheduled <;> simp [Locks.addTrigger,Ordered,brief,registered]
  | cron schedule startTime endTime =>
    cases scheduled <;> simp [Locks.addTrigger,Ordered,brief,registered]
  | _ => simp [Locks.addTrigger,Ordered,brief,registered]

theorem ordered_atProtoArm (rank : Lock → Nat) (matched : Bool) :
    Ordered Contended rank [] (atProtoArm matched) := by
  cases matched <;> simp [Ordered,brief,atProtoArm,getTriggerConfigs]

theorem ordered_evmArm (topic0 serviceUri listed : Bool) :
    Ordered Contended rankConfigsLast [] (evmArm topic0 serviceUri listed) := by
  cases topic0 <;> cases serviceUri <;> cases listed <;>
    simp [Ordered,brief,briefIf,evmArm,getTriggerConfigs,rankConfigsLast]

theorem ordered_stellarEventArm (specRepo : Bool) :
    Ordered Contended rankConfigsLast [] (stellarEventArm specRepo) := by
  cases specRepo <;> simp [Ordered,brief,briefIf,stellarEventArm,getTriggerConfigs,rankConfigsLast]

theorem ordered_cosmosArm (events : List CosmosEventFound) (hits : Bool) :
    Ordered Contended rankConfigsLast [] (cosmosArm events hits) := by
  have each := ordered_flatMap Contended rankConfigsLast [.triggersByCosmosContractEvent] cosmosEvent
    events (by
      intro found
      obtain ⟨serviceUri,listed⟩ := found
      cases serviceUri <;> cases listed <;>
        simp [Ordered,after,brief,briefIf,cosmosEvent,getTriggerConfigs,rankConfigsLast])
  have blocks : Ordered Contended rankConfigsLast [] (processBlocks hits) := by
    cases hits <;> simp [Ordered,brief,processBlocks,getTriggerConfigs]
  unfold cosmosArm
  rw [List.append_assoc,List.append_assoc]
  apply ordered_append
  · simp [Ordered]
  · refine ordered_append _ _ _ _ _ each.1 ?_
    change Ordered Contended rankConfigsLast (after [.triggersByCosmosContractEvent] _) _
    rw [each.2]
    simpa [Ordered] using blocks

theorem ordered_configsForService : Ordered Contended rankConfigsLast [] configsForService := by
  simp [Ordered,configsForService,rankConfigsLast]

theorem atProtoIndex_cases (collection : String) :
    atProtoIndex collection = .triggersByAtprotoEventPattern ∨
      atProtoIndex collection = .triggersByAtprotoEventExact := by
  unfold atProtoIndex
  split
  · exact .inl rfl
  · exact .inr rfl

theorem ordered_removeIndexed (trigger : Trigger) (handle : HandleFound) :
    Ordered Contended rankConfigsLast [.triggersByServiceWorkflow] (removeIndexed trigger handle) ∧
      after [.triggersByServiceWorkflow] (removeIndexed trigger handle) =
        [.triggersByServiceWorkflow] := by
  cases trigger with
  | stellarContractEvent chain contractId topicSegments =>
    rcases handle with _ | _ | _
    · simp [removeIndexed,Ordered,after,rankConfigsLast]
    · simp [removeIndexed,removeHandle,Ordered,after,brief,rankConfigsLast,Contended]
    · simp [removeIndexed,removeHandle,Ordered,after,brief,rankConfigsLast,Contended]
  | atProtoEvent collection repoDid action =>
    rcases atProtoIndex_cases collection with index | index <;>
      simp [removeIndexed,Ordered,after,brief,rankConfigsLast,index]
  | _ => simp [removeIndexed,Ordered,after,brief,rankConfigsLast]

theorem ordered_removeWorkflow (found : Option (Option Trigger)) (handle : HandleFound) :
    Ordered Contended rankConfigsLast [] (Locks.removeWorkflow found handle) := by
  rcases found with _ | _ | trigger
  · simp [Locks.removeWorkflow,Ordered]
  · simp [Locks.removeWorkflow,Ordered,brief,rankConfigsLast]
  · obtain ⟨ordered,held⟩ := ordered_removeIndexed trigger handle
    have ends : ∀ failed : Bool, Ordered Contended rankConfigsLast [.triggersByServiceWorkflow]
        ((if failed then [] else brief .write .triggerConfigs) ++
          [.release .triggersByServiceWorkflow]) := by
      intro failed
      cases failed <;> simp [Ordered,brief,rankConfigsLast]
    have rest : Ordered Contended rankConfigsLast [.triggersByServiceWorkflow]
        (removeIndexed trigger handle ++ ((if fails trigger handle then [] else
          brief .write .triggerConfigs) ++ [.release .triggersByServiceWorkflow])) := by
      refine ordered_append _ _ _ _ _ ordered ?_
      rw [held]
      exact ends _
    simpa [Locks.removeWorkflow,Ordered,brief,rankConfigsLast] using rest

theorem ordered_removeEach (triggers : List (Trigger × HandleFound)) :
    Ordered Contended rankConfigsFirst serviceLocks.reverse (removeEach triggers) ∧
      after serviceLocks.reverse (removeEach triggers) = serviceLocks.reverse := by
  induction triggers with
  | nil => exact ⟨trivial,rfl⟩
  | cons entry rest ih =>
    obtain ⟨trigger,handle⟩ := entry
    have held : Ordered Contended rankConfigsFirst serviceLocks.reverse (removeHeld trigger handle) ∧
        after serviceLocks.reverse (removeHeld trigger handle) = serviceLocks.reverse := by
      cases trigger with
      | stellarContractEvent chain contractId topicSegments =>
        rcases handle with _ | _ | _ <;>
          simp [removeHeld,removeHandle,serviceLocks,Ordered,after,brief,rankConfigsFirst,Contended]
      | _ => simp [removeHeld,serviceLocks,Ordered,after,brief,rankConfigsFirst]
    unfold removeEach
    rw [after_append,held.2]
    constructor
    · refine ordered_append _ _ _ _ _ held.1 ?_
      rw [held.2]
      split
      · exact trivial
      · exact ih.1
    · split
      · rfl
      · exact ih.2

theorem ordered_removeService (triggers : List (Trigger × HandleFound)) :
    Ordered Contended rankConfigsFirst [] (Locks.removeService triggers) := by
  obtain ⟨ordered,held⟩ := ordered_removeEach triggers
  have releases : Ordered Contended rankConfigsFirst serviceLocks.reverse
      (serviceLocks.reverse.map .release) := by
    simp [serviceLocks,Ordered]
  have rest : Ordered Contended rankConfigsFirst serviceLocks.reverse
      (removeEach triggers ++ serviceLocks.reverse.map .release) := by
    refine ordered_append _ _ _ _ _ ordered ?_
    rw [held]
    exact releases
  unfold Locks.removeService
  rw [List.append_assoc,List.append_assoc]
  simpa [serviceLocks,Ordered,brief,rankConfigsFirst,Contended] using rest

theorem ordered_configsLast (call : Call) (other : call.configsFirst ≠ true) :
    Ordered Contended rankConfigsLast [] call.program := by
  cases call with
  | evm topic0 serviceUri listed => exact ordered_evmArm topic0 serviceUri listed
  | stellarEvent specRepo => exact ordered_stellarEventArm specRepo
  | cosmos events hits => exact ordered_cosmosArm events hits
  | atProto matched => exact ordered_atProtoArm rankConfigsLast matched
  | addTrigger trigger stellar scheduled =>
    exact ordered_addTrigger rankConfigsLast trigger stellar scheduled
  | removeWorkflow found handle => exact ordered_removeWorkflow found handle
  | removeService triggers => exact absurd rfl other
  | configsForService => exact ordered_configsForService

theorem ordered_configsFirst (call : Call) (other : call.configsLast ≠ true) :
    Ordered Contended rankConfigsFirst [] call.program := by
  cases call with
  | atProto matched => exact ordered_atProtoArm rankConfigsFirst matched
  | addTrigger trigger stellar scheduled =>
    exact ordered_addTrigger rankConfigsFirst trigger stellar scheduled
  | removeService triggers => exact ordered_removeService triggers
  | _ => exact absurd rfl other

theorem controllers_read_removeEach (triggers : List (Trigger × HandleFound)) :
    Act.acquire .write .stellarControllers ∉ removeEach triggers := by
  induction triggers with
  | nil => exact List.not_mem_nil
  | cons entry rest ih =>
    obtain ⟨trigger,handle⟩ := entry
    have held : Act.acquire .write .stellarControllers ∉ removeHeld trigger handle := by
      cases trigger with
      | stellarContractEvent chain contractId topicSegments =>
        rcases handle with _ | _ | _ <;> simp [removeHeld,removeHandle,brief]
      | _ => simp [removeHeld,brief]
    unfold removeEach
    rw [List.mem_append]
    rintro (member | member)
    · exact held member
    · split at member
      · cases member
      · exact ih member

theorem controllers_read_removeIndexed (trigger : Trigger) (handle : HandleFound) :
    Act.acquire .write .stellarControllers ∉ removeIndexed trigger handle := by
  cases trigger with
  | stellarContractEvent chain contractId topicSegments =>
    rcases handle with _ | _ | _ <;> simp [removeIndexed,removeHandle,brief]
  | atProtoEvent collection repoDid action =>
    rcases atProtoIndex_cases collection with index | index <;> simp [removeIndexed,brief,index]
  | _ => simp [removeIndexed,brief]

/-- No call takes the Stellar controllers exclusively. -/
theorem controllers_read (call : Call) : Act.acquire .write .stellarControllers ∉ call.program := by
  cases call with
  | evm topic0 serviceUri listed =>
    cases topic0 <;> cases serviceUri <;> cases listed <;>
      simp [Call.program,evmArm,brief,briefIf,getTriggerConfigs]
  | stellarEvent specRepo =>
    cases specRepo <;> simp [Call.program,stellarEventArm,brief,briefIf,getTriggerConfigs]
  | cosmos events hits =>
    have each : ∀ found, Act.acquire .write .stellarControllers ∉ cosmosEvent found := by
      intro found
      obtain ⟨serviceUri,listed⟩ := found
      cases serviceUri <;> cases listed <;> simp [cosmosEvent,brief,briefIf,getTriggerConfigs]
    cases hits <;>
      simp [Call.program,cosmosArm,processBlocks,brief,getTriggerConfigs,each]
  | atProto matched => cases matched <;> simp [Call.program,atProtoArm,brief,getTriggerConfigs]
  | addTrigger trigger stellar scheduled =>
    cases trigger with
    | stellarContractEvent chain contractId topicSegments =>
      rcases stellar with _ | _ | _ <;> simp [Call.program,Locks.addTrigger,brief,registered]
    | atProtoEvent collection repoDid action =>
      rcases atProtoIndex_cases collection with index | index <;>
        simp [Call.program,Locks.addTrigger,brief,registered,index]
    | _ => cases scheduled <;> simp [Call.program,Locks.addTrigger,brief,registered]
  | removeWorkflow found handle =>
    rcases found with _ | _ | trigger
    · simp [Call.program,Locks.removeWorkflow]
    · simp [Call.program,Locks.removeWorkflow,brief]
    · have held := controllers_read_removeIndexed trigger handle
      cases ends : fails trigger handle <;>
        simp [Call.program,Locks.removeWorkflow,brief,held,ends]
  | removeService triggers =>
    have each := controllers_read_removeEach triggers
    simp [Call.program,Locks.removeService,serviceLocks,brief,each]
  | configsForService => simp [Call.program,Locks.configsForService]

theorem contended_of_write (call : Call) (lock : Lock) (member : Act.acquire .write lock ∈ call.program) :
    Contended lock := by
  intro same
  subst same
  exact controllers_read call member

section Deadlock

variable {I : Type} [DecidableEq I]

/-- Every call starts with nothing taken. -/
def begin (calls : I → Call) : State I Lock := start (fun caller => (calls caller).program)

/-- The step lets no `remove_service` call hold locks with more to take while a call that
takes `trigger_configs` last does, and the other way round. -/
def Separated (calls : I → Call) (state : State I Lock) (caller : I) : Prop :=
  Admits (fun caller => (calls caller).configsFirst = true) (fun caller => (calls caller).configsLast = true)
    state caller

instance decidableSeparated [Fintype I] (calls : I → Call) (state : State I Lock) (caller : I) :
    Decidable (Separated calls state caller) :=
  inferInstanceAs (Decidable (Admits _ _ _ _))

theorem deadlock_free_when_separated (calls : I → Call) (callers : List I) (final : State I Lock)
    (reached : run step (begin calls) callers = some final)
    (separated : Along step (fun state caller _ => Separated calls state caller) (begin calls) callers) :
    ¬final.Deadlocked := by
  have disjoint : ∀ caller, (calls caller).configsFirst = true → ¬(calls caller).configsLast = true := by
    intro caller first
    cases called : calls caller <;> simp [called,Call.configsFirst,Call.configsLast] at first ⊢
  exact deadlock_free_of_apart Contended rankConfigsFirst rankConfigsLast _ _
    (fun caller => (calls caller).program) disjoint
    (fun caller lock member => contended_of_write (calls caller) lock member)
    (fun caller outside => ordered_configsFirst (calls caller) outside)
    (fun caller outside => ordered_configsLast (calls caller) outside)
    callers final reached separated

end Deadlock

/-- An EVM event is dispatched while a service is removed. -/
def eventDuringRemoval : Caller → Call
  | .first => .removeService []
  | .second => .evm true false true
  | .third => .configsForService

/-- The event arm has taken both its locks before the removal takes its first, and the
removal waits for the index until the arm has released it. -/
def separatedSchedule : List Caller :=
  [.second,.second,.second,.first,.second,.first,.first,.first,.first,.first,.first,.first,.first]

theorem separatedSchedule_deadlock_free :
    ∃ final, run step (begin eventDuringRemoval) separatedSchedule = some final ∧ ¬final.Deadlocked := by
  have runs : (run step (begin eventDuringRemoval) separatedSchedule).isSome = true := by
    decide +kernel
  obtain ⟨final,reached⟩ := Option.isSome_iff_exists.mp runs
  refine ⟨final,reached,?_⟩
  apply deadlock_free_when_separated eventDuringRemoval separatedSchedule final reached
  decide +kernel

theorem event_arm_deadlocks_with_removal :
    ∃ final, run step (begin eventDuringRemoval) [.second,.first] = some final ∧ final.Deadlocked := by
  refine ⟨_,rfl,Caller.first,?_⟩
  apply Relation.TransGen.trans (b := Caller.second)
  · apply Relation.TransGen.single
    exact ⟨_,_,_,rfl,⟨.second,.read,.triggersByEvmContractEvent⟩,by simp,rfl,rfl,.inl rfl⟩
  · apply Relation.TransGen.single
    exact ⟨_,_,_,rfl,⟨.first,.write,.triggerConfigs⟩,by simp,rfl,rfl,.inr rfl⟩

end Warpdrive.Trigger.Locks
