import Warpdrive.Trigger.UriRecords

/-! Where the subscriptions of the Stellar-managed services are heading. `add_service` fills
a subscription through the queue; `remove_service` empties it only when it finds it filled.
For each service it is tracked what the queue leads to and what the calls in progress still
have to do about it. -/
namespace Warpdrive.Trigger.System

open Warpdrive.Foundation Warpdrive.Types

variable {lib : EventLib}

/-- The watch command of the service was dropped: its chain has no controller yet, and
nothing about the service is in the queue. -/
def Lost (self : System) (serviceId : ServiceId) (chain : ChainKey) : Prop :=
  self.watcher.lookup.stellarControllers.get chain = none ∧
    ∀ command ∈ self.queue, command.uriWrite serviceId = none

structure Heading (system : System) (serviceId : ServiceId) : Prop where
  orderly : Register.Orderly (TriggerCommand.uriWrite serviceId) (system.held serviceId) system.queue
  registered : ∀ chain projectRoot, system.uriOf serviceId = some (chain,projectRoot) →
    system.ends serviceId = some (chain,projectRoot) ∨
      (∃ call, system.duty call = some (.watch serviceId chain projectRoot)) ∨ system.Lost serviceId chain
  unregistered : system.uriOf serviceId = none → system.ends serviceId = none ∨
    ∃ call duty, system.duty call = some duty ∧ duty.Leaves serviceId
  watching : ∀ call chain projectRoot, system.duty call = some (.watch serviceId chain projectRoot) →
    system.ends serviceId = none ∧
      (system.uriOf serviceId = some (chain,projectRoot) ∨ ∃ other, system.duty other = some (.check serviceId))
  alone : ∀ call other chain projectRoot duty, system.duty call = some (.watch serviceId chain projectRoot) →
    system.duty other = some duty → (duty.Watches serviceId → other = call) ∧ duty ≠ .unwatch serviceId
  leaving : ∀ call duty, system.duty call = some duty → duty.Leaves serviceId → system.uriOf serviceId = none

/-- The commands of a call: the manager's own first, then those of the workflows. -/
structure Tidy (prim : IdPrimitives) (system : System) : Prop where
  adding : ∀ call service waits commands, system.calls.get call = some (.adding service waits commands) →
    ∃ rest, commands = Call.managerCommands prim service ++ rest ∧ ∀ command ∈ rest, command.Plain
  sending : ∀ call command commands, system.calls.get call = some (.sending (command::commands)) →
    ∀ other ∈ commands, other.Plain

theorem duty_setCall (self : System) (call other : Nat) (state : Option Call) :
    (self.setCall call state).duty other = if other = call then state.bind Call.duty else self.duty other := by
  unfold duty
  rw [calls_setCall]
  split <;> rfl

theorem duty_of_plain (commands : List TriggerCommand) (plain : ∀ command ∈ commands, command.Plain) :
    Call.duty (.sending commands) = none := by
  cases commands with
  | nil => rfl
  | cons command commands =>
    have first := plain command List.mem_cons_self
    cases command <;> first | rfl | exact first.elim

theorem ends_append (self next : System) (serviceId : ServiceId) (sent : List TriggerCommand)
    (held : next.held serviceId = self.held serviceId) (queue : next.queue = self.queue ++ sent) :
    next.ends serviceId = Register.settle (TriggerCommand.uriWrite serviceId) (self.ends serviceId) sent := by
  unfold ends
  rw [held,queue,Register.settle_append]

theorem Heading.of_same {self next : System} {serviceId : ServiceId} (heading : Heading self serviceId)
    (sent : List TriggerCommand) (queue : next.queue = self.queue ++ sent)
    (other : ∀ command ∈ sent, command.uriWrite serviceId = none)
    (held : next.held serviceId = self.held serviceId) (uri : next.uriOf serviceId = self.uriOf serviceId)
    (absent : ∀ chain, self.watcher.lookup.stellarControllers.get chain = none →
      next.watcher.lookup.stellarControllers.get chain = none)
    (same : ∀ holder duty, duty.service = serviceId →
      (next.duty holder = some duty ↔ self.duty holder = some duty)) : Heading next serviceId := by
  have ends : next.ends serviceId = self.ends serviceId := by
    rw [self.ends_append next serviceId sent held queue]
    exact Register.settle_of_none _ _ other
  refine ⟨?_,?_,?_,?_,?_,?_⟩
  · rw [held,queue,Register.orderly_append]
    exact ⟨heading.orderly,Register.orderly_of_none _ _ other⟩
  · intro chain projectRoot managed
    rw [uri] at managed
    rw [ends]
    rcases heading.registered chain projectRoot managed with settled | ⟨holder,watching⟩ | ⟨missing,quiet⟩
    · exact .inl settled
    · exact .inr (.inl ⟨holder,(same holder _ rfl).mpr watching⟩)
    · refine .inr (.inr ⟨absent chain missing,?_⟩)
      rw [queue]
      intro command member
      rcases List.mem_append.mp member with old | new
      · exact quiet command old
      · exact other command new
  · rw [uri,ends]
    intro unmanaged
    rcases heading.unregistered unmanaged with settled | ⟨holder,duty,present,leaves⟩
    · exact .inl settled
    · exact .inr ⟨holder,duty,(same holder duty leaves.service).mpr present,leaves⟩
  · intro holder chain projectRoot present
    rw [ends,uri]
    obtain ⟨settled,managed⟩ := heading.watching holder chain projectRoot ((same holder _ rfl).mp present)
    refine ⟨settled,?_⟩
    rcases managed with known | ⟨checker,checking⟩
    · exact .inl known
    · exact .inr ⟨checker,(same checker _ rfl).mpr checking⟩
  · intro holder another chain projectRoot duty present second
    have here := (same holder _ rfl).mp present
    constructor
    · intro watches
      exact (heading.alone holder another chain projectRoot duty here
        ((same another duty watches.service).mp second)).1 watches
    · rintro rfl
      exact (heading.alone holder another chain projectRoot _ here ((same another _ rfl).mp second)).2 rfl
  · intro holder duty present leaves
    rw [uri]
    exact heading.leaving holder duty ((same holder duty leaves.service).mp present) leaves

theorem Heading.of_other {self next : System} {serviceId : ServiceId} (heading : Heading self serviceId)
    (call : Nat) (sent : List TriggerCommand) (queue : next.queue = self.queue ++ sent)
    (other : ∀ command ∈ sent, command.uriWrite serviceId = none)
    (held : next.held serviceId = self.held serviceId) (uri : next.uriOf serviceId = self.uriOf serviceId)
    (absent : ∀ chain, self.watcher.lookup.stellarControllers.get chain = none →
      next.watcher.lookup.stellarControllers.get chain = none)
    (duties : ∀ holder, holder ≠ call → next.duty holder = self.duty holder)
    (before : ∀ duty, self.duty call = some duty → duty.service ≠ serviceId)
    (after : ∀ duty, next.duty call = some duty → duty.service ≠ serviceId) : Heading next serviceId := by
  apply heading.of_same sent queue other held uri absent
  intro holder duty about
  by_cases own : holder = call
  · subst own
    exact ⟨fun present => absurd about (after duty present),fun present => absurd about (before duty present)⟩
  · rw [duties holder own]

structure Moved (before after : System) (call : Nat) (sent : List TriggerCommand) (duty : Option Duty) : Prop where
  queue : after.queue = before.queue ++ sent
  held : ∀ serviceId, after.held serviceId = before.held serviceId
  uri : ∀ serviceId, after.uriOf serviceId = before.uriOf serviceId
  absent : ∀ chain, before.watcher.lookup.stellarControllers.get chain = none →
    after.watcher.lookup.stellarControllers.get chain = none
  own : after.duty call = duty
  others : ∀ holder, holder ≠ call → after.duty holder = before.duty holder

theorem moved_setCall (self : System) (call : Nat) (state : Option Call) (sent : List TriggerCommand) :
    Moved self ({self with queue := self.queue ++ sent}.setCall call state) call sent (state.bind Call.duty) where
  queue := queue_setCall _ _ _
  held := held_congr _ _ (owners_setCall _ _ _) (by rw [watcher_setCall])
  uri serviceId := by
    unfold uriOf
    rw [managers_setCall]
  absent chain missing := by
    rw [watcher_setCall]
    exact missing
  own := by rw [duty_setCall,if_pos rfl]
  others holder apart := by
    rw [duty_setCall,if_neg apart]
    rfl

theorem moved_setCall_only (self : System) (call : Nat) (state : Option Call) :
    Moved self (self.setCall call state) call [] (state.bind Call.duty) := by
  simpa using self.moved_setCall call state []

section Moved

variable {self next : System} {call : Nat}

theorem Heading.of_moved {sent : List TriggerCommand} {duty : Option Duty} (moved : Moved self next call sent duty)
    (serviceId : ServiceId) (heading : Heading self serviceId)
    (other : ∀ command ∈ sent, command.uriWrite serviceId = none)
    (before : ∀ duty, self.duty call = some duty → duty.service ≠ serviceId)
    (after : ∀ held, duty = some held → held.service ≠ serviceId) : Heading next serviceId := by
  apply heading.of_other call sent moved.queue other (moved.held serviceId) (moved.uri serviceId) moved.absent
    moved.others before
  intro held present
  exact after held (moved.own ▸ present)

theorem heading_idle {sent : List TriggerCommand} (moved : Moved self next call sent none)
    (plain : ∀ command ∈ sent, command.Plain) (idle : self.duty call = none)
    (heading : ∀ serviceId, Heading self serviceId) (serviceId : ServiceId) : Heading next serviceId := by
  refine .of_moved moved serviceId (heading serviceId) ?_ ?_ ?_
  · exact fun command member => (plain command member).uriWrite serviceId
  · intro duty present
    rw [idle] at present
    cases present
  · intro duty present
    cases present

variable (service : ServiceId) (heading : ∀ serviceId, Heading self serviceId)

include heading

theorem heading_watch (chain : ChainKey) (projectRoot : FixedBytes 32)
    (current : self.duty call = some (.watch service chain projectRoot))
    (moved : Moved self next call [.watchStellarServiceUri service chain projectRoot] none)
    (serviceId : ServiceId) : Heading next serviceId := by
  by_cases same : serviceId = service
  · subst serviceId
    obtain ⟨empty,managed⟩ := (heading service).watching call chain projectRoot current
    have ends : next.ends service = some (chain,projectRoot) := by
      rw [self.ends_append next service _ (moved.held service) moved.queue]
      simp [Register.apply,TriggerCommand.uriWrite]
    have free : ∀ holder on root, next.duty holder ≠ some (.watch service on root) := by
      intro holder on root present
      by_cases own : holder = call
      · rw [own,moved.own] at present
        cases present
      · rw [moved.others holder own] at present
        exact own (((heading service).alone call holder chain projectRoot _ current present).1 rfl)
    have stays : ∀ holder duty, self.duty holder = some duty → duty.Leaves service →
        next.duty holder = some duty := by
      intro holder duty present leaves
      rw [moved.others holder]
      · exact present
      · rintro rfl
        rw [current] at present
        cases present
        exact leaves
    refine ⟨?_,?_,?_,?_,?_,?_⟩
    · rw [moved.held,moved.queue,Register.orderly_append]
      exact ⟨(heading service).orderly,fun _ _ => empty,trivial⟩
    · intro on root known
      rw [moved.uri] at known
      rcases managed with here | ⟨checker,checking⟩
      · rw [here] at known
        cases known
        exact .inl ends
      · rw [(heading service).leaving checker _ checking rfl] at known
        cases known
    · intro unknown
      rw [moved.uri] at unknown
      rcases managed with here | ⟨checker,checking⟩
      · rw [here] at unknown
        cases unknown
      · exact .inr ⟨checker,_,stays checker _ checking rfl,rfl⟩
    · intro holder on root present
      exact absurd present (free holder on root)
    · intro holder other on root duty present
      exact absurd present (free holder on root)
    · intro holder duty present leaves
      rw [moved.uri]
      by_cases own : holder = call
      · rw [own,moved.own] at present
        cases present
      · rw [moved.others holder own] at present
        exact (heading service).leaving holder duty present leaves
  · refine .of_moved moved serviceId (heading serviceId) ?_ ?_ ?_
    · intro command member
      rw [List.mem_singleton.mp member]
      simp [TriggerCommand.uriWrite,Ne.symm same]
    · intro duty present
      rw [current] at present
      cases present
      exact Ne.symm same
    · intro duty present
      cases present

theorem heading_unwatch (current : self.duty call = some (.unwatch service))
    (moved : Moved self next call [.unwatchStellarServiceUri service] none)
    (serviceId : ServiceId) : Heading next serviceId := by
  by_cases same : serviceId = service
  · subst serviceId
    have gone := (heading service).leaving call _ current rfl
    have ends : next.ends service = none := by
      rw [self.ends_append next service _ (moved.held service) moved.queue]
      simp [Register.apply,TriggerCommand.uriWrite]
    have free : ∀ holder on root, next.duty holder ≠ some (.watch service on root) := by
      intro holder on root present
      by_cases own : holder = call
      · rw [own,moved.own] at present
        cases present
      · rw [moved.others holder own] at present
        exact ((heading service).alone holder call on root _ present current).2 rfl
    refine ⟨?_,?_,fun _ => .inl ends,?_,?_,?_⟩
    · rw [moved.held,moved.queue,Register.orderly_append]
      refine ⟨(heading service).orderly,?_,trivial⟩
      intro value fills
      simp [TriggerCommand.uriWrite] at fills
    · intro on root known
      rw [moved.uri,gone] at known
      cases known
    · intro holder on root present
      exact absurd present (free holder on root)
    · intro holder other on root duty present
      exact absurd present (free holder on root)
    · intro holder duty present leaves
      rw [moved.uri]
      exact gone
  · refine .of_moved moved serviceId (heading serviceId) ?_ ?_ ?_
    · intro command member
      rw [List.mem_singleton.mp member]
      simp [TriggerCommand.uriWrite,Ne.symm same]
    · intro duty present
      rw [current] at present
      cases present
      exact Ne.symm same
    · intro duty present
      cases present

/-- A removal has looked at the subscription: it goes on to unwatch it, or the queue leads
to none. -/
theorem heading_check (after : Option Duty) (current : self.duty call = some (.check service))
    (moved : Moved self next call [] after)
    (free : ∀ holder duty, self.duty holder = some duty → ¬duty.Watches service)
    (outcome : after = some (.unwatch service) ∨ after = none ∧ self.ends service = none)
    (serviceId : ServiceId) : Heading next serviceId := by
  by_cases same : serviceId = service
  · subst serviceId
    have gone := (heading service).leaving call _ current rfl
    have ends : next.ends service = self.ends service :=
      self.ends_append next service [] (moved.held service) moved.queue
    have quiet : ∀ holder on root, next.duty holder ≠ some (.watch service on root) := by
      intro holder on root present
      by_cases own : holder = call
      · rw [own,moved.own] at present
        rcases outcome with rest | ⟨rest,_⟩
        · rw [rest] at present
          cases present
        · rw [rest] at present
          cases present
      · rw [moved.others holder own] at present
        exact free holder _ present rfl
    refine ⟨?_,?_,?_,?_,?_,?_⟩
    · rw [moved.held,moved.queue,List.append_nil]
      exact (heading service).orderly
    · intro on root known
      rw [moved.uri,gone] at known
      cases known
    · intro _
      rw [ends]
      rcases outcome with rest | ⟨_,settled⟩
      · exact .inr ⟨call,_,moved.own.trans rest,rfl⟩
      · exact .inl settled
    · intro holder on root present
      exact absurd present (quiet holder on root)
    · intro holder other on root duty present
      exact absurd present (quiet holder on root)
    · intro holder duty present leaves
      rw [moved.uri]
      exact gone
  · refine .of_moved moved serviceId (heading serviceId) (fun _ member => by cases member) ?_ ?_
    · intro duty present
      rw [current] at present
      cases present
      exact Ne.symm same
    · intro duty present
      rcases outcome with rest | ⟨rest,_⟩
      · rw [rest] at present
        cases present
        exact Ne.symm same
      · rw [rest] at present
        cases present

end Moved

theorem heading_register (self next : System) (call : Nat) (service : ServiceId) (chain : ChainKey)
    (projectRoot : FixedBytes 32) (heading : ∀ serviceId, Heading self serviceId)
    (queue : next.queue = self.queue) (held : ∀ serviceId, next.held serviceId = self.held serviceId)
    (absent : ∀ on, self.watcher.lookup.stellarControllers.get on = none →
      next.watcher.lookup.stellarControllers.get on = none)
    (uri : ∀ serviceId, next.uriOf serviceId =
      if serviceId = service then some (chain,projectRoot) else self.uriOf serviceId)
    (idle : self.duty call = none) (own : next.duty call = some (.watch service chain projectRoot))
    (others : ∀ holder, holder ≠ call → next.duty holder = self.duty holder)
    (unmanaged : self.uriOf service = none)
    (settled : ∀ holder duty, self.duty holder = some duty → ¬duty.Leaves service)
    (serviceId : ServiceId) : Heading next serviceId := by
  by_cases same : serviceId = service
  · subst serviceId
    have ends : next.ends service = none := by
      have kept := self.ends_append next service [] (held service) (by rw [queue,List.append_nil])
      rcases (heading service).unregistered unmanaged with empty | ⟨holder,duty,present,leaves⟩
      · exact kept.trans empty
      · exact absurd leaves (settled holder duty present)
    have known : next.uriOf service = some (chain,projectRoot) := by rw [uri,if_pos rfl]
    have free : ∀ holder on root, self.duty holder ≠ some (.watch service on root) := by
      intro holder on root present
      rcases ((heading service).watching holder on root present).2 with managed | ⟨checker,checking⟩
      · rw [unmanaged] at managed
        cases managed
      · exact settled checker _ checking rfl
    have watches : ∀ holder on root, next.duty holder = some (.watch service on root) →
        holder = call ∧ on = chain ∧ root = projectRoot := by
      intro holder on root present
      by_cases here : holder = call
      · rw [here,own] at present
        cases present
        exact ⟨here,rfl,rfl⟩
      · rw [others holder here] at present
        exact absurd present (free holder on root)
    have stays : ∀ holder duty, next.duty holder = some duty → ¬duty.Leaves service := by
      intro holder duty present leaves
      by_cases here : holder = call
      · rw [here,own] at present
        cases present
        exact leaves
      · rw [others holder here] at present
        exact settled holder duty present leaves
    refine ⟨?_,?_,?_,?_,?_,?_⟩
    · rw [held,queue]
      exact (heading service).orderly
    · intro on root managed
      rw [known] at managed
      cases managed
      exact .inr (.inl ⟨call,own⟩)
    · intro missing
      rw [known] at missing
      cases missing
    · intro holder on root present
      obtain ⟨_,rfl,rfl⟩ := watches holder on root present
      exact ⟨ends,.inl known⟩
    · intro holder other on root duty present second
      constructor
      · intro about
        cases duty with
        | watch watched onto base =>
          cases about
          exact (watches other onto base second).1.trans (watches holder on root present).1.symm
        | check _ => exact about.elim
        | unwatch _ => exact about.elim
      · rintro rfl
        exact stays other _ second rfl
    · intro holder duty present leaves
      exact absurd leaves (stays holder duty present)
  · apply (heading serviceId).of_other call [] (by rw [queue,List.append_nil]) (fun _ member => by cases member)
      (held serviceId) (by rw [uri,if_neg same]) absent others
    · intro duty present
      rw [idle] at present
      cases present
    · intro duty present
      rw [own] at present
      cases present
      exact Ne.symm same

theorem heading_unregister (self next : System) (call : Nat) (service : ServiceId)
    (heading : ∀ serviceId, Heading self serviceId)
    (queue : next.queue = self.queue) (held : ∀ serviceId, next.held serviceId = self.held serviceId)
    (absent : ∀ on, self.watcher.lookup.stellarControllers.get on = none →
      next.watcher.lookup.stellarControllers.get on = none)
    (uri : ∀ serviceId, next.uriOf serviceId = if serviceId = service then none else self.uriOf serviceId)
    (idle : self.duty call = none) (own : next.duty call = some (.check service))
    (others : ∀ holder, holder ≠ call → next.duty holder = self.duty holder)
    (serviceId : ServiceId) : Heading next serviceId := by
  by_cases same : serviceId = service
  · subst serviceId
    have gone : next.uriOf service = none := by rw [uri,if_pos rfl]
    have ends : next.ends service = self.ends service :=
      self.ends_append next service [] (held service) (by rw [queue,List.append_nil])
    have watches : ∀ holder on root, next.duty holder = some (.watch service on root) →
        self.duty holder = some (.watch service on root) := by
      intro holder on root present
      by_cases here : holder = call
      · rw [here,own] at present
        cases present
      · rw [← others holder here]
        exact present
    refine ⟨?_,?_,?_,?_,?_,?_⟩
    · rw [held,queue]
      exact (heading service).orderly
    · intro on root managed
      rw [gone] at managed
      cases managed
    · intro _
      exact .inr ⟨call,_,own,rfl⟩
    · intro holder on root present
      rw [ends]
      exact ⟨((heading service).watching holder on root (watches holder on root present)).1,.inr ⟨call,own⟩⟩
    · intro holder other on root duty present second
      have before := watches holder on root present
      by_cases here : other = call
      · rw [here,own] at second
        cases second
        exact ⟨fun about => about.elim,fun same => by cases same⟩
      · rw [others other here] at second
        exact (heading service).alone holder other on root duty before second
    · intro holder duty present leaves
      exact gone
  · apply (heading serviceId).of_other call [] (by rw [queue,List.append_nil]) (fun _ member => by cases member)
      (held serviceId) (by rw [uri,if_neg same]) absent others
    · intro duty present
      rw [idle] at present
      cases present
    · intro duty present
      rw [own] at present
      cases present
      exact Ne.symm same

/-- The watcher takes the next command. A controller may come only when the watch commands
of its chain's registered services are still to come. -/
theorem heading_process (connecting : Connecting) (self next : System) (command : TriggerCommand)
    (rest : List TriggerCommand) (first : self.queue = command::rest) (queue : next.queue = rest)
    (written : Written connecting self command next) (managers : next.managers = self.managers)
    (calls : next.calls = self.calls)
    (timely : ∀ on config serviceId projectRoot, command = .startListeningChain on →
      self.watcher.StellarStarts connecting on config → self.uriOf serviceId = some (config.chainKey,projectRoot) →
      (∃ call, self.duty call = some (.watch serviceId config.chainKey projectRoot)) ∨
        .watchStellarServiceUri serviceId config.chainKey projectRoot ∈ self.queue)
    (heading : ∀ serviceId, Heading self serviceId) (serviceId : ServiceId) : Heading next serviceId := by
  have before := heading serviceId
  have uri : next.uriOf serviceId = self.uriOf serviceId := by
    unfold uriOf
    rw [managers]
  have duties : ∀ call, next.duty call = self.duty call := by
    intro call
    unfold duty
    rw [calls]
  have orderly := before.orderly
  rw [first] at orderly
  -- either the command has its effect, or it is a watch command that found no controller
  have outcome : next.ends serviceId = self.ends serviceId ∧
        Register.Orderly (TriggerCommand.uriWrite serviceId) (next.held serviceId) next.queue ∨
      next.ends serviceId = none ∧
        Register.Orderly (TriggerCommand.uriWrite serviceId) (next.held serviceId) next.queue ∧
        ∃ chain projectRoot, self.ends serviceId = some (chain,projectRoot) ∧
          self.watcher.lookup.stellarControllers.get chain = none ∧
          command = .watchStellarServiceUri serviceId chain projectRoot ∧
          ∀ other ∈ rest, other.uriWrite serviceId = none := by
    unfold ends
    rw [queue,first,Register.settle_cons]
    rcases written.held serviceId with writes | ⟨chain,projectRoot,rfl,missing,empty⟩
    · rw [writes]
      exact .inl ⟨rfl,orderly.2⟩
    · rw [empty]
      rcases Register.settle_or (TriggerCommand.uriWrite serviceId) rest with quiet | forgets
      · right
        rw [Register.settle_of_none _ _ quiet,Register.settle_of_none _ _ quiet]
        exact ⟨rfl,orderly.2.of_none,chain,projectRoot,by simp [Register.apply,TriggerCommand.uriWrite],missing,
          rfl,quiet⟩
      · exact .inl ⟨forgets _ _,orderly.2.of_none⟩
  have subset : ∀ other ∈ rest, other ∈ self.queue := by
    intro other member
    rw [first]
    exact List.mem_cons_of_mem command member
  refine ⟨?_,?_,?_,?_,?_,?_⟩
  · rcases outcome with ⟨_,kept⟩ | ⟨_,kept,_⟩
    · exact kept
    · exact kept
  · intro chain projectRoot managed
    rw [uri] at managed
    simp only [duties]
    rcases before.registered chain projectRoot managed with settled | watching | ⟨missing,quiet⟩
    · rcases outcome with ⟨same,_⟩ | ⟨_,_,on,root,ended,missing,effect,quiet⟩
      · exact .inl (same.trans settled)
      · rw [ended] at settled
        cases settled
        refine .inr (.inr ⟨?_,by rw [queue]; exact quiet⟩)
        rcases written.absent chain missing with absent | ⟨onto,config,starting,_⟩
        · exact absent
        · rw [effect] at starting
          cases starting
    · exact .inr (.inl watching)
    · rcases written.absent chain missing with absent | ⟨on,config,starting,starts,rfl⟩
      · refine .inr (.inr ⟨absent,?_⟩)
        rw [queue]
        exact fun other member => quiet other (subset other member)
      · rcases timely on config serviceId projectRoot starting starts managed with watching | queued
        · exact .inr (.inl watching)
        · have silent := quiet _ queued
          simp [TriggerCommand.uriWrite] at silent
  · intro unmanaged
    rw [uri] at unmanaged
    simp only [duties]
    rcases before.unregistered unmanaged with settled | leaving
    · rcases outcome with ⟨same,_⟩ | ⟨empty,_⟩
      · exact .inl (same.trans settled)
      · exact .inl empty
    · exact .inr leaving
  · intro call chain projectRoot present
    simp only [duties] at present ⊢
    obtain ⟨settled,managed⟩ := before.watching call chain projectRoot present
    rw [uri]
    refine ⟨?_,managed⟩
    rcases outcome with ⟨same,_⟩ | ⟨empty,_⟩
    · exact same.trans settled
    · exact empty
  · intro call other chain projectRoot duty present second
    rw [duties] at present second
    exact before.alone call other chain projectRoot duty present second
  · intro call duty present leaves
    rw [duties] at present
    rw [uri]
    exact before.leaving call duty present leaves

end Warpdrive.Trigger.System
