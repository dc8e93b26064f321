import Warpdrive.Foundation.Execution
import Warpdrive.Foundation.Retry
import Warpdrive.Foundation.Separator
import Warpdrive.Types.EventId

/-! The AtProto stream (`streams/atproto_jetstream.rs`): messages read as events, and the loop
that keeps a connection. `serde_json` is a parameter, as are what a connect yields, the
messages and the jitter. Each connection begins with the cursor of the configuration. -/
namespace Warpdrive.Trigger.Jetstream

open Warpdrive.Foundation Warpdrive.Foundation.Execution Warpdrive.Types

structure OperationData where
  path : Option String
  cid : Option String
  action : Option AtProtoAction
  record : Option JsonValue

inductive OperationField
  | action (action : AtProtoAction)
  | detail (op : OperationData)

structure CommitData where
  rev : Option String
  operation : Option OperationField
  collection : Option String
  rkey : Option String
  record : Option JsonValue
  cid : Option String
  operations : Option (List OperationData)
  action : Option AtProtoAction

structure AccountData where
  active : Bool
  did : String
  seq : Int64
  status : Option String
  time : String

structure IdentityData where
  did : String
  handle : Option String
  seq : Int64
  time : String

structure JetstreamEvent where
  did : String
  timeUs : Int64
  seq : Option Int64
  commit : Option CommitData
  account : Option AccountData
  identity : Option IdentityData

/-- The variants of `TriggerError` that the stream produces. -/
inductive StreamError
  | jetstreamParse (message : String)
  | jetstreamConnection (message : String)
  | jetstreamConfig (message : String)
  deriving DecidableEq

inductive JsonField
  | text (value : Option String)
  | number (value : Int64)
  | bool (value : Bool)

/-- What the stream takes of `serde_json`. -/
structure Serde where
  isSubscriberMessage : String → Bool
  readEvent : String → Except String JetstreamEvent
  json : List (String × JsonField) → JsonValue

/-- The collection and the record key of a path. -/
def readPath (path : Option String) : Except StreamError (String × String) :=
  match path with
  | none => .error (.jetstreamParse "Missing path in operation")
  | some path =>
    match Separator.splitOnce '/' path with
    | none => .error (.jetstreamParse ("Invalid path format: " ++ path))
    | some parts => .ok parts

/-- One operation of a commit that lists several. -/
def parseOperation (sequence timestamp : Int64) (repo : String) (commit : CommitData) (op : OperationData)
    (opIndex : Nat) : Except StreamError AtProtoEvent :=
  (readPath op.path).map (fun parts =>
    { sequence,timestamp,repo
      collection := parts.1
      rkey := parts.2
      action := op.action.getD .update
      cid := op.cid
      record := op.record
      rev := commit.rev
      opIndex := some (UInt32.ofNat opIndex) })

/-- An event of one operation: the path is its collection and its record key. -/
structure Reads (sequence timestamp : Int64) (repo : String) (commit : CommitData) (op : OperationData)
    (opIndex : Nat) (event : AtProtoEvent) : Prop where
  path : op.path = some (event.collection ++ "/" ++ event.rkey)
  plain : '/' ∉ event.collection.toList
  place : (event.sequence,event.timestamp,event.repo,event.rev) = (sequence,timestamp,repo,commit.rev)
  detail : (event.action,event.cid,event.record) = (op.action.getD .update,op.cid,op.record)
  opIndex : event.opIndex = some (UInt32.ofNat opIndex)

/-- The path of an operation has a collection. -/
def OperationData.Readable (self : OperationData) : Prop := ∃ path, self.path = some path ∧ '/' ∈ path.toList

theorem readPath_eq_ok (path : Option String) (collection rkey : String) :
    readPath path = .ok (collection,rkey) ↔ path = some (collection ++ "/" ++ rkey) ∧ '/' ∉ collection.toList := by
  cases path with
  | none => simp [readPath]
  | some path =>
    have joined : (collection ++ "/" ++ rkey).toList = collection.toList ++ '/'::rkey.toList := by simp
    rw [Option.some.injEq,← String.toList_inj,joined,← Separator.splitOnce_eq_some]
    simp only [readPath]
    cases Separator.splitOnce '/' path with
    | none => simp
    | some parts => simp

theorem parseOperation_eq_ok (sequence timestamp : Int64) (repo : String) (commit : CommitData)
    (op : OperationData) (opIndex : Nat) (event : AtProtoEvent) :
    parseOperation sequence timestamp repo commit op opIndex = .ok event ↔
      Reads sequence timestamp repo commit op opIndex event := by
  constructor
  · intro parsed
    unfold parseOperation at parsed
    cases parts : readPath op.path with
    | error reason =>
      rw [parts] at parsed
      cases parsed
    | ok pair =>
      rw [parts] at parsed
      cases parsed
      obtain ⟨path,plain⟩ := (readPath_eq_ok op.path pair.1 pair.2).mp parts
      exact ⟨path,plain,rfl,rfl,rfl⟩
  · intro reads
    have parts := (readPath_eq_ok op.path event.collection event.rkey).mpr ⟨reads.path,reads.plain⟩
    have place := reads.place
    have detail := reads.detail
    have index := reads.opIndex
    cases event
    simp only [Prod.mk.injEq] at place detail index
    simp [parseOperation,parts,Except.map,place,detail,index]

theorem OperationData.readable_iff (sequence timestamp : Int64) (repo : String) (commit : CommitData)
    (self : OperationData) (opIndex : Nat) :
    self.Readable ↔ ∃ event, parseOperation sequence timestamp repo commit self opIndex = .ok event := by
  constructor
  · rintro ⟨path,given,slash⟩
    obtain ⟨parts,split⟩ := Option.isSome_iff_exists.mp ((Separator.splitOnce_isSome '/' path).mpr slash)
    simp [parseOperation,readPath,given,split,Except.map]
  · rintro ⟨event,parsed⟩
    have reads := (parseOperation_eq_ok sequence timestamp repo commit self opIndex event).mp parsed
    exact ⟨_,reads.path,by simp⟩

def parseNestedOperation (sequence timestamp : Int64) (repo : String) (commit : CommitData) (op : OperationData) :
    Except StreamError AtProtoEvent :=
  (readPath op.path).map (fun parts =>
    { sequence,timestamp,repo
      collection := parts.1
      rkey := parts.2
      action := (commit.action.or op.action).getD .update
      cid := op.cid.or commit.cid
      record := op.record.or commit.record
      rev := commit.rev
      opIndex := none })

def parseSingleOperation (sequence timestamp : Int64) (repo : String) (commit : CommitData) :
    Except StreamError AtProtoEvent :=
  match commit.collection with
  | none => .error (.jetstreamParse "Missing collection in commit")
  | some collection =>
    match commit.rkey with
    | none => .error (.jetstreamParse "Missing rkey in commit")
    | some rkey => .ok
      { sequence,timestamp,repo,collection,rkey
        action := match commit.operation with
          | some (.action op) => op
          | _ => .update
        cid := commit.cid
        record := commit.record
        rev := commit.rev
        opIndex := none }

/-- The operations one after the other, up to the first that cannot be read. -/
def parseOperations (sequence timestamp : Int64) (repo : String) (commit : CommitData) :
    Nat → List OperationData → Except StreamError (List AtProtoEvent)
  | _,[] => .ok []
  | opIndex,op::ops =>
    match parseOperation sequence timestamp repo commit op opIndex with
    | .error error => .error error
    | .ok event => (parseOperations sequence timestamp repo commit (opIndex + 1) ops).map (event :: ·)

theorem parseOperations_eq_ok (sequence timestamp : Int64) (repo : String) (commit : CommitData) (opIndex : Nat)
    (ops : List OperationData) (events : List AtProtoEvent) :
    parseOperations sequence timestamp repo commit opIndex ops = .ok events ↔
      List.Forall₂ (fun op event => Reads sequence timestamp repo commit op.1 op.2 event)
        (ops.zipIdx opIndex) events := by
  induction ops generalizing opIndex events with
  | nil => simp [parseOperations,eq_comm]
  | cons op ops ih =>
    rw [List.zipIdx_cons,List.forall₂_cons_left_iff]
    simp only [← ih (opIndex + 1),← parseOperation_eq_ok sequence timestamp repo commit op opIndex,parseOperations]
    cases parseOperation sequence timestamp repo commit op opIndex with
    | error reason => simp
    | ok event =>
      cases parseOperations sequence timestamp repo commit (opIndex + 1) ops with
      | error reason => simp [Except.map]
      | ok later => simp [Except.map,eq_comm]

theorem parseOperations_total (sequence timestamp : Int64) (repo : String) (commit : CommitData) (opIndex : Nat)
    (ops : List OperationData) :
    (∃ events, parseOperations sequence timestamp repo commit opIndex ops = .ok events) ↔
      ∀ op ∈ ops, op.Readable := by
  induction ops generalizing opIndex with
  | nil => simp [parseOperations]
  | cons op ops ih =>
    rw [List.forall_mem_cons,← ih (opIndex + 1),op.readable_iff sequence timestamp repo commit opIndex]
    simp only [parseOperations]
    cases parseOperation sequence timestamp repo commit op opIndex with
    | error reason => simp
    | ok event =>
      cases parseOperations sequence timestamp repo commit (opIndex + 1) ops with
      | error reason => simp [Except.map]
      | ok later => simp [Except.map]

/-- The operations of one message have keys of their own, as long as an index fits its field. -/
theorem keys_nodup (sequence timestamp : Int64) (repo : String) (commit : CommitData) (ops : List OperationData)
    (events : List AtProtoEvent) (few : ops.length ≤ 2 ^ 32)
    (reads : List.Forall₂ (fun op event => Reads sequence timestamp repo commit op.1 op.2 event) ops.zipIdx events) :
    (events.map AtProtoEvent.key).Nodup := by
  have indexed : events.map (·.opIndex) = ops.zipIdx.map (fun op => some (UInt32.ofNat op.2)) := by
    rw [← List.forall₂_eq_eq_eq,List.forall₂_map_left_iff,List.forall₂_map_right_iff]
    exact (reads.imp (fun op event reads => reads.opIndex)).flip
  have apart : (ops.zipIdx.map (fun op => some (UInt32.ofNat op.2))).Nodup := by
    have indices : ops.zipIdx.map (fun op => some (UInt32.ofNat op.2)) =
        (List.range' 0 ops.length).map (fun i => some (UInt32.ofNat i)) := by
      rw [← List.zipIdx_map_snd,List.map_map]
      rfl
    rw [indices]
    refine List.Nodup.map_on ?_ List.nodup_range'
    intro a low b below same
    have equal := congrArg UInt32.toNat (Option.some.inj same)
    rw [List.mem_range'_1] at low below
    simp only [UInt32.toNat_ofNat'] at equal
    omega
  have keyed : events.map (·.opIndex) = (events.map AtProtoEvent.key).map (·.opIndex) := by simp [AtProtoEvent.key]
  rw [← indexed,keyed] at apart
  exact apart.of_map

def parseCommitEventTyped (sequence timestamp : Int64) (repo : String) (commit : CommitData) :
    Except StreamError (List AtProtoEvent) :=
  match commit.operations with
  | some ops => parseOperations sequence timestamp repo commit 0 ops
  | none =>
    match commit.operation with
    | some (.detail op) => (parseNestedOperation sequence timestamp repo commit op).map ([·])
    | _ => (parseSingleOperation sequence timestamp repo commit).map ([·])

variable (serde : Serde)

def parseIdentityEventTyped (sequence timestamp : Int64) (identity : IdentityData) : List AtProtoEvent :=
  [{ sequence,timestamp
     repo := identity.did
     collection := "identity"
     rkey := "handle"
     action := .update
     cid := none
     record := some (serde.json [("handle",.text identity.handle),("seq",.number identity.seq),
       ("time",.text (some identity.time))])
     rev := none
     opIndex := none }]

def parseAccountEventTyped (sequence timestamp : Int64) (account : AccountData) : List AtProtoEvent :=
  [{ sequence,timestamp
     repo := account.did
     collection := "account"
     rkey := "status"
     action := if account.active then .update else .delete
     cid := none
     record := some (serde.json [("active",.bool account.active),("status",.text account.status),
       ("seq",.number account.seq),("time",.text (some account.time))])
     rev := none
     opIndex := none }]

def handleMessage (text : String) : Except StreamError (List AtProtoEvent) :=
  if serde.isSubscriberMessage text then
    .error (.jetstreamParse ("Subscriber message received; payload=" ++ text))
  else
    match serde.readEvent text with
    | .error reason =>
      .error (.jetstreamParse ("Failed to parse Jetstream event: " ++ reason ++ "; payload=" ++ text))
    | .ok event =>
      let sequence := event.seq.getD 0
      match event.commit,event.identity,event.account with
      | some commit,_,_ => parseCommitEventTyped sequence event.timeUs event.did commit
      | none,some identity,_ => .ok (parseIdentityEventTyped serde sequence event.timeUs identity)
      | none,none,some account => .ok (parseAccountEventTyped serde sequence event.timeUs account)
      | none,none,none => .error (.jetstreamParse ("Unknown Jetstream event type; payload=" ++ text))

/-- A message that lists operations is read as a whole: every operation in its place, or none at all. -/
theorem operations_read_whole (text : String) (event : JetstreamEvent) (commit : CommitData)
    (ops : List OperationData) (published : serde.isSubscriberMessage text = false)
    (read : serde.readEvent text = .ok event) (committed : event.commit = some commit)
    (listed : commit.operations = some ops) :
    ((∃ events, handleMessage serde text = .ok events) ↔ ∀ op ∈ ops, op.Readable) ∧
      ∀ events, handleMessage serde text = .ok events →
        List.Forall₂ (fun op parsed => Reads (event.seq.getD 0) event.timeUs event.did commit op.1 op.2 parsed)
          ops.zipIdx events ∧
        (ops.length ≤ 2 ^ 32 → (events.map AtProtoEvent.key).Nodup) := by
  have parsed : handleMessage serde text =
      parseOperations (event.seq.getD 0) event.timeUs event.did commit 0 ops := by
    simp [handleMessage,published,read,committed,parseCommitEventTyped,listed]
  rw [parsed]
  refine ⟨parseOperations_total _ _ _ commit 0 ops,?_⟩
  intro events done
  have reads := (parseOperations_eq_ok _ _ _ commit 0 ops events).mp done
  exact ⟨reads,fun few => keys_nodup _ _ _ commit ops events few reads⟩

def twoOperations : CommitData :=
  { rev := some "multirev", operation := none, collection := none, rkey := none, record := none, cid := none
    operations := some [⟨some "app.bsky.feed.post/aaa",some "cid-create-aaa",some .create,none⟩,
      ⟨some "app.bsky.feed.post/aaa",none,some .delete,none⟩]
    action := none }

def twoOperationsEvent : JetstreamEvent := ⟨"did:plc:multi",1700000,some 555,some twoOperations,none,none⟩

def twoOperationsText : String :=
  "\x7b\"kind\":\"commit\",\"seq\":555,\"timeUs\":1700000,\"repo\":\"did:plc:multi\",\"commit\":\x7b\"rev\":\"multirev\",\"operations\":[" ++
  "\x7b\"action\":\"create\",\"path\":\"app.bsky.feed.post/aaa\",\"cid\":\"cid-create-aaa\"\x7d," ++
  "\x7b\"action\":\"delete\",\"path\":\"app.bsky.feed.post/aaa\"\x7d]\x7d\x7d"

/-- `serde_json` on the text above. -/
def multiSerde : Serde := ⟨fun _ => false,fun _ => .ok twoOperationsEvent,fun _ => ⟨""⟩⟩

theorem twoOperations_read_whole :
    (∃ events, handleMessage multiSerde twoOperationsText = .ok events ∧ (events.map AtProtoEvent.key).Nodup) := by
  have whole := operations_read_whole multiSerde twoOperationsText twoOperationsEvent twoOperations _ rfl rfl rfl rfl
  have readable : ∀ op ∈ [(⟨some "app.bsky.feed.post/aaa",some "cid-create-aaa",some .create,none⟩ : OperationData),
      ⟨some "app.bsky.feed.post/aaa",none,some .delete,none⟩], op.Readable := by
    simp [OperationData.Readable]
  obtain ⟨events,done⟩ := whole.1.mpr readable
  exact ⟨events,done,(whole.2 events done).2 (by simp)⟩

/-! ## The connection loop -/

inductive Message
  | text (text : String)
  | binary
  | close
  | failed (reason : String)
  | unexpected

def receive : Message → Except StreamError (List AtProtoEvent)
  | .text text => handleMessage serde text
  | .binary => .error (.jetstreamConnection "Binary message received with compression disabled")
  | .close => .error (.jetstreamConnection "Connection closed")
  | .failed reason => .error (.jetstreamConnection ("WebSocket error: " ++ reason))
  | .unexpected => .error (.jetstreamConnection "Unexpected message type")

inductive Phase
  | connecting
  | connected
  | sleeping (delayMs : Nat)
  | ended
  deriving DecidableEq

structure Loop where
  reconnectCount : Nat
  phase : Phase
  deriving DecidableEq

def maxReconnects : Nat := 10

def baseDelayMs : Nat := 1000

def maxDelayMs : Nat := 60000

namespace Loop

def new : Loop := ⟨0,.connecting⟩

inductive Act
  | connect (outcome : Except StreamError Unit) (jitter : UInt64)
  | message (message : Option Message)
  | awake

def step (self : Loop) : Act → Option Loop
  | .connect outcome jitter =>
    match self.phase with
    | .connecting =>
      match outcome with
      | .ok () => some ⟨0,.connected⟩
      | .error _ =>
        if self.reconnectCount ≥ maxReconnects then some {self with phase := .ended}
        else
          let delayMs := min (baseDelayMs * 2 ^ self.reconnectCount) maxDelayMs + jitter.toNat % 1000
          some {self with phase := .sleeping delayMs}
    | _ => none
  | .message message =>
    match self.phase with
    | .connected =>
      match message with
      | none => some {self with phase := .connecting}
      | some message =>
        match receive serde message with
        | .ok _ => some self
        | .error (.jetstreamParse _) => some self
        | .error _ => some {self with phase := .connecting}
    | _ => none
  | .awake =>
    match self.phase with
    | .sleeping _ => some ⟨self.reconnectCount + 1,.connecting⟩
    | _ => none

/-- What the stream yields in a step. -/
def yields (self : Loop) : Act → List (Except StreamError AtProtoEvent)
  | .connect (.error _) _ =>
    if self.reconnectCount ≥ maxReconnects then
      [.error (.jetstreamConnection "Max reconnection attempts reached")]
    else []
  | .message (some message) =>
    match receive serde message with
    | .ok events => events.map .ok
    | .error _ => []
  | _ => []

/-- What an attempt to connect came to. -/
def Act.outcome : Act → List Bool
  | .connect (.ok ()) _ => [true]
  | .connect (.error _) _ => [false]
  | _ => []

/-- The events of a message. -/
def Act.received : Act → List AtProtoEvent
  | .message (some frame) =>
    match receive serde frame with
    | .ok events => events
    | .error _ => []
  | _ => []

/-- The delay that follows the given number of failures. -/
def Backoff (failures delayMs : Nat) : Prop :=
  min (baseDelayMs * 2 ^ (failures - 1)) maxDelayMs ≤ delayMs ∧
    delayMs < min (baseDelayMs * 2 ^ (failures - 1)) maxDelayMs + 1000

/-- Where the loop stands after that many failures in a row. -/
def Follows (self : Loop) (failures : Nat) : Prop :=
  match self.phase with
  | .connecting => failures = self.reconnectCount ∧ failures ≤ maxReconnects
  | .connected => failures = 0 ∧ self.reconnectCount = 0
  | .sleeping delayMs => failures = self.reconnectCount + 1 ∧ failures ≤ maxReconnects ∧ Backoff failures delayMs
  | .ended => failures = maxReconnects + 1

theorem step_follows (past : List Act) (self next : Loop) (act : Act) (taken : step serde self act = some next)
    (follows : self.Follows (Retry.streak (past.flatMap Act.outcome))) :
    next.Follows (Retry.streak ((past ++ [act]).flatMap Act.outcome)) := by
  rw [List.flatMap_append,List.flatMap_singleton]
  obtain ⟨reconnectCount,phase⟩ := self
  cases act with
  | connect outcome jitter =>
    cases phase <;> simp only [step,reduceCtorEq] at taken
    obtain ⟨now,few⟩ := follows
    cases outcome with
    | ok done =>
      cases taken
      simp [Follows,Act.outcome]
    | error reason =>
      simp only at taken now few
      simp only [Act.outcome,Retry.streak_fail,now]
      split at taken
      · cases taken
        simp only [Follows]
        omega
      · cases taken
        have part : jitter.toNat % 1000 < 1000 := Nat.mod_lt _ (by omega)
        simp only [Follows,Backoff,Nat.add_sub_cancel]
        exact ⟨trivial,by omega,Nat.le_add_right _ _,Nat.add_lt_add_left part _⟩
  | message message =>
    simp only [Act.outcome,List.append_nil]
    cases phase <;> simp only [step,reduceCtorEq] at taken
    obtain ⟨none_failed,fresh⟩ := follows
    simp only at fresh
    subst fresh
    -- the loop stays connected, or it connects again with no failure counted
    have either : next = ⟨0,.connected⟩ ∨ next = ⟨0,.connecting⟩ := by
      split at taken
      · exact .inr (Option.some.inj taken).symm
      · split at taken
        · exact .inl (Option.some.inj taken).symm
        · exact .inl (Option.some.inj taken).symm
        · exact .inr (Option.some.inj taken).symm
    rw [none_failed]
    obtain rfl | rfl := either
    · exact ⟨rfl,rfl⟩
    · exact ⟨rfl,Nat.zero_le _⟩
  | awake =>
    simp only [Act.outcome,List.append_nil]
    cases phase <;> simp only [step,reduceCtorEq] at taken
    cases taken
    exact ⟨follows.1,follows.2.1⟩

/-- The error that ends the stream. -/
def giveUp (self : Loop) : List (Except StreamError AtProtoEvent) :=
  match self.phase with
  | .ended => [.error (.jetstreamConnection "Max reconnection attempts reached")]
  | _ => []

theorem step_yields (self next : Loop) (act : Act) (taken : step serde self act = some next) :
    self.giveUp = [] ∧ self.yields serde act = (act.received serde).map .ok ++ next.giveUp := by
  obtain ⟨reconnectCount,phase⟩ := self
  cases act with
  | connect outcome jitter =>
    cases phase <;> simp only [step,reduceCtorEq] at taken
    refine ⟨rfl,?_⟩
    cases outcome with
    | ok done =>
      cases taken
      rfl
    | error reason =>
      simp only [yields,Act.received,List.map_nil,List.nil_append]
      simp only at taken
      split at taken
      next full =>
        cases taken
        rw [if_pos full]
        rfl
      next some_left =>
        cases taken
        rw [if_neg some_left]
        rfl
  | message message =>
    cases phase <;> simp only [step,reduceCtorEq] at taken
    refine ⟨rfl,?_⟩
    cases message with
    | none =>
      cases taken
      rfl
    | some message =>
      simp only [yields,Act.received]
      simp only at taken
      split at taken
      next events read =>
        cases taken
        simp [read,giveUp]
      next reason read =>
        cases taken
        simp [read,giveUp]
      next reason _ read =>
        cases taken
        simp [read,giveUp]
  | awake =>
    cases phase <;> simp only [step,reduceCtorEq] at taken
    cases taken
    exact ⟨rfl,rfl⟩

theorem run_yields (self loop : Loop) (acts : List Act) (reached : run (step serde) self acts = some loop) :
    self.giveUp ++ emitted (step serde) (yields serde) self acts =
      (acts.flatMap (Act.received serde)).map .ok ++ loop.giveUp := by
  induction acts generalizing self with
  | nil =>
    cases reached
    simp [emitted]
  | cons act acts ih =>
    obtain ⟨next,taken,rest⟩ := (run_cons self loop act acts).mp reached
    obtain ⟨going,now⟩ := step_yields serde self next act taken
    rw [going,List.nil_append,List.flatMap_cons,List.map_append,List.append_assoc,← ih next rest]
    simp only [emitted,taken,now,List.append_assoc]

/-- The stream yields the events of the messages, in order, and gives up after the eleventh failure in a row. -/
theorem run_backs_off (loop : Loop) (acts : List Act) (reached : run (step serde) new acts = some loop) :
    emitted (step serde) (yields serde) new acts = (acts.flatMap (Act.received serde)).map .ok ++ loop.giveUp ∧
      loop.Follows (Retry.streak (acts.flatMap Act.outcome)) := by
  refine ⟨run_yields serde new loop acts reached,?_⟩
  exact invariant_history (fun past loop => loop.Follows (Retry.streak (past.flatMap Act.outcome)))
    (fun past self act next taken => step_follows serde past self next act taken)
    new loop acts reached ⟨rfl,Nat.zero_le _⟩

/-- One failed attempt, a connection that brings one message and is closed, and then no connection again. -/
def outage : List Act :=
  [.connect (.error (.jetstreamConnection "WebSocket connection failed: refused")) 1500,.awake,.connect (.ok ()) 0,
    .message (some (.text twoOperationsText)),.message (some .close)] ++
  (List.replicate 10 [.connect (.error (.jetstreamConnection "WebSocket connection failed: refused")) 0,.awake]).flatten ++
  [.connect (.error (.jetstreamConnection "WebSocket connection failed: refused")) 0]

theorem outage_backs_off :
    ∃ loop, run (step multiSerde) new outage = some loop ∧ loop.phase = .ended ∧
      (emitted (step multiSerde) (yields multiSerde) new outage).length = 3 ∧
      Retry.streak (outage.flatMap Act.outcome) = 11 := by
  obtain ⟨sent,follows⟩ := run_backs_off multiSerde ⟨10,.ended⟩ outage rfl
  refine ⟨⟨10,.ended⟩,rfl,rfl,?_,follows⟩
  rw [sent]
  rfl

end Loop
end Warpdrive.Trigger.Jetstream
