import Warpdrive.Http.LogPolling

/-! Streaming the log (`handle_logs_stream`). A stream subscribes, then replays the end of
the buffer, and then receives what was sent since it subscribed, without what it replayed.
The three steps are apart, and pushes may come between them. The channel keeps the newest
entries, as many as its capacity rounded up to a power of two; a receiver that falls
behind further goes on with the oldest that is kept. -/
namespace Warpdrive.Http

open Warpdrive.Foundation Warpdrive.Foundation.Execution

def sseReplayCount : Nat := 50

/-- Where a stream is; the positions count what had been pushed by then. -/
inductive Listener
  | out
  | subscribed (subscribedAt : Nat)
  | live (subscribedAt replayedAt : Nat) (replay : List LogEntry) (position : Nat)

structure Streaming where
  buffer : LogBuffer
  listener : Listener
  yielded : List LogEntry
  pushed : List LogEntry

namespace Streaming

def new (capacity broadcastCapacity : Nat) : Streaming := ⟨.withCapacity capacity broadcastCapacity,.out,[],[]⟩

inductive Act
  | push (entry : LogEntry)
  | subscribe
  | replay
  | receive

variable (level target : Option String)

/-- The oldest position that the channel still keeps. -/
def oldest (self : Streaming) : Nat := self.pushed.length - self.buffer.broadcastCapacity.nextPowerOfTwo

/-- The entry is one of the replayed ones, or does not match. -/
def skips (replay : List LogEntry) (entry : LogEntry) : Bool :=
  (replay.map LogEntry.id).contains entry.id || !matchesFilters level target entry

def step (self : Streaming) : Act → Option Streaming
  | .push entry =>
    some {self with buffer := self.buffer.push entry, pushed := self.pushed ++ [self.buffer.numbered entry]}
  | .subscribe =>
    match self.listener with
    | .out => if validateLevel level then some {self with listener := .subscribed self.pushed.length} else some self
    | _ => none
  | .replay =>
    match self.listener with
    | .subscribed subscribedAt =>
      let replay := self.buffer.lastN sseReplayCount
      some {self with
        listener := .live subscribedAt self.pushed.length replay subscribedAt
        yielded := self.yielded ++ replay.filter (matchesFilters level target)}
    | _ => none
  | .receive =>
    match self.listener with
    | .live subscribedAt replayedAt replay position =>
      if position < self.oldest then
        some {self with listener := .live subscribedAt replayedAt replay self.oldest}
      else
        match self.pushed[position]? with
        | none => none
        | some entry =>
          let received := if skips level target replay entry then [] else [entry]
          some {self with
            listener := .live subscribedAt replayedAt replay (position + 1)
            yielded := self.yielded ++ received}
    | _ => none

/-- The entries that a lagging receiver passes over although they were to be yielded. -/
def missed (self : Streaming) : Act → List LogEntry
  | .receive =>
    match self.listener with
    | .live _ _ replay position =>
      ((self.pushed.take self.oldest).drop position).filter (fun entry => !skips level target replay entry)
    | _ => []
  | _ => []

/-- What a stream owes up to a position: the matching entries of the replay, and those sent
after the subscription that are not in it. -/
def owed (pushed : List LogEntry) (subscribedAt : Nat) (replay : List LogEntry) (position : Nat) : List LogEntry :=
  replay.filter (matchesFilters level target) ++
    ((pushed.take position).drop subscribedAt).filter (fun entry => !skips level target replay entry)

structure Live (log : List LogEntry) (state : Streaming) (subscribedAt replayedAt : Nat) (replay : List LogEntry)
    (position : Nat) : Prop where
  replayed : replay = (state.pushed.take replayedAt).drop (replayedAt - min sseReplayCount state.buffer.capacity)
  subscribed : subscribedAt ≤ replayedAt
  sent : replayedAt ≤ state.pushed.length
  started : subscribedAt ≤ position
  within : position ≤ state.pushed.length
  paid : (state.yielded ++ log).Perm (owed level target state.pushed subscribedAt replay position)

structure Followed (log : List LogEntry) (state : Streaming) : Prop where
  holds : state.buffer.Holds state.pushed
  early : (∀ subscribedAt replayedAt replay position, state.listener ≠ .live subscribedAt replayedAt replay position) →
    state.yielded = [] ∧ log = []
  subscribed : ∀ subscribedAt, state.listener = .subscribed subscribedAt → subscribedAt ≤ state.pushed.length
  live : ∀ subscribedAt replayedAt replay position, state.listener = .live subscribedAt replayedAt replay position →
    Live level target log state subscribedAt replayedAt replay position

theorem new_followed (capacity broadcastCapacity : Nat) : Followed level target [] (new capacity broadcastCapacity) := by
  refine ⟨LogBuffer.holds_withCapacity capacity broadcastCapacity,fun _ => ⟨rfl,rfl⟩,?_,?_⟩
  · intro subscribedAt found
    cases found
  · intro subscribedAt replayedAt replay position found
    cases found

theorem lastN_eq (buffer : LogBuffer) (pushed : List LogEntry) (holds : buffer.Holds pushed) (n : Nat) :
    buffer.lastN n = pushed.drop (pushed.length - min n buffer.capacity) := by
  rw [LogBuffer.lastN,holds.newest,List.length_drop,List.drop_drop]
  congr 1
  omega

/-- What came of an entry, sent or missed, is what is owed between two positions. -/
theorem Live.moved (log yielded missed : List LogEntry) (self next : Streaming) (subscribedAt replayedAt : Nat)
    (replay : List LogEntry) (position later : Nat) (live : Live level target log self subscribedAt replayedAt replay position)
    (buffer : next.buffer = self.buffer) (pushed : next.pushed = self.pushed) (forth : position ≤ later)
    (within : later ≤ self.pushed.length) (more : next.yielded = self.yielded ++ yielded)
    (between : ((self.pushed.take later).drop position).filter (fun entry => !skips level target replay entry) =
      yielded ++ missed) : Live level target (log ++ missed) next subscribedAt replayedAt replay later := by
  refine ⟨?_,live.subscribed,?_,live.started.trans forth,?_,?_⟩
  · rw [buffer,pushed]
    exact live.replayed
  · rw [pushed]
    exact live.sent
  · rw [pushed]
    exact within
  · have grown : owed level target self.pushed subscribedAt replay later =
        owed level target self.pushed subscribedAt replay position ++ (yielded ++ missed) := by
      unfold owed
      rw [NumberedLog.drop_take_cut self.pushed subscribedAt position later live.started forth,List.filter_append,
        between,List.append_assoc]
    rw [pushed,grown,more,List.append_assoc]
    calc self.yielded ++ (yielded ++ (log ++ missed))
        _ |>.Perm (self.yielded ++ (log ++ (yielded ++ missed))) := by
          refine List.Perm.append_left self.yielded ?_
          rw [← List.append_assoc,← List.append_assoc]
          exact List.perm_append_comm.append_right missed
        _ |>.Perm ((self.yielded ++ log) ++ (yielded ++ missed)) := by rw [List.append_assoc]
        _ |>.Perm (owed level target self.pushed subscribedAt replay position ++ (yielded ++ missed)) :=
          live.paid.append_right _

theorem push_followed (log : List LogEntry) (self : Streaming) (entry : LogEntry) (bounded : self.pushed.length + 1 < 2^64)
    (followed : Followed level target log self) : Followed level target log
      {self with buffer := self.buffer.push entry, pushed := self.pushed ++ [self.buffer.numbered entry]} := by
  refine ⟨LogBuffer.push_holds self.buffer self.pushed entry followed.holds bounded,followed.early,?_,?_⟩
  · intro subscribedAt found
    have before := followed.subscribed subscribedAt found
    rw [List.length_append]
    exact Nat.le_add_right_of_le before
  · intro subscribedAt replayedAt replay position found
    have live := followed.live subscribedAt replayedAt replay position found
    refine ⟨?_,live.subscribed,?_,live.started,?_,?_⟩
    · simp only [List.take_append_of_le_length live.sent]
      exact live.replayed
    · rw [List.length_append]
      exact Nat.le_add_right_of_le live.sent
    · rw [List.length_append]
      exact Nat.le_add_right_of_le live.within
    · simp only [owed,List.take_append_of_le_length live.within]
      exact live.paid

theorem replay_followed (log : List LogEntry) (self : Streaming) (subscribedAt : Nat)
    (waiting : self.listener = .subscribed subscribedAt) (followed : Followed level target log self) :
    Followed level target log {self with
      listener := .live subscribedAt self.pushed.length (self.buffer.lastN sseReplayCount) subscribedAt
      yielded := self.yielded ++ (self.buffer.lastN sseReplayCount).filter (matchesFilters level target)} := by
  obtain ⟨silent,none⟩ := followed.early (by simp [waiting])
  refine ⟨followed.holds,?_,?_,?_⟩
  · intro never
    exact absurd rfl (never _ _ _ _)
  · intro other found
    cases found
  · intro a b replay position found
    cases found
    have early := followed.subscribed subscribedAt waiting
    refine ⟨?_,early,Nat.le_refl _,Nat.le_refl _,early,?_⟩
    · rw [lastN_eq self.buffer self.pushed followed.holds,List.take_length]
    · have unsent : (self.pushed.take subscribedAt).drop subscribedAt = [] :=
        List.drop_eq_nil_of_le (by rw [List.length_take]; omega)
      rw [silent,none,owed,unsent]
      simp

theorem receive_followed (log : List LogEntry) (self next : Streaming)
    (taken : self.step level target .receive = some next) (followed : Followed level target log self) :
    Followed level target (log ++ self.missed level target .receive) next := by
  simp only [step] at taken
  split at taken
  next subscribedAt replayedAt replay position listening =>
    have live := followed.live subscribedAt replayedAt replay position listening
    have passes : self.missed level target .receive =
        ((self.pushed.take self.oldest).drop position).filter (fun entry => !skips level target replay entry) := by
      simp only [missed,listening]
    rw [passes]
    split at taken
    next lagged =>
      cases taken
      refine ⟨followed.holds,fun never => absurd rfl (never _ _ _ _),by simp,?_⟩
      intro a b other later found
      cases found
      exact .moved level target log [] _ self _ subscribedAt replayedAt replay position self.oldest live rfl rfl
        (Nat.le_of_lt lagged) (Nat.sub_le _ _) (List.append_nil _).symm rfl
    next near =>
      split at taken
      next => cases taken
      next entry found =>
        cases taken
        have bound := (List.getElem?_eq_some_iff.mp found).1
        have kept : (self.pushed.take self.oldest).drop position = [] :=
          List.drop_eq_nil_of_le (by rw [List.length_take]; omega)
        have one : (self.pushed.take (position + 1)).drop position = [entry] := by
          rw [List.take_add_one,found,List.drop_append]
          have length : (self.pushed.take position).length = position := by
            rw [List.length_take]
            omega
          simp [length,List.drop_eq_nil_of_le (Nat.le_of_eq length)]
        refine ⟨followed.holds,fun never => absurd rfl (never _ _ _ _),by simp,?_⟩
        intro a b other later same
        cases same
        refine .moved level target log _ _ self _ subscribedAt replayedAt replay position (position + 1) live rfl rfl
          (Nat.le_succ position) bound rfl ?_
        rw [one,kept]
        cases skip : skips level target replay entry <;> simp [skip]
  next => cases taken

theorem step_followed (log : List LogEntry) (self : Streaming) (act : Act) (next : Streaming)
    (taken : self.step level target act = some next) (few : next.pushed.length < 2^64)
    (followed : Followed level target log self) : Followed level target (log ++ self.missed level target act) next := by
  cases act with
  | push entry =>
    cases taken
    simp only [missed,List.append_nil]
    exact push_followed level target log self entry (by simpa using few) followed
  | subscribe =>
    simp only [missed,List.append_nil]
    simp only [step] at taken
    split at taken
    next out =>
      split at taken
      next =>
        cases taken
        refine ⟨followed.holds,fun _ => followed.early (by simp [out]),?_,by simp⟩
        intro subscribedAt found
        cases found
        exact Nat.le_refl _
      next =>
        cases taken
        exact followed
    next => cases taken
  | replay =>
    simp only [missed,List.append_nil]
    simp only [step] at taken
    split at taken
    next subscribedAt waiting =>
      cases taken
      exact replay_followed level target log self subscribedAt waiting followed
    next => cases taken
  | receive => exact receive_followed level target log self next taken followed

theorem step_grows (self : Streaming) (act : Act) (next : Streaming) (taken : self.step level target act = some next) :
    self.pushed.length ≤ next.pushed.length := by
  cases act with
  | push entry =>
    cases taken
    simp
  | subscribe =>
    simp only [step] at taken
    split at taken
    · split at taken <;> cases taken <;> exact Nat.le_refl _
    · cases taken
  | replay =>
    simp only [step] at taken
    split at taken <;> cases taken
    exact Nat.le_refl _
  | receive =>
    simp only [step] at taken
    split at taken
    · split at taken
      · cases taken
        exact Nat.le_refl _
      · split at taken <;> cases taken
        exact Nat.le_refl _
    · cases taken

theorem skips_iff (replay : List LogEntry) (entry : LogEntry) : skips level target replay entry = false ↔
    (∀ other ∈ replay, other.id ≠ entry.id) ∧ matchesFilters level target entry = true := by
  simp [skips]

/-- Nothing is owed twice. -/
theorem owed_nodup (pushed : List LogEntry) (numbered : NumberedLog.Numbered LogEntry.id pushed) (subscribedAt : Nat)
    (replay : List LogEntry) (position : Nat) (replayed : replay.Sublist pushed) :
    (owed level target pushed subscribedAt replay position).Nodup := by
  refine List.Nodup.append ((replayed.nodup numbered.nodup).filter _) ?_ ?_
  · have among : ((pushed.take position).drop subscribedAt).Sublist pushed :=
      (List.drop_sublist _ _).trans (List.take_sublist _ _)
    exact (among.nodup numbered.nodup).filter _
  · intro entry early late
    have listed := List.mem_of_mem_filter early
    have fresh := List.of_mem_filter late
    simp only [Bool.not_eq_true'] at fresh
    exact ((skips_iff level target replay entry).mp fresh).1 entry listed rfl

/-- Every matching entry from the replay on is owed. -/
theorem owed_covers (pushed : List LogEntry) (numbered : NumberedLog.Numbered LogEntry.id pushed)
    (subscribedAt replayedAt first position : Nat) (early : subscribedAt ≤ replayedAt) (i : Nat) (entry : LogEntry)
    (found : pushed[i]? = some entry) (passes : matchesFilters level target entry = true) (after : first ≤ i)
    (before : i < max replayedAt position) :
    entry ∈ owed level target pushed subscribedAt ((pushed.take replayedAt).drop first) position := by
  have inside : ∀ lower upper, lower ≤ i → i < upper → entry ∈ (pushed.take upper).drop lower := by
    intro lower upper above below
    refine List.mem_iff_getElem?.mpr ⟨i - lower,?_⟩
    have place : lower + (i - lower) = i := by omega
    rw [List.getElem?_drop,place,List.getElem?_take_of_lt below]
    exact found
  refine List.mem_append.mpr ?_
  by_cases replayed : i < replayedAt
  · exact .inl (List.mem_filter.mpr ⟨inside first replayedAt after replayed,passes⟩)
  · refine .inr (List.mem_filter.mpr ⟨inside subscribedAt position (by omega) (by omega),?_⟩)
    have fresh : skips level target ((pushed.take replayedAt).drop first) entry = false := by
      refine (skips_iff level target _ entry).mpr ⟨?_,passes⟩
      intro other listed
      obtain ⟨j,held⟩ := List.mem_iff_getElem?.mp listed
      rw [List.getElem?_drop,List.getElem?_take] at held
      split at held
      next bound =>
        have own := numbered.get i entry found
        have others := numbered.get (first + j) other held
        omega
      next => cases held
    rw [fresh]
    rfl

/-- A stream leaves no gap between its replay and what it receives live, and yields nothing
twice: every matching entry from the first of the replayed ones up to where it has come was
yielded or missed by lagging, in every interleaving of its three steps with the pushes. -/
theorem run_stream_accounted (capacity broadcastCapacity : Nat) (acts : List Act) (final : Streaming)
    (reached : run (step level target) (new capacity broadcastCapacity) acts = some final)
    (few : final.pushed.length < 2^64) (subscribedAt replayedAt : Nat) (replay : List LogEntry) (position : Nat)
    (live : final.listener = .live subscribedAt replayedAt replay position) :
    let log := emitted (step level target) (missed level target) (new capacity broadcastCapacity) acts
    (final.yielded ++ log).Nodup ∧
      (∀ entry ∈ final.yielded ++ log, entry ∈ final.pushed ∧ matchesFilters level target entry = true) ∧
      ∀ i entry, final.pushed[i]? = some entry → matchesFilters level target entry = true →
        replayedAt - min sseReplayCount final.buffer.capacity ≤ i → i < max replayedAt position →
        entry ∈ final.yielded ++ log := by
  let inv : List LogEntry → Streaming → Prop := fun log self => self.pushed.length < 2^64 → Followed level target log self
  have keeps : ∀ log self act next, step level target self act = some next → inv log self →
      inv (log ++ self.missed level target act) next := by
    intro log self act next taken kept few
    have shorter := Nat.lt_of_le_of_lt (step_grows level target self act next taken) few
    exact step_followed level target log self act next taken few (kept shorter)
  have kept := invariant_emitted (missed level target) inv keeps [] _ final acts reached
    (fun _ => new_followed level target capacity broadcastCapacity) few
  rw [List.nil_append] at kept
  have followed := kept.live subscribedAt replayedAt replay position live
  have numbered := kept.holds.numbered
  have replayed : replay.Sublist final.pushed := by
    rw [followed.replayed]
    exact (List.drop_sublist _ _).trans (List.take_sublist _ _)
  refine ⟨followed.paid.nodup_iff.mpr (owed_nodup level target final.pushed numbered subscribedAt replay position replayed),
    ?_,?_⟩
  · intro entry given
    rcases List.mem_append.mp (followed.paid.mem_iff.mp given) with early | late
    · exact ⟨replayed.subset (List.mem_of_mem_filter early),List.of_mem_filter early⟩
    · have member := List.mem_of_mem_take (List.mem_of_mem_drop (List.mem_of_mem_filter late))
      have fresh := List.of_mem_filter late
      simp only [Bool.not_eq_true'] at fresh
      exact ⟨member,((skips_iff level target replay entry).mp fresh).2⟩
  · intro i entry found passes after before
    refine followed.paid.mem_iff.mpr ?_
    rw [followed.replayed]
    exact owed_covers level target final.pushed numbered subscribedAt replayedAt _ position followed.subscribed i entry
      found passes after before

/-- An entry comes between the subscription and the replay, and the receiver lags once. -/
def lagging : List Act :=
  [.push Polling.warning,.subscribe,.push Polling.warning,.replay,.receive,.push Polling.warning,
    .push Polling.warning,.push Polling.warning,.receive,.receive,.receive]

/-- Where the stream is at the end. -/
def livesAt (final : Streaming) (subscribedAt replayedAt position : Nat) : Bool :=
  match final.listener with
  | .live a b _ c => a = subscribedAt && b = replayedAt && c = position
  | _ => false

theorem lagging_accounted :
    ∃ final replay, run (step none none) (new 10 2) lagging = some final ∧
      final.listener = .live 1 2 replay 5 ∧ final.yielded.map LogEntry.id = [0,1,3,4] ∧
      let log := emitted (step none none) (missed none none) (new 10 2) lagging
      log.map LogEntry.id = [2] ∧ (final.yielded ++ log).Nodup ∧
        ∀ i entry, final.pushed[i]? = some entry → matchesFilters none none entry = true →
          2 - min sseReplayCount final.buffer.capacity ≤ i → i < max 2 5 → entry ∈ final.yielded ++ log := by
  obtain ⟨final,reached,tested⟩ := run_any (step none none) (new 10 2) lagging
    (fun final => livesAt final 1 2 5 &&
      decide (final.yielded.map LogEntry.id = [0,1,3,4] ∧ final.pushed.length < 2^64)) (by decide +kernel)
  rw [Bool.and_eq_true] at tested
  obtain ⟨lives,tested⟩ := tested
  obtain ⟨ids,few⟩ := of_decide_eq_true tested
  cases listening : final.listener with
  | out => simp [livesAt,listening] at lives
  | subscribed subscribedAt => simp [livesAt,listening] at lives
  | live subscribedAt replayedAt replay position =>
    simp only [livesAt,listening,Bool.and_eq_true,decide_eq_true_eq] at lives
    obtain ⟨⟨first,second⟩,third⟩ := lives
    subst first second third
    have accounted := run_stream_accounted none none 10 2 lagging final reached few 1 2 replay 5 listening
    exact ⟨final,replay,reached,listening,ids,by decide +kernel,accounted.1,accounted.2.2⟩

end Streaming
end Warpdrive.Http
