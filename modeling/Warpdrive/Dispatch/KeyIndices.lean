import Warpdrive.Dispatch.Calls
import Warpdrive.Dispatch.RegistryFile

/-! The calls of `add_service_key` with their atomic steps interleaved. A call reads and advances the counter,
moves the counter past its index, and makes and inserts its signer. The index of a call is settled by its
first step. -/
namespace Warpdrive.Dispatch

open Warpdrive.Foundation Warpdrive.Foundation.Execution Warpdrive.Types

/-- A call that has begun: its number, its index and whether it chose it itself, whether the counter had been
at its top when it began, and whether it has moved the counter past its index. -/
structure KeyCall where
  number : Nat
  service : ServiceId
  hdIndex : UInt32
  automatic : Bool
  late : Bool
  advanced : Bool

/-- The submission manager with the calls under way and those that have inserted a signer. `exhausted` says
that the counter has been at its top, `wrapped` that a call has begun there. -/
structure KeyCalls where
  manager : SubmissionManager
  begun : Nat
  calls : List KeyCall
  given : List KeyCall
  exhausted : Bool
  wrapped : Bool

inductive KeyAct where
  | fetchAdd (service : ServiceId) (hdIndex : Option UInt32)
  | fetchMax (i : Nat)
  | insert (i : Nat) (services : Services)

def atTop (index : UInt32) : Bool := (checkedSucc index).isNone

namespace KeyCalls

variable (mnemonic : Mnemonic)

def new : KeyCalls := ⟨.new,0,[],[],false,false⟩

def count (self : KeyCalls) : UInt32 := self.manager.signingMnemonicHdIndexCount

def withCount (self : KeyCalls) (count : UInt32) : KeyCalls :=
  {self with
    manager := {self.manager with signingMnemonicHdIndexCount := count}
    exhausted := self.exhausted || atTop count}

/-- The counter is advanced also when the caller gives an index, and wraps around. -/
def fetchAdd (self : KeyCalls) (service : ServiceId) (hdIndex : Option UInt32) : KeyCalls :=
  let call : KeyCall := ⟨self.begun,service,hdIndex.getD self.count,hdIndex.isNone,self.exhausted,false⟩
  {self.withCount (self.count + 1) with
    begun := self.begun + 1
    calls := self.calls ++ [call]
    wrapped := self.wrapped || atTop self.count}

/-- A call whose index is the last of all fails. -/
def fetchMax (self : KeyCalls) (i : Nat) (call : KeyCall) : KeyCalls :=
  match checkedSucc call.hdIndex with
  | none => {self with calls := self.calls.eraseIdx i}
  | some next => {self.withCount (max self.count next) with calls := self.calls.set i {call with advanced := true}}

/-- `get_signature_kind` and the signer can fail. -/
def insert (self : KeyCalls) (i : Nat) (services : Services) (call : KeyCall) : KeyCalls :=
  match (services.getSignatureKind call.service).mapError SubmissionError.services >>= fun kind =>
      mnemonic.signer call.service kind call.hdIndex with
  | .error _ => {self with calls := self.calls.eraseIdx i}
  | .ok signer =>
    {self with
      manager := {self.manager with signers := self.manager.signers.insert call.service ⟨signer,call.hdIndex⟩}
      calls := self.calls.eraseIdx i
      given := self.given ++ [call]}

def step (self : KeyCalls) : KeyAct → Option KeyCalls
  | .fetchAdd service hdIndex => some (self.fetchAdd service hdIndex)
  | .fetchMax i =>
    match self.calls[i]? with
    | some call => if call.advanced then none else some (self.fetchMax i call)
    | none => none
  | .insert i services =>
    match self.calls[i]? with
    | some call => if call.advanced then some (self.insert mnemonic i services call) else none
    | none => none

/-- The steps of a call that meets no other are `add_service_key`. -/
theorem addServiceKey_steps (self : KeyCalls) (idle : self.calls = []) (services : Services) (service : ServiceId)
    (hdIndex : Option UInt32) :
    ∃ acts final, run (step mnemonic) self acts = some final ∧ final.calls = [] ∧
      final.manager = (SubmissionManager.addServiceKey mnemonic services service hdIndex self.manager).1 := by
  let call : KeyCall := ⟨self.begun,service,hdIndex.getD self.count,hdIndex.isNone,self.exhausted,false⟩
  let moved := (self.fetchAdd service hdIndex).fetchMax 0 call
  have first : (self.fetchAdd service hdIndex).calls = [call] := by
    simp [fetchAdd,idle,call]
  have both : run (step mnemonic) self [.fetchAdd service hdIndex,.fetchMax 0] = some moved := by
    simp [run,step,first,call,moved]
  cases fits : checkedSucc (hdIndex.getD self.count) with
  | none =>
    refine ⟨_,moved,both,?_,?_⟩
    · simp [moved,fetchMax,call,fits,first]
    · simp only [SubmissionManager.addServiceKey,Attempt.bind_run,Attempt.andThen,Attempt.reads_run,
        Attempt.changes_run,Attempt.checks_run]
      rw [count] at fits
      simp only [moved,fetchMax,call,count,fits]
      rfl
  | some next =>
    have second : moved.calls = [{call with advanced := true}] := by
      simp [moved,fetchMax,call,fits,first]
    have all : run (step mnemonic) self ([.fetchAdd service hdIndex,.fetchMax 0] ++ [.insert 0 services]) =
        some (moved.insert mnemonic 0 services {call with advanced := true}) := by
      rw [run_append]
      exact ⟨moved,both,by simp [run,step,second]⟩
    refine ⟨_,_,all,?_,?_⟩
    · unfold insert
      split
      · simp [second]
      · simp [second]
    · simp only [SubmissionManager.addServiceKey,Attempt.bind_run,Attempt.andThen,Attempt.reads_run,
        Attempt.changes_run,Attempt.checks_run]
      rw [count] at fits
      simp only [fits,insert,moved,fetchMax,call,count]
      cases services.getSignatureKind service with
      | error error => rfl
      | ok kind =>
        simp only [Except.mapError,bind,Except.bind]
        cases mnemonic.signer service kind (hdIndex.getD self.manager.signingMnemonicHdIndexCount) with
        | error error => rfl
        | ok signer => rfl

def Owns (self : KeyCalls) (call : KeyCall) : Prop := call ∈ self.calls ∨ call ∈ self.given

/-- No automatic index is one that another service has been given before. -/
def Distinct (self : KeyCalls) : Prop :=
  ∀ call ∈ self.given, ∀ earlier ∈ self.given, call.automatic = true → earlier.number < call.number →
    earlier.service ≠ call.service → earlier.hdIndex ≠ call.hdIndex

/-- No automatic call that has begun with no index left has been given one. -/
def Refuses (self : KeyCalls) : Prop := ∀ call ∈ self.given, call.automatic = true → call.late = false

/-- An automatic call begins where no call has begun at the top of the counter, and where the counter is not
the index of a call for another service that has not moved it on. -/
def Fits (before : KeyCalls) (act : KeyAct) (_ : KeyCalls) : Prop :=
  match act with
  | .fetchAdd service none => before.wrapped = false ∧ ∀ call ∈ before.calls, call.automatic = false →
    call.advanced = false → call.service ≠ service → call.hdIndex ≠ before.count
  | _ => True

theorem atTop_eq_false (index : UInt32) : atTop index = false ↔ index.toNat + 1 < UInt32.size := by
  unfold atTop checkedSucc
  split
  next small => simp [small]
  next large => simp [large]

theorem checkedSucc_isSome (index next : UInt32) (fits : checkedSucc index = some next) : atTop index = false := by
  simp [atTop,fits]

theorem succ_toNat (index : UInt32) (low : atTop index = false) : (index + 1).toNat = index.toNat + 1 :=
  Nat.mod_eq_of_lt ((atTop_eq_false index).mp low)

theorem toNat_le_max (first second : UInt32) :
    first.toNat ≤ (max first second).toNat ∧ second.toNat ≤ (max first second).toNat := by
  have either : max first second = if first ≤ second then second else first := rfl
  rw [either]
  split
  next below => exact ⟨UInt32.le_iff_toNat_le.mp below,Nat.le_refl _⟩
  next above =>
    rw [UInt32.le_iff_toNat_le] at above
    omega

/-- What holds of the calls as long as automatic calls begin where they fit. -/
structure Sound (state : KeyCalls) : Prop where
  numbered : ∀ call, state.Owns call → call.number < state.begun
  usable : ∀ call, state.Owns call → call.advanced = true → atTop call.hdIndex = false
  done : ∀ call ∈ state.given, call.advanced = true
  apart : ∀ call earlier, state.Owns call → state.Owns earlier → call.automatic = true →
    earlier.number < call.number → earlier.service ≠ call.service → atTop call.hdIndex = false →
      earlier.hdIndex ≠ call.hdIndex
  refused : ∀ call, state.Owns call → call.automatic = true → call.late = true → atTop call.hdIndex = true
  below : state.wrapped = false → ∀ call, state.Owns call → call.automatic = true ∨ call.advanced = true →
    call.hdIndex.toNat < state.count.toNat
  top : state.wrapped = false → state.exhausted = true → atTop state.count = true

theorem sound_new : Sound new where
  numbered := by simp [Owns,new]
  usable := by simp [Owns,new]
  done := by simp [new]
  apart := by simp [Owns,new]
  refused := by simp [Owns,new]
  below := by simp [Owns,new]
  top := by simp [new]

theorem Sound.distinct {self : KeyCalls} (sound : Sound self) : self.Distinct := by
  intro call member earlier there automatic before other
  exact sound.apart call earlier (.inr member) (.inr there) automatic before other
    (sound.usable call (.inr member) (sound.done call member))

theorem Sound.refuses {self : KeyCalls} (sound : Sound self) : self.Refuses := by
  intro call member automatic
  by_contra late
  rw [Bool.not_eq_false] at late
  have full := sound.refused call (.inr member) automatic late
  rw [sound.usable call (.inr member) (sound.done call member)] at full
  cases full

/-- Calls that each come from one that was owned before, with their indices, keep what holds of two calls. -/
theorem Sound.ofCalls {self next : KeyCalls} (sound : Sound self) (begun : next.begun = self.begun)
    (from_ : ∀ call, next.Owns call → ∃ old, self.Owns old ∧ call = {old with advanced := call.advanced})
    (usable : ∀ call, next.Owns call → call.advanced = true → atTop call.hdIndex = false)
    (done : ∀ call ∈ next.given, call.advanced = true)
    (below : next.wrapped = false → ∀ call, next.Owns call → call.automatic = true ∨ call.advanced = true →
      call.hdIndex.toNat < next.count.toNat)
    (top : next.wrapped = false → next.exhausted = true → atTop next.count = true) : Sound next where
  numbered call owned := by
    obtain ⟨old,was,same⟩ := from_ call owned
    rw [begun,same]
    exact sound.numbered old was
  usable := usable
  done := done
  apart call earlier owned there automatic before other := by
    obtain ⟨old,was,same⟩ := from_ call owned
    obtain ⟨first,was',same'⟩ := from_ earlier there
    rw [same] at automatic before other ⊢
    rw [same'] at before other ⊢
    exact sound.apart old first was was' automatic before other
  refused call owned automatic late := by
    obtain ⟨old,was,same⟩ := from_ call owned
    rw [same] at automatic late ⊢
    exact sound.refused old was automatic late
  below := below
  top := top

theorem Sound.fetchAdd {self : KeyCalls} (sound : Sound self) (service : ServiceId) (hdIndex : Option UInt32)
    (fits : Fits self (.fetchAdd service hdIndex) (self.fetchAdd service hdIndex)) :
    Sound (self.fetchAdd service hdIndex) := by
  have owned : ∀ call, (self.fetchAdd service hdIndex).Owns call → self.Owns call ∨
      call = ⟨self.begun,service,hdIndex.getD self.count,hdIndex.isNone,self.exhausted,false⟩ := by
    intro call owns
    rcases owns with under | given
    · rcases List.mem_append.mp under with old | new
      · exact .inl (.inl old)
      · exact .inr (List.mem_singleton.mp new)
    · exact .inl (.inr given)
  constructor
  · intro call owns
    rcases owned call owns with old | rfl
    · exact Nat.lt_succ_of_lt (sound.numbered call old)
    · exact Nat.lt_succ_self _
  · intro call owns advanced
    rcases owned call owns with old | rfl
    · exact sound.usable call old advanced
    · cases advanced
  · exact sound.done
  · intro call earlier owns there automatic before other low
    rcases owned call owns with old | rfl
    · rcases owned earlier there with first | rfl
      · exact sound.apart call earlier old first automatic before other low
      · -- the new call comes after every other
        have numbered := sound.numbered call old
        dsimp only at before
        omega
    · rcases owned earlier there with first | rfl
      · cases hdIndex with
        | some index => cases automatic
        | none =>
          obtain ⟨unwrapped,free⟩ := fits
          intro same
          have equal := congrArg UInt32.toNat same
          simp only [Option.getD_none] at equal
          by_cases settled : earlier.automatic = true ∨ earlier.advanced = true
          · have less := sound.below unwrapped earlier first settled
            omega
          · rw [not_or,Bool.not_eq_true,Bool.not_eq_true] at settled
            rcases first with under | given
            · exact free earlier under settled.1 settled.2 other same
            · rw [sound.done earlier given] at settled
              cases settled.2
      · exact absurd before (Nat.lt_irrefl _)
  · intro call owns automatic late
    rcases owned call owns with old | rfl
    · exact sound.refused call old automatic late
    · cases hdIndex with
      | some index => cases automatic
      | none => exact sound.top fits.1 late
  · intro unwrapped call owns settled
    have both := Bool.or_eq_false_iff.mp unwrapped
    have next : (self.fetchAdd service hdIndex).count.toNat = self.count.toNat + 1 := succ_toNat _ both.2
    rw [next]
    rcases owned call owns with old | rfl
    · exact Nat.lt_succ_of_lt (sound.below both.1 call old settled)
    · cases hdIndex with
      | some index => rcases settled with wrong | wrong <;> cases wrong
      | none => exact Nat.lt_succ_self _
  · intro unwrapped exhausted
    have both := Bool.or_eq_false_iff.mp unwrapped
    rcases Bool.or_eq_true_iff.mp exhausted with before | now
    · have top := sound.top both.1 before
      rw [both.2] at top
      cases top
    · exact now

theorem Sound.fetchMax {self : KeyCalls} (sound : Sound self) (i : Nat) (call : KeyCall)
    (found : self.calls[i]? = some call) : Sound (self.fetchMax i call) := by
  have member : call ∈ self.calls := List.mem_of_getElem? found
  unfold KeyCalls.fetchMax
  split
  next last =>
    have owned : ∀ other, ({self with calls := self.calls.eraseIdx i} : KeyCalls).Owns other → self.Owns other := by
      intro other owns
      exact owns.imp List.mem_of_mem_eraseIdx id
    exact sound.ofCalls rfl (fun other owns => ⟨other,owned other owns,rfl⟩)
      (fun other owns => sound.usable other (owned other owns)) sound.done
      (fun unwrapped other owns => sound.below unwrapped other (owned other owns)) sound.top
  next next fits =>
    have bounds := toNat_le_max self.count next
    have advances := checkedSucc_toNat call.hdIndex next fits
    have owned : ∀ other, ({self.withCount (max self.count next) with
          calls := self.calls.set i {call with advanced := true}} : KeyCalls).Owns other →
        self.Owns other ∨ other = {call with advanced := true} := by
      intro other owns
      rcases owns with under | given
      · rcases List.mem_or_eq_of_mem_set under with old | new
        · exact .inl (.inl old)
        · exact .inr new
      · exact .inl (.inr given)
    refine sound.ofCalls rfl ?_ ?_ sound.done ?_ ?_
    · intro other owns
      rcases owned other owns with old | rfl
      · exact ⟨other,old,rfl⟩
      · exact ⟨call,.inl member,rfl⟩
    · intro other owns advanced
      rcases owned other owns with old | rfl
      · exact sound.usable other old advanced
      · exact checkedSucc_isSome _ next fits
    · intro unwrapped other owns settled
      change other.hdIndex.toNat < (max self.count next).toNat
      rcases owned other owns with old | rfl
      · have less := sound.below unwrapped other old settled
        omega
      · dsimp only
        omega
    · intro unwrapped exhausted
      rcases Bool.or_eq_true_iff.mp exhausted with before | now
      · have top := sound.top unwrapped before
        by_contra low
        rw [Bool.not_eq_true,atTop_eq_false] at low
        have high : ¬self.count.toNat + 1 < UInt32.size := by
          rw [← atTop_eq_false,top]
          simp
        change (max self.count next).toNat + 1 < UInt32.size at low
        omega
      · exact now

theorem Sound.insert {self : KeyCalls} (sound : Sound self) (i : Nat) (services : Services) (call : KeyCall)
    (found : self.calls[i]? = some call) (advanced : call.advanced = true) :
    Sound (self.insert mnemonic i services call) := by
  have member : call ∈ self.calls := List.mem_of_getElem? found
  have owned : ∀ other, (self.insert mnemonic i services call).Owns other → self.Owns other := by
    intro other owns
    unfold KeyCalls.insert at owns
    split at owns
    · exact owns.imp List.mem_of_mem_eraseIdx id
    · rcases owns with under | given
      · exact .inl (List.mem_of_mem_eraseIdx under)
      · rcases List.mem_append.mp given with old | new
        · exact .inr old
        · rw [List.mem_singleton.mp new]
          exact .inl member
  have kept : (self.insert mnemonic i services call).count = self.count ∧
      (self.insert mnemonic i services call).wrapped = self.wrapped ∧
        (self.insert mnemonic i services call).exhausted = self.exhausted ∧
          (self.insert mnemonic i services call).begun = self.begun := by
    unfold KeyCalls.insert
    split
    · exact ⟨rfl,rfl,rfl,rfl⟩
    · exact ⟨rfl,rfl,rfl,rfl⟩
  obtain ⟨count,wrapped,exhausted,begun⟩ := kept
  refine sound.ofCalls begun (fun other owns => ⟨other,owned other owns,rfl⟩)
    (fun other owns => sound.usable other (owned other owns)) ?_ ?_ ?_
  · intro other given
    unfold KeyCalls.insert at given
    split at given
    · exact sound.done other given
    · rcases List.mem_append.mp given with old | new
      · exact sound.done other old
      · rw [List.mem_singleton.mp new]
        exact advanced
  · rw [count,wrapped]
    exact fun unwrapped other owns => sound.below unwrapped other (owned other owns)
  · rw [count,wrapped,exhausted]
    exact sound.top

theorem sound_step (before : KeyCalls) (act : KeyAct) (after : KeyCalls)
    (taken : before.step mnemonic act = some after) (fits : Fits before act after) (sound : Sound before) :
    Sound after := by
  cases act with
  | fetchAdd service hdIndex =>
    cases taken
    exact sound.fetchAdd service hdIndex fits
  | fetchMax i =>
    simp only [step] at taken
    split at taken
    next call found =>
      split at taken
      · cases taken
      · cases taken
        exact sound.fetchMax i call found
    next => cases taken
  | insert i services =>
    simp only [step] at taken
    split at taken
    next call found =>
      split at taken
      next advanced =>
        cases taken
        exact sound.insert mnemonic i services call found advanced
      next => cases taken
    next => cases taken

/-- Along every run whose automatic calls begin where they fit, whatever the interleaving and the failures, no
automatic index is one that another service has been given before, and no call that begins without an index
left is given one. -/
theorem indices_distinct (acts : List KeyAct) (final : KeyCalls) (reached : run (step mnemonic) new acts = some final)
    (fits : Along (step mnemonic) Fits new acts) : final.Distinct ∧ final.Refuses := by
  have sound := invariant_along Fits Sound (sound_step mnemonic) new final acts reached fits sound_new
  exact ⟨sound.distinct,sound.refuses⟩

instance (self : KeyCalls) : Decidable self.Distinct :=
  inferInstanceAs (Decidable (∀ call ∈ self.given, ∀ earlier ∈ self.given, _))

instance (self : KeyCalls) : Decidable self.Refuses := inferInstanceAs (Decidable (∀ call ∈ self.given, _))

instance (before after : KeyCalls) (act : KeyAct) : Decidable (Fits before act after) :=
  match act with
  | .fetchAdd _ none => inferInstanceAs (Decidable (_ ∧ ∀ call ∈ before.calls, _))
  | .fetchAdd _ (some _) => .isTrue trivial
  | .fetchMax _ => .isTrue trivial
  | .insert _ _ => .isTrue trivial

def numbered (number : UInt8) : ServiceId := ⟨FixedBytes.filled 32 number⟩

/-- Services one to five. -/
def five : Services :=
  {Services.new with
    services := [1,2,3,4,5].foldl (fun table number => table.insert (numbered number) deployedService) .new}

/-- One call after the other, with the index that each brings. -/
def serial (indices : List (UInt8 × Option UInt32)) : List KeyAct :=
  indices.flatMap (fun call => [.fetchAdd (numbered call.1) call.2,.fetchMax 0,.insert 0 five])

/-- An index that a caller brings is not given again. -/
theorem indices_distinct_after_five : ∃ final,
    run (step operatorMnemonic) new (serial [(1,none),(2,some 5),(3,none)]) = some final ∧
      final.Distinct ∧ final.Refuses := by
  obtain ⟨final,reached,_⟩ := run_any (step operatorMnemonic) new (serial [(1,none),(2,some 5),(3,none)])
    (fun final => decide (final.given.length = 3)) (by decide)
  exact ⟨final,reached,indices_distinct operatorMnemonic _ final reached (by decide)⟩

/-- After the last index but one, an automatic call fails and the counter wraps around: the fourth service gets
index 0 and the fifth the index of the first. -/
theorem indices_wrap : ∃ final,
    run (step operatorMnemonic) new (serial [(1,none),(2,some 0xFFFFFFFE)] ++
      [.fetchAdd (numbered 3) none,.fetchMax 0] ++ serial [(4,none),(5,none)]) = some final ∧
        ¬final.Distinct ∧ ¬final.Refuses := by
  obtain ⟨final,reached,shared⟩ := run_any (step operatorMnemonic) new
    (serial [(1,none),(2,some 0xFFFFFFFE)] ++ [.fetchAdd (numbered 3) none,.fetchMax 0] ++
      serial [(4,none),(5,none)]) (fun final => decide (¬final.Distinct ∧ ¬final.Refuses)) (by decide)
  exact ⟨final,reached,of_decide_eq_true shared⟩

end KeyCalls
end Warpdrive.Dispatch
