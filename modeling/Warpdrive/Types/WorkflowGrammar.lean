import Warpdrive.Types.Digest

/-! The ways to build a workflow id (`id/workflow.rs`) and the grammar its comment gives. The check counts bytes and
asks `char::is_numeric`, so a digit of another script passes it and counts for more than one character. -/
namespace Warpdrive.Types
namespace WorkflowId

def tryFrom (s : String) : Except WorkflowIdError WorkflowId := new s

def fromStr (s : String) : Except WorkflowIdError WorkflowId := new s

/-- From what `String::deserialize` returns, with `serde::de::Error::custom`. -/
def deserialize {E : Type} (custom : String → E) (s : Except E String) : Except E WorkflowId := do
  (new (← s)).mapError (fun error => custom error.text)

def display (self : WorkflowId) : String := self.text

def isGrammarChar (c : Char) : Bool := isAsciiLowercase c || isAsciiDigit c || c == '_' || c == '-'

/-- `[a-z0-9-_]{3,36}`. -/
def grammar (text : String) : Bool := 3 ≤ text.length && text.length ≤ 36 && text.toList.all isGrammarChar

def isAllowed (c : Char) : Bool := isAsciiLowercase c || isNumeric c || c == '_' || c == '-'

theorem validate_eq_ok (text : String) : validate text = .ok () ↔
    3 ≤ (utf8 text).length ∧ (utf8 text).length ≤ 36 ∧ ∀ c ∈ text.toList, isAllowed c = true := by
  unfold validate
  by_cases size : ((utf8 text).length < 3 || (utf8 text).length > 36) = true
  · rw [if_pos size]
    simp only [Bool.or_eq_true,decide_eq_true_eq] at size
    constructor
    · intro made
      cases made
    · intro made
      omega
  · rw [if_neg size]
    simp only [Bool.or_eq_true,decide_eq_true_eq,not_or,Nat.not_lt,gt_iff_lt] at size
    change (if (!text.toList.all isAllowed) = true then Except.error WorkflowIdError.charError
      else .ok ()) = .ok () ↔ _
    by_cases all : text.toList.all isAllowed = true
    · rw [all,Bool.not_true,if_neg Bool.false_ne_true]
      exact ⟨fun _ => ⟨size.1,size.2,List.all_eq_true.mp all⟩,fun _ => rfl⟩
    · rw [Bool.eq_false_of_not_eq_true all,Bool.not_false,if_pos rfl]
      constructor
      · intro made
        cases made
      · intro made
        exact absurd (List.all_eq_true.mpr made.2.2) all

theorem new_eq_ok (text : String) (id : WorkflowId) :
    new text = .ok id ↔ validate text = .ok () ∧ id.display = text := by
  unfold new display
  constructor
  · intro made
    split at made
    next => cases made
    next valid =>
      cases made
      exact ⟨valid,rfl⟩
  · rintro ⟨valid,rfl⟩
    split
    next error refused =>
      rw [valid] at refused
      cases refused
    next => rfl

theorem isNumeric_of_isAsciiDigit (c : Char) (digit : isAsciiDigit c = true) : isNumeric c = true := by
  unfold isAsciiDigit at digit
  simp only [Bool.and_eq_true,decide_eq_true_eq] at digit
  unfold isNumeric
  apply List.any_eq_true.mpr
  refine ⟨(0x30,0x39),List.mem_cons_self,?_⟩
  simp only [Bool.and_eq_true,decide_eq_true_eq]
  exact digit

theorem toNat_grammarChar (c : Char) (plain : isGrammarChar c = true) : c.toNat ≤ 127 := by
  unfold isGrammarChar isAsciiLowercase isAsciiDigit at plain
  simp only [Bool.or_eq_true,Bool.and_eq_true,decide_eq_true_eq,beq_iff_eq] at plain
  rcases plain with ((lower | digit) | rfl) | rfl
  · exact Nat.le_trans lower.2 (by decide)
  · exact Nat.le_trans digit.2 (by decide)
  · decide
  · decide

theorem isAllowed_grammarChar (c : Char) (plain : isGrammarChar c = true) : isAllowed c = true := by
  unfold isGrammarChar at plain
  unfold isAllowed
  simp only [Bool.or_eq_true] at plain ⊢
  rcases plain with ((lower | digit) | underscore) | dash
  · exact .inl (.inl (.inl lower))
  · exact .inl (.inl (.inr (isNumeric_of_isAsciiDigit c digit)))
  · exact .inl (.inr underscore)
  · exact .inr dash

/-- A text of grammar characters has a byte for each of them. -/
theorem length_utf8_grammar (text : String) (plain : ∀ c ∈ text.toList, isGrammarChar c = true) :
    (utf8 text).length = text.length := by
  have bytes := utf8_ofList text.toList
  rw [String.ofList_toList] at bytes
  rw [bytes,← String.length_toList]
  generalize text.toList = chars at plain
  induction chars with
  | nil => rfl
  | cons first rest ih =>
    obtain ⟨now,later⟩ := List.forall_mem_cons.mp plain
    have single : first.utf8Size = 1 := Char.utf8Size_eq_one_iff.mpr (toNat_grammarChar first now)
    rw [List.flatMap_cons,List.length_append,List.length_cons,ih later,String.length_utf8EncodeChar,single]
    omega

theorem grammar_iff (text : String) : grammar text = true ↔
    validate text = .ok () ∧ ∀ c ∈ text.toList, isGrammarChar c = true := by
  have sized : grammar text = true ↔ 3 ≤ text.length ∧ text.length ≤ 36 ∧ ∀ c ∈ text.toList, isGrammarChar c = true := by
    unfold grammar
    simp only [Bool.and_eq_true,decide_eq_true_eq,List.all_eq_true,and_assoc]
  rw [sized,validate_eq_ok]
  constructor
  · rintro ⟨low,high,plain⟩
    rw [length_utf8_grammar text plain]
    exact ⟨⟨low,high,fun c member => isAllowed_grammarChar c (plain c member)⟩,plain⟩
  · rintro ⟨⟨low,high,_⟩,plain⟩
    rw [length_utf8_grammar text plain] at low high
    exact ⟨low,high,plain⟩

def isForeignNumeric (c : Char) : Bool := isNumeric c && 127 < c.toNat

theorem isAsciiDigit_of_isNumeric (c : Char) (numeric : isNumeric c = true) (ascii : c.toNat ≤ 127) :
    isAsciiDigit c = true := by
  obtain ⟨range,member,inside⟩ := List.any_eq_true.mp numeric
  have apart : ∀ range ∈ numericRanges, range = (0x30,0x39) ∨ 127 < range.1 := by
    decide +kernel
  simp only [Bool.and_eq_true,decide_eq_true_eq] at inside
  unfold isAsciiDigit
  simp only [Bool.and_eq_true,decide_eq_true_eq]
  rcases apart range member with rfl | beyond
  · exact inside
  · omega

theorem isGrammarChar_iff (c : Char) : isGrammarChar c = true ↔ isAllowed c = true ∧ isForeignNumeric c = false := by
  constructor
  · intro plain
    have ascii := toNat_grammarChar c plain
    refine ⟨isAllowed_grammarChar c plain,?_⟩
    unfold isForeignNumeric
    rw [decide_eq_false (by omega),Bool.and_false]
  · rintro ⟨allowed,own⟩
    unfold isAllowed at allowed
    unfold isForeignNumeric at own
    unfold isGrammarChar
    simp only [Bool.or_eq_true] at allowed ⊢
    rcases allowed with ((lower | numeric) | underscore) | dash
    · exact .inl (.inl (.inl lower))
    · rw [numeric,Bool.true_and,decide_eq_false_iff_not,Nat.not_lt] at own
      exact .inl (.inl (.inr (isAsciiDigit_of_isNumeric c numeric own)))
    · exact .inl (.inr underscore)
    · exact .inr dash

/-- A way to build an id takes exactly the texts of the grammar, and the id shows its text. -/
structure Follows {E : Type} (build : String → Except E WorkflowId) (text : String) : Prop where
  taken : (∃ id, build text = .ok id) ↔ grammar text = true
  shown : ∀ id, build text = .ok id → id.display = text

theorem follows_new (text : String) :
    Follows new text ↔ (validate text = .ok () → ∀ c ∈ text.toList, isForeignNumeric c = false) := by
  have built : (∃ id, new text = .ok id) ↔ validate text = .ok () := by
    constructor
    · rintro ⟨id,made⟩
      exact ((new_eq_ok text id).mp made).1
    · intro valid
      exact ⟨⟨text,valid⟩,(new_eq_ok text _).mpr ⟨valid,rfl⟩⟩
  constructor
  · rintro ⟨taken,_⟩ valid c member
    have inside := (grammar_iff text).mp (taken.mp (built.mpr valid))
    exact ((isGrammarChar_iff c).mp (inside.2 c member)).2
  · intro own
    refine ⟨?_,fun id made => ((new_eq_ok text id).mp made).2⟩
    rw [built,grammar_iff]
    constructor
    · intro valid
      refine ⟨valid,fun c member => (isGrammarChar_iff c).mpr ⟨?_,own valid c member⟩⟩
      exact ((validate_eq_ok text).mp valid).2.2 c member
    · intro inside
      exact inside.1

theorem follows_deserialize {E : Type} (custom : String → E) (text : String) :
    Follows (fun text => deserialize custom (.ok text)) text ↔ Follows new text := by
  have same : ∀ id, deserialize custom (.ok text) = .ok id ↔ new text = .ok id := by
    intro id
    change (new text).mapError (fun error => custom error.text) = .ok id ↔ new text = .ok id
    cases new text with
    | error error => simp [Except.mapError]
    | ok made => simp [Except.mapError]
  constructor
  · rintro ⟨taken,shown⟩
    exact ⟨by simpa only [same] using taken,fun id made => shown id ((same id).mpr made)⟩
  · rintro ⟨taken,shown⟩
    exact ⟨by simpa only [same] using taken,fun id made => shown id ((same id).mp made)⟩

/-- Every way to build an id follows the grammar on a text exactly when, given that its bytes are 3 to 36 and each of
its characters passes the check, none of them is a number outside ASCII. -/
theorem follows_grammar_iff {E : Type} (custom : String → E) (text : String) :
    (Follows new text ∧ Follows tryFrom text ∧ Follows fromStr text ∧
      Follows (fun text => deserialize custom (.ok text)) text) ↔
    (3 ≤ (utf8 text).length → (utf8 text).length ≤ 36 → (∀ c ∈ text.toList, isAllowed c = true) →
      ∀ c ∈ text.toList, isForeignNumeric c = false) := by
  have condition : Follows new text ↔ (3 ≤ (utf8 text).length → (utf8 text).length ≤ 36 →
      (∀ c ∈ text.toList, isAllowed c = true) → ∀ c ∈ text.toList, isForeignNumeric c = false) := by
    rw [follows_new,validate_eq_ok]
    simp only [and_imp]
  rw [follows_deserialize,← condition]
  constructor
  · intro all
    exact all.1
  · intro follows
    exact ⟨follows,follows,follows,follows⟩

/-- Two digits of another script are four bytes. -/
theorem arabicDigits_accepted :
    ¬Follows new "٣٣" ∧ (∃ id, new "٣٣" = .ok id ∧ id.display = "٣٣") ∧ grammar "٣٣" = false := by
  have valid : validate "٣٣" = .ok () := by decide +kernel
  have outside : grammar "٣٣" = false := by decide +kernel
  have made : new "٣٣" = .ok ⟨"٣٣",valid⟩ := (new_eq_ok _ _).mpr ⟨valid,rfl⟩
  refine ⟨fun follows => ?_,⟨_,made,rfl⟩,outside⟩
  have inside := follows.taken.mp ⟨_,made⟩
  rw [outside] at inside
  cases inside

end WorkflowId
end Warpdrive.Types
