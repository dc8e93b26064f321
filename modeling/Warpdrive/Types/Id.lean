import Warpdrive.Types.Collections

/-! Identifiers of the types crate: chain keys (`id/chain.rs`), service ids
(`id/hash.rs`) and workflow ids (`id/workflow.rs`). A value exists only when the
constructor of the source accepts its text, so the checks are fields. A service id
is a SHA-256 digest. `WorkflowId::validate` counts bytes (`str::len`) and admits
every character that `char::is_numeric` admits: the Unicode categories Nd, Nl and
No, here as ranges of code points. -/
namespace Warpdrive.Types

/-- The bytes of a string, `str::as_bytes`. -/
def utf8 (text : String) : List UInt8 := text.toUTF8.data.toList

theorem utf8_injective : Function.Injective utf8 := by
  intro first second same
  apply String.toByteArray_inj.mp
  apply ByteArray.ext
  exact Array.toList_inj.mp same

instance stringOrder : IsStrictTotalOrder String (· < ·) where
  irrefl := String.lt_irrefl
  trans _ _ _ := String.lt_trans
  trichotomous _ _ below above := String.le_antisymm (String.not_lt.mp above) (String.not_lt.mp below)

def isAsciiLowercase (c : Char) : Bool := 'a' ≤ c && c ≤ 'z'

def isAsciiUppercase (c : Char) : Bool := 'A' ≤ c && c ≤ 'Z'

def isAsciiDigit (c : Char) : Bool := '0' ≤ c && c ≤ '9'

/-- `NAMESPACE_REGEX`: `^[-a-z0-9]{1,32}$`. -/
def namespaceRegex (text : String) : Bool :=
  1 ≤ text.length && text.length ≤ 32 &&
    text.toList.all (fun c => c == '-' || isAsciiLowercase c || isAsciiDigit c)

/-- `ID_REGEX`: `^[-_a-zA-Z0-9]{1,32}$`. -/
def idRegex (text : String) : Bool :=
  1 ≤ text.length && text.length ≤ 32 &&
    text.toList.all (fun c => c == '-' || c == '_' || isAsciiLowercase c || isAsciiUppercase c ||
      isAsciiDigit c)

structure ChainKeyNamespace where
  text : String
  valid : namespaceRegex text = true
  deriving DecidableEq

def ChainKeyNamespace.evm : ChainKeyNamespace := ⟨"evm",by decide⟩

def ChainKeyNamespace.cosmos : ChainKeyNamespace := ⟨"cosmos",by decide⟩

def ChainKeyNamespace.stellar : ChainKeyNamespace := ⟨"stellar",by decide⟩

def ChainKeyNamespace.dev : ChainKeyNamespace := ⟨"dev",by decide⟩

structure ChainKeyId where
  text : String
  valid : idRegex text = true
  deriving DecidableEq

def anvilId : ChainKeyId := ⟨"31337",by decide⟩

def testnetId : ChainKeyId := ⟨"testnet",by decide⟩

structure ChainKey where
  keyNamespace : ChainKeyNamespace
  id : ChainKeyId
  deriving DecidableEq

def ChainKey.display (self : ChainKey) : String := self.keyNamespace.text ++ ":" ++ self.id.text

inductive ChainKeyError
  | formatError
  | invalidNamespace
  | invalidId
  deriving DecidableEq

def ChainKeyError.text : ChainKeyError → String
  | .formatError => "ChainKey must follow the CAIP-2-like format of 'namespace:id'"
  | .invalidNamespace => "Invalid namespace component"
  | .invalidId => "Invalid id component"

def ChainKeyNamespace.new (text : String) : Except ChainKeyError ChainKeyNamespace :=
  if valid : namespaceRegex text = true then .ok ⟨text,valid⟩ else .error .invalidNamespace

def ChainKeyId.new (text : String) : Except ChainKeyError ChainKeyId :=
  if valid : idRegex text = true then .ok ⟨text,valid⟩ else .error .invalidId

/-- The captures of `CHAIN_KEY_REGEX`, `^([-a-z0-9]{1,32}):([-_a-zA-Z0-9]{1,32})$`. Neither part has a colon. -/
def chainKeyCaptures (text : String) : Option (String × String) :=
  match text.toList.dropWhile (· ≠ ':') with
  | [] => none
  | _::rest =>
    let keyNamespace := String.ofList (text.toList.takeWhile (· ≠ ':'))
    let id := String.ofList rest
    if namespaceRegex keyNamespace && idRegex id then some (keyNamespace,id) else none

def ChainKey.new (text : String) : Except ChainKeyError ChainKey := do
  let captures ← (chainKeyCaptures text).elim (.error .formatError) .ok
  let keyNamespace ← ChainKeyNamespace.new captures.1
  let id ← ChainKeyId.new captures.2
  return ⟨keyNamespace,id⟩

theorem namespaceRegex_no_colon (text : String) (valid : namespaceRegex text = true) :
    ∀ c ∈ text.toList, decide (c ≠ ':') = true := by
  intro c member
  unfold namespaceRegex at valid
  rw [Bool.and_eq_true,List.all_eq_true] at valid
  have allowed := valid.2 c member
  refine decide_eq_true ?_
  rintro rfl
  exact absurd allowed (by decide)

theorem chainKeyCaptures_eq_some (text keyNamespace id : String) :
    chainKeyCaptures text = some (keyNamespace,id) ↔
      namespaceRegex keyNamespace = true ∧ idRegex id = true ∧ keyNamespace ++ ":" ++ id = text := by
  unfold chainKeyCaptures
  constructor
  · intro captured
    split at captured
    next => cases captured
    next colon rest tail =>
      have stops := List.head?_dropWhile_not (· ≠ ':') text.toList
      rw [tail] at stops
      have found : colon = ':' := by simpa using stops
      dsimp only at captured
      split at captured
      next valid =>
        cases captured
        obtain ⟨first,second⟩ := (Bool.and_eq_true _ _).mp valid
        refine ⟨first,second,String.toList_inj.mp ?_⟩
        have whole : text.toList.takeWhile (· ≠ ':') ++ text.toList.dropWhile (· ≠ ':') = text.toList :=
          List.takeWhile_append_dropWhile
        rw [tail,found] at whole
        simpa [String.toList_append] using whole
      next => cases captured
  · rintro ⟨first,second,rfl⟩
    have plain := namespaceRegex_no_colon keyNamespace first
    have chars : (keyNamespace ++ ":" ++ id).toList = keyNamespace.toList ++ ':'::id.toList := by
      simp [String.toList_append]
    rw [chars,List.dropWhile_append_of_pos plain,List.takeWhile_append_of_pos plain]
    simp [first,second]

theorem ChainKey.new_of_captures (text : String) (keyNamespace : ChainKeyNamespace) (id : ChainKeyId)
    (captured : chainKeyCaptures text = some (keyNamespace.text,id.text)) :
    ChainKey.new text = .ok ⟨keyNamespace,id⟩ := by
  have first : ChainKeyNamespace.new keyNamespace.text = .ok keyNamespace := dif_pos keyNamespace.valid
  have second : ChainKeyId.new id.text = .ok id := dif_pos id.valid
  simp only [ChainKey.new,captured,Option.elim_some,bind,Except.bind,first,second]
  rfl

/-- A text is taken exactly when it is that of a chain key. -/
theorem ChainKey.new_eq_ok (text : String) (key : ChainKey) : ChainKey.new text = .ok key ↔ key.display = text := by
  constructor
  · intro made
    cases captured : chainKeyCaptures text with
    | none =>
      rw [ChainKey.new,captured] at made
      cases made
    | some captures =>
      obtain ⟨first,second,whole⟩ := (chainKeyCaptures_eq_some text captures.1 captures.2).mp captured
      rw [ChainKey.new_of_captures text ⟨captures.1,first⟩ ⟨captures.2,second⟩ captured] at made
      cases made
      exact whole
  · rintro rfl
    exact ChainKey.new_of_captures key.display key.keyNamespace key.id
      ((chainKeyCaptures_eq_some _ _ _).mpr ⟨key.keyNamespace.valid,key.id.valid,rfl⟩)

structure ServiceId where
  inner : FixedBytes 32
  deriving DecidableEq

structure ComponentDigest where
  inner : FixedBytes 32
  deriving DecidableEq

def numericRanges : List (Nat × Nat) :=
  [(0x30,0x39),(0xB2,0xB3),(0xB9,0xB9),(0xBC,0xBE),(0x660,0x669),(0x6F0,0x6F9),(0x7C0,0x7C9),
    (0x966,0x96F),(0x9E6,0x9EF),(0x9F4,0x9F9),(0xA66,0xA6F),(0xAE6,0xAEF),(0xB66,0xB6F),(0xB72,0xB77),
    (0xBE6,0xBF2),(0xC66,0xC6F),(0xC78,0xC7E),(0xCE6,0xCEF),(0xD58,0xD5E),(0xD66,0xD78),(0xDE6,0xDEF),
    (0xE50,0xE59),(0xED0,0xED9),(0xF20,0xF33),(0x1040,0x1049),(0x1090,0x1099),(0x1369,0x137C),
    (0x16EE,0x16F0),(0x17E0,0x17E9),(0x17F0,0x17F9),(0x1810,0x1819),(0x1946,0x194F),(0x19D0,0x19DA),
    (0x1A80,0x1A89),(0x1A90,0x1A99),(0x1B50,0x1B59),(0x1BB0,0x1BB9),(0x1C40,0x1C49),(0x1C50,0x1C59),
    (0x2070,0x2070),(0x2074,0x2079),(0x2080,0x2089),(0x2150,0x2182),(0x2185,0x2189),(0x2460,0x249B),
    (0x24EA,0x24FF),(0x2776,0x2793),(0x2CFD,0x2CFD),(0x3007,0x3007),(0x3021,0x3029),(0x3038,0x303A),
    (0x3192,0x3195),(0x3220,0x3229),(0x3248,0x324F),(0x3251,0x325F),(0x3280,0x3289),(0x32B1,0x32BF),
    (0xA620,0xA629),(0xA6E6,0xA6EF),(0xA830,0xA835),(0xA8D0,0xA8D9),(0xA900,0xA909),(0xA9D0,0xA9D9),
    (0xA9F0,0xA9F9),(0xAA50,0xAA59),(0xABF0,0xABF9),(0xFF10,0xFF19),(0x10107,0x10133),(0x10140,0x10178),
    (0x1018A,0x1018B),(0x102E1,0x102FB),(0x10320,0x10323),(0x10341,0x10341),(0x1034A,0x1034A),
    (0x103D1,0x103D5),(0x104A0,0x104A9),(0x10858,0x1085F),(0x10879,0x1087F),(0x108A7,0x108AF),
    (0x108FB,0x108FF),(0x10916,0x1091B),(0x109BC,0x109BD),(0x109C0,0x109CF),(0x109D2,0x109FF),
    (0x10A40,0x10A48),(0x10A7D,0x10A7E),(0x10A9D,0x10A9F),(0x10AEB,0x10AEF),(0x10B58,0x10B5F),
    (0x10B78,0x10B7F),(0x10BA9,0x10BAF),(0x10CFA,0x10CFF),(0x10D30,0x10D39),(0x10D40,0x10D49),
    (0x10E60,0x10E7E),(0x10F1D,0x10F26),(0x10F51,0x10F54),(0x10FC5,0x10FCB),(0x11052,0x1106F),
    (0x110F0,0x110F9),(0x11136,0x1113F),(0x111D0,0x111D9),(0x111E1,0x111F4),(0x112F0,0x112F9),
    (0x11450,0x11459),(0x114D0,0x114D9),(0x11650,0x11659),(0x116C0,0x116C9),(0x116D0,0x116E3),
    (0x11730,0x1173B),(0x118E0,0x118F2),(0x11950,0x11959),(0x11BF0,0x11BF9),(0x11C50,0x11C6C),
    (0x11D50,0x11D59),(0x11DA0,0x11DA9),(0x11DE0,0x11DE9),(0x11F50,0x11F59),(0x11FC0,0x11FD4),
    (0x12400,0x1246E),(0x16130,0x16139),(0x16A60,0x16A69),(0x16AC0,0x16AC9),(0x16B50,0x16B59),
    (0x16B5B,0x16B61),(0x16D70,0x16D79),(0x16E80,0x16E96),(0x1CCF0,0x1CCF9),(0x1D2C0,0x1D2D3),
    (0x1D2E0,0x1D2F3),(0x1D360,0x1D378),(0x1D7CE,0x1D7FF),(0x1E140,0x1E149),(0x1E2F0,0x1E2F9),
    (0x1E4F0,0x1E4F9),(0x1E5F1,0x1E5FA),(0x1E8C7,0x1E8CF),(0x1E950,0x1E959),(0x1EC71,0x1ECAB),
    (0x1ECAD,0x1ECAF),(0x1ECB1,0x1ECB4),(0x1ED01,0x1ED2D),(0x1ED2F,0x1ED3D),(0x1F100,0x1F10C),
    (0x1FBF0,0x1FBF9)]

/-- `char::is_numeric`. -/
def isNumeric (c : Char) : Bool := numericRanges.any (fun range => range.1 ≤ c.toNat && c.toNat ≤ range.2)

inductive WorkflowIdError
  | lengthError
  | charError
  deriving DecidableEq

def WorkflowIdError.text : WorkflowIdError → String
  | .lengthError => "ID must be between 3 and 36 characters"
  | .charError => "ID must be lowercase alphanumeric"

def WorkflowId.validate (id : String) : Except WorkflowIdError Unit :=
  if (utf8 id).length < 3 || (utf8 id).length > 36 then .error .lengthError
  else if !id.toList.all (fun c => isAsciiLowercase c || isNumeric c || c == '_' || c == '-') then
    .error .charError
  else .ok ()

structure WorkflowId where
  text : String
  valid : WorkflowId.validate text = .ok ()
  deriving DecidableEq

namespace WorkflowId

def new (id : String) : Except WorkflowIdError WorkflowId :=
  match valid : validate id with
  | .error error => .error error
  | .ok () => .ok ⟨id,valid⟩

def asBytes (self : WorkflowId) : List UInt8 := utf8 self.text

instance : LT WorkflowId := ⟨fun a b => a.text < b.text⟩

instance (a b : WorkflowId) : Decidable (a < b) := inferInstanceAs (Decidable (a.text < b.text))

theorem text_injective : Function.Injective text := by
  intro a b same
  cases a
  cases b
  simp only at same
  subst same
  rfl

theorem asBytes_injective : Function.Injective asBytes := by
  intro a b same
  apply text_injective
  exact utf8_injective same

instance : IsStrictTotalOrder WorkflowId (· < ·) where
  irrefl a := String.lt_irrefl a.text
  trans _ _ _ := String.lt_trans
  trichotomous _ _ below above :=
    text_injective (String.le_antisymm (String.not_lt.mp above) (String.not_lt.mp below))

end WorkflowId
end Warpdrive.Types
