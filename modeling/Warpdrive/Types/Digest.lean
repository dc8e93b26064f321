import Warpdrive.Types.ChainConfig
import Warpdrive.Types.Hex

/-! Digests of stored data (`id/hash.rs`): SHA-256, shown in hexadecimal and read back. The text is
read by `const_hex`, which admits a leading `0x` and digits of either case. -/
namespace Warpdrive.Types

/-- `AnyDigest`, the general purpose digest type. -/
structure AnyDigest where
  inner : FixedBytes 32
  deriving DecidableEq

def AnyDigest.hash (prim : IdPrimitives) (bytes : List UInt8) : AnyDigest := ⟨prim.sha256 bytes⟩

def AnyDigest.display (self : AnyDigest) : String := hexEncode self.inner.toList

def ComponentDigest.hash (prim : IdPrimitives) (bytes : List UInt8) : ComponentDigest := ⟨prim.sha256 bytes⟩

def ComponentDigest.toAny (self : ComponentDigest) : AnyDigest := ⟨self.inner⟩

inductive FromHexError
  | oddLength
  | invalidStringLength
  | invalidHexCharacter (character : Char) (index : Nat)
  deriving DecidableEq

/-- The value of a hexadecimal digit of either case. -/
def hexNibble (byte : UInt8) : Option UInt8 :=
  if 48 ≤ byte ∧ byte ≤ 57 then some (byte - 48)
  else if 97 ≤ byte ∧ byte ≤ 102 then some (byte - 87)
  else if 65 ≤ byte ∧ byte ≤ 70 then some (byte - 55)
  else none

def decodeDigits : Nat → List UInt8 → Except FromHexError (List UInt8)
  | index,high::low::rest =>
    match hexNibble high with
    | none => .error (.invalidHexCharacter (Char.ofNat high.toNat) index)
    | some upper =>
      match hexNibble low with
      | none => .error (.invalidHexCharacter (Char.ofNat low.toNat) (index + 1))
      | some lower => (decodeDigits (index + 2) rest).map (fun bytes => (16 * upper + lower)::bytes)
  | _,_ => .ok []

/-- `strip_prefix`: the input without its leading `0x`. -/
def stripMarker : List UInt8 → List UInt8
  | 48::120::rest => rest
  | input => input

def decodeToSlice (n : Nat) (input : List UInt8) : Except FromHexError (FixedBytes n) :=
  if input.length % 2 ≠ 0 then .error .oddLength
  else if (stripMarker input).length / 2 ≠ n then .error .invalidStringLength
  else
    match decodeDigits 0 (stripMarker input) with
    | .error error => .error error
    | .ok bytes =>
      match FixedBytes.ofList? n bytes with
      | none => .error .invalidStringLength
      | some output => .ok output

def AnyDigest.fromStr (text : String) : Except FromHexError AnyDigest :=
  (decodeToSlice 32 (utf8 text)).map AnyDigest.mk

def ComponentDigest.fromStr (text : String) : Except FromHexError ComponentDigest :=
  (decodeToSlice 32 (utf8 text)).map ComponentDigest.mk

theorem utf8_ofList (chars : List Char) : utf8 (String.ofList chars) = chars.flatMap String.utf8EncodeChar := by
  unfold utf8
  change (String.ofList chars).toByteArray.data.toList = _
  rw [String.toByteArray_ofList]
  induction chars with
  | nil => simp
  | cons char rest ih =>
    rw [List.utf8Encode_cons,List.utf8Encode_singleton,ByteArray.data_append,Array.toList_append,ih,
      List.flatMap_cons]
    simp

def digitByte (nibble : UInt8) : UInt8 := if nibble < 10 then 48 + nibble else 87 + nibble

theorem utf8_hexDigits (byte : UInt8) :
    (hexDigits byte).flatMap String.utf8EncodeChar = [digitByte (byte / 16),digitByte (byte % 16)] := by
  have all : ∀ n : Fin 256, (hexDigits (UInt8.ofNat n)).flatMap String.utf8EncodeChar =
      [digitByte (UInt8.ofNat n / 16),digitByte (UInt8.ofNat n % 16)] := by
    decide +kernel
  have value := all ⟨byte.toNat,byte.toNat_lt⟩
  rwa [UInt8.ofNat_toNat] at value

theorem utf8_hexEncode (bytes : List UInt8) :
    utf8 (hexEncode bytes) = bytes.flatMap (fun byte => [digitByte (byte / 16),digitByte (byte % 16)]) := by
  unfold hexEncode
  rw [utf8_ofList,List.flatMap_assoc]
  congr 1
  funext byte
  exact utf8_hexDigits byte

theorem hexNibble_digitByte (byte : UInt8) :
    hexNibble (digitByte (byte / 16)) = some (byte / 16) ∧ hexNibble (digitByte (byte % 16)) = some (byte % 16) ∧
      16 * (byte / 16) + byte % 16 = byte ∧ digitByte (byte % 16) ≠ 120 := by
  have all : ∀ n : Fin 256, hexNibble (digitByte (UInt8.ofNat n / 16)) = some (UInt8.ofNat n / 16) ∧
      hexNibble (digitByte (UInt8.ofNat n % 16)) = some (UInt8.ofNat n % 16) ∧
        16 * (UInt8.ofNat n / 16) + UInt8.ofNat n % 16 = UInt8.ofNat n ∧ digitByte (UInt8.ofNat n % 16) ≠ 120 := by
    decide +kernel
  have value := all ⟨byte.toNat,byte.toNat_lt⟩
  rwa [UInt8.ofNat_toNat] at value

theorem decodeDigits_encoded (index : Nat) (bytes : List UInt8) :
    decodeDigits index (bytes.flatMap (fun byte => [digitByte (byte / 16),digitByte (byte % 16)])) = .ok bytes := by
  induction bytes generalizing index with
  | nil => rfl
  | cons byte rest ih =>
    obtain ⟨high,low,whole,_⟩ := hexNibble_digitByte byte
    rw [List.flatMap_cons,List.cons_append,List.cons_append,List.nil_append,decodeDigits,high,low]
    dsimp only
    rw [ih (index + 2)]
    simp [Except.map,whole]

/-- A digit of an encoded byte is no `x`, so nothing is taken for a marker. -/
theorem stripMarker_encoded (bytes : List UInt8) :
    stripMarker (bytes.flatMap (fun byte => [digitByte (byte / 16),digitByte (byte % 16)])) =
      bytes.flatMap (fun byte => [digitByte (byte / 16),digitByte (byte % 16)]) := by
  cases bytes with
  | nil => rfl
  | cons byte rest =>
    have differ := (hexNibble_digitByte byte).2.2.2
    rw [List.flatMap_cons,List.cons_append,List.cons_append,List.nil_append]
    unfold stripMarker
    split
    · next same =>
      simp only [List.cons.injEq] at same
      exact absurd same.2.1 differ
    · rfl

theorem decodeToSlice_hexEncode {n : Nat} (bytes : FixedBytes n) :
    decodeToSlice n (utf8 (hexEncode bytes.toList)) = .ok bytes := by
  have encoded : (bytes.toList.flatMap (fun byte => [digitByte (byte / 16),digitByte (byte % 16)])).length = 2 * n := by
    simp [bytes.size,Nat.mul_comm]
  unfold decodeToSlice
  rw [utf8_hexEncode,if_neg (by omega),stripMarker_encoded,if_neg (by omega),decodeDigits_encoded]
  simp [FixedBytes.ofList?,bytes.size]

theorem AnyDigest.fromStr_display (digest : AnyDigest) : AnyDigest.fromStr digest.display = .ok digest := by
  unfold fromStr display
  rw [decodeToSlice_hexEncode]
  rfl

theorem ComponentDigest.fromStr_display (digest : ComponentDigest) : fromStr digest.display = .ok digest := by
  unfold fromStr display
  rw [decodeToSlice_hexEncode]
  rfl

end Warpdrive.Types
