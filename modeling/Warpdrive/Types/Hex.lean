import Warpdrive.Types.Id

/-! Hexadecimal text. Equal texts are of equal bytes, and no digit is a slash. -/
namespace Warpdrive.Types

def ServiceId.display (self : ServiceId) : String := hexEncode self.inner.toList

def ComponentDigest.display (self : ComponentDigest) : String := hexEncode self.inner.toList

def hexDigits (byte : UInt8) : List Char := [hexDigit (byte / 16),hexDigit (byte % 16)]

def hexValue (digit : Char) : Nat :=
  if isAsciiDigit digit then digit.toNat - 48 else digit.toNat - 87

theorem hexDigits_value (byte : UInt8) : (hexDigits byte).foldl (fun high digit => 16 * high + hexValue digit) 0 =
    byte.toNat := by
  have all : ∀ n : Fin 256, (hexDigits (UInt8.ofNat n)).foldl (fun high digit => 16 * high + hexValue digit) 0 =
      n := by
    decide +kernel
  have value := all ⟨byte.toNat,byte.toNat_lt⟩
  rwa [UInt8.ofNat_toNat] at value

theorem hexDigits_no_slash (byte : UInt8) : '/' ∉ hexDigits byte := by
  have all : ∀ n : Fin 256, '/' ∉ hexDigits (UInt8.ofNat n) := by
    decide +kernel
  have absent := all ⟨byte.toNat,byte.toNat_lt⟩
  rwa [UInt8.ofNat_toNat] at absent

theorem hexEncode_injective : Function.Injective hexEncode := by
  have digits : ∀ first second : List UInt8, first.flatMap hexDigits = second.flatMap hexDigits → first = second := by
    intro first
    induction first with
    | nil =>
      intro second same
      cases second with
      | nil => rfl
      | cons byte rest => simp [hexDigits] at same
    | cons byte rest ih =>
      intro second same
      cases second with
      | nil => simp [hexDigits] at same
      | cons other others =>
        rw [List.flatMap_cons,List.flatMap_cons] at same
        obtain ⟨now,later⟩ := List.append_inj same rfl
        have equal : byte = other := by
          rw [← UInt8.toNat_inj,← hexDigits_value,← hexDigits_value other,now]
        rw [equal,ih others later]
  intro first second same
  exact digits first second (String.ofList_inj.mp same)

theorem hexEncode_no_slash (bytes : List UInt8) : '/' ∉ (hexEncode bytes).toList := by
  rw [hexEncode,String.toList_ofList,List.mem_flatMap]
  rintro ⟨byte,_,member⟩
  exact hexDigits_no_slash byte member

theorem ServiceId.display_injective : Function.Injective ServiceId.display := by
  intro first second same
  have inner := FixedBytes.toList_injective (hexEncode_injective same)
  cases first
  cases second
  exact congrArg ServiceId.mk inner

end Warpdrive.Types
