import Mathlib.Data.Nat.Digits.Defs
import VianiumVoip.Lib.Bytes

/-!
# Hexadecimal numerals

Digits in either case are read by `hexDigit?`, and `hexadecimal` writes a number with small letters and no zeros in
front; `hexValue_hexadecimal` reads it back.
-/

namespace VianiumVoip.Lib

/-- The value of a hexadecimal digit. -/
def hexDigit? (c : UInt8) : Option ℕ :=
  if 0x30 ≤ c ∧ c ≤ 0x39 then some (c.toNat - 0x30)
  else if 0x61 ≤ c ∧ c ≤ 0x66 then some (10 + (c.toNat - 0x61))
  else if 0x41 ≤ c ∧ c ≤ 0x46 then some (10 + (c.toNat - 0x41))
  else none

def isHexDigit (c : UInt8) : Bool := (hexDigit? c).isSome

/-- The number that the digits denote. -/
def hexValue (digits : Bytes) : ℕ := digits.foldl (fun n c => 16 * n + (hexDigit? c).getD 0) 0

def hexadecimal (n : ℕ) : Bytes := (Nat.toDigits 16 n).map fun c => c.toNat.toUInt8

theorem hexDigit?_lt {c : UInt8} {d : ℕ} (h : hexDigit? c = some d) : d < 16 := by
  unfold hexDigit? at h
  simp only [UInt8.le_iff_toNat_le, UInt8.reduceToNat] at h
  split_ifs at h <;> cases h <;> omega

theorem hexDigit?_digitChar {d : ℕ} (h : d < 16) : hexDigit? d.digitChar.toNat.toUInt8 = some d := by
  have hall : ∀ d : Fin 16, hexDigit? (d : ℕ).digitChar.toNat.toUInt8 = some (d : ℕ) := by decide
  exact hall ⟨d, h⟩

theorem hexValue_concat (digits : Bytes) (c : UInt8) :
    hexValue (digits ++ [c]) = 16 * hexValue digits + (hexDigit? c).getD 0 := by
  simp [hexValue]

theorem hexadecimal_of_lt {n : ℕ} (h : n < 16) : hexadecimal n = [n.digitChar.toNat.toUInt8] := by
  rw [hexadecimal, Nat.toDigits_of_lt_base h, List.map_singleton]

theorem hexadecimal_of_le {n : ℕ} (h : 16 ≤ n) :
    hexadecimal n = hexadecimal (n / 16) ++ [(n % 16).digitChar.toNat.toUInt8] := by
  rw [hexadecimal, Nat.toDigits_of_base_le (by decide) h, List.map_append, List.map_singleton, hexadecimal]

/-- **A number is read back.** -/
@[simp] theorem hexValue_hexadecimal (n : ℕ) : hexValue (hexadecimal n) = n := by
  induction n using Nat.strong_induction_on with
  | _ n ih =>
    rcases lt_or_ge n 16 with h | h
    · rw [hexadecimal_of_lt h, hexValue, List.foldl_cons, hexDigit?_digitChar h, List.foldl_nil, Option.getD_some]
      omega
    · have hdigit : hexDigit? (n % 16).digitChar.toNat.toUInt8 = some (n % 16) := hexDigit?_digitChar (by omega)
      rw [hexadecimal_of_le h, hexValue_concat, ih _ (by omega), hdigit, Option.getD_some]
      omega

theorem isHexDigit_of_mem_hexadecimal {n : ℕ} {c : UInt8} (h : c ∈ hexadecimal n) : isHexDigit c = true := by
  induction n using Nat.strong_induction_on with
  | _ n ih =>
    rcases lt_or_ge n 16 with hn | hn
    · rw [hexadecimal_of_lt hn, List.mem_singleton] at h
      rw [h, isHexDigit, hexDigit?_digitChar hn, Option.isSome_some]
    · rw [hexadecimal_of_le hn, List.mem_append, List.mem_singleton] at h
      rcases h with h | h
      · exact ih _ (by omega) h
      · rw [h, isHexDigit, hexDigit?_digitChar (by omega), Option.isSome_some]

theorem hexadecimal_ne_nil (n : ℕ) : hexadecimal n ≠ [] := by
  rw [hexadecimal, ne_eq, List.map_eq_nil_iff]
  exact Nat.toDigits_ne_nil

theorem length_hexadecimal {n k : ℕ} (hk : 0 < k) (h : n < 16 ^ k) : (hexadecimal n).length ≤ k := by
  rw [hexadecimal, List.length_map]
  exact Nat.toDigits_length 16 n k hk h

end VianiumVoip.Lib
