import Mathlib.Data.Int.Log
import Mathlib.Data.Rat.Floor
import Mathlib.Tactic.Positivity
import VianiumVoip.Lib.Bytes

/-!
# Decimal numerals

* `decimal`, `decimalInt`: a number as text; `digitsValue_decimal` reads it back;
* `Double`: the values of an IEEE double but for NaN and the sign of zero, and `Double.ofRat`, the nearest one to a
  rational number, ties to even; up to 2^53 it is exact on integers (`Double.ofRat_intCast`);
* `Numeral`: the parts of a decimal literal with sign, fraction and exponent, and its value.
-/

namespace VianiumVoip.Lib

/-! ### Digits -/

def isDigit (c : UInt8) : Bool := 0x30 ≤ c && c ≤ 0x39

/-- The number that the digits denote. -/
def digitsValue (digits : Bytes) : ℕ := digits.foldl (fun n c => 10 * n + (c.toNat - 48)) 0

def decimal (n : ℕ) : Bytes := (Nat.toDigits 10 n).map fun c => c.toNat.toUInt8

def decimalInt (n : ℤ) : Bytes := if n < 0 then 0x2D :: decimal n.natAbs else decimal n.natAbs

theorem toNat_digit {c : Char} (h : c.isDigit = true) : (c.toNat.toUInt8).toNat = c.toNat := by
  have hle : c.toNat ≤ 57 := by
    simp only [Char.isDigit, Bool.and_eq_true, decide_eq_true_eq] at h
    exact UInt32.le_iff_toNat_le.1 h.2
  exact UInt8.toNat_ofNat_of_lt' (lt_of_le_of_lt hle (by decide))

theorem isDigit_of_mem_decimal {n : ℕ} {c : UInt8} (h : c ∈ decimal n) : isDigit c = true := by
  obtain ⟨d, hd, rfl⟩ := List.mem_map.1 h
  have hdigit : d.isDigit = true := Nat.isDigit_of_mem_toDigits (by decide) (by decide) hd
  have hnat := toNat_digit hdigit
  simp only [Char.isDigit, Bool.and_eq_true, decide_eq_true_eq] at hdigit
  simp only [isDigit, Bool.and_eq_true, decide_eq_true_eq, UInt8.le_iff_toNat_le, hnat]
  exact ⟨UInt32.le_iff_toNat_le.1 hdigit.1, UInt32.le_iff_toNat_le.1 hdigit.2⟩

theorem decimal_ne_nil (n : ℕ) : decimal n ≠ [] := by
  rw [decimal, ne_eq, List.map_eq_nil_iff]
  exact Nat.toDigits_ne_nil

@[simp] theorem digitsValue_decimal (n : ℕ) : digitsValue (decimal n) = n := by
  have hfold (digits : List Char) (hdigits : ∀ c ∈ digits, c.isDigit = true) (m : ℕ) :
      (digits.map fun c => c.toNat.toUInt8).foldl (fun n c => 10 * n + (c.toNat - 48)) m
        = Nat.ofDigitChars 10 digits m := by
    induction digits generalizing m with
    | nil => rfl
    | cons c digits ih =>
      rw [List.map_cons, List.foldl_cons, toNat_digit (hdigits c List.mem_cons_self), Nat.ofDigitChars_cons]
      exact ih (fun c hc => hdigits c (List.mem_cons_of_mem _ hc)) _
  rw [digitsValue, decimal,
    hfold _ fun c hc => Nat.isDigit_of_mem_toDigits (by decide) (by decide) hc, Nat.ofDigitChars_ten_toDigits]

/-! ### Doubles -/

/-- A finite double as the number that it is, or an infinity. -/
inductive Double
  | finite (value : ℚ)
  | infinite (negative : Bool)
  deriving DecidableEq

/-- The nearest integer, and of two that are equally near the even one. -/
def roundHalfEven (x : ℚ) : ℤ :=
  let below := ⌊x⌋
  if x - below < 1 / 2 then below
  else if 1 / 2 < x - below then below + 1
  else if below % 2 = 0 then below
  else below + 1

namespace Double

/-- The exponent of the last place: 53 bits from the first one on, but none below 2^(-1074). -/
def lastPlace (q : ℚ) : ℤ := max (Int.log 2 |q| - 52) (-1074)

/-- The nearest double. -/
def ofRat (q : ℚ) : Double :=
  let rounded := roundHalfEven (q / 2 ^ lastPlace q) * (2 : ℚ) ^ lastPlace q
  if 2 ^ 1024 ≤ |rounded| then .infinite (decide (q < 0)) else .finite rounded

/-- The conversion to an integer; the language leaves that of an infinity open. -/
def trunc : Double → ℤ
  | finite value => if 0 ≤ value then ⌊value⌋ else ⌈value⌉
  | infinite _ => 0

theorem roundHalfEven_intCast (n : ℤ) : roundHalfEven n = n := by
  simp [roundHalfEven]

/-- An integer of 53 bits needs no place behind the point. -/
theorem lastPlace_intCast {n : ℤ} (h : |n| < 2 ^ 53) : lastPlace n ≤ 0 := by
  have hnat : |(n : ℚ)| = (n.natAbs : ℚ) := by rw [Nat.cast_natAbs, Int.cast_abs]
  have hlt : n.natAbs < 2 ^ 53 := by
    zify
    exact h
  have hlog : Nat.log 2 n.natAbs < 53 := by
    rcases Nat.eq_zero_or_pos n.natAbs with hzero | hpos
    · rw [hzero, Nat.log_zero_right]
      decide
    · exact Nat.log_lt_of_lt_pow hpos.ne' hlt
  rw [lastPlace, hnat, Int.log_natCast]
  omega

/-- **Integers of 53 bits are doubles.** -/
theorem ofRat_intCast {n : ℤ} (h : |n| < 2 ^ 53) : ofRat n = finite n := by
  obtain ⟨k, hk⟩ := Int.eq_ofNat_of_zero_le (neg_nonneg.2 (lastPlace_intCast h))
  have hplace : lastPlace n = -(k : ℤ) := by omega
  have hscaled : (n : ℚ) / 2 ^ lastPlace n = ((n * 2 ^ k : ℤ) : ℚ) := by
    rw [hplace, zpow_neg, div_inv_eq_mul, zpow_natCast]
    push_cast
    rfl
  have hrounded : (roundHalfEven ((n : ℚ) / 2 ^ lastPlace n) : ℚ) * 2 ^ lastPlace n = n := by
    rw [hscaled, roundHalfEven_intCast, hplace, zpow_neg, zpow_natCast]
    push_cast
    exact mul_inv_cancel_right₀ (by positivity) _
  have hsmall : ¬ (2 : ℚ) ^ 1024 ≤ |(n : ℚ)| := by
    rw [not_le, ← Int.cast_abs]
    calc ((|n| : ℤ) : ℚ) < ((2 ^ 53 : ℤ) : ℚ) := Int.cast_lt.2 h
      _ ≤ 2 ^ 1024 := by
        rw [Int.cast_pow]
        exact pow_le_pow_right₀ (by norm_num : (1 : ℚ) ≤ 2) (by norm_num : 53 ≤ 1024)
  unfold ofRat
  simp only [hrounded]
  rw [if_neg hsmall]

@[simp] theorem trunc_intCast (n : ℤ) : trunc (finite n) = n := by
  rw [trunc, Int.floor_intCast, Int.ceil_intCast, ite_self]

end Double

/-! ### Literals -/

/-- A decimal literal, in its parts; a literal may have an exponent sign without digits, which then counts as no
exponent. -/
structure Numeral where
  negative : Bool := false
  whole : Bytes := []
  fraction : Bytes := []
  exponentNegative : Bool := false
  exponent : Bytes := []
  deriving DecidableEq

namespace Numeral

/-- The number that the literal denotes. -/
def value (numeral : Numeral) : ℚ :=
  let magnitude := (digitsValue (numeral.whole ++ numeral.fraction) : ℚ)
  let exponent : ℤ :=
    (if numeral.exponentNegative then -(digitsValue numeral.exponent : ℤ) else digitsValue numeral.exponent)
      - numeral.fraction.length
  (if numeral.negative then -magnitude else magnitude) * 10 ^ exponent

/-- `atof`, on the text of the literal. -/
def atof (numeral : Numeral) : Double := Double.ofRat numeral.value

/-- The literal of an integer. -/
def ofInt (n : ℤ) : Numeral := { negative := decide (n < 0), whole := decimal n.natAbs }

@[simp] theorem value_ofInt (n : ℤ) : (ofInt n).value = n := by
  have hwhole : digitsValue ((ofInt n).whole ++ (ofInt n).fraction) = n.natAbs := by
    show digitsValue (decimal n.natAbs ++ []) = n.natAbs
    rw [List.append_nil, digitsValue_decimal]
  have hexponent : (if (ofInt n).exponentNegative then -(digitsValue (ofInt n).exponent : ℤ)
      else digitsValue (ofInt n).exponent) - (ofInt n).fraction.length = 0 := rfl
  have hnegative : (ofInt n).negative = decide (n < 0) := rfl
  unfold value
  simp only [hwhole, hexponent, hnegative, zpow_zero, mul_one]
  rcases lt_or_ge n 0 with hlt | hge
  · rw [if_pos (decide_eq_true hlt), Nat.cast_natAbs, abs_of_neg hlt, Int.cast_neg, neg_neg]
  · rw [if_neg (by rw [decide_eq_true_eq]; omega), Nat.cast_natAbs, abs_of_nonneg hge]

theorem atof_ofInt {n : ℤ} (h : |n| < 2 ^ 53) : (ofInt n).atof = .finite n := by
  rw [atof, value_ofInt, Double.ofRat_intCast h]

end Numeral

end VianiumVoip.Lib
