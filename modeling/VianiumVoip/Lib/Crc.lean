import Mathlib.Algebra.Group.Nat.Defs
import Mathlib.Data.Nat.Init
import Mathlib.Logic.Function.Iterate
import Mathlib.Tactic.Set

/-!
# Reflected cyclic redundancy checks

A register of `w` bits into which the bits of a message are shifted, the lowest bit of each byte first; the polynomial
is taken in for each bit that falls out.  This is linear in the register (`shift_xor`), so that the bits of several
steps can be put in at once (`foldl_step`), and what becomes of the low bits can be looked up in a table
(`iterate_shift_split`).
-/

namespace VianiumVoip.Lib.Crc

variable {w : ℕ} (poly : BitVec w)

/-- One bit falls out of the register. -/
def shift (c : BitVec w) : BitVec w := if c.getLsbD 0 then poly ^^^ (c >>> 1) else c >>> 1

/-- One bit of the message. -/
def step (c : BitVec w) (bit : Bool) : BitVec w := shift poly (c ^^^ (BitVec.ofBool bit).setWidth w)

/-- The low bits of a word, the lowest one first. -/
def lowBits : (k : ℕ) → BitVec w → List Bool
  | 0, _ => []
  | k + 1, x => x.getLsbD 0 :: lowBits k (x >>> 1)

variable {poly} {k : ℕ}

theorem shift_of_even {c : BitVec w} (h : c.getLsbD 0 = false) : shift poly c = c >>> 1 := by
  rw [shift, if_neg (by rw [h]; exact Bool.false_ne_true)]

/-- **The register is linear.** -/
theorem shift_xor (x y : BitVec w) : shift poly (x ^^^ y) = shift poly x ^^^ shift poly y := by
  have hcancel (a b : BitVec w) : poly ^^^ a ^^^ (poly ^^^ b) = a ^^^ b := by
    rw [BitVec.xor_comm poly a, BitVec.xor_assoc, ← BitVec.xor_assoc poly poly, BitVec.xor_self, BitVec.zero_xor]
  simp only [shift, BitVec.getLsbD_xor, BitVec.ushiftRight_xor_distrib]
  cases x.getLsbD 0 <;> cases y.getLsbD 0
  · rfl
  · simp only [Bool.false_xor, Bool.false_eq_true, if_true, if_false]
    rw [← BitVec.xor_assoc, ← BitVec.xor_assoc, BitVec.xor_comm poly]
  · simp only [Bool.xor_false, Bool.false_eq_true, if_true, if_false]
    rw [BitVec.xor_assoc]
  · simp only [Bool.xor_self, Bool.false_eq_true, if_true, if_false]
    rw [hcancel]

theorem iterate_shift_xor (k : ℕ) (x y : BitVec w) :
    (shift poly)^[k] (x ^^^ y) = (shift poly)^[k] x ^^^ (shift poly)^[k] y := by
  induction k generalizing x y with
  | zero => rfl
  | succ k ih =>
    rw [Function.iterate_succ_apply, shift_xor, ih, Function.iterate_succ_apply, Function.iterate_succ_apply]

theorem iterate_shift_of_zeros {x : BitVec w} (h : ∀ i < k, x.getLsbD i = false) : (shift poly)^[k] x = x >>> k := by
  induction k with
  | zero => rfl
  | succ k ih =>
    have hnext : (x >>> k).getLsbD 0 = false := by
      rw [BitVec.getLsbD_ushiftRight]
      exact h k (Nat.lt_succ_self k)
    rw [Function.iterate_succ_apply', ih fun i hi => h i (Nat.lt_succ_of_lt hi), shift_of_even hnext,
      BitVec.shiftRight_add]

/-- **A table** of what becomes of the low bits. -/
theorem iterate_shift_split (k : ℕ) (x : BitVec w) :
    (shift poly)^[k] x = (shift poly)^[k] (x &&& BitVec.ofNat w (2 ^ k - 1)) ^^^ (x >>> k) := by
  set low := x &&& BitVec.ofNat w (2 ^ k - 1) with hlow
  have hbit (i : ℕ) : low.getLsbD i = (x.getLsbD i && decide (i < k)) := by
    rw [hlow, BitVec.getLsbD_and, BitVec.getLsbD_ofNat, Nat.testBit_two_pow_sub_one]
    by_cases hi : i < w
    · rw [decide_eq_true hi, Bool.true_and]
    · rw [BitVec.getLsbD_of_ge x i (Nat.le_of_not_lt hi), Bool.false_and, Bool.false_and]
  have hsplit : x = low ^^^ (low ^^^ x) := by
    rw [← BitVec.xor_assoc, BitVec.xor_self, BitVec.zero_xor]
  have hzeros : ∀ i < k, (low ^^^ x).getLsbD i = false := by
    intro i hi
    rw [BitVec.getLsbD_xor, hbit, decide_eq_true hi, Bool.and_true, Bool.xor_self]
  have hgone : low >>> k = 0#w := by
    refine BitVec.eq_of_getLsbD_eq fun i _ => ?_
    rw [BitVec.getLsbD_ushiftRight, hbit, decide_eq_false (by omega), Bool.and_false, BitVec.getLsbD_zero]
  have hhigh : (shift poly)^[k] (low ^^^ x) = x >>> k := by
    rw [iterate_shift_of_zeros hzeros, BitVec.ushiftRight_xor_distrib, hgone, BitVec.zero_xor]
  rw [← hhigh, ← iterate_shift_xor, ← hsplit]

/-! ### The bits of a message -/

/-- A bit that is put in with the others of its word. -/
theorem step_xor (c x : BitVec w) : step poly c (x.getLsbD 0) ^^^ (x >>> 1) = shift poly (c ^^^ x) := by
  set bit := (BitVec.ofBool (x.getLsbD 0)).setWidth w with hbit
  have hlow (i : ℕ) : bit.getLsbD i = (decide (i < w) && (decide (i = 0) && x.getLsbD 0)) := by
    rw [hbit, BitVec.getLsbD_setWidth, BitVec.getLsbD_ofBool]
  have heven : (bit ^^^ x).getLsbD 0 = false := by
    rw [BitVec.getLsbD_xor, hlow, decide_eq_true rfl, Bool.true_and]
    by_cases hw : 0 < w
    · rw [decide_eq_true hw, Bool.true_and, Bool.xor_self]
    · rw [BitVec.getLsbD_of_ge x 0 (Nat.le_of_not_lt hw), Bool.and_false, Bool.xor_self]
  have hgone : bit >>> 1 = 0#w := by
    refine BitVec.eq_of_getLsbD_eq fun i _ => ?_
    rw [BitVec.getLsbD_ushiftRight, hlow, decide_eq_false (by omega : ¬ 1 + i = 0), Bool.false_and, Bool.and_false,
      BitVec.getLsbD_zero]
  have hsplit : c ^^^ x = (c ^^^ bit) ^^^ (bit ^^^ x) := by
    rw [BitVec.xor_assoc, ← BitVec.xor_assoc bit, BitVec.xor_self, BitVec.zero_xor]
  rw [hsplit, shift_xor, shift_of_even heven, BitVec.ushiftRight_xor_distrib, hgone, BitVec.zero_xor, step]

/-- **The bits of a word at once.** -/
theorem foldl_step (c : BitVec w) {x : BitVec w} (h : x >>> k = 0#w) :
    (lowBits k x).foldl (step poly) c = (shift poly)^[k] (c ^^^ x) := by
  induction k generalizing c x with
  | zero =>
    rw [BitVec.ushiftRight_zero] at h
    rw [h, BitVec.xor_zero]
    rfl
  | succ k ih =>
    rw [lowBits, List.foldl_cons, ih _ (by rw [← BitVec.shiftRight_add, Nat.add_comm, h]), step_xor,
      Function.iterate_succ_apply]

theorem lowBits_setWidth {v : ℕ} (h : w ≤ v) (k : ℕ) (x : BitVec w) : lowBits k (x.setWidth v) = lowBits k x := by
  have hbit (x : BitVec w) (i : ℕ) : (x.setWidth v).getLsbD i = x.getLsbD i := by
    rw [BitVec.getLsbD_setWidth]
    by_cases hi : i < v
    · rw [decide_eq_true hi, Bool.true_and]
    · rw [BitVec.getLsbD_of_ge x i (Nat.le_trans h (Nat.le_of_not_lt hi)), Bool.and_false]
  induction k generalizing x with
  | zero => rfl
  | succ k ih =>
    have hshift : x.setWidth v >>> 1 = (x >>> 1).setWidth v := by
      refine BitVec.eq_of_getLsbD_eq fun i _ => ?_
      rw [BitVec.getLsbD_ushiftRight, hbit, hbit, BitVec.getLsbD_ushiftRight]
    rw [lowBits, lowBits, hbit, hshift, ih]

end VianiumVoip.Lib.Crc
