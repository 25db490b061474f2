import Mathlib.FieldTheory.Finite.Basic
import Mathlib.NumberTheory.LucasPrimality

/-!
# Elements of small order

The elements 0, 1 and -1 of a ring are its degenerate ones.  Their powers are degenerate (`Degenerate.pow`), and without
zero divisors no other element has a square and a cube that are both so (`degenerate_of_pow`).  In a finite field they
are the elements of order at most 2 (`orderOf_le_two_iff`).

`prime_of_squareMod` is the test of Lucas for a number that is one above a multiple of a power of two: the powers that
it asks for are computed by squaring.
-/

namespace VianiumVoip.Lib

/-! ### Degenerate elements -/

section Degenerate

variable {R : Type*} [Ring R] {x : R}

def Degenerate (x : R) : Prop := x = 0 ∨ x = 1 ∨ x = -1

theorem Degenerate.mul {y : R} (hx : Degenerate x) (hy : Degenerate y) : Degenerate (x * y) := by
  rcases hx with rfl | rfl | rfl
  · exact .inl (zero_mul y)
  · rwa [one_mul]
  · rcases hy with rfl | rfl | rfl
    · exact .inl (mul_zero _)
    · exact .inr (.inr (mul_one _))
    · exact .inr (.inl (by rw [neg_mul_neg, one_mul]))

theorem Degenerate.pow (h : Degenerate x) (n : ℕ) : Degenerate (x ^ n) := by
  induction n with
  | zero => exact .inr (.inl (pow_zero x))
  | succ n ih =>
    rw [pow_succ]
    exact ih.mul h

/-- A square root of -1 has a cube that is not degenerate. -/
theorem degenerate_of_pow [NoZeroDivisors R] (hsquare : Degenerate (x ^ 2)) (hcube : Degenerate (x ^ 3)) :
    Degenerate x := by
  rcases hsquare with hzero | hone | hneg
  · exact .inl ((pow_eq_zero_iff two_ne_zero).1 hzero)
  · rw [pow_two] at hone
    exact .inr (mul_self_eq_one_iff.1 hone)
  · have hx : x ^ 3 = -x := by rw [pow_succ, hneg, neg_one_mul]
    rw [hx] at hcube
    rcases hcube with h | h | h
    · exact .inl (neg_eq_zero.1 h)
    · exact .inr (.inr (neg_eq_iff_eq_neg.1 h))
    · exact .inr (.inl (neg_injective h))

end Degenerate

/-- **The elements of order at most 2 of a finite field.** -/
theorem orderOf_le_two_iff {F : Type*} [Field F] [Finite F] {x : F} : orderOf x ≤ 2 ↔ Degenerate x := by
  constructor
  · intro h
    by_cases hx : x = 0
    · exact .inl hx
    have hpos : 0 < orderOf x := by
      have hunit : 0 < orderOf (Units.mk0 x hx) := orderOf_pos _
      rwa [← orderOf_units] at hunit
    have hdvd : orderOf x ∣ 2 := by
      obtain hone | htwo : orderOf x = 1 ∨ orderOf x = 2 := by omega
      · rw [hone]
        exact one_dvd 2
      · rw [htwo]
    have hsquare : x * x = 1 := by
      rw [← pow_two]
      exact orderOf_dvd_iff_pow_eq_one.1 hdvd
    exact .inr (mul_self_eq_one_iff.1 hsquare)
  · rintro (rfl | rfl | rfl)
    · rw [orderOf_zero]
      omega
    · rw [orderOf_one]
      omega
    · exact orderOf_le_of_pow_eq_one two_pos (by rw [neg_one_sq])

theorem degenerate_natCast_iff {p v : ℕ} (hp : 1 < p) (hv : v < p) :
    Degenerate (v : ZMod p) ↔ v = 0 ∨ v = 1 ∨ v = p - 1 := by
  have hzero : (v : ZMod p) = 0 ↔ v = 0 := by
    rw [ZMod.natCast_eq_zero_iff]
    exact ⟨fun h => Nat.eq_zero_of_dvd_of_lt h hv, fun h => h ▸ dvd_zero p⟩
  have hone : (v : ZMod p) = 1 ↔ v = 1 := by
    rw [← Nat.cast_one, ZMod.natCast_eq_natCast_iff', Nat.mod_eq_of_lt hv, Nat.mod_eq_of_lt hp]
  have hneg : (v : ZMod p) = -1 ↔ v = p - 1 := by
    rw [eq_neg_iff_add_eq_zero, ← Nat.cast_one, ← Nat.cast_add, ZMod.natCast_eq_zero_iff]
    constructor
    · intro h
      have := Nat.le_of_dvd (by omega) h
      omega
    · intro h
      rw [h, Nat.sub_add_cancel hp.le]
  rw [Degenerate, hzero, hone, hneg]

/-! ### A test for primes -/

/-- `a` squared `k` times modulo `m`.  The match has every square computed before the next. -/
def squareMod (m : ℕ) : ℕ → ℕ → ℕ
  | 0, a => a
  | k + 1, a =>
    match a * a % m with
    | 0 => 0
    | b + 1 => squareMod m k (b + 1)

theorem squareMod_lt {m a : ℕ} (h : a < m) (k : ℕ) : squareMod m k a < m := by
  induction k generalizing a with
  | zero => exact h
  | succ k ih =>
    have hlt := Nat.mod_lt (a * a) (Nat.zero_lt_of_lt h)
    rw [squareMod]
    split
    · omega
    · next b hb =>
      rw [hb] at hlt
      exact ih hlt

theorem cast_squareMod (m k a : ℕ) : (squareMod m k a : ZMod m) = (a : ZMod m) ^ 2 ^ k := by
  induction k generalizing a with
  | zero => rw [squareMod, pow_zero, pow_one]
  | succ k ih =>
    have hsquare : ((a * a % m : ℕ) : ZMod m) = (a : ZMod m) ^ 2 := by
      rw [ZMod.natCast_mod, Nat.cast_mul, pow_two]
    rw [squareMod, pow_succ', pow_mul, ← hsquare]
    split
    · next hzero => rw [hzero, Nat.cast_zero, zero_pow (by positivity)]
    · next b hb => rw [hb, ih]

/-- **A number one above a multiple of a power of two is prime** if a power of `a` is -1 where it should be, and none is
1 where it should not be. -/
theorem prime_of_squareMod {N e n a : ℕ} (hN : N = e * 2 ^ (n + 1) + 1) (he : 0 < e)
    (hhalf : squareMod N n (a ^ e % N) = N - 1)
    (hodd : ∀ q : ℕ, q.Prime → q ∣ e → squareMod N (n + 1) (a ^ (e / q) % N) ≠ 1) : N.Prime := by
  have hpow : 2 ≤ e * 2 ^ (n + 1) := by
    have := Nat.one_le_two_pow (n := n)
    rw [pow_succ]
    nlinarith
  have hpos : 1 < N := by omega
  have hpred : N - 1 = e * 2 ^ (n + 1) := by omega
  have hpower (d k : ℕ) : (a : ZMod N) ^ (d * 2 ^ k) = (squareMod N k (a ^ d % N) : ZMod N) := by
    rw [cast_squareMod, ZMod.natCast_mod, Nat.cast_pow, pow_mul]
  have hne {d k : ℕ} (h : squareMod N k (a ^ d % N) ≠ 1) : (a : ZMod N) ^ (d * 2 ^ k) ≠ 1 := by
    rw [hpower]
    intro heq
    rw [← Nat.cast_one, ZMod.natCast_eq_natCast_iff', Nat.mod_eq_of_lt hpos,
      Nat.mod_eq_of_lt (squareMod_lt (Nat.mod_lt _ (by omega)) k)] at heq
    exact h heq
  have hminus : (a : ZMod N) ^ (e * 2 ^ n) = -1 := by
    have hzero : ((N - 1 + 1 : ℕ) : ZMod N) = 0 := by rw [Nat.sub_add_cancel hpos.le, ZMod.natCast_self]
    rw [Nat.cast_add, Nat.cast_one] at hzero
    rw [hpower, hhalf]
    exact eq_neg_of_add_eq_zero_left hzero
  refine lucas_primality N a ?_ ?_
  · rw [hpred, pow_succ, ← mul_assoc, pow_mul, hminus, neg_one_sq]
  · intro q hq hdvd
    rw [hpred] at hdvd ⊢
    by_cases htwo : q = 2
    · subst htwo
      have hdiv : e * 2 ^ (n + 1) / 2 = e * 2 ^ n := by
        rw [pow_succ, ← mul_assoc, Nat.mul_div_cancel _ two_pos]
      rw [hdiv]
      exact hne (by omega)
    · have hdvd' : q ∣ e := by
        rcases (Nat.Prime.dvd_mul hq).1 hdvd with h | h
        · exact h
        · exact absurd ((Nat.prime_dvd_prime_iff_eq hq Nat.prime_two).1 (hq.dvd_of_dvd_pow h)) htwo
      have hdiv : e * 2 ^ (n + 1) / q = e / q * 2 ^ (n + 1) := (Nat.div_mul_right_comm hdvd' _).symm
      rw [hdiv]
      exact hne (hodd q hq hdvd')

end VianiumVoip.Lib
