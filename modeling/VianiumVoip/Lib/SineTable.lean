import Mathlib.Analysis.Complex.Trigonometric

/-!
# Sines of whole numbers

Integers that approximate `2 ^ 192 · sin n` and `2 ^ 192 · cos n`: Taylor sums for `n = 1`, and from one number to the
next by the addition formulas.  The error is at most `4 ^ (n + 1)` (`abs_sin_sub_le`), so that the leading bits of a sine
can be read off (`floor_abs_sin`).
-/

namespace VianiumVoip.Lib.SineTable

open Finset

/-! ### One -/

/-- The first `n` terms of the series of `sin 1`. -/
def sineSum (n : ℕ) : ℚ := ∑ k ∈ range n, (-1) ^ k / (2 * k + 1).factorial

/-- The first `n` terms of the series of `cos 1`. -/
def cosineSum (n : ℕ) : ℚ := ∑ k ∈ range n, (-1) ^ k / (2 * k).factorial

/-- What the terms left out add up to at most. -/
def slack (n : ℕ) : ℚ := (2 * n + 1) / ((2 * n).factorial * (2 * n))

theorem sum_exp_I (n : ℕ) :
    ∑ m ∈ range (2 * n), Complex.I ^ m / (m.factorial : ℂ) = (cosineSum n : ℝ) + (sineSum n : ℝ) * Complex.I := by
  induction n with
  | zero => simp [cosineSum, sineSum]
  | succ n ih =>
    have heven : Complex.I ^ (2 * n) = (-1) ^ n := by rw [pow_mul, Complex.I_sq]
    have hodd : Complex.I ^ (2 * n + 1) = (-1) ^ n * Complex.I := by rw [pow_succ, heven]
    rw [show 2 * (n + 1) = 2 * n + 1 + 1 by ring, sum_range_succ, sum_range_succ, ih, heven, hodd, cosineSum, sineSum,
      cosineSum, sineSum, sum_range_succ, sum_range_succ]
    push_cast
    ring

theorem norm_exp_I_sub_le {n : ℕ} (hn : 0 < n) :
    ‖(Real.cos 1 + Real.sin 1 * Complex.I : ℂ) - ((cosineSum n : ℝ) + (sineSum n : ℝ) * Complex.I)‖ ≤ (slack n : ℝ) := by
  have hbound := Complex.exp_bound (x := Complex.I) (by simp) (n := 2 * n) (by omega)
  have hexp : Complex.exp Complex.I = Real.cos 1 + Real.sin 1 * Complex.I := by
    have h := Complex.exp_mul_I 1
    rw [one_mul] at h
    rw [h]
    push_cast
    rfl
  rw [sum_exp_I, hexp, Complex.norm_I, one_pow, one_mul] at hbound
  refine hbound.trans (le_of_eq ?_)
  unfold slack
  push_cast
  rw [div_eq_mul_inv]

theorem abs_sin_one_sub_le {n : ℕ} (hn : 0 < n) : |Real.sin 1 - (sineSum n : ℝ)| ≤ (slack n : ℝ) := by
  refine le_trans (le_of_eq ?_) ((Complex.abs_im_le_norm _).trans (norm_exp_I_sub_le hn))
  simp only [Complex.sub_im, Complex.add_im, Complex.mul_im, Complex.ofReal_im, Complex.ofReal_re, Complex.I_im,
    Complex.I_re, mul_one, mul_zero, add_zero, zero_add]

theorem abs_cos_one_sub_le {n : ℕ} (hn : 0 < n) : |Real.cos 1 - (cosineSum n : ℝ)| ≤ (slack n : ℝ) := by
  refine le_trans (le_of_eq ?_) ((Complex.abs_re_le_norm _).trans (norm_exp_I_sub_le hn))
  simp only [Complex.sub_re, Complex.add_re, Complex.mul_re, Complex.ofReal_im, Complex.ofReal_re, Complex.I_im,
    Complex.I_re, mul_one, mul_zero, sub_zero, add_zero]

/-- The scale of the approximations. -/
def scale : ℤ := 2 ^ 192

theorem scale_pos : (0 : ℝ) < scale := by norm_num [scale]

/-- `sin 1` -/
def sinOne : ℤ := 5281998979015186446760032743853080903494816384767149312846

/-- `cos 1` -/
def cosOne : ℤ := 3391532541798325009655159465099825549094561982098022253496

theorem abs_scale_sub_le {x : ℝ} {sum error : ℚ} {z : ℤ} (h : |x - (sum : ℝ)| ≤ (error : ℝ))
    (hz : |scale * sum - z| + scale * error ≤ 1) : |scale * x - z| ≤ 1 := by
  have hz : |scale * (sum : ℝ) - z| + scale * (error : ℝ) ≤ 1 := by exact_mod_cast hz
  have hscale := scale_pos
  calc |scale * x - z| = |scale * (x - (sum : ℝ)) + (scale * (sum : ℝ) - z)| := by ring_nf
    _ ≤ |scale * (x - (sum : ℝ))| + |scale * (sum : ℝ) - z| := abs_add_le _ _
    _ = scale * |x - (sum : ℝ)| + |scale * (sum : ℝ) - z| := by rw [abs_mul, abs_of_pos hscale]
    _ ≤ scale * (error : ℝ) + |scale * (sum : ℝ) - z| := by gcongr
    _ ≤ 1 := by linarith

theorem sinOne_spec : |scale * Real.sin 1 - sinOne| ≤ 1 :=
  abs_scale_sub_le (abs_sin_one_sub_le (n := 24) (by decide)) (by
    norm_num [sineSum, slack, scale, sinOne, sum_range_succ, Nat.factorial])

theorem cosOne_spec : |scale * Real.cos 1 - cosOne| ≤ 1 :=
  abs_scale_sub_le (abs_cos_one_sub_le (n := 24) (by decide)) (by
    norm_num [cosineSum, slack, scale, cosOne, sum_range_succ, Nat.factorial])

/-! ### From one number to the next -/

/-- The approximations at the next number. -/
def turn (p : ℤ × ℤ) : ℤ × ℤ :=
  ((p.1 * cosOne + p.2 * sinOne) / scale, (p.2 * cosOne + p.1 * -sinOne) / scale)

/-- The approximations at `n`. -/
def approx : ℕ → ℤ × ℤ
  | 0 => (0, scale)
  | n + 1 => turn (approx n)

/-- A product of two approximations at the scale `K`. -/
theorem abs_mul_sub_le {K x y e : ℝ} {p q : ℤ} (hK : 0 < K) (hx : |x| ≤ 1) (hp : |K * x - p| ≤ e)
    (hq : |K * y - q| ≤ 1) (hle : |(q : ℝ)| ≤ K) : |K * (x * y) - p * q / K| ≤ e + 1 := by
  have hfrac : |(q : ℝ) / K| ≤ 1 := by
    rw [abs_div, abs_of_pos hK]
    exact div_le_one_of_le₀ hle hK.le
  calc |K * (x * y) - p * q / K| = |x * (K * y - q) + q / K * (K * x - p)| := by
        congr 1
        field_simp
        ring
    _ ≤ |x * (K * y - q)| + |q / K * (K * x - p)| := abs_add_le _ _
    _ = |x| * |K * y - q| + |(q : ℝ) / K| * |K * x - p| := by rw [abs_mul, abs_mul]
    _ ≤ 1 * 1 + 1 * e := by gcongr
    _ = e + 1 := by ring

theorem abs_div_sub_le (z : ℤ) {K : ℤ} (hKr : (0 : ℝ) < K) : |(z : ℝ) / K - ((z / K : ℤ) : ℝ)| ≤ 1 := by
  have hK : 0 < K := by exact_mod_cast hKr
  have hmod : (z : ℝ) = K * ((z / K : ℤ) : ℝ) + ((z % K : ℤ) : ℝ) := by exact_mod_cast (Int.mul_ediv_add_emod z K).symm
  have hlow : (0 : ℝ) ≤ ((z % K : ℤ) : ℝ) := by exact_mod_cast Int.emod_nonneg z hK.ne'
  have hhigh : ((z % K : ℤ) : ℝ) ≤ K := by exact_mod_cast (Int.emod_lt_of_pos z hK).le
  have hdiv : (z : ℝ) / K - ((z / K : ℤ) : ℝ) = ((z % K : ℤ) : ℝ) / K := by
    rw [hmod]
    field_simp
    ring
  rw [hdiv, abs_of_nonneg (div_nonneg hlow hKr.le)]
  exact div_le_one_of_le₀ hhigh hKr.le

/-- What the addition formulas make of the errors. -/
theorem abs_turn_sub_le {K x₁ y₁ x₂ y₂ e : ℝ} {p₁ q₁ p₂ q₂ z : ℤ} (hK : 0 < K) (hx₁ : |x₁| ≤ 1) (hx₂ : |x₂| ≤ 1)
    (hp₁ : |K * x₁ - p₁| ≤ e) (hq₁ : |K * y₁ - q₁| ≤ 1) (hp₂ : |K * x₂ - p₂| ≤ e) (hq₂ : |K * y₂ - q₂| ≤ 1)
    (hle₁ : |(q₁ : ℝ)| ≤ K) (hle₂ : |(q₂ : ℝ)| ≤ K) (hz : |(p₁ * q₁ + p₂ * q₂ : ℝ) / K - z| ≤ 1) :
    |K * (x₁ * y₁ + x₂ * y₂) - z| ≤ 2 * e + 3 := by
  have h₁ := abs_mul_sub_le hK hx₁ hp₁ hq₁ hle₁
  have h₂ := abs_mul_sub_le hK hx₂ hp₂ hq₂ hle₂
  have hsplit : K * (x₁ * y₁ + x₂ * y₂) - z
      = (K * (x₁ * y₁) - p₁ * q₁ / K) + (K * (x₂ * y₂) - p₂ * q₂ / K) + ((p₁ * q₁ + p₂ * q₂) / K - z) := by ring
  rw [hsplit]
  refine (abs_add_three _ _ _).trans ?_
  linarith

/-- **The error grows slowly.** -/
theorem abs_approx_sub_le (n : ℕ) :
    |scale * Real.sin n - (approx n).1| ≤ 4 ^ (n + 1) ∧ |scale * Real.cos n - (approx n).2| ≤ 4 ^ (n + 1) := by
  have hsin : |(sinOne : ℝ)| ≤ scale := by norm_num [sinOne, scale]
  have hcos : |(cosOne : ℝ)| ≤ scale := by norm_num [cosOne, scale]
  have hneg : |scale * -Real.sin 1 - ((-sinOne : ℤ) : ℝ)| ≤ 1 := by
    have h := sinOne_spec
    rw [← abs_neg] at h
    push_cast
    convert h using 2
    ring
  induction n with
  | zero => simp [approx]
  | succ n ih =>
    obtain ⟨ihsin, ihcos⟩ := ih
    have hgrow : 2 * (4 : ℝ) ^ (n + 1) + 3 ≤ 4 ^ (n + 1 + 1) := by
      have : (1 : ℝ) ≤ 4 ^ n := one_le_pow₀ (by norm_num)
      rw [pow_succ, pow_succ, pow_succ]
      linarith
    have hone := Real.abs_sin_le_one n
    have hone' := Real.abs_cos_le_one n
    constructor
    · have hfloor := abs_div_sub_le ((approx n).1 * cosOne + (approx n).2 * sinOne) scale_pos
      push_cast at hfloor
      rw [Nat.cast_succ, Real.sin_add]
      exact (abs_turn_sub_le scale_pos hone hone' ihsin cosOne_spec ihcos sinOne_spec hcos hsin hfloor).trans hgrow
    · have hfloor := abs_div_sub_le ((approx n).2 * cosOne + (approx n).1 * -sinOne) scale_pos
      rw [Int.cast_add, Int.cast_mul, Int.cast_mul] at hfloor
      rw [Nat.cast_succ, Real.cos_add, sub_eq_add_neg (Real.cos n * _), ← mul_neg]
      refine (abs_turn_sub_le scale_pos hone' hone ihcos cosOne_spec ihsin hneg hcos ?_ hfloor).trans hgrow
      rwa [Int.cast_neg, abs_neg]

/-! ### Leading bits -/

/-- **The leading bits of a sine.** -/
theorem floor_abs_sin {n bits : ℕ} (hlow : (bits : ℤ) * 2 ^ 160 + 4 ^ (n + 1) ≤ |(approx n).1|)
    (hhigh : |(approx n).1| + 4 ^ (n + 1) < ((bits : ℤ) + 1) * 2 ^ 160) : ⌊2 ^ 32 * |Real.sin n|⌋₊ = bits := by
  have hdist := (abs_abs_sub_abs_le_abs_sub _ _).trans (abs_approx_sub_le n).1
  rw [abs_mul, abs_of_pos scale_pos] at hdist
  obtain ⟨h₁, h₂⟩ := abs_le.1 hdist
  have hlow : (bits : ℝ) * 2 ^ 160 + 4 ^ (n + 1) ≤ |((approx n).1 : ℝ)| := by exact_mod_cast hlow
  have hhigh : |((approx n).1 : ℝ)| + 4 ^ (n + 1) < ((bits : ℝ) + 1) * 2 ^ 160 := by exact_mod_cast hhigh
  have hscale : (scale : ℝ) * |Real.sin n| = 2 ^ 160 * (2 ^ 32 * |Real.sin n|) := by
    rw [scale]
    push_cast
    ring
  rw [hscale] at h₁ h₂
  rw [Nat.floor_eq_iff (by positivity)]
  constructor
  · refine le_of_mul_le_mul_left ?_ (by positivity : (0 : ℝ) < 2 ^ 160)
    linarith
  · refine lt_of_mul_lt_mul_left ?_ (by positivity : (0 : ℝ) ≤ 2 ^ 160)
    linarith

end VianiumVoip.Lib.SineTable
