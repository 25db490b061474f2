import VianiumVoip.Engine.PeerValues

/-!
# The private exponent

`PickPrivateExponent` draws 256 bytes up to eight times and takes the first ones in range.  Where none is, it falls back
on the constant 2, which comes from no random source: `pick_first_in_range` has both cases, and `fallback_key` what the
key of a call is then worth.
-/

namespace VianiumVoip.Engine

open VianiumVoip.Lib

/-- The draws from a stream of random bytes. -/
def drawsOf (stream : ℕ → UInt8) (attempt : ℕ) : Draw :=
  ⟨(List.range kDhBytes).map fun i => stream (kDhBytes * attempt + i), by rw [List.length_map, List.length_range]⟩

/-- The value that is returned when no draw is in range. -/
def fallback : Bytes := toBE kDhBytes 2

/-- An exponent for the prime. -/
def InRange (p x : Bytes) : Prop := 1 < ofBE x ∧ ofBE x < ofBE p

instance (p x : Bytes) : Decidable (InRange p x) := inferInstanceAs (Decidable (_ ∧ _))

/-- The draw of this attempt is the first one in range, out of eight. -/
structure FirstInRange (p : Bytes) (draws : ℕ → Draw) (attempt : ℕ) : Prop where
  lt : attempt < 8
  inRange : InRange p (draws attempt).1
  earlier : ∀ earlier < attempt, ¬ InRange p (draws earlier).1

variable {p : Bytes} {draws : ℕ → Draw} {attempt : ℕ}

theorem pickPrivateExponent_eq (p : Bytes) (draws : ℕ → Draw) :
    pickPrivateExponent p draws
      = (((List.range 8).find? fun attempt => InRange p (draws attempt).1).map fun attempt => (draws attempt).1).getD
          fallback := by
  rw [pickPrivateExponent, List.find?_map]
  rfl

theorem pick_of_first (h : FirstInRange p draws attempt) : pickPrivateExponent p draws = (draws attempt).1 := by
  have hfind : ((List.range 8).find? fun attempt => InRange p (draws attempt).1) = some attempt := by
    rw [List.find?_range_eq_some]
    refine ⟨decide_eq_true h.inRange, List.mem_range.2 h.lt, fun earlier hlt => ?_⟩
    simpa using h.earlier earlier hlt
  rw [pickPrivateExponent_eq, hfind, Option.map_some, Option.getD_some]

theorem pick_of_none (h : ∀ attempt < 8, ¬ InRange p (draws attempt).1) : pickPrivateExponent p draws = fallback := by
  have hfind : ((List.range 8).find? fun attempt => InRange p (draws attempt).1) = none := by
    rw [List.find?_range_eq_none]
    intro attempt hlt
    simpa using h attempt hlt
  rw [pickPrivateExponent_eq, hfind, Option.map_none, Option.getD_none]

theorem first_or_none (p : Bytes) (draws : ℕ → Draw) :
    (∃ attempt, FirstInRange p draws attempt) ∨ ∀ attempt < 8, ¬ InRange p (draws attempt).1 := by
  by_cases h : ∃ attempt, attempt < 8 ∧ InRange p (draws attempt).1
  · obtain ⟨hlt, hrange⟩ := Nat.find_spec h
    refine .inl ⟨Nat.find h, hlt, hrange, fun earlier hearlier hin => ?_⟩
    exact Nat.find_min h hearlier ⟨hearlier.trans hlt, hin⟩
  · exact .inr fun attempt hlt hrange => h ⟨attempt, hlt, hrange⟩

theorem ofBE_fallback : ofBE fallback = 2 := by
  rw [fallback, ofBE_toBE]
  exact Nat.mod_eq_of_lt (by decide +kernel)

theorem ValidConfig.inRange_fallback {g : ℤ} (h : ValidConfig g p) : InRange p fallback := by
  have hfour {n : ℕ} (hn : 2 ≤ n) : 2 ^ 2 ≤ 2 ^ n := Nat.pow_le_pow_right two_pos hn
  have := (hfour (by decide)).trans h.large
  rw [InRange, ofBE_fallback]
  omega

/-- **The exponent of an accepted prime** has 256 bytes and is in range.  It is the first draw in range out of eight;
without such a draw it is the constant 2. -/
theorem pick_first_in_range (g : ℤ) (p : Bytes) (h : validateDhConfig g p = .ok ()) (stream : ℕ → UInt8) :
    (pickPrivateExponent p (drawsOf stream)).length = kDhBytes ∧ InRange p (pickPrivateExponent p (drawsOf stream)) ∧
      (∀ attempt, FirstInRange p (drawsOf stream) attempt →
        pickPrivateExponent p (drawsOf stream) = (drawsOf stream attempt).1) ∧
      ((¬ ∃ attempt, FirstInRange p (drawsOf stream) attempt) → pickPrivateExponent p (drawsOf stream) = fallback) := by
  have hconfig := validConfig_of_ok h
  rcases first_or_none p (drawsOf stream) with ⟨attempt, hfirst⟩ | hnone
  · refine ⟨?_, ?_, fun _ hfirst => pick_of_first hfirst, fun hnot => absurd ⟨attempt, hfirst⟩ hnot⟩
    · rw [pick_of_first hfirst]
      exact (drawsOf stream attempt).2
    · rw [pick_of_first hfirst]
      exact hfirst.inRange
  · refine ⟨?_, ?_, fun _ hfirst => pick_of_first hfirst, fun _ => pick_of_none hnone⟩
    · rw [pick_of_none hnone]
      exact length_toBE ..
    · rw [pick_of_none hnone]
      exact hconfig.inRange_fallback

/-- A stream of fives, for a prime. -/
theorem pick_first_in_range_five : InRange samplePrime (pickPrivateExponent samplePrime (drawsOf fun _ => 5)) :=
  (pick_first_in_range 3 samplePrime (samplePrime_config (by decide)) fun _ => 5).2.1

theorem validateDhConfig_dhPrime : validateDhConfig 2 dhPrime = .ok () := by
  have hlarge := isDhPrime_dhPrime.large
  have hodd : ofBE dhPrime % 2 ≠ 0 := by
    rw [ofBE_dhPrime]
    decide +kernel
  unfold validateDhConfig
  rw [if_neg (not_not_intro (by decide)), if_neg (not_not_intro isDhPrime_dhPrime.length), if_neg (by omega)]

/-- A prime that is accepted, and a stream of zeros: what is returned was not drawn. -/
theorem pick_not_drawn :
    validateDhConfig 2 dhPrime = .ok () ∧ (ofBE dhPrime).Prime ∧
      pickPrivateExponent dhPrime (drawsOf fun _ => 0) = fallback ∧
      ¬ ∃ attempt, pickPrivateExponent dhPrime (drawsOf fun _ => 0) = (drawsOf (fun _ => 0) attempt).1 := by
  have hdraw (attempt : ℕ) : ofBE (drawsOf (fun _ => 0) attempt).1 = 0 := by
    have hzeros : (drawsOf (fun _ => 0) attempt).1 = List.replicate kDhBytes 0 :=
      (List.map_const' ..).trans (congrArg (List.replicate · 0) List.length_range)
    rw [hzeros]
    decide +kernel
  have hpick : pickPrivateExponent dhPrime (drawsOf fun _ => 0) = fallback := by
    refine pick_of_none fun attempt _ hrange => ?_
    rw [InRange, hdraw attempt] at hrange
    omega
  refine ⟨validateDhConfig_dhPrime, isDhPrime_dhPrime.prime, hpick, ?_⟩
  rintro ⟨attempt, heq⟩
  have hvalue := congrArg ofBE heq
  rw [hpick, ofBE_fallback, hdraw attempt] at hvalue
  omega

/-- With the exponent that is not drawn, the key is the square of a value that went over the server. -/
theorem fallback_key {C : Crypto} {g : ℤ} (hmod : ∀ b e m, 1 < m → C.modPow b e m = b ^ e % m) (h : ValidConfig g p)
    (hnone : ∀ attempt < 8, ¬ InRange p (draws attempt).1) (peerPublic : Bytes) :
    ofBE (computeShared C peerPublic (pickPrivateExponent p draws) p) = ofBE peerPublic ^ 2 % ofBE p := by
  rw [pick_of_none hnone, computeShared, ofBE_fallback, hmod _ _ _ h.one_lt, h.ofBE_residue]

end VianiumVoip.Engine
