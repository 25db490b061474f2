import Mathlib.Tactic.NormNum.Prime
import VianiumVoip.Engine.KeyAgreement
import VianiumVoip.Lib.PrimeField

/-!
# Peer values of small order

`ValidatePublicValue` of `application/voip_engine` over a prime.  It refuses 0, 1 and what is not below the prime, and
takes the last value below it, which has order 2: every key that is made of it is 1 or the value itself.

* `forcedKey_iff`: a value forces the key, whatever the private exponent is, exactly where it is degenerate;
* `peer_value_guarded_iff`: the check keeps such values out, except for the last one below the prime;
* `forced_of_acceptPeerGB`, `forced_of_confirmPeerGAOrB`: what becomes of a call whose peer sends that one.
-/

namespace VianiumVoip.Engine

open VianiumVoip.Lib

variable {C : Crypto} {value p : Bytes}

/-- A number modulo a prime that is known without the private exponent. -/
def Forced (p key : ℕ) : Prop := key = 0 ∨ key = 1 ∨ key = p - 1

/-- Whatever the private exponent is, the key is such a number. -/
def ForcedKey (C : Crypto) (value p : Bytes) : Prop :=
  ∀ x : Bytes, x.length = kDhBytes → 1 < ofBE x → ofBE x < ofBE p → Forced (ofBE p) (ofBE (computeShared C value x p))

/-- A value that is accepted is below the prime, of an order above 2, and does not force the key. -/
def ValueGuarded (C : Crypto) (value p : Bytes) : Prop :=
  validatePublicValue value p = .ok () →
    ofBE value < ofBE p ∧ 2 < orderOf (ofBE value : ZMod (ofBE p)) ∧ ¬ ForcedKey C value p

/-! ### What is accepted -/

theorem validatePublicValue_eq_ok_iff :
    validatePublicValue value p = .ok () ↔
      p.length = kDhBytes ∧ value.length = kDhBytes ∧ 1 < ofBE value ∧ ofBE value < ofBE p := by
  unfold validatePublicValue
  split_ifs with hp hvalue hrange
  · exact ⟨fun h => (by cases h), fun h => absurd h.1 hp⟩
  · exact ⟨fun h => (by cases h), fun h => absurd h.2.1 hvalue⟩
  · refine ⟨fun h => (by cases h), fun h => ?_⟩
    omega
  · refine ⟨fun _ => ⟨not_not.1 hp, not_not.1 hvalue, ?_⟩, fun _ => rfl⟩
    omega

/-! ### Keys of a value -/

/-- A prime as `ValidateDhConfig` asks for it, and prime indeed. -/
structure IsDhPrime (p : Bytes) : Prop where
  length : p.length = kDhBytes
  large : 2 ^ 2047 ≤ ofBE p
  prime : (ofBE p).Prime

namespace IsDhPrime

variable (h : IsDhPrime p)
include h

theorem validConfig : ValidConfig 2 p := ⟨by decide, h.length, h.large⟩

theorem three_lt : 3 < ofBE p := by
  have hfour {n : ℕ} (hn : 2 ≤ n) : 2 ^ 2 ≤ 2 ^ n := Nat.pow_le_pow_right two_pos hn
  have := (hfour (by decide)).trans h.large
  omega

theorem ofBE_small {n : ℕ} (hn : n < ofBE p) : ofBE (toBE kDhBytes n) = n := by
  have := h.validConfig.ofBE_residue n
  rwa [Nat.mod_eq_of_lt hn] at this

theorem ofBE_last : ofBE (toBE kDhBytes (ofBE p - 1)) = ofBE p - 1 := by
  have := h.three_lt
  exact h.ofBE_small (by omega)

theorem eq_last_iff (hlength : value.length = kDhBytes) :
    value = toBE kDhBytes (ofBE p - 1) ↔ ofBE value = ofBE p - 1 := by
  constructor
  · intro heq
    rw [heq, h.ofBE_last]
  · intro heq
    have hback := toBE_ofBE value
    rwa [hlength, heq, eq_comm] at hback

theorem degenerate_iff (hone : 1 < ofBE value) (hlt : ofBE value < ofBE p) :
    Degenerate (ofBE value : ZMod (ofBE p)) ↔ ofBE value = ofBE p - 1 := by
  rw [degenerate_natCast_iff h.validConfig.one_lt hlt]
  omega

variable (hmod : ∀ b e m, 1 < m → C.modPow b e m = b ^ e % m)
include hmod

theorem ofBE_computeShared (value x : Bytes) : ofBE (computeShared C value x p) = ofBE value ^ ofBE x % ofBE p := by
  rw [computeShared, hmod _ _ _ h.validConfig.one_lt, h.validConfig.ofBE_residue]

theorem forced_computeShared_iff (value x : Bytes) :
    Forced (ofBE p) (ofBE (computeShared C value x p)) ↔ Degenerate ((ofBE value : ZMod (ofBE p)) ^ ofBE x) := by
  have hlt : ofBE (computeShared C value x p) < ofBE p := by
    rw [h.ofBE_computeShared hmod]
    exact Nat.mod_lt _ (Nat.zero_lt_of_lt h.validConfig.one_lt)
  have hcast : (ofBE (computeShared C value x p) : ZMod (ofBE p)) = (ofBE value : ZMod (ofBE p)) ^ ofBE x := by
    rw [h.ofBE_computeShared hmod, ZMod.natCast_mod, Nat.cast_pow]
  rw [← hcast, degenerate_natCast_iff h.validConfig.one_lt hlt, Forced]

/-- **A value forces the key exactly where it is degenerate**: its square and its cube tell. -/
theorem forcedKey_iff (value : Bytes) : ForcedKey C value p ↔ Degenerate (ofBE value : ZMod (ofBE p)) := by
  have := Fact.mk h.prime
  have hthree := h.three_lt
  constructor
  · intro hforced
    have hpower {n : ℕ} (hone : 1 < n) (hlt : n < ofBE p) : Degenerate ((ofBE value : ZMod (ofBE p)) ^ n) := by
      have hn := h.ofBE_small hlt
      have hkey := hforced (toBE kDhBytes n) (length_toBE _ _) (by rwa [hn]) (by rwa [hn])
      rwa [h.forced_computeShared_iff hmod, hn] at hkey
    exact degenerate_of_pow (hpower (by omega) (by omega)) (hpower (by omega) hthree)
  · intro hdegenerate x _ _ _
    exact (h.forced_computeShared_iff hmod value x).2 (hdegenerate.pow _)

end IsDhPrime

/-- **The check keeps values of small order out, except for the last one below the prime**, for every prime of 2048 bits
and every value that a peer sends. -/
theorem peer_value_guarded_iff (C : Crypto) (hmod : ∀ b e m, 1 < m → C.modPow b e m = b ^ e % m) (p : Bytes) (h : IsDhPrime p)
    (value : Bytes) : ValueGuarded C value p ↔ value ≠ toBE kDhBytes (ofBE p - 1) := by
  have := Fact.mk h.prime
  have hthree := h.three_lt
  constructor
  · intro hguarded heq
    rw [heq] at hguarded
    have hlast := h.ofBE_last
    have haccepted : validatePublicValue (toBE kDhBytes (ofBE p - 1)) p = .ok () := by
      rw [validatePublicValue_eq_ok_iff, hlast]
      exact ⟨h.length, length_toBE _ _, by omega, by omega⟩
    obtain ⟨hlt, -, hfree⟩ := hguarded haccepted
    exact hfree ((h.forcedKey_iff hmod _).2 ((h.degenerate_iff (by omega) hlt).2 hlast))
  · intro hne haccepted
    obtain ⟨-, hlength, hone, hlt⟩ := validatePublicValue_eq_ok_iff.1 haccepted
    have hfree : ¬ Degenerate (ofBE value : ZMod (ofBE p)) := by
      rw [h.degenerate_iff hone hlt, ← h.eq_last_iff hlength]
      exact hne
    refine ⟨hlt, ?_, fun hforced => hfree ((h.forcedKey_iff hmod value).1 hforced)⟩
    rw [← not_le, orderOf_le_two_iff]
    exact hfree

/-! ### The operations -/

section Operations

variable {session session' : DhSession}

theorem forced_shareKey (h : IsDhPrime session.p) (hmod : ∀ b e m, 1 < m → C.modPow b e m = b ^ e % m) :
    Forced (ofBE session.p) (ofBE (session.shareKey C (toBE kDhBytes (ofBE session.p - 1))).sharedKey) := by
  have hthree := h.three_lt
  have hlast := h.ofBE_last
  refine (h.forced_computeShared_iff hmod _ session.privateValue).2 (Degenerate.pow ?_ _)
  rw [hlast, degenerate_natCast_iff h.validConfig.one_lt (by omega)]
  exact .inr (.inr rfl)

/-- **A caller whose peer sends the last value has a key that everyone knows.** -/
theorem forced_of_acceptPeerGB (h : IsDhPrime session.p) (hmod : ∀ b e m, 1 < m → C.modPow b e m = b ^ e % m) :
    ∃ session', session.acceptPeerGB C (toBE kDhBytes (ofBE session.p - 1)) = .ok session' ∧
      Forced (ofBE session.p) (ofBE session'.sharedKey) := by
  have hthree := h.three_lt
  refine ⟨_, DhSession.acceptPeerGB_eq_ok_iff.2 ⟨?_, rfl⟩, forced_shareKey h hmod⟩
  rw [validatePublicValue_eq_ok_iff, h.ofBE_last]
  exact ⟨h.length, length_toBE _ _, by omega, by omega⟩

/-- **So has a callee**, where the call is confirmed. -/
theorem forced_of_confirmPeerGAOrB (h : IsDhPrime session.p) (hmod : ∀ b e m, 1 < m → C.modPow b e m = b ^ e % m)
    {expectedFingerprint : Int64}
    (hconfirm : session.confirmPeerGAOrB C (toBE kDhBytes (ofBE session.p - 1)) expectedFingerprint = .ok session') :
    Forced (ofBE session.p) (ofBE session'.sharedKey) := by
  obtain ⟨-, -, rfl⟩ := DhSession.of_confirmPeerGAOrB hconfirm
  exact forced_shareKey h hmod

end Operations

/-! ### A prime of 2048 bits -/

def dhPrimeNumber : ℕ := 3261 * 2 ^ (2035 + 1) + 1

def dhPrime : Bytes := toBE kDhBytes dhPrimeNumber

theorem prime_dhPrimeNumber : dhPrimeNumber.Prime := by
  refine prime_of_squareMod (e := 3261) (n := 2035) (a := 5) rfl (by decide) (by decide +kernel) ?_
  intro q hq hdvd
  have hfactors : q ∣ 3 * 1087 := hdvd
  rcases (Nat.Prime.dvd_mul hq).1 hfactors with h | h
  · rw [(Nat.prime_dvd_prime_iff_eq hq Nat.prime_three).1 h]
    decide +kernel
  · rw [(Nat.prime_dvd_prime_iff_eq hq (by norm_num)).1 h]
    decide +kernel

theorem ofBE_dhPrime : ofBE dhPrime = dhPrimeNumber := by
  rw [dhPrime, ofBE_toBE, Nat.mod_eq_of_lt (by decide +kernel)]

theorem isDhPrime_dhPrime : IsDhPrime dhPrime where
  length := length_toBE _ _
  large := by
    rw [ofBE_dhPrime]
    decide +kernel
  prime := by
    rw [ofBE_dhPrime]
    exact prime_dhPrimeNumber

/-- The value 2 modulo that prime. -/
theorem guarded_two : ValueGuarded sampleCrypto (toBE kDhBytes 2) dhPrime :=
  (peer_value_guarded_iff sampleCrypto (fun _ _ _ _ => rfl) dhPrime isDhPrime_dhPrime (toBE kDhBytes 2)).2 (by
    have hthree := isDhPrime_dhPrime.three_lt
    rw [Ne, isDhPrime_dhPrime.eq_last_iff (length_toBE _ _), isDhPrime_dhPrime.ofBE_small (by omega)]
    omega)

/-- The last value below that prime is accepted, with the order 2. -/
theorem last_value_accepted :
    ¬ ∀ (C : Crypto) (p value : Bytes), (∀ b e m, 1 < m → C.modPow b e m = b ^ e % m) → IsDhPrime p →
      ValueGuarded C value p := by
  intro h
  have hthree := isDhPrime_dhPrime.three_lt
  have hlast := isDhPrime_dhPrime.ofBE_last
  have haccepted : validatePublicValue (toBE kDhBytes (ofBE dhPrime - 1)) dhPrime = .ok () := by
    rw [validatePublicValue_eq_ok_iff, hlast]
    exact ⟨isDhPrime_dhPrime.length, length_toBE _ _, by omega, by omega⟩
  have hfree := (h sampleCrypto dhPrime _ (fun _ _ _ _ => rfl) isDhPrime_dhPrime haccepted).2.2
  refine hfree ((isDhPrime_dhPrime.forcedKey_iff (fun _ _ _ _ => rfl) _).2 ?_)
  rw [isDhPrime_dhPrime.degenerate_iff (by omega) (by omega)]
  exact hlast

end VianiumVoip.Engine
