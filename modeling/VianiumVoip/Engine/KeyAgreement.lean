import VianiumVoip.Engine.IncomingAuthentication

/-!
# Agreement of the two sides on the key

One engine makes a call and another takes it.  Both pad their values to 256 bytes, so that a value read back is the
number it was written from; then both keys are the same power of the generator, and the callee finds the hash and the
fingerprint that the caller sent (`keys_agree`).
-/

namespace VianiumVoip.Engine

open VianiumVoip.Lib

variable {C : Crypto}

/-! ### Configurations and values -/

/-- A configuration that is accepted. -/
structure ValidConfig (g : ℤ) (p : Bytes) : Prop where
  generator : 2 ≤ g ∧ g ≤ 7
  length : p.length = kDhBytes
  large : 2 ^ 2047 ≤ ofBE p

theorem validConfig_of_ok {g : ℤ} {p : Bytes} (h : validateDhConfig g p = .ok ()) : ValidConfig g p := by
  unfold validateDhConfig at h
  split_ifs at h with hgenerator hlength hrange
  · exact ⟨by simpa [isSupportedGenerator] using hgenerator, not_not.1 hlength,
      Nat.le_of_not_lt fun hlt => hrange (.inl hlt)⟩

namespace ValidConfig

variable {g : ℤ} {p : Bytes} (h : ValidConfig g p)
include h

theorem one_lt : 1 < ofBE p := (Nat.one_lt_two_pow (by decide)).trans_le h.large

theorem ofBE_lt_pow : ofBE p < 256 ^ kDhBytes := by
  have := ofBE_lt p
  rwa [h.length] at this

theorem ofBE_residue (n : ℕ) : ofBE (toBE kDhBytes (n % ofBE p)) = n % ofBE p := by
  have hlt := Nat.mod_lt n (lt_trans Nat.zero_lt_one h.one_lt)
  rw [ofBE_toBE, Nat.mod_eq_of_lt (hlt.trans h.ofBE_lt_pow)]

variable (hmod : ∀ b e m, 1 < m → C.modPow b e m = b ^ e % m)
include hmod

theorem ofBE_computePublic (privateValue : Bytes) :
    ofBE (computePublic C g privateValue p) = (g % 2 ^ 32).toNat ^ ofBE privateValue % ofBE p := by
  rw [computePublic, hmod _ _ _ h.one_lt, h.ofBE_residue]

/-- **Both sides compute the same power of the generator.** -/
theorem computeShared_comm (a b : Bytes) :
    computeShared C (computePublic C g b p) a p = computeShared C (computePublic C g a p) b p := by
  have hpower (x y : Bytes) : computeShared C (computePublic C g x p) y p
      = toBE kDhBytes ((g % 2 ^ 32).toNat ^ (ofBE x * ofBE y) % ofBE p) := by
    rw [computeShared, hmod _ _ _ h.one_lt, h.ofBE_computePublic hmod, ← Nat.pow_mod, pow_mul]
  rw [hpower, hpower, Nat.mul_comm]

end ValidConfig

theorem length_computeShared (peerPublic privateValue p : Bytes) :
    (computeShared C peerPublic privateValue p).length = kDhBytes := length_toBE ..

/-! ### What a successful operation leaves -/

variable {e e' : VoipEngine} {randomId callId g : ℤ} {p : Bytes} {draws : ℕ → Draw} {s : DhSession}
  {material : VoipDhMaterial}

theorem of_createOutgoingDh (h : e.createOutgoingDh C randomId g p draws = (e', .ok material)) :
    ValidConfig g p ∧ e'.outgoingByRandom randomId = some (DhSession.draw C { randomId := randomId } g p draws) ∧
      material.publicValue = computePublic C g (pickPrivateExponent p draws) p := by
  unfold VoipEngine.createOutgoingDh at h
  cases hconfig : validateDhConfig g p with
  | error error =>
    rw [hconfig] at h
    cases h
  | ok _ =>
    rw [hconfig] at h
    obtain ⟨rfl, hmaterial⟩ := Prod.mk.inj h
    obtain rfl := Except.ok.inj hmaterial
    exact ⟨validConfig_of_ok hconfig, Function.update_self .., rfl⟩

theorem of_bindOutgoingCall (h : e.bindOutgoingCall randomId callId = (e', .ok ()))
    (hs : e.outgoingByRandom randomId = some s) : e'.calls callId = some { s with callId := callId } := by
  unfold VoipEngine.bindOutgoingCall at h
  by_cases hid : callId ≤ 0
  · rw [if_pos hid] at h
    cases h
  rw [if_neg hid, hs] at h
  obtain ⟨rfl, -⟩ := Prod.mk.inj h
  exact Function.update_self ..

theorem of_registerIncomingGAHash {gAHash : Bytes} (h : e.registerIncomingGAHash callId gAHash = (e', .ok ())) :
    gAHash.length = kSha256DigestSize ∧ ∃ s, e'.calls callId = some s ∧ s.peerGAHash = gAHash := by
  unfold VoipEngine.registerIncomingGAHash at h
  by_cases hid : callId ≤ 0
  · rw [if_pos hid] at h
    cases h
  by_cases hlen : gAHash.length = kSha256DigestSize
  · rw [if_neg hid, if_neg (not_not_intro hlen)] at h
    obtain ⟨rfl, -⟩ := Prod.mk.inj h
    exact ⟨hlen, _, Function.update_self .., rfl⟩
  · rw [if_neg hid, if_pos hlen] at h
    cases h

theorem of_createIncomingDh (h : e.createIncomingDh C callId g p draws = (e', .ok material))
    (hs : e.calls callId = some s) :
    ValidConfig g p ∧ e'.calls callId = some { s.draw C g p draws with incoming := true } ∧
      material.publicValue = computePublic C g (pickPrivateExponent p draws) p := by
  unfold VoipEngine.createIncomingDh at h
  cases hconfig : validateDhConfig g p with
  | error error =>
    rw [hconfig] at h
    cases h
  | ok _ =>
    rw [hconfig, hs] at h
    simp only at h
    by_cases hhash : s.peerGAHash = []
    · rw [if_pos hhash] at h
      cases h
    rw [if_neg hhash] at h
    obtain ⟨rfl, hmaterial⟩ := Prod.mk.inj h
    obtain rfl := Except.ok.inj hmaterial
    exact ⟨validConfig_of_ok hconfig, Function.update_self .., rfl⟩

theorem of_acceptPeerGB {gB : Bytes} (h : e.acceptPeerGB C callId gB = (e', .ok material))
    (hs : e.calls callId = some s) :
    e'.calls callId = some (s.shareKey C gB) ∧ material.keyFingerprint = (s.shareKey C gB).keyFingerprint := by
  unfold VoipEngine.acceptPeerGB at h
  rw [hs] at h
  simp only at h
  cases haccept : s.acceptPeerGB C gB with
  | error error =>
    rw [haccept] at h
    cases h
  | ok s' =>
    rw [haccept] at h
    obtain ⟨-, rfl⟩ := DhSession.acceptPeerGB_eq_ok_iff.1 haccept
    obtain ⟨rfl, hmaterial⟩ := Prod.mk.inj h
    cases hmaterial
    exact ⟨Function.update_self .., rfl⟩

/-- The committed value, with the fingerprint of its key or with none, is refused only if it is out of range. -/
theorem DhSession.confirmPeerGAOrB_committed {gA : Bytes} {expectedFingerprint : Int64}
    (hhash : s.peerGAHash = C.sha256 gA)
    (hfingerprint : expectedFingerprint = 0 ∨ (s.shareKey C gA).keyFingerprint = expectedFingerprint) :
    s.confirmPeerGAOrB C gA expectedFingerprint
      = match validatePublicValue gA s.p with
        | .error error => .error error
        | .ok () => .ok (s.shareKey C gA) := by
  unfold DhSession.confirmPeerGAOrB
  rw [if_neg fun h => h.2 hhash.symm]
  cases validatePublicValue gA s.p with
  | error error => rfl
  | ok _ =>
    simp only
    rw [if_neg fun h => hfingerprint.elim h.1 h.2]

theorem confirmPeerGAOrB_eq {gA : Bytes} {expectedFingerprint : Int64} (hs : e.calls callId = some s)
    (hhash : s.peerGAHash = C.sha256 gA) (hfingerprint : (s.shareKey C gA).keyFingerprint = expectedFingerprint) :
    e.confirmPeerGAOrB C callId gA expectedFingerprint
      = match validatePublicValue gA s.p with
        | .error error => (e, .error error)
        | .ok () => (e.storeCall callId (s.shareKey C gA), .ok ()) := by
  unfold VoipEngine.confirmPeerGAOrB
  rw [hs]
  simp only [DhSession.confirmPeerGAOrB_committed hhash (.inr hfingerprint)]
  cases validatePublicValue gA s.p <;> rfl

theorem kind_of_validatePublicValue {value : Bytes} {error : VoipError} (h : validatePublicValue value p = .error error) :
    error.kind = .invalidArgument := by
  unfold validatePublicValue at h
  split_ifs at h <;> cases h <;> rfl

/-! ### The agreement -/

/-- **The two sides agree.**  Whatever the engines held before and whatever was drawn: once the caller has drawn `g_a`,
bound the call and accepted `g_b`, and the callee has registered the hash of `g_a` and drawn `g_b`, the callee checks
the range of `g_a` and does not fail on the hash or the fingerprint of the caller; and when it succeeds, both keys have
256 bytes and are equal, with equal fingerprints. -/
theorem keys_agree (C : Crypto) (hmod : ∀ b e m, 1 < m → C.modPow b e m = b ^ e % m)
    (a₀ a₁ a₂ a₃ b₀ b₁ b₂ : VoipEngine) (randomId callIdA callIdB g : ℤ) (p : Bytes) (drawsA drawsB : ℕ → Draw)
    (caller callee accepted : VoipDhMaterial)
    (houtgoing : a₀.createOutgoingDh C randomId g p drawsA = (a₁, .ok caller))
    (hbind : a₁.bindOutgoingCall randomId callIdA = (a₂, .ok ()))
    (hregister : b₀.registerIncomingGAHash callIdB (C.sha256 caller.publicValue) = (b₁, .ok ()))
    (hincoming : b₁.createIncomingDh C callIdB g p drawsB = (b₂, .ok callee))
    (haccept : a₂.acceptPeerGB C callIdA callee.publicValue = (a₃, .ok accepted)) :
    (b₂.confirmPeerGAOrB C callIdB caller.publicValue accepted.keyFingerprint).2
        = validatePublicValue caller.publicValue p ∧
    (∀ b₃ error, b₂.confirmPeerGAOrB C callIdB caller.publicValue accepted.keyFingerprint = (b₃, .error error) →
      error.kind ≠ .fingerprintMismatch) ∧
    ∀ b₃, b₂.confirmPeerGAOrB C callIdB caller.publicValue accepted.keyFingerprint = (b₃, .ok ()) →
      ∃ sA sB, a₃.calls callIdA = some sA ∧ b₃.calls callIdB = some sB ∧ sA.sharedReady = true ∧
        sB.sharedReady = true ∧ sA.sharedKey = sB.sharedKey ∧ sA.sharedKey.length = kDhBytes ∧
        sA.keyFingerprint = sB.keyFingerprint ∧ accepted.keyFingerprint = sB.keyFingerprint := by
  obtain ⟨hconfig, hdrawn, hgA⟩ := of_createOutgoingDh houtgoing
  have hcallA := of_bindOutgoingCall hbind hdrawn
  obtain ⟨-, s, hs, hhash⟩ := of_registerIncomingGAHash hregister
  obtain ⟨-, hcallB, hgB⟩ := of_createIncomingDh hincoming hs
  obtain ⟨hsharedA, hfingerprint⟩ := of_acceptPeerGB haccept hcallA
  -- the key of the caller and the one of the callee
  have hkey := hconfig.computeShared_comm hmod (pickPrivateExponent p drawsA) (pickPrivateExponent p drawsB)
  have hkeys : (DhSession.shareKey C { DhSession.draw C { randomId := randomId } g p drawsA with callId := callIdA }
        callee.publicValue).sharedKey
      = (DhSession.shareKey C { s.draw C g p drawsB with incoming := true } caller.publicValue).sharedKey := by
    rw [hgA, hgB]
    exact hkey
  have hprints : accepted.keyFingerprint
      = (DhSession.shareKey C { s.draw C g p drawsB with incoming := true } caller.publicValue).keyFingerprint := by
    rw [hfingerprint]
    exact congrArg (fingerprintForKey C) hkeys
  have hconfirm := confirmPeerGAOrB_eq (C := C) hcallB hhash hprints.symm
  rw [hconfirm]
  refine ⟨?_, ?_, ?_⟩
  · show _ = validatePublicValue caller.publicValue p
    split
    · next hvalid => exact hvalid.symm
    · next hvalid => exact hvalid.symm
  · intro b₃ error herror
    split at herror
    · next hvalid =>
      cases herror
      rw [kind_of_validatePublicValue hvalid]
      exact fun h => by cases h
    · cases herror
  · intro b₃ hok
    split at hok
    · cases hok
    · cases hok
      exact ⟨_, _, hsharedA, Function.update_self .., rfl, rfl, hkeys, length_computeShared .., by
        rw [← hfingerprint, hprints], hprints⟩

/-! ### Small values -/

theorem ofBE_small {n : ℕ} (h : n < 256) : ofBE (toBE kDhBytes n) = n := by
  rw [ofBE_toBE, Nat.mod_eq_of_lt (h.trans_le (Nat.le_self_pow (by decide) 256))]

/-- A small exponent, drawn again and again. -/
def smallDraws (n : ℕ) : ℕ → Draw := fun _ => ⟨toBE kDhBytes n, length_toBE kDhBytes n⟩

theorem pickPrivateExponent_small {n : ℕ} (hn : 1 < n) (hlt : n < 256) (hp : n < ofBE p) :
    pickPrivateExponent p (smallDraws n) = toBE kDhBytes n := by
  have hrange : 1 < ofBE (toBE kDhBytes n) ∧ ofBE (toBE kDhBytes n) < ofBE p := by
    rw [ofBE_small hlt]
    exact ⟨hn, hp⟩
  simp [pickPrivateExponent, smallDraws, List.range_succ_eq_map, hrange]

theorem validatePublicValue_small {n : ℕ} (hn : 1 < n) (hlt : n < 256) (hlen : p.length = kDhBytes)
    (hp : n < ofBE p) : validatePublicValue (toBE kDhBytes n) p = .ok () := by
  unfold validatePublicValue
  rw [if_neg (not_not_intro hlen), if_neg (not_not_intro (length_toBE ..)), ofBE_small hlt, if_neg (by omega)]

theorem length_samplePrime : samplePrime.length = kDhBytes := List.length_replicate

theorem samplePrime_large : 256 < ofBE samplePrime := by decide +kernel

theorem samplePrime_config {g : ℤ} (h : isSupportedGenerator g = true) : validateDhConfig g samplePrime = .ok () := by
  unfold validateDhConfig
  rw [if_neg (not_not_intro h), if_neg (not_not_intro length_samplePrime), if_neg (by decide +kernel)]

/-! ### A call -/

/-- Both sides draw the exponent 2; `g_a` and `g_b` are 4 and the key is 16. -/
theorem draw_sample (s : DhSession) : s.draw sampleCrypto 2 samplePrime (smallDraws 2) =
    { s with
      g := 2
      p := samplePrime
      privateValue := toBE kDhBytes 2
      publicValue := toBE kDhBytes 4
      publicHash := sampleCrypto.sha256 (toBE kDhBytes 4) } := by
  have hpublic : computePublic sampleCrypto 2 (toBE kDhBytes 2) samplePrime = toBE kDhBytes 4 := by
    unfold computePublic
    rw [ofBE_small (by omega)]
    exact congrArg _ (Nat.mod_eq_of_lt (lt_trans (by decide) samplePrime_large))
  unfold DhSession.draw
  rw [pickPrivateExponent_small (by omega) (by omega) (lt_trans (by omega) samplePrime_large)]
  simp only [hpublic]

/-- What each side returns after it has drawn. -/
def sampleMaterial : VoipDhMaterial where
  publicValue := toBE kDhBytes 4
  publicHash := sampleCrypto.sha256 (toBE kDhBytes 4)

theorem keys_agree_sample :
    ∃ a₁ a₂ a₃ b₁ b₂ b₃ accepted sA sB,
      ({} : VoipEngine).createOutgoingDh sampleCrypto 7 2 samplePrime (smallDraws 2) = (a₁, .ok sampleMaterial) ∧
        a₁.bindOutgoingCall 7 1 = (a₂, .ok ()) ∧
        ({} : VoipEngine).registerIncomingGAHash 2 (sampleCrypto.sha256 (toBE kDhBytes 4)) = (b₁, .ok ()) ∧
        b₁.createIncomingDh sampleCrypto 2 2 samplePrime (smallDraws 2) = (b₂, .ok sampleMaterial) ∧
        a₂.acceptPeerGB sampleCrypto 1 (toBE kDhBytes 4) = (a₃, .ok accepted) ∧
        b₂.confirmPeerGAOrB sampleCrypto 2 (toBE kDhBytes 4) accepted.keyFingerprint = (b₃, .ok ()) ∧
        a₃.calls 1 = some sA ∧ b₃.calls 2 = some sB ∧ sA.sharedKey = sB.sharedKey ∧
        sA.keyFingerprint = sB.keyFingerprint := by
  have hconfig : validateDhConfig 2 samplePrime = .ok () := samplePrime_config (by decide)
  have hvalid : validatePublicValue (toBE kDhBytes 4) samplePrime = .ok () :=
    validatePublicValue_small (by omega) (by omega) length_samplePrime (lt_trans (by omega) samplePrime_large)
  have hlen : (sampleCrypto.sha256 (toBE kDhBytes 4)).length = kSha256DigestSize := length_toBE ..
  have hne : sampleCrypto.sha256 (toBE kDhBytes 4) ≠ [] := List.ne_nil_of_length_pos (by rw [hlen]; decide)
  -- the caller draws, binds and accepts; the callee registers and draws
  obtain ⟨a₁, houtgoing⟩ : ∃ a₁, ({} : VoipEngine).createOutgoingDh sampleCrypto 7 2 samplePrime (smallDraws 2)
      = (a₁, .ok sampleMaterial) := by
    unfold VoipEngine.createOutgoingDh
    rw [hconfig]
    simp only [draw_sample]
    exact ⟨_, rfl⟩
  obtain ⟨-, ha₁, -⟩ := of_createOutgoingDh houtgoing
  obtain ⟨a₂, hbind⟩ : ∃ a₂, a₁.bindOutgoingCall 7 1 = (a₂, .ok ()) := by
    unfold VoipEngine.bindOutgoingCall
    rw [if_neg (by omega), ha₁]
    exact ⟨_, rfl⟩
  have ha₂ := of_bindOutgoingCall hbind ha₁
  obtain ⟨b₁, hregister⟩ : ∃ b₁, ({} : VoipEngine).registerIncomingGAHash 2 (sampleCrypto.sha256 (toBE kDhBytes 4))
      = (b₁, .ok ()) := by
    unfold VoipEngine.registerIncomingGAHash
    rw [if_neg (by omega), if_neg (not_not_intro hlen)]
    exact ⟨_, rfl⟩
  obtain ⟨-, s, hs, hhash⟩ := of_registerIncomingGAHash hregister
  obtain ⟨b₂, hincoming⟩ : ∃ b₂, b₁.createIncomingDh sampleCrypto 2 2 samplePrime (smallDraws 2)
      = (b₂, .ok sampleMaterial) := by
    unfold VoipEngine.createIncomingDh
    rw [hconfig, hs]
    simp only [draw_sample]
    rw [if_neg (by rw [hhash]; exact hne)]
    exact ⟨_, rfl⟩
  obtain ⟨-, hb₂, -⟩ := of_createIncomingDh hincoming hs
  obtain ⟨a₃, accepted, haccept⟩ : ∃ a₃ accepted, a₂.acceptPeerGB sampleCrypto 1 (toBE kDhBytes 4)
      = (a₃, .ok accepted) := by
    rw [draw_sample] at ha₂
    unfold VoipEngine.acceptPeerGB DhSession.acceptPeerGB
    rw [ha₂]
    simp only [hvalid]
    exact ⟨_, _, rfl⟩
  have hmod : ∀ b e m, 1 < m → sampleCrypto.modPow b e m = b ^ e % m := fun _ _ _ _ => rfl
  have hagree := keys_agree sampleCrypto hmod {} a₁ a₂ a₃ {} b₁ b₂ 7 1 2 2 samplePrime (smallDraws 2) (smallDraws 2)
    sampleMaterial sampleMaterial accepted houtgoing hbind hregister hincoming haccept
  obtain ⟨b₃, hconfirm⟩ : ∃ b₃, b₂.confirmPeerGAOrB sampleCrypto 2 (toBE kDhBytes 4) accepted.keyFingerprint
      = (b₃, .ok ()) := ⟨_, Prod.ext rfl (hagree.1.trans hvalid)⟩
  obtain ⟨sA, sB, hA, hB, -, -, hkey, -, hfingerprint, -⟩ := hagree.2.2 b₃ hconfirm
  exact ⟨a₁, a₂, a₃, b₁, b₂, b₃, accepted, sA, sB, houtgoing, hbind, hregister, hincoming, haccept, hconfirm, hA, hB,
    hkey, hfingerprint⟩

end VianiumVoip.Engine
