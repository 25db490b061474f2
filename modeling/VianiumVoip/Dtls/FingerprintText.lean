import VianiumVoip.Dtls.ClientSession

/-!
# Fingerprint texts

`ToSha256Fingerprint` writes a hash as text and `ParseHexFingerprint` reads it back, so the text says as much as the
hash.  What it does not say is *which* certificate was hashed: the function builds one on the spot, and its text
is the fingerprint of another certificate exactly when the platform answered both calls alike
(`toSha256Fingerprint_eq_iff`).
-/

namespace VianiumVoip.Dtls

open VianiumVoip.Lib VianiumVoip.Cert VianiumVoip.Cert.EcdsaP256KeyPair

/-! ### The text of a fingerprint -/

theorem hexNybble_hexDigit (x : UInt8) :
    hexNybble (hexDigit (x >>> 4)) = some (x.toNat / 16) ∧
      hexNybble (hexDigit (x &&& 0x0F)) = some (x.toNat % 16) := by
  exact forall_byte (by decide +kernel) x

theorem hexDigit_not_separator (n : UInt8) (h : hexNybble (hexDigit n) ≠ none) :
    ¬ (hexDigit n = ':' ∨ hexDigit n = ' ' ∨ hexDigit n = '\r' ∨
      hexDigit n = '\n' ∨ hexDigit n = '\t') := by
  rintro (h' | h' | h' | h' | h') <;> exact h (by rw [h']; decide)

theorem parseHexLoop_cons (out : Bytes) (hi : Option ℕ) (c : Char) (cs : List Char) :
    parseHexLoop out hi (c :: cs) =
      if c = ':' ∨ c = ' ' ∨ c = '\r' ∨ c = '\n' ∨ c = '\t' then parseHexLoop out hi cs
      else
        match hexNybble c, hi with
        | none, _ => none
        | some n, none => parseHexLoop out (some n) cs
        | some n, some h => parseHexLoop (out ++ [UInt8.ofNat (h <<< 4 ||| n)]) none cs := by
  cases hi <;> rfl

theorem parseHexLoop_byte (out : Bytes) (x : UInt8) (cs : List Char) :
    parseHexLoop out none (hexDigit (x >>> 4) :: hexDigit (x &&& 0x0F) :: cs)
      = parseHexLoop (out ++ [x]) none cs := by
  obtain ⟨hhigh, hlow⟩ := hexNybble_hexDigit x
  have hbyte : UInt8.ofNat ((x.toNat / 16) <<< 4 ||| x.toNat % 16) = x := by
    rw [← Nat.shiftLeft_add_eq_or_of_lt (by omega), Nat.shiftLeft_eq]
    apply UInt8.toNat_inj.1
    have := x.toNat_lt
    rw [UInt8.toNat_ofNat']
    omega
  rw [parseHexLoop_cons, if_neg (hexDigit_not_separator _ (by simp [hhigh])), hhigh]
  simp only
  rw [parseHexLoop_cons, if_neg (hexDigit_not_separator _ (by simp [hlow])), hlow]
  simp only [hbyte]

/-- **A fingerprint is read back from its text.** -/
theorem parseHexFingerprint_fingerprintText (hash : Bytes) :
    parseHexFingerprint (fingerprintText hash) = hash := by
  have hloop : ∀ (hash out : Bytes),
      parseHexLoop out none (fingerprintText hash) = some (out ++ hash) := by
    intro hash
    induction hash with
    | nil =>
      intro out
      rw [fingerprintText, parseHexLoop, List.append_nil]
    | cons x hash ih =>
      intro out
      rcases hash with _ | ⟨y, hash⟩
      · rw [fingerprintText, parseHexLoop_byte, parseHexLoop]
      · rw [fingerprintText, parseHexLoop_byte, parseHexLoop_cons, if_pos (.inl rfl), ih,
          List.append_assoc]
        rfl
  rw [parseHexFingerprint, hloop]
  rfl

theorem fingerprintText_injective : Function.Injective fingerprintText :=
  Function.LeftInverse.injective parseHexFingerprint_fingerprintText

end VianiumVoip.Dtls

namespace VianiumVoip.Cert

open VianiumVoip.Lib VianiumVoip.Dtls

namespace EcdsaP256KeyPair

/-! ### The fingerprint of one call and the certificate of another -/

/-- The certificate that is built from a draw; empty when the draw failed. -/
def drawnDer (draw : Option CertificateFields) : Bytes := (draw.map CertificateFields.der).getD []

/-- The platform answered the call for the fingerprint, and answers the call for a certificate the same way; or
the two certificates are a collision of SHA-256. -/
def SameCertificate (P : Platform) (announced draw : Option CertificateFields) : Prop :=
  ∃ fields, announced = some fields ∧
    (draw = some fields ∨ fields.der ≠ drawnDer draw ∧ P.sha256 fields.der = P.sha256 (drawnDer draw))

theorem der_injective_option {fields : CertificateFields} {draw : Option CertificateFields}
    (h : fields.der = drawnDer draw) : draw = some fields := by
  cases draw with
  | none => exact absurd h (List.cons_ne_nil _ _)
  | some fields' => rw [CertificateFields.der_injective h]

theorem toSha256Fingerprint_eq (P : Platform) (kp : EcdsaP256KeyPair) : (kp.toSha256Fingerprint P).1 =
    ((kp.drawFields P).map fun fields => fingerprintText (P.sha256 fields.der)).getD [] := by
  unfold toSha256Fingerprint
  dsimp only
  rw [toX509SelfSignedDer_eq]
  cases kp.drawFields P with
  | none => rfl
  | some fields =>
    have hne : fields.der ≠ [] := List.cons_ne_nil _ _
    simp [hne, P.sha256_length]

/-- The announced text is that of a certificate exactly when it is the same certificate. -/
theorem toSha256Fingerprint_eq_iff (P : Platform) (kp : EcdsaP256KeyPair) (draw : Option CertificateFields) :
    (kp.toSha256Fingerprint P).1 = fingerprintText (P.sha256 (drawnDer draw)) ↔
      SameCertificate P (kp.drawFields P) draw := by
  rw [toSha256Fingerprint_eq, SameCertificate]
  cases kp.drawFields P with
  | none =>
    constructor
    · intro h
      -- the text of a failed call is empty, that of a hash is not
      have hempty : fingerprintText [] = fingerprintText (P.sha256 (drawnDer draw)) := h
      have hlen := P.sha256_length (drawnDer draw)
      rw [← fingerprintText_injective hempty] at hlen
      simp at hlen
    · rintro ⟨fields, hfields, -⟩
      cases hfields
  | some fields =>
    rw [Option.map_some, Option.getD_some, fingerprintText_injective.eq_iff]
    constructor
    · intro hsha
      by_cases heq : fields.der = drawnDer draw
      · exact ⟨fields, rfl, .inl (der_injective_option heq)⟩
      · exact ⟨fields, rfl, .inr ⟨heq, hsha⟩⟩
    · rintro ⟨fields', hfields, hsame⟩
      cases hfields
      rcases hsame with rfl | ⟨-, hsha⟩
      · rfl
      · exact hsha

end EcdsaP256KeyPair

/-! ### The identity object of the API -/

/-- `EcdsaP256Identity`: a key pair with a certificate and a fingerprint in cache. -/
structure EcdsaP256Identity where
  native : Option EcdsaP256KeyPair
  cachedDer : Option Bytes := none
  cachedFingerprint : Option (List Char) := none

/-- `EnsureCertCached` -/
def EcdsaP256Identity.ensureCertCached (P : Platform) (identity : EcdsaP256Identity) : EcdsaP256Identity :=
  match identity.native with
  | none => identity
  | some kp =>
    if identity.cachedDer.isSome ∧ identity.cachedFingerprint.isSome then identity
    else
      let (der, kp) := kp.toX509SelfSignedDer P
      let (fp, kp) := kp.toSha256Fingerprint P
      { native := some kp, cachedDer := some der, cachedFingerprint := some fp }

/-- **The cached fingerprint is that of the cached certificate** exactly when the platform answers two calls in a
row alike. -/
theorem EcdsaP256Identity.ensureCertCached_iff (P : Platform) (kp : EcdsaP256KeyPair) :
    (∃ der fp, (EcdsaP256Identity.ensureCertCached P { native := some kp }).cachedDer = some der ∧
      (EcdsaP256Identity.ensureCertCached P { native := some kp }).cachedFingerprint = some fp ∧
      fp = EcdsaP256KeyPair.fingerprintText (P.sha256 der)) ↔
    EcdsaP256KeyPair.SameCertificate P ((kp.toX509SelfSignedDer P).2.drawFields P) (kp.drawFields P) := by
  rw [← EcdsaP256KeyPair.toSha256Fingerprint_eq_iff, EcdsaP256KeyPair.drawnDer,
    ← EcdsaP256KeyPair.toX509SelfSignedDer_eq]
  constructor
  · rintro ⟨der, fp, hder, hfp, heq⟩
    cases hder
    cases hfp
    exact heq
  · intro h
    exact ⟨_, _, rfl, rfl, h⟩

end VianiumVoip.Cert
