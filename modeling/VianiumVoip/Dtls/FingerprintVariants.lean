import VianiumVoip.Dtls.Authentication
import VianiumVoip.Dtls.FingerprintText

/-!
# Spellings of a fingerprint

`ParseHexFingerprint` looks at neither the case of the digits nor at the separators (`parseHexFingerprint_map_toLower`,
`parseHexFingerprint_filter`), so that every spelling of a digest gives that digest.  A text with any other character or
with half a byte gives nothing, and no certificate has an empty digest: `fingerprint_spellings` has both.
-/

namespace VianiumVoip.Dtls

open VianiumVoip.Lib VianiumVoip.Cert EcdsaP256KeyPair

/-- The characters that are skipped. -/
def isSeparator (c : Char) : Bool := c = ':' ∨ c = ' ' ∨ c = '\r' ∨ c = '\n' ∨ c = '\t'

def isHexNybble (c : Char) : Bool := (hexNybble c).isSome

/-- A text with a character that is neither skipped nor a digit, or with an odd number of digits. -/
def Malformed (fp : List Char) : Prop :=
  (∃ c ∈ fp, isSeparator c = false ∧ hexNybble c = none) ∨ (fp.filter isHexNybble).length % 2 = 1

/-! ### Characters -/

theorem hexNybble_eq (c : Char) :
    hexNybble c =
      if 48 ≤ c.toNat ∧ c.toNat ≤ 57 then some (c.toNat - 48)
      else if 97 ≤ c.toNat ∧ c.toNat ≤ 102 then some (10 + (c.toNat - 97))
      else if 65 ≤ c.toNat ∧ c.toNat ≤ 70 then some (10 + (c.toNat - 65))
      else none := by
  simp only [hexNybble, Char.le_def, UInt32.le_iff_toNat_le]
  rfl

theorem isSeparator_iff (c : Char) :
    isSeparator c = true ↔
      c.toNat = 58 ∨ c.toNat = 32 ∨ c.toNat = 13 ∨ c.toNat = 10 ∨ c.toNat = 9 := by
  have heq (d : Char) : c = d ↔ c.toNat = d.toNat := ⟨congrArg Char.toNat, Char.toNat_inj.1⟩
  rw [isSeparator, decide_eq_true_eq, heq, heq, heq, heq, heq]
  rfl

theorem toNat_toLower (c : Char) :
    c.toLower.toNat = if 65 ≤ c.toNat ∧ c.toNat ≤ 90 then c.toNat + 32 else c.toNat := by
  have hupper : c.val ≥ 'A'.val ∧ c.val ≤ 'Z'.val ↔ 65 ≤ c.toNat ∧ c.toNat ≤ 90 := by
    simp only [ge_iff_le, UInt32.le_iff_toNat_le]
    rfl
  delta Char.toLower
  split
  · next h =>
    have hle := (hupper.1 h).2
    have hsum : (c.val + ('a'.val - 'A'.val)).toNat = (c.toNat + 32) % 2 ^ 32 := UInt32.toNat_add ..
    rw [if_pos (hupper.1 h)]
    exact hsum.trans (Nat.mod_eq_of_lt (by omega))
  · next h => rw [if_neg fun hrange => h (hupper.2 hrange)]

theorem hexNybble_toLower (c : Char) : hexNybble c.toLower = hexNybble c := by
  rw [hexNybble_eq, hexNybble_eq, toNat_toLower]
  split_ifs <;> first | rfl | omega

theorem isSeparator_toLower (c : Char) : isSeparator c.toLower = isSeparator c := by
  rw [Bool.eq_iff_iff, isSeparator_iff, isSeparator_iff, toNat_toLower]
  split <;> omega

theorem hexNybble_of_separator {c : Char} (h : isSeparator c = true) : hexNybble c = none := by
  rw [isSeparator_iff] at h
  rw [hexNybble_eq, if_neg (by omega), if_neg (by omega), if_neg (by omega)]

/-! ### Texts -/

theorem parseHexLoop_separator {c : Char} (h : isSeparator c = true) (out : Bytes) (hi : Option ℕ) (fp : List Char) :
    parseHexLoop out hi (c :: fp) = parseHexLoop out hi fp := by
  rw [parseHexLoop_cons, if_pos (of_decide_eq_true h)]

theorem parseHexLoop_other {c : Char} (h : isSeparator c = false) (out : Bytes) (hi : Option ℕ) (fp : List Char) :
    parseHexLoop out hi (c :: fp) =
      match hexNybble c, hi with
      | none, _ => none
      | some n, none => parseHexLoop out (some n) fp
      | some n, some h => parseHexLoop (out ++ [UInt8.ofNat (h <<< 4 ||| n)]) none fp := by
  have hcons := parseHexLoop_cons out hi c fp
  rw [if_neg (of_decide_eq_false h)] at hcons
  refine hcons.trans ?_
  cases hexNybble c <;> cases hi <;> rfl

theorem parseHexLoop_map_toLower (out : Bytes) (hi : Option ℕ) (fp : List Char) :
    parseHexLoop out hi (fp.map Char.toLower) = parseHexLoop out hi fp := by
  induction fp generalizing out hi with
  | nil => rfl
  | cons c fp ih =>
    rw [List.map_cons]
    cases h : isSeparator c with
    | true => rw [parseHexLoop_separator h, parseHexLoop_separator (by rw [isSeparator_toLower, h]), ih]
    | false =>
      rw [parseHexLoop_other h, parseHexLoop_other (by rw [isSeparator_toLower, h]), hexNybble_toLower]
      cases hexNybble c with
      | none => rfl
      | some n => cases hi <;> exact ih _ _

/-- **The case of the digits does not matter.** -/
theorem parseHexFingerprint_map_toLower (fp : List Char) :
    parseHexFingerprint (fp.map Char.toLower) = parseHexFingerprint fp := by
  rw [parseHexFingerprint, parseHexLoop_map_toLower, parseHexFingerprint]

theorem parseHexLoop_filter {keep : Char → Bool} (hkeep : ∀ c, keep c = false → isSeparator c = true) (out : Bytes)
    (hi : Option ℕ) (fp : List Char) : parseHexLoop out hi (fp.filter keep) = parseHexLoop out hi fp := by
  induction fp generalizing out hi with
  | nil => rfl
  | cons c fp ih =>
    cases hc : keep c with
    | false => rw [List.filter_cons_of_neg (by simp [hc]), parseHexLoop_separator (hkeep c hc), ih]
    | true =>
      rw [List.filter_cons_of_pos hc]
      cases h : isSeparator c with
      | true => rw [parseHexLoop_separator h, parseHexLoop_separator h, ih]
      | false =>
        rw [parseHexLoop_other h, parseHexLoop_other h]
        cases hexNybble c with
        | none => rfl
        | some n => cases hi <;> exact ih _ _

/-- **The separators do not matter.** -/
theorem parseHexFingerprint_filter {keep : Char → Bool} (hkeep : ∀ c, keep c = false → isSeparator c = true)
    (fp : List Char) : parseHexFingerprint (fp.filter keep) = parseHexFingerprint fp := by
  rw [parseHexFingerprint, parseHexLoop_filter hkeep, parseHexFingerprint]

/-- A text that the loop takes: all its characters are known, and its digits are pairs with the one in `hi`. -/
theorem parseHexLoop_some {out bytes : Bytes} {hi : Option ℕ} {fp : List Char}
    (h : parseHexLoop out hi fp = some bytes) :
    (∀ c ∈ fp, isSeparator c = true ∨ hexNybble c ≠ none) ∧
      ((fp.filter isHexNybble).length + hi.toList.length) % 2 = 0 := by
  induction fp generalizing out hi with
  | nil =>
    cases hi with
    | none => exact ⟨fun c hc => absurd hc List.not_mem_nil, rfl⟩
    | some n => cases h
  | cons c fp ih =>
    cases hc : isSeparator c with
    | true =>
      rw [parseHexLoop_separator hc] at h
      obtain ⟨hall, hcount⟩ := ih h
      refine ⟨fun d hd => ?_, ?_⟩
      · rcases List.mem_cons.1 hd with rfl | hd
        · exact .inl hc
        · exact hall d hd
      · have hdigit : ¬ isHexNybble c = true := by
          rw [isHexNybble, hexNybble_of_separator hc]
          exact Bool.false_ne_true
        rwa [List.filter_cons_of_neg hdigit]
    | false =>
      rw [parseHexLoop_other hc] at h
      cases hn : hexNybble c with
      | none =>
        rw [hn] at h
        cases h
      | some n =>
        rw [hn] at h
        have hdigit : isHexNybble c = true := by rw [isHexNybble, hn]; rfl
        have hknown : (∀ d ∈ fp, isSeparator d = true ∨ hexNybble d ≠ none) →
            ∀ d ∈ c :: fp, isSeparator d = true ∨ hexNybble d ≠ none := by
          intro hall d hd
          rcases List.mem_cons.1 hd with rfl | hd
          · exact .inr (by rw [hn]; exact Option.some_ne_none n)
          · exact hall d hd
        rw [List.filter_cons_of_pos hdigit, List.length_cons]
        cases hi with
        | none =>
          obtain ⟨hall, hcount⟩ := ih h
          exact ⟨hknown hall, by simpa using hcount⟩
        | some first =>
          obtain ⟨hall, hcount⟩ := ih h
          refine ⟨hknown hall, ?_⟩
          simp only [Option.toList_some, Option.toList_none, List.length_singleton, List.length_nil] at hcount ⊢
          omega

/-- **A malformed text gives nothing.** -/
theorem parseHexFingerprint_of_malformed {fp : List Char} (h : Malformed fp) : parseHexFingerprint fp = [] := by
  have hnone : parseHexLoop [] none fp = none := by
    cases hloop : parseHexLoop [] none fp with
    | none => rfl
    | some bytes =>
      obtain ⟨hall, hcount⟩ := parseHexLoop_some hloop
      rcases h with ⟨c, hc, hseparator, hdigit⟩ | hodd
      · rcases hall c hc with hskipped | hread
        · rw [hseparator] at hskipped
          cases hskipped
        · exact absurd hdigit hread
      · have heven : (fp.filter isHexNybble).length % 2 = 0 := hcount
        omega
  rw [parseHexFingerprint, hnone]
  rfl

/-- The client gives up on every certificate if its fingerprint is empty. -/
theorem handleCertificate_of_nil (C : Crypto) {s : DtlsClientSession} (h : s.expectedPeerFingerprint = [])
    (body : Bytes) : (s.handleCertificate C body).state = .failed := by
  rcases DtlsClientSession.handleCertificate_cases s body (C := C) with hfailed | ⟨-, -, hpin⟩
  · exact hfailed
  · have hlength := congrArg List.length hpin
    rw [C.sha256_length, h] at hlength
    cases hlength

/-- **The spellings of a fingerprint** all give the digest: the text of `ToSha256Fingerprint`, in small letters and
without separators, too.  A malformed text gives nothing, which is the digest of no certificate, and so the client
refuses what comes. -/
theorem fingerprint_spellings (C : Crypto) :
    (∀ digest : Bytes,
      parseHexFingerprint (fingerprintText digest) = digest ∧
        parseHexFingerprint ((fingerprintText digest).map Char.toLower) = digest ∧
        parseHexFingerprint ((fingerprintText digest).filter (· ≠ ':')) = digest ∧
        parseHexFingerprint (((fingerprintText digest).filter (· ≠ ':')).map Char.toLower) = digest) ∧
      ∀ fp, Malformed fp →
        parseHexFingerprint fp = [] ∧ (∀ der, C.sha256 der ≠ parseHexFingerprint fp) ∧
          ∀ ourCert body, ((DtlsClientSession.create ourCert fp).handleCertificate C body).state = .failed := by
  have hcolon : ∀ c : Char, decide (c ≠ ':') = false → isSeparator c = true := by
    intro c hc
    obtain rfl : c = ':' := not_not.1 (of_decide_eq_false hc)
    rfl
  refine ⟨fun digest => ?_, fun fp h => ?_⟩
  · have hback := parseHexFingerprint_fingerprintText digest
    refine ⟨hback, ?_, ?_, ?_⟩
    · rw [parseHexFingerprint_map_toLower, hback]
    · rw [parseHexFingerprint_filter hcolon, hback]
    · rw [parseHexFingerprint_map_toLower, parseHexFingerprint_filter hcolon, hback]
  · have hempty := parseHexFingerprint_of_malformed h
    refine ⟨hempty, fun der heq => ?_, fun ourCert body => handleCertificate_of_nil C hempty body⟩
    have hlength := congrArg List.length heq
    rw [C.sha256_length, hempty] at hlength
    cases hlength

/-- Half a byte behind a whole one. -/
theorem fingerprint_spellings_half : parseHexFingerprint "AB:C".toList = [] :=
  ((fingerprint_spellings nullCrypto).2 "AB:C".toList (.inr (by decide))).1

end VianiumVoip.Dtls
