import VianiumVoip.Cert.Asn1Builder

/-!
# The ECDSA key pair and its self-signed certificate

`infrastructure/ecdsa_p256_keypair.cpp`.  The platform is a parameter: what its random source, its clock and
its (randomised) signer answer is given request by request, and `calls` counts the requests a key pair has
made.  `toX509SelfSignedDer` builds a certificate from a fresh serial, the current time and a fresh signature
*each time it is called*; `toSha256Fingerprint` calls it and hashes what it got.

The certificate is a nest of definite-length values, so it determines the fields it was built from
(`CertificateFields.der_injective`): two calls give the same certificate exactly when they drew the same
fields (`toX509SelfSignedDer_eq_iff`).
-/

namespace VianiumVoip.Cert

open VianiumVoip.Lib

/-- The platform's crypto provider around one pinned key, and its clock.  `n` numbers the requests. -/
structure Platform where
  sha256 : Bytes → Bytes
  /-- `CryptographicBuffer::GenerateRandom(8)`; empty when the platform hands out no buffer. -/
  generateRandom : ℕ → Bytes
  /-- `std::time(nullptr)`, in seconds since 1970. -/
  time : ℕ → ℕ
  /-- The `X509SubjectPublicKeyInfo` blob; `none` when the call throws. -/
  exportPublicKey : ℕ → Option Bytes
  /-- `CryptographicEngine::SignHashedData`; `none` when the call throws. -/
  signHashedData : ℕ → Bytes → Option Bytes
  sha256_length : ∀ m, (sha256 m).length = 32
  generateRandom_length : ∀ n, (generateRandom n).length ≤ 8
  /-- The length of an `IBuffer` is a 32-bit number. -/
  signHashedData_length : ∀ n h sig, signHashedData n h = some sig → sig.length < 2 ^ 32

/-- A generated key pair.  The key stays inside the platform. -/
structure EcdsaP256KeyPair where
  calls : ℕ := 0

/-! ### Time -/

structure Tm where
  year : ℕ
  /-- From 1. -/
  mon : ℕ
  mday : ℕ
  hour : ℕ
  min : ℕ
  sec : ℕ

/-- `gmtime_s`: the civil date of a count of seconds since 1970. -/
def gmtime (t : ℕ) : Tm :=
  let z := t / 86400 + 719468          -- days since 1 March of year 0
  let era := z / 146097
  let doe := z % 146097
  let yoe := (doe - doe / 1460 + doe / 36524 - doe / 146096) / 365
  let doy := doe - (365 * yoe + yoe / 4 - yoe / 100)
  let mp := (5 * doy + 2) / 153
  let mon := if mp < 10 then mp + 3 else mp - 9
  { year := yoe + era * 400 + (if mon ≤ 2 then 1 else 0)
    mon := mon
    mday := doy - (153 * mp + 2) / 5 + 1
    hour := t % 86400 / 3600
    min := t % 3600 / 60
    sec := t % 60 }

/-- `%02d` of a number below 100. -/
def twoDigits (v : ℕ) : Bytes := [UInt8.ofNat (48 + v / 10), UInt8.ofNat (48 + v % 10)]

/-- The text `YYMMDDHHMMSSZ` of `WriteUtcTime`. -/
def utcTime (t : ℕ) : Bytes :=
  let tmv := gmtime t
  twoDigits (tmv.year % 100) ++ twoDigits tmv.mon ++ twoDigits tmv.mday ++ twoDigits tmv.hour
    ++ twoDigits tmv.min ++ twoDigits tmv.sec ++ ascii "Z"

@[simp] theorem length_utcTime (t : ℕ) : (utcTime t).length = 13 := rfl

-- 21 July 2026, 13:45:09 UTC
example : utcTime 1784641509 = ascii "260721134509Z" := by decide

/-! ### Signatures -/

open Asn1Builder in
/-- Raw `r || s` as an `ECDSA-Sig-Value`. -/
def rawRsToDer (rawRs : Bytes) : Bytes :=
  if rawRs.length ≠ 64 then []
  else
    ((((({} : Asn1Builder).beginConstructed 0x30).writeInteger (rawRs.take 32)).writeInteger
      ((rawRs.drop 32).take 32)).endConstructed).out

def normalizeEcdsaSignatureToDer (sig : Bytes) : Bytes :=
  if sig.length = 64 then rawRsToDer sig
  else if 8 ≤ sig.length ∧ sig.getD 0 0 = 0x30 then sig
  else if sig.length = 64 then rawRsToDer sig
  else sig

namespace EcdsaP256KeyPair

/-- `SignSha256`: empty on failure. -/
def signSha256 (P : Platform) (kp : EcdsaP256KeyPair) (hash : Bytes) : Bytes × EcdsaP256KeyPair :=
  if hash.length ≠ 32 then ([], kp)
  else
    match P.signHashedData kp.calls hash with
    | none => ([], { kp with calls := kp.calls + 1 })
    | some raw => (normalizeEcdsaSignatureToDer raw, { kp with calls := kp.calls + 1 })

end EcdsaP256KeyPair

/-! ### Public key and serial -/

/-- The first place that looks like `BIT STRING, 66 bytes, 0 unused bits, 0x04`.  The copy of 65 bytes may run
one byte over a blob that ends there; that byte is read as zero. -/
def extractUncompressedPointFromSpki : Bytes → Bytes
  | [] => []
  | x :: rest =>
    if 67 ≤ (x :: rest).length then
      if (x :: rest).take 4 = [0x03, 0x42, 0x00, 0x04] then
        List.ofFn fun k : Fin 65 => (x :: rest).getD (3 + k) 0
      else extractUncompressedPointFromSpki rest
    else []

def EcdsaP256KeyPair.getPublicKeyUncompressed (P : Platform) (kp : EcdsaP256KeyPair) : Bytes :=
  match P.exportPublicKey kp.calls with
  | none => []
  | some spki => extractUncompressedPointFromSpki spki

/-- `RandomSerial` on what the random source handed out: positive, and not zero. -/
def randomSerial (buf : Bytes) : Bytes :=
  match if buf = [] then List.replicate 8 0 else buf with
  | [] => []
  | x :: r =>
    let x := x &&& 0x7F
    (if x = 0x00 then 0x01 else x) :: r

/-! ### Certificate -/

def OID_EC_PUBKEY : Bytes := [0x2A, 0x86, 0x48, 0xCE, 0x3D, 0x02, 0x01]
def OID_PRIME256V1 : Bytes := [0x2A, 0x86, 0x48, 0xCE, 0x3D, 0x03, 0x01, 0x07]
def OID_ECDSA_SHA256 : Bytes := [0x2A, 0x86, 0x48, 0xCE, 0x3D, 0x04, 0x03, 0x02]
def OID_COMMON_NAME : Bytes := [0x55, 0x04, 0x03]

def emitEcdsaSha256AlgId (b : Asn1Builder) : Asn1Builder :=
  ((b.beginConstructed 0x30).writeOidRaw OID_ECDSA_SHA256).endConstructed

def emitSubjectPublicKeyInfo (b : Asn1Builder) (point : Bytes) : Asn1Builder :=
  let b := b.beginConstructed 0x30
  let b := (((b.beginConstructed 0x30).writeOidRaw OID_EC_PUBKEY).writeOidRaw OID_PRIME256V1).endConstructed
  let b := b.writeBitString point 0
  b.endConstructed

def emitNameCnVianigram (b : Asn1Builder) : Asn1Builder :=
  let b := ((b.beginConstructed 0x30).beginConstructed 0x31).beginConstructed 0x30
  let b := (b.writeOidRaw OID_COMMON_NAME).writeBytes 0x0C (ascii "Vianigram")
  b.endConstructed.endConstructed.endConstructed

def oneYear : ℕ := 365 * 24 * 60 * 60

/-- The part that is signed. -/
def tbsCertificate (serial : Bytes) (now expires : ℕ) (point : Bytes) : Bytes :=
  let tbs := ({} : Asn1Builder).beginConstructed 0x30
  let tbs := ((tbs.beginConstructed 0xA0).writeIntegerSmall 2).endConstructed
  let tbs := tbs.writeInteger serial
  let tbs := emitEcdsaSha256AlgId tbs
  let tbs := emitNameCnVianigram tbs
  let tbs := tbs.beginConstructed 0x30
  let tbs := tbs.writeBytes 0x17 (utcTime now)
  let tbs := tbs.writeBytes 0x17 (utcTime expires)
  let tbs := tbs.endConstructed
  let tbs := emitNameCnVianigram tbs
  let tbs := emitSubjectPublicKeyInfo tbs point
  tbs.endConstructed.out

/-- The outer `Certificate` around the signed part. -/
def outerCertificate (tbsBytes signatureDer : Bytes) : Bytes :=
  let cert := ({} : Asn1Builder).beginConstructed 0x30
  let cert := cert.writeRaw tbsBytes
  let cert := emitEcdsaSha256AlgId cert
  let cert := cert.writeBitString signatureDer 0
  cert.endConstructed.out

namespace EcdsaP256KeyPair

/-- `ToX509SelfSignedDer`: empty on failure. -/
def toX509SelfSignedDer (P : Platform) (kp : EcdsaP256KeyPair) : Bytes × EcdsaP256KeyPair :=
  let point := kp.getPublicKeyUncompressed P
  if point.length ≠ 65 ∨ point.getD 0 0 ≠ 0x04 then ([], { kp with calls := kp.calls + 1 })
  else
    let serial := randomSerial (P.generateRandom kp.calls)
    let now := P.time kp.calls
    let expires := now + oneYear
    let tbsBytes := tbsCertificate serial now expires point
    let tbsHash := P.sha256 tbsBytes
    if tbsHash.length ≠ 32 then ([], { kp with calls := kp.calls + 1 })
    else
      let (signatureDer, kp) := kp.signSha256 P tbsHash
      if signatureDer = [] then ([], kp)
      else (outerCertificate tbsBytes signatureDer, kp)

/-- `kHex[n]` -/
def hexDigit (n : UInt8) : Char := "0123456789ABCDEF".toList.getD n.toNat '0'

/-- Upper-case hexadecimal with colons between the bytes. -/
def fingerprintText : Bytes → List Char
  | [] => []
  | [x] => [hexDigit (x >>> 4), hexDigit (x &&& 0x0F)]
  | x :: y :: r => hexDigit (x >>> 4) :: hexDigit (x &&& 0x0F) :: ':' :: fingerprintText (y :: r)

/-- `ToSha256Fingerprint`: of a certificate it builds on the spot; empty on failure. -/
def toSha256Fingerprint (P : Platform) (kp : EcdsaP256KeyPair) : List Char × EcdsaP256KeyPair :=
  let (cert, kp) := kp.toX509SelfSignedDer P
  if cert = [] then ([], kp)
  else
    let hash := P.sha256 cert
    if hash.length ≠ 32 then ([], kp)
    else (fingerprintText hash, kp)

end EcdsaP256KeyPair

/-! ### The certificate as a nest of values -/

/-- What a certificate is built from, with the invariants that the builder establishes. -/
structure CertificateFields where
  point : Bytes
  serial : Bytes
  notBefore : Bytes
  notAfter : Bytes
  signature : Bytes
  point_length : point.length = 65
  serial_length : serial.length ≤ 8
  /-- The first byte of the serial makes it positive without padding. -/
  serial_head : ∃ x r, serial = x :: r ∧ x ≠ 0 ∧ x &&& 0x80 = 0
  notBefore_length : notBefore.length = 13
  notAfter_length : notAfter.length = 13
  signature_length : signature.length < 2 ^ 33

def algIdDer : Bytes := Der.tlv 0x30 (Der.tlv 0x06 OID_ECDSA_SHA256)

def nameDer : Bytes :=
  Der.tlv 0x30 (Der.tlv 0x31 (Der.tlv 0x30 (Der.tlv 0x06 OID_COMMON_NAME ++ Der.tlv 0x0C (ascii "Vianigram"))))

def spkiDer (point : Bytes) : Bytes :=
  Der.tlv 0x30 (Der.tlv 0x30 (Der.tlv 0x06 OID_EC_PUBKEY ++ Der.tlv 0x06 OID_PRIME256V1)
    ++ Der.tlv 0x03 ([0] ++ point))

def validityDer (notBefore notAfter : Bytes) : Bytes :=
  Der.tlv 0x30 (Der.tlv 0x17 notBefore ++ Der.tlv 0x17 notAfter)

def tbsContent (serial notBefore notAfter point : Bytes) : Bytes :=
  Der.tlv 0xA0 (Der.tlv 0x02 [2]) ++ (Der.tlv 0x02 serial ++ (algIdDer ++ (nameDer
    ++ (validityDer notBefore notAfter ++ (nameDer ++ spkiDer point)))))

/-- The certificate with these fields. -/
def CertificateFields.der (f : CertificateFields) : Bytes :=
  Der.tlv 0x30 (Der.tlv 0x30 (tbsContent f.serial f.notBefore f.notAfter f.point)
    ++ (algIdDer ++ Der.tlv 0x03 ([0] ++ f.signature)))

/-! The parts are small, whatever was drawn. -/

theorem length_tlv_point {point : Bytes} (h : point.length = 65) : (Der.tlv 0x03 ([0] ++ point)).length ≤ 76 := by
  have := Der.length_tlv_le (t := 0x03) (b := [0] ++ point) (by simp [h])
  simp only [List.length_append, List.length_singleton, h] at this
  omega

theorem length_spkiContent_le {point : Bytes} (h : point.length = 65) :
    (Der.tlv 0x30 (Der.tlv 0x06 OID_EC_PUBKEY ++ Der.tlv 0x06 OID_PRIME256V1)
      ++ Der.tlv 0x03 ([0] ++ point)).length ≤ 97 := by
  have hbits := length_tlv_point h
  have halg : (Der.tlv 0x30 (Der.tlv 0x06 OID_EC_PUBKEY ++ Der.tlv 0x06 OID_PRIME256V1)).length = 21 := by decide
  rw [List.length_append]
  omega

theorem length_validityContent_le {notBefore notAfter : Bytes} (hb : notBefore.length = 13)
    (ha : notAfter.length = 13) : (Der.tlv 0x17 notBefore ++ Der.tlv 0x17 notAfter).length ≤ 46 := by
  have h1 := Der.length_tlv_le (t := 0x17) (b := notBefore) (by omega)
  have h2 := Der.length_tlv_le (t := 0x17) (b := notAfter) (by omega)
  rw [List.length_append]
  omega

theorem length_tbsContent_le {serial notBefore notAfter point : Bytes} (hserial : serial.length ≤ 8)
    (hb : notBefore.length = 13) (ha : notAfter.length = 13) (hpoint : point.length = 65) :
    (tbsContent serial notBefore notAfter point).length ≤ 300 := by
  have hfixed : (Der.tlv 0xA0 (Der.tlv 0x02 [2])).length = 5 ∧ algIdDer.length = 12 ∧ nameDer.length = 22 := by
    decide
  have hv := length_validityContent_le hb ha
  have hs := length_spkiContent_le hpoint
  have hser := Der.length_tlv_le (t := 0x02) (b := serial) (by omega)
  have hval : (validityDer notBefore notAfter).length ≤ 56 :=
    (Der.length_tlv_le (by omega)).trans (by omega)
  have hspki : (spkiDer point).length ≤ 107 := (Der.length_tlv_le (by omega)).trans (by omega)
  simp only [tbsContent, List.length_append]
  omega

section Writer

open Asn1Builder

variable (b : Asn1Builder)

theorem emitEcdsaSha256AlgId_eq : emitEcdsaSha256AlgId b = b.append algIdDer := by
  rw [emitEcdsaSha256AlgId, writeOidRaw, writeBytes_eq _ _ _ (by decide), endConstructed_append _ _ (by decide),
    algIdDer]

theorem emitNameCnVianigram_eq : emitNameCnVianigram b = b.append nameDer := by
  simp only [emitNameCnVianigram, writeOidRaw]
  rw [writeBytes_eq _ _ OID_COMMON_NAME (by decide), writeBytes_eq _ _ (ascii "Vianigram") (by decide), append_append,
    endConstructed_append _ _ (by decide), endConstructed_append _ _ (by decide),
    endConstructed_append _ _ (by decide), nameDer]

theorem emitSubjectPublicKeyInfo_eq {point : Bytes} (h : point.length = 65) :
    emitSubjectPublicKeyInfo b point = b.append (spkiDer point) := by
  have hbits := length_tlv_point h
  have halg : (Der.tlv 0x30 (Der.tlv 0x06 OID_EC_PUBKEY ++ Der.tlv 0x06 OID_PRIME256V1)).length = 21 := by decide
  simp only [emitSubjectPublicKeyInfo, writeOidRaw, writeBitString]
  rw [writeBytes_eq _ _ OID_EC_PUBKEY (by decide), writeBytes_eq _ _ OID_PRIME256V1 (by decide), append_append,
    endConstructed_append _ _ (by decide), writeBytes_eq _ _ ([0] ++ point) (by simp [h]), append_append,
    endConstructed_append _ _ (by rw [List.length_append]; omega), spkiDer]

theorem writeIntegerSmall_two : b.writeIntegerSmall 2 = b.append (Der.tlv 0x02 [2]) := by
  have hbody : integerBody (if (2 : Int64) < 0 then dropLeadingOnes (storeBE64 (2 : Int64).toUInt64)
      else dropLeadingZeros (storeBE64 (2 : Int64).toUInt64)) = [2] := by decide
  rw [writeIntegerSmall, writeInteger, hbody, writeBytes_eq _ _ _ (by decide)]

theorem tbsCertificate_eq {serial point : Bytes} (now expires : ℕ) (hserial : serial.length ≤ 8)
    (hbody : integerBody serial = serial) (hpoint : point.length = 65) :
    tbsCertificate serial now expires point
      = Der.tlv 0x30 (tbsContent serial (utcTime now) (utcTime expires) point) := by
  have hlen := length_tbsContent_le hserial (length_utcTime now) (length_utcTime expires) hpoint
  have hval := length_validityContent_le (length_utcTime now) (length_utcTime expires)
  simp only [tbsCertificate, writeInteger, hbody, emitEcdsaSha256AlgId_eq, emitNameCnVianigram_eq,
    emitSubjectPublicKeyInfo_eq _ hpoint, writeIntegerSmall_two]
  rw [endConstructed_append _ _ (by decide), writeBytes_eq _ _ serial (by omega),
    writeBytes_eq _ _ (utcTime now) (by simp), writeBytes_eq _ _ (utcTime expires) (by simp),
    append_append _ (Der.tlv 0x17 (utcTime now)), endConstructed_append _ _ (by omega)]
  simp only [append_append, List.append_assoc]
  rw [← validityDer, ← tbsContent, endConstructed_append _ _ (by omega)]
  rfl

theorem outerCertificate_eq {tbsBytes signature : Bytes} (htbs : tbsBytes.length ≤ 400)
    (hsig : signature.length < 2 ^ 33) :
    outerCertificate tbsBytes signature
      = Der.tlv 0x30 (tbsBytes ++ (algIdDer ++ Der.tlv 0x03 ([0] ++ signature))) := by
  have hbit : ([0] ++ signature).length < 256 ^ 8 := by
    rw [List.length_append, List.length_singleton]
    omega
  have hval := Der.length_tlv_le (t := 0x03) hbit
  have halg : algIdDer.length = 12 := by decide
  simp only [outerCertificate, emitEcdsaSha256AlgId_eq, writeBitString, writeRaw]
  rw [writeBytes_eq _ _ _ hbit]
  simp only [append_append, List.append_assoc]
  rw [endConstructed_append]
  · rfl
  · simp only [List.length_append, List.length_singleton] at hval ⊢
    omega

end Writer

/-- **A certificate determines its fields.** -/
theorem CertificateFields.der_injective : Function.Injective CertificateFields.der := by
  intro f g h
  have hf := length_tbsContent_le f.serial_length f.notBefore_length f.notAfter_length f.point_length
  have hg := length_tbsContent_le g.serial_length g.notBefore_length g.notAfter_length g.point_length
  have halg : algIdDer.length = 12 := by decide
  -- the outer sequence: signed part, algorithm, signature
  have houter (f : CertificateFields) (hf : (tbsContent f.serial f.notBefore f.notAfter f.point).length ≤ 300) :
      (Der.tlv 0x30 (tbsContent f.serial f.notBefore f.notAfter f.point)
        ++ (algIdDer ++ Der.tlv 0x03 ([0] ++ f.signature))).length < 256 ^ 8 := by
    have hsig := f.signature_length
    have hbit := Der.length_tlv_le (t := 0x03) (b := [0] ++ f.signature)
      (by rw [List.length_append, List.length_singleton]; omega)
    have htbs := Der.length_tlv_le (t := 0x30) (b := tbsContent f.serial f.notBefore f.notAfter f.point) (by omega)
    rw [List.length_append, List.length_append]
    rw [List.length_append, List.length_singleton] at hbit
    omega
  obtain ⟨-, hcert⟩ := Der.tlv_inj (houter f hf) (houter g hg) h
  obtain ⟨-, htbs, hrest⟩ := Der.tlv_append_inj (by omega) (by omega) hcert
  obtain ⟨-, hbit⟩ := Der.tlv_inj (by have := f.signature_length; simp; omega)
    (by have := g.signature_length; simp; omega) (List.append_cancel_left hrest)
  have hsig : f.signature = g.signature := List.append_cancel_left hbit
  -- the signed part: version, serial, algorithm, issuer, validity, subject, key
  obtain ⟨-, hser, htbs⟩ := Der.tlv_append_inj (by have := f.serial_length; omega)
    (by have := g.serial_length; omega) (List.append_cancel_left htbs)
  have hvf := length_validityContent_le f.notBefore_length f.notAfter_length
  have hvg := length_validityContent_le g.notBefore_length g.notAfter_length
  obtain ⟨-, hval, htbs⟩ := Der.tlv_append_inj (by omega) (by omega)
    (List.append_cancel_left (List.append_cancel_left htbs))
  obtain ⟨-, hnb, hval⟩ := Der.tlv_append_inj (by have := f.notBefore_length; omega)
    (by have := g.notBefore_length; omega) hval
  obtain ⟨-, hna⟩ := Der.tlv_inj (by have := f.notAfter_length; omega) (by have := g.notAfter_length; omega) hval
  have hsf := length_spkiContent_le f.point_length
  have hsg := length_spkiContent_le g.point_length
  obtain ⟨-, hspki⟩ := Der.tlv_inj (by omega) (by omega) (List.append_cancel_left htbs)
  obtain ⟨-, hpoint⟩ := Der.tlv_inj (by have := f.point_length; simp; omega)
    (by have := g.point_length; simp; omega) (List.append_cancel_left hspki)
  have hpt : f.point = g.point := List.append_cancel_left hpoint
  cases f
  cases g
  simp only [CertificateFields.mk.injEq]
  exact ⟨hpt, hser, hnb, hna, hsig⟩

theorem outerCertificate_fields (f : CertificateFields) {tbsBytes : Bytes}
    (h : tbsBytes = Der.tlv 0x30 (tbsContent f.serial f.notBefore f.notAfter f.point)) :
    outerCertificate tbsBytes f.signature = f.der := by
  have hlen := length_tbsContent_le f.serial_length f.notBefore_length f.notAfter_length f.point_length
  have htlv := Der.length_tlv_le (t := 0x30) (b := tbsContent f.serial f.notBefore f.notAfter f.point) (by omega)
  rw [outerCertificate_eq (by rw [h]; omega) f.signature_length, h, CertificateFields.der]

/-! ### What a call of the builder draws -/

/-- The serial is positive, short, and written as it is. -/
theorem randomSerial_spec {buf : Bytes} (h : buf.length ≤ 8) :
    (randomSerial buf).length ≤ 8 ∧ ∃ x r, randomSerial buf = x :: r ∧ x ≠ 0 ∧ x &&& 0x80 = 0 := by
  have hmask (x : UInt8) : x &&& 0x7F &&& 0x80 = 0 := by
    rw [UInt8.and_assoc]
    exact UInt8.and_zero
  have hcons (x : UInt8) (r : Bytes) (hr : (x :: r).length ≤ 8) :
      ((if x &&& 0x7F = 0 then 0x01 else x &&& 0x7F) :: r).length ≤ 8 ∧
        ∃ y s, (if x &&& 0x7F = 0 then 0x01 else x &&& 0x7F) :: r = y :: s ∧ y ≠ 0 ∧ y &&& 0x80 = 0 := by
    refine ⟨hr, _, r, rfl, ?_⟩
    split_ifs with hx
    · decide
    · exact ⟨hx, hmask x⟩
  rcases buf with _ | ⟨x, r⟩
  · exact hcons 0 (List.replicate 7 0) (by decide)
  · exact hcons x r h

theorem length_rawRsToDer_le (raw : Bytes) : (rawRsToDer raw).length ≤ 200 := by
  unfold rawRsToDer
  split_ifs with h
  · simp
  · have h1 := Asn1Builder.length_integerBody_le (raw.take 32)
    have h2 := Asn1Builder.length_integerBody_le ((raw.drop 32).take 32)
    rw [List.length_take] at h1
    rw [List.length_take] at h2
    have l1 := Der.length_tlv_le (t := 0x02) (b := Asn1Builder.integerBody (raw.take 32)) (by omega)
    have l2 := Der.length_tlv_le (t := 0x02) (b := Asn1Builder.integerBody ((raw.drop 32).take 32)) (by omega)
    simp only [Asn1Builder.writeInteger]
    rw [Asn1Builder.writeBytes_eq _ _ (Asn1Builder.integerBody (raw.take 32)) (by omega),
      Asn1Builder.writeBytes_eq _ _ _ (by omega), Asn1Builder.append_append,
      Asn1Builder.endConstructed_append _ _ (by rw [List.length_append]; omega)]
    refine (Der.length_tlv_le ?_).trans ?_
    · rw [List.length_append]
      omega
    · rw [List.length_append]
      omega

namespace EcdsaP256KeyPair

theorem length_signSha256_lt (P : Platform) (kp : EcdsaP256KeyPair) (hash : Bytes) :
    (kp.signSha256 P hash).1.length < 2 ^ 33 := by
  unfold signSha256
  split_ifs
  · simp
  · cases hsig : P.signHashedData kp.calls hash with
    | none => simp
    | some raw =>
      have hraw := P.signHashedData_length _ _ _ hsig
      have hder := length_rawRsToDer_le raw
      show (normalizeEcdsaSignatureToDer raw).length < 2 ^ 33
      unfold normalizeEcdsaSignatureToDer
      split_ifs <;> omega

/-- What the next call of `toX509SelfSignedDer` draws: the exported point, a serial, the two validity times and
a signature of the part they make up. -/
def nextFields (P : Platform) (kp : EcdsaP256KeyPair) (hpoint : (kp.getPublicKeyUncompressed P).length = 65) :
    CertificateFields where
  point := kp.getPublicKeyUncompressed P
  serial := randomSerial (P.generateRandom kp.calls)
  notBefore := utcTime (P.time kp.calls)
  notAfter := utcTime (P.time kp.calls + oneYear)
  signature := (kp.signSha256 P (P.sha256 (tbsCertificate (randomSerial (P.generateRandom kp.calls))
    (P.time kp.calls) (P.time kp.calls + oneYear) (kp.getPublicKeyUncompressed P)))).1
  point_length := hpoint
  serial_length := (randomSerial_spec (P.generateRandom_length _)).1
  serial_head := (randomSerial_spec (P.generateRandom_length _)).2
  notBefore_length := length_utcTime _
  notAfter_length := length_utcTime _
  signature_length := length_signSha256_lt _ _ _

/-- The draw of the next call, if it succeeds: the point is an uncompressed one and the signature is there. -/
def drawFields (P : Platform) (kp : EcdsaP256KeyPair) : Option CertificateFields :=
  if hpoint : (kp.getPublicKeyUncompressed P).length = 65 ∧ (kp.getPublicKeyUncompressed P).getD 0 0 = 0x04 then
    if (kp.nextFields P hpoint.1).signature = [] then none else some (kp.nextFields P hpoint.1)
  else none

theorem tbsCertificate_nextFields (P : Platform) (kp : EcdsaP256KeyPair)
    (hpoint : (kp.getPublicKeyUncompressed P).length = 65) :
    tbsCertificate (randomSerial (P.generateRandom kp.calls)) (P.time kp.calls) (P.time kp.calls + oneYear)
        (kp.getPublicKeyUncompressed P)
      = Der.tlv 0x30 (tbsContent (kp.nextFields P hpoint).serial (kp.nextFields P hpoint).notBefore
          (kp.nextFields P hpoint).notAfter (kp.nextFields P hpoint).point) := by
  obtain ⟨hlen, x, r, hcons, h0, hsign⟩ := randomSerial_spec (P.generateRandom_length kp.calls)
  have hbody : Asn1Builder.integerBody (randomSerial (P.generateRandom kp.calls))
      = randomSerial (P.generateRandom kp.calls) := by
    rw [hcons, Asn1Builder.integerBody_eq h0 hsign]
  exact tbsCertificate_eq _ _ hlen hbody hpoint

/-- The builder returns the certificate of the fields it drew, and nothing when a draw failed. -/
theorem toX509SelfSignedDer_eq (P : Platform) (kp : EcdsaP256KeyPair) :
    (kp.toX509SelfSignedDer P).1 = ((kp.drawFields P).map CertificateFields.der).getD [] := by
  simp only [toX509SelfSignedDer, drawFields]
  by_cases hpoint : (kp.getPublicKeyUncompressed P).length = 65 ∧ (kp.getPublicKeyUncompressed P).getD 0 0 = 0x04
  · have hder := outerCertificate_fields _ (tbsCertificate_nextFields P kp hpoint.1)
    have hsig : (kp.nextFields P hpoint.1).signature = (kp.signSha256 P (P.sha256 (tbsCertificate
        (randomSerial (P.generateRandom kp.calls)) (P.time kp.calls) (P.time kp.calls + oneYear)
        (kp.getPublicKeyUncompressed P)))).1 := rfl
    rw [dif_pos hpoint, if_neg (by simp only [hpoint, ne_eq, not_true, or_self, not_false_eq_true]),
      if_neg (by simp [P.sha256_length]), ← hsig]
    split_ifs
    · rfl
    · exact hder
  · rw [dif_neg hpoint, if_pos (by rwa [not_and_or] at hpoint)]
    rfl

/-- **Two calls give one certificate exactly when they draw the same fields.** -/
theorem toX509SelfSignedDer_eq_iff (P : Platform) (kp kp' : EcdsaP256KeyPair) :
    (kp.toX509SelfSignedDer P).1 = (kp'.toX509SelfSignedDer P).1 ↔ kp.drawFields P = kp'.drawFields P := by
  have hne (f : CertificateFields) : f.der ≠ [] := List.cons_ne_nil _ _
  rw [toX509SelfSignedDer_eq, toX509SelfSignedDer_eq]
  cases kp.drawFields P with
  | none =>
    cases kp'.drawFields P with
    | none => simp
    | some g => simpa using (hne g).symm
  | some f =>
    cases kp'.drawFields P with
    | none => simpa using hne f
    | some g => simpa using CertificateFields.der_injective.eq_iff

end EcdsaP256KeyPair

end VianiumVoip.Cert
