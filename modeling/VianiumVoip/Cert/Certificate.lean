import VianiumVoip.Cert.CallTree
import VianiumVoip.Lib.Sha256

/-!
# The certificate as a reader finds it

A reader for the shape of X.509 that the writer aims at, over the elements of a byte string: `Certificate.parse` takes a
certificate apart, `readSignature` an ECDSA signature.  INTEGERs have to be minimal.  The signed part is handed out
as the bytes that it takes up in the certificate (`parse_tbs_infix`).

* `parse_outerCertificate` : what is read is what `tbsCertificate` and `outerCertificate` were given;
* `readSignature_rawRsToDer` : a raw signature is read as its two numbers;
* `certificate_der` : both for what `toX509SelfSignedDer` returns, with the tree of any well-nested sequence of calls.
-/

namespace VianiumVoip.Cert

open VianiumVoip.Lib Asn1Builder

/-! ### The reader -/

def readConstructed (tag : UInt8) : Der.Tree → Option (List Der.Tree)
  | .constructed t children => if t = tag then some children else none
  | .primitive _ _ => none

def readPrimitive (tag : UInt8) : Der.Tree → Option Bytes
  | .primitive t content => if t = tag then some content else none
  | .constructed _ _ => none

def readInteger (t : Der.Tree) : Option ℤ :=
  (readPrimitive 0x02 t).bind fun content => if Der.MinimalInteger content then some (Der.intValue content) else none

/-- A BIT STRING of whole bytes. -/
def readBitString (t : Der.Tree) : Option Bytes :=
  (readPrimitive 0x03 t).bind fun
    | unusedBits :: bits => if unusedBits = 0 then some bits else none
    | [] => none

/-- An algorithm and its parameters, object identifiers all of them. -/
def readAlgorithm (t : Der.Tree) : Option (List Bytes) :=
  (readConstructed 0x30 t).bind fun ts => ts.mapM (readPrimitive 0x06)

def readAttribute (t : Der.Tree) : Option (Bytes × Bytes) :=
  (readConstructed 0x30 t).bind fun
    | [type, value] => do return (← readPrimitive 0x06 type, ← readPrimitive 0x0C value)
    | _ => none

/-- A sequence of sets of attributes. -/
def readName (t : Der.Tree) : Option (List (List (Bytes × Bytes))) :=
  (readConstructed 0x30 t).bind fun rdns =>
    rdns.mapM fun rdn => (readConstructed 0x31 rdn).bind fun attributes => attributes.mapM readAttribute

def readValidity (t : Der.Tree) : Option (Bytes × Bytes) :=
  (readConstructed 0x30 t).bind fun
    | [notBefore, notAfter] => do return (← readPrimitive 0x17 notBefore, ← readPrimitive 0x17 notAfter)
    | _ => none

def readPublicKey (t : Der.Tree) : Option (List Bytes × Bytes) :=
  (readConstructed 0x30 t).bind fun
    | [algorithm, key] => do return (← readAlgorithm algorithm, ← readBitString key)
    | _ => none

/-- The version, in its explicit tag. -/
def readVersion (t : Der.Tree) : Option ℤ :=
  (readConstructed 0xA0 t).bind fun
    | [version] => readInteger version
    | _ => none

structure Certificate where
  /-- The signed part, as it stands in the certificate. -/
  tbs : Bytes
  version : ℤ
  serial : ℤ
  algorithm : List Bytes
  issuer : List (List (Bytes × Bytes))
  validity : Bytes × Bytes
  subject : List (List (Bytes × Bytes))
  publicKey : List Bytes × Bytes
  signature : Bytes
  deriving DecidableEq

/-- The algorithm of the signature stands in the signed part, and once more outside. -/
def Certificate.ofTree (t : Der.Tree) : Option Certificate :=
  (readConstructed 0x30 t).bind fun
    | [tbs, algorithm, signature] =>
      (readConstructed 0x30 tbs).bind fun
        | [version, serial, tbsAlgorithm, issuer, validity, subject, key] => do
          let algorithm ← readAlgorithm algorithm
          let tbsAlgorithm ← readAlgorithm tbsAlgorithm
          if algorithm = tbsAlgorithm then
            return {
              tbs := tbs.encode
              version := ← readVersion version
              serial := ← readInteger serial
              algorithm := algorithm
              issuer := ← readName issuer
              validity := ← readValidity validity
              subject := ← readName subject
              publicKey := ← readPublicKey key
              signature := ← readBitString signature }
          else none
        | _ => none
    | _ => none

def Certificate.parse (der : Bytes) : Option Certificate :=
  (Der.decode der).bind fun
    | [t] => Certificate.ofTree t
    | _ => none

/-- The two numbers of an `ECDSA-Sig-Value`. -/
def readSignature (der : Bytes) : Option (ℤ × ℤ) :=
  (Der.decode der).bind fun
    | [t] => (readConstructed 0x30 t).bind fun
      | [r, s] => do return (← readInteger r, ← readInteger s)
      | _ => none
    | _ => none

/-! ### The calls of the certificate -/

def algIdCalls : List Call := [.beginConstructed 0x30, .writeOidRaw OID_ECDSA_SHA256, .endConstructed]

def nameCalls : List Call :=
  [.beginConstructed 0x30, .beginConstructed 0x31, .beginConstructed 0x30, .writeOidRaw OID_COMMON_NAME,
    .writeBytes 0x0C (ascii "Vianigram"), .endConstructed, .endConstructed, .endConstructed]

def spkiCalls (point : Bytes) : List Call :=
  [.beginConstructed 0x30, .beginConstructed 0x30, .writeOidRaw OID_EC_PUBKEY, .writeOidRaw OID_PRIME256V1,
    .endConstructed, .writeBitString point 0, .endConstructed]

def tbsCalls (serial : Bytes) (now expires : ℕ) (point : Bytes) : List Call :=
  [.beginConstructed 0x30, .beginConstructed 0xA0, .writeIntegerSmall 2, .endConstructed, .writeInteger serial]
    ++ algIdCalls ++ nameCalls
    ++ [.beginConstructed 0x30, .writeUtcTime now, .writeUtcTime expires, .endConstructed]
    ++ nameCalls ++ spkiCalls point ++ [.endConstructed]

def outerCalls (tbsBytes signatureDer : Bytes) : List Call :=
  [.beginConstructed 0x30, .writeRaw tbsBytes] ++ algIdCalls ++ [.writeBitString signatureDer 0, .endConstructed]

def signatureCalls (r s : Bytes) : List Call :=
  [.beginConstructed 0x30, .writeInteger r, .writeInteger s, .endConstructed]

theorem tbsCertificate_eq_run (serial : Bytes) (now expires : ℕ) (point : Bytes) :
    tbsCertificate serial now expires point = (({} : Asn1Builder).run (tbsCalls serial now expires point)).out := rfl

theorem outerCertificate_eq_run (tbsBytes signatureDer : Bytes) :
    outerCertificate tbsBytes signatureDer = (({} : Asn1Builder).run (outerCalls tbsBytes signatureDer)).out := rfl

theorem rawRsToDer_eq_run {raw : Bytes} (h : raw.length = 64) :
    rawRsToDer raw
      = (({} : Asn1Builder).run (signatureCalls (raw.take 32) ((raw.drop 32).take 32))).out := by
  rw [rawRsToDer, if_neg (by rw [h]; decide)]
  rfl

/-! ### Their trees -/

def algIdTree : Der.Tree := .constructed 0x30 [.primitive 0x06 OID_ECDSA_SHA256]

def nameTree : Der.Tree :=
  .constructed 0x30 [.constructed 0x31 [.constructed 0x30 [.primitive 0x06 OID_COMMON_NAME,
    .primitive 0x0C (ascii "Vianigram")]]]

def spkiTree (point : Bytes) : Der.Tree :=
  .constructed 0x30 [.constructed 0x30 [.primitive 0x06 OID_EC_PUBKEY, .primitive 0x06 OID_PRIME256V1],
    .primitive 0x03 (0 :: point)]

def tbsTree (serial : Bytes) (now expires : ℕ) (point : Bytes) : Der.Tree :=
  .constructed 0x30 [.constructed 0xA0 [.primitive 0x02 [0x02]], .primitive 0x02 (Asn1Builder.integerBody serial),
    algIdTree, nameTree, .constructed 0x30 [.primitive 0x17 (utcTime now), .primitive 0x17 (utcTime expires)],
    nameTree, spkiTree point]

def outerTree (tbs : Der.Tree) (signatureDer : Bytes) : Der.Tree :=
  .constructed 0x30 [tbs, algIdTree, .primitive 0x03 (0 :: signatureDer)]

def signatureTree (r s : Bytes) : Der.Tree :=
  .constructed 0x30 [.primitive 0x02 (Asn1Builder.integerBody r), .primitive 0x02 (Asn1Builder.integerBody s)]

theorem callTree_tbsCalls (serial : Bytes) (now expires : ℕ) (point : Bytes) :
    callTree (tbsCalls serial now expires point) = some [tbsTree serial now expires point] := rfl

theorem callTree_signatureCalls (r s : Bytes) : callTree (signatureCalls r s) = some [signatureTree r s] := rfl

/-- The signed part goes into the certificate as raw bytes, which are the element that it is. -/
theorem callTree_outerCalls {tbsBytes : Bytes} {tbs : Der.Tree} (h : Der.decode tbsBytes = some [tbs])
    (signatureDer : Bytes) : callTree (outerCalls tbsBytes signatureDer) = some [outerTree tbs signatureDer] := by
  simp only [callTree, outerCalls, List.cons_append, Draft.run, Draft.call, h]
  rfl

theorem out_run {calls : List Call} {t : Der.Tree} (h : callTree calls = some [t]) (hsize : t.weight < 2 ^ 63) :
    (({} : Asn1Builder).run calls).out = t.encode ∧ Der.decode (({} : Asn1Builder).run calls).out = some [t] := by
  have hlen := t.length_encode_le (by omega)
  have hrun := run_callTree h {} (by
    rw [encodeAll_singleton, List.length_nil]
    omega)
  rw [hrun.1, encodeAll_singleton] at *
  exact ⟨rfl, hrun.2⟩

theorem weight_tbsTree_le (serial : Bytes) (now expires : ℕ) (point : Bytes) :
    (tbsTree serial now expires point).weight ≤ serial.length + point.length + 400 := by
  have hbody := Asn1Builder.length_integerBody_le serial
  simp only [tbsTree, algIdTree, nameTree, spkiTree, Der.Tree.weight, Der.weightAll, length_utcTime, List.length_cons,
    List.length_nil, OID_ECDSA_SHA256, OID_COMMON_NAME, OID_EC_PUBKEY, OID_PRIME256V1]
  have hcn : (ascii "Vianigram").length = 9 := by decide
  omega

theorem weight_outerTree (tbs : Der.Tree) (signatureDer : Bytes) :
    (outerTree tbs signatureDer).weight = tbs.weight + signatureDer.length + 49 := by
  simp only [outerTree, algIdTree, Der.Tree.weight, Der.weightAll, List.length_cons, List.length_nil, OID_ECDSA_SHA256]
  omega

theorem weight_signatureTree_le (r s : Bytes) : (signatureTree r s).weight ≤ r.length + s.length + 32 := by
  have hr := Asn1Builder.length_integerBody_le r
  have hs := Asn1Builder.length_integerBody_le s
  simp only [signatureTree, Der.Tree.weight, Der.weightAll]
  omega

/-! ### What is read -/

theorem readInteger_integerBody (data : Bytes) :
    readInteger (.primitive 0x02 (Asn1Builder.integerBody data)) = some (ofBE data : ℤ) := by
  obtain ⟨hmin, hvalue⟩ := Asn1Builder.integerBody_spec data
  simp only [readInteger, readPrimitive, if_true, Option.bind_some, if_pos hmin, hvalue]

/-- What a reader finds in a certificate with these fields. -/
def readerView (serial : Bytes) (now expires : ℕ) (point signature : Bytes) : Certificate where
  tbs := tbsCertificate serial now expires point
  version := 2
  serial := ofBE serial
  algorithm := [OID_ECDSA_SHA256]
  issuer := [[(OID_COMMON_NAME, ascii "Vianigram")]]
  validity := (utcTime now, utcTime expires)
  subject := [[(OID_COMMON_NAME, ascii "Vianigram")]]
  publicKey := ([OID_EC_PUBKEY, OID_PRIME256V1], point)
  signature := signature

theorem ofTree_outerTree (serial : Bytes) (now expires : ℕ) (point signature : Bytes) :
    Certificate.ofTree (outerTree (tbsTree serial now expires point) signature)
      = some { readerView serial now expires point signature with
          tbs := (tbsTree serial now expires point).encode } := by
  have hserial := readInteger_integerBody serial
  have hversion : readVersion (.constructed 0xA0 [.primitive 0x02 [0x02]]) = some 2 := by decide
  have halgorithm : readAlgorithm algIdTree = some [OID_ECDSA_SHA256] := rfl
  have hname : readName nameTree = some [[(OID_COMMON_NAME, ascii "Vianigram")]] := rfl
  have hvalidity : readValidity (.constructed 0x30 [.primitive 0x17 (utcTime now), .primitive 0x17 (utcTime expires)])
      = some (utcTime now, utcTime expires) := rfl
  have hkey : readPublicKey (spkiTree point) = some ([OID_EC_PUBKEY, OID_PRIME256V1], point) := rfl
  have hsignature : readBitString (.primitive 0x03 (0 :: signature)) = some signature := rfl
  simp only [Certificate.ofTree, outerTree, tbsTree, readConstructed, if_true, Option.bind_some, hserial, hversion,
    halgorithm, hname, hvalidity, hkey, hsignature]
  rfl

/-- **The certificate is read as what it was written from.** -/
theorem parse_outerCertificate {serial point signature : Bytes} (now expires : ℕ) (hserial : serial.length < 2 ^ 32)
    (hpoint : point.length < 2 ^ 32) (hsignature : signature.length < 2 ^ 33) :
    Certificate.parse (outerCertificate (tbsCertificate serial now expires point) signature)
      = some (readerView serial now expires point signature) := by
  have hweight := weight_tbsTree_le serial now expires point
  have htbs := out_run (callTree_tbsCalls serial now expires point) (by omega)
  rw [← tbsCertificate_eq_run] at htbs
  have houter := out_run (callTree_outerCalls htbs.2 signature) (by
    rw [weight_outerTree]
    omega)
  rw [← outerCertificate_eq_run] at houter
  have htree := ofTree_outerTree serial now expires point signature
  rw [← htbs.1] at htree
  rw [Certificate.parse, houter.2]
  exact htree

theorem readConstructed_eq_some {tag : UInt8} {t : Der.Tree} {children : List Der.Tree}
    (h : readConstructed tag t = some children) : t = .constructed tag children := by
  rcases t with ⟨t, content⟩ | ⟨t, children⟩
  · cases h
  · obtain ⟨rfl, hchildren⟩ := Option.ite_none_right_eq_some.1 h
    rw [Option.some.inj hchildren]

theorem ofTree_eq_some {t : Der.Tree} {c : Certificate} (h : Certificate.ofTree t = some c) :
    ∃ tbs rest, t = .constructed 0x30 (tbs :: rest) ∧ c.tbs = tbs.encode := by
  obtain ⟨ts, ht, h⟩ := Option.bind_eq_some_iff.1 h
  split at h
  · next tbs algorithm signature =>
    refine ⟨tbs, [algorithm, signature], readConstructed_eq_some ht, ?_⟩
    obtain ⟨us, -, h⟩ := Option.bind_eq_some_iff.1 h
    split at h
    · simp only [Option.bind_eq_bind, Option.bind_eq_some_iff, Option.ite_none_right_eq_some] at h
      obtain ⟨_, -, _, -, -, _, -, _, -, _, -, _, -, _, -, _, -, _, -, h⟩ := h
      cases h
      rfl
    · cases h
  · cases h

/-- The signed part is a piece of the certificate, byte for byte. -/
theorem parse_tbs_infix {der : Bytes} {c : Certificate} (h : Certificate.parse der = some c) : c.tbs <:+: der := by
  obtain ⟨ts, hdecode, h⟩ := Option.bind_eq_some_iff.1 h
  split at h
  · obtain ⟨tbs, rest, rfl, htbs⟩ := ofTree_eq_some h
    refine ⟨0x30 :: Der.lengthOctets (Der.encodeAll (tbs :: rest)).length, Der.encodeAll rest, ?_⟩
    rw [(Der.decode_sound hdecode).1, htbs, encodeAll_singleton, Der.encode_constructed, Der.tlv, Der.encodeAll_cons,
      List.cons_append, List.cons_append, List.append_assoc]
  · cases h

/-- **A raw signature is read as its two numbers.** -/
theorem readSignature_rawRsToDer {raw : Bytes} (h : raw.length = 64) :
    readSignature (rawRsToDer raw) = some ((ofBE (raw.take 32) : ℤ), (ofBE (raw.drop 32) : ℤ)) := by
  have hs : (raw.drop 32).take 32 = raw.drop 32 := List.take_of_length_le (by simp [h])
  have hweight := weight_signatureTree_le (raw.take 32) (raw.drop 32)
  rw [List.length_take, List.length_drop] at hweight
  have hout := out_run (callTree_signatureCalls (raw.take 32) (raw.drop 32)) (by omega)
  rw [rawRsToDer_eq_run h, hs, readSignature, hout.2, Option.bind_some]
  simp only [signatureTree, readConstructed, if_true, Option.bind_some, readInteger_integerBody]
  rfl

/-! ### What the key pair builds -/

namespace EcdsaP256KeyPair

/-- The bytes that the next call of `toX509SelfSignedDer` hashes and has signed. -/
def signedPart (P : Platform) (kp : EcdsaP256KeyPair) : Bytes :=
  tbsCertificate (randomSerial (P.generateRandom kp.calls)) (P.time kp.calls) (P.time kp.calls + oneYear)
    (kp.getPublicKeyUncompressed P)

/-- The signature that it gets for them. -/
def ownSignature (P : Platform) (kp : EcdsaP256KeyPair) : Bytes := (kp.signSha256 P (P.sha256 (kp.signedPart P))).1

theorem toX509SelfSignedDer_of_signed {P : Platform} {kp : EcdsaP256KeyPair}
    (hpoint : (kp.getPublicKeyUncompressed P).length = 65) (hhead : (kp.getPublicKeyUncompressed P).getD 0 0 = 0x04)
    (hsigned : kp.ownSignature P ≠ []) :
    (kp.toX509SelfSignedDer P).1 = outerCertificate (kp.signedPart P) (kp.ownSignature P) := by
  have hguard : ¬ ((kp.getPublicKeyUncompressed P).length ≠ 65 ∨ (kp.getPublicKeyUncompressed P).getD 0 0 ≠ 0x04) :=
    fun h => h.elim (fun h => h hpoint) fun h => h hhead
  simp only [toX509SelfSignedDer]
  rw [if_neg hguard, if_neg (by rw [P.sha256_length]; decide)]
  show (if kp.ownSignature P = [] then _ else _ : Bytes × EcdsaP256KeyPair).1 = _
  rw [if_neg hsigned]
  rfl

theorem parse_toX509SelfSignedDer {P : Platform} {kp : EcdsaP256KeyPair}
    (hpoint : (kp.getPublicKeyUncompressed P).length = 65) (hhead : (kp.getPublicKeyUncompressed P).getD 0 0 = 0x04)
    (hsigned : kp.ownSignature P ≠ []) :
    Certificate.parse (kp.toX509SelfSignedDer P).1
      = some (readerView (randomSerial (P.generateRandom kp.calls)) (P.time kp.calls) (P.time kp.calls + oneYear)
          (kp.getPublicKeyUncompressed P) (kp.ownSignature P)) := by
  have hserial := (randomSerial_spec (P.generateRandom_length kp.calls)).1
  rw [toX509SelfSignedDer_of_signed hpoint hhead hsigned]
  exact parse_outerCertificate _ _ (by omega) (by omega) (length_signSha256_lt P kp _)

end EcdsaP256KeyPair

/-- **The certificate is well-formed DER.**  What `toX509SelfSignedDer` builds is read as a certificate around the very
bytes that were signed, with the serial, the point and the signature that went in; any well-nested sequence of calls has
a tree, and the writer appends the one encoding of it; a raw signature of 64 bytes is read as its two numbers. -/
theorem certificate_der :
    (∀ (P : Platform) (kp : EcdsaP256KeyPair), (kp.getPublicKeyUncompressed P).length = 65 →
      (kp.getPublicKeyUncompressed P).getD 0 0 = 0x04 → kp.ownSignature P ≠ [] →
      ∃ c, Certificate.parse (kp.toX509SelfSignedDer P).1 = some c ∧
        c.tbs = kp.signedPart P ∧ c.tbs <:+: (kp.toX509SelfSignedDer P).1 ∧
        c.signature = (kp.signSha256 P (P.sha256 c.tbs)).1 ∧
        c.serial = ofBE (randomSerial (P.generateRandom kp.calls)) ∧
        c.publicKey = ([OID_EC_PUBKEY, OID_PRIME256V1], kp.getPublicKeyUncompressed P)) ∧
    (∀ calls : List Call, WellNested calls → (∀ c ∈ calls, c.Fits) →
      ∃ ts, callTree calls = some ts ∧
        ∀ b : Asn1Builder, b.out.length + (Der.encodeAll ts).length < 2 ^ 64 →
          b.run calls = b.append (Der.encodeAll ts) ∧ Der.decode (Der.encodeAll ts) = some ts) ∧
    (∀ raw : Bytes, raw.length = 64 →
      readSignature (rawRsToDer raw) = some ((ofBE (raw.take 32) : ℤ), (ofBE (raw.drop 32) : ℤ))) := by
  refine ⟨?_, ?_, fun raw hraw => readSignature_rawRsToDer hraw⟩
  · intro P kp hpoint hhead hsigned
    have hparse := EcdsaP256KeyPair.parse_toX509SelfSignedDer hpoint hhead hsigned
    exact ⟨_, hparse, rfl, parse_tbs_infix hparse, rfl, rfl, rfl⟩
  · intro calls hnest hfits
    obtain ⟨ts, hts⟩ := exists_callTree hnest hfits
    exact ⟨ts, hts, fun b hsize => run_callTree hts b hsize⟩

/-- A platform with one key, at its first certificate. -/
def firstCertificate : Platform where
  sha256 := Sha256.sha256
  generateRandom _ := [0x24, 0x3F, 0x6A, 0x88, 0x85, 0xA3, 0x08, 0xD3]
  time n := 1784641509 + 45 * n
  exportPublicKey _ := some <| toBE 27 0x3059301306072a8648ce3d020106082a8648ce3d03010703420004
    ++ toBE 32 0x38f6a2f7e716590efb6b6490d2d73eedd452de5b01ec4aee2beb788c06ae9eda
    ++ toBE 32 0x935e7f15e6a38ef036d44f60cd84d8bfee00b08c13453f55f655112c59913d6a
  signHashedData _ _ := some <| toBE 32 0x41afe353c36e6f973d99d82af3d4c76482a1fb3f757ba002030fc6a1c72a3991
    ++ toBE 32 0x83d56f755940b94bd5f6530d62b65361e1ff828a0ea56213da968b8c7d271703
  sha256_length := Sha256.length_sha256
  generateRandom_length _ := Nat.le_refl 8
  signHashedData_length n hash sig h := by
    cases h
    simp

/-- An OCTET STRING in two sequences. -/
def nestedCalls (data : Bytes) : List Call :=
  [.beginConstructed 0x30, .beginConstructed 0x30, .writeOctetString data, .endConstructed, .writeInteger [0x80],
    .endConstructed]

def nestedTree (data : Bytes) : Der.Tree :=
  .constructed 0x30 [.constructed 0x30 [.primitive 0x04 data], .primitive 0x02 [0x00, 0x80]]

theorem callTree_nestedCalls (data : Bytes) : callTree (nestedCalls data) = some [nestedTree data] := rfl

theorem certificate_der_first :
    (∃ c, Certificate.parse (({} : EcdsaP256KeyPair).toX509SelfSignedDer firstCertificate).1 = some c ∧
      c.serial = 0x243F6A8885A308D3) ∧
    Der.decode (({} : Asn1Builder).run (nestedCalls (List.replicate 200 0xAB))).out
      = some [nestedTree (List.replicate 200 0xAB)] ∧
    readSignature (rawRsToDer (List.replicate 64 0xFF)) = some (2 ^ 256 - 1, 2 ^ 256 - 1) := by
  obtain ⟨hcert, hcalls, hsignature⟩ := certificate_der
  refine ⟨?_, ?_, ?_⟩
  · have hsigned : ({} : EcdsaP256KeyPair).ownSignature firstCertificate ≠ [] := by
      rw [EcdsaP256KeyPair.ownSignature, EcdsaP256KeyPair.signSha256, if_neg (by simp [firstCertificate.sha256_length])]
      decide +kernel
    obtain ⟨c, hparse, -, -, -, hserial, -⟩ := hcert firstCertificate {} (by decide +kernel) (by decide +kernel) hsigned
    have hvalue : (ofBE (randomSerial (firstCertificate.generateRandom 0)) : ℤ) = 0x243F6A8885A308D3 := by
      decide +kernel
    exact ⟨c, hparse, hserial.trans hvalue⟩
  · -- lengths of two bytes, inside and outside
    obtain ⟨ts, hts, hrun⟩ := hcalls (nestedCalls (List.replicate 200 0xAB)) rfl (by decide +kernel)
    obtain rfl := Option.some.inj ((callTree_nestedCalls _).symm.trans hts)
    have hlen := Der.length_encodeAll_le [nestedTree (List.replicate 200 0xAB)] (by decide +kernel)
    have hweight : Der.weightAll [nestedTree (List.replicate 200 0xAB)] < 2 ^ 64 := by decide +kernel
    have hempty : ({} : Asn1Builder).out.length = 0 := rfl
    obtain ⟨hout, hdecode⟩ := hrun {} (by
      rw [hempty, Nat.zero_add]
      exact hlen.trans_lt hweight)
    rw [hout]
    exact hdecode
  · exact (hsignature _ (by decide)).trans (by decide +kernel)

end VianiumVoip.Cert
