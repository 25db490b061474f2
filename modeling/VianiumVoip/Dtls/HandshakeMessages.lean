import VianiumVoip.Dtls.Record

/-!
# DTLS 1.2 handshake messages

The codecs of `infrastructure/dtls/dtls_handshake_messages.cpp` that the client session uses: the 12-byte
handshake header, the bodies the client reads (`HelloVerifyRequest`, `ServerHello`, `Certificate`,
`ServerKeyExchange`) and the ones it writes (`ClientHello`, `ClientKeyExchange`, `CertificateVerify`).
The loops over extensions and over the certificate list recurse on the bytes that are left.
-/

namespace VianiumVoip.Dtls

open VianiumVoip.Lib

/-! ### Registry values -/

def kHsClientHello : UInt8 := 1
def kHsServerHello : UInt8 := 2
def kHsHelloVerifyRequest : UInt8 := 3
def kHsCertificate : UInt8 := 11
def kHsServerKeyExchange : UInt8 := 12
def kHsCertificateRequest : UInt8 := 13
def kHsServerHelloDone : UInt8 := 14
def kHsCertificateVerify : UInt8 := 15
def kHsClientKeyExchange : UInt8 := 16
def kHsFinished : UInt8 := 20

def kCsEcdheEcdsaAes128GcmSha256 : UInt16 := 0xC02B
def kNgSecp256r1 : UInt16 := 0x0017
def kEcPointFormatUncompressed : UInt8 := 0
def kSigAlgEcdsaSecp256r1Sha256 : UInt16 := 0x0403

def kExtSupportedGroups : UInt16 := 0x000A
def kExtEcPointFormats : UInt16 := 0x000B
def kExtSignatureAlgorithms : UInt16 := 0x000D
def kExtUseSrtp : UInt16 := 0x000E
def kExtExtendedMasterSecret : UInt16 := 0x0017

def kSrtpAes128CmHmacSha1_80 : UInt16 := 0x0001

def kHandshakeHeaderSize : ℕ := 12
def kMasterSecretLength : ℕ := 48
def kVerifyDataLength : ℕ := 12

/-! ### Handshake header -/

structure HandshakeHeader where
  msgType : UInt8
  length : UInt32
  messageSeq : UInt16
  fragmentOffset : UInt32
  fragmentLength : UInt32
  deriving DecidableEq, Repr

namespace HandshakeHeaderCodec

def encode (h : HandshakeHeader) : Bytes :=
  [h.msgType] ++ storeBE24 h.length ++ storeBE16 h.messageSeq ++ storeBE24 h.fragmentOffset
    ++ storeBE24 h.fragmentLength

def decode (data : Bytes) : Option HandshakeHeader :=
  if data.length < kHandshakeHeaderSize then none
  else
    some { msgType := data.getD 0 0
           length := loadBE24 (data.drop 1)
           messageSeq := loadBE16 (data.drop 4)
           fragmentOffset := loadBE24 (data.drop 6)
           fragmentLength := loadBE24 (data.drop 9) }

end HandshakeHeaderCodec

def wrapHandshakeUnfragmented (msgType : UInt8) (messageSeq : UInt16) (body : Bytes) : Bytes :=
  HandshakeHeaderCodec.encode
      { msgType := msgType
        length := UInt32.ofNat body.length
        messageSeq := messageSeq
        fragmentOffset := 0
        fragmentLength := UInt32.ofNat body.length }
    ++ body

theorem loadBE24_store_ofNat {n : ℕ} (h : n < 2 ^ 24) (r : Bytes) :
    loadBE24 (storeBE24 (UInt32.ofNat n) ++ r) = UInt32.ofNat n := by
  rw [← UInt32.toNat_inj, loadBE24_store, UInt32.toNat_ofNat']
  omega

theorem decode_wrapHandshakeUnfragmented (msgType : UInt8) (messageSeq : UInt16) {body : Bytes} (rest : Bytes)
    (hlen : body.length < 2 ^ 24) :
    HandshakeHeaderCodec.decode (wrapHandshakeUnfragmented msgType messageSeq body ++ rest)
      = some { msgType := msgType
               length := UInt32.ofNat body.length
               messageSeq := messageSeq
               fragmentOffset := 0
               fragmentLength := UInt32.ofNat body.length } := by
  have hzero (r : Bytes) : loadBE24 (storeBE24 0 ++ r) = 0 := loadBE24_store_ofNat (n := 0) (by omega) r
  unfold HandshakeHeaderCodec.decode
  rw [if_neg (by simp [wrapHandshakeUnfragmented, HandshakeHeaderCodec.encode, kHandshakeHeaderSize]; omega)]
  simp [wrapHandshakeUnfragmented, HandshakeHeaderCodec.encode, hzero, loadBE24_store_ofNat hlen]

@[simp] theorem length_wrapHandshakeUnfragmented (msgType : UInt8) (messageSeq : UInt16) (body : Bytes) :
    (wrapHandshakeUnfragmented msgType messageSeq body).length = kHandshakeHeaderSize + body.length := by
  simp [wrapHandshakeUnfragmented, HandshakeHeaderCodec.encode, kHandshakeHeaderSize]
  omega

/-! ### ClientHello -/

structure ClientHello where
  random : Bytes := List.replicate 32 0
  sessionId : Bytes := []
  cookie : Bytes := []
  cipherSuites : List UInt16 := []
  compressionMethods : Bytes := []
  supportedGroups : List UInt16 := []
  ecPointFormats : Bytes := []
  signatureAlgorithms : List UInt16 := []
  srtpProtectionProfiles : List UInt16 := []
  srtpMki : Bytes := []
  extendedMasterSecret : Bool := true

namespace ClientHelloCodec

/-- A list of 16-bit values behind its length in bytes. -/
def u16List (xs : List UInt16) : Bytes := storeBE16 (UInt16.ofNat (xs.length * 2)) ++ xs.flatMap storeBE16

/-- A byte string behind its 8-bit length. -/
def u8Block (b : Bytes) : Bytes := [UInt8.ofNat b.length] ++ b

def extension (type : UInt16) (body : Bytes) : Bytes :=
  storeBE16 type ++ storeBE16 (UInt16.ofNat body.length) ++ body

/-- The extensions block, in the order in which the source appends them. -/
def extensions (m : ClientHello) : Bytes :=
  (if m.supportedGroups ≠ [] then extension kExtSupportedGroups (u16List m.supportedGroups) else [])
    ++ (if m.ecPointFormats ≠ [] then extension kExtEcPointFormats (u8Block m.ecPointFormats) else [])
    ++ (if m.signatureAlgorithms ≠ [] then extension kExtSignatureAlgorithms (u16List m.signatureAlgorithms)
        else [])
    ++ (if m.srtpProtectionProfiles ≠ [] then
          extension kExtUseSrtp (u16List m.srtpProtectionProfiles ++ u8Block m.srtpMki)
        else [])
    ++ (if m.extendedMasterSecret then storeBE16 kExtExtendedMasterSecret ++ storeBE16 0 else [])

def encode (m : ClientHello) : Bytes :=
  storeBE16 kDtlsVersion12 ++ m.random ++ u8Block m.sessionId ++ u8Block m.cookie ++ u16List m.cipherSuites
    ++ u8Block m.compressionMethods ++ storeBE16 (UInt16.ofNat (extensions m).length) ++ extensions m

end ClientHelloCodec

/-! ### HelloVerifyRequest -/

structure HelloVerifyRequest where
  serverVersion : UInt16
  cookie : Bytes

namespace HelloVerifyRequestCodec

def decode (data : Bytes) : Option HelloVerifyRequest :=
  if data.length < 3 then none
  else
    let cookieLen := (data.getD 2 0).toNat
    if data.length < 3 + cookieLen then none
    else some { serverVersion := loadBE16 data, cookie := (data.drop 3).take cookieLen }

end HelloVerifyRequestCodec

/-! ### ServerHello -/

structure ServerHello where
  serverVersion : UInt16 := kDtlsVersion12
  random : Bytes := List.replicate 32 0
  sessionId : Bytes := []
  cipherSuite : UInt16 := 0
  compressionMethod : UInt8 := 0
  extendedMasterSecret : Bool := false
  useSrtpPresent : Bool := false
  srtpProtectionProfile : UInt16 := 0
  deriving DecidableEq, Repr

namespace ServerHelloCodec

/-- What one extension of type `extType` and body `ext` changes. -/
def readExtension (out : ServerHello) (extType : UInt16) (ext : Bytes) : ServerHello :=
  if extType = kExtExtendedMasterSecret then { out with extendedMasterSecret := true }
  else if extType = kExtUseSrtp then
    if 2 ≤ ext.length then
      let profsLen := (loadBE16 ext).toNat
      if 2 ≤ profsLen ∧ 2 + profsLen ≤ ext.length then
        { out with useSrtpPresent := true, srtpProtectionProfile := loadBE16 (ext.drop 2) }
      else out
    else out
  else out

/-- The loop `while (pos + 4 <= extsEnd)`. -/
def readExtensions (out : ServerHello) (exts : Bytes) : Option ServerHello :=
  if 4 ≤ exts.length then
    let extLen := (loadBE16 (exts.drop 2)).toNat
    if exts.length < 4 + extLen then none
    else
      readExtensions (readExtension out (loadBE16 exts) ((exts.drop 4).take extLen)) (exts.drop (4 + extLen))
  else some out
termination_by exts.length
decreasing_by rw [List.length_drop]; omega

def decode (data : Bytes) : Option ServerHello :=
  if data.length < 2 + 32 + 1 then none
  else
    let sidLen := (data.getD 34 0).toNat
    let pos := 35 + sidLen
    if data.length < pos then none
    else if data.length < pos + 3 then none
    else
      let out : ServerHello :=
        { serverVersion := loadBE16 data
          random := (data.drop 2).take 32
          sessionId := (data.drop 35).take sidLen
          cipherSuite := loadBE16 (data.drop pos)
          compressionMethod := data.getD (pos + 2) 0 }
      if pos + 3 = data.length then some out   -- no extensions block
      else if data.length < pos + 5 then none
      else
        let extsLen := (loadBE16 (data.drop (pos + 3))).toNat
        if data.length < pos + 5 + extsLen then none
        else readExtensions out ((data.drop (pos + 5)).take extsLen)

theorem readExtension_random (out : ServerHello) (t : UInt16) (e : Bytes) :
    (readExtension out t e).random = out.random := by
  simp only [readExtension]
  split_ifs <;> rfl

theorem readExtensions_random {out sh : ServerHello} {exts : Bytes} (h : readExtensions out exts = some sh) :
    sh.random = out.random := by
  fun_induction readExtensions out exts with
  | case1 => simp at h
  | case2 out exts _ _ _ ih => rw [ih h, readExtension_random]
  | case3 out exts => cases h; rfl

theorem length_random {data : Bytes} {sh : ServerHello} (h : decode data = some sh) : sh.random.length = 32 := by
  have htake : 35 ≤ data.length → ((data.drop 2).take 32).length = 32 := by
    intro hle
    rw [List.length_take, List.length_drop]
    omega
  simp only [decode] at h
  split_ifs at h with h1 h2 h3 h4 h5 h6
  · cases h
    exact htake (by omega)
  · rw [readExtensions_random h]
    exact htake (by omega)

end ServerHelloCodec

/-! ### Certificate -/

structure Certificate where
  /-- Entry `0` is the leaf, in DER form. -/
  chain : List Bytes
  deriving DecidableEq

namespace CertificateCodec

/-- The loop `while (pos + 3 <= end)`. -/
def readChain (list : Bytes) : Option (List Bytes) :=
  if 3 ≤ list.length then
    let certLen := (loadBE24 list).toNat
    if list.length < 3 + certLen then none
    else (readChain (list.drop (3 + certLen))).map ((list.drop 3).take certLen :: ·)
  else some []
termination_by list.length
decreasing_by rw [List.length_drop]; omega

def decode (data : Bytes) : Option Certificate :=
  if data.length < 3 then none
  else
    let listLen := (loadBE24 data).toNat
    if data.length < 3 + listLen then none
    else (readChain ((data.drop 3).take listLen)).map Certificate.mk

end CertificateCodec

/-! ### ServerKeyExchange -/

structure ServerKeyExchange where
  namedCurve : UInt16
  publicPoint : Bytes
  hashAlgorithm : UInt8
  signatureAlgorithm : UInt8
  signature : Bytes
  /-- `curve_type .. public`, the bytes under the signature. -/
  signedParams : Bytes

namespace ServerKeyExchangeCodec

def decode (data : Bytes) : Option ServerKeyExchange :=
  if data.length < 4 then none
  else if data.getD 0 0 ≠ 0x03 then none   -- named_curve
  else
    let pointLen := (data.getD 3 0).toNat
    let pos := 4 + pointLen
    if data.length < pos then none
    else if data.length < pos + 2 then none
    else if data.length < pos + 4 then none
    else
      let sigLen := (loadBE16 (data.drop (pos + 2))).toNat
      if data.length < pos + 4 + sigLen then none
      else
        some { namedCurve := loadBE16 (data.drop 1)
               publicPoint := (data.drop 4).take pointLen
               hashAlgorithm := data.getD pos 0
               signatureAlgorithm := data.getD (pos + 1) 0
               signature := (data.drop (pos + 4)).take sigLen
               signedParams := data.take pos }

end ServerKeyExchangeCodec

/-! ### ClientKeyExchange and CertificateVerify -/

structure ClientKeyExchange where
  publicPoint : Bytes

def ClientKeyExchangeCodec.encode (m : ClientKeyExchange) : Bytes :=
  [UInt8.ofNat m.publicPoint.length] ++ m.publicPoint

structure CertificateVerify where
  hashAlgorithm : UInt8
  signatureAlgorithm : UInt8
  signature : Bytes

def CertificateVerifyCodec.encode (m : CertificateVerify) : Bytes :=
  [m.hashAlgorithm] ++ [m.signatureAlgorithm] ++ storeBE16 (UInt16.ofNat m.signature.length) ++ m.signature

end VianiumVoip.Dtls
