import VianiumVoip.Dtls.HandshakeMessages
import VianiumVoip.Cert.EcdsaP256KeyPair

/-!
# The DTLS 1.2 client session

`application/dtls_client_session.cpp`.  The session is explicit state; a function that appends datagrams to
`outDatagrams` returns them next to the new session.  SHA-256, the PRF, ECDH and AES-GCM are the parameter
`Crypto`.  The switch over the message type is one definition a branch, and the inner loop of
`ProcessDatagram` (the messages of a record) is `handleMessages`.
-/

namespace VianiumVoip.Dtls

open VianiumVoip.Lib VianiumVoip.Cert

/-! ### The cryptographic library -/

/-- A direction's cipher: `AesGcm` after `Init(key, 16, iv, 4)`. -/
structure AesGcm where
  key : Bytes
  iv : Bytes
  deriving DecidableEq, Repr

/-- The functions the session calls outside the repository. -/
structure Crypto extends Platform where
  /-- `vianium::tls::TlsPrf::Compute` with SHA-256: secret, label, seed, length. -/
  prf : Bytes → String → Bytes → ℕ → Bytes
  /-- `EcdhP256::ComputeSharedSecret`: private key and uncompressed point; `none` when it returns false. -/
  computeSharedSecret : Bytes → Bytes → Option Bytes
  /-- `AesGcm::Encrypt`: data, sequence number, content type, version; `none` when it returns a negative. -/
  encrypt : AesGcm → Bytes → UInt64 → UInt8 → UInt16 → Option Bytes
  /-- `AesGcm::Decrypt` -/
  decrypt : AesGcm → Bytes → UInt64 → UInt8 → UInt16 → Option Bytes
  prf_length : ∀ secret label seed n, (prf secret label seed n).length = n
  computeSharedSecret_length : ∀ d q pms, computeSharedSecret d q = some pms → pms.length = 32

/-- The null library, for concrete runs: digests, PRF outputs and shared secrets are zero, records are sent in
the clear, and the platform has no key. -/
def nullCrypto : Crypto where
  sha256 _ := List.replicate 32 0
  generateRandom _ := []
  time _ := 0
  exportPublicKey _ := none
  signHashedData _ _ := none
  sha256_length _ := rfl
  generateRandom_length _ := by decide
  signHashedData_length _ _ _ h := by cases h
  prf _ _ _ n := List.replicate n 0
  computeSharedSecret _ _ := some (List.replicate 32 0)
  encrypt _ data _ _ _ := some data
  decrypt _ data _ _ _ := some data
  prf_length _ _ _ n := List.length_replicate
  computeSharedSecret_length _ _ _ h := by cases h; rfl

/-- `TlsPrf::Compute` of `infrastructure/dtls/tls_prf.cpp`. -/
def tlsPrf (C : Crypto) (secret : Bytes) (label : String) (seed : Bytes) (length : ℕ) : Bytes :=
  if length = 0 then [] else C.prf secret label seed length

@[simp] theorem length_tlsPrf (C : Crypto) (secret : Bytes) (label : String) (seed : Bytes) (n : ℕ) :
    (tlsPrf C secret label seed n).length = n := by
  unfold tlsPrf
  split_ifs with h
  · simp [h]
  · exact C.prf_length ..

/-! ### The session -/

inductive DtlsState
  | initial
  | sentClientHello
  | gotHelloVerifyRequest
  | sentClientHelloWithCookie
  | gotServerHello
  | gotServerCertificate
  | gotServerKeyExchange
  | gotServerHelloDone
  | sentClientKeyExchange
  | sentChangeCipherSpec
  | sentFinished
  | gotChangeCipherSpec
  | established
  | failed
  deriving DecidableEq, Repr

structure DtlsClientSession where
  state : DtlsState := .initial
  failureReason : String := ""
  ourCert : EcdsaP256KeyPair
  expectedPeerFingerprint : Bytes
  clientRandom : Bytes := List.replicate 32 0
  serverRandom : Bytes := List.replicate 32 0
  cookie : Bytes := []
  serverPublicPoint : Bytes := []
  ourEcdhPrivate : Bytes := []
  ourEcdhPublic : Bytes := []
  serverCertDer : Bytes := []
  extendedMasterSecret : Bool := true
  clientMessageSeq : UInt16 := 0
  serverMessageSeqExpected : UInt16 := 0
  clientEpoch : UInt16 := 0
  clientRecordSeq : UInt64 := 0
  serverRecordSeq : UInt64 := 0
  masterSecret : Bytes := []
  clientWriteKey : Bytes := []
  serverWriteKey : Bytes := []
  clientWriteIv : Bytes := []
  serverWriteIv : Bytes := []
  clientCipher : Option AesGcm := none
  serverCipher : Option AesGcm := none
  handshakeTranscript : Bytes := []

/-- `HexNybble`: `none` stands for `-1`. -/
def hexNybble (c : Char) : Option ℕ :=
  if '0' ≤ c ∧ c ≤ '9' then some (c.toNat - '0'.toNat)
  else if 'a' ≤ c ∧ c ≤ 'f' then some (10 + (c.toNat - 'a'.toNat))
  else if 'A' ≤ c ∧ c ≤ 'F' then some (10 + (c.toNat - 'A'.toNat))
  else none

/-- The loop of `ParseHexFingerprint`, with `out` and `hi` as in the source; `none` where it clears `out`. -/
def parseHexLoop : (out : Bytes) → (hi : Option ℕ) → List Char → Option Bytes
  | out, none, [] => some out
  | _, some _, [] => none
  | out, hi, c :: cs =>
    if c = ':' ∨ c = ' ' ∨ c = '\r' ∨ c = '\n' ∨ c = '\t' then parseHexLoop out hi cs
    else
      match hexNybble c, hi with
      | none, _ => none
      | some n, none => parseHexLoop out (some n) cs
      | some n, some h => parseHexLoop (out ++ [UInt8.ofNat (h <<< 4 ||| n)]) none cs

/-- `ParseHexFingerprint`: empty when the text is not a whole number of hexadecimal bytes. -/
def parseHexFingerprint (fp : List Char) : Bytes := (parseHexLoop [] none fp).getD []

/-- `TlsLikeTranscriptBytes`: message type, 24-bit length, body. -/
def tlsLikeTranscriptBytes (msgType : UInt8) (body : Bytes) : Bytes :=
  [msgType] ++ storeBE24 (UInt32.ofNat body.length) ++ body

def wrapRecord (contentType : UInt8) (version epoch : UInt16) (recordSeq : UInt64) (payload : Bytes) : Bytes :=
  DtlsRecordCodec.encode
    { type := contentType, version := version, epoch := epoch, sequenceNumber := recordSeq, payload := payload }

/-- `(epoch << 48) | seq` -/
def combinedSeq (epoch : UInt16) (seq : UInt64) : UInt64 := (epoch.toUInt64 <<< 48) ||| seq

/-- What `Initiate` draws: 32 random bytes and an ECDH key pair. -/
structure InitiateDraws where
  random : Bytes
  ecdhPrivate : Bytes
  ecdhPublic : Bytes
  random_length : random.length = 32
  ecdhPrivate_length : ecdhPrivate.length = 32
  ecdhPublic_length : ecdhPublic.length = 65

/-- A zero random and a zero key pair. -/
def nullDraws : InitiateDraws where
  random := List.replicate 32 0
  ecdhPrivate := List.replicate 32 0
  ecdhPublic := List.replicate 65 0
  random_length := rfl
  ecdhPrivate_length := rfl
  ecdhPublic_length := rfl

namespace DtlsClientSession

/-- The constructor. -/
def create (ourCert : EcdsaP256KeyPair) (peerFingerprint : List Char) : DtlsClientSession :=
  { ourCert := ourCert, expectedPeerFingerprint := parseHexFingerprint peerFingerprint }

def fail (s : DtlsClientSession) (reason : String) : DtlsClientSession :=
  { s with state := .failed, failureReason := reason }

def appendToHandshakeHash (s : DtlsClientSession) (data : Bytes) : DtlsClientSession :=
  { s with handshakeTranscript := s.handshakeTranscript ++ data }

/-! ### Client messages -/

def buildClientHelloBody (s : DtlsClientSession) (withCookie : Bool) : Bytes :=
  ClientHelloCodec.encode
    { random := s.clientRandom
      cookie := if withCookie then s.cookie else []
      cipherSuites := [kCsEcdheEcdsaAes128GcmSha256]
      compressionMethods := [0]
      supportedGroups := [kNgSecp256r1]
      ecPointFormats := [kEcPointFormatUncompressed]
      signatureAlgorithms := [kSigAlgEcdsaSecp256r1Sha256]
      srtpProtectionProfiles := [kSrtpAes128CmHmacSha1_80]
      extendedMasterSecret := true }

/-- The steps every plaintext client message takes: wrap it under the next message number, enter it in the
transcript, and put it in a record of its own. -/
def sendHandshake (s : DtlsClientSession) (msgType : UInt8) (body : Bytes) : DtlsClientSession × Bytes :=
  let wrapped := wrapHandshakeUnfragmented msgType s.clientMessageSeq body
  let s' := s.appendToHandshakeHash (tlsLikeTranscriptBytes msgType body)
  ({ s' with clientMessageSeq := s.clientMessageSeq + 1, clientRecordSeq := s.clientRecordSeq + 1 },
    wrapRecord kDtlsContentHandshake kDtlsVersion12 s.clientEpoch s.clientRecordSeq wrapped)

def buildCertificateBody (C : Crypto) (s : DtlsClientSession) : Bytes × DtlsClientSession :=
  let (der, ourCert) := s.ourCert.toX509SelfSignedDer C.toPlatform
  (storeBE24 (UInt32.ofNat (3 + der.length)) ++ storeBE24 (UInt32.ofNat der.length) ++ der,
    { s with ourCert := ourCert })

def buildClientKeyExchangeBody (s : DtlsClientSession) : Bytes :=
  ClientKeyExchangeCodec.encode { publicPoint := s.ourEcdhPublic }

def buildCertificateVerifyBody (C : Crypto) (s : DtlsClientSession) (transcriptSoFar : Bytes) :
    Bytes × DtlsClientSession :=
  let digest := C.sha256 transcriptSoFar
  let (sig, ourCert) := s.ourCert.signSha256 C.toPlatform digest
  (CertificateVerifyCodec.encode { hashAlgorithm := 4, signatureAlgorithm := 3, signature := sig },
    { s with ourCert := ourCert })

def buildFinishedBody (C : Crypto) (s : DtlsClientSession) (transcriptUpTo : Bytes) (fromClient : Bool) : Bytes :=
  tlsPrf C s.masterSecret (if fromClient then "client finished" else "server finished")
    (C.sha256 transcriptUpTo) kVerifyDataLength

/-! ### Keys -/

def masterSecretFrom (C : Crypto) (s : DtlsClientSession) (pms : Bytes) : Bytes :=
  if s.extendedMasterSecret then tlsPrf C pms "extended master secret" (C.sha256 s.handshakeTranscript) 48
  else tlsPrf C pms "master secret" (s.clientRandom ++ s.serverRandom) 48

def keyBlock (C : Crypto) (s : DtlsClientSession) : Bytes :=
  tlsPrf C s.masterSecret "key expansion" (s.serverRandom ++ s.clientRandom) (2 * 16 + 2 * 4)

/-- Cut the key block into keys and IVs and wire up the ciphers. -/
def installKeys (s : DtlsClientSession) (keyBlock : Bytes) : DtlsClientSession :=
  let clientWriteKey := keyBlock.take 16
  let serverWriteKey := (keyBlock.drop 16).take 16
  let clientWriteIv := (keyBlock.drop 32).take 4
  let serverWriteIv := (keyBlock.drop 36).take 4
  { s with
    clientWriteKey := clientWriteKey
    serverWriteKey := serverWriteKey
    clientWriteIv := clientWriteIv
    serverWriteIv := serverWriteIv
    clientCipher := some { key := clientWriteKey, iv := clientWriteIv }
    serverCipher := some { key := serverWriteKey, iv := serverWriteIv } }

/-- `DeriveKeysAndCipher` -/
def deriveKeysAndCipher (C : Crypto) (s : DtlsClientSession) : DtlsClientSession :=
  if s.serverPublicPoint.length ≠ 65 then s.fail "missing server pub"
  else if s.ourEcdhPrivate.length ≠ 32 then s.fail "missing our ecdh priv"
  else
    match C.computeSharedSecret s.ourEcdhPrivate s.serverPublicPoint with
    | none => s.fail "ECDH compute_shared_secret failed"
    | some pms =>
      let s := { s with masterSecret := s.masterSecretFrom C pms }
      if (s.keyBlock C).length ≠ 40 then s.fail "PRF produced wrong key_block size"
      else s.installKeys (s.keyBlock C)

/-- `BuildClientFinishedFlight`: ChangeCipherSpec, and Finished under the new keys.  The client cipher is there
when this is called: `DeriveKeysAndCipher` has just set it. -/
def buildClientFinishedFlight (C : Crypto) (s : DtlsClientSession) : DtlsClientSession × List Bytes :=
  let ccs := wrapRecord kDtlsContentChangeCipherSpec kDtlsVersion12 s.clientEpoch s.clientRecordSeq [0x01]
  let s := { s with state := .sentChangeCipherSpec, clientEpoch := s.clientEpoch + 1, clientRecordSeq := 0 }
  let finishedBody := s.buildFinishedBody C s.handshakeTranscript true
  let wrapped := wrapHandshakeUnfragmented kHsFinished s.clientMessageSeq finishedBody
  let s := { s with clientMessageSeq := s.clientMessageSeq + 1 }
  let s := s.appendToHandshakeHash (tlsLikeTranscriptBytes kHsFinished finishedBody)
  match s.clientCipher.bind fun cipher =>
      C.encrypt cipher wrapped (combinedSeq s.clientEpoch s.clientRecordSeq) kDtlsContentHandshake kDtlsVersion12 with
  | none => (s.fail "AES-GCM encrypt of Finished failed", [ccs])
  | some encrypted =>
    ({ s with clientRecordSeq := s.clientRecordSeq + 1, state := .sentFinished },
      [ccs, wrapRecord kDtlsContentHandshake kDtlsVersion12 s.clientEpoch s.clientRecordSeq encrypted])

/-- `Initiate` -/
def initiate (s : DtlsClientSession) (draws : InitiateDraws) : DtlsClientSession × List Bytes :=
  let s := { s with
    clientRandom := draws.random, ourEcdhPrivate := draws.ecdhPrivate, ourEcdhPublic := draws.ecdhPublic }
  let (s, hello) := s.sendHandshake kHsClientHello (s.buildClientHelloBody false)
  ({ s with state := .sentClientHello }, [hello])

/-! ### Handshake messages, branch by branch -/

def handleHelloVerifyRequest (s : DtlsClientSession) (body : Bytes) : DtlsClientSession × List Bytes :=
  match HelloVerifyRequestCodec.decode body with
  | none => (s.fail "malformed HelloVerifyRequest", [])
  | some hvr =>
    -- the first ClientHello and this message are not part of the transcript
    let s := { s with cookie := hvr.cookie, handshakeTranscript := [] }
    let (s, hello) := s.sendHandshake kHsClientHello (s.buildClientHelloBody true)
    ({ s with state := .sentClientHelloWithCookie }, [hello])

def handleServerHello (s : DtlsClientSession) (body : Bytes) : DtlsClientSession :=
  match ServerHelloCodec.decode body with
  | none => s.fail "malformed ServerHello"
  | some sh =>
    if sh.cipherSuite ≠ kCsEcdheEcdsaAes128GcmSha256 then s.fail "server picked unsupported cipher suite"
    else
      let s := { s with serverRandom := sh.random, extendedMasterSecret := sh.extendedMasterSecret }
      { s.appendToHandshakeHash (tlsLikeTranscriptBytes kHsServerHello body) with state := .gotServerHello }

def handleCertificate (C : Crypto) (s : DtlsClientSession) (body : Bytes) : DtlsClientSession :=
  match CertificateCodec.decode body with
  | none => s.fail "malformed Certificate"
  | some cert =>
    match cert.chain with
    | [] => s.fail "malformed Certificate"
    | leaf :: _ =>
      let s := { s with serverCertDer := leaf }
      let got := C.sha256 s.serverCertDer
      if got ≠ s.expectedPeerFingerprint then s.fail "peer certificate fingerprint mismatch"
      else
        { s.appendToHandshakeHash (tlsLikeTranscriptBytes kHsCertificate body) with
          state := .gotServerCertificate }

def handleServerKeyExchange (s : DtlsClientSession) (body : Bytes) : DtlsClientSession :=
  match ServerKeyExchangeCodec.decode body with
  | none => s.fail "malformed ServerKeyExchange"
  | some ske =>
    if ske.namedCurve ≠ kNgSecp256r1 then s.fail "server picked unsupported curve"
    else if ske.publicPoint.length ≠ 65 ∨ ske.publicPoint.getD 0 0 ≠ 0x04 then
      s.fail "server EC point must be uncompressed P-256"
    else
      let s := { s with serverPublicPoint := ske.publicPoint }
      { s.appendToHandshakeHash (tlsLikeTranscriptBytes kHsServerKeyExchange body) with
        state := .gotServerKeyExchange }

def handleCertificateRequest (s : DtlsClientSession) (body : Bytes) : DtlsClientSession :=
  s.appendToHandshakeHash (tlsLikeTranscriptBytes kHsCertificateRequest body)

/-- The part of the `ServerHelloDone` branch before the keys: Certificate, ClientKeyExchange and
CertificateVerify. -/
def sendClientFlight (C : Crypto) (s : DtlsClientSession) (body : Bytes) : DtlsClientSession × List Bytes :=
  let s := s.appendToHandshakeHash (tlsLikeTranscriptBytes kHsServerHelloDone body)
  let s := { s with state := .gotServerHelloDone }
  let (certBody, s) := s.buildCertificateBody C
  let (s, certificate) := s.sendHandshake kHsCertificate certBody
  let (s, keyExchange) := s.sendHandshake kHsClientKeyExchange s.buildClientKeyExchangeBody
  let s := { s with state := .sentClientKeyExchange }
  let (cvBody, s) := s.buildCertificateVerifyBody C s.handshakeTranscript
  let (s, verify) := s.sendHandshake kHsCertificateVerify cvBody
  (s, [certificate, keyExchange, verify])

def handleServerHelloDone (C : Crypto) (s : DtlsClientSession) (body : Bytes) : DtlsClientSession × List Bytes :=
  let (s, flight) := s.sendClientFlight C body
  let s := s.deriveKeysAndCipher C
  if s.state = .failed then (s, flight)
  else
    let (s, finished) := s.buildClientFinishedFlight C
    (s, flight ++ finished)

def handleFinished (C : Crypto) (s : DtlsClientSession) (body : Bytes) : DtlsClientSession :=
  let expected := s.buildFinishedBody C s.handshakeTranscript false
  if body.length ≠ kVerifyDataLength ∨ body ≠ expected then s.fail "bad server Finished verify_data"
  else { s.appendToHandshakeHash (tlsLikeTranscriptBytes kHsFinished body) with state := .established }

/-- `HandleHandshakeMessage` -/
def handleHandshakeMessage (C : Crypto) (s : DtlsClientSession) (msgType : UInt8) (body : Bytes) :
    DtlsClientSession × List Bytes :=
  if msgType = kHsHelloVerifyRequest then s.handleHelloVerifyRequest body
  else if msgType = kHsServerHello then (s.handleServerHello body, [])
  else if msgType = kHsCertificate then (s.handleCertificate C body, [])
  else if msgType = kHsServerKeyExchange then (s.handleServerKeyExchange body, [])
  else if msgType = kHsCertificateRequest then (s.handleCertificateRequest body, [])
  else if msgType = kHsServerHelloDone then s.handleServerHelloDone C body
  else if msgType = kHsFinished then (s.handleFinished C body, [])
  else (s, [])   -- unknown message types are tolerated

def handleChangeCipherSpec (s : DtlsClientSession) : DtlsClientSession :=
  { s with state := .gotChangeCipherSpec }

/-! ### Datagrams -/

/-- The loop over the handshake messages of one record.  The flag is false where the source returns false. -/
def handleMessages (C : Crypto) (s : DtlsClientSession) (msg : Bytes) : DtlsClientSession × List Bytes × Bool :=
  if kHandshakeHeaderSize ≤ msg.length then
    match HandshakeHeaderCodec.decode msg with
    | none => (s.fail "malformed handshake header", [], false)
    | some hh =>
      if hh.fragmentOffset ≠ 0 ∨ hh.fragmentLength ≠ hh.length then
        (s.fail "fragmented DTLS handshake messages not supported", [], false)
      else if msg.length < kHandshakeHeaderSize + hh.length.toNat then
        (s.fail "handshake length overruns record", [], false)
      else
        let body := (msg.drop kHandshakeHeaderSize).take hh.length.toNat
        let (s, out) := s.handleHandshakeMessage C hh.msgType body
        if s.state = .failed then (s, out, false)
        else
          let (s, out', ok) := handleMessages C s (msg.drop (kHandshakeHeaderSize + hh.length.toNat))
          (s, out ++ out', ok)
  else (s, [], true)
termination_by msg.length
decreasing_by
  rw [List.length_drop]
  simp only [kHandshakeHeaderSize] at *
  omega

/-- What one record does. -/
def handleRecord (C : Crypto) (s : DtlsClientSession) (rec : DtlsRecord) : DtlsClientSession × List Bytes × Bool :=
  if rec.type = kDtlsContentChangeCipherSpec then (s.handleChangeCipherSpec, [], true)
  else if rec.type = kDtlsContentAlert then
    if 2 ≤ rec.payload.length ∧ rec.payload.getD 0 0 = 2 then (s.fail "server sent fatal alert", [], false)
    else (s, [], true)
  else if rec.type = kDtlsContentHandshake then
    if rec.epoch = 0 then s.handleMessages C rec.payload
    else
      match s.serverCipher with
      | none => (s.fail "got encrypted record before keys", [], false)
      | some cipher =>
        match C.decrypt cipher rec.payload (combinedSeq rec.epoch rec.sequenceNumber) kDtlsContentHandshake
            kDtlsVersion12 with
        | none => (s.fail "AEAD auth failed on encrypted handshake", [], false)
        | some plain => s.handleMessages C plain
  else (s, [], true)

/-- The loop over the records of a datagram. -/
def handleRecords (C : Crypto) (s : DtlsClientSession) (data : Bytes) : DtlsClientSession × List Bytes × Bool :=
  if 0 < data.length then
    match _hdec : DtlsRecordCodec.decode data with
    | none => (s, [], false)
    | some (rec, consumed) =>
      let (s, out, ok) := s.handleRecord C rec
      if ok then
        let (s, out', ok) := handleRecords C s (data.drop consumed)
        (s, out ++ out', ok)
      else (s, out, false)
  else (s, [], true)
termination_by data.length
decreasing_by
  have := DtlsRecordCodec.consumed_pos _hdec
  rw [List.length_drop]
  omega

/-- `ProcessDatagram`: the new session, the datagrams to send, and the result. -/
def processDatagram (C : Crypto) (s : DtlsClientSession) (data : Bytes) : DtlsClientSession × List Bytes × Bool :=
  if s.state = .failed then (s, [], false) else s.handleRecords C data

/-- `ExportKeyingMaterial` -/
def exportKeyingMaterial (C : Crypto) (s : DtlsClientSession) (label : String) (length : ℕ) : Bytes :=
  if s.masterSecret.length ≠ 48 then []
  else tlsPrf C s.masterSecret label (s.clientRandom ++ s.serverRandom) length

/-! ### Key derivation and the client's Finished, when they go through -/

variable {C : Crypto} {s : DtlsClientSession}

theorem deriveKeysAndCipher_eq {pms : Bytes} (hpoint : s.serverPublicPoint.length = 65)
    (hpriv : s.ourEcdhPrivate.length = 32)
    (hecdh : C.computeSharedSecret s.ourEcdhPrivate s.serverPublicPoint = some pms) :
    s.deriveKeysAndCipher C = { s with masterSecret := s.masterSecretFrom C pms }.installKeys
      ({ s with masterSecret := s.masterSecretFrom C pms }.keyBlock C) := by
  unfold deriveKeysAndCipher
  rw [if_neg (by simp [hpoint]), if_neg (by simp [hpriv]), hecdh]
  simp only
  rw [if_neg (by simp [keyBlock])]

/-- The client's Finished enters the transcript; the epoch goes up by one. -/
theorem buildClientFinishedFlight_eq {cipher : AesGcm} (hcipher : s.clientCipher = some cipher)
    (hencrypt : ∀ cipher data seq type version, (C.encrypt cipher data seq type version).isSome) :
    (s.buildClientFinishedFlight C).1 =
      { s with
        state := .sentFinished
        clientEpoch := s.clientEpoch + 1
        clientMessageSeq := s.clientMessageSeq + 1
        clientRecordSeq := 0 + 1
        handshakeTranscript := s.handshakeTranscript
          ++ tlsLikeTranscriptBytes kHsFinished (s.buildFinishedBody C s.handshakeTranscript true) } := by
  unfold buildClientFinishedFlight
  simp only [appendToHandshakeHash, hcipher, Option.bind_some]
  split
  · next hnone => exact absurd hnone (Option.isSome_iff_ne_none.1 (hencrypt ..))
  · rfl

end DtlsClientSession

end VianiumVoip.Dtls
