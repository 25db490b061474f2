import VianiumVoip.Dtls.ClientSession
import VianiumVoip.Lib.CheckedReads

/-!
# The reads of ProcessDatagram

The decoders, the handlers and the loops of `ProcessDatagram` once more, with every read of a received buffer
checked against its bounds (`VianiumVoip.Lib.CheckedReads`).  The decoders have no fault (`recordDecode_eq`, …,
`keyExchangeDecode_eq`); what the session itself reads is settled in `VianiumVoip.Dtls.ReadFaults`.
-/

namespace VianiumVoip.Dtls

open VianiumVoip.Lib VianiumVoip.Lib.Checked

/-! ### Decoders -/

namespace Reads

/-- `DtlsRecordCodec::Decode` -/
def recordDecode (data : Bytes) : Except Fault (Option (DtlsRecord × ℕ)) :=
  if data.length < kDtlsRecordHeaderSize then .ok none
  else do
    let type ← byteAt data 0
    let version ← loadBE16At data 1
    let epoch ← loadBE16At data 3
    let sequenceNumber ← loadBE48At data 5
    let length ← loadBE16At data 11
    if data.length < kDtlsRecordHeaderSize + length.toNat then .ok none
    else do
      let payload ← slice data kDtlsRecordHeaderSize length.toNat
      .ok (some ({ type, version, epoch, sequenceNumber, payload }, kDtlsRecordHeaderSize + length.toNat))

/-- `HandshakeHeaderCodec::Decode` -/
def headerDecode (data : Bytes) : Except Fault (Option HandshakeHeader) :=
  if data.length < kHandshakeHeaderSize then .ok none
  else do
    let msgType ← byteAt data 0
    let length ← loadBE24At data 1
    let messageSeq ← loadBE16At data 4
    let fragmentOffset ← loadBE24At data 6
    let fragmentLength ← loadBE24At data 9
    .ok (some { msgType, length, messageSeq, fragmentOffset, fragmentLength })

/-- `HelloVerifyRequestCodec::Decode` -/
def verifyRequestDecode (data : Bytes) : Except Fault (Option HelloVerifyRequest) :=
  if data.length < 3 then .ok none
  else do
    let serverVersion ← loadBE16At data 0
    let cookieLen ← byteAt data 2
    if data.length < 3 + cookieLen.toNat then .ok none
    else do
      let cookie ← slice data 3 cookieLen.toNat
      .ok (some { serverVersion, cookie })

/-- One extension of the loop in `ServerHelloCodec::Decode`. -/
def readExtension (out : ServerHello) (extType : UInt16) (ext : Bytes) : Except Fault ServerHello :=
  if extType = kExtExtendedMasterSecret then .ok { out with extendedMasterSecret := true }
  else if extType = kExtUseSrtp then
    if 2 ≤ ext.length then do
      let profsLen ← loadBE16At ext 0
      if 2 ≤ profsLen.toNat ∧ 2 + profsLen.toNat ≤ ext.length then do
        let profile ← loadBE16At ext 2
        .ok { out with useSrtpPresent := true, srtpProtectionProfile := profile }
      else .ok out
    else .ok out
  else .ok out

def readExtensions (out : ServerHello) (exts : Bytes) : Except Fault (Option ServerHello) :=
  if 4 ≤ exts.length then do
    let extType ← loadBE16At exts 0
    let extLen ← loadBE16At exts 2
    if exts.length < 4 + extLen.toNat then .ok none
    else do
      let ext ← slice exts 4 extLen.toNat
      let out ← readExtension out extType ext
      readExtensions out (exts.drop (4 + extLen.toNat))
  else .ok (some out)
termination_by exts.length
decreasing_by rw [List.length_drop]; omega

/-- `ServerHelloCodec::Decode` -/
def serverHelloDecode (data : Bytes) : Except Fault (Option ServerHello) :=
  if data.length < 2 + 32 + 1 then .ok none
  else do
    let serverVersion ← loadBE16At data 0
    let random ← slice data 2 32
    let sidLen ← byteAt data 34
    let pos := 35 + sidLen.toNat
    if data.length < pos then .ok none
    else do
      let sessionId ← slice data 35 sidLen.toNat
      if data.length < pos + 3 then .ok none
      else do
        let cipherSuite ← loadBE16At data pos
        let compressionMethod ← byteAt data (pos + 2)
        let out : ServerHello := { serverVersion, random, sessionId, cipherSuite, compressionMethod }
        if pos + 3 = data.length then .ok (some out)
        else if data.length < pos + 5 then .ok none
        else do
          let extsLen ← loadBE16At data (pos + 3)
          if data.length < pos + 5 + extsLen.toNat then .ok none
          else do
            let exts ← slice data (pos + 5) extsLen.toNat
            readExtensions out exts

/-- The loop in `CertificateCodec::Decode`. -/
def readChain (list : Bytes) : Except Fault (Option (List Bytes)) :=
  if 3 ≤ list.length then do
    let certLen ← loadBE24At list 0
    if list.length < 3 + certLen.toNat then .ok none
    else do
      let cert ← slice list 3 certLen.toNat
      let rest ← readChain (list.drop (3 + certLen.toNat))
      .ok (rest.map (cert :: ·))
  else .ok (some [])
termination_by list.length
decreasing_by rw [List.length_drop]; omega

/-- `CertificateCodec::Decode` -/
def certificateDecode (data : Bytes) : Except Fault (Option Certificate) :=
  if data.length < 3 then .ok none
  else do
    let listLen ← loadBE24At data 0
    if data.length < 3 + listLen.toNat then .ok none
    else do
      let list ← slice data 3 listLen.toNat
      let chain ← readChain list
      .ok (chain.map Certificate.mk)

/-- `ServerKeyExchangeCodec::Decode` -/
def keyExchangeDecode (data : Bytes) : Except Fault (Option ServerKeyExchange) :=
  if data.length < 4 then .ok none
  else do
    let curveType ← byteAt data 0
    if curveType ≠ 0x03 then .ok none
    else do
      let namedCurve ← loadBE16At data 1
      let pointLen ← byteAt data 3
      let pos := 4 + pointLen.toNat
      if data.length < pos then .ok none
      else do
        let publicPoint ← slice data 4 pointLen.toNat
        let signedParams ← slice data 0 pos
        if data.length < pos + 2 then .ok none
        else do
          let hashAlgorithm ← byteAt data pos
          let signatureAlgorithm ← byteAt data (pos + 1)
          if data.length < pos + 4 then .ok none
          else do
            let sigLen ← loadBE16At data (pos + 2)
            if data.length < pos + 4 + sigLen.toNat then .ok none
            else do
              let signature ← slice data (pos + 4) sigLen.toNat
              .ok (some { namedCurve, publicPoint, hashAlgorithm, signatureAlgorithm, signature, signedParams })

/-! ### Decoders have no fault -/

theorem recordDecode_eq (data : Bytes) : recordDecode data = .ok (DtlsRecordCodec.decode data) := by
  unfold recordDecode DtlsRecordCodec.decode
  by_cases hsize : data.length < kDtlsRecordHeaderSize
  · rw [if_pos hsize, if_pos hsize]
  · have h13 : 13 ≤ data.length := Nat.le_of_not_lt hsize
    rw [if_neg hsize, if_neg hsize, byteAt_ok (by omega), loadBE16At_ok (by omega), loadBE16At_ok (by omega),
      loadBE48At_ok (by omega), loadBE16At_ok (by omega)]
    simp only [ok_bind]
    by_cases hlen : data.length < kDtlsRecordHeaderSize + (loadBE16 (data.drop 11)).toNat
    · rw [if_pos hlen, if_pos hlen]
    · rw [if_neg hlen, if_neg hlen, slice_ok (Nat.le_of_not_lt hlen), ok_bind]

theorem headerDecode_eq (data : Bytes) : headerDecode data = .ok (HandshakeHeaderCodec.decode data) := by
  unfold headerDecode HandshakeHeaderCodec.decode
  by_cases hsize : data.length < kHandshakeHeaderSize
  · rw [if_pos hsize, if_pos hsize]
  · have h12 : 12 ≤ data.length := Nat.le_of_not_lt hsize
    rw [if_neg hsize, if_neg hsize, byteAt_ok (by omega), loadBE24At_ok (by omega), loadBE16At_ok (by omega),
      loadBE24At_ok (by omega), loadBE24At_ok (by omega)]
    rfl

theorem verifyRequestDecode_eq (data : Bytes) :
    verifyRequestDecode data = .ok (HelloVerifyRequestCodec.decode data) := by
  unfold verifyRequestDecode HelloVerifyRequestCodec.decode
  by_cases hsize : data.length < 3
  · rw [if_pos hsize, if_pos hsize]
  rw [if_neg hsize, if_neg hsize, loadBE16At_ok (by omega), byteAt_ok (by omega)]
  simp only [ok_bind]
  by_cases hlen : data.length < 3 + (data.getD 2 0).toNat
  · rw [if_pos hlen, if_pos hlen]
  · rw [if_neg hlen, if_neg hlen, slice_ok (Nat.le_of_not_lt hlen), ok_bind]
    rfl

theorem readExtension_eq (out : ServerHello) (extType : UInt16) (ext : Bytes) :
    readExtension out extType ext = .ok (ServerHelloCodec.readExtension out extType ext) := by
  unfold readExtension ServerHelloCodec.readExtension
  by_cases hems : extType = kExtExtendedMasterSecret
  · rw [if_pos hems, if_pos hems]
  rw [if_neg hems, if_neg hems]
  by_cases hsrtp : extType = kExtUseSrtp
  · rw [if_pos hsrtp, if_pos hsrtp]
    by_cases hlen : 2 ≤ ext.length
    · rw [if_pos hlen, if_pos hlen, loadBE16At_zero hlen, ok_bind]
      dsimp only
      by_cases hprofs : 2 ≤ (loadBE16 ext).toNat ∧ 2 + (loadBE16 ext).toNat ≤ ext.length
      · rw [if_pos hprofs, if_pos hprofs, loadBE16At_ok (by omega), ok_bind]
      · rw [if_neg hprofs, if_neg hprofs]
    · rw [if_neg hlen, if_neg hlen]
  · rw [if_neg hsrtp, if_neg hsrtp]

theorem readExtensions_eq (out : ServerHello) (exts : Bytes) :
    readExtensions out exts = .ok (ServerHelloCodec.readExtensions out exts) := by
  fun_induction ServerHelloCodec.readExtensions out exts with
  | case1 out exts hsize extLen hlen =>
    rw [readExtensions, if_pos hsize, loadBE16At_ok (by omega), loadBE16At_ok (by omega)]
    simp only [ok_bind]
    rw [if_pos hlen]
  | case2 out exts hsize extLen hlen ih =>
    rw [readExtensions, if_pos hsize, loadBE16At_ok (by omega), loadBE16At_ok (by omega)]
    simp only [ok_bind]
    rw [if_neg hlen, slice_ok (Nat.le_of_not_lt hlen), ok_bind, readExtension_eq, ok_bind]
    exact ih
  | case3 out exts hsize => rw [readExtensions, if_neg hsize]

theorem serverHelloDecode_eq (data : Bytes) : serverHelloDecode data = .ok (ServerHelloCodec.decode data) := by
  unfold serverHelloDecode ServerHelloCodec.decode
  by_cases hsize : data.length < 2 + 32 + 1
  · rw [if_pos hsize, if_pos hsize]
  rw [if_neg hsize, if_neg hsize, loadBE16At_ok (by omega), slice_ok (by omega), byteAt_ok (by omega)]
  simp only [ok_bind]
  generalize hpos : 35 + (data.getD 34 0).toNat = pos
  by_cases hsid : data.length < pos
  · rw [if_pos hsid, if_pos hsid]
  rw [if_neg hsid, if_neg hsid, slice_ok (by omega), ok_bind]
  by_cases hsuite : data.length < pos + 3
  · rw [if_pos hsuite, if_pos hsuite]
  rw [if_neg hsuite, if_neg hsuite, loadBE16At_ok (by omega), byteAt_ok (by omega)]
  simp only [ok_bind]
  by_cases hend : pos + 3 = data.length
  · rw [if_pos hend, if_pos hend]
    rfl
  rw [if_neg hend, if_neg hend]
  by_cases hexts : data.length < pos + 5
  · rw [if_pos hexts, if_pos hexts]
  rw [if_neg hexts, if_neg hexts, loadBE16At_ok (by omega), ok_bind]
  by_cases hlen : data.length < pos + 5 + (loadBE16 (data.drop (pos + 3))).toNat
  · rw [if_pos hlen, if_pos hlen]
  · rw [if_neg hlen, if_neg hlen, slice_ok (Nat.le_of_not_lt hlen), ok_bind, readExtensions_eq]
    rfl

theorem readChain_eq (list : Bytes) : readChain list = .ok (CertificateCodec.readChain list) := by
  fun_induction CertificateCodec.readChain list with
  | case1 list hsize certLen hlen =>
    rw [readChain, if_pos hsize, loadBE24At_zero hsize, ok_bind, if_pos hlen]
  | case2 list hsize certLen hlen ih =>
    rw [readChain, if_pos hsize, loadBE24At_zero hsize, ok_bind, if_neg hlen, slice_ok (Nat.le_of_not_lt hlen),
      ok_bind]
    exact congrArg (· >>= fun rest : Option (List Bytes) => Except.ok (rest.map (_ :: ·))) ih
  | case3 list hsize => rw [readChain, if_neg hsize]

theorem certificateDecode_eq (data : Bytes) : certificateDecode data = .ok (CertificateCodec.decode data) := by
  unfold certificateDecode CertificateCodec.decode
  by_cases hsize : data.length < 3
  · rw [if_pos hsize, if_pos hsize]
  rw [if_neg hsize, if_neg hsize, loadBE24At_zero (by omega), ok_bind]
  dsimp only
  by_cases hlen : data.length < 3 + (loadBE24 data).toNat
  · rw [if_pos hlen, if_pos hlen]
  · rw [if_neg hlen, if_neg hlen, slice_ok (Nat.le_of_not_lt hlen), ok_bind, readChain_eq, ok_bind]

theorem keyExchangeDecode_eq (data : Bytes) :
    keyExchangeDecode data = .ok (ServerKeyExchangeCodec.decode data) := by
  unfold keyExchangeDecode ServerKeyExchangeCodec.decode
  by_cases hsize : data.length < 4
  · rw [if_pos hsize, if_pos hsize]
  rw [if_neg hsize, if_neg hsize, byteAt_ok (by omega), ok_bind]
  by_cases hcurve : data.getD 0 0 ≠ 0x03
  · rw [if_pos hcurve, if_pos hcurve]
  rw [if_neg hcurve, if_neg hcurve, loadBE16At_ok (by omega), byteAt_ok (by omega)]
  simp only [ok_bind]
  generalize hpos : 4 + (data.getD 3 0).toNat = pos
  by_cases hpoint : data.length < pos
  · rw [if_pos hpoint, if_pos hpoint]
  rw [if_neg hpoint, if_neg hpoint, slice_ok (by omega), slice_ok (by omega)]
  simp only [ok_bind]
  by_cases halgs : data.length < pos + 2
  · rw [if_pos halgs, if_pos halgs]
  rw [if_neg halgs, if_neg halgs, byteAt_ok (by omega), byteAt_ok (by omega)]
  simp only [ok_bind]
  by_cases hsig : data.length < pos + 4
  · rw [if_pos hsig, if_pos hsig]
  rw [if_neg hsig, if_neg hsig, loadBE16At_ok (by omega), ok_bind]
  by_cases hlen : data.length < pos + 4 + (loadBE16 (data.drop (pos + 2))).toNat
  · rw [if_pos hlen, if_pos hlen]
  · rw [if_neg hlen, if_neg hlen, slice_ok (Nat.le_of_not_lt hlen), ok_bind]
    rfl

/-! ### Handlers -/

variable (C : Crypto)

def handleHelloVerifyRequest (s : DtlsClientSession) (body : Bytes) :
    Except Fault (DtlsClientSession × List Bytes) := do
  match ← verifyRequestDecode body with
  | none => .ok (s.fail "malformed HelloVerifyRequest", [])
  | some hvr =>
    let s := { s with cookie := hvr.cookie, handshakeTranscript := [] }
    let (s, hello) := s.sendHandshake kHsClientHello (s.buildClientHelloBody true)
    .ok ({ s with state := .sentClientHelloWithCookie }, [hello])

def handleServerHello (s : DtlsClientSession) (body : Bytes) : Except Fault DtlsClientSession := do
  match ← serverHelloDecode body with
  | none => .ok (s.fail "malformed ServerHello")
  | some sh =>
    if sh.cipherSuite ≠ kCsEcdheEcdsaAes128GcmSha256 then .ok (s.fail "server picked unsupported cipher suite")
    else
      let s := { s with serverRandom := sh.random, extendedMasterSecret := sh.extendedMasterSecret }
      .ok { s.appendToHandshakeHash (tlsLikeTranscriptBytes kHsServerHello body) with state := .gotServerHello }

def handleCertificate (s : DtlsClientSession) (body : Bytes) : Except Fault DtlsClientSession := do
  match ← certificateDecode body with
  | none => .ok (s.fail "malformed Certificate")
  | some cert =>
    match cert.chain with
    | [] => .ok (s.fail "malformed Certificate")
    | leaf :: _ =>
      let s := { s with serverCertDer := leaf }
      -- Sha256(&m_serverCertDer[0], m_serverCertDer.size())
      let der ← first s.serverCertDer
      if C.sha256 der ≠ s.expectedPeerFingerprint then .ok (s.fail "peer certificate fingerprint mismatch")
      else
        .ok { s.appendToHandshakeHash (tlsLikeTranscriptBytes kHsCertificate body) with
          state := .gotServerCertificate }

def handleServerKeyExchange (s : DtlsClientSession) (body : Bytes) : Except Fault DtlsClientSession := do
  match ← keyExchangeDecode body with
  | none => .ok (s.fail "malformed ServerKeyExchange")
  | some ske =>
    if ske.namedCurve ≠ kNgSecp256r1 then .ok (s.fail "server picked unsupported curve")
    else if ske.publicPoint.length ≠ 65 then .ok (s.fail "server EC point must be uncompressed P-256")
    else do
      let form ← byteAt ske.publicPoint 0
      if form ≠ 0x04 then .ok (s.fail "server EC point must be uncompressed P-256")
      else
        let s := { s with serverPublicPoint := ske.publicPoint }
        .ok { s.appendToHandshakeHash (tlsLikeTranscriptBytes kHsServerKeyExchange body) with
          state := .gotServerKeyExchange }

def handleFinished (s : DtlsClientSession) (body : Bytes) : Except Fault DtlsClientSession := do
  let expected := s.buildFinishedBody C s.handshakeTranscript false
  if body.length ≠ kVerifyDataLength then .ok (s.fail "bad server Finished verify_data")
  else do
    -- memcmp(body, &expected[0], kVerifyDataLength)
    let got ← slice body 0 kVerifyDataLength
    let expected ← slice (← first expected) 0 kVerifyDataLength
    if got ≠ expected then .ok (s.fail "bad server Finished verify_data")
    else
      .ok { s.appendToHandshakeHash (tlsLikeTranscriptBytes kHsFinished body) with state := .established }

/-- `HandleHandshakeMessage`; a CertificateRequest and a ServerHelloDone are not looked into. -/
def handleHandshakeMessage (s : DtlsClientSession) (msgType : UInt8) (body : Bytes) :
    Except Fault (DtlsClientSession × List Bytes) :=
  if msgType = kHsHelloVerifyRequest then handleHelloVerifyRequest s body
  else if msgType = kHsServerHello then (handleServerHello s body).map fun s => (s, [])
  else if msgType = kHsCertificate then (handleCertificate C s body).map fun s => (s, [])
  else if msgType = kHsServerKeyExchange then (handleServerKeyExchange s body).map fun s => (s, [])
  else if msgType = kHsCertificateRequest then .ok (s.handleCertificateRequest body, [])
  else if msgType = kHsServerHelloDone then .ok (s.handleServerHelloDone C body)
  else if msgType = kHsFinished then (handleFinished C s body).map fun s => (s, [])
  else .ok (s, [])

/-! ### Loops -/

/-- The loop over the handshake messages of one record. -/
def handleMessages (s : DtlsClientSession) (msg : Bytes) : Except Fault (DtlsClientSession × List Bytes × Bool) :=
  if kHandshakeHeaderSize ≤ msg.length then do
    match ← headerDecode msg with
    | none => .ok (s.fail "malformed handshake header", [], false)
    | some hh =>
      if hh.fragmentOffset ≠ 0 ∨ hh.fragmentLength ≠ hh.length then
        .ok (s.fail "fragmented DTLS handshake messages not supported", [], false)
      else if msg.length < kHandshakeHeaderSize + hh.length.toNat then
        .ok (s.fail "handshake length overruns record", [], false)
      else do
        let body ← slice msg kHandshakeHeaderSize hh.length.toNat
        let (s, out) ← handleHandshakeMessage C s hh.msgType body
        if s.state = .failed then .ok (s, out, false)
        else do
          let (s, out', ok) ← handleMessages s (msg.drop (kHandshakeHeaderSize + hh.length.toNat))
          .ok (s, out ++ out', ok)
  else .ok (s, [], true)
termination_by msg.length
decreasing_by
  rw [List.length_drop]
  simp only [kHandshakeHeaderSize] at *
  omega

/-- What one record does. -/
def handleRecord (s : DtlsClientSession) (rec : DtlsRecord) : Except Fault (DtlsClientSession × List Bytes × Bool) :=
  if rec.type = kDtlsContentChangeCipherSpec then .ok (s.handleChangeCipherSpec, [], true)
  else if rec.type = kDtlsContentAlert then
    if 2 ≤ rec.payload.length then do
      let level ← byteAt rec.payload 0
      if level = 2 then .ok (s.fail "server sent fatal alert", [], false) else .ok (s, [], true)
    else .ok (s, [], true)
  else if rec.type = kDtlsContentHandshake then
    if rec.epoch = 0 then handleMessages C s rec.payload
    else
      match s.serverCipher with
      | none => .ok (s.fail "got encrypted record before keys", [], false)
      | some cipher => do
        -- plain.resize(rec.payload.size()), and then &plain[0]
        let _ ← first (List.replicate rec.payload.length 0)
        match C.decrypt cipher rec.payload (combinedSeq rec.epoch rec.sequenceNumber) kDtlsContentHandshake
            kDtlsVersion12 with
        | none => .ok (s.fail "AEAD auth failed on encrypted handshake", [], false)
        | some plain => handleMessages C s plain
  else .ok (s, [], true)

/-- The loop over the records of a datagram. -/
def handleRecords (s : DtlsClientSession) (data : Bytes) : Except Fault (DtlsClientSession × List Bytes × Bool) :=
  if 0 < data.length then
    match _hdec : recordDecode data with
    | .error e => .error e
    | .ok none => .ok (s, [], false)
    | .ok (some (rec, consumed)) => do
      let (s, out, ok) ← handleRecord C s rec
      if ok then do
        let (s, out', ok) ← handleRecords s (data.drop consumed)
        .ok (s, out ++ out', ok)
      else .ok (s, out, false)
  else .ok (s, [], true)
termination_by data.length
decreasing_by
  have := DtlsRecordCodec.consumed_pos (Except.ok.inj ((recordDecode_eq data).symm.trans _hdec))
  rw [List.length_drop]
  omega

/-- `ProcessDatagram` -/
def processDatagram (s : DtlsClientSession) (data : Bytes) : Except Fault (DtlsClientSession × List Bytes × Bool) :=
  if s.state = .failed then .ok (s, [], false) else handleRecords C s data

/-- The session after some datagrams. -/
def processDatagrams : DtlsClientSession → List Bytes → Except Fault DtlsClientSession
  | s, [] => .ok s
  | s, data :: datagrams => do
    let (s, _) ← processDatagram C s data
    processDatagrams s datagrams

end Reads

end VianiumVoip.Dtls
