import VianiumVoip.Dtls.FlightTranscript

/-!
# The bytes of the transcript

RFC 6347, section 4.2.6, which the source cites, hashes every handshake message as it would be sent
unfragmented: the 12-byte handshake header and the body.  The client enters the type and the length in front of
the body, and no other field of the header.  To compare the two, the messages that enter the transcript are
traced along a run (`Traced`), each with its `message_seq`; the trace does not act on the session.
-/

namespace VianiumVoip.Dtls

open VianiumVoip.Lib VianiumVoip.Lib.Run VianiumVoip.Cert

/-- **The transcript of RFC 6347**: the unfragmented messages as they are on the wire. -/
def wireTranscript (ms : List FlightMessage) : Bytes := ms.flatMap FlightMessage.wire

/-- A delivery, with the `message_seq` in the header of its message. -/
abbrev Arrival := Delivery × UInt16

/-- The `message_seq`s of a run's deliveries, in order. -/
def arrivals (seqs : ℕ → UInt16) (ds : List Delivery) : List Arrival := ds.zipIdx.map fun d => (d.1, seqs d.2)

namespace DtlsClientSession

variable (C : Crypto)

/-- What the client answers to a ServerHelloDone before it derives its keys. -/
def clientFlight (s : DtlsClientSession) (body : Bytes) : List FlightMessage :=
  let s := s.appendToHandshakeHash (tlsLikeTranscriptBytes kHsServerHelloDone body)
  let (certBody, s) := s.buildCertificateBody C
  let ckeBody := s.buildClientKeyExchangeBody
  let (cvBody, _) := s.buildCertificateVerifyBody C (s.handshakeTranscript
    ++ tlsLikeTranscriptBytes kHsCertificate certBody ++ tlsLikeTranscriptBytes kHsClientKeyExchange ckeBody)
  [⟨kHsCertificate, s.clientMessageSeq, certBody⟩, ⟨kHsClientKeyExchange, s.clientMessageSeq + 1, ckeBody⟩,
    ⟨kHsCertificateVerify, s.clientMessageSeq + 1 + 1, cvBody⟩]

/-- Its Finished, once the keys are there. -/
def clientFinished (s : DtlsClientSession) : FlightMessage :=
  ⟨kHsFinished, s.clientMessageSeq, s.buildFinishedBody C s.handshakeTranscript true⟩

/-- The messages of the switch other than HelloVerifyRequest and ServerHelloDone. -/
def appendedTypes : List UInt8 :=
  [kHsServerHello, kHsCertificate, kHsServerKeyExchange, kHsCertificateRequest, kHsFinished]

/-- **The messages in the transcript after a delivery**, where `ms` were in it before. -/
def enter (s : DtlsClientSession) (ms : List FlightMessage) (a : Arrival) : List FlightMessage :=
  match a.1 with
  | .handshake _ msgType body =>
    if s.state = .failed then ms
    else if msgType = kHsHelloVerifyRequest then
      match HelloVerifyRequestCodec.decode body with
      | none => ms
      | some hvr =>
        [⟨kHsClientHello, s.clientMessageSeq, { s with cookie := hvr.cookie }.buildClientHelloBody true⟩]
    else if msgType = kHsServerHelloDone then
      let s' := (s.sendClientFlight C body).1.deriveKeysAndCipher C
      ms ++ [⟨msgType, a.2, body⟩] ++ s.clientFlight C body
        ++ (if s'.state = .failed then [] else [s'.clientFinished C])
    else if msgType ∈ appendedTypes then
      if (deliver C s a.1).state = .failed then ms else ms ++ [⟨msgType, a.2, body⟩]
    else ms
  | _ => ms

/-- The session and the messages in its transcript. -/
abbrev Traced := DtlsClientSession × List FlightMessage

def Traced.step (t : Traced) (a : Arrival) : Traced := (deliver C t.1 a.1, t.1.enter C t.2 a)

/-- After `Initiate`, the first ClientHello is in the transcript. -/
def Traced.initiate (s : DtlsClientSession) (draws : InitiateDraws) : Traced :=
  ((s.initiate draws).1,
    [⟨kHsClientHello, s.clientMessageSeq, (s.initiate draws).1.buildClientHelloBody false⟩])

/-! ### What is sent is what was traced -/

variable {C} {s : DtlsClientSession}

theorem sendClientFlight_wire (body : Bytes) :
    (s.sendClientFlight C body).2 = (s.clientFlight C body).zipIdx.map fun m =>
      wrapRecord kDtlsContentHandshake kDtlsVersion12 s.clientEpoch (s.clientRecordSeq + UInt64.ofNat m.2) m.1.wire := by
  have htwo : s.clientRecordSeq + 1 + 1 = s.clientRecordSeq + UInt64.ofNat 2 := UInt64.add_assoc ..
  simp [sendClientFlight, clientFlight, sendHandshake, buildCertificateBody, buildCertificateVerifyBody,
    appendToHandshakeHash, buildClientKeyExchangeBody, FlightMessage.wire, List.zipIdx, htwo]

theorem initiate_wire (draws : InitiateDraws) :
    (s.initiate draws).2 = (Traced.initiate s draws).2.map fun m =>
      wrapRecord kDtlsContentHandshake kDtlsVersion12 s.clientEpoch s.clientRecordSeq m.wire := rfl

/-! ### What is traced is what was hashed -/

theorem transcriptOf_singleton (m : FlightMessage) :
    transcriptOf [m] = tlsLikeTranscriptBytes m.msgType m.body := List.flatMap_singleton ..

theorem clientFlight_transcript (body : Bytes) : transcriptOf (s.clientFlight C body) = s.clientMessages C body := by
  simp [transcriptOf, clientFlight, clientMessages, buildCertificateBody, buildCertificateVerifyBody,
    appendToHandshakeHash, buildClientKeyExchangeBody]

/-- The client's Finished enters the transcript whether or not it can be encrypted. -/
theorem buildClientFinishedFlight_transcript :
    (s.buildClientFinishedFlight C).1.handshakeTranscript
      = s.handshakeTranscript ++ transcriptOf [s.clientFinished C] := by
  rw [transcriptOf_singleton]
  unfold buildClientFinishedFlight
  dsimp only
  split <;> rfl

theorem handleServerHelloDone_transcript (body : Bytes) :
    (s.handleServerHelloDone C body).1.handshakeTranscript = s.handshakeTranscript
      ++ tlsLikeTranscriptBytes kHsServerHelloDone body ++ transcriptOf (s.clientFlight C body)
      ++ transcriptOf (if ((s.sendClientFlight C body).1.deriveKeysAndCipher C).state = .failed then []
          else [((s.sendClientFlight C body).1.deriveKeysAndCipher C).clientFinished C]) := by
  have hkeys := deriveKeysAndCipher_transcript C (s.sendClientFlight C body).1
  rw [sendClientFlight_transcript, ← clientFlight_transcript] at hkeys
  unfold handleServerHelloDone
  dsimp only
  split_ifs with hfailed
  · rw [hkeys]
    simp [transcriptOf]
  · rw [buildClientFinishedFlight_transcript, hkeys]

/-- `s'` is the session after a message whose transcript bytes are `bytes`: they were appended unless the
message failed it. -/
def Appends (s s' : DtlsClientSession) (bytes : Bytes) : Prop :=
  s'.handshakeTranscript = s.handshakeTranscript ++ (if s'.state = .failed then [] else bytes)

theorem appends_fail (reason : String) (bytes : Bytes) : Appends s (s.fail reason) bytes := by
  rw [Appends, if_pos (fail_state reason), List.append_nil]
  rfl

theorem handleServerHello_appends (body : Bytes) :
    Appends s (s.handleServerHello body) (tlsLikeTranscriptBytes kHsServerHello body) := by
  unfold handleServerHello
  split
  · exact appends_fail ..
  · split_ifs
    · exact appends_fail ..
    · rfl

theorem handleCertificate_appends (body : Bytes) :
    Appends s (s.handleCertificate C body) (tlsLikeTranscriptBytes kHsCertificate body) := by
  unfold handleCertificate
  split
  · exact appends_fail ..
  · split
    · exact appends_fail ..
    · dsimp only
      split_ifs
      · simp [Appends, fail]
      · rfl

theorem handleServerKeyExchange_appends (body : Bytes) :
    Appends s (s.handleServerKeyExchange body) (tlsLikeTranscriptBytes kHsServerKeyExchange body) := by
  unfold handleServerKeyExchange
  split
  · exact appends_fail ..
  · split_ifs
    · exact appends_fail ..
    · exact appends_fail ..
    · rfl

theorem handleCertificateRequest_appends (body : Bytes) (hlive : s.state ≠ .failed) :
    Appends s (s.handleCertificateRequest body) (tlsLikeTranscriptBytes kHsCertificateRequest body) := by
  rw [Appends, if_neg (show (s.handleCertificateRequest body).state ≠ .failed from hlive)]
  rfl

theorem handleFinished_appends (body : Bytes) :
    Appends s (s.handleFinished C body) (tlsLikeTranscriptBytes kHsFinished body) := by
  unfold handleFinished
  dsimp only
  split_ifs
  · exact appends_fail ..
  · rfl

theorem handleHandshakeMessage_appends {msgType : UInt8} (body : Bytes) (hlive : s.state ≠ .failed)
    (hmem : msgType ∈ appendedTypes) :
    Appends s (s.handleHandshakeMessage C msgType body).1 (tlsLikeTranscriptBytes msgType body) := by
  simp only [appendedTypes, List.mem_cons, List.not_mem_nil, or_false] at hmem
  rcases hmem with rfl | rfl | rfl | rfl | rfl
  · exact handleServerHello_appends body
  · exact handleCertificate_appends body
  · exact handleServerKeyExchange_appends body
  · exact handleCertificateRequest_appends body hlive
  · exact handleFinished_appends body

theorem handleHandshakeMessage_unknown {msgType : UInt8} (body : Bytes) (hhvr : msgType ≠ kHsHelloVerifyRequest)
    (hdone : msgType ≠ kHsServerHelloDone) (hmem : msgType ∉ appendedTypes) :
    s.handleHandshakeMessage C msgType body = (s, []) := by
  simp only [appendedTypes, List.mem_cons, List.not_mem_nil, or_false, not_or] at hmem
  obtain ⟨hhello, hcert, hske, hreq, hfin⟩ := hmem
  unfold handleHandshakeMessage
  rw [if_neg hhvr, if_neg hhello, if_neg hcert, if_neg hske, if_neg hreq, if_neg hdone, if_neg hfin]

/-- **One delivery.** -/
theorem deliver_transcript {ms : List FlightMessage} (a : Arrival) (h : s.handshakeTranscript = transcriptOf ms) :
    (deliver C s a.1).handshakeTranscript = transcriptOf (s.enter C ms a) := by
  by_cases hlive : s.state = .failed
  · rw [deliver_of_failed hlive, h]
    unfold enter
    split
    · rw [if_pos hlive]
    · rfl
  obtain ⟨d, seq⟩ := a
  cases d with
  | changeCipherSpec =>
    rw [deliver, if_neg hlive]
    exact h
  | failure reason =>
    rw [deliver_failure hlive]
    exact h
  | handshake o msgType body =>
    unfold enter
    dsimp only
    rw [deliver_handshake hlive, if_neg hlive]
    by_cases hhvr : msgType = kHsHelloVerifyRequest
    · rw [if_pos hhvr]
      subst hhvr
      show (s.handleHelloVerifyRequest body).1.handshakeTranscript = _
      unfold handleHelloVerifyRequest
      cases HelloVerifyRequestCodec.decode body with
      | none => exact h
      | some hvr =>
        dsimp only
        rw [transcriptOf_singleton]
        rfl
    rw [if_neg hhvr]
    by_cases hdone : msgType = kHsServerHelloDone
    · rw [if_pos hdone]
      subst hdone
      show (s.handleServerHelloDone C body).1.handshakeTranscript = _
      rw [handleServerHelloDone_transcript, transcriptOf_append, transcriptOf_append, transcriptOf_append, h]
      rw [transcriptOf_singleton]
    rw [if_neg hdone]
    by_cases hmem : msgType ∈ appendedTypes
    · have happ := handleHandshakeMessage_appends (C := C) body hlive hmem
      rw [if_pos hmem]
      by_cases hfailed : (s.handleHandshakeMessage C msgType body).1.state = .failed
      · rw [Appends, if_pos hfailed, List.append_nil] at happ
        rw [if_pos hfailed, happ, h]
      · rw [Appends, if_neg hfailed] at happ
        rw [if_neg hfailed, happ, h, transcriptOf_append, transcriptOf_singleton]
    · rw [if_neg hmem, handleHandshakeMessage_unknown body hhvr hdone hmem]
      exact h

theorem enter_ne_nil {ms : List FlightMessage} (a : Arrival) (h : ms ≠ []) : s.enter C ms a ≠ [] := by
  unfold enter
  split
  · split_ifs
    · exact h
    · split
      · exact h
      · exact List.cons_ne_nil _ _
    · simp [h]
    · exact h
    · simp [h]
    · exact h
  · exact h

/-! ### Two lengths -/

/-- A message's 12-byte header is not the four bytes that enter the transcript. -/
theorem length_wire (m : FlightMessage) :
    m.wire.length = (tlsLikeTranscriptBytes m.msgType m.body).length + 8 := by
  rw [FlightMessage.wire, length_wrapHandshakeUnfragmented]
  simp [tlsLikeTranscriptBytes, kHandshakeHeaderSize]
  omega

theorem length_wireTranscript (ms : List FlightMessage) :
    (wireTranscript ms).length = (transcriptOf ms).length + 8 * ms.length := by
  induction ms with
  | nil => rfl
  | cons m ms ih =>
    have hwire : wireTranscript (m :: ms) = m.wire ++ wireTranscript ms := List.flatMap_cons
    have hlike : transcriptOf (m :: ms) = tlsLikeTranscriptBytes m.msgType m.body ++ transcriptOf ms :=
      List.flatMap_cons
    rw [hwire, hlike, List.length_append, List.length_append, length_wire, ih, List.length_cons]
    omega

end DtlsClientSession

namespace DtlsClientSession

/-- The trace is the transcript, and it is not empty. -/
def Faithful (t : Traced) : Prop := t.1.handshakeTranscript = transcriptOf t.2 ∧ t.2 ≠ []

theorem faithful_step (C : Crypto) (t : Traced) (a : Arrival) (h : Faithful t) : Faithful (Traced.step C t a) :=
  ⟨deliver_transcript a h.1, enter_ne_nil a h.2⟩

theorem faithful_initiate (s : DtlsClientSession) (draws : InitiateDraws) (h : s.handshakeTranscript = []) :
    Faithful (Traced.initiate s draws) := by
  refine ⟨?_, List.cons_ne_nil _ _⟩
  show s.handshakeTranscript ++ _ = transcriptOf [_]
  rw [h, transcriptOf_singleton]
  rfl

theorem map_arrivals (seqs : ℕ → UInt16) (ds : List Delivery) : (arrivals seqs ds).map Prod.fst = ds := by
  rw [arrivals, List.map_map]
  exact List.zipIdx_map_fst 0 ds

theorem run_step_fst (C : Crypto) (t : Traced) (as : List Arrival) :
    (run (Traced.step C) t as).1 = run (deliver C) t.1 (as.map Prod.fst) := by
  induction as generalizing t with
  | nil => rfl
  | cons a as ih => exact ih _

/-- **Never the bytes of RFC 6347.**  Whatever datagrams arrive, and with whatever message numbers: the
transcript consists of the traced messages, at least a ClientHello, each with its four-byte header; no message
contributes its unfragmented form, and the transcript is not the wire transcript. -/
theorem transcript_never_wire (C : Crypto) (ourCert : EcdsaP256KeyPair) (peerFingerprint : List Char)
    (draws : InitiateDraws) (datagrams : List Bytes) (seqs : ℕ → UInt16) :
    let s := ((create ourCert peerFingerprint).initiate draws).1
    let t := run (Traced.step C) (Traced.initiate (create ourCert peerFingerprint) draws)
      (arrivals seqs (s.deliveries C datagrams))
    t.1 = s.processDatagrams C datagrams ∧ t.2 ≠ [] ∧ t.1.handshakeTranscript = transcriptOf t.2 ∧
      (∀ m ∈ t.2, tlsLikeTranscriptBytes m.msgType m.body ≠ m.wire) ∧
      t.1.handshakeTranscript ≠ wireTranscript t.2 := by
  intro s t
  obtain ⟨htranscript, hne⟩ : Faithful t :=
    invariant_run_of_step (fun t' a h' => faithful_step C t' a h') _ (faithful_initiate _ _ rfl)
  refine ⟨?_, hne, htranscript, fun m _ heq => ?_, fun heq => ?_⟩
  · rw [processDatagrams_eq_run, run_step_fst, map_arrivals]
    rfl
  · have := congrArg List.length heq
    rw [length_wire] at this
    omega
  · have hlen := congrArg List.length (htranscript.symm.trans heq)
    rw [length_wireTranscript] at hlen
    have := List.length_pos_of_ne_nil hne
    omega

/-- Right after `Initiate` the transcript differs from the one on the wire. -/
theorem initiate_transcript_null :
    nullSession.handshakeTranscript ≠ wireTranscript [⟨kHsClientHello, 0, nullSession.buildClientHelloBody false⟩] := by
  decide +kernel

end DtlsClientSession

end VianiumVoip.Dtls
