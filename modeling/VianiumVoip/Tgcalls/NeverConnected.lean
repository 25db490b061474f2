import VianiumVoip.Dtls.Deliveries
import VianiumVoip.Ice.Delivery
import VianiumVoip.Tgcalls.SetupRoles

/-!
# A call between two of these

Both sides of a call send a ClientHello once they have reached the DTLS phase.  A session that waits for a server takes no
notice of it: `HandleHandshakeMessage` passes over the message types of a client.  So where the DTLS datagrams that arrive
are those of the other side, both sessions wait for good: no side is ever connected or has keys for SRTP, and a side that
has begun its handshake has no way out of it but `Stop` (`never_connected`).
-/

namespace VianiumVoip.Dtls.DtlsClientSession

open VianiumVoip.Lib

/-! ### A ClientHello at a client -/

/-- A record in the clear that holds a ClientHello. -/
def IsHelloRecord (datagram : Bytes) : Prop :=
  ∃ (messageSeq : UInt16) (body : Bytes), body.length < 2 ^ 15 ∧
    datagram = wrapRecord kDtlsContentHandshake kDtlsVersion12 0 0
      (wrapHandshakeUnfragmented kHsClientHello messageSeq body)

variable {C : Crypto} {s : DtlsClientSession}

theorem handleMessages_clientHello (h : s.state ≠ .failed) (messageSeq : UInt16) {body : Bytes}
    (hlen : body.length < 2 ^ 15) :
    s.handleMessages C (wrapHandshakeUnfragmented kHsClientHello messageSeq body) = (s, [], true) := by
  have hnat : (UInt32.ofNat body.length).toNat = body.length := by
    rw [UInt32.toNat_ofNat', Nat.mod_eq_of_lt (by omega)]
  have hsize : (wrapHandshakeUnfragmented kHsClientHello messageSeq body).length = kHandshakeHeaderSize + body.length :=
    length_wrapHandshakeUnfragmented kHsClientHello messageSeq body
  have hlen24 : body.length < 2 ^ 24 := by omega
  have hdecode := decode_wrapHandshakeUnfragmented kHsClientHello messageSeq [] hlen24
  rw [List.append_nil] at hdecode
  have hrest : (wrapHandshakeUnfragmented kHsClientHello messageSeq body).drop (kHandshakeHeaderSize + body.length) = [] := by
    rw [← hsize, List.drop_length]
  have hnothing : s.handleMessages C [] = (s, [], true) := by
    rw [handleMessages, if_neg (by decide)]
  have htolerated : ∀ body, s.handleHandshakeMessage C kHsClientHello body = (s, []) := fun body => rfl
  rw [handleMessages, if_pos (by omega), hdecode]
  dsimp only
  rw [hnat, if_neg (by simp), if_neg (by omega), htolerated]
  dsimp only
  rw [if_neg h, hrest, hnothing]
  rfl

/-- **A session takes no notice of a ClientHello.** -/
theorem processDatagram_helloRecord (h : s.state ≠ .failed) {datagram : Bytes} (hhello : IsHelloRecord datagram) :
    s.processDatagram C datagram = (s, [], true) := by
  obtain ⟨messageSeq, body, hlen, rfl⟩ := hhello
  set rec : DtlsRecord :=
    { type := kDtlsContentHandshake, version := kDtlsVersion12, epoch := 0, sequenceNumber := 0
      payload := wrapHandshakeUnfragmented kHsClientHello messageSeq body } with hrec
  have hpayload : rec.payload.length = kHandshakeHeaderSize + body.length :=
    length_wrapHandshakeUnfragmented kHsClientHello messageSeq body
  have hheader : kHandshakeHeaderSize = 12 := rfl
  have hdecode := DtlsRecordCodec.decode_encode rec [] (by omega) (show (0 : UInt64).toNat < 2 ^ 48 by decide)
  rw [List.append_nil] at hdecode
  have hlength := DtlsRecordCodec.length_encode rec
  have hpos : 0 < (DtlsRecordCodec.encode rec).length := by omega
  have hmessages : s.handleRecord C rec = (s, [], true) := handleMessages_clientHello h messageSeq hlen
  have hnothing : s.handleRecords C [] = (s, [], true) := by
    rw [handleRecords, if_neg (by decide)]
  show s.processDatagram C (DtlsRecordCodec.encode rec) = _
  rw [processDatagram, if_neg h, handleRecords, if_pos hpos]
  split
  · next hnone =>
    rw [hdecode] at hnone
    cases hnone
  · next rec' consumed hsome =>
    obtain ⟨rfl, rfl⟩ := Prod.mk.inj (Option.some.inj (hdecode.symm.trans hsome))
    have hrest : (DtlsRecordCodec.encode rec).drop (kDtlsRecordHeaderSize + rec.payload.length) = [] := by
      rw [← hlength, List.drop_length]
    rw [hmessages]
    dsimp only
    rw [if_pos rfl, hrest, hnothing]
    rfl

theorem isHelloRecord_initiate (ourCert : Cert.EcdsaP256KeyPair) (peerFingerprint : List Char) (draws : InitiateDraws) :
    ∀ datagram ∈ ((create ourCert peerFingerprint).initiate draws).2, IsHelloRecord datagram := by
  intro datagram hmem
  refine ⟨0, _, ?_, List.mem_singleton.1 hmem⟩
  have hrandom := draws.random_length
  simp [buildClientHelloBody, ClientHelloCodec.encode, ClientHelloCodec.extensions, ClientHelloCodec.u16List,
    ClientHelloCodec.u8Block, ClientHelloCodec.extension, hrandom]

end VianiumVoip.Dtls.DtlsClientSession

namespace VianiumVoip.Tgcalls

open VianiumVoip.Lib VianiumVoip.Lib.Run VianiumVoip.Dtls VianiumVoip.Ice

/-! ### What the sides send -/

/-- The datagrams that the demultiplexer hands to the DTLS session. -/
def IsDtls (datagram : Bytes) : Prop := ∃ firstByte rest, datagram = firstByte :: rest ∧ 0x14 ≤ firstByte ∧ firstByte ≤ 0x1F

/-- No DTLS, or a ClientHello. -/
def HelloAtMost (datagram : Bytes) : Prop := IsDtls datagram → DtlsClientSession.IsHelloRecord datagram

/-- The messages that the agents send are no DTLS. -/
theorem not_isDtls_encode {hmacSha1 : Bytes → Bytes → Bytes} {msg : StunMessage} {password : Bytes}
    (hid : msg.transactionId.length = 12)
    (htype : msg.messageType = kStunBindingRequest ∨ msg.messageType = kStunBindingResponse) :
    ¬ IsDtls (StunMessageCodec.encode hmacSha1 msg password) := by
  have hrequest : storeBE16 kStunBindingRequest = [0x00, 0x01] := by decide
  have hresponse : storeBE16 kStunBindingResponse = [0x01, 0x01] := by decide
  rw [StunMessageCodec.encode_eq hid, StunMessageCodec.frame]
  rintro ⟨firstByte, rest, heq, hlow, -⟩
  rcases htype with htype | htype
  · rw [htype, hrequest] at heq
    obtain ⟨rfl, -⟩ := List.cons.inj heq
    exact absurd hlow (by decide)
  · rw [htype, hresponse] at heq
    obtain ⟨rfl, -⟩ := List.cons.inj heq
    exact absurd hlow (by decide)

theorem not_isDtls_requests {hmacSha1 : Bytes → Bytes → Bytes} {agent : IceAgent} {ids : ℕ → Vector UInt8 12} :
    ∀ d ∈ (agent.getBindingRequestsToSend hmacSha1 fun i => (ids i).toList).2, ¬ IsDtls d.2 := by
  intro d hd
  obtain ⟨i, p, -, rfl⟩ := IceAgent.mem_getBindingRequestsToSend.1 hd
  exact not_isDtls_encode (Vector.length_toList ..) (.inl rfl)

theorem not_isDtls_response {hmacSha1 : Bytes → Bytes → Bytes} {agent agent' : IceAgent} {srcIp : String} {srcPort : ℤ}
    {bytes response : Bytes} {result : ProcessResult}
    (h : agent.Processed hmacSha1 srcIp srcPort bytes agent' result response) : ¬ IsDtls response := by
  have hnil : ¬ IsDtls [] := by
    rintro ⟨firstByte, rest, heq, -⟩
    cases heq
  have hbuilt : ∀ msg : StunMessage, StunMessageCodec.decode bytes = some msg →
      ¬ IsDtls (agent.buildBindingResponse hmacSha1 msg srcIp srcPort) := by
    intro msg hmsg
    have hid := StunMessageCodec.length_transactionId_of_decode hmsg
    unfold IceAgent.buildBindingResponse
    cases scanDottedQuad srcIp <;> exact not_isDtls_encode hid (.inr rfl)
  cases h with
  | ignored | response | selection => exact hnil
  | unknownRequest msg hmsg | request msg i hmsg | nomination msg i hmsg => exact hbuilt msg hmsg

/-! ### A connection that waits -/

/-- A connection without a server: its session, where there is one, has sent a ClientHello and got nothing since. -/
structure Waiting (c : TgcallsConnection) : Prop where
  session : ∀ dtls, c.dtls = some dtls → dtls.state = .sentClientHello
  keys : c.srtpReady = false
  state : c.state ≠ .connected

/-- A step that leaves a connection waiting, and in its handshake if it has begun one. -/
structure StaysWaiting (c c' : TgcallsConnection) : Prop where
  waiting : Waiting c'
  handshaking : c.state = .dtlsHandshaking → c'.state = .dtlsHandshaking

section

variable {C : Crypto} {c : TgcallsConnection}

theorem Waiting.stays (h : Waiting c) : StaysWaiting c c := ⟨h, id⟩

theorem waiting_startDtlsPhase (h : Waiting c) (draws : InitiateDraws) :
    Waiting (c.startDtlsPhase draws).1 ∧
      ∀ datagram ∈ (c.startDtlsPhase draws).2, DtlsClientSession.IsHelloRecord datagram := by
  unfold TgcallsConnection.startDtlsPhase
  cases hdtls : c.dtls with
  | some dtls => exact ⟨h, fun datagram hmem => (by cases hmem)⟩
  | none =>
    have hnone : ∀ dtls, c.dtls = some dtls → dtls.state = .sentClientHello := by
      intro dtls hsome
      rw [hdtls] at hsome
      cases hsome
    dsimp only
    split
    · exact ⟨⟨hnone, h.keys, by simp [TgcallsConnection.transitionTo]⟩, fun datagram hmem => (by cases hmem)⟩
    · split_ifs
      · exact ⟨⟨hnone, h.keys, by simp [TgcallsConnection.transitionTo]⟩, fun datagram hmem => (by cases hmem)⟩
      · refine ⟨⟨fun dtls hsome => ?_, h.keys, by simp [TgcallsConnection.transitionTo]⟩, ?_⟩
        · cases hsome
          rfl
        · exact DtlsClientSession.isHelloRecord_initiate _ _ draws

/-- **A harmless datagram leaves it waiting**, and it answers with a ClientHello at most. -/
theorem waiting_onReflectorDatagram (h : Waiting c) {a : TgcallsConnection.Arrival} (ha : HelloAtMost a.inner) :
    StaysWaiting c (c.onReflectorDatagram C a).1 ∧
      ∀ datagram ∈ (c.onReflectorDatagram C a).2.1, DtlsClientSession.IsHelloRecord datagram := by
  have hnone : ∀ c' : TgcallsConnection, StaysWaiting c c' →
      StaysWaiting c c' ∧ ∀ datagram ∈ ([] : List Bytes), DtlsClientSession.IsHelloRecord datagram :=
    fun c' hc' => ⟨hc', fun datagram hmem => (by cases hmem)⟩
  unfold TgcallsConnection.onReflectorDatagram
  cases hinner : a.inner with
  | nil => exact hnone c h.stays
  | cons firstByte rest =>
    dsimp only
    split_ifs with hstun hestablished hdtls hsrtp hconnected
    · unfold TgcallsConnection.onIceConnected
      split_ifs with hlate
      · exact hnone c h.stays
      · obtain ⟨hwaiting, hsent⟩ := waiting_startDtlsPhase h a.draws
        refine ⟨⟨hwaiting, fun hstate => ?_⟩, hsent⟩
        rw [hstate] at hlate
        exact absurd (Nat.le_refl _) hlate
    · exact hnone c h.stays
    · unfold TgcallsConnection.onDtlsDatagram
      cases hsession : c.dtls with
      | none => exact hnone c h.stays
      | some dtls =>
        have hstate := h.session dtls hsession
        have hlive : dtls.state ≠ .failed := by
          rw [hstate]
          decide
        have hestablished : ¬ (dtls.state = .established ∧ (!c.srtpReady) = true) := by
          rw [hstate]
          rintro ⟨hwrong, -⟩
          cases hwrong
        rw [hinner] at ha
        have hhello := ha ⟨firstByte, rest, rfl, hdtls⟩
        dsimp only
        rw [DtlsClientSession.processDatagram_helloRecord hlive hhello]
        dsimp only
        rw [if_neg hestablished, if_neg hlive]
        refine hnone _ ⟨⟨fun dtls' hsome => ?_, h.keys, h.state⟩, id⟩
        cases hsome
        exact hstate
    · exact absurd hconnected h.state
    · exact hnone c h.stays
    · exact hnone c h.stays

theorem waiting_onPeerInitialSetup (h : Waiting c) (msg : InitialSetupMsg) :
    StaysWaiting c (c.onPeerInitialSetup msg) := by
  unfold TgcallsConnection.onPeerInitialSetup
  dsimp only
  split_ifs <;> exact ⟨⟨h.session, h.keys, h.state⟩, id⟩

end

/-! ### A side -/

section

variable {C : Crypto} {c : IceConnection}

theorem helloAtMost_of_not_isDtls {datagrams : List Datagram} (h : ∀ d ∈ datagrams, ¬ IsDtls d.2) :
    ∀ datagram ∈ datagrams.map Prod.snd, HelloAtMost datagram := by
  intro datagram hmem
  obtain ⟨d, hd, rfl⟩ := List.mem_map.1 hmem
  exact fun hdtls => absurd hdtls (h d hd)

theorem helloAtMost_sendIceBindingRequests (ids : ℕ → Vector UInt8 12) :
    ∀ datagram ∈ (c.sendIceBindingRequests C ids).2, HelloAtMost datagram := by
  unfold IceConnection.sendIceBindingRequests
  cases c.iceAgent with
  | none => exact fun datagram hmem => by cases hmem
  | some agent => exact helloAtMost_of_not_isDtls not_isDtls_requests

theorem helloAtMost_startIcePhase (draws : IceDraws) :
    ∀ datagram ∈ (c.startIcePhase C draws).2.sent, HelloAtMost datagram := by
  have hnone : ∀ datagram ∈ ([] : List Bytes), HelloAtMost datagram := fun datagram hmem => by cases hmem
  simp only [IceConnection.startIcePhase]
  split_ifs
  · exact hnone
  · exact hnone
  · exact hnone
  · exact helloAtMost_sendIceBindingRequests _

theorem waiting_retryTimer (h : Waiting c.toTgcallsConnection) (ids : ℕ → Vector UInt8 12) :
    StaysWaiting c.toTgcallsConnection (c.onIceRetryTimer C ids).1.toTgcallsConnection ∧
      ∀ datagram ∈ (c.onIceRetryTimer C ids).2.sent, HelloAtMost datagram := by
  have hnone : ∀ datagram ∈ ([] : List Bytes), HelloAtMost datagram := fun datagram hmem => by cases hmem
  simp only [IceConnection.onIceRetryTimer]
  split_ifs with hlate hspent
  · exact ⟨h.stays, hnone⟩
  · refine ⟨⟨⟨h.session, h.keys, by simp [TgcallsConnection.transitionTo]⟩, fun hstate => ?_⟩, hnone⟩
    rw [hstate] at hlate
    exact absurd (.inr (Nat.le_refl _)) hlate
  · rw [sendIceBindingRequests_base]
    exact ⟨h.stays, helloAtMost_sendIceBindingRequests ids⟩

theorem waiting_datagram (h : Waiting c.toTgcallsConnection) {payload : Bytes} (hpayload : HelloAtMost payload)
    (srcIp : String) (srcPort : ℤ) (draws : InitiateDraws) (audio : TgcallsConnection.AudioInput) :
    StaysWaiting c.toTgcallsConnection
        (c.onReflectorDatagramFrom C srcIp srcPort payload draws audio).1.toTgcallsConnection ∧
      ∀ datagram ∈ (c.onReflectorDatagramFrom C srcIp srcPort payload draws audio).2.sent, HelloAtMost datagram := by
  have hnone : ∀ datagram ∈ ([] : List Bytes), HelloAtMost datagram := fun datagram hmem => by cases hmem
  have hhello : ∀ {datagrams : List Bytes}, (∀ datagram ∈ datagrams, DtlsClientSession.IsHelloRecord datagram) →
      ∀ datagram ∈ datagrams, HelloAtMost datagram := fun hall datagram hmem _ => hall datagram hmem
  simp only [IceConnection.onReflectorDatagramFrom, IceConnection.onReflectorDatagram]
  split_ifs with hempty
  · exact ⟨h.stays, hnone⟩
  have hstrip : tryStripPeerTag (List.replicate 16 0 ++ payload) = some payload := by
    have hsize : kPeerTagSize ≤ (List.replicate 16 (0 : UInt8) ++ payload).length := by simp [kPeerTagSize]
    rw [tryStripPeerTag, if_neg (by omega)]
    exact congrArg some (List.drop_left' List.length_replicate)
  rw [hstrip]
  cases payload with
  | nil => exact absurd rfl hempty
  | cons firstByte rest =>
    dsimp only
    split_ifs with hstun
    · unfold IceConnection.onStunDatagram
      cases c.iceAgent with
      | none => exact ⟨h.stays, hnone⟩
      | some agent =>
        have hprocessed := agent.processIncoming_processed C.srtp.hmacSha1 c.assumedSource.1 c.assumedSource.2
          (firstByte :: rest)
        obtain ⟨hwaiting, hsent⟩ := waiting_onReflectorDatagram (C := C) h
          (a := { inner := firstByte :: rest
                  connectivityEstablished := (agent.processIncoming C.srtp.hmacSha1 c.assumedSource.1
                    c.assumedSource.2 (firstByte :: rest)).2.1 = .connectivityEstablished
                  draws := draws
                  audio := audio }) hpayload
        refine ⟨hwaiting, fun datagram hmem => ?_⟩
        rcases List.mem_append.1 hmem with hanswer | hout
        · split_ifs at hanswer
          · cases hanswer
          · rw [List.mem_singleton.1 hanswer]
            exact fun hdtls => absurd hdtls (not_isDtls_response hprocessed)
        · exact hhello hsent datagram hout
    · obtain ⟨hwaiting, hsent⟩ := waiting_onReflectorDatagram (C := C) h
        (a := { inner := firstByte :: rest, connectivityEstablished := false, draws := draws, audio := audio }) hpayload
      exact ⟨hwaiting, hhello hsent⟩

end

/-! ### Runs -/

/-- **The invariant**: both connections wait, and what they have sent is harmless. -/
def BothWaiting (s : Side → Party) : Prop :=
  ∀ side, Waiting (s side).conn.toTgcallsConnection ∧ ∀ datagram ∈ (s side).sent, HelloAtMost datagram

/-- A datagram that is not sent by the other side is no DTLS. -/
def NoForeignDtls : CallEvent → Prop
  | .datagram _ _ _ payload _ _ => ¬ IsDtls payload
  | _ => True

/-- Each side stays waiting. -/
def StayWaiting (s s' : Side → Party) : Prop :=
  BothWaiting s' ∧ ∀ side, (s side).conn.state = .dtlsHandshaking → (s' side).conn.state = .dtlsHandshaking

section

variable {C : Crypto} {s : Side → Party}

theorem stayWaiting_record (h : BothWaiting s) (side : Side) (lines : List String) {r : IceConnection × Effects}
    (hwaiting : StaysWaiting (s side).conn.toTgcallsConnection r.1.toTgcallsConnection)
    (hsent : ∀ datagram ∈ r.2.sent, HelloAtMost datagram) :
    StayWaiting s (Function.update s side ((s side).record lines r)) := by
  have hside : Waiting ((s side).record lines r).conn.toTgcallsConnection ∧
      ∀ datagram ∈ ((s side).record lines r).sent, HelloAtMost datagram := by
    refine ⟨hwaiting.waiting, fun datagram hmem => ?_⟩
    exact (List.mem_append.1 hmem).elim ((h side).2 datagram) (hsent datagram)
  refine ⟨fun side' => ?_, fun side' hstate => ?_⟩
  all_goals
    by_cases heq : side' = side
    · subst heq
      rw [Function.update_self]
      first | exact hside | exact hwaiting.handshaking hstate
    · rw [Function.update_of_ne heq]
      first | exact h side' | exact hstate

/-- **A step leaves both sides waiting.** -/
theorem stayWaiting_step (h : BothWaiting s) {ev : CallEvent} (hforeign : NoForeignDtls ev) :
    StayWaiting s (callStep C s ev) := by
  have hsame : StayWaiting s s := ⟨h, fun side => id⟩
  cases ev with
  | signaling side k draws lines =>
    simp only [callStep]
    cases (s side.other).signaled[k]? with
    | none => exact hsame
    | some msg =>
      obtain ⟨hwaiting, -⟩ := h side
      cases msg with
      | initialSetup msg =>
        refine stayWaiting_record h side lines ?_ (helloAtMost_startIcePhase draws)
        rw [IceConnection.onPeerInitialSetup, startIcePhase_base]
        exact waiting_onPeerInitialSetup hwaiting msg
      | candidates received =>
        refine stayWaiting_record h side lines ?_ (helloAtMost_startIcePhase draws)
        rw [IceConnection.onPeerCandidates, startIcePhase_base]
        exact hwaiting.stays
  | arrival side k srcIp srcPort draws audio =>
    simp only [callStep]
    cases hpayload : (s side.other).sent[k]? with
    | none => exact hsame
    | some payload =>
      have hhello := (h side.other).2 payload (List.mem_of_getElem? hpayload)
      obtain ⟨hwaiting, hsent⟩ := waiting_datagram (C := C) (h side).1 hhello srcIp srcPort draws audio
      exact stayWaiting_record h side [] hwaiting hsent
  | datagram side srcIp srcPort payload draws audio =>
    have hhello : HelloAtMost payload := fun hdtls => absurd hdtls hforeign
    obtain ⟨hwaiting, hsent⟩ := waiting_datagram (C := C) (h side).1 hhello srcIp srcPort draws audio
    exact stayWaiting_record h side [] hwaiting hsent
  | retryTimer side ids =>
    obtain ⟨hwaiting, hsent⟩ := waiting_retryTimer (C := C) (h side).1 ids
    exact stayWaiting_record h side [] hwaiting hsent

theorem stayWaiting_run (h : BothWaiting s) {events : List CallEvent} (hforeign : ∀ ev ∈ events, NoForeignDtls ev) :
    StayWaiting s (run (callStep C) s events) := by
  induction events generalizing s with
  | nil => exact ⟨h, fun side => id⟩
  | cons ev events ih =>
    obtain ⟨hev, hrest⟩ := List.forall_mem_cons.1 hforeign
    obtain ⟨hnext, hstate⟩ := stayWaiting_step (C := C) h hev
    obtain ⟨hend, hstate'⟩ := ih hnext hrest
    exact ⟨hend, fun side hside => hstate' side (hstate side hside)⟩

end

theorem waiting_start (P : Cert.Platform) {base : TgcallsConnection} (input : TgcallsConnection.StartInput)
    (hdtls : base.dtls = none) (hkeys : base.srtpReady = false) (hstate : base.state = .connecting) :
    Waiting (base.start P input).1 := by
  have hwaiting : ∀ c : TgcallsConnection, c.dtls = none → c.srtpReady = false → c.state ≠ .connected → Waiting c := by
    intro c hnone hready hnot
    refine ⟨fun dtls hsome => ?_, hready, hnot⟩
    rw [hnone] at hsome
    cases hsome
  have hsame : Waiting base := hwaiting base hdtls hkeys (by rw [hstate]; decide)
  unfold TgcallsConnection.start
  split
  · exact hsame
  split
  · exact hsame
  split
  · exact hsame
  split
  · exact hwaiting _ hdtls hkeys (by simp [TgcallsConnection.transitionTo])
  dsimp only
  split
  · exact hwaiting _ hdtls hkeys (by simp [TgcallsConnection.transitionTo])
  · split <;> exact hwaiting _ hdtls hkeys (by simp [TgcallsConnection.transitionTo])

theorem bothWaiting_start (C : Crypto) (start : Side → CallStart) :
    BothWaiting (startCall C.dtls.toPlatform start) := by
  intro side
  refine ⟨waiting_start C.dtls.toPlatform _ rfl rfl rfl, fun datagram hmem => ?_⟩
  cases hmem

/-- **No call connects.**  In every run of a call in which the DTLS datagrams that arrive are those of the other side, in
any order and any number of times, no side is ever connected or has keys for SRTP, each session has sent its ClientHello and
got nothing since, and a side that has begun its handshake is still in it whatever happens next. -/
theorem never_connected (C : Crypto) (start : Side → CallStart) (events : List CallEvent)
    (hforeign : ∀ ev ∈ events, NoForeignDtls ev) (side : Side) :
    Waiting (run (callStep C) (startCall C.dtls.toPlatform start) events side).conn.toTgcallsConnection ∧
      ∀ more : List CallEvent, (∀ ev ∈ more, NoForeignDtls ev) →
        (run (callStep C) (startCall C.dtls.toPlatform start) events side).conn.state = .dtlsHandshaking →
        (run (callStep C) (startCall C.dtls.toPlatform start) (events ++ more) side).conn.state = .dtlsHandshaking := by
  obtain ⟨hwaiting, -⟩ := stayWaiting_run (C := C) (bothWaiting_start C start) hforeign
  refine ⟨(hwaiting side).1, fun more hmore hstate => ?_⟩
  rw [run_append]
  exact (stayWaiting_run (C := C) hwaiting hmore).2 side hstate

/-- The incoming side of this call reaches the DTLS phase. -/
theorem never_connected_sample : Waiting
      (run (callStep callLibraries) (startCall callLibraries.dtls.toPlatform sampleSides) sampleEvents
        .incoming).conn.toTgcallsConnection ∧
      ∀ more : List CallEvent, (∀ ev ∈ more, NoForeignDtls ev) →
        (run (callStep callLibraries) (startCall callLibraries.dtls.toPlatform sampleSides) sampleEvents
          .incoming).conn.state = .dtlsHandshaking →
        (run (callStep callLibraries) (startCall callLibraries.dtls.toPlatform sampleSides) (sampleEvents ++ more)
          .incoming).conn.state = .dtlsHandshaking := by
  have hforeign : ∀ ev ∈ sampleEvents, NoForeignDtls ev := by simp [sampleEvents, NoForeignDtls]
  exact never_connected callLibraries sampleSides sampleEvents hforeign .incoming

end VianiumVoip.Tgcalls
