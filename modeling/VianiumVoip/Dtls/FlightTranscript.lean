import VianiumVoip.Dtls.Authentication

/-!
# The transcript under loss, duplication and reordering

A conforming server sends one flight (ServerHello, Certificate, ServerKeyExchange, perhaps a
CertificateRequest, ServerHelloDone), packed into datagrams; the network may lose, repeat and reorder the
datagrams.  The client is meant to derive its keys over a transcript with every message of the flight once and
in the order of `message_seq`.  It ignores `message_seq`, so what the transcript holds is what arrived:
`keys_over_flight_iff` says for which schedules that is the flight, `finished_over_flight` what the client's Finished is
over there, and `established_iff_of_duplicates` what a duplicate behind the keys does to the check of the server's.
-/

namespace VianiumVoip.Dtls

open VianiumVoip.Lib VianiumVoip.Lib.Run VianiumVoip.Cert

/-! ### Messages, records and datagrams of a flight -/

structure FlightMessage where
  msgType : UInt8
  messageSeq : UInt16
  body : Bytes
  deriving DecidableEq

def FlightMessage.wire (m : FlightMessage) : Bytes := wrapHandshakeUnfragmented m.msgType m.messageSeq m.body

/-- A plaintext record of whole messages that fits its length field. -/
structure FlightRecord where
  sequenceNumber : UInt64
  messages : List FlightMessage
  sequenceNumber_lt : sequenceNumber.toNat < 2 ^ 48
  payload_lt : (messages.flatMap FlightMessage.wire).length < 2 ^ 16

theorem one_lt_sequenceNumbers : (1 : UInt64).toNat < 2 ^ 48 := by decide

def FlightRecord.wire (r : FlightRecord) : Bytes :=
  wrapRecord kDtlsContentHandshake kDtlsVersion12 0 r.sequenceNumber (r.messages.flatMap FlightMessage.wire)

/-- The messages in a datagram's records. -/
def datagramMessages (records : List FlightRecord) : List FlightMessage := records.flatMap FlightRecord.messages

def datagramWire (records : List FlightRecord) : Bytes := records.flatMap FlightRecord.wire

/-- The delivery of a flight message. -/
def FlightMessage.delivery (m : FlightMessage) : Delivery := .handshake .plaintext m.msgType m.body

/-- The transcript bytes of some messages. -/
def transcriptOf (ms : List FlightMessage) : Bytes := ms.flatMap fun m => tlsLikeTranscriptBytes m.msgType m.body

/-- **A conforming server flight** for a client whose pin is `pin` and whose ECDH key is `priv`: the messages in
order, with increasing sequence numbers, of the contents the client negotiates, packed into datagrams. -/
structure ServerFlight (C : Crypto) (pin priv : Bytes) where
  serverHello : FlightMessage
  certificate : FlightMessage
  serverKeyExchange : FlightMessage
  certificateRequest : Option FlightMessage
  serverHelloDone : FlightMessage
  /-- The datagrams, each a list of records. -/
  packing : List (List FlightRecord)
  packed : packing.flatMap datagramMessages
    = [serverHello, certificate, serverKeyExchange] ++ certificateRequest.toList ++ [serverHelloDone]
  increasing : (([serverHello, certificate, serverKeyExchange] ++ certificateRequest.toList
    ++ [serverHelloDone]).map (·.messageSeq.toNat)).Pairwise (· < ·)
  serverHello_ok : serverHello.msgType = kHsServerHello ∧
    ∃ sh, ServerHelloCodec.decode serverHello.body = some sh ∧ sh.cipherSuite = kCsEcdheEcdsaAes128GcmSha256
  certificate_ok : certificate.msgType = kHsCertificate ∧
    ∃ leaf rest, CertificateCodec.decode certificate.body = some ⟨leaf :: rest⟩ ∧ C.sha256 leaf = pin
  serverKeyExchange_ok : serverKeyExchange.msgType = kHsServerKeyExchange ∧
    ∃ ske, ServerKeyExchangeCodec.decode serverKeyExchange.body = some ske ∧ ske.namedCurve = kNgSecp256r1 ∧
      ske.publicPoint.length = 65 ∧ ske.publicPoint.getD 0 0 = 0x04 ∧
      (C.computeSharedSecret priv ske.publicPoint).isSome
  certificateRequest_ok : ∀ m ∈ certificateRequest, m.msgType = kHsCertificateRequest
  serverHelloDone_ok : serverHelloDone.msgType = kHsServerHelloDone

variable {C : Crypto} {pin priv : Bytes}

theorem ServerFlight.no_certificateRequest :
    ∀ m ∈ (none : Option FlightMessage), m.msgType = kHsCertificateRequest := by
  intro m h
  cases h

def ServerFlight.messages (F : ServerFlight C pin priv) : List FlightMessage :=
  [F.serverHello, F.certificate, F.serverKeyExchange] ++ F.certificateRequest.toList ++ [F.serverHelloDone]

namespace DtlsClientSession

/-- The client's own messages that go into the transcript after a ServerHelloDone, before the keys are
derived. -/
def clientMessages (C : Crypto) (s : DtlsClientSession) (body : Bytes) : Bytes :=
  let s := s.appendToHandshakeHash (tlsLikeTranscriptBytes kHsServerHelloDone body)
  let (certBody, s) := s.buildCertificateBody C
  let cert := tlsLikeTranscriptBytes kHsCertificate certBody
  let cke := tlsLikeTranscriptBytes kHsClientKeyExchange s.buildClientKeyExchangeBody
  let (cvBody, _) := s.buildCertificateVerifyBody C (s.handshakeTranscript ++ cert ++ cke)
  cert ++ cke ++ tlsLikeTranscriptBytes kHsCertificateVerify cvBody

/-- **Keys over the flight**, at one delivery.  If it is a ServerHelloDone from which keys are derived, the transcript at
that moment is the one from before the flight, then the messages `flight`, each once and in order, then the
client's own. -/
def KeysOver (C : Crypto) (before : Bytes) (flight : List FlightMessage) (s : DtlsClientSession) : Delivery → Prop
  | .handshake _ msgType body =>
    msgType = kHsServerHelloDone → s.state ≠ .failed →
      ((s.sendClientFlight C body).1.deriveKeysAndCipher C).state ≠ .failed →
      (s.sendClientFlight C body).1.handshakeTranscript
        = before ++ transcriptOf flight ++ s.clientMessages C body
  | _ => True

/-- A client that waits for the server's flight. -/
structure AwaitsFlight (s : DtlsClientSession) (pin priv : Bytes) : Prop where
  live : s.state ≠ .failed
  pinned : s.expectedPeerFingerprint = pin
  ecdhPrivate : s.ourEcdhPrivate = priv ∧ priv.length = 32
  noPoint : s.serverPublicPoint = []

theorem sendClientFlight_transcript (C : Crypto) (s : DtlsClientSession) (body : Bytes) :
    (s.sendClientFlight C body).1.handshakeTranscript = s.handshakeTranscript
      ++ tlsLikeTranscriptBytes kHsServerHelloDone body ++ s.clientMessages C body := by
  simp [sendClientFlight, clientMessages, buildCertificateBody, buildCertificateVerifyBody, sendHandshake,
    appendToHandshakeHash, buildClientKeyExchangeBody]

theorem deriveKeysAndCipher_transcript (C : Crypto) (s : DtlsClientSession) :
    (s.deriveKeysAndCipher C).handshakeTranscript = s.handshakeTranscript := by
  unfold deriveKeysAndCipher
  split_ifs
  · rfl
  · rfl
  · split
    · rfl
    · dsimp only
      split_ifs <;> rfl

end DtlsClientSession

/-! ### Transcripts as messages -/

theorem transcriptOf_append (ms ns : List FlightMessage) :
    transcriptOf (ms ++ ns) = transcriptOf ms ++ transcriptOf ns := List.flatMap_append ..

/-- The first message of a transcript can be told apart from the rest. -/
theorem tlsLike_append_inj {t u : UInt8} {b c r q : Bytes} (hb : b.length < 2 ^ 24) (hc : c.length < 2 ^ 24)
    (h : tlsLikeTranscriptBytes t b ++ r = tlsLikeTranscriptBytes u c ++ q) : t = u ∧ b = c ∧ r = q := by
  simp only [tlsLikeTranscriptBytes, List.append_assoc, List.cons_append, List.nil_append] at h
  obtain ⟨htype, htail⟩ := List.cons.inj h
  obtain ⟨hlen, hrest⟩ := List.append_inj htail (by simp)
  have hbc : b.length = c.length := by
    have := congrArg (fun x => (loadBE24 (x ++ [])).toNat) hlen
    simp only [loadBE24_store, UInt32.toNat_ofNat'] at this
    omega
  obtain ⟨hbody, hq⟩ := List.append_inj hrest hbc
  exact ⟨htype, hbody, hq⟩

namespace ServerFlight

variable (F : ServerFlight C pin priv)

theorem mem_messages {m : FlightMessage} : m ∈ F.messages ↔ m = F.serverHello ∨ m = F.certificate ∨
    m = F.serverKeyExchange ∨ m ∈ F.certificateRequest ∨ m = F.serverHelloDone := by
  simp [messages]

theorem eq_of_msgType {m n : FlightMessage} (hm : m ∈ F.messages) (hn : n ∈ F.messages)
    (h : m.msgType = n.msgType) : m = n := by
  have hsh := F.serverHello_ok.1
  have hcert := F.certificate_ok.1
  have hske := F.serverKeyExchange_ok.1
  have hreq := F.certificateRequest_ok
  have hshd := F.serverHelloDone_ok
  rw [mem_messages] at hm hn
  rcases hm with rfl | rfl | rfl | hm | rfl <;> rcases hn with rfl | rfl | rfl | hn | rfl <;>
    simp_all [kHsServerHello, kHsCertificate, kHsServerKeyExchange, kHsCertificateRequest, kHsServerHelloDone]

theorem serverHelloDone_mem : F.serverHelloDone ∈ F.messages := by simp [messages]

/-- The point of the flight. -/
def point : Bytes := ((ServerKeyExchangeCodec.decode F.serverKeyExchange.body).map (·.publicPoint)).getD []

theorem point_ok : F.point.length = 65 ∧ (C.computeSharedSecret priv F.point).isSome := by
  obtain ⟨-, ske, hdec, -, hlen, -, hecdh⟩ := F.serverKeyExchange_ok
  simp only [point, hdec, Option.map_some, Option.getD_some]
  exact ⟨hlen, hecdh⟩

open DtlsClientSession

/-- A client on its way through the flight: live, with its pin and its key, its transcript and its server point. -/
structure Progress (pin priv : Bytes) (s : DtlsClientSession) (transcript serverPoint : Bytes) : Prop where
  live : s.state ≠ .failed
  pinned : s.expectedPeerFingerprint = pin
  ecdhPrivate : s.ourEcdhPrivate = priv
  transcript_eq : s.handshakeTranscript = transcript
  point_eq : s.serverPublicPoint = serverPoint

variable {F} {s : DtlsClientSession} {T P : Bytes}

theorem ne_serverKeyExchange {m : FlightMessage} (h : m.msgType ≠ kHsServerKeyExchange) :
    m ≠ F.serverKeyExchange := by
  rintro rfl
  exact h F.serverKeyExchange_ok.1

/-- **One message before ServerHelloDone.**  Whenever it arrives, it is accepted and enters the transcript; a
ServerKeyExchange sets the point. -/
theorem Progress.deliver {m : FlightMessage} (h : Progress pin priv s T P) (hm : m ∈ F.messages)
    (hdone : m ≠ F.serverHelloDone) :
    Progress pin priv (s.deliver C m.delivery)
      (T ++ tlsLikeTranscriptBytes m.msgType m.body) (if m = F.serverKeyExchange then F.point else P) := by
  rw [FlightMessage.delivery, deliver_handshake h.live]
  rcases F.mem_messages.1 hm with rfl | rfl | rfl | hreq | rfl
  · obtain ⟨htype, sh, hdec, hsuite⟩ := F.serverHello_ok
    rw [if_neg (ne_serverKeyExchange (by rw [htype]; decide)), htype]
    show Progress pin priv (s.handleServerHello F.serverHello.body) _ _
    simp only [handleServerHello, hdec, hsuite, ne_eq, not_true_eq_false, if_false, ← h.transcript_eq]
    exact ⟨by simp, h.pinned, h.ecdhPrivate, rfl, h.point_eq⟩
  · obtain ⟨htype, leaf, rest, hdec, hpin⟩ := F.certificate_ok
    rw [← h.pinned] at hpin
    rw [if_neg (ne_serverKeyExchange (by rw [htype]; decide)), htype]
    show Progress pin priv (s.handleCertificate C F.certificate.body) _ _
    simp only [handleCertificate, hdec, hpin, ne_eq, not_true_eq_false, if_false, ← h.transcript_eq]
    exact ⟨by simp, h.pinned, h.ecdhPrivate, rfl, h.point_eq⟩
  · obtain ⟨htype, ske, hdec, hcurve, hlen, hhead, -⟩ := F.serverKeyExchange_ok
    have hpoint : F.point = ske.publicPoint := by simp [point, hdec]
    rw [if_pos rfl, htype, hpoint]
    show Progress pin priv (s.handleServerKeyExchange F.serverKeyExchange.body) _ _
    simp only [handleServerKeyExchange, hdec, hcurve, hlen, hhead, ne_eq, not_true_eq_false, or_self, if_false,
      ← h.transcript_eq]
    exact ⟨by simp, h.pinned, h.ecdhPrivate, rfl, rfl⟩
  · have htype := F.certificateRequest_ok m hreq
    rw [if_neg (ne_serverKeyExchange (by rw [htype]; decide)), htype]
    show Progress pin priv (s.handleCertificateRequest m.body) _ _
    simp only [handleCertificateRequest, ← h.transcript_eq]
    exact ⟨h.live, h.pinned, h.ecdhPrivate, rfl, h.point_eq⟩
  · exact absurd rfl hdone

/-- **All messages before ServerHelloDone.** -/
theorem Progress.run {ms : List FlightMessage} (h : Progress pin priv s T P)
    (hm : ∀ m ∈ ms, m ∈ F.messages) (hdone : F.serverHelloDone ∉ ms) :
    Progress pin priv (run (DtlsClientSession.deliver C) s (ms.map FlightMessage.delivery))
      (T ++ transcriptOf ms) (if F.serverKeyExchange ∈ ms then F.point else P) := by
  induction ms generalizing s T P with
  | nil => simpa [transcriptOf] using h
  | cons m ms ih =>
    have hstep := h.deliver (hm m List.mem_cons_self) fun heq => hdone (heq ▸ List.mem_cons_self)
    have hrest := ih hstep (fun m' hm' => hm m' (List.mem_cons_of_mem _ hm')) fun hmem =>
      hdone (List.mem_cons_of_mem _ hmem)
    rw [List.append_assoc] at hrest
    rw [List.map_cons, run_cons]
    have hpoint : (if F.serverKeyExchange ∈ m :: ms then F.point else P)
        = if F.serverKeyExchange ∈ ms then F.point else if m = F.serverKeyExchange then F.point else P := by
      by_cases h1 : F.serverKeyExchange ∈ ms
      · simp [h1]
      · by_cases h2 : m = F.serverKeyExchange
        · simp [h2]
        · simp [h1, h2, Ne.symm h2]
    rw [hpoint]
    exact hrest

/-! ### ServerHelloDone -/

/-- Without a server point the session fails before any key is derived. -/
theorem deriveKeysAndCipher_noPoint (body : Bytes) (h : s.serverPublicPoint = []) :
    ((s.sendClientFlight C body).1.deriveKeysAndCipher C).state = .failed := by
  have hpoint : (s.sendClientFlight C body).1.serverPublicPoint = [] := h
  unfold deriveKeysAndCipher
  rw [if_pos (by simp [hpoint])]
  rfl

theorem deriveKeysAndCipher_point (body : Bytes) (hlen : priv.length = 32)
    (h : Progress pin priv s T F.point) :
    ∃ masterSecret keyBlock, (s.sendClientFlight C body).1.deriveKeysAndCipher C
      = { (s.sendClientFlight C body).1 with masterSecret := masterSecret }.installKeys keyBlock := by
  have hpoint : (s.sendClientFlight C body).1.serverPublicPoint = F.point := h.point_eq
  have hpriv : (s.sendClientFlight C body).1.ourEcdhPrivate = priv := h.ecdhPrivate
  obtain ⟨pms, hpms⟩ := Option.isSome_iff_exists.1 F.point_ok.2
  exact ⟨_, _, deriveKeysAndCipher_eq (by rw [hpoint, F.point_ok.1]) (by rw [hpriv, hlen])
    (by rw [hpoint, hpriv, hpms])⟩

theorem Progress.deliver_done (h : Progress pin priv s T F.point) (hlen : priv.length = 32)
    (hencrypt : ∀ cipher data seq type version, (C.encrypt cipher data seq type version).isSome) :
    ∃ T', Progress pin priv (s.deliver C F.serverHelloDone.delivery) T' F.point ∧
      T ++ tlsLikeTranscriptBytes kHsServerHelloDone F.serverHelloDone.body <+: T' := by
  obtain ⟨masterSecret, kb, hkeys⟩ := deriveKeysAndCipher_point F.serverHelloDone.body hlen h
  have htranscript := sendClientFlight_transcript C s F.serverHelloDone.body
  rw [h.transcript_eq] at htranscript
  have hpoint : (s.sendClientFlight C F.serverHelloDone.body).1.serverPublicPoint = F.point := h.point_eq
  have hpriv : (s.sendClientFlight C F.serverHelloDone.body).1.ourEcdhPrivate = priv := h.ecdhPrivate
  have hpin : (s.sendClientFlight C F.serverHelloDone.body).1.expectedPeerFingerprint = pin := h.pinned
  have hstate : (s.sendClientFlight C F.serverHelloDone.body).1.state = .sentClientKeyExchange := rfl
  rw [FlightMessage.delivery, deliver_handshake h.live, F.serverHelloDone_ok]
  show ∃ T', Progress pin priv (s.handleServerHelloDone C F.serverHelloDone.body).1 T' _ ∧ _
  unfold handleServerHelloDone
  simp only [hkeys]
  rw [if_neg (by simp [installKeys, hstate]), buildClientFinishedFlight_eq rfl hencrypt]
  refine ⟨_, ⟨by simp, hpin, hpriv, rfl, hpoint⟩, ?_⟩
  show _ <+: (s.sendClientFlight C F.serverHelloDone.body).1.handshakeTranscript ++ _
  rw [htranscript, List.append_assoc]
  exact List.prefix_append ..

/-! ### Whole schedules -/

/-- What is required of a schedule's messages, in the order in which they arrive.  Either no ServerHelloDone
arrives, or, unless the first one comes before every ServerKeyExchange (and fails the session), the messages up
to it are the flight, in order, and no other ServerHelloDone follows. -/
def OrderedOnce (F : ServerFlight C pin priv) (ms : List FlightMessage) : Prop :=
  F.serverHelloDone ∉ ms ∨ ∃ pre post, ms = pre ++ F.serverHelloDone :: post ∧ F.serverHelloDone ∉ pre ∧
    (F.serverKeyExchange ∈ pre → pre ++ [F.serverHelloDone] = F.messages ∧ F.serverHelloDone ∉ post)

variable {before : Bytes} {flight : List FlightMessage}

theorem keysOver_of_failed (h : s.state = .failed) (d : Delivery) : KeysOver C before flight s d := by
  cases d with
  | handshake o t body => exact fun _ hlive => absurd h hlive
  | changeCipherSpec => trivial
  | failure => trivial

theorem guarded_of_failed (h : s.state = .failed) (ds : List Delivery) :
    Guarded (DtlsClientSession.deliver C) (KeysOver C before flight) s ds := by
  induction ds with
  | nil => exact guarded_nil s
  | cons d ds ih => exact ⟨keysOver_of_failed h d, by rwa [deliver_of_failed h]⟩

theorem guarded_of_not_done {ms : List FlightMessage} (hm : ∀ m ∈ ms, m ∈ F.messages)
    (hdone : F.serverHelloDone ∉ ms) :
    Guarded (DtlsClientSession.deliver C) (KeysOver C before flight) s (ms.map FlightMessage.delivery) := by
  induction ms generalizing s with
  | nil => exact guarded_nil s
  | cons m ms ih =>
    refine ⟨fun htype => absurd ?_ hdone, ih (fun m' hm' => hm m' (List.mem_cons_of_mem _ hm'))
      fun hmem => hdone (List.mem_cons_of_mem _ hmem)⟩
    have heq := F.eq_of_msgType (hm m List.mem_cons_self) F.serverHelloDone_mem
      (htype.trans F.serverHelloDone_ok.symm)
    exact heq ▸ List.mem_cons_self

theorem keysOver_done_iff (h : Progress pin priv s T F.point) (hlen : priv.length = 32) :
    KeysOver C before flight s F.serverHelloDone.delivery ↔
      T ++ tlsLikeTranscriptBytes kHsServerHelloDone F.serverHelloDone.body = before ++ transcriptOf flight := by
  obtain ⟨masterSecret, kb, hkeys⟩ := deriveKeysAndCipher_point F.serverHelloDone.body hlen h
  have hsucc : ((s.sendClientFlight C F.serverHelloDone.body).1.deriveKeysAndCipher C).state ≠ .failed := by
    rw [hkeys]
    exact fun hf => by cases hf
  have htranscript := sendClientFlight_transcript C s F.serverHelloDone.body
  rw [h.transcript_eq] at htranscript
  constructor
  · intro hk
    have := hk F.serverHelloDone_ok h.live hsucc
    rw [htranscript] at this
    exact List.append_cancel_right this
  · intro heq _ _ _
    rw [htranscript, heq]

theorem body_lt_of_mem_record {r : FlightRecord} {m : FlightMessage} (h : m ∈ r.messages) : m.body.length < 2 ^ 16 := by
  have hle : m.wire.length ≤ (r.messages.flatMap FlightMessage.wire).length := by
    obtain ⟨pre, post, heq⟩ := List.append_of_mem h
    rw [heq, List.flatMap_append, List.flatMap_cons, List.length_append, List.length_append]
    omega
  have hlt := r.payload_lt
  rw [FlightMessage.wire, length_wrapHandshakeUnfragmented] at hle
  omega

theorem body_lt (F : ServerFlight C pin priv) {m : FlightMessage} (h : m ∈ F.messages) : m.body.length < 2 ^ 24 := by
  rw [messages, ← F.packed, List.mem_flatMap] at h
  obtain ⟨records, -, hrec⟩ := h
  obtain ⟨r, -, hr⟩ := List.mem_flatMap.1 hrec
  have := body_lt_of_mem_record hr
  omega

/-- A transcript of flight messages says which messages they were. -/
theorem transcriptOf_inj {ms ns : List FlightMessage} (hm : ∀ m ∈ ms, m ∈ F.messages)
    (hn : ∀ n ∈ ns, n ∈ F.messages) (h : transcriptOf ms = transcriptOf ns) : ms = ns := by
  have hcons (m : FlightMessage) (ms : List FlightMessage) :
      transcriptOf (m :: ms) = tlsLikeTranscriptBytes m.msgType m.body ++ transcriptOf ms := List.flatMap_cons
  have hne (m : FlightMessage) (ms : List FlightMessage) : transcriptOf (m :: ms) ≠ [] := by
    rw [hcons]
    exact List.cons_ne_nil _ _
  induction ms generalizing ns with
  | nil =>
    cases ns with
    | nil => rfl
    | cons n ns => exact absurd h.symm (hne n ns)
  | cons m ms ih =>
    cases ns with
    | nil => exact absurd h (hne m ms)
    | cons n ns =>
      have hm' := hm m List.mem_cons_self
      have hn' := hn n List.mem_cons_self
      rw [hcons, hcons] at h
      obtain ⟨htype, -, hrest⟩ := tlsLike_append_inj (F.body_lt hm') (F.body_lt hn') h
      rw [F.eq_of_msgType hm' hn' htype, ih (fun x hx => hm x (List.mem_cons_of_mem _ hx))
        (fun x hx => hn x (List.mem_cons_of_mem _ hx)) hrest]

/-- After keys were derived over the flight, a second ServerHelloDone would derive them over more. -/
theorem guarded_after_done_iff {ms : List FlightMessage} (h : Progress pin priv s T F.point) (hlen : priv.length = 32)
    (hstart : before ++ transcriptOf F.messages <+: T) (hm : ∀ m ∈ ms, m ∈ F.messages) :
    Guarded (DtlsClientSession.deliver C) (KeysOver C before F.messages) s (ms.map FlightMessage.delivery)
      ↔ F.serverHelloDone ∉ ms := by
  constructor
  · intro hg hmem
    obtain ⟨pre, post, rfl, hpre⟩ := List.eq_append_cons_of_mem hmem
    rw [List.map_append, List.map_cons] at hg
    obtain ⟨-, hdone, -⟩ := guarded_append.1 hg
    have hrun := h.run (fun m hmem => hm m (List.mem_append_left _ hmem)) hpre
    rw [ite_self] at hrun
    have heq := congrArg List.length ((keysOver_done_iff hrun hlen).1 hdone)
    have hle := hstart.length_le
    simp only [List.length_append, tlsLikeTranscriptBytes, List.length_singleton] at heq hle
    omega
  · exact guarded_of_not_done hm

/-- **The schedules whose keys are over the flight**, by their messages. -/
theorem keys_over_messages_iff {ms : List FlightMessage} (h : Progress pin priv s T []) (hlen : priv.length = 32)
    (hencrypt : ∀ cipher data seq type version, (C.encrypt cipher data seq type version).isSome)
    (hm : ∀ m ∈ ms, m ∈ F.messages) :
    Guarded (DtlsClientSession.deliver C) (KeysOver C T F.messages) s (ms.map FlightMessage.delivery)
      ↔ OrderedOnce F ms := by
  -- a schedule cut at its first ServerHelloDone
  have hsplit (pre post : List FlightMessage) (heq : ms = pre ++ F.serverHelloDone :: post)
      (hpre : F.serverHelloDone ∉ pre) :
      Guarded (DtlsClientSession.deliver C) (KeysOver C T F.messages) s (ms.map FlightMessage.delivery) ↔
        (F.serverKeyExchange ∈ pre → pre ++ [F.serverHelloDone] = F.messages ∧ F.serverHelloDone ∉ post) := by
    subst heq
    have hmpre (m : FlightMessage) (hmem : m ∈ pre) : m ∈ F.messages := hm m (List.mem_append_left _ hmem)
    have hmpost (m : FlightMessage) (hmem : m ∈ post) : m ∈ F.messages :=
      hm m (List.mem_append_right _ (List.mem_cons_of_mem _ hmem))
    have hrun := h.run hmpre hpre
    rw [List.map_append, List.map_cons, guarded_append, guarded_cons,
      and_iff_right (guarded_of_not_done hmpre hpre)]
    generalize Run.run (DtlsClientSession.deliver C) s (pre.map FlightMessage.delivery) = s1 at *
    by_cases hske : F.serverKeyExchange ∈ pre
    · rw [if_pos hske] at hrun
      obtain ⟨T', hdone, hstart⟩ := hrun.deliver_done hlen hencrypt
      have hbytes : T ++ transcriptOf pre ++ tlsLikeTranscriptBytes kHsServerHelloDone F.serverHelloDone.body
          = T ++ transcriptOf (pre ++ [F.serverHelloDone]) := by
        rw [transcriptOf_append, List.append_assoc]
        simp [transcriptOf, F.serverHelloDone_ok]
      have hfirst : KeysOver C T F.messages s1 F.serverHelloDone.delivery ↔
          pre ++ [F.serverHelloDone] = F.messages := by
        rw [keysOver_done_iff hrun hlen, hbytes]
        constructor
        · intro heq
          refine transcriptOf_inj (fun m hmem => ?_) (fun _ => id) (List.append_cancel_left heq)
          rcases List.mem_append.1 hmem with hmem | hmem
          · exact hmpre m hmem
          · exact List.mem_singleton.1 hmem ▸ F.serverHelloDone_mem
        · intro heq
          rw [heq]
      rw [hfirst, forall_prop_of_true hske]
      refine and_congr_right fun heq => guarded_after_done_iff hdone hlen ?_ hmpost
      rwa [hbytes, heq] at hstart
    · rw [if_neg hske] at hrun
      have hfail := deriveKeysAndCipher_noPoint (C := C) (s := s1) F.serverHelloDone.body hrun.point_eq
      have hfailed : (DtlsClientSession.deliver C s1 F.serverHelloDone.delivery).state = .failed := by
        rw [FlightMessage.delivery, deliver_handshake hrun.live, F.serverHelloDone_ok]
        show (s1.handleServerHelloDone C F.serverHelloDone.body).1.state = .failed
        unfold handleServerHelloDone
        simp only
        rw [if_pos hfail, hfail]
      exact iff_of_true ⟨fun _ _ hsucc => absurd hfail hsucc, guarded_of_failed hfailed _⟩
        fun hmem => absurd hmem hske
  constructor
  · intro hg
    by_cases hmem : F.serverHelloDone ∈ ms
    · obtain ⟨pre, post, heq, hpre⟩ := List.eq_append_cons_of_mem hmem
      exact .inr ⟨pre, post, heq, hpre, (hsplit pre post heq hpre).1 hg⟩
    · exact .inl hmem
  · rintro (hnot | ⟨pre, post, heq, hpre, hcond⟩)
    · exact guarded_of_not_done hm hnot
    · exact (hsplit pre post heq hpre).2 hcond

/-! ### From datagrams to messages -/

theorem messageDeliveries_flatMap {ms : List FlightMessage} (h : ∀ m ∈ ms, m.body.length < 2 ^ 24) :
    messageDeliveries .plaintext (ms.flatMap FlightMessage.wire) = ms.map FlightMessage.delivery := by
  induction ms with
  | nil => exact messageDeliveries_nil _
  | cons m ms ih =>
    rw [List.flatMap_cons, FlightMessage.wire, messageDeliveries_wrap _ _ _ _ (h m List.mem_cons_self),
      ih fun m' hm' => h m' (List.mem_cons_of_mem _ hm')]
    rfl

theorem recordDeliveries_flight (s : DtlsClientSession) (r : FlightRecord) :
    s.recordDeliveries C
        { type := kDtlsContentHandshake, version := kDtlsVersion12, epoch := 0, sequenceNumber := r.sequenceNumber,
          payload := r.messages.flatMap FlightMessage.wire }
      = r.messages.map FlightMessage.delivery := by
  rw [recordDeliveries_plaintext, messageDeliveries_flatMap]
  intro m hm
  have := body_lt_of_mem_record hm
  omega

theorem datagram_deliveries (before : Bytes) (flight : List FlightMessage) (s : DtlsClientSession)
    (records : List FlightRecord) :
    (Guarded (DtlsClientSession.deliver C) (KeysOver C before flight) s (s.datagramDeliveries C (datagramWire records)) ↔
      Guarded (DtlsClientSession.deliver C) (KeysOver C before flight) s
        ((datagramMessages records).map FlightMessage.delivery)) ∧
    Run.run (DtlsClientSession.deliver C) s (s.datagramDeliveries C (datagramWire records))
      = Run.run (DtlsClientSession.deliver C) s ((datagramMessages records).map FlightMessage.delivery) := by
  induction records generalizing s with
  | nil =>
    have hnil : s.datagramDeliveries C (datagramWire []) = [] := datagramDeliveries_nil
    rw [hnil]
    exact ⟨Iff.rfl, rfl⟩
  | cons r records ih =>
    by_cases hfail : s.state = .failed
    · rw [datagramDeliveries_of_failed hfail]
      exact ⟨iff_of_true (guarded_nil s) (guarded_of_failed hfail _), (run_of_failed hfail _).symm⟩
    · have hdel : s.datagramDeliveries C (datagramWire (r :: records)) = r.messages.map FlightMessage.delivery
          ++ (Run.run (DtlsClientSession.deliver C) s (r.messages.map FlightMessage.delivery)).datagramDeliveries C
            (datagramWire records) := by
        rw [← recordDeliveries_flight]
        exact datagramDeliveries_encode hfail _ _ r.payload_lt r.sequenceNumber_lt
      have hmsg : (datagramMessages (r :: records)).map FlightMessage.delivery
          = r.messages.map FlightMessage.delivery ++ (datagramMessages records).map FlightMessage.delivery := by
        simp [datagramMessages]
      obtain ⟨hg, hr⟩ := ih (Run.run (DtlsClientSession.deliver C) s (r.messages.map FlightMessage.delivery))
      rw [hdel, hmsg, guarded_append, guarded_append, run_append, run_append, hg, hr]
      exact ⟨Iff.rfl, rfl⟩

theorem schedule_deliveries (s : DtlsClientSession) (schedule : List (List FlightRecord)) :
    Guarded (DtlsClientSession.deliver C) (KeysOver C before flight) s (s.deliveries C (schedule.map datagramWire)) ↔
      Guarded (DtlsClientSession.deliver C) (KeysOver C before flight) s
        ((schedule.flatMap datagramMessages).map FlightMessage.delivery) := by
  induction schedule generalizing s with
  | nil => exact Iff.rfl
  | cons records schedule ih =>
    obtain ⟨hg, hr⟩ := datagram_deliveries (C := C) before flight s records
    rw [List.map_cons, deliveries, List.flatMap_cons, List.map_append, guarded_append, guarded_append, hg,
      processDatagram_eq_run, hr, ih]

theorem mem_messages_of_schedule (F : ServerFlight C pin priv) {schedule : List (List FlightRecord)}
    (hschedule : ∀ datagram ∈ schedule, datagram ∈ F.packing) :
    ∀ m ∈ schedule.flatMap datagramMessages, m ∈ F.messages := by
  intro m hm
  obtain ⟨records, hrec, hmem⟩ := List.mem_flatMap.1 hm
  rw [messages, ← F.packed]
  exact List.mem_flatMap.2 ⟨records, hschedule records hrec, hmem⟩

/-- **The keys over schedules, exactly.**  For a client that waits for the flight, and any schedule of its
datagrams, the keys are only ever derived over the flight, each message once and in order, if and only if the
messages arrive so. -/
theorem keys_over_flight_iff (C : Crypto) (pin priv : Bytes) (F : ServerFlight C pin priv) (s : DtlsClientSession)
    (hs : s.AwaitsFlight pin priv)
    (hencrypt : ∀ cipher data seq type version, (C.encrypt cipher data seq type version).isSome)
    (schedule : List (List FlightRecord)) (hschedule : ∀ datagram ∈ schedule, datagram ∈ F.packing) :
    Guarded (DtlsClientSession.deliver C) (KeysOver C s.handshakeTranscript F.messages) s
        (s.deliveries C (schedule.map datagramWire))
      ↔ OrderedOnce F (schedule.flatMap datagramMessages) := by
  rw [schedule_deliveries]
  exact keys_over_messages_iff ⟨hs.live, hs.pinned, hs.ecdhPrivate.1, rfl, hs.noPoint⟩ hs.ecdhPrivate.2 hencrypt
    (mem_messages_of_schedule F hschedule)

/-! ### The two Finished -/

/-- Where a ServerHelloDone derives keys, the client's Finished is over the transcript from before the flight, the
messages `flight`, each once and in order, and the client's own. -/
def FinishedOver (C : Crypto) (before : Bytes) (flight : List FlightMessage) (s : DtlsClientSession) : Delivery → Prop
  | .handshake _ msgType body =>
    msgType = kHsServerHelloDone → s.state ≠ .failed →
      ∀ s', s' = (s.sendClientFlight C body).1.deriveKeysAndCipher C → s'.state ≠ .failed →
        s'.buildFinishedBody C s'.handshakeTranscript true = tlsPrf C s'.masterSecret "client finished"
          (C.sha256 (before ++ transcriptOf flight ++ s.clientMessages C body)) kVerifyDataLength
  | _ => True

theorem finishedOver_of_keysOver {d : Delivery} (h : KeysOver C before flight s d) :
    FinishedOver C before flight s d := by
  cases d with
  | handshake o msgType body =>
    rintro htype hlive s' rfl hsucc
    rw [deriveKeysAndCipher_transcript, h htype hlive hsucc]
    rfl
  | changeCipherSpec => trivial
  | failure => trivial

/-- In a schedule whose messages arrive in order and once, the client's Finished is over the flight. -/
theorem finished_over_flight {C : Crypto} {pin priv : Bytes} (F : ServerFlight C pin priv) {s : DtlsClientSession}
    (hs : s.AwaitsFlight pin priv)
    (hencrypt : ∀ cipher data seq type version, (C.encrypt cipher data seq type version).isSome)
    {schedule : List (List FlightRecord)} (hschedule : ∀ datagram ∈ schedule, datagram ∈ F.packing)
    (hordered : OrderedOnce F (schedule.flatMap datagramMessages)) :
    Guarded (DtlsClientSession.deliver C) (FinishedOver C s.handshakeTranscript F.messages) s
      (s.deliveries C (schedule.map datagramWire)) := by
  have hkeys := (keys_over_messages_iff ⟨hs.live, hs.pinned, hs.ecdhPrivate.1, rfl, hs.noPoint⟩ hs.ecdhPrivate.2 hencrypt
    (mem_messages_of_schedule F hschedule)).2 hordered
  exact (schedule_deliveries s schedule |>.2 hkeys).mono fun _ _ => finishedOver_of_keysOver

theorem Progress.masterSecret_deliver {m : FlightMessage} (h : Progress pin priv s T P) (hm : m ∈ F.messages)
    (hdone : m ≠ F.serverHelloDone) : (s.deliver C m.delivery).masterSecret = s.masterSecret := by
  rw [FlightMessage.delivery, deliver_handshake h.live]
  rcases F.mem_messages.1 hm with rfl | rfl | rfl | hreq | rfl
  · rw [F.serverHello_ok.1]
    show (s.handleServerHello F.serverHello.body).masterSecret = _
    unfold handleServerHello
    split
    · rfl
    · split_ifs <;> rfl
  · rw [F.certificate_ok.1]
    show (s.handleCertificate C F.certificate.body).masterSecret = _
    unfold handleCertificate
    split
    · rfl
    · split
      · rfl
      · dsimp only
        split_ifs <;> rfl
  · rw [F.serverKeyExchange_ok.1]
    show (s.handleServerKeyExchange F.serverKeyExchange.body).masterSecret = _
    unfold handleServerKeyExchange
    split
    · rfl
    · split_ifs <;> rfl
  · rw [F.certificateRequest_ok m hreq]
    rfl
  · exact absurd rfl hdone

/-- **Duplicates behind the keys.**  They still enter the transcript, so the server's Finished is accepted only if it is
over them as well. -/
theorem established_iff_of_duplicates {ms : List FlightMessage} (h : Progress pin priv s T P)
    (hm : ∀ m ∈ ms, m ∈ F.messages) (hdone : F.serverHelloDone ∉ ms) (verifyData : Bytes) :
    ((run (DtlsClientSession.deliver C) s (ms.map FlightMessage.delivery)).handleFinished C verifyData).state
        = .established ↔
      verifyData = tlsPrf C s.masterSecret "server finished" (C.sha256 (T ++ transcriptOf ms)) kVerifyDataLength := by
  have hsecret : (run (DtlsClientSession.deliver C) s (ms.map FlightMessage.delivery)).masterSecret = s.masterSecret := by
    clear verifyData
    induction ms generalizing s T P with
    | nil => rfl
    | cons m ms ih =>
      have hne : m ≠ F.serverHelloDone := fun heq => hdone (heq ▸ List.mem_cons_self)
      rw [List.map_cons, run_cons, ih (h.deliver (hm m List.mem_cons_self) hne)
        (fun m' hm' => hm m' (List.mem_cons_of_mem _ hm')) fun hmem => hdone (List.mem_cons_of_mem _ hmem)]
      exact h.masterSecret_deliver (hm m List.mem_cons_self) hne
  have htranscript := (h.run hm hdone).transcript_eq
  generalize run (DtlsClientSession.deliver C) s (ms.map FlightMessage.delivery) = s' at hsecret htranscript
  rw [← hsecret, ← htranscript]
  unfold handleFinished
  dsimp only
  constructor
  · intro hestablished
    split_ifs at hestablished with hbad
    · cases hestablished
    · exact not_not.1 fun hne => hbad (.inr hne)
  · rintro rfl
    rw [if_neg]
    rintro (hlength | hne)
    · exact hlength (length_tlsPrf ..)
    · exact hne rfl

end ServerFlight

namespace DtlsClientSession

theorem awaitsFlight_initiate (ourCert : EcdsaP256KeyPair) (peerFingerprint : List Char) (draws : InitiateDraws) :
    AwaitsFlight ((create ourCert peerFingerprint).initiate draws).1 (parseHexFingerprint peerFingerprint)
      draws.ecdhPrivate where
  live h := by cases h
  pinned := rfl
  ecdhPrivate := ⟨rfl, draws.ecdhPrivate_length⟩
  noPoint := rfl

theorem AwaitsFlight.helloVerifyRequest {s : DtlsClientSession} {pin priv : Bytes} (h : s.AwaitsFlight pin priv)
    {body : Bytes} (hok : (s.handleHelloVerifyRequest body).1.state ≠ .failed) :
    (s.handleHelloVerifyRequest body).1.AwaitsFlight pin priv := by
  refine ⟨hok, ?_, ?_, ?_⟩
  · unfold handleHelloVerifyRequest
    split <;> exact h.pinned
  · unfold handleHelloVerifyRequest
    split <;> exact h.ecdhPrivate
  · unfold handleHelloVerifyRequest
    split <;> exact h.noPoint

/-! ### A flight in two datagrams -/

instance (C : Crypto) (before : Bytes) (flight : List FlightMessage) (s : DtlsClientSession) :
    ∀ d, Decidable (KeysOver C before flight s d)
  | .changeCipherSpec => inferInstanceAs (Decidable True)
  | .failure _ => inferInstanceAs (Decidable True)
  | .handshake _ msgType body =>
    inferInstanceAs (Decidable (msgType = kHsServerHelloDone → s.state ≠ .failed →
      ((s.sendClientFlight C body).1.deriveKeysAndCipher C).state ≠ .failed →
      (s.sendClientFlight C body).1.handshakeTranscript
        = before ++ transcriptOf flight ++ s.clientMessages C body))

/-- ServerHello and Certificate, in a record each. -/
def nullDatagram₁ : List FlightRecord :=
  [{ sequenceNumber := 0
     messages := [⟨kHsServerHello, 0,
      storeBE16 kDtlsVersion12 ++ List.replicate 32 7 ++ [0] ++ storeBE16 kCsEcdheEcdsaAes128GcmSha256 ++ [0]⟩]
     sequenceNumber_lt := by decide
     payload_lt := by decide },
   { sequenceNumber := 1
     messages := [⟨kHsCertificate, 1, storeBE24 4 ++ storeBE24 1 ++ [0x30]⟩]
     sequenceNumber_lt := one_lt_sequenceNumbers
     payload_lt := by decide }]

/-- ServerKeyExchange and ServerHelloDone, in one record. -/
def nullDatagram₂ : List FlightRecord :=
  [{ sequenceNumber := 2
     messages := [⟨kHsServerKeyExchange, 2,
        [0x03] ++ storeBE16 kNgSecp256r1 ++ [65, 0x04] ++ List.replicate 64 9 ++ [4, 3] ++ storeBE16 0⟩,
      ⟨kHsServerHelloDone, 3, []⟩]
     sequenceNumber_lt := by decide
     payload_lt := by decide }]

def nullFlight : ServerFlight nullCrypto (List.replicate 32 0) (List.replicate 32 0) where
  serverHello := ⟨kHsServerHello, 0,
    storeBE16 kDtlsVersion12 ++ List.replicate 32 7 ++ [0] ++ storeBE16 kCsEcdheEcdsaAes128GcmSha256 ++ [0]⟩
  certificate := ⟨kHsCertificate, 1, storeBE24 4 ++ storeBE24 1 ++ [0x30]⟩
  serverKeyExchange := ⟨kHsServerKeyExchange, 2,
    [0x03] ++ storeBE16 kNgSecp256r1 ++ [65, 0x04] ++ List.replicate 64 9 ++ [4, 3] ++ storeBE16 0⟩
  certificateRequest := none
  serverHelloDone := ⟨kHsServerHelloDone, 3, []⟩
  packing := [nullDatagram₁, nullDatagram₂]
  packed := rfl
  increasing := by decide
  serverHello_ok := ⟨rfl, _, rfl, by decide⟩
  certificate_ok := ⟨rfl, [0x30], [], by decide +kernel, rfl⟩
  serverKeyExchange_ok := ⟨rfl, _, rfl, by decide, by decide, by decide, rfl⟩
  certificateRequest_ok := ServerFlight.no_certificateRequest
  serverHelloDone_ok := rfl

/-- A duplicate of the first datagram enters the transcript twice. -/
theorem keys_over_duplicated_flight :
    ¬ Guarded (deliver nullCrypto) (KeysOver nullCrypto nullSession.handshakeTranscript nullFlight.messages) nullSession
      (nullSession.deliveries nullCrypto ([nullDatagram₁, nullDatagram₁, nullDatagram₂].map datagramWire)) := by
  decide +kernel

/-- In order, the keys are derived, and over the flight. -/
theorem keys_over_flight_null :
    (nullSession.processDatagrams nullCrypto ([nullDatagram₁, nullDatagram₂].map datagramWire)).state = .sentFinished ∧
      Guarded (deliver nullCrypto) (KeysOver nullCrypto nullSession.handshakeTranscript nullFlight.messages) nullSession
        (nullSession.deliveries nullCrypto ([nullDatagram₁, nullDatagram₂].map datagramWire)) := by
  refine ⟨by decide +kernel, ?_⟩
  refine (ServerFlight.keys_over_flight_iff nullCrypto _ _ nullFlight nullSession
    (awaitsFlight_initiate {} (List.replicate 64 '0') _) (fun _ _ _ _ _ => rfl) [nullDatagram₁, nullDatagram₂]
    (fun _ => id)).2 (.inr ⟨nullFlight.messages.dropLast, [], by decide, by decide, fun _ => ⟨by decide, by decide⟩⟩)

end DtlsClientSession

end VianiumVoip.Dtls
