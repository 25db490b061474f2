import VianiumVoip.Dtls.TranscriptBytes

/-!
# The session hash of the extended master secret

With `extended_master_secret` the master secret is derived from the hash of the handshake messages up to and
including ClientKeyExchange.  The client derives its keys after it has also entered CertificateVerify in its
transcript, and hashes all of it.

`Handshake.session_hash_never`: in no handshake does it hash what a server hashes that stops where it should, whether
the messages are taken with the client's four-byte headers or as they are on the wire.
-/

namespace VianiumVoip.Dtls

open VianiumVoip.Lib VianiumVoip.Lib.Run VianiumVoip.Cert
open DtlsClientSession

/-- **A handshake with `extended_master_secret`**: any number of HelloVerifyRequests, then the server's flight,
in order, whose ServerHello echoes the extension. -/
structure Handshake (C : Crypto) where
  ourCert : EcdsaP256KeyPair
  peerFingerprint : List Char
  draws : InitiateDraws
  /-- Their bodies, in the order in which they arrive. -/
  helloVerifyRequests : List Bytes
  flight : ServerFlight C (parseHexFingerprint peerFingerprint) draws.ecdhPrivate
  serverHello : ServerHello
  premaster : Bytes
  helloVerifyRequests_ok : ∀ body ∈ helloVerifyRequests, (HelloVerifyRequestCodec.decode body).isSome
  serverHello_eq : ServerHelloCodec.decode flight.serverHello.body = some serverHello
  echoed : serverHello.extendedMasterSecret = true
  premaster_eq : C.computeSharedSecret draws.ecdhPrivate flight.point = some premaster

namespace Handshake

variable {C : Crypto} (h : Handshake C)

/-! ### The client's side -/

def initiated : DtlsClientSession := ((create h.ourCert h.peerFingerprint).initiate h.draws).1

/-- The client after the HelloVerifyRequests. -/
def waiting : DtlsClientSession :=
  run (deliver C) h.initiated (h.helloVerifyRequests.map (.handshake .plaintext kHsHelloVerifyRequest))

/-- The messages of the flight before ServerHelloDone. -/
def beforeDone : List FlightMessage :=
  [h.flight.serverHello, h.flight.certificate, h.flight.serverKeyExchange] ++ h.flight.certificateRequest.toList

/-- The client when ServerHelloDone arrives. -/
def ready : DtlsClientSession := run (deliver C) h.waiting (h.beforeDone.map FlightMessage.delivery)

/-- The client after its answer. -/
def client : DtlsClientSession := deliver C h.ready h.flight.serverHelloDone.delivery

/-- The bytes whose hash goes into the client's master secret. -/
def sessionHashInput : Bytes :=
  (h.ready.sendClientFlight C h.flight.serverHelloDone.body).1.handshakeTranscript

/-! ### The handshake, message by message -/

/-- The last ClientHello, with the cookie if there was one. -/
def clientHello : FlightMessage where
  msgType := kHsClientHello
  messageSeq := h.waiting.clientMessageSeq - 1
  body := h.waiting.buildClientHelloBody !h.helloVerifyRequests.isEmpty

/-- The client's answer: Certificate, ClientKeyExchange and CertificateVerify. -/
def answer : List FlightMessage := h.ready.clientFlight C h.flight.serverHelloDone.body

/-- **What the session hash is over**: the handshake from the last ClientHello up to and including
ClientKeyExchange. -/
def throughKeyExchange : List FlightMessage := [h.clientHello] ++ h.flight.messages ++ h.answer.take 2

/-! ### The server's side -/

/-- The extended master secret over some session hash input. -/
def masterSecretOver (transcript : Bytes) : Bytes :=
  tlsPrf C h.premaster "extended master secret" (C.sha256 transcript) 48

/-- The key block of a master secret. -/
def keyBlockOf (masterSecret : Bytes) : Bytes :=
  tlsPrf C masterSecret "key expansion" (h.serverHello.random ++ h.draws.random) (2 * 16 + 2 * 4)

/-- The client hashes the bytes `transcript`, and so has the master secret and the four keys of a server that hashes
them. -/
structure Agrees (transcript : Bytes) : Prop where
  hashed : h.sessionHashInput = transcript
  masterSecret : h.client.masterSecret = h.masterSecretOver transcript
  keys : h.client.clientWriteKey ++ h.client.serverWriteKey ++ h.client.clientWriteIv ++ h.client.serverWriteIv
    = h.keyBlockOf (h.masterSecretOver transcript)

end Handshake

/-! ### What the session keeps on the way -/

/-- The fields of the session that are set once, by `Initiate`. -/
structure SetUp (ourCert : EcdsaP256KeyPair) (pin : Bytes) (draws : InitiateDraws) (s : DtlsClientSession) : Prop where
  live : s.state ≠ .failed
  ourCert_eq : s.ourCert = ourCert
  pinned : s.expectedPeerFingerprint = pin
  clientRandom_eq : s.clientRandom = draws.random
  ecdhPrivate_eq : s.ourEcdhPrivate = draws.ecdhPrivate
  ecdhPublic_eq : s.ourEcdhPublic = draws.ecdhPublic

namespace SetUp

variable {C : Crypto} {ourCert : EcdsaP256KeyPair} {pin : Bytes} {draws : InitiateDraws} {s : DtlsClientSession}

theorem initiate (ourCert : EcdsaP256KeyPair) (peerFingerprint : List Char) (draws : InitiateDraws) :
    SetUp ourCert (parseHexFingerprint peerFingerprint) draws
      ((create ourCert peerFingerprint).initiate draws).1 where
  live h := by cases h
  ourCert_eq := rfl
  pinned := rfl
  clientRandom_eq := rfl
  ecdhPrivate_eq := rfl
  ecdhPublic_eq := rfl

theorem length_cookie {body : Bytes} {hvr : HelloVerifyRequest} (h : HelloVerifyRequestCodec.decode body = some hvr) :
    hvr.cookie.length < 256 := by
  unfold HelloVerifyRequestCodec.decode at h
  dsimp only at h
  split_ifs at h
  obtain rfl := Option.some.inj h
  exact (List.length_take_le _ _).trans_lt (UInt8.toNat_lt _)

theorem helloVerifyRequest (h : SetUp ourCert pin draws s) {body : Bytes}
    (hbody : (HelloVerifyRequestCodec.decode body).isSome) :
    SetUp ourCert pin draws (deliver C s (.handshake .plaintext kHsHelloVerifyRequest body)) ∧
      (deliver C s (.handshake .plaintext kHsHelloVerifyRequest body)).handshakeTranscript
        = tlsLikeTranscriptBytes kHsClientHello
            ((deliver C s (.handshake .plaintext kHsHelloVerifyRequest body)).buildClientHelloBody true) ∧
      (deliver C s (.handshake .plaintext kHsHelloVerifyRequest body)).cookie.length < 256 := by
  obtain ⟨hvr, hdec⟩ := Option.isSome_iff_exists.1 hbody
  have hstep : deliver C s (.handshake .plaintext kHsHelloVerifyRequest body)
      = (s.handleHelloVerifyRequest body).1 := by
    rw [deliver_handshake h.live]
    rfl
  rw [hstep]
  unfold handleHelloVerifyRequest
  rw [hdec]
  exact ⟨⟨(fun hf => by cases hf), h.ourCert_eq, h.pinned, h.clientRandom_eq, h.ecdhPrivate_eq, h.ecdhPublic_eq⟩, rfl,
    length_cookie hdec⟩

end SetUp

namespace Handshake

variable {C : Crypto} (h : Handshake C)

/-- While the client waits for the flight, its transcript is its last ClientHello, and its cookie is short. -/
theorem waiting_spec :
    SetUp h.ourCert (parseHexFingerprint h.peerFingerprint) h.draws h.waiting ∧
      h.waiting.handshakeTranscript = transcriptOf [h.clientHello] ∧ h.waiting.cookie.length < 256 := by
  rw [transcriptOf_singleton]
  unfold clientHello waiting
  have hok := h.helloVerifyRequests_ok
  generalize h.helloVerifyRequests = hvrs at hok ⊢
  induction hvrs using List.reverseRecOn with
  | nil => exact ⟨SetUp.initiate .., rfl, Nat.zero_lt_succ _⟩
  | append_singleton hvrs body ih =>
    obtain ⟨hset, -⟩ := ih fun b hb => hok b (List.mem_append_left _ hb)
    obtain ⟨hset', htranscript, hshort⟩ := hset.helloVerifyRequest (C := C) (hok body (by simp))
    have hcookie : (!(hvrs ++ [body]).isEmpty) = true := by simp
    rw [List.map_append, List.map_singleton, run_concat, hcookie]
    exact ⟨hset', htranscript, hshort⟩

/-! ### The server's flight -/

variable {h} {s : DtlsClientSession}

/-- What the handshake fixes in the client. -/
abbrev Ready (h : Handshake C) : DtlsClientSession → Prop :=
  SetUp h.ourCert (parseHexFingerprint h.peerFingerprint) h.draws

/-- ServerHello negotiates the extension and brings the server's random. -/
theorem deliver_serverHello (hs : h.Ready s) :
    h.Ready (deliver C s h.flight.serverHello.delivery) ∧
      (deliver C s h.flight.serverHello.delivery).extendedMasterSecret = true ∧
      (deliver C s h.flight.serverHello.delivery).serverRandom = h.serverHello.random := by
  obtain ⟨htype, sh, hdec, hsuite⟩ := h.flight.serverHello_ok
  obtain rfl : h.serverHello = sh := Option.some.inj (h.serverHello_eq.symm.trans hdec)
  have hstep : deliver C s h.flight.serverHello.delivery = s.handleServerHello h.flight.serverHello.body := by
    rw [FlightMessage.delivery, deliver_handshake hs.live, htype]
    rfl
  rw [hstep]
  unfold handleServerHello
  simp only [hdec, hsuite, ne_eq, not_true_eq_false, if_false]
  exact ⟨⟨(fun hf => by cases hf), hs.ourCert_eq, hs.pinned, hs.clientRandom_eq, hs.ecdhPrivate_eq,
    hs.ecdhPublic_eq⟩, h.echoed, rfl⟩

theorem deliver_rest {m : FlightMessage} (hs : h.Ready s)
    (hm : m = h.flight.certificate ∨ m = h.flight.serverKeyExchange ∨ m ∈ h.flight.certificateRequest) :
    h.Ready (deliver C s m.delivery) ∧
      (deliver C s m.delivery).extendedMasterSecret = s.extendedMasterSecret ∧
      (deliver C s m.delivery).serverRandom = s.serverRandom := by
  rw [FlightMessage.delivery, deliver_handshake hs.live]
  rcases hm with rfl | rfl | hreq
  · obtain ⟨htype, leaf, rest, hdec, hpin⟩ := h.flight.certificate_ok
    rw [← hs.pinned] at hpin
    rw [htype]
    show h.Ready (s.handleCertificate C h.flight.certificate.body) ∧
      (s.handleCertificate C h.flight.certificate.body).extendedMasterSecret = _ ∧
      (s.handleCertificate C h.flight.certificate.body).serverRandom = _
    simp only [handleCertificate, hdec, hpin, ne_eq, not_true_eq_false, if_false]
    exact ⟨⟨(fun hf => by cases hf), hs.ourCert_eq, hs.pinned, hs.clientRandom_eq, hs.ecdhPrivate_eq,
      hs.ecdhPublic_eq⟩, rfl, rfl⟩
  · obtain ⟨htype, ske, hdec, hcurve, hlen, hhead, -⟩ := h.flight.serverKeyExchange_ok
    rw [htype]
    show h.Ready (s.handleServerKeyExchange h.flight.serverKeyExchange.body) ∧
      (s.handleServerKeyExchange h.flight.serverKeyExchange.body).extendedMasterSecret = _ ∧
      (s.handleServerKeyExchange h.flight.serverKeyExchange.body).serverRandom = _
    simp only [handleServerKeyExchange, hdec, hcurve, hlen, hhead, ne_eq, not_true_eq_false, or_self, if_false]
    exact ⟨⟨(fun hf => by cases hf), hs.ourCert_eq, hs.pinned, hs.clientRandom_eq, hs.ecdhPrivate_eq,
      hs.ecdhPublic_eq⟩, rfl, rfl⟩
  · rw [h.flight.certificateRequest_ok m hreq]
    exact ⟨⟨hs.live, hs.ourCert_eq, hs.pinned, hs.clientRandom_eq, hs.ecdhPrivate_eq, hs.ecdhPublic_eq⟩, rfl, rfl⟩

theorem run_rest {ms : List FlightMessage} (hs : h.Ready s)
    (hms : ∀ m ∈ ms, m = h.flight.certificate ∨ m = h.flight.serverKeyExchange ∨ m ∈ h.flight.certificateRequest) :
    h.Ready (run (deliver C) s (ms.map FlightMessage.delivery)) ∧
      (run (deliver C) s (ms.map FlightMessage.delivery)).extendedMasterSecret = s.extendedMasterSecret ∧
      (run (deliver C) s (ms.map FlightMessage.delivery)).serverRandom = s.serverRandom := by
  induction ms generalizing s with
  | nil => exact ⟨hs, rfl, rfl⟩
  | cons m ms ih =>
    obtain ⟨hready, hems, hrandom⟩ := deliver_rest hs (hms m List.mem_cons_self)
    obtain ⟨hready', hems', hrandom'⟩ := ih hready fun m' hm' => hms m' (List.mem_cons_of_mem _ hm')
    exact ⟨hready', hems'.trans hems, hrandom'.trans hrandom⟩

variable (h)

theorem messages_eq : h.flight.messages = h.beforeDone ++ [h.flight.serverHelloDone] := rfl

/-- **When ServerHelloDone arrives**, the extension and the server's random are in place, -/
theorem ready_negotiated :
    h.Ready h.ready ∧ h.ready.extendedMasterSecret = true ∧ h.ready.serverRandom = h.serverHello.random := by
  obtain ⟨hready, hems, hrandom⟩ := deliver_serverHello h.waiting_spec.1
  have hrest : ∀ m ∈ [h.flight.certificate, h.flight.serverKeyExchange] ++ h.flight.certificateRequest.toList,
      m = h.flight.certificate ∨ m = h.flight.serverKeyExchange ∨ m ∈ h.flight.certificateRequest := by simp
  obtain ⟨hready', hems', hrandom'⟩ := run_rest hready hrest
  exact ⟨hready', hems'.trans hems, hrandom'.trans hrandom⟩

/-- and the transcript is that of the flight so far. -/
theorem ready_transcript :
    h.ready.handshakeTranscript = transcriptOf [h.clientHello] ++ transcriptOf h.beforeDone ∧
      h.ready.serverPublicPoint = h.flight.point := by
  obtain ⟨hset, htranscript, -⟩ := h.waiting_spec
  have hstart : ServerFlight.Progress (parseHexFingerprint h.peerFingerprint) h.draws.ecdhPrivate h.waiting
      (transcriptOf [h.clientHello]) h.waiting.serverPublicPoint :=
    ⟨hset.live, hset.pinned, hset.ecdhPrivate_eq, htranscript, rfl⟩
  have hmem : ∀ m ∈ h.beforeDone, m ∈ h.flight.messages := by
    intro m hm
    rw [messages_eq]
    exact List.mem_append_left _ hm
  have hdone : h.flight.serverHelloDone ∉ h.beforeDone := by
    intro hmem
    have hpair := h.flight.increasing
    have hsplit : [h.flight.serverHello, h.flight.certificate, h.flight.serverKeyExchange]
        ++ h.flight.certificateRequest.toList = h.beforeDone := rfl
    rw [hsplit, List.map_append, List.pairwise_append] at hpair
    exact lt_irrefl _ (hpair.2.2 _ (List.mem_map_of_mem hmem) _ (by simp))
  have hrun := hstart.run hmem hdone
  rw [if_pos (by simp [beforeDone])] at hrun
  exact ⟨hrun.transcript_eq, hrun.point_eq⟩

/-! ### The client's answer -/

/-- **The bytes the client hashes**: CertificateVerify comes after what the session hash is over. -/
theorem sessionHashInput_eq :
    h.sessionHashInput = transcriptOf h.throughKeyExchange ++ transcriptOf (h.answer.drop 2) := by
  obtain ⟨htranscript, -⟩ := h.ready_transcript
  rw [throughKeyExchange, ← transcriptOf_append, List.append_assoc, List.take_append_drop, messages_eq]
  simp only [transcriptOf_append]
  rw [sessionHashInput, sendClientFlight_transcript, htranscript, answer, clientFlight_transcript,
    transcriptOf_singleton h.flight.serverHelloDone, h.flight.serverHelloDone_ok]
  simp only [List.append_assoc]

theorem certificateVerify_ne_nil : transcriptOf (h.answer.drop 2) ≠ [] := List.cons_ne_nil _ _

theorem buildClientFinishedFlight_secrets (s : DtlsClientSession) :
    (s.buildClientFinishedFlight C).1.masterSecret = s.masterSecret ∧
      (s.buildClientFinishedFlight C).1.clientWriteKey ++ (s.buildClientFinishedFlight C).1.serverWriteKey
          ++ (s.buildClientFinishedFlight C).1.clientWriteIv ++ (s.buildClientFinishedFlight C).1.serverWriteIv
        = s.clientWriteKey ++ s.serverWriteKey ++ s.clientWriteIv ++ s.serverWriteIv := by
  unfold buildClientFinishedFlight
  dsimp only
  split <;> exact ⟨rfl, rfl⟩

theorem installKeys_secrets (s : DtlsClientSession) {keyBlock : Bytes} (hlen : keyBlock.length = 40) :
    (s.installKeys keyBlock).clientWriteKey ++ (s.installKeys keyBlock).serverWriteKey
      ++ (s.installKeys keyBlock).clientWriteIv ++ (s.installKeys keyBlock).serverWriteIv = keyBlock := by
  have hlast : (keyBlock.drop 36).take 4 = keyBlock.drop 36 := List.take_of_length_le (by simp [hlen])
  have hiv : (keyBlock.drop 32).take 4 ++ keyBlock.drop 36 = keyBlock.drop 32 := by
    rw [← List.drop_drop (i := 4) (j := 32), List.take_append_drop]
  have hkey : (keyBlock.drop 16).take 16 ++ keyBlock.drop 32 = keyBlock.drop 16 := by
    rw [← List.drop_drop (i := 16) (j := 16), List.take_append_drop]
  simp only [installKeys]
  rw [hlast, List.append_assoc, hiv, List.append_assoc, hkey, List.take_append_drop]

theorem sendClientFlight_inputs (s : DtlsClientSession) (body : Bytes) :
    (s.sendClientFlight C body).1.serverPublicPoint = s.serverPublicPoint ∧
      (s.sendClientFlight C body).1.ourEcdhPrivate = s.ourEcdhPrivate ∧
      (s.sendClientFlight C body).1.extendedMasterSecret = s.extendedMasterSecret ∧
      (s.sendClientFlight C body).1.clientRandom = s.clientRandom ∧
      (s.sendClientFlight C body).1.serverRandom = s.serverRandom ∧
      (s.sendClientFlight C body).1.state = .sentClientKeyExchange := ⟨rfl, rfl, rfl, rfl, rfl, rfl⟩

/-- The client's master secret is over those bytes, and its keys are cut from the key block. -/
theorem client_keys :
    h.client.masterSecret = h.masterSecretOver h.sessionHashInput ∧
      h.client.clientWriteKey ++ h.client.serverWriteKey ++ h.client.clientWriteIv ++ h.client.serverWriteIv
        = h.keyBlockOf (h.masterSecretOver h.sessionHashInput) := by
  obtain ⟨hready, hems, hrandom⟩ := h.ready_negotiated
  obtain ⟨-, hpoint⟩ := h.ready_transcript
  obtain ⟨hpoint', hpriv', hems', hclient', hserver', hstate'⟩ :=
    sendClientFlight_inputs (C := C) h.ready h.flight.serverHelloDone.body
  rw [hpoint] at hpoint'
  rw [hready.ecdhPrivate_eq] at hpriv'
  rw [hems] at hems'
  rw [hready.clientRandom_eq] at hclient'
  rw [hrandom] at hserver'
  have hinput : h.sessionHashInput
      = (h.ready.sendClientFlight C h.flight.serverHelloDone.body).1.handshakeTranscript := rfl
  have hanswer : h.client = (h.ready.handleServerHelloDone C h.flight.serverHelloDone.body).1 := by
    rw [client, FlightMessage.delivery, deliver_handshake hready.live, h.flight.serverHelloDone_ok]
    rfl
  rw [hanswer, hinput]
  unfold handleServerHelloDone
  dsimp only
  generalize (h.ready.sendClientFlight C h.flight.serverHelloDone.body).1 = s at *
  have hmaster : s.masterSecretFrom C h.premaster = h.masterSecretOver s.handshakeTranscript := by
    rw [masterSecretFrom, if_pos hems']
    rfl
  have hblock : ({ s with masterSecret := h.masterSecretOver s.handshakeTranscript } : DtlsClientSession).keyBlock C
      = h.keyBlockOf (h.masterSecretOver s.handshakeTranscript) := by
    simp only [keyBlock, keyBlockOf, hclient', hserver']
  have hecdh : C.computeSharedSecret s.ourEcdhPrivate s.serverPublicPoint = some h.premaster := by
    rw [hpoint', hpriv', h.premaster_eq]
  have hderive := deriveKeysAndCipher_eq (by rw [hpoint', h.flight.point_ok.1])
    (by rw [hpriv', h.draws.ecdhPrivate_length]) hecdh
  rw [hmaster, hblock] at hderive
  rw [hderive, if_neg (by simp [installKeys, hstate'])]
  obtain ⟨hsecret, hkeys⟩ := buildClientFinishedFlight_secrets (C := C) (installKeys
    { s with masterSecret := h.masterSecretOver s.handshakeTranscript }
    (h.keyBlockOf (h.masterSecretOver s.handshakeTranscript)))
  refine ⟨hsecret, hkeys.trans (installKeys_secrets _ ?_)⟩
  rw [keyBlockOf, length_tlsPrf]

end Handshake

/-! ### The bytes on the wire -/

/-- A string that reads the same behind a header repeats the header. -/
theorem getElem?_of_shift {header body r q : Bytes} (hheader : 0 < header.length)
    (h : body ++ r = header ++ (body ++ q)) {i : ℕ} (hi : i < body.length) :
    body[i]? = header[i % header.length]? := by
  induction i using Nat.strong_induction_on with
  | _ i ih =>
    have hbyte := congrArg (fun bytes : Bytes => bytes[i]?) h
    simp only [List.getElem?_append_left hi] at hbyte
    by_cases hlt : i < header.length
    · rw [hbyte, List.getElem?_append_left hlt, Nat.mod_eq_of_lt hlt]
    · have hle : header.length ≤ i := Nat.not_lt.1 hlt
      rw [hbyte, List.getElem?_append_right hle, List.getElem?_append_left (by omega), ih _ (by omega) (by omega),
        ← Nat.mod_eq_sub_mod hle]

/-- The ClientHello of a session. -/
def clientHelloOf (random cookie : Bytes) : ClientHello where
  random := random
  cookie := cookie
  cipherSuites := [kCsEcdheEcdsaAes128GcmSha256]
  compressionMethods := [0]
  supportedGroups := [kNgSecp256r1]
  ecPointFormats := [kEcPointFormatUncompressed]
  signatureAlgorithms := [kSigAlgEcdsaSecp256r1Sha256]
  srtpProtectionProfiles := [kSrtpAes128CmHmacSha1_80]
  extendedMasterSecret := true

/-- A ClientHello behind the length of its cipher suites. -/
def clientHelloRest : Bytes :=
  storeBE16 kCsEcdheEcdsaAes128GcmSha256 ++ [1, 0]
    ++ storeBE16 (UInt16.ofNat (ClientHelloCodec.extensions (clientHelloOf [] [])).length)
    ++ ClientHelloCodec.extensions (clientHelloOf [] [])

theorem buildClientHelloBody_eq (s : DtlsClientSession) (withCookie : Bool) :
    s.buildClientHelloBody withCookie = storeBE16 kDtlsVersion12 ++ s.clientRandom
      ++ ([0, UInt8.ofNat (if withCookie then s.cookie else []).length] ++ (if withCookie then s.cookie else [])
        ++ (storeBE16 2 ++ clientHelloRest)) := by
  have hextensions : ∀ random cookie, ClientHelloCodec.extensions (clientHelloOf random cookie)
      = ClientHelloCodec.extensions (clientHelloOf [] []) := fun _ _ => rfl
  have hbody : s.buildClientHelloBody withCookie
      = ClientHelloCodec.encode (clientHelloOf s.clientRandom (if withCookie then s.cookie else [])) := rfl
  rw [hbody, ClientHelloCodec.encode, hextensions]
  simp [clientHelloRest, clientHelloOf, ClientHelloCodec.u8Block, ClientHelloCodec.u16List]

/-- A ClientHello whose random has 32 bytes and whose cookie fits its length is not taken for one with a header of 12
bytes. -/
theorem tlsLike_clientHello_ne_wire {s : DtlsClientSession} {withCookie : Bool} {messageSeq : UInt16} {r q : Bytes}
    (hrandom : s.clientRandom.length = 32) (hcookie : s.cookie.length < 256) :
    tlsLikeTranscriptBytes kHsClientHello (s.buildClientHelloBody withCookie) ++ r ≠
      wrapHandshakeUnfragmented kHsClientHello messageSeq (s.buildClientHelloBody withCookie) ++ q := by
  intro heq
  have hbody := buildClientHelloBody_eq s withCookie
  have hrest : clientHelloRest.length < 256 := by decide +kernel
  have hshort : (if withCookie then s.cookie else []).length < 256 := by
    split_ifs
    · exact hcookie
    · exact Nat.zero_lt_succ _
  generalize (if withCookie then s.cookie else [] : Bytes) = cookie at hbody hshort
  generalize s.buildClientHelloBody withCookie = body at hbody heq
  have hlength : body.length = 38 + cookie.length + clientHelloRest.length := by
    rw [hbody]
    simp [hrandom]
    omega
  -- behind type and length the body starts, or eight more bytes of the header
  have hshift : body ++ r
      = (storeBE16 messageSeq ++ storeBE24 0 ++ storeBE24 (UInt32.ofNat body.length)) ++ (body ++ q) := by
    simpa [tlsLikeTranscriptBytes, wrapHandshakeUnfragmented, HandshakeHeaderCodec.encode] using heq
  have hheader : (storeBE16 messageSeq ++ storeBE24 0 ++ storeBE24 (UInt32.ofNat body.length)).length = 8 := by simp
  have hbyte : ∀ i < body.length, body[i]?
      = (storeBE16 messageSeq ++ storeBE24 0 ++ storeBE24 (UInt32.ofNat body.length))[i % 8]? := by
    intro i hi
    rw [getElem?_of_shift (by rw [hheader]; exact Nat.zero_lt_succ _) hshift hi, hheader]
  -- the body repeats those eight bytes: the length of its cookie is a byte of the fragment offset,
  have hcookieLength : body[35]? = some 0 := by
    rw [hbyte 35 (by omega)]
    rfl
  have hnil : cookie = [] := by
    rw [hbody, List.getElem?_append_right (by simp [hrandom])] at hcookieLength
    have hzero : UInt8.ofNat cookie.length = 0 := by simpa [hrandom] using hcookieLength
    have hmod := congrArg UInt8.toNat hzero
    rw [UInt8.toNat_ofNat'] at hmod
    exact List.eq_nil_of_length_eq_zero (by simpa [Nat.mod_eq_of_lt hshort] using hmod)
  subst hnil
  -- and the length of its cipher suites starts with the first byte of the fragment length
  have hsuites : body[37]? = some (UInt8.ofNat (body.length / 256 / 256)) := by
    rw [hbyte 37 (by omega)]
    show some (UInt8.ofNat ((UInt32.ofNat body.length).toNat / 256 / 256)) = _
    rw [UInt32.toNat_ofNat', Nat.mod_eq_of_lt (by omega)]
  have hlarge : body.length / 256 / 256 = 0 := by
    rw [List.length_nil] at hlength
    omega
  have hlow : body[37]? = (storeBE16 2)[1]? := by
    rw [hbody, List.getElem?_append_right (by simp [hrandom]), List.append_nil, List.length_append, length_storeBE16,
      hrandom]
    rfl
  rw [hlow, hlarge] at hsuites
  exact absurd hsuites (by decide)

namespace Handshake

variable {C : Crypto} (h : Handshake C)

/-- **Never what a server hashes.**  The client agrees with who hashes the handshake through CertificateVerify, and never
with a server that hashes it through ClientKeyExchange: not where that takes the messages with the client's headers, nor
where it takes them as they are on the wire. -/
theorem session_hash_never (C : Crypto) (h : Handshake C) :
    h.Agrees (transcriptOf (h.throughKeyExchange ++ h.answer.drop 2)) ∧
      ¬ h.Agrees (transcriptOf h.throughKeyExchange) ∧ ¬ h.Agrees (wireTranscript h.throughKeyExchange) := by
  have hinput := h.sessionHashInput_eq
  refine ⟨?_, fun hagrees => ?_, fun hagrees => ?_⟩
  · rw [transcriptOf_append, ← hinput]
    exact ⟨rfl, h.client_keys.1, h.client_keys.2⟩
  · exact h.certificateVerify_ne_nil (List.append_right_eq_self.1 (hinput.symm.trans hagrees.hashed))
  · obtain ⟨hset, -, hshort⟩ := h.waiting_spec
    have hrandom : h.waiting.clientRandom.length = 32 := by rw [hset.clientRandom_eq, h.draws.random_length]
    have hlike : transcriptOf h.throughKeyExchange = tlsLikeTranscriptBytes kHsClientHello h.clientHello.body
        ++ transcriptOf (h.flight.messages ++ h.answer.take 2) := by
      rw [throughKeyExchange, List.append_assoc, List.singleton_append]
      exact List.flatMap_cons
    have hwire : wireTranscript h.throughKeyExchange
        = h.clientHello.wire ++ wireTranscript (h.flight.messages ++ h.answer.take 2) := by
      rw [throughKeyExchange, List.append_assoc, List.singleton_append]
      exact List.flatMap_cons
    have hhashed := hinput.symm.trans hagrees.hashed
    rw [hlike, hwire, List.append_assoc] at hhashed
    exact tlsLike_clientHello_ne_wire hrandom hshort hhashed

end Handshake

/-! ### A handshake with a cookie -/

/-- A library whose digests tell lengths apart and whose PRF repeats its seed. -/
def lengthCrypto : Crypto :=
  { nullCrypto with
    sha256 := fun data => List.replicate 32 (UInt8.ofNat data.length)
    sha256_length := fun _ => List.length_replicate
    prf := fun _ _ seed n => List.replicate n (seed.getD 0 0)
    prf_length := fun _ _ _ _ => List.length_replicate }

/-- The server's flight in one record; its ServerHello carries `extended_master_secret`. -/
def echoingRecord : FlightRecord where
  sequenceNumber := 1
  messages :=
    [⟨kHsServerHello, 1, storeBE16 kDtlsVersion12 ++ List.replicate 32 7 ++ [0]
        ++ storeBE16 kCsEcdheEcdsaAes128GcmSha256 ++ [0] ++ storeBE16 4 ++ storeBE16 kExtExtendedMasterSecret
        ++ storeBE16 0⟩,
      ⟨kHsCertificate, 2, storeBE24 4 ++ storeBE24 1 ++ [0x30]⟩,
      ⟨kHsServerKeyExchange, 3,
        [0x03] ++ storeBE16 kNgSecp256r1 ++ [65, 0x04] ++ List.replicate 64 9 ++ [4, 3] ++ storeBE16 0⟩,
      ⟨kHsServerHelloDone, 4, []⟩]
  sequenceNumber_lt := one_lt_sequenceNumbers
  payload_lt := by decide +kernel

def echoingServerHello : ServerHello where
  random := List.replicate 32 7
  cipherSuite := kCsEcdheEcdsaAes128GcmSha256
  extendedMasterSecret := true

def echoingFlight : ServerFlight lengthCrypto (List.replicate 32 1) (List.replicate 32 0) where
  serverHello := echoingRecord.messages[0]
  certificate := echoingRecord.messages[1]
  serverKeyExchange := echoingRecord.messages[2]
  certificateRequest := none
  serverHelloDone := echoingRecord.messages[3]
  packing := [[echoingRecord]]
  packed := rfl
  increasing := by decide
  serverHello_ok := ⟨rfl, echoingServerHello, by decide +kernel, rfl⟩
  certificate_ok := ⟨rfl, [0x30], [], by decide +kernel, rfl⟩
  serverKeyExchange_ok := ⟨rfl, _, rfl, by decide, by decide, by decide, rfl⟩
  certificateRequest_ok := ServerFlight.no_certificateRequest
  serverHelloDone_ok := rfl

def echoingHandshake : Handshake lengthCrypto where
  ourCert := {}
  peerFingerprint := (List.replicate 32 ['0', '1']).flatten
  draws := nullDraws
  helloVerifyRequests := [storeBE16 kDtlsVersion12 ++ [2, 5, 6]]
  flight := echoingFlight
  serverHello := echoingServerHello
  premaster := List.replicate 32 0
  helloVerifyRequests_ok := by decide
  serverHello_eq := by decide +kernel
  echoed := rfl
  premaster_eq := rfl

/-- Here the client and the server end with different master secrets. -/
theorem keys_differ_echoing : ¬ echoingHandshake.Agrees (transcriptOf echoingHandshake.throughKeyExchange) ∧
    ¬ echoingHandshake.Agrees (wireTranscript echoingHandshake.throughKeyExchange) :=
  ⟨fun hagrees => absurd hagrees.masterSecret (by decide +kernel),
    fun hagrees => absurd hagrees.masterSecret (by decide +kernel)⟩

end VianiumVoip.Dtls
