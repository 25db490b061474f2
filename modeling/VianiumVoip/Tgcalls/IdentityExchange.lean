import VianiumVoip.Dtls.Authentication
import VianiumVoip.Ice.Delivery
import VianiumVoip.Tgcalls.WireSignaling

/-!
# What the sides know of each other

`InitialSetup` carries the credentials of the ICE agent and the fingerprint of the certificate, and `Candidates` the
addresses.  Whatever happens on the way, what a side has of its peer is what the peer has announced: its agent and that of
the peer have crossed credentials, each pair is an address that the peer has announced, and the DTLS session is pinned to
the fingerprint of the peer.

The invariant is shown of the call over messages (`exchanged_run`), and holds of the packets by `wire_simulates`.
-/

namespace VianiumVoip.Dtls.DtlsClientSession

open VianiumVoip.Lib VianiumVoip.Lib.Run

/-! ### The pinned fingerprint -/

variable {C : Crypto} (s : DtlsClientSession)

theorem pin_handleHandshakeMessage (msgType : UInt8) (body : Bytes) :
    (s.handleHandshakeMessage C msgType body).1.expectedPeerFingerprint = s.expectedPeerFingerprint := by
  have hderive : ∀ s : DtlsClientSession,
      (s.deriveKeysAndCipher C).expectedPeerFingerprint = s.expectedPeerFingerprint := by
    intro s
    unfold deriveKeysAndCipher
    split_ifs
    · rfl
    · rfl
    · split
      · rfl
      · dsimp only
        split_ifs <;> rfl
  unfold handleHandshakeMessage
  split_ifs
  · unfold handleHelloVerifyRequest
    split <;> rfl
  · unfold handleServerHello
    split
    · rfl
    · split_ifs <;> rfl
  · unfold handleCertificate
    split
    · rfl
    · split
      · rfl
      · dsimp only
        split_ifs <;> rfl
  · unfold handleServerKeyExchange
    split
    · rfl
    · split_ifs <;> rfl
  · rfl
  · obtain ⟨-, -, hflight⟩ := sendClientFlight_sameTrust (C := C) s body
    have hkeys := hderive (s.sendClientFlight C body).1
    have hfinished := (buildClientFinishedFlight_cases (C := C) ((s.sendClientFlight C body).1.deriveKeysAndCipher C)).2
    unfold handleServerHelloDone
    dsimp only
    split_ifs
    · rw [hkeys, hflight]
    · rw [hfinished.2.2, hkeys, hflight]
  · unfold handleFinished
    dsimp only
    split_ifs <;> rfl
  · rfl

theorem pin_deliver (d : Delivery) : (s.deliver C d).expectedPeerFingerprint = s.expectedPeerFingerprint := by
  by_cases hfailed : s.state = .failed
  · rw [deliver_of_failed hfailed]
  · cases d with
    | handshake origin msgType body =>
      rw [deliver_handshake hfailed]
      exact pin_handleHandshakeMessage s msgType body
    | _ =>
      unfold deliver
      rw [if_neg hfailed]
      rfl

/-- **A session is pinned for good.** -/
theorem pin_processDatagram (data : Bytes) :
    (s.processDatagram C data).1.expectedPeerFingerprint = s.expectedPeerFingerprint := by
  rw [processDatagram_eq_run]
  exact invariant_run_of_step (I := fun s' : DtlsClientSession =>
    s'.expectedPeerFingerprint = s.expectedPeerFingerprint) (fun s' d h => (pin_deliver s' d).trans h) _ rfl

end VianiumVoip.Dtls.DtlsClientSession

namespace VianiumVoip.Tgcalls

open VianiumVoip.Lib VianiumVoip.Lib.Run VianiumVoip.Dtls VianiumVoip.Ice

/-! ### What a side knows -/

/-- The agent of `c` for `peer`. -/
def AgentFor (c peer : TgcallsConnection) (agent : IceAgent) : Prop :=
  agent.identity = (if c.isOutgoing then .controlling else .controlled, stringBytes c.localUfrag,
    stringBytes c.localPwd, stringBytes peer.localUfrag, stringBytes peer.localPwd)

/-- The agent knows what stands in the lines, and has its pairs from there. -/
structure Listed (lines : List String) (agent : IceAgent) : Prop where
  sound : agent.Sound
  known : ∀ candidate ∈ agent.remoteCandidates, ∃ line ∈ lines, IceCandidateParser.parse line = some candidate

/-- What `c` has taken from the signaling of `peer`, as far as the connection itself holds it. -/
structure Credited (c peer : TgcallsConnection) : Prop where
  ufrag : c.peerUfrag = "" ∨ c.peerUfrag = peer.localUfrag
  pwd : c.peerPwd = "" ∨ c.peerPwd = peer.localPwd
  fingerprint : c.peerFingerprint = [] ∨ c.peerFingerprint = peer.localFingerprint
  pinned : ∀ dtls, c.dtls = some dtls →
    dtls.expectedPeerFingerprint = parseHexFingerprint peer.localFingerprint

/-- **What a side knows of its peer**, all of it announced by the peer. -/
structure Knows (c : IceConnection) (peer : TgcallsConnection) (announced : List SignalingMsg) : Prop where
  credited : Credited c.toTgcallsConnection peer
  candidates : ∀ line ∈ c.peerCandidates, ∃ lines, .candidates lines ∈ announced ∧ line ∈ lines
  agent : ∀ agent, c.iceAgent = some agent → AgentFor c.toTgcallsConnection peer agent ∧ Listed c.peerCandidates agent

/-- What a side announces are its own credentials. -/
def AnnouncesItself (c : TgcallsConnection) (signaled : List SignalingMsg) : Prop :=
  ∀ msg, .initialSetup msg ∈ signaled →
    msg.ufrag = c.localUfrag ∧ msg.pwd = c.localPwd ∧ msg.fingerprint = c.localFingerprint

section

variable {C : Crypto} {c c' peer : TgcallsConnection}

theorem sameFields_of_identity (h : c'.identity = c.identity) :
    c'.isOutgoing = c.isOutgoing ∧ c'.localFingerprint = c.localFingerprint ∧ c'.localUfrag = c.localUfrag ∧
      c'.localPwd = c.localPwd := by
  simp only [TgcallsConnection.identity, Prod.mk.injEq] at h
  obtain ⟨houtgoing, -, -, hfingerprint, hufrag, hpwd⟩ := h
  exact ⟨houtgoing, hfingerprint, hufrag, hpwd⟩

theorem AgentFor.of_identity {peer' : TgcallsConnection} {agent : IceAgent} (h : AgentFor c peer agent)
    (hc : c'.identity = c.identity) (hpeer : peer'.identity = peer.identity) : AgentFor c' peer' agent := by
  obtain ⟨houtgoing, -, hufrag, hpwd⟩ := sameFields_of_identity hc
  obtain ⟨-, -, hremoteUfrag, hremotePwd⟩ := sameFields_of_identity hpeer
  rw [AgentFor, houtgoing, hufrag, hpwd, hremoteUfrag, hremotePwd]
  exact h

theorem AnnouncesItself.of_identity {signaled : List SignalingMsg} (h : AnnouncesItself c signaled)
    (hc : c'.identity = c.identity) : AnnouncesItself c' signaled := by
  obtain ⟨-, hfingerprint, hufrag, hpwd⟩ := sameFields_of_identity hc
  intro msg hmsg
  rw [hfingerprint, hufrag, hpwd]
  exact h msg hmsg

/-- The peer has moved: it is who it was, and has announced no less. -/
theorem Knows.of_peer {c : IceConnection} {peer' : TgcallsConnection} {announced announced' : List SignalingMsg}
    (h : Knows c peer announced) (hpeer : peer'.identity = peer.identity) (hmore : announced ⊆ announced') :
    Knows c peer' announced' := by
  obtain ⟨-, hfingerprint, hufrag, hpwd⟩ := sameFields_of_identity hpeer
  refine ⟨⟨?_, ?_, ?_, ?_⟩, ?_, ?_⟩
  · rw [hufrag]
    exact h.credited.ufrag
  · rw [hpwd]
    exact h.credited.pwd
  · rw [hfingerprint]
    exact h.credited.fingerprint
  · rw [hfingerprint]
    exact h.credited.pinned
  · intro line hline
    obtain ⟨lines, hannounced, hmem⟩ := h.candidates line hline
    exact ⟨lines, hmore hannounced, hmem⟩
  · intro agent hagent
    obtain ⟨hfor, hrest⟩ := h.agent agent hagent
    exact ⟨hfor.of_identity rfl hpeer, hrest⟩

/-! ### The handlers of the connection -/

theorem credited_startDtlsPhase (h : Credited c peer) (draws : InitiateDraws) :
    Credited (c.startDtlsPhase draws).1 peer := by
  unfold TgcallsConnection.startDtlsPhase
  cases hdtls : c.dtls with
  | some dtls => exact h
  | none =>
    have hnone : ∀ (α : Prop) (dtls : DtlsClientSession), c.dtls = some dtls → α := by
      intro α dtls hsome
      rw [hdtls] at hsome
      cases hsome
    dsimp only
    split
    · exact ⟨h.ufrag, h.pwd, h.fingerprint, fun dtls => hnone _ dtls⟩
    · split_ifs with hempty
      · exact ⟨h.ufrag, h.pwd, h.fingerprint, fun dtls => hnone _ dtls⟩
      · refine ⟨h.ufrag, h.pwd, h.fingerprint, fun dtls hsome => ?_⟩
        cases hsome
        have hpeer : c.peerFingerprint = peer.localFingerprint := h.fingerprint.resolve_left hempty
        show parseHexFingerprint c.peerFingerprint = _
        rw [hpeer]

theorem credited_onIceConnected (h : Credited c peer) (draws : InitiateDraws) :
    Credited (c.onIceConnected draws).1 peer := by
  unfold TgcallsConnection.onIceConnected
  split_ifs
  · exact h
  · exact credited_startDtlsPhase h draws

theorem credited_onDtlsEstablished (h : Credited c peer) (keys : Bytes) (audio : TgcallsConnection.AudioInput) :
    Credited (c.onDtlsEstablished C.srtp keys audio) peer := by
  unfold TgcallsConnection.onDtlsEstablished TgcallsConnection.startAudioPhase
  split_ifs <;> exact ⟨h.ufrag, h.pwd, h.fingerprint, h.pinned⟩

theorem credited_onDtlsDatagram (h : Credited c peer) (inner : Bytes) (audio : TgcallsConnection.AudioInput) :
    Credited (c.onDtlsDatagram C inner audio).1 peer := by
  unfold TgcallsConnection.onDtlsDatagram
  cases hdtls : c.dtls with
  | none => exact h
  | some dtls =>
    have hmoved : Credited { c with dtls := some (dtls.processDatagram C.dtls inner).1 } peer := by
      refine ⟨h.ufrag, h.pwd, h.fingerprint, fun dtls' hsome => ?_⟩
      cases hsome
      rw [DtlsClientSession.pin_processDatagram]
      exact h.pinned dtls hdtls
    dsimp only
    split_ifs
    · exact credited_onDtlsEstablished hmoved _ audio
    · exact ⟨hmoved.ufrag, hmoved.pwd, hmoved.fingerprint, hmoved.pinned⟩
    · exact hmoved

theorem credited_onSrtpDatagram (h : Credited c peer) (bytes : Bytes) :
    Credited (c.onSrtpDatagram C.srtp bytes).1 peer := by
  unfold TgcallsConnection.onSrtpDatagram
  split_ifs
  · exact h
  · split
    · dsimp only
      split_ifs <;> exact ⟨h.ufrag, h.pwd, h.fingerprint, h.pinned⟩
    · exact h

theorem credited_onReflectorDatagram (h : Credited c peer) (a : TgcallsConnection.Arrival) :
    Credited (c.onReflectorDatagram C a).1 peer := by
  unfold TgcallsConnection.onReflectorDatagram
  cases a.inner with
  | nil => exact h
  | cons firstByte rest =>
    dsimp only
    split_ifs
    · exact credited_onIceConnected h a.draws
    · exact h
    · exact credited_onDtlsDatagram h _ a.audio
    · exact credited_onSrtpDatagram h _
    · exact h
    · exact h

theorem credited_onPeerInitialSetup (h : Credited c peer) {msg : InitialSetupMsg}
    (hmsg : msg.ufrag = peer.localUfrag ∧ msg.pwd = peer.localPwd ∧ msg.fingerprint = peer.localFingerprint) :
    Credited (c.onPeerInitialSetup msg) peer := by
  obtain ⟨hufrag, hpwd, hfingerprint⟩ := hmsg
  unfold TgcallsConnection.onPeerInitialSetup
  dsimp only
  split_ifs <;> exact ⟨.inr hufrag, .inr hpwd, .inr hfingerprint, h.pinned⟩

/-! ### The agent -/

theorem agentFor_call {agent : IceAgent} (h : AgentFor c peer agent) (hmacSha1 : Bytes → Bytes → Bytes) (call : AgentCall) :
    AgentFor c peer (agent.call hmacSha1 call) := by
  rw [AgentFor, IceAgent.identity_call]
  exact h

theorem agentFor_feedCandidates {agent : IceAgent} (h : AgentFor c peer agent) (lines : List String) :
    AgentFor c peer (IceConnection.feedCandidates agent lines) := by
  induction lines generalizing agent with
  | nil => exact h
  | cons line lines ih =>
    rw [IceConnection.feedCandidates, List.foldl_cons]
    refine ih ?_
    split
    · exact h
    · next parsed _ =>
      split_ifs
      · exact agentFor_call h (fun _ _ => []) (.addRemoteCandidate parsed)
      · exact h

theorem listed_call {agent : IceAgent} {lines : List String} (h : Listed lines agent)
    (hmacSha1 : Bytes → Bytes → Bytes) (call : AgentCall) (hcall : call.candidate = none) :
    Listed lines (agent.call hmacSha1 call) := by
  refine ⟨IceAgent.sound_call h.sound call, ?_⟩
  rw [IceAgent.call_remoteCandidates, hcall]
  simpa using h.known

theorem listed_feedCandidates (role : IceAgentRole) (localUfrag localPwd remoteUfrag remotePwd : Bytes)
    (tieBreak : UInt64) (lines : List String) :
    Listed lines (IceConnection.feedCandidates
      (IceAgent.create role localUfrag localPwd remoteUfrag remotePwd tieBreak) lines) := by
  refine ⟨(targets_feedCandidates (IceAgent.sound_create ..) lines).1, ?_⟩
  rw [IceConnection.feedCandidates_remoteCandidates]
  intro candidate hmem
  have haccepted : candidate ∈ IceConnection.acceptedCandidates lines := by
    rwa [IceAgent.create, List.nil_append] at hmem
  exact List.mem_filterMap.1 (List.mem_filter.1 haccepted).1

end

/-! ### The inputs of a connection -/

section

variable {C : Crypto} {c : IceConnection} {peer : TgcallsConnection} {announced : List SignalingMsg}

theorem knows_sendIceBindingRequests (h : Knows c peer announced) (ids : ℕ → Vector UInt8 12) :
    Knows (c.sendIceBindingRequests C ids).1 peer announced := by
  unfold IceConnection.sendIceBindingRequests
  cases hagent : c.iceAgent with
  | none => exact h
  | some agent =>
    refine ⟨h.credited, h.candidates, fun agent' hsome => ?_⟩
    cases hsome
    obtain ⟨hfor, hlisted⟩ := h.agent agent hagent
    exact ⟨agentFor_call hfor C.srtp.hmacSha1 (.getBindingRequestsToSend ids),
      listed_call hlisted C.srtp.hmacSha1 (.getBindingRequestsToSend ids) rfl⟩

theorem knows_startIcePhase (h : Knows c peer announced) (draws : IceDraws) :
    Knows (c.startIcePhase C draws).1 peer announced := by
  simp only [IceConnection.startIcePhase]
  split_ifs with hready hempty hstarted
  · exact h
  · exact h
  · exact h
  · have hcredentials : c.peerUfrag ≠ "" ∧ c.peerPwd ≠ "" := by
      simp [IceConnection.peerReady] at hready
      exact hready.2
    have hnew : AgentFor c.toTgcallsConnection peer (c.newAgent draws.tieBreak) := by
      rw [AgentFor, ← h.credited.ufrag.resolve_left hcredentials.1, ← h.credited.pwd.resolve_left hcredentials.2]
      rfl
    have hfed : Knows
        { c with
          iceStarted := true
          iceAgent := some (IceConnection.feedCandidates (c.newAgent draws.tieBreak) c.peerCandidates)
          iceAttempts := 0 } peer announced := by
      refine ⟨h.credited, h.candidates, fun agent hsome => ?_⟩
      cases hsome
      exact ⟨agentFor_feedCandidates hnew c.peerCandidates, listed_feedCandidates ..⟩
    exact knows_sendIceBindingRequests (C := C) hfed draws.transactionId

theorem knows_initialSetup (h : Knows c peer announced) {msg : InitialSetupMsg} (draws : IceDraws)
    (hmsg : msg.ufrag = peer.localUfrag ∧ msg.pwd = peer.localPwd ∧ msg.fingerprint = peer.localFingerprint) :
    Knows (c.onPeerInitialSetup C msg draws).1 peer announced := by
  have htaken : Knows { c with toTgcallsConnection := c.toTgcallsConnection.onPeerInitialSetup msg } peer announced := by
    refine ⟨credited_onPeerInitialSetup h.credited hmsg, h.candidates, fun agent hagent => ?_⟩
    obtain ⟨hfor, hlisted⟩ := h.agent agent hagent
    exact ⟨hfor.of_identity (TgcallsConnection.identity_onPeerInitialSetup msg) rfl, hlisted⟩
  exact knows_startIcePhase htaken draws

theorem knows_candidates (h : Knows c peer announced) {lines : List String} (draws : IceDraws)
    (hlines : .candidates lines ∈ announced) : Knows (c.onPeerCandidates C lines draws).1 peer announced := by
  have hparked : Knows { c with peerCandidates := c.peerCandidates ++ lines } peer announced := by
    refine ⟨h.credited, fun line hline => ?_, fun agent hagent => ?_⟩
    · rcases List.mem_append.1 hline with hold | hnew
      · exact h.candidates line hold
      · exact ⟨lines, hlines, hnew⟩
    · obtain ⟨hfor, hlisted⟩ := h.agent agent hagent
      refine ⟨hfor, hlisted.sound, fun candidate hmem => ?_⟩
      obtain ⟨line, hline, hparse⟩ := hlisted.known candidate hmem
      exact ⟨line, List.mem_append_left _ hline, hparse⟩
  exact knows_startIcePhase hparked draws

/-- Nothing that comes in from the reflectors tells anything of the peer. -/
theorem knows_datagram (h : Knows c peer announced) (srcIp : String) (srcPort : ℤ) (payload : Bytes)
    (draws : InitiateDraws) (audio : TgcallsConnection.AudioInput) :
    Knows (c.onReflectorDatagramFrom C srcIp srcPort payload draws audio).1 peer announced := by
  have hbase : ∀ (a : TgcallsConnection.Arrival) (agent : IceAgent),
      AgentFor c.toTgcallsConnection peer agent →
        AgentFor (c.toTgcallsConnection.onReflectorDatagram C a).1 peer agent := fun a agent hfor =>
    hfor.of_identity (TgcallsConnection.identity_onReflectorDatagram a) rfl
  simp only [IceConnection.onReflectorDatagramFrom, IceConnection.onReflectorDatagram]
  split_ifs
  · exact h
  split
  · exact h
  split
  · exact h
  split_ifs
  · unfold IceConnection.onStunDatagram
    cases hagent : c.iceAgent with
    | none => exact h
    | some agent =>
      obtain ⟨hfor, hlisted⟩ := h.agent agent hagent
      refine ⟨credited_onReflectorDatagram h.credited _, h.candidates, fun agent' hsome => ?_⟩
      cases hsome
      exact ⟨hbase _ _ (agentFor_call hfor C.srtp.hmacSha1 (.processIncoming _ _ _)),
        listed_call hlisted C.srtp.hmacSha1 (.processIncoming _ _ _) rfl⟩
  · refine ⟨credited_onReflectorDatagram h.credited _, h.candidates, fun agent hagent => ?_⟩
    obtain ⟨hfor, hlisted⟩ := h.agent agent hagent
    exact ⟨hbase _ _ hfor, hlisted⟩

theorem knows_retryTimer (h : Knows c peer announced) (ids : ℕ → Vector UInt8 12) :
    Knows (c.onIceRetryTimer C ids).1 peer announced := by
  simp only [IceConnection.onIceRetryTimer]
  split_ifs
  · exact h
  · refine ⟨⟨h.credited.ufrag, h.credited.pwd, h.credited.fingerprint, h.credited.pinned⟩, h.candidates, ?_⟩
    intro agent hagent
    obtain ⟨hfor, hlisted⟩ := h.agent agent hagent
    exact ⟨hfor.of_identity rfl rfl, hlisted⟩
  · have hsent := knows_sendIceBindingRequests (C := C) h ids
    exact ⟨hsent.credited, hsent.candidates, hsent.agent⟩

end

/-! ### Runs over messages -/

/-- **The invariant**: each side announces itself, and knows its peer from what the peer has announced. -/
def Exchanged (s : Side → Party) : Prop :=
  ∀ side, AnnouncesItself (s side).conn.toTgcallsConnection (s side).signaled ∧
    Knows (s side).conn (s side.other).conn.toTgcallsConnection (s side.other).signaled

section

variable {C : Crypto} {s : Side → Party}

theorem announcesItself_record {p : Party} (h : AnnouncesItself p.conn.toTgcallsConnection p.signaled)
    (lines : List String) {r : IceConnection × Effects} (hidentity : r.1.identity = p.conn.identity) :
    AnnouncesItself (p.record lines r).conn.toTgcallsConnection (p.record lines r).signaled := by
  intro msg hmsg
  rcases List.mem_append.1 hmsg with hold | hnew
  · exact h.of_identity hidentity msg hold
  · split_ifs at hnew
    · cases List.mem_singleton.1 hnew
    · cases hnew

theorem exchanged_record (h : Exchanged s) (side : Side) (lines : List String) {r : IceConnection × Effects}
    (hidentity : r.1.identity = (s side).conn.identity)
    (hknows : Knows r.1 (s side.other).conn.toTgcallsConnection (s side.other).signaled) :
    Exchanged (Function.update s side ((s side).record lines r)) := by
  have hself : ∀ side : Side, side.other ≠ side := fun side => by cases side <;> decide
  intro side'
  by_cases hside : side' = side
  · subst hside
    rw [Function.update_self, Function.update_of_ne (hself side')]
    exact ⟨announcesItself_record (h side').1 lines hidentity, hknows⟩
  · have hother : side'.other = side := by
      revert hside
      cases side <;> cases side' <;> decide
    rw [Function.update_of_ne hside, hother, Function.update_self]
    obtain ⟨hannounces, hpeer⟩ := h side'
    rw [hother] at hpeer
    exact ⟨hannounces, hpeer.of_peer hidentity (List.subset_append_left _ _)⟩

/-- **A step keeps it.** -/
theorem exchanged_step (h : Exchanged s) (ev : CallEvent) : Exchanged (callStep C s ev) := by
  cases ev with
  | signaling side k draws lines =>
    simp only [callStep]
    cases hmsg : (s side.other).signaled[k]? with
    | none => exact h
    | some msg =>
      have hmem := List.mem_of_getElem? hmsg
      cases msg with
      | initialSetup msg =>
        exact exchanged_record h side lines (IceConnection.identity_step (.initialSetup msg draws))
          (knows_initialSetup (h side).2 draws ((h side.other).1 msg hmem))
      | candidates received =>
        exact exchanged_record h side lines (IceConnection.identity_step (.candidates received draws))
          (knows_candidates (h side).2 draws hmem)
  | arrival side k srcIp srcPort draws audio =>
    simp only [callStep]
    cases (s side.other).sent[k]? with
    | none => exact h
    | some payload =>
      exact exchanged_record h side [] (IceConnection.identity_step (.datagram srcIp srcPort payload draws audio))
        (knows_datagram (h side).2 srcIp srcPort payload draws audio)
  | datagram side srcIp srcPort payload draws audio =>
    exact exchanged_record h side [] (IceConnection.identity_step (.datagram srcIp srcPort payload draws audio))
      (knows_datagram (h side).2 srcIp srcPort payload draws audio)
  | retryTimer side ids =>
    exact exchanged_record h side [] (IceConnection.identity_step (.retryTimer ids)) (knows_retryTimer (h side).2 ids)

theorem knows_start (P : Cert.Platform) {base : TgcallsConnection} (input : TgcallsConnection.StartInput)
    (hufrag : base.peerUfrag = "") (hpwd : base.peerPwd = "") (hfingerprint : base.peerFingerprint = [])
    (hdtls : base.dtls = none) (peer : TgcallsConnection) (announced : List SignalingMsg) :
    Knows (IceConnection.ofConnection (base.start P input).1) peer announced := by
  have hnone : ∀ (α : Prop) (dtls : DtlsClientSession), base.dtls = some dtls → α := by
    intro α dtls hsome
    rw [hdtls] at hsome
    cases hsome
  have hsame : Credited (base.start P input).1 peer := by
    unfold TgcallsConnection.start
    split
    · exact ⟨.inl hufrag, .inl hpwd, .inl hfingerprint, fun dtls => hnone _ dtls⟩
    split
    · exact ⟨.inl hufrag, .inl hpwd, .inl hfingerprint, fun dtls => hnone _ dtls⟩
    split
    · exact ⟨.inl hufrag, .inl hpwd, .inl hfingerprint, fun dtls => hnone _ dtls⟩
    split
    · exact ⟨.inl hufrag, .inl hpwd, .inl hfingerprint, fun dtls => hnone _ dtls⟩
    dsimp only
    split
    · exact ⟨.inl hufrag, .inl hpwd, .inl hfingerprint, fun dtls => hnone _ dtls⟩
    · split <;> exact ⟨.inl hufrag, .inl hpwd, .inl hfingerprint, fun dtls => hnone _ dtls⟩
  refine ⟨hsame, fun line hline => ?_, fun agent hagent => ?_⟩
  · cases hline
  · cases hagent

theorem announcesItself_start (P : Cert.Platform) (base : TgcallsConnection) (input : TgcallsConnection.StartInput) :
    AnnouncesItself (base.start P input).1 ((base.start P input).2.1.map .initialSetup) := by
  intro msg hmsg
  obtain ⟨msg', hmem, heq⟩ := List.mem_map.1 hmsg
  cases heq
  rcases base.start_cases P input with ⟨-, hnothing⟩ | ⟨cert, hidentity, hmessages⟩
  · rw [hnothing] at hmem
    cases hmem
  · simp only [TgcallsConnection.identity, Prod.mk.injEq] at hidentity
    obtain ⟨-, -, -, hfingerprint, hufrag, hpwd⟩ := hidentity
    rw [hmessages msg hmem, hfingerprint, hufrag, hpwd]
    exact ⟨rfl, rfl, rfl⟩

/-- **In every run over messages.** -/
theorem exchanged_run (C : Crypto) (start : Side → CallStart) (calls : List CallEvent) :
    Exchanged (run (callStep C) (startCall C.dtls.toPlatform start) calls) := by
  have hstart : Exchanged (startCall C.dtls.toPlatform start) := fun side =>
    ⟨announcesItself_start C.dtls.toPlatform _ _, knows_start C.dtls.toPlatform _ rfl rfl rfl rfl _ _⟩
  have hstep : ∀ s ev, Exchanged s → Exchanged (callStep C s ev) := fun _ ev h => exchanged_step h ev
  exact invariant_run_of_step hstep calls hstart

theorem crossed_of_exchanged (h : Exchanged s)
    (hsides : ∀ side, (s side).conn.isOutgoing = decide (side = .outgoing)) {a b : IceAgent}
    (ha : (s .outgoing).conn.iceAgent = some a) (hb : (s .incoming).conn.iceAgent = some b) :
    Crossed a b ∧ a.role = .controlling ∧ b.role = .controlled := by
  obtain ⟨hfirst, -⟩ := (h .outgoing).2.agent a ha
  obtain ⟨hsecond, -⟩ := (h .incoming).2.agent b hb
  rw [AgentFor, hsides] at hfirst hsecond
  simp only [IceAgent.identity, Prod.mk.injEq] at hfirst hsecond
  obtain ⟨hrole, hufrag, hpwd, hremoteUfrag, hremotePwd⟩ := hfirst
  obtain ⟨hrole', hufrag', hpwd', hremoteUfrag', hremotePwd'⟩ := hsecond
  refine ⟨⟨?_, ?_, ?_, ?_⟩, hrole, hrole'⟩
  · exact hufrag'.trans hremoteUfrag.symm
  · exact hpwd'.trans hremotePwd.symm
  · exact hremoteUfrag'.trans hufrag.symm
  · exact hremotePwd'.trans hpwd.symm

theorem announced_of_exchanged (h : Exchanged s) {side : Side} {agent : IceAgent}
    (hagent : (s side).conn.iceAgent = some agent) {pair : Pair} (hpair : pair ∈ agent.pairs) :
    ∃ lines, .candidates lines ∈ (s side.other).signaled ∧ ∃ line ∈ lines, ∃ candidate,
      IceCandidateParser.parse line = some candidate ∧ pair.target = IceAgent.addressOf candidate := by
  obtain ⟨-, hlisted⟩ := (h side).2.agent agent hagent
  obtain ⟨candidate, hknown, htarget⟩ := hlisted.sound.announced pair hpair
  obtain ⟨line, hline, hparse⟩ := hlisted.known candidate hknown
  obtain ⟨lines, hannounced, hmem⟩ := (h side).2.candidates line hline
  exact ⟨lines, hannounced, line, hmem, candidate, hparse, htarget⟩

end

/-! ### Runs over packets -/

/-- What the sides of a call over packets know of each other. -/
structure IdentitiesExchanged (w : Side → WireParty) : Prop where
  agents : ∀ a b, (w .outgoing).conn.iceAgent = some a → (w .incoming).conn.iceAgent = some b →
    Crossed a b ∧ a.role = .controlling ∧ b.role = .controlled
  pairs : ∀ side agent, (w side).conn.iceAgent = some agent → ∀ pair ∈ agent.pairs,
    ∃ message ∈ (w side.other).messages, message.type = .candidates ∧ ∃ line ∈ messageLines message, ∃ candidate,
      IceCandidateParser.parse line = some candidate ∧ pair.target = IceAgent.addressOf candidate
  pinned : ∀ side dtls, (w side).conn.dtls = some dtls →
    dtls.expectedPeerFingerprint = parseHexFingerprint (w side.other).conn.localFingerprint

theorem identitiesExchanged_of_sameCall {D : Domain.Crypto} {key : Bytes} {w : Side → WireParty} {s : Side → Party}
    (hsame : SameCall D key w s) (h : Exchanged s) : IdentitiesExchanged w := by
  have hconn : ∀ side, (s side).conn = (w side).conn := fun side => (hsame side).1.conn
  have hsides : ∀ side, (s side).conn.isOutgoing = decide (side = .outgoing) := by
    intro side
    rw [hconn]
    exact (hsame side).2.isOutgoing
  refine ⟨fun a b ha hb => ?_, fun side agent hagent pair hpair => ?_, fun side dtls hdtls => ?_⟩
  · rw [← hconn] at ha hb
    exact crossed_of_exchanged h hsides ha hb
  · rw [← hconn] at hagent
    obtain ⟨lines, hannounced, hline⟩ := announced_of_exchanged h hagent hpair
    rw [(hsame side.other).1.signaled] at hannounced
    obtain ⟨message, hmem, hmsg⟩ := List.mem_filterMap.1 hannounced
    refine ⟨message, hmem, ?_⟩
    unfold signalingMsg at hmsg
    cases htype : message.type <;> rw [htype] at hmsg <;> cases hmsg
    exact ⟨rfl, hline⟩
  · rw [← hconn] at hdtls ⊢
    exact (h side).2.credited.pinned dtls hdtls

/-- **Each side knows its peer as the peer has announced itself.**  In every state of every run over packets in which no
foreign packet is accepted, the agents of the two sides have crossed credentials and opposite roles, every pair is an
address of a candidates message of the other side, and a DTLS session is pinned to the fingerprint of the other side. -/
theorem identities_exchanged (C : Crypto) (D : Domain.Crypto) {key : Bytes} {start : Side → CallStart}
    (h : SharedStart key start) (events : List WireEvent)
    (hregular : ∀ event ∈ events, Regular D (startWire C D start) event) :
    IdentitiesExchanged (run (wireStep C D) (startWire C D start) events) := by
  have hsimulates := wire_simulates (C := C) (D := D) h.length_key
  exact hsimulates.transfer (sameCall_start D h) (guarded_regular hregular) (P := Exchanged) (Q := IdentitiesExchanged)
    (exchanged_run C start) fun w s hsame hexchanged => identitiesExchanged_of_sameCall hsame hexchanged

theorem identities_exchanged_sampleCall : IdentitiesExchanged
    (run (wireStep callLibraries Domain.sampleCrypto)
      (startWire callLibraries Domain.sampleCrypto sampleTokens) sampleWireEvents) :=
  identities_exchanged callLibraries Domain.sampleCrypto sharedStart_sampleTokens sampleWireEvents
    regular_sampleWireEvents

end VianiumVoip.Tgcalls
