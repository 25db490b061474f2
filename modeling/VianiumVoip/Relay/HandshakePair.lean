import VianiumVoip.Relay.CallMedia
import VianiumVoip.Lib.TwoParties

/-!
# The control handshakes of a call

Both sides of a call run `RunControlHandshake` against the same reflector and go on to the loops of their media
contexts.  Each answers the Init packets of the other, in the handshake and behind it, and each ends its own handshake
with the first InitAck.  The reflector loses, duplicates and reorders the datagrams; it sends responses of its own, and
others may send what does not open under the key of the call.

* `EngineSide` — one side, from the loop of the handshake to the media context;
* `run_handshakeTurns` — its handshake is the loop of `RunControlHandshake`;
* `keeps_engineSide` — what a side promises;
* `handshake_pair_safe`, `handshake_pair_completes` — the two sides together.
-/

namespace VianiumVoip.Relay

open VianiumVoip.Lib VianiumVoip.Lib.Run VianiumVoip.Lib.TwoParties VoipControlPacketCodec VoipPacketCrypto
open VianiumVoip.Domain (kSharedKeyBytes)
open VoipReflectorPacketCodec (parseSelfInfoResponse)

/-! ### One side -/

/-- What one side knows of the call. -/
structure EngineParams where
  keys : RelayKeys
  localIsOutgoing : Bool
  queryId : UInt64
  deadline : ℤ

def EngineParams.handshake (p : EngineParams) : HandshakeParams where
  peerTag := p.keys.peerTag
  queryId := p.queryId
  sharedKey := p.keys.sharedKey
  localIsOutgoing := p.localIsOutgoing

/-- How far a side has come. -/
inductive EngineSide (D : Smoothing)
  /-- In the loop of its handshake. -/
  | handshaking (s : HandshakeState)
  /-- The handshake has returned. -/
  | returned (s : HandshakeState)
  /-- In the loops of the media context. -/
  | active (s : HandshakeState) (c : CallContext D)

inductive SideInput
  /-- A turn in the loop of the handshake. -/
  | handshakeTurn (turn : HandshakeTurn)
  /-- `StartMedia` behind the handshake, with an audio device. -/
  | openAudio
  /-- A turn in one of the loops of the media context. -/
  | mediaTurn (turn : MediaTurn) (input : SendInput)

variable {D : Smoothing}

/-- The media context behind a handshake. -/
def mediaContext (keys : RelayKeys) (localIsOutgoing : Bool) (s : HandshakeState) : CallContext D where
  keys := keys
  localIsOutgoing := localIsOutgoing
  ctx :=
    { nextLocalSequence := s.nextLocalSequence
      lastRemoteSequence := s.lastRemoteSequence
      initAckReceived := s.outcome.error.kind = .none }

theorem contexts_openAudio {call : CallMedia D} {endpoint : Engine.VoipEndpoint} {s : HandshakeState}
    {answers : Engine.AudioAnswers} {keys : RelayKeys} (hphase : call.phase = .selected endpoint s)
    (haudio : answers.error = none) (hkeys : relayKeys? call.session.sharedKey endpoint.peerTag = some keys) :
    (call.openAudio answers).contexts = call.contexts ++ [mediaContext keys (!call.session.incoming) s] := by
  simp only [CallMedia.openAudio, hphase, haudio, hkeys, mediaContext]

/-- What the socket has seen between two states. -/
def socketSince (before after : HandshakeState) : List SocketEvent := after.socket.drop before.socket.length

/-- The datagrams that have been received. -/
def receivedDatagrams (socket : List SocketEvent) : List Bytes :=
  socket.filterMap fun event =>
    match event with
    | .received bytes => some bytes
    | _ => none

/-- What a turn of the media context brings. -/
def MediaTurn.brings : MediaTurn → List Bytes
  | .audio _ => []
  | .init => []
  | .receive received _ _ => [received]

/-- The side behind a piece of its handshake. -/
def HandshakeProgress.side : HandshakeProgress → EngineSide D
  | .goesOn s => .handshaking s
  | .returns s => .returned s

namespace EngineSide

variable (C : BlockCrypto) (p : EngineParams)

def step : EngineSide D → SideInput → EngineSide D
  | .handshaking s, .handshakeTurn turn => (s.turn C p.handshake p.deadline turn).side
  | .returned s, .openAudio =>
    if s.outcome.error.kind = .none then .active s (mediaContext p.keys p.localIsOutgoing s) else .returned s
  | .active s c, .mediaTurn turn input => .active s { c with ctx := (c.turn C input turn).2 }
  | side, _ => side

/-- The datagrams that `Send` accepts. -/
def sends : EngineSide D → SideInput → List Bytes
  | .handshaking s, .handshakeTurn turn => acceptedSends (socketSince s (s.turn C p.handshake p.deadline turn).state)
  | .active _ c, .mediaTurn turn input =>
    ((c.turn C input turn).1.filter fun bytes => (input.answer bytes).success).toList
  | _, _ => []

def hears : EngineSide D → SideInput → List Bytes
  | .handshaking s, .handshakeTurn turn =>
    receivedDatagrams (socketSince s (s.turn C p.handshake p.deadline turn).state)
  | .active _ _, .mediaTurn turn _ => turn.brings
  | _, _ => []

/-- The side as a party. -/
def party (D : Smoothing) : Party (EngineSide D) SideInput Bytes where
  step := step C p
  sends := sends C p
  hears := hears C p

end EngineSide

/-! ### What a side promises -/

section

variable (C : BlockCrypto) (p : EngineParams)

/-- The packet in a datagram for this side. -/
def EngineParams.read (bytes : Bytes) : Option VoipControlPacket :=
  openPacket C p.keys.sharedKey p.localIsOutgoing p.keys.peerTag bytes

/-- The packet in a datagram of this side. -/
def EngineParams.peerReads (bytes : Bytes) : Option VoipControlPacket :=
  openPacket C p.keys.sharedKey (!p.localIsOutgoing) p.keys.peerTag bytes

/-- In the handshake it would be taken for a response of the reflector. -/
def EngineParams.LooksLikeSelfInfo (bytes : Bytes) : Prop :=
  (parseSelfInfoResponse bytes p.keys.peerTag).success = true

/-- The sockets do their work: what they are given is accepted, and a receive fails by its timeout only. -/
def SocketsWork : SideInput → Prop
  | .handshakeTurn turn =>
    (∀ bytes, (turn.init.answer bytes).success = true) ∧ (∀ bytes, (turn.answer.answer bytes).success = true) ∧
      ∀ ms, (turn.receive ms).success = true ∨ isReceiveTimeout (turn.receive ms) = true
  | .openAudio => True
  | .mediaTurn _ input => ∀ bytes, (input.answer bytes).success = true

/-- What this side expects of a datagram. -/
def EngineParams.Assumes (bytes : Bytes) : Prop :=
  ∀ packet, p.read C bytes = some packet →
    packet.type ≠ .ping ∧ (packet.type = .initAck → packet.payload = buildInitAckPayload.bytes)

/-- A packet of this type is among the datagrams. -/
def EngineParams.Heard (heard : List Bytes) (type : VoipControlPacketType) : Prop :=
  ∃ bytes ∈ heard, ∃ packet, p.read C bytes = some packet ∧ packet.type = type

/-- The number is 0, or that of a packet which has been heard. -/
def EngineParams.KnowsNumber (heard : List Bytes) (number : UInt32) : Prop :=
  number = 0 ∨ ∃ bytes ∈ heard, ∃ packet, p.read C bytes = some packet ∧ packet.sequence = number

/-- **A packet of this side**: an Init, an InitAck or an audio frame; an InitAck has the one payload there is and
answers an Init; the number it acknowledges is that of a packet of the other side. -/
structure PacketJustified (heard : List Bytes) (packet : VoipControlPacket) : Prop where
  type_eq : packet.type = .init ∨ packet.type = .initAck ∨ packet.type = .streamData
  initAck : packet.type = .initAck → packet.payload = buildInitAckPayload.bytes ∧ p.Heard C heard .init
  acknowledges : p.KnowsNumber C heard packet.ackSequence

def EngineParams.Justified (heard : List Bytes) (bytes : Bytes) : Prop :=
  ∃ packet, p.peerReads C bytes = some packet ∧ PacketJustified C p heard packet

/-- Every Init packet is answered, unless it looks like a response of the reflector. -/
def EngineParams.Answers (heard sent : List Bytes) : Prop :=
  ∀ bytes ∈ heard, ∀ packet, p.read C bytes = some packet → packet.type = .init → ¬ p.LooksLikeSelfInfo bytes →
    ∃ answer ∈ sent, ∃ ack, p.peerReads C answer = some ack ∧ ack.type = .initAck

/-- **The handshake has ended well**: the two sides speak version 9, with audio frames of 60 ms. -/
structure Agreed (s : HandshakeState) : Prop where
  error : s.outcome.error.kind = .none
  peerVersion : s.outcome.peerVersion = protocolVersion
  audioFrameDurationMs : s.outcome.audioFrameDurationMs = defaultAudioFrameDurationMs
  initAckReceived : s.outcome.initAckReceived = true

/-- Behind the handshake: it has ended well, and an InitAck has come; or its time is over. -/
def EngineParams.Ended (heard : List Bytes) (s : HandshakeState) : Prop :=
  Agreed s ∧ p.Heard C heard .initAck ∨ s.outcome.error.kind = .handshakeTimeout

/-- What a side has come to, by what it has heard. -/
def EngineParams.Stage (heard : List Bytes) : EngineSide D → Prop
  | .handshaking s => s.outcome.error = {} ∧ p.KnowsNumber C heard s.lastRemoteSequence
  | .returned s => p.Ended C heard s ∧ p.KnowsNumber C heard s.lastRemoteSequence
  | .active s c =>
    (Agreed s ∧ p.Heard C heard .initAck) ∧ c.keys = p.keys ∧ c.localIsOutgoing = p.localIsOutgoing ∧
      p.KnowsNumber C heard c.ctx.lastRemoteSequence

def EngineParams.Inv (side : EngineSide D) (heard sent : List Bytes) : Prop :=
  p.Stage C heard side ∧ p.Answers C heard sent

end

variable {C : BlockCrypto} {p : EngineParams} {heard sent : List Bytes} {s s' : HandshakeState}

theorem EngineParams.Heard.later {type : VoipControlPacketType} (h : p.Heard C heard type) (more : List Bytes) :
    p.Heard C (heard ++ more) type := by
  obtain ⟨bytes, hmem, hpacket⟩ := h
  exact ⟨bytes, List.mem_append_left _ hmem, hpacket⟩

theorem EngineParams.KnowsNumber.later {number : UInt32} (h : p.KnowsNumber C heard number) (more : List Bytes) :
    p.KnowsNumber C (heard ++ more) number := by
  rcases h with hzero | ⟨bytes, hmem, hpacket⟩
  · exact .inl hzero
  · exact .inr ⟨bytes, List.mem_append_left _ hmem, hpacket⟩

theorem PacketJustified.later {packet : VoipControlPacket} (h : PacketJustified C p heard packet) (more : List Bytes) :
    PacketJustified C p (heard ++ more) packet where
  type_eq := h.type_eq
  initAck := fun htype => ⟨(h.initAck htype).1, (h.initAck htype).2.later more⟩
  acknowledges := h.acknowledges.later more

theorem knowsNumber_last {bytes : Bytes} {packet : VoipControlPacket} (hread : p.read C bytes = some packet) :
    p.KnowsNumber C (heard ++ [bytes]) packet.sequence :=
  .inr ⟨bytes, List.mem_append_right _ (List.mem_singleton.2 rfl), packet, hread, rfl⟩

theorem heard_last {bytes : Bytes} {packet : VoipControlPacket} (hread : p.read C bytes = some packet) :
    p.Heard C (heard ++ [bytes]) packet.type :=
  ⟨bytes, List.mem_append_right _ (List.mem_singleton.2 rfl), packet, hread, rfl⟩

/-! ### The answers -/

theorem EngineParams.Answers.of_quiet (h : p.Answers C heard sent) {brought more : List Bytes}
    (hquiet : ∀ bytes ∈ brought, ∀ packet, p.read C bytes = some packet → packet.type = .init →
      p.LooksLikeSelfInfo bytes) : p.Answers C (heard ++ brought) (sent ++ more) := by
  intro bytes hmem packet hread htype hplain
  rcases List.mem_append.1 hmem with hmem | hmem
  · obtain ⟨answer, hanswer, hack⟩ := h bytes hmem packet hread htype hplain
    exact ⟨answer, List.mem_append_left _ hanswer, hack⟩
  · exact absurd (hquiet bytes hmem packet hread htype) hplain

theorem answers_of_initAck {more : List Bytes} {answer : Bytes} {ack : VoipControlPacket} (hmem : answer ∈ more)
    (hread : p.peerReads C answer = some ack) (htype : ack.type = .initAck) (heard sent : List Bytes) :
    p.Answers C heard (sent ++ more) :=
  fun _ _ _ _ _ _ => ⟨answer, List.mem_append_right _ hmem, ack, hread, htype⟩

/-! ### Sending in the handshake -/

namespace HandshakeState

/-- **A control packet of the handshake**, where its payload fits and the socket accepts it. -/
theorem sendControlPacket_accepted (s : HandshakeState) (type : VoipControlPacketType) {payload : Bytes}
    {input : SendInput} (hpayload : payload.length ≤ maxPayloadBytes)
    (haccepts : ∀ bytes, (input.answer bytes).success = true) :
    ∃ bytes, (s.sendControlPacket C p.handshake type payload input).2 = none ∧
      (s.sendControlPacket C p.handshake type payload input).1.socket = s.socket ++ [.sent bytes true] ∧
      (s.sendControlPacket C p.handshake type payload input).1.lastRemoteSequence = s.lastRemoteSequence ∧
      (s.sendControlPacket C p.handshake type payload input).1.outcome.error = s.outcome.error ∧
      p.peerReads C bytes = some
        { type := type
          ackSequence := s.lastRemoteSequence
          sequence := (takeNextSequence s.nextLocalSequence).1
          payload := payload } := by
  have hbuilt : (buildControlPacket type (takeNextSequence s.nextLocalSequence).1 s.lastRemoteSequence payload).success
      = true := encodeShort_success_iff.2 hpayload
  obtain ⟨wire, hsealed, hopen⟩ := openPacket_sealPacket C p.localIsOutgoing input.random p.keys.length_sharedKey
    p.keys.length_peerTag
    { type := type
      ackSequence := s.lastRemoteSequence
      sequence := (takeNextSequence s.nextLocalSequence).1
      payload := payload } hpayload
  have hencrypted : (encryptRelayPacketMtProto2Short C p.handshake.sharedKey p.handshake.localIsOutgoing
        p.handshake.peerTag input.random
        (buildControlPacket type (takeNextSequence s.nextLocalSequence).1 s.lastRemoteSequence payload).bytes).success
        = true ∧
      (encryptRelayPacketMtProto2Short C p.handshake.sharedKey p.handshake.localIsOutgoing p.handshake.peerTag
        input.random
        (buildControlPacket type (takeNextSequence s.nextLocalSequence).1 s.lastRemoteSequence payload).bytes).bytes
        = wire := by
    unfold sealPacket at hsealed
    dsimp only at hsealed
    split_ifs at hsealed with hfailed hrefused
    exact ⟨Bool.eq_true_of_not_eq_false hrefused, Option.some.inj hsealed⟩
  refine ⟨wire, ?_⟩
  unfold sendControlPacket encryptAndSendControlPacket
  dsimp only
  rw [if_neg (by rw [hbuilt]; decide), if_neg (by rw [hencrypted.1]; decide), hencrypted.2]
  refine ⟨?_, ?_, (send_frame _ _).2.1, (send_frame _ _).2.2, hopen⟩
  · simp only [send, haccepts, Bool.true_eq_false, if_false]
  · rw [socket_send, haccepts]

end HandshakeState

/-! ### A turn of the handshake -/

/-- What a side has come to in its handshake. -/
def ProgressStage (C : BlockCrypto) (p : EngineParams) (heard : List Bytes) : HandshakeProgress → Prop
  | .goesOn s => s.outcome.error = {} ∧ p.KnowsNumber C heard s.lastRemoteSequence
  | .returns s => p.Ended C heard s ∧ p.KnowsNumber C heard s.lastRemoteSequence

/-- **What a piece of a turn comes to**: the events at the socket, what they bring and send, and the stage behind it. -/
structure Progresses (C : BlockCrypto) (p : EngineParams) (heard : List Bytes) (before : HandshakeState)
    (events : List SocketEvent) (progress : HandshakeProgress) : Prop where
  socket_eq : progress.state.socket = before.socket ++ events
  sends : ∀ bytes ∈ acceptedSends events, p.Justified C (heard ++ receivedDatagrams events) bytes
  answers : ∀ sent, p.Answers C heard sent →
    p.Answers C (heard ++ receivedDatagrams events) (sent ++ acceptedSends events)
  stage : ProgressStage C p (heard ++ receivedDatagrams events) progress

theorem receivedDatagrams_append (front back : List SocketEvent) :
    receivedDatagrams (front ++ back) = receivedDatagrams front ++ receivedDatagrams back := List.filterMap_append ..

theorem EngineParams.Justified.later {bytes : Bytes} (h : p.Justified C heard bytes) (more : List Bytes) :
    p.Justified C (heard ++ more) bytes := by
  obtain ⟨packet, hread, hpacket⟩ := h
  exact ⟨packet, hread, hpacket.later more⟩

theorem Progresses.trans {front back : List SocketEvent} {progress : HandshakeProgress}
    (h : Progresses C p heard s front (.goesOn s'))
    (h' : Progresses C p (heard ++ receivedDatagrams front) s' back progress) :
    Progresses C p heard s (front ++ back) progress where
  socket_eq := by rw [h'.socket_eq, ← List.append_assoc, ← h.socket_eq, HandshakeProgress.state]
  sends := by
    intro bytes hmem
    rw [acceptedSends_append] at hmem
    rw [receivedDatagrams_append, ← List.append_assoc]
    rcases List.mem_append.1 hmem with hmem | hmem
    · exact (h.sends bytes hmem).later _
    · exact h'.sends bytes hmem
  answers := by
    intro sent hsent
    rw [receivedDatagrams_append, acceptedSends_append, ← List.append_assoc, ← List.append_assoc]
    exact h'.answers _ (h.answers sent hsent)
  stage := by
    rw [receivedDatagrams_append, ← List.append_assoc]
    exact h'.stage

theorem progresses_nil {progress : HandshakeProgress} (hsocket : progress.state.socket = s.socket)
    (hstage : ProgressStage C p heard progress) : Progresses C p heard s [] progress where
  socket_eq := by rw [hsocket, List.append_nil]
  sends := fun bytes hmem => absurd hmem List.not_mem_nil
  answers := fun sent hsent => by simpa [receivedDatagrams, acceptedSends] using hsent
  stage := by simpa [receivedDatagrams] using hstage

theorem progresses_sent {bytes : Bytes} {packet : VoipControlPacket} (hread : p.peerReads C bytes = some packet)
    (hpacket : PacketJustified C p heard packet) (hsocket : s'.socket = s.socket ++ [.sent bytes true])
    (hstage : ProgressStage C p heard (.goesOn s')) : Progresses C p heard s [.sent bytes true] (.goesOn s') where
  socket_eq := hsocket
  sends := by
    intro sent hmem
    have hbytes : sent = bytes := by simpa [acceptedSends] using hmem
    rw [hbytes]
    exact ⟨packet, hread, hpacket.later _⟩
  answers := by
    intro sent hsent
    refine hsent.of_quiet fun _ hmem => ?_
    simp [receivedDatagrams] at hmem
  stage := by simpa [receivedDatagrams] using hstage

theorem progresses_sendInitIfDue (hok : s.outcome.error = {}) (hknows : p.KnowsNumber C heard s.lastRemoteSequence)
    {turn : HandshakeTurn} (haccepts : ∀ bytes, (turn.init.answer bytes).success = true) :
    (s.sendInitIfDue C p.handshake turn).2 = none ∧
      ∃ events, receivedDatagrams events = [] ∧
        Progresses C p heard s events (.goesOn (s.sendInitIfDue C p.handshake turn).1) := by
  have hfits : (buildInitPayload false).bytes.length ≤ maxPayloadBytes := by decide
  obtain ⟨bytes, hnone, hsocket, hlast, herror, hread⟩ :=
    s.sendControlPacket_accepted (C := C) (p := p) .init hfits haccepts
  unfold HandshakeState.sendInitIfDue HandshakeState.sendInitPacket
  split_ifs with hdue
  · generalize s.sendControlPacket C p.handshake .init (buildInitPayload false).bytes turn.init = sent at *
    obtain ⟨s₁, error⟩ := sent
    subst hnone
    refine ⟨rfl, [.sent bytes true], rfl, progresses_sent hread ⟨.inl rfl, fun h => ?_, hknows⟩ hsocket ⟨?_, ?_⟩⟩
    · cases h
    · exact herror.trans hok
    · rw [← hlast] at hknows
      exact hknows
  · exact ⟨rfl, [], rfl, progresses_nil rfl ⟨hok, hknows⟩⟩

theorem progresses_received {bytes : Bytes} {progress : HandshakeProgress}
    (hquiet : ∀ packet, p.read C bytes = some packet → packet.type = .init → p.LooksLikeSelfInfo bytes)
    (hsocket : progress.state.socket = s.socket ++ [.received bytes])
    (hstage : ProgressStage C p (heard ++ [bytes]) progress) :
    Progresses C p heard s [.received bytes] progress where
  socket_eq := hsocket
  sends := fun sent hmem => by simp [acceptedSends] at hmem
  answers := by
    intro sent hsent
    refine hsent.of_quiet fun brought hmem => ?_
    have hbytes : brought = bytes := by simpa [receivedDatagrams] using hmem
    rw [hbytes]
    exact hquiet
  stage := hstage

theorem knowsNumber_noteRemoteSequence (hknows : p.KnowsNumber C heard s.lastRemoteSequence) {bytes : Bytes}
    {packet : VoipControlPacket} (hread : p.read C bytes = some packet) :
    p.KnowsNumber C (heard ++ [bytes]) (s.noteRemoteSequence packet.sequence).lastRemoteSequence := by
  unfold HandshakeState.noteRemoteSequence
  split_ifs
  · exact knowsNumber_last hread
  · exact hknows.later _

theorem noteRemoteSequence_frame (s : HandshakeState) (sequence : UInt32) :
    (s.noteRemoteSequence sequence).socket = s.socket ∧ (s.noteRemoteSequence sequence).outcome = s.outcome := by
  unfold HandshakeState.noteRemoteSequence
  split_ifs <;> exact ⟨rfl, rfl⟩

/-- An InitAck of the other side ends the handshake. -/
theorem agreed_handlePacket (hok : s.outcome.error = {}) {packet : VoipControlPacket} (htype : packet.type = .initAck)
    (hpayload : packet.payload = buildInitAckPayload.bytes) (input : SendInput) :
    ∃ s', s.handlePacket C p.handshake packet input = .returns s' ∧ Agreed s' ∧ s'.socket = s.socket ∧
      s'.lastRemoteSequence = s.lastRemoteSequence := by
  have hsuccess : (parseInitAckPayload buildInitAckPayload.bytes).success = true := by decide
  have hparsed := parseInitAckPayload_buildInitAckPayload
  unfold HandshakeState.handlePacket
  simp only [htype, hpayload, hsuccess, hparsed, Bool.true_eq_false, if_false]
  refine ⟨_, rfl, ⟨?_, rfl, rfl, rfl⟩, rfl, rfl⟩
  exact congrArg Engine.VoipError.kind hok

/-- An Init is answered. -/
theorem progresses_init (hok : s'.outcome.error = {}) {bytes : Bytes} {packet : VoipControlPacket}
    (hread : p.read C bytes = some packet) (htype : packet.type = .init)
    (hsocket : s'.socket = s.socket ++ [.received bytes])
    (hknows : p.KnowsNumber C (heard ++ [bytes]) s'.lastRemoteSequence) {input : SendInput}
    (haccepts : ∀ bytes, (input.answer bytes).success = true) :
    ∃ answer, Progresses C p heard s [.received bytes, .sent answer true]
      (s'.handlePacket C p.handshake packet input) := by
  have hfits : buildInitAckPayload.bytes.length ≤ maxPayloadBytes := by decide
  obtain ⟨answer, hnone, hgrows, hlast, herror, hanswer⟩ :=
    s'.sendControlPacket_accepted (C := C) (p := p) .initAck hfits haccepts
  unfold HandshakeState.handlePacket HandshakeState.answerPeer
  simp only [htype]
  generalize s'.sendControlPacket C p.handshake .initAck buildInitAckPayload.bytes input = sent at *
  obtain ⟨s₁, error⟩ := sent
  subst hnone
  refine ⟨answer, ?_, fun sent hmem => ?_, fun sent hsent => ?_, herror.trans hok, ?_⟩
  · rw [HandshakeProgress.state, hgrows, hsocket, List.append_assoc]
    rfl
  · have hbytes : sent = answer := by simpa [acceptedSends] using hmem
    rw [hbytes]
    exact ⟨_, hanswer, .inr (.inl rfl), fun _ => ⟨rfl, htype ▸ heard_last hread⟩, hknows⟩
  · exact answers_of_initAck (List.mem_cons_self : answer ∈ [answer]) hanswer rfl _ _
  · rw [← hlast] at hknows
    exact hknows

/-- **A datagram that comes in.** -/
theorem progresses_handleDatagram (hok : s.outcome.error = {}) (hknows : p.KnowsNumber C heard s.lastRemoteSequence)
    {received : VoipReflectorDatagramResult} (hassumes : p.Assumes C received.bytes) {input : SendInput}
    (haccepts : ∀ bytes, (input.answer bytes).success = true) :
    ∃ events, receivedDatagrams events = [] ∧ Progresses C p heard s (.received received.bytes :: events)
      (s.handleDatagram C p.handshake received input) := by
  have hlater : p.KnowsNumber C (heard ++ [received.bytes]) s.lastRemoteSequence := hknows.later _
  unfold HandshakeState.handleDatagram
  dsimp only
  by_cases hselfInfo : (parseSelfInfoResponse received.bytes p.handshake.peerTag).success = true
  · rw [if_pos hselfInfo]
    refine ⟨[], rfl, progresses_received (fun _ _ _ => hselfInfo) ?_ ?_⟩
    · split_ifs <;> rfl
    · split_ifs <;> exact ⟨hok, hlater⟩
  rw [if_neg hselfInfo]
  by_cases hdecrypted : (decryptRelayPacketMtProto2Short C p.handshake.sharedKey p.handshake.localIsOutgoing
      p.handshake.peerTag received.bytes).success = false
  · rw [if_pos hdecrypted]
    have hclosed : p.read C received.bytes = none := if_pos hdecrypted
    refine ⟨[], rfl, progresses_received (fun packet hread => ?_) rfl ⟨hok, hlater⟩⟩
    rw [hclosed] at hread
    cases hread
  rw [if_neg hdecrypted]
  by_cases hdecoded : (decodeShort (decryptRelayPacketMtProto2Short C p.handshake.sharedKey p.handshake.localIsOutgoing
      p.handshake.peerTag received.bytes).plain).success = false
  · rw [if_pos hdecoded]
    have hclosed : p.read C received.bytes = none := (if_neg hdecrypted).trans (if_pos hdecoded)
    refine ⟨[], rfl, progresses_received (fun packet hread => ?_) rfl ⟨hok, hlater⟩⟩
    rw [hclosed] at hread
    cases hread
  rw [if_neg hdecoded]
  have hread : p.read C received.bytes = some (decodeShort (decryptRelayPacketMtProto2Short C p.handshake.sharedKey
      p.handshake.localIsOutgoing p.handshake.peerTag received.bytes).plain).packet :=
    (if_neg hdecrypted).trans (if_neg hdecoded)
  generalize (decodeShort (decryptRelayPacketMtProto2Short C p.handshake.sharedKey p.handshake.localIsOutgoing
    p.handshake.peerTag received.bytes).plain).packet = packet at hread ⊢
  obtain ⟨hsocket, houtcome⟩ := noteRemoteSequence_frame (s.countReceived received) packet.sequence
  have hnoted : p.KnowsNumber C (heard ++ [received.bytes])
      ((s.countReceived received).noteRemoteSequence packet.sequence).lastRemoteSequence :=
    knowsNumber_noteRemoteSequence (s := s.countReceived received) hknows hread
  have hstill : ((s.countReceived received).noteRemoteSequence packet.sequence).outcome.error = {} := by
    rw [houtcome]
    exact hok
  generalize (s.countReceived received).noteRemoteSequence packet.sequence = s' at hsocket hnoted hstill ⊢
  obtain ⟨hping, hack⟩ := hassumes packet hread
  cases htype : packet.type with
  | initAck =>
    obtain ⟨s'', hreturns, hagreed, hsocket', hlast⟩ :=
      agreed_handlePacket (C := C) (p := p) hstill htype (hack htype) input
    rw [hreturns]
    refine ⟨[], rfl, progresses_received (fun q hq hinit => ?_) (hsocket'.trans hsocket) ⟨.inl ⟨hagreed, ?_⟩, ?_⟩⟩
    · rw [hread] at hq
      cases hq
      rw [htype] at hinit
      cases hinit
    · exact htype ▸ heard_last hread
    · rw [hlast]
      exact hnoted
  | init =>
    obtain ⟨answer, hprogresses⟩ := progresses_init hstill hread htype hsocket hnoted haccepts
    exact ⟨[.sent answer true], rfl, hprogresses⟩
  | ping => exact absurd htype hping
  | _ =>
    unfold HandshakeState.handlePacket
    simp only [htype]
    refine ⟨[], rfl, progresses_received (fun q hq hinit => ?_) hsocket ⟨hstill, hnoted⟩⟩
    rw [hread] at hq
    cases hq
    rw [htype] at hinit
    cases hinit

theorem socket_handleDatagram (C : BlockCrypto) (params : HandshakeParams) (s : HandshakeState)
    (received : VoipReflectorDatagramResult) (input : SendInput) :
    s.socket ++ [.received received.bytes] <+: (s.handleDatagram C params received input).state.socket := by
  unfold HandshakeState.handleDatagram
  dsimp only
  split_ifs
  · exact List.prefix_refl _
  · exact List.prefix_refl _
  · exact List.prefix_refl _
  · exact List.prefix_refl _
  · refine List.IsPrefix.trans ?_ (HandshakeState.socket_prefix_handlePacket ..)
    rw [(noteRemoteSequence_frame _ _).1]
    exact List.prefix_refl _

theorem socketSince_append {events : List SocketEvent} (h : s'.socket = s.socket ++ events) :
    socketSince s s' = events := by
  rw [socketSince, h, List.drop_left]

/-- **A turn of the handshake**, where the sockets do their work and what comes in is as expected. -/
theorem progresses_turn (hok : s.outcome.error = {}) (hknows : p.KnowsNumber C heard s.lastRemoteSequence)
    {turn : HandshakeTurn} (hworks : SocketsWork (.handshakeTurn turn))
    (hassumes : ∀ bytes ∈ receivedDatagrams (socketSince s (s.turn C p.handshake p.deadline turn).state),
      p.Assumes C bytes) :
    ∃ events, Progresses C p heard s events (s.turn C p.handshake p.deadline turn) := by
  obtain ⟨hinit, hanswer, hreceive⟩ := hworks
  obtain ⟨hnone, front, hquiet, hfront⟩ := progresses_sendInitIfDue (C := C) hok hknows hinit
  unfold HandshakeState.turn at hassumes ⊢
  by_cases hover : ¬ (0 < remainingMs p.deadline turn.checkedAt ∧ s.initAttempts < kMaxInitAttempts)
  · rw [if_pos hover]
    exact ⟨[], progresses_nil rfl ⟨.inr rfl, hknows⟩⟩
  rw [if_neg hover] at hassumes ⊢
  generalize s.sendInitIfDue C p.handshake turn = sent at hnone hfront hassumes ⊢
  obtain ⟨s₁, error⟩ := sent
  subst hnone
  dsimp only at hfront hassumes ⊢
  generalize (if remainingMs p.deadline turn.waitsFrom < 250 then remainingMs p.deadline turn.waitsFrom else 250)
    = waitMs at hassumes ⊢
  specialize hreceive waitMs
  generalize turn.receive waitMs = received at hreceive hassumes ⊢
  by_cases hfailed : received.success = false
  · rw [if_pos hfailed, if_pos (hreceive.resolve_left (by rw [hfailed]; decide))]
    exact ⟨front, hfront⟩
  rw [if_neg hfailed] at hassumes ⊢
  obtain ⟨hok₁, hknows₁⟩ := hfront.stage
  obtain ⟨rest, hrest⟩ := socket_handleDatagram C p.handshake s₁ received turn.answer
  have hsince : socketSince s (s₁.handleDatagram C p.handshake received turn.answer).state
      = front ++ (.received received.bytes :: rest) := by
    refine socketSince_append ?_
    have hgrows : s₁.socket = s.socket ++ front := hfront.socket_eq
    rw [← hrest, hgrows, List.append_assoc, List.append_assoc]
    rfl
  have hassumed : p.Assumes C received.bytes := by
    refine hassumes received.bytes ?_
    rw [hsince, receivedDatagrams_append]
    exact List.mem_append_right _ List.mem_cons_self
  obtain ⟨back, -, hback⟩ := progresses_handleDatagram hok₁ hknows₁ hassumed hanswer
  exact ⟨_, hfront.trans hback⟩

/-! ### A turn of the media context -/

section

variable {c : CallContext D} {input : SendInput}

theorem knowsNumber_noteRemoteSequence_media {ctx : VoipActiveMediaContext D}
    (hknows : p.KnowsNumber C heard ctx.lastRemoteSequence) {bytes : Bytes} {packet : VoipControlPacket}
    (hread : p.read C bytes = some packet) :
    p.KnowsNumber C (heard ++ [bytes]) (ctx.noteRemoteSequence packet.sequence).lastRemoteSequence := by
  unfold VoipActiveMediaContext.noteRemoteSequence
  split_ifs
  · exact knowsNumber_last hread
  · exact hknows.later _

theorem lastRemoteSequence_insertAudio (ctx : VoipActiveMediaContext D) (packet : VoipControlPacket) (size : ℕ)
    (now : ℤ) : (ctx.insertAudio packet size now).lastRemoteSequence = ctx.lastRemoteSequence := by
  unfold VoipActiveMediaContext.insertAudio
  dsimp only
  split_ifs <;> rfl

/-- A datagram that a media context takes. -/
structure MediaJustified (C : BlockCrypto) (p : EngineParams) (heard : List Bytes) (received : Bytes)
    (result : Option Bytes × VoipActiveMediaContext D) : Prop where
  knows : p.KnowsNumber C (heard ++ [received]) result.2.lastRemoteSequence
  justified : ∀ bytes, result.1 = some bytes → p.Justified C (heard ++ [received]) bytes
  answers : ∀ packet, p.read C received = some packet → packet.type = .init →
    ∃ bytes ack, result.1 = some bytes ∧ p.peerReads C bytes = some ack ∧ ack.type = .initAck

/-- An Init is answered by the media context, too. -/
theorem mediaJustified_sendInitAck {ctx : VoipActiveMediaContext D} (random : ℕ → UInt8) {received : Bytes}
    {packet : VoipControlPacket} (hread : p.read C received = some packet) (htype : packet.type = .init)
    (hknows : p.KnowsNumber C (heard ++ [received]) ctx.lastRemoteSequence) :
    MediaJustified C p heard received (ctx.sendInitAck C p.keys p.localIsOutgoing random packet) := by
  have hfits : buildInitAckPayload.bytes.length ≤ maxPayloadBytes := by decide
  unfold VoipActiveMediaContext.sendInitAck
  have hack : p.KnowsNumber C (heard ++ [received])
      (if ctx.lastRemoteSequence = 0 then packet.sequence else ctx.lastRemoteSequence) := by
    split_ifs
    · exact knowsNumber_last hread
    · exact hknows
  generalize (if ctx.lastRemoteSequence = 0 then packet.sequence else ctx.lastRemoteSequence) = ackSeq at hack ⊢
  obtain ⟨wire, hsealed, hopen⟩ := openPacket_sealPacket C p.localIsOutgoing random p.keys.length_sharedKey
    p.keys.length_peerTag
    { type := .initAck
      ackSequence := ackSeq
      sequence := (takeNextSequence ctx.nextLocalSequence).1
      payload := buildInitAckPayload.bytes } hfits
  refine ⟨hknows, fun bytes hsent => ?_, fun _ _ _ => ⟨wire, _, hsealed, hopen, rfl⟩⟩
  obtain rfl : wire = bytes := Option.some.inj (hsealed.symm.trans hsent)
  exact ⟨_, hopen, .inr (.inl rfl), fun _ => ⟨rfl, htype ▸ heard_last hread⟩, hack⟩

/-- **A datagram of the media loop.** -/
theorem mediaJustified_receiveDatagram {ctx : VoipActiveMediaContext D} (random : ℕ → UInt8)
    (hknows : p.KnowsNumber C heard ctx.lastRemoteSequence) {received : Bytes} (hassumes : p.Assumes C received)
    (now : ℤ) :
    MediaJustified C p heard received (ctx.receiveDatagram C p.keys p.localIsOutgoing random received now) := by
  unfold VoipActiveMediaContext.receiveDatagram
  cases hread : openPacket C p.keys.sharedKey p.localIsOutgoing p.keys.peerTag received with
  | none =>
    refine ⟨hknows.later _, fun bytes hsent => (by cases hsent), fun packet hpacket _ => ?_⟩
    rw [EngineParams.read, hread] at hpacket
    cases hpacket
  | some packet =>
    have hpacket : p.read C received = some packet := hread
    have hnoted := knowsNumber_noteRemoteSequence_media hknows hpacket
    -- a packet that is not an Init needs no answer
    have hsilent : ∀ ctx' : VoipActiveMediaContext D, packet.type ≠ .init →
        p.KnowsNumber C (heard ++ [received]) ctx'.lastRemoteSequence →
        MediaJustified C p heard received (none, ctx') := by
      intro ctx' htype hknows'
      refine ⟨hknows', fun bytes hsent => (by cases hsent), fun q hq hinit => ?_⟩
      rw [hpacket] at hq
      cases hq
      exact absurd hinit htype
    dsimp only
    unfold VoipActiveMediaContext.handlePacket
    dsimp only
    cases htype : packet.type with
    | init => exact mediaJustified_sendInitAck random hpacket htype hnoted
    | initAck =>
      refine hsilent _ (by rw [htype]; decide) ?_
      split_ifs <;> exact hnoted
    | streamData =>
      refine hsilent _ (by rw [htype]; decide) ?_
      rw [lastRemoteSequence_insertAudio]
      exact hnoted
    | ping => exact absurd htype (hassumes packet hpacket).1
    | _ => exact hsilent _ (by rw [htype]; decide) hnoted

theorem justified_sendInit {ctx : VoipActiveMediaContext D} (random : ℕ → UInt8)
    (hknows : p.KnowsNumber C heard ctx.lastRemoteSequence) {bytes : Bytes}
    (hsent : (ctx.sendInit C p.keys p.localIsOutgoing random).1 = some bytes) : p.Justified C heard bytes := by
  set packet : VoipControlPacket :=
    { type := .init
      ackSequence := ctx.lastRemoteSequence
      sequence := (takeNextSequence ctx.nextLocalSequence).1
      payload := (buildInitPayload false).bytes } with hpacket
  have hsealed : sealPacket C p.keys.sharedKey p.localIsOutgoing p.keys.peerTag random (encodeShort packet)
      = some bytes := hsent
  have hopen := openPacket_of_sealPacket p.keys.length_sharedKey p.keys.length_peerTag hsealed
  refine ⟨_, hopen, .inl rfl, fun h => ?_, hknows⟩
  cases h

theorem justified_encodeAndSendAudioFrame {ctx : VoipActiveMediaContext D} (random : ℕ → UInt8)
    (hknows : p.KnowsNumber C heard ctx.lastRemoteSequence) {opus bytes : Bytes}
    (hsent : (ctx.encodeAndSendAudioFrame C p.keys p.localIsOutgoing random opus).1 = some bytes) :
    p.Justified C heard bytes := by
  obtain ⟨-, -, hopen⟩ := VoipActiveMediaContext.encodeAndSendAudioFrame_some hsent
  refine ⟨_, hopen, .inr (.inr rfl), fun h => ?_, hknows⟩
  cases h

theorem lastRemoteSequence_encodeAndSendAudioFrame (ctx : VoipActiveMediaContext D) (random : ℕ → UInt8)
    (opus : Bytes) :
    (ctx.encodeAndSendAudioFrame C p.keys p.localIsOutgoing random opus).2.lastRemoteSequence
      = ctx.lastRemoteSequence := by
  unfold VoipActiveMediaContext.encodeAndSendAudioFrame
  split_ifs
  · rfl
  · dsimp only
    split <;> rfl

/-- **A turn of the media context.** -/
structure MediaTurnJustified (C : BlockCrypto) (p : EngineParams) (heard brought : List Bytes)
    (result : Option Bytes × VoipActiveMediaContext D) : Prop where
  knows : p.KnowsNumber C (heard ++ brought) result.2.lastRemoteSequence
  justified : ∀ bytes, result.1 = some bytes → p.Justified C (heard ++ brought) bytes
  answers : ∀ received ∈ brought, ∀ packet, p.read C received = some packet → packet.type = .init →
    ∃ bytes ack, result.1 = some bytes ∧ p.peerReads C bytes = some ack ∧ ack.type = .initAck

theorem mediaTurnJustified_nil {result : Option Bytes × VoipActiveMediaContext D}
    (hknows : p.KnowsNumber C heard result.2.lastRemoteSequence)
    (hjustified : ∀ bytes, result.1 = some bytes → p.Justified C heard bytes) :
    MediaTurnJustified C p heard [] result where
  knows := hknows.later _
  justified := fun bytes hsent => (hjustified bytes hsent).later _
  answers := fun _ hmem => absurd hmem List.not_mem_nil

theorem mediaTurnJustified_turn {ctx : VoipActiveMediaContext D}
    (hknows : p.KnowsNumber C heard ctx.lastRemoteSequence) (turn : MediaTurn)
    (hassumes : ∀ received ∈ turn.brings, p.Assumes C received) (input : SendInput) :
    MediaTurnJustified C p heard turn.brings
      (CallContext.turn C { keys := p.keys, localIsOutgoing := p.localIsOutgoing, ctx := ctx } input turn) := by
  cases turn with
  | audio opus =>
    have hlast := lastRemoteSequence_encodeAndSendAudioFrame (C := C) (p := p) ctx input.random opus
    have hjustified : ∀ bytes, (ctx.encodeAndSendAudioFrame C p.keys p.localIsOutgoing input.random opus).1 = some bytes →
        p.Justified C heard bytes := fun _ hsent => justified_encodeAndSendAudioFrame input.random hknows hsent
    unfold CallContext.turn
    dsimp only
    generalize ctx.encodeAndSendAudioFrame C p.keys p.localIsOutgoing input.random opus = sent at hlast hjustified ⊢
    obtain ⟨_ | bytes, ctx'⟩ := sent
    · refine mediaTurnJustified_nil ?_ hjustified
      rw [hlast]
      exact hknows
    · refine mediaTurnJustified_nil ?_ hjustified
      dsimp only
      split_ifs
      · rw [hlast]
        exact hknows
      · exact hknows
  | init => exact mediaTurnJustified_nil hknows fun bytes hsent => justified_sendInit input.random hknows hsent
  | receive received now calls =>
    have hassumed : p.Assumes C received := hassumes received (List.mem_singleton.2 rfl)
    obtain ⟨hknows', hjustified, hanswers⟩ := mediaJustified_receiveDatagram input.random hknows hassumed now
    refine ⟨hknows', hjustified, fun bytes hmem packet hread htype => ?_⟩
    rw [List.mem_singleton.1 hmem] at hread
    exact hanswers packet hread htype

end

/-! ### The promise -/

theorem agreed_of_ended (h : p.Ended C heard s) (hok : s.outcome.error.kind = .none) :
    Agreed s ∧ p.Heard C heard .initAck := by
  rcases h with hagreed | htimeout
  · exact hagreed
  · rw [hok] at htimeout
    cases htimeout

theorem inv_handshakeTurn (h : p.Inv C (.handshaking s : EngineSide D) heard sent) {turn : HandshakeTurn}
    (hworks : SocketsWork (.handshakeTurn turn))
    (hassumes : ∀ bytes ∈ receivedDatagrams (socketSince s (s.turn C p.handshake p.deadline turn).state),
      p.Assumes C bytes) :
    p.Inv C (EngineSide.step C p (.handshaking s : EngineSide D) (.handshakeTurn turn))
        (heard ++ EngineSide.hears C p (.handshaking s : EngineSide D) (.handshakeTurn turn))
        (sent ++ EngineSide.sends C p (.handshaking s : EngineSide D) (.handshakeTurn turn)) ∧
      ∀ bytes ∈ EngineSide.sends C p (.handshaking s : EngineSide D) (.handshakeTurn turn),
        p.Justified C (heard ++ EngineSide.hears C p (.handshaking s : EngineSide D) (.handshakeTurn turn)) bytes := by
  obtain ⟨⟨hok, hknows⟩, hanswers⟩ := h
  obtain ⟨events, hprogresses⟩ := progresses_turn hok hknows hworks hassumes
  unfold EngineSide.hears EngineSide.sends
  dsimp only
  rw [socketSince_append hprogresses.socket_eq]
  refine ⟨⟨?_, hprogresses.answers sent hanswers⟩, hprogresses.sends⟩
  have hstage := hprogresses.stage
  unfold EngineSide.step
  dsimp only
  generalize s.turn C p.handshake p.deadline turn = progress at hstage ⊢
  cases progress with
  | goesOn s' => exact hstage
  | returns s' => exact hstage

theorem inv_mediaTurn {c : CallContext D} (h : p.Inv C (.active s c : EngineSide D) heard sent) {turn : MediaTurn}
    {input : SendInput} (hworks : SocketsWork (.mediaTurn turn input))
    (hassumes : ∀ bytes ∈ turn.brings, p.Assumes C bytes) :
    p.Inv C (EngineSide.step C p (.active s c : EngineSide D) (.mediaTurn turn input))
        (heard ++ turn.brings) (sent ++ EngineSide.sends C p (.active s c : EngineSide D) (.mediaTurn turn input)) ∧
      ∀ bytes ∈ EngineSide.sends C p (.active s c : EngineSide D) (.mediaTurn turn input),
        p.Justified C (heard ++ turn.brings) bytes := by
  obtain ⟨⟨⟨hagreed, hacked⟩, hkeys, hout, hknows⟩, hanswers⟩ := h
  obtain ⟨keys, localIsOutgoing, ctx⟩ := c
  subst hkeys hout
  obtain ⟨hknows', hjustified, hanswered⟩ := mediaTurnJustified_turn hknows turn hassumes input
  have hsends : EngineSide.sends C p
      (.active s { keys := p.keys, localIsOutgoing := p.localIsOutgoing, ctx := ctx } : EngineSide D)
      (.mediaTurn turn input)
        = (CallContext.turn C { keys := p.keys, localIsOutgoing := p.localIsOutgoing, ctx := ctx } input
            turn).1.toList := by
    unfold EngineSide.sends
    dsimp only
    cases (CallContext.turn C { keys := p.keys, localIsOutgoing := p.localIsOutgoing, ctx := ctx } input turn).1 with
    | none => rfl
    | some bytes => rw [Option.filter_some, if_pos (hworks bytes)]
  rw [hsends]
  unfold EngineSide.step
  dsimp only
  generalize CallContext.turn C { keys := p.keys, localIsOutgoing := p.localIsOutgoing, ctx := ctx } input turn = result
    at hknows' hjustified hanswered ⊢
  obtain ⟨given, ctx'⟩ := result
  refine ⟨⟨⟨⟨hagreed, hacked.later _⟩, rfl, rfl, hknows'⟩, ?_⟩, ?_⟩
  · intro bytes hmem packet hread htype hplain
    rcases List.mem_append.1 hmem with hmem | hmem
    · obtain ⟨answer, hanswer, hack⟩ := hanswers bytes hmem packet hread htype hplain
      exact ⟨answer, List.mem_append_left _ hanswer, hack⟩
    · obtain ⟨answer, ack, hgiven, hack⟩ := hanswered bytes hmem packet hread htype
      exact ⟨answer, List.mem_append_right _ (Option.mem_toList.2 hgiven), ack, hack⟩
  · intro bytes hmem
    exact hjustified bytes (Option.mem_toList.1 hmem)

theorem inv_quiet {side : EngineSide D} (h : p.Inv C side heard sent) : p.Inv C side (heard ++ []) (sent ++ []) := by
  rwa [List.append_nil, List.append_nil]

/-- **What a side promises**, from the loop of its handshake to its media context. -/
theorem keeps_engineSide (C : BlockCrypto) (p : EngineParams) (D : Smoothing) :
    Keeps (EngineSide.party C p D) (fun _ => SocketsWork) (p.Assumes C) (p.Inv C) (p.Justified C) where
  step := by
    intro side heard sent i h hworks hassumes
    cases side with
    | handshaking s =>
      cases i with
      | handshakeTurn turn => exact (inv_handshakeTurn h hworks hassumes).1
      | openAudio => exact inv_quiet h
      | mediaTurn turn input => exact inv_quiet h
    | returned s =>
      cases i with
      | handshakeTurn turn => exact inv_quiet h
      | openAudio =>
        refine inv_quiet ⟨?_, h.2⟩
        obtain ⟨⟨hended, hknows⟩, -⟩ := h
        show p.Stage C heard (EngineSide.step C p (.returned s : EngineSide D) .openAudio)
        unfold EngineSide.step
        dsimp only
        split_ifs with hok
        · exact ⟨agreed_of_ended hended hok, rfl, rfl, hknows⟩
        · exact ⟨hended, hknows⟩
      | mediaTurn turn input => exact inv_quiet h
    | active s c =>
      cases i with
      | handshakeTurn turn => exact inv_quiet h
      | openAudio => exact inv_quiet h
      | mediaTurn turn input => exact (inv_mediaTurn h hworks hassumes).1
  sends := by
    intro side heard sent i h hworks hassumes bytes hmem
    cases side with
    | handshaking s =>
      cases i with
      | handshakeTurn turn => exact (inv_handshakeTurn h hworks hassumes).2 bytes hmem
      | openAudio => exact absurd hmem List.not_mem_nil
      | mediaTurn turn input => exact absurd hmem List.not_mem_nil
    | returned s => cases i <;> exact absurd hmem List.not_mem_nil
    | active s c =>
      cases i with
      | handshakeTurn turn => exact absurd hmem List.not_mem_nil
      | openAudio => exact absurd hmem List.not_mem_nil
      | mediaTurn turn input => exact (inv_mediaTurn h hworks hassumes).2 bytes hmem
  later := fun h more => h.later more

/-! ### The handshake of a side -/

/-- At the start of the loop of a handshake, with the counters of a new session. -/
structure LoopStart (s : HandshakeState) : Prop where
  error_eq : s.outcome.error = {}
  lastRemoteSequence_eq : s.lastRemoteSequence = 0

/-- The turns of the side are the loop of the handshake. -/
theorem run_handshakeTurns (C : BlockCrypto) (p : EngineParams) (turns : List HandshakeTurn) (s : HandshakeState) :
    run (EngineSide.step C p) (.handshaking s : EngineSide D) (turns.map .handshakeTurn)
      = (s.loop C p.handshake p.deadline turns).side := by
  have hreturned : ∀ (turns : List HandshakeTurn) (s : HandshakeState),
      run (EngineSide.step C p) (.returned s : EngineSide D) (turns.map .handshakeTurn) = .returned s := by
    intro turns s
    induction turns with
    | nil => rfl
    | cons turn turns ih => exact ih
  induction turns generalizing s with
  | nil => rfl
  | cons turn turns ih =>
    rw [List.map_cons, run_cons]
    have hstep : EngineSide.step C p (.handshaking s : EngineSide D) (.handshakeTurn turn)
        = (s.turn C p.handshake p.deadline turn).side := rfl
    rw [hstep]
    unfold HandshakeState.loop
    generalize s.turn C p.handshake p.deadline turn = progress
    cases progress with
    | goesOn s' => exact ih s'
    | returns s' => exact hreturned turns s'

/-- **The handshake of a side is `RunControlHandshake`**, once the reflector has been sent its two requests. -/
theorem runControlHandshake_eq_run (C : BlockCrypto) (p : EngineParams) (next : UInt32) {input : HandshakeInput}
    (hdeadline : p.deadline = input.startedAt + kControlHandshakeTimeoutMs * ticksPerMs)
    (hfirst : ∀ bytes, (input.firstWarmup bytes).success = true)
    (hsecond : ∀ bytes, (input.secondWarmup bytes).success = true) :
    ∃ s, LoopStart s ∧ (runControlHandshake C p.handshake true next 0 input).side
      = run (EngineSide.step C p) (.handshaking s : EngineSide D) (input.turns.map .handshakeTurn) := by
  have hbuilt :
      (VoipReflectorPacketCodec.buildSelfInfoRequest p.handshake.peerTag p.handshake.queryId).success = true :=
    VoipReflectorPacketCodec.buildSelfInfoRequest_success_iff.2 p.keys.length_peerTag
  -- what is accepted leaves no error and hears nothing
  have hsend : ∀ (s : HandshakeState) (bytes : Bytes) (answer : Bytes → VoipReflectorDatagramResult),
      LoopStart s → (∀ bytes, (answer bytes).success = true) →
      LoopStart (s.send bytes answer).1 ∧ (s.send bytes answer).2 = none := by
    intro s bytes answer hstart haccepts
    obtain ⟨-, hlast, herror⟩ := HandshakeState.send_frame (s := s) bytes answer
    refine ⟨⟨herror.trans hstart.error_eq, hlast.trans hstart.lastRemoteSequence_eq⟩, ?_⟩
    simp [HandshakeState.send, haccepts]
  unfold runControlHandshake
  dsimp only
  rw [if_neg (by decide), if_neg (by rw [hbuilt]; decide)]
  generalize hinitial : ({ nextInitAt := input.firstInitAt, nextLocalSequence := next, lastRemoteSequence := 0 } :
    HandshakeState) = s₀
  have hstart : LoopStart s₀ := by
    subst hinitial
    exact ⟨rfl, rfl⟩
  obtain ⟨hstart₁, hnone₁⟩ := hsend s₀ (VoipReflectorPacketCodec.buildSelfInfoRequest p.handshake.peerTag
    p.handshake.queryId).bytes input.firstWarmup hstart hfirst
  generalize s₀.send _ input.firstWarmup = sent at hstart₁ hnone₁ ⊢
  obtain ⟨s₁, error⟩ := sent
  subst hnone₁
  obtain ⟨hstart₂, hnone₂⟩ := hsend s₁ (VoipReflectorPacketCodec.buildSelfInfoRequest p.handshake.peerTag
    p.handshake.queryId).bytes input.secondWarmup hstart₁ hsecond
  dsimp only
  generalize s₁.send _ input.secondWarmup = sent at hstart₂ hnone₂ ⊢
  obtain ⟨s₂, error⟩ := sent
  subst hnone₂
  refine ⟨s₂, hstart₂, ?_⟩
  rw [run_handshakeTurns, hdeadline]

/-! ### The two sides -/

/-- The other side of the call: the same keys, the other direction. -/
def EngineParams.Faces (p q : EngineParams) : Prop := q.keys = p.keys ∧ q.localIsOutgoing = !p.localIsOutgoing

/-- A datagram that does not open under the key of the call. -/
def EngineParams.Foreign (C : BlockCrypto) (p : EngineParams) (bytes : Bytes) : Prop := p.read C bytes = none

theorem EngineParams.Faces.symm {q : EngineParams} (h : p.Faces q) : q.Faces p :=
  ⟨h.1.symm, by rw [h.2, Bool.not_not]⟩

/-- What one side sends is what the other reads. -/
theorem EngineParams.Faces.read_eq {q : EngineParams} (h : p.Faces q) (bytes : Bytes) :
    q.read C bytes = p.peerReads C bytes := by
  rw [EngineParams.read, EngineParams.peerReads, h.1, h.2]

theorem assumes_of_foreign {bytes : Bytes} (h : p.Foreign C bytes) : p.Assumes C bytes := by
  intro packet hread
  have hclosed : p.read C bytes = none := h
  rw [hclosed] at hread
  cases hread

theorem assumes_of_justified {q : EngineParams} (h : p.Faces q) {bytes : Bytes}
    (hjustified : p.Justified C heard bytes) : q.Assumes C bytes := by
  intro packet hread
  obtain ⟨sent, hsent, hpacket⟩ := hjustified
  rw [h.read_eq, hsent] at hread
  cases hread
  refine ⟨fun hping => ?_, fun hack => (hpacket.initAck hack).1⟩
  rcases hpacket.type_eq with htype | htype | htype <;>
    · rw [htype] at hping
      cases hping

/-- The two sides at the start of their loops. -/
def callStart (s t : HandshakeState) : Net (EngineSide D) (EngineSide D) Bytes where
  left := .handshaking s
  right := .handshaking t

/-- **A run of the call**: the sockets do their work, and what comes in has been sent by the other side or does not open
under the key of the call. -/
def CallRun (C : BlockCrypto) (D : Smoothing) (p q : EngineParams) (s t : HandshakeState)
    (is : List (SideInput ⊕ SideInput)) : Prop :=
  Guarded (Net.step (EngineSide.party C p D) (EngineSide.party C q D))
    (fun n i => Allows (fun _ => SocketsWork) (fun _ => SocketsWork) n i ∧
      Delivers (EngineSide.party C p D) (EngineSide.party C q D) (p.Foreign C) (q.Foreign C) n i)
    (callStart s t) is

/-- The call behind a run. -/
def callAfter (C : BlockCrypto) (D : Smoothing) (p q : EngineParams) (s t : HandshakeState)
    (is : List (SideInput ⊕ SideInput)) : Net (EngineSide D) (EngineSide D) Bytes :=
  run (Net.step (EngineSide.party C p D) (EngineSide.party C q D)) (callStart s t) is

theorem sound_callAfter {q : EngineParams} (hfaces : p.Faces q) {s t : HandshakeState} (hs : LoopStart s)
    (ht : LoopStart t) {is : List (SideInput ⊕ SideInput)} (hrun : CallRun C D p q s t is) :
    Sound (p.Foreign C) (q.Foreign C) (p.Inv C) (q.Inv C) (p.Justified C) (q.Justified C)
      (callAfter C D p q s t is) := by
  have hinv : ∀ {p : EngineParams} {s : HandshakeState}, LoopStart s →
      p.Inv C (.handshaking s : EngineSide D) [] [] := fun hstart =>
    ⟨⟨hstart.error_eq, .inl hstart.lastRemoteSequence_eq⟩, fun _ hmem => absurd hmem List.not_mem_nil⟩
  refine sound_run (keeps_engineSide C p D) (keeps_engineSide C q D) (fun heard m hm => ?_) (fun heard m hm => ?_)
    (sound_start (hinv hs) (hinv ht)) hrun
  · exact hm.elim (assumes_of_justified hfaces.symm) assumes_of_foreign
  · exact hm.elim (assumes_of_justified hfaces) assumes_of_foreign

/-! ### Safety -/

/-- The handshake of a side has returned without an error. -/
def EngineSide.Succeeded : EngineSide D → Prop
  | .handshaking _ => False
  | .returned s => s.outcome.error.kind = .none
  | .active _ _ => True

instance : DecidablePred (EngineSide.Succeeded (D := D))
  | .handshaking _ => inferInstanceAs (Decidable False)
  | .returned s => inferInstanceAs (Decidable (s.outcome.error.kind = .none))
  | .active _ _ => inferInstanceAs (Decidable True)

/-- A handshake that has returned has agreed on the version and the frames, or its time was over. -/
def EngineSide.EndsWell : EngineSide D → Prop
  | .handshaking s => s.outcome.error = {}
  | .returned s => Agreed s ∨ s.outcome.error.kind = .handshakeTimeout
  | .active s _ => Agreed s

/-- **One side against the other.** -/
structure SideSafe (C : BlockCrypto) (p q : EngineParams) (side : EngineSide D)
    (sent received heardByOther : List Bytes) : Prop where
  endsWell : side.EndsWell
  /-- It has not succeeded before the other side has heard an Init packet of it. -/
  heard : side.Succeeded → ∃ bytes ∈ heardByOther, bytes ∈ sent ∧ ∃ packet, q.read C bytes = some packet ∧
    packet.type = .init
  /-- It acknowledges nothing that the other side has not sent. -/
  acknowledges : ∀ bytes ∈ sent, ∃ packet, q.read C bytes = some packet ∧
    (packet.ackSequence = 0 ∨ ∃ other ∈ received, ∃ acked, p.read C other = some acked ∧
      acked.sequence = packet.ackSequence)

theorem sideSafe_of_inv {q : EngineParams} (hfaces : p.Faces q) {side : EngineSide D}
    {received heardByOther : List Bytes} (hinv : p.Inv C side heard sent) (hsent : ∀ m ∈ sent, p.Justified C heard m)
    (hheard : ∀ m ∈ heard, m ∈ received ∨ p.Foreign C m) (hreceived : ∀ m ∈ received, q.Justified C heardByOther m)
    (hother : ∀ m ∈ heardByOther, m ∈ sent ∨ q.Foreign C m) : SideSafe C p q side sent received heardByOther := by
  -- what opens under the key is no stranger's
  have hfrom : ∀ m ∈ heard, ∀ packet, p.read C m = some packet → m ∈ received := by
    intro m hm packet hread
    refine (hheard m hm).resolve_right fun hclosed => ?_
    have hnone : p.read C m = none := hclosed
    rw [hnone] at hread
    cases hread
  refine ⟨?_, fun hsucceeded => ?_, fun bytes hmem => ?_⟩
  · cases side with
    | handshaking s => exact hinv.1.1
    | returned s => exact hinv.1.1.imp_left And.left
    | active s c => exact hinv.1.1.1
  · have hack : p.Heard C heard .initAck := by
      cases side with
      | handshaking s => exact hsucceeded.elim
      | returned s => exact (agreed_of_ended hinv.1.1 hsucceeded).2
      | active s c => exact hinv.1.1.2
    obtain ⟨ackBytes, hmem, ack, hread, htype⟩ := hack
    -- the InitAck has been sent by the other side, which has heard an Init
    obtain ⟨packet, hpacket, hjustified⟩ := hreceived ackBytes (hfrom ackBytes hmem ack hread)
    rw [← hfaces.symm.read_eq, hread] at hpacket
    cases hpacket
    obtain ⟨bytes, hinit, init, hinitRead, hinitType⟩ := (hjustified.initAck htype).2
    refine ⟨bytes, hinit, (hother bytes hinit).resolve_right fun hclosed => ?_, init, hinitRead, hinitType⟩
    have hnone : q.read C bytes = none := hclosed
    rw [hnone] at hinitRead
    cases hinitRead
  · obtain ⟨packet, hread, hjustified⟩ := hsent bytes hmem
    refine ⟨packet, (hfaces.read_eq bytes).trans hread, hjustified.acknowledges.imp_right ?_⟩
    rintro ⟨other, hheardOther, acked, hacked, hnumber⟩
    exact ⟨other, hfrom other hheardOther acked hacked, acked, hacked, hnumber⟩

/-- **The two handshakes of a call are safe.**  Whatever the network between the two sides loses, delays, duplicates and
reorders, and whatever comes in that does not open under the key: each handshake that returns has agreed on version 9
and on frames of 60 ms, or its time was over; it has not succeeded before the other side has heard an Init packet of it;
and no packet of the two, in the handshakes or behind them, acknowledges a number that the other side has not sent. -/
theorem handshake_pair_safe {q : EngineParams} (hfaces : p.Faces q) {s t : HandshakeState} (hs : LoopStart s)
    (ht : LoopStart t) {is : List (SideInput ⊕ SideInput)} (hrun : CallRun C D p q s t is) :
    SideSafe C p q (callAfter C D p q s t is).left (callAfter C D p q s t is).toRight (callAfter C D p q s t is).toLeft
        (callAfter C D p q s t is).heardRight ∧
      SideSafe C q p (callAfter C D p q s t is).right (callAfter C D p q s t is).toLeft
        (callAfter C D p q s t is).toRight (callAfter C D p q s t is).heardLeft := by
  have hsound := sound_callAfter hfaces hs ht hrun
  exact ⟨sideSafe_of_inv hfaces hsound.left hsound.toRight hsound.heardLeft hsound.toLeft hsound.heardRight,
    sideSafe_of_inv hfaces.symm hsound.right hsound.toLeft hsound.heardRight hsound.toRight hsound.heardLeft⟩

/-! ### Progress -/

theorem handleDatagram_initAck (hok : s.outcome.error = {}) {received : VoipReflectorDatagramResult}
    (hplain : ¬ p.LooksLikeSelfInfo received.bytes) {packet : VoipControlPacket}
    (hread : p.read C received.bytes = some packet) (htype : packet.type = .initAck)
    (hpayload : packet.payload = buildInitAckPayload.bytes) (input : SendInput) :
    ∃ s', s.handleDatagram C p.handshake received input = .returns s' ∧ Agreed s' := by
  unfold HandshakeState.handleDatagram
  dsimp only
  have hnot : ¬ (parseSelfInfoResponse received.bytes p.handshake.peerTag).success = true := hplain
  rw [if_neg hnot]
  have hopen : openPacket C p.handshake.sharedKey p.handshake.localIsOutgoing p.handshake.peerTag received.bytes
      = some packet := hread
  unfold openPacket at hopen
  dsimp only at hopen
  split_ifs at hopen with hdecrypted hdecoded
  rw [if_neg hdecrypted, if_neg hdecoded, Option.some.inj hopen]
  have hnoted : ((s.countReceived received).noteRemoteSequence packet.sequence).outcome.error = {} := by
    rw [(noteRemoteSequence_frame _ _).2]
    exact hok
  obtain ⟨s', hreturns, hagreed, -⟩ := agreed_handlePacket (C := C) (p := p) hnoted htype hpayload input
  exact ⟨s', hreturns, hagreed⟩

/-- A turn, in time, in which an InitAck of the other side is received. -/
theorem agreed_turn (hok : s.outcome.error = {}) (hknows : p.KnowsNumber C heard s.lastRemoteSequence)
    {turn : HandshakeTurn} (hworks : SocketsWork (.handshakeTurn turn)) (hintime : turn.checkedAt < p.deadline)
    (hattempts : s.initAttempts < kMaxInitAttempts) {answer : Bytes}
    (hreceives : ∀ ms, (turn.receive ms).success = true ∧ (turn.receive ms).bytes = answer)
    (hplain : ¬ p.LooksLikeSelfInfo answer) {packet : VoipControlPacket} (hread : p.read C answer = some packet)
    (htype : packet.type = .initAck) (hpayload : packet.payload = buildInitAckPayload.bytes) :
    ∃ s', s.turn C p.handshake p.deadline turn = .returns s' ∧ Agreed s' := by
  obtain ⟨hnone, _, -, hfront⟩ := progresses_sendInitIfDue (C := C) hok hknows hworks.1
  have hgoes : 0 < remainingMs p.deadline turn.checkedAt ∧ s.initAttempts < kMaxInitAttempts :=
    ⟨(remainingMs_pos_iff ..).2 hintime, hattempts⟩
  unfold HandshakeState.turn
  rw [if_neg (not_not_intro hgoes)]
  generalize s.sendInitIfDue C p.handshake turn = sent at hnone hfront ⊢
  obtain ⟨s₁, error⟩ := sent
  subst hnone
  dsimp only
  generalize (if remainingMs p.deadline turn.waitsFrom < 250 then remainingMs p.deadline turn.waitsFrom else 250)
    = waitMs
  obtain ⟨hsuccess, hbytes⟩ := hreceives waitMs
  rw [if_neg (by rw [hsuccess]; decide)]
  refine handleDatagram_initAck hfront.stage.1 ?_ ?_ htype hpayload _
  · rw [hbytes]
    exact hplain
  · rw [hbytes]
    exact hread

/-- **One side comes to its end**: once the other has heard an Init packet of it, there is an InitAck for it; and with
that, or any other InitAck of the other side, a turn of its loop ends the handshake, as long as the deadline has not
passed and an attempt is left.  What looks like a response of the reflector is taken for one. -/
def Completes (C : BlockCrypto) (p q : EngineParams) (side : EngineSide D) (received heardByOther : List Bytes) :
    Prop :=
  (∀ bytes ∈ heardByOther, ∀ init, q.read C bytes = some init → init.type = .init → ¬ q.LooksLikeSelfInfo bytes →
    ∃ answer ∈ received, ∃ ack, p.read C answer = some ack ∧ ack.type = .initAck) ∧
  ∀ answer ∈ received, ∀ ack, p.read C answer = some ack → ack.type = .initAck → ¬ p.LooksLikeSelfInfo answer →
    ∀ s turn, side = .handshaking s → SocketsWork (.handshakeTurn turn) → turn.checkedAt < p.deadline →
      s.initAttempts < kMaxInitAttempts →
      (∀ ms, (turn.receive ms).success = true ∧ (turn.receive ms).bytes = answer) →
      ∃ s', EngineSide.step C p side (.handshakeTurn turn) = .returned s' ∧ Agreed s'

theorem completes_of_inv {q : EngineParams} (hfaces : p.Faces q) {side : EngineSide D}
    {received heardByOther : List Bytes} (hinv : p.Inv C side heard sent)
    (hanswers : q.Answers C heardByOther received) (hreceived : ∀ m ∈ received, q.Justified C heardByOther m) :
    Completes C p q side received heardByOther := by
  refine ⟨fun bytes hmem init hread htype hplain => ?_,
    fun answer hmem ack hread htype hplain s turn hside hworks hintime hattempts hreceives => ?_⟩
  · obtain ⟨answer, hanswer, ack, hack, hackType⟩ := hanswers bytes hmem init hread htype hplain
    exact ⟨answer, hanswer, ack, (hfaces.symm.read_eq answer).trans hack, hackType⟩
  · subst hside
    have hpayload := (assumes_of_justified hfaces.symm (hreceived answer hmem) ack hread).2 htype
    obtain ⟨s', hreturns, hagreed⟩ :=
      agreed_turn hinv.1.1 hinv.1.2 hworks hintime hattempts hreceives hplain hread htype hpayload
    refine ⟨s', ?_, hagreed⟩
    unfold EngineSide.step
    dsimp only
    rw [hreturns]
    rfl

def sampleCaller : EngineParams where
  keys := System.sampleKeys
  localIsOutgoing := true
  queryId := 0
  deadline := kControlHandshakeTimeoutMs * ticksPerMs

def sampleCallee : EngineParams := { sampleCaller with localIsOutgoing := false }

theorem faces_sample : sampleCaller.Faces sampleCallee := ⟨rfl, rfl⟩

def sampleLoopStart : HandshakeState := { nextInitAt := 0, nextLocalSequence := 1, lastRemoteSequence := 0 }

/-- A turn at a time, in milliseconds, in which a datagram comes in. -/
def turnReceiving (ms : ℤ) (bytes : Bytes) : SideInput :=
  .handshakeTurn { silentTurn ms with receive := fun _ => { success := true, bytes := bytes } }

/-- The call behind a run of the samples. -/
def sampleCallAfter (is : List (SideInput ⊕ SideInput)) :
    Net (EngineSide System.sampleSmoothing) (EngineSide System.sampleSmoothing) Bytes :=
  callAfter sampleBlockCrypto System.sampleSmoothing sampleCaller sampleCallee sampleLoopStart sampleLoopStart is

/-- Both sides send their Init; the callee hears that of the caller, and the caller the InitAck for it. -/
def callerFirst : List (SideInput ⊕ SideInput) :=
  let first := [.inl (.handshakeTurn (silentTurn 0))]
  let second := first ++ [.inr (turnReceiving 10 ((sampleCallAfter first).toRight.getD 0 []))]
  second ++ [.inl (turnReceiving 20 ((sampleCallAfter second).toLeft.getD 1 []))]

/-- The caller answers the Init of the callee from its media loop. -/
def sampleCall : List (SideInput ⊕ SideInput) :=
  let answered := callerFirst ++ [.inl .openAudio,
    .inl (.mediaTurn (.receive ((sampleCallAfter callerFirst).toLeft.getD 0 []) 0 []) acceptedSend)]
  answered ++ [.inr (turnReceiving 30 ((sampleCallAfter answered).toRight.getD 1 []))]

/-- Only what the other side has sent comes in. -/
def bringsSent (n : Net (EngineSide System.sampleSmoothing) (EngineSide System.sampleSmoothing) Bytes) :
    SideInput ⊕ SideInput → Bool
  | .inl i => (EngineSide.hears sampleBlockCrypto sampleCaller n.left i).all n.toLeft.contains
  | .inr i => (EngineSide.hears sampleBlockCrypto sampleCallee n.right i).all n.toRight.contains

theorem callRun_sampleCall :
    CallRun sampleBlockCrypto System.sampleSmoothing sampleCaller sampleCallee sampleLoopStart sampleLoopStart
      sampleCall := by
  have hsent : Guarded (Net.step (EngineSide.party sampleBlockCrypto sampleCaller System.sampleSmoothing)
      (EngineSide.party sampleBlockCrypto sampleCallee System.sampleSmoothing)) (fun n i => bringsSent n i = true)
      (callStart sampleLoopStart sampleLoopStart) sampleCall := by decide +kernel
  have htimeout : isReceiveTimeout { error := "receive timed out" } = true := by decide
  have hworks : Guarded (Net.step (EngineSide.party sampleBlockCrypto sampleCaller System.sampleSmoothing)
      (EngineSide.party sampleBlockCrypto sampleCallee System.sampleSmoothing))
      (Allows (fun _ => SocketsWork) (fun _ => SocketsWork)) (callStart sampleLoopStart sampleLoopStart) sampleCall :=
    ⟨⟨fun _ => rfl, fun _ => rfl, fun _ => .inr htimeout⟩, ⟨fun _ => rfl, fun _ => rfl, fun _ => .inl rfl⟩,
      ⟨fun _ => rfl, fun _ => rfl, fun _ => .inl rfl⟩, trivial, fun _ => rfl,
      ⟨fun _ => rfl, fun _ => rfl, fun _ => .inl rfl⟩, trivial⟩
  refine (hworks.and hsent).mono fun n i h => ⟨h.1, ?_⟩
  cases i with
  | inl i => exact fun m hm => .inl (List.contains_iff_mem.1 (List.all_eq_true.1 h.2 m hm))
  | inr i => exact fun m hm => .inl (List.contains_iff_mem.1 (List.all_eq_true.1 h.2 m hm))

theorem succeeded_sampleCall :
    (sampleCallAfter sampleCall).left.Succeeded ∧ (sampleCallAfter sampleCall).right.Succeeded := by decide +kernel

theorem handshake_pair_safe_sampleCall :
    SideSafe sampleBlockCrypto sampleCaller sampleCallee (sampleCallAfter sampleCall).left
        (sampleCallAfter sampleCall).toRight (sampleCallAfter sampleCall).toLeft
        (sampleCallAfter sampleCall).heardRight ∧
      SideSafe sampleBlockCrypto sampleCallee sampleCaller (sampleCallAfter sampleCall).right
        (sampleCallAfter sampleCall).toLeft (sampleCallAfter sampleCall).toRight
        (sampleCallAfter sampleCall).heardLeft :=
  handshake_pair_safe faces_sample ⟨rfl, rfl⟩ ⟨rfl, rfl⟩ callRun_sampleCall

end VianiumVoip.Relay
