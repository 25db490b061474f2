import VianiumVoip.Relay.FirstInit
import VianiumVoip.Engine.StartMedia

/-!
# The media of a call

The classic path of `StartMedia` and `StopMedia`, over the whole life of a call: the loop over the endpoints with its
handshakes, the media contexts, and the three loops that send in a context.  Each handshake is started with copies of
the two counters of the session.  Those of the handshake that succeeds go into the media context; nothing goes back into
the session.

* `takesNumber_turn` — a turn of a loop takes at most one number, and sends nothing with another;
* `tryEndpoint_cases` — what an endpoint does, and when its first Init packet goes out.

The transport and the audio factory are bound.  A `StartMedia` that fails in its checks, or does not take the classic
path, changes nothing here.  The contexts of before may still send, since their loops look at `StopRequested` once a turn.
-/

namespace VianiumVoip.Relay

open VianiumVoip.Lib VianiumVoip.Lib.Run VianiumVoip.Domain VoipControlPacketCodec VoipPacketCrypto
open VoipStreamDataPacketCodec (encodeAudio)
open VianiumVoip.Engine
  (AudioAnswers CallSession CallStartDescriptor CountedSession EndpointAttempt VoipEndpoint VoipErrorKind handleForCall
    isClassicReflectorDescriptor orderedReflectorEndpoints)

/-! ### The call -/

/-- `QueryIdForCall` -/
def queryIdForCall (callId : ℤ) : UInt64 := (UInt64.ofInt callId <<< 1) ^^^ 0x5A17C011BADC0DE

/-- What the loop over the endpoints reads of a handshake. -/
def ControlHandshakeOutcome.summary (outcome : ControlHandshakeOutcome) : Engine.ControlHandshakeOutcome where
  error := if outcome.error.kind = .none then none else some outcome.error
  packetsSent := outcome.packetsSent
  packetsReceived := outcome.packetsReceived
  bytesSent := outcome.bytesSent
  bytesReceived := outcome.bytesReceived
  rttMs := outcome.rttMs
  selfInfoResponses := outcome.selfInfoResponses

/-- The answers of the platform for one endpoint.  The clock comes to the deadline of the handshake. -/
structure EndpointInput where
  created : Bool := true
  openError : Option String := none
  handshake : HandshakeInput
  deadline_comes : ∃ turn ∈ handshake.turns,
    handshake.startedAt + kControlHandshakeTimeoutMs * ticksPerMs ≤ turn.checkedAt

/-- A media context, with its copies of the key, the peer tag and the direction. -/
structure CallContext (D : Smoothing) where
  keys : RelayKeys
  localIsOutgoing : Bool
  ctx : VoipActiveMediaContext D

/-- A datagram that `Send` has accepted, with the peer tag of its endpoint. -/
structure WirePacket where
  peerTag : Bytes
  bytes : Bytes

/-- How far a `StartMedia` has come. -/
inductive StartPhase
  | idle
  /-- In its loop, with the endpoints that have not been tried. -/
  | trying (descriptor : CallStartDescriptor) (rest : List VoipEndpoint)
  /-- Behind the loop. -/
  | selected (endpoint : VoipEndpoint) (handshake : HandshakeState)

/-- The call: its record in `m_calls`, `m_mediaSession`, the media contexts there have been, and what has gone out over
all its sockets.  `numbered` counts the numbers that were taken. -/
structure CallMedia (D : Smoothing) where
  session : CallSession
  mediaSession : CountedSession := {}
  phase : StartPhase := .idle
  contexts : List (CallContext D) := []
  wire : List WirePacket := []
  numbered : ℕ := 0

/-- A turn of one of the three loops of a media context. -/
inductive MediaTurn
  /-- `MediaSendLoop`, behind the audio codec. -/
  | audio (opus : Bytes)
  /-- `InitLoop` -/
  | init
  /-- `MediaReceiveLoop`, which drains at the times of `calls`. -/
  | receive (received : Bytes) (now : ℤ) (calls : List ℤ)

inductive CallEvent
  /-- `StartMedia`, up to its loop. -/
  | startMedia (descriptor : CallStartDescriptor)
  /-- The loop takes an endpoint. -/
  | tryEndpoint (input : EndpointInput)
  /-- The audio device and the codec, and the media context. -/
  | openAudio (answers : AudioAnswers)
  | stopMedia
  /-- A turn in the `i`-th context. -/
  | turn (i : ℕ) (turn : MediaTurn) (input : SendInput)

variable {D : Smoothing} (C : BlockCrypto)

/-- The turn: the datagram that `Send` is given, if there is one, and the context. -/
def CallContext.turn (c : CallContext D) (input : SendInput) : MediaTurn → Option Bytes × VoipActiveMediaContext D
  | .audio opus =>
    match c.ctx.encodeAndSendAudioFrame C c.keys c.localIsOutgoing input.random opus with
    | (some bytes, sent) =>
      -- the counters and the timestamp go on behind an accepted packet only
      (some bytes, if (input.answer bytes).success then sent
        else { c.ctx with nextLocalSequence := sent.nextLocalSequence })
    | (none, unsent) => (none, unsent)
  | .init => c.ctx.sendInit C c.keys c.localIsOutgoing input.random
  | .receive received now calls =>
    let (answer, ctx) := c.ctx.receiveDatagram C c.keys c.localIsOutgoing input.random received now
    (answer, { ctx with jitter := (drainJitterToAudio ctx.jitter calls).2 })

/-- The keys of a context.  Without the right lengths no handshake succeeds. -/
def relayKeys? (sharedKey peerTag : Bytes) : Option RelayKeys :=
  if h : sharedKey.length = kSharedKeyBytes ∧ peerTag.length = kPeerTagBytes then
    some { sharedKey := sharedKey, peerTag := peerTag, length_sharedKey := h.1, length_peerTag := h.2 }
  else none

namespace CallMedia

/-- `StartMedia` comes to its loop. -/
def comesToLoop (s : CallMedia D) (descriptor : CallStartDescriptor) : Bool :=
  0 < descriptor.callId ∧ descriptor.keyHandle ≠ "" ∧ s.session.callId = descriptor.callId ∧ s.session.sharedReady ∧
    handleForCall descriptor.callId = descriptor.keyHandle ∧
    isClassicReflectorDescriptor descriptor.toVoipCallStartDescriptor ∧
    orderedReflectorEndpoints descriptor.endpoints ≠ []

def startMedia (s : CallMedia D) (descriptor : CallStartDescriptor) : CallMedia D :=
  match s.phase with
  | .idle =>
    if s.comesToLoop descriptor then
      { s with phase := .trying descriptor (orderedReflectorEndpoints descriptor.endpoints) }
    else s
  | _ => s

def handshakeParams (s : CallMedia D) (descriptor : CallStartDescriptor) (endpoint : VoipEndpoint) :
    HandshakeParams where
  peerTag := endpoint.peerTag
  queryId := queryIdForCall descriptor.callId
  sharedKey := s.session.sharedKey
  localIsOutgoing := !s.session.incoming

/-- `RunControlHandshake` over the socket of the endpoint, with copies of the counters of the session. -/
def handshake (s : CallMedia D) (descriptor : CallStartDescriptor) (endpoint : VoipEndpoint) (input : EndpointInput) :
    HandshakeState :=
  (runControlHandshake C (s.handshakeParams descriptor endpoint) true s.session.nextLocalSequence
    s.session.lastRemoteSequence input.handshake).state

/-- What a handshake has put on the wire. -/
def putOnWire (s : CallMedia D) (params : HandshakeParams) (handshake : HandshakeState) : CallMedia D :=
  { s with
    wire := s.wire ++ (acceptedSends handshake.socket).map (WirePacket.mk params.peerTag)
    numbered := s.numbered + (controlPackets C params handshake.socket).length }

/-- An endpoint has failed; behind the last one the session is stopped once more. -/
def endpointFailed (s : CallMedia D) (mediaSession : CountedSession) (descriptor : CallStartDescriptor) :
    List VoipEndpoint → CallMedia D
  | [] => { s with mediaSession := mediaSession.stop, phase := .idle }
  | rest => { s with mediaSession := mediaSession, phase := .trying descriptor rest }

def tryEndpoint (s : CallMedia D) (input : EndpointInput) : CallMedia D :=
  match s.phase with
  | .trying descriptor (endpoint :: rest) =>
    let handshake := s.handshake C descriptor endpoint input
    let attempt : EndpointAttempt :=
      { created := input.created, openError := input.openError, handshake := handshake.outcome.summary }
    match Engine.tryEndpoint descriptor s.mediaSession endpoint attempt with
    | (mediaSession, .failed none) => s.endpointFailed mediaSession descriptor rest
    | (mediaSession, .failed (some _)) =>
      (s.putOnWire C (s.handshakeParams descriptor endpoint) handshake).endpointFailed mediaSession descriptor rest
    | (mediaSession, .selected _) =>
      { s.putOnWire C (s.handshakeParams descriptor endpoint) handshake with
        mediaSession := mediaSession
        phase := .selected endpoint handshake }
  | _ => s

def openAudio (s : CallMedia D) (answers : AudioAnswers) : CallMedia D :=
  match s.phase with
  | .selected endpoint handshake =>
    match answers.error, relayKeys? s.session.sharedKey endpoint.peerTag with
    | none, some keys =>
      let active : VoipActiveMediaContext D :=
        { nextLocalSequence := handshake.nextLocalSequence
          lastRemoteSequence := handshake.lastRemoteSequence
          initAckReceived := handshake.outcome.error.kind = .none }
      { s with
        phase := .idle
        contexts := s.contexts ++ [{ keys := keys, localIsOutgoing := !s.session.incoming, ctx := active }] }
    | _, _ => { s with mediaSession := s.mediaSession.stop, phase := .idle }
  | _ => s

/-- A turn in the `i`-th context has given a datagram to `Send`, if there was one.  A number has been taken where the
counter has moved. -/
def afterTurn (s : CallMedia D) (i : ℕ) (c : CallContext D) (given : Option Bytes) (accepted : Bytes → Bool)
    (ctx : VoipActiveMediaContext D) : CallMedia D :=
  { s with
    contexts := s.contexts.set i { c with ctx := ctx }
    wire := s.wire ++ (given.filter accepted).toList.map (WirePacket.mk c.keys.peerTag)
    numbered := s.numbered + if ctx.nextLocalSequence = c.ctx.nextLocalSequence then 0 else 1 }

def mediaTurn (s : CallMedia D) (i : ℕ) (turn : MediaTurn) (input : SendInput) : CallMedia D :=
  match s.contexts[i]? with
  | none => s
  | some c =>
    let (given, ctx) := c.turn C input turn
    s.afterTurn i c given (fun bytes => (input.answer bytes).success) ctx

def step (s : CallMedia D) : CallEvent → CallMedia D
  | .startMedia descriptor => s.startMedia descriptor
  | .tryEndpoint input => s.tryEndpoint C input
  | .openAudio answers => s.openAudio answers
  | .stopMedia => { s with mediaSession := s.mediaSession.stop }
  | .turn i turn input => s.mediaTurn C i turn input

/-- The number of a packet under the key of the call. -/
def sequenceOf (session : CallSession) (packet : WirePacket) : Option UInt32 :=
  (openPacket C session.sharedKey (!!session.incoming) packet.peerTag packet.bytes).map VoipControlPacket.sequence

/-- The numbers that are on the wire. -/
def sequences (s : CallMedia D) : List UInt32 := s.wire.filterMap (sequenceOf C s.session)

/-- **The first Init packet for an endpoint goes out**: the session is prepared for the endpoint, its socket is created
and opened, and the first Init packet of the handshake goes out. -/
structure InitGoesOut (s : CallMedia D) (descriptor : CallStartDescriptor) (endpoint : VoipEndpoint)
    (input : EndpointInput) : Prop where
  prepared : (s.mediaSession.prepare descriptor.callId descriptor.keyHandle endpoint).2 = .ok ()
  created : input.created = true
  opened : input.openError = none
  firstInit : FirstInitGoesOut C (s.handshakeParams descriptor endpoint) s.session.nextLocalSequence
    s.session.lastRemoteSequence input.handshake

end CallMedia

/-! ### A turn in a context -/

variable {C}

/-- **What a turn does with the counter `next`**: it takes no number and sends nothing; or it takes one, and what it
sends has this number. -/
def TakesNumber (C : BlockCrypto) (keys : RelayKeys) (localIsOutgoing : Bool) (next : UInt32)
    (result : Option Bytes × VoipActiveMediaContext D) : Prop :=
  result.1 = none ∧ result.2.nextLocalSequence = next ∨
    result.2.nextLocalSequence = (takeNextSequence next).2 ∧ ∀ bytes, result.1 = some bytes →
      ∃ packet, openPacket C keys.sharedKey (!localIsOutgoing) keys.peerTag bytes = some packet ∧
        packet.sequence = (takeNextSequence next).1

section

variable {keys : RelayKeys} {localIsOutgoing : Bool} {random : ℕ → UInt8} {ctx : VoipActiveMediaContext D}

theorem takesNumber_sendControl (type : VoipControlPacketType) (ackSeq : UInt32) (payload : Bytes) :
    TakesNumber C keys localIsOutgoing ctx.nextLocalSequence
      (ctx.sendControl C keys localIsOutgoing random type ackSeq payload) :=
  .inr ⟨rfl, fun _ hsealed => ⟨_, openPacket_of_sealPacket keys.length_sharedKey keys.length_peerTag hsealed, rfl⟩⟩

theorem takesNumber_encodeAndSendAudioFrame (opus : Bytes) :
    TakesNumber C keys localIsOutgoing ctx.nextLocalSequence
      (ctx.encodeAndSendAudioFrame C keys localIsOutgoing random opus) := by
  by_cases hencoded : (encodeAudio defaultAudioStreamId ctx.audioTimestampOut opus).success = false
  · rw [VoipActiveMediaContext.encodeAndSendAudioFrame, if_pos hencoded]
    exact .inl ⟨rfl, rfl⟩
  · refine .inr ⟨?_, fun bytes hsent => ?_⟩
    · rw [VoipActiveMediaContext.encodeAndSendAudioFrame, if_neg hencoded]
      dsimp only
      split <;> rfl
    · exact ⟨_, (VoipActiveMediaContext.encodeAndSendAudioFrame_some hsent).2.2, rfl⟩

theorem nextLocalSequence_noteRemoteSequence (ctx : VoipActiveMediaContext D) (sequence : UInt32) :
    (ctx.noteRemoteSequence sequence).nextLocalSequence = ctx.nextLocalSequence := by
  unfold VoipActiveMediaContext.noteRemoteSequence
  split_ifs <;> rfl

theorem nextLocalSequence_insertAudio (packet : VoipControlPacket) (size : ℕ) (now : ℤ) :
    (ctx.insertAudio packet size now).nextLocalSequence = ctx.nextLocalSequence := by
  unfold VoipActiveMediaContext.insertAudio
  dsimp only
  split_ifs <;> rfl

theorem takesNumber_handlePacket (packet : VoipControlPacket) (size : ℕ) (now : ℤ) :
    TakesNumber C keys localIsOutgoing ctx.nextLocalSequence
      (ctx.handlePacket C keys localIsOutgoing random packet size now) := by
  have hnoted := nextLocalSequence_noteRemoteSequence ctx packet.sequence
  unfold VoipActiveMediaContext.handlePacket
  dsimp only
  rw [← hnoted]
  cases packet.type with
  | initAck =>
    dsimp only
    split_ifs <;> exact .inl ⟨rfl, rfl⟩
  | init => exact takesNumber_sendControl ..
  | streamData => exact .inl ⟨rfl, nextLocalSequence_insertAudio ..⟩
  | ping => exact takesNumber_sendControl ..
  | _ => exact .inl ⟨rfl, rfl⟩

theorem takesNumber_receiveDatagram (received : Bytes) (now : ℤ) :
    TakesNumber C keys localIsOutgoing ctx.nextLocalSequence
      (ctx.receiveDatagram C keys localIsOutgoing random received now) := by
  unfold VoipActiveMediaContext.receiveDatagram
  split
  · exact .inl ⟨rfl, rfl⟩
  · exact takesNumber_handlePacket ..

end

/-- **A turn takes at most one number**, and sends nothing with another. -/
theorem takesNumber_turn (c : CallContext D) (input : SendInput) (turn : MediaTurn) :
    TakesNumber C c.keys c.localIsOutgoing c.ctx.nextLocalSequence (c.turn C input turn) := by
  cases turn with
  | audio opus =>
    have hsent : TakesNumber C c.keys c.localIsOutgoing c.ctx.nextLocalSequence
        (c.ctx.encodeAndSendAudioFrame C c.keys c.localIsOutgoing input.random opus) :=
      takesNumber_encodeAndSendAudioFrame opus
    unfold CallContext.turn
    dsimp only
    generalize c.ctx.encodeAndSendAudioFrame C c.keys c.localIsOutgoing input.random opus = result at hsent ⊢
    obtain ⟨_ | bytes, sent⟩ := result
    · exact hsent
    · rcases hsent with ⟨hnone, -⟩ | ⟨hnext, hopened⟩
      · cases hnone
      · refine .inr ⟨?_, hopened⟩
        dsimp only
        split_ifs
        · exact hnext
        · exact hnext
  | init => exact takesNumber_sendControl ..
  | receive received now calls => exact takesNumber_receiveDatagram ..

/-! ### An endpoint -/

theorem markConnecting_of_prepare (m : CountedSession) (callId : ℤ) (keyHandle : String) (endpoint : VoipEndpoint)
    (h : (m.prepare callId keyHandle endpoint).2 = .ok ()) :
    (m.prepare callId keyHandle endpoint).1.markConnecting.2 = .ok () := by
  unfold CountedSession.prepare Engine.VoipMediaSession.prepare at h ⊢
  split_ifs at h ⊢
  rfl

/-- An endpoint fails before its handshake, or is judged by it. -/
theorem engine_tryEndpoint_cases (descriptor : CallStartDescriptor) (m : CountedSession) (endpoint : VoipEndpoint)
    (attempt : EndpointAttempt) :
    (∃ m', Engine.tryEndpoint descriptor m endpoint attempt = (m', .failed none) ∧
      ¬ ((m.prepare descriptor.callId descriptor.keyHandle endpoint).2 = .ok () ∧ attempt.created = true ∧
        attempt.openError = none)) ∨
    ((m.prepare descriptor.callId descriptor.keyHandle endpoint).2 = .ok () ∧ attempt.created = true ∧
      attempt.openError = none) ∧
      ∃ m', attempt.handshake.error.isSome = true ∧
          Engine.tryEndpoint descriptor m endpoint attempt = (m', .failed (some attempt.handshake)) ∨
        attempt.handshake.error = none ∧
          Engine.tryEndpoint descriptor m endpoint attempt = (m', .selected attempt.handshake) := by
  have hconnecting := markConnecting_of_prepare m descriptor.callId descriptor.keyHandle endpoint
  unfold Engine.tryEndpoint
  generalize m.prepare descriptor.callId descriptor.keyHandle endpoint = prepared at hconnecting ⊢
  obtain ⟨m₁, error | ⟨⟨⟩⟩⟩ := prepared
  · exact .inl ⟨_, rfl, fun h => nomatch h.1⟩
  have hconnecting := hconnecting rfl
  dsimp only at hconnecting ⊢
  generalize m₁.markConnecting = connecting at hconnecting ⊢
  obtain ⟨m₂, error | ⟨⟨⟩⟩⟩ := connecting
  · cases hconnecting
  dsimp only
  by_cases hcreated : attempt.created = true
  · rw [hcreated]
    cases hopen : attempt.openError with
    | some message => exact .inl ⟨_, rfl, fun h => nomatch h.2.2⟩
    | none =>
      refine .inr ⟨⟨rfl, rfl, rfl⟩, ?_⟩
      cases herror : attempt.handshake.error with
      | some error => exact ⟨_, .inl ⟨rfl, rfl⟩⟩
      | none => exact ⟨_, .inr ⟨rfl, rfl⟩⟩
  · refine .inl ⟨m₂.stop, ?_, fun h => hcreated h.2.1⟩
    rw [Bool.eq_false_of_not_eq_true hcreated]
    rfl

namespace CallMedia

variable {s : CallMedia D} {descriptor : CallStartDescriptor} {endpoint : VoipEndpoint} {rest : List VoipEndpoint}

/-- What there is to say of the handshake for an endpoint. -/
structure HandshakeFacts (C : BlockCrypto) (s : CallMedia D) (params : HandshakeParams) (goesOut : Prop)
    (handshake : HandshakeState) : Prop where
  sequences_eq : ∃ js, List.Sublist js (List.range (controlPackets C params handshake.socket).length) ∧
    acceptedSequences C params handshake.socket = js.map (sequenceAt s.session.nextLocalSequence)
  first_mem : goesOut → sequenceAt s.session.nextLocalSequence 0 ∈ acceptedSequences C params handshake.socket
  quiet : ¬ goesOut → acceptedSequences C params handshake.socket = [] ∧ handshake.outcome.error.kind ≠ .none
  counter_eq : handshake.outcome.error.kind = .none → sequenceAt handshake.nextLocalSequence 0
    = sequenceAt s.session.nextLocalSequence (controlPackets C params handshake.socket).length

theorem handshakeFacts (s : CallMedia D) (descriptor : CallStartDescriptor) (endpoint : VoipEndpoint)
    (input : EndpointInput) :
    HandshakeFacts C s (s.handshakeParams descriptor endpoint)
      (FirstInitGoesOut C (s.handshakeParams descriptor endpoint) s.session.nextLocalSequence
        s.session.lastRemoteSequence input.handshake) (s.handshake C descriptor endpoint input) := by
  obtain ⟨h, hreturns⟩ := runControlHandshake_returns C (s.handshakeParams descriptor endpoint) true
    s.session.nextLocalSequence s.session.lastRemoteSequence input.handshake input.deadline_comes
  have hgood := good_runControlHandshake C (s.handshakeParams descriptor endpoint) true s.session.nextLocalSequence
    s.session.lastRemoteSequence input.handshake
  have hcases := firstInit_cases C (s.handshakeParams descriptor endpoint) s.session.nextLocalSequence
    s.session.lastRemoteSequence input.handshake
  have hhandshake : s.handshake C descriptor endpoint input = h := by
    unfold handshake
    rw [hreturns]
    rfl
  rw [hreturns] at hgood hcases
  rw [hhandshake]
  refine ⟨hgood.1.exists_sublist_range, fun hout => ?_, fun hnot => ?_, fun hok => (hgood.2 hok).2⟩
  · rcases hcases with ⟨-, hmem⟩ | ⟨hnot, -⟩
    · exact hmem
    · exact absurd hout hnot
  · rcases hcases with ⟨hout, -⟩ | ⟨-, hquiet, herror⟩
    · exact absurd hout hnot
    · exact ⟨hquiet, herror h rfl⟩

theorem relayKeys?_isSome {input : EndpointInput}
    (hok : (s.handshake C descriptor endpoint input).outcome.error.kind = .none) :
    (relayKeys? s.session.sharedKey endpoint.peerTag).isSome = true := by
  have hfacts := handshakeFacts (C := C) s descriptor endpoint input
  have hout : FirstInitGoesOut C (s.handshakeParams descriptor endpoint) s.session.nextLocalSequence
      s.session.lastRemoteSequence input.handshake := by
    by_contra hnot
    exact (hfacts.quiet hnot).2 hok
  obtain ⟨turn, rest, -, -, haccepted⟩ := hout.firstTurn
  have hlengths : s.session.sharedKey.length = kSharedKeyBytes ∧ endpoint.peerTag.length = kPeerTagBytes :=
    ⟨haccepted.1, hout.tag⟩
  unfold relayKeys?
  rw [dif_pos hlengths]
  rfl

/-- **What an endpoint does**: it fails before its handshake; it fails in its handshake; or it is selected.  The first
Init packet can go out in the last two cases only. -/
theorem tryEndpoint_cases (hphase : s.phase = .trying descriptor (endpoint :: rest)) (input : EndpointInput) :
    (∃ m, s.tryEndpoint C input = s.endpointFailed m descriptor rest ∧ ¬ s.InitGoesOut C descriptor endpoint input) ∨
    HandshakeFacts C s (s.handshakeParams descriptor endpoint) (s.InitGoesOut C descriptor endpoint input)
        (s.handshake C descriptor endpoint input) ∧
      ∃ m, (s.handshake C descriptor endpoint input).outcome.error.kind ≠ .none ∧ s.tryEndpoint C input
            = (s.putOnWire C (s.handshakeParams descriptor endpoint)
                (s.handshake C descriptor endpoint input)).endpointFailed m descriptor rest ∨
          (s.handshake C descriptor endpoint input).outcome.error.kind = .none ∧ s.tryEndpoint C input
            = { s.putOnWire C (s.handshakeParams descriptor endpoint) (s.handshake C descriptor endpoint input) with
                mediaSession := m
                phase := .selected endpoint (s.handshake C descriptor endpoint input) } := by
  have hfacts := handshakeFacts (C := C) s descriptor endpoint input
  unfold tryEndpoint
  rw [hphase]
  dsimp only
  rcases engine_tryEndpoint_cases descriptor s.mediaSession endpoint
      { created := input.created
        openError := input.openError
        handshake := (s.handshake C descriptor endpoint input).outcome.summary } with
    ⟨m, htried, hnot⟩ | ⟨⟨hprepared, hcreated, hopened⟩, m, ⟨herror, htried⟩ | ⟨herror, htried⟩⟩
  · rw [htried]
    exact .inl ⟨m, rfl, fun hout => hnot ⟨hout.prepared, hout.created, hout.opened⟩⟩
  · have hiff : s.InitGoesOut C descriptor endpoint input ↔ FirstInitGoesOut C (s.handshakeParams descriptor endpoint)
        s.session.nextLocalSequence s.session.lastRemoteSequence input.handshake :=
      ⟨fun hout => hout.firstInit, fun hout => ⟨hprepared, hcreated, hopened, hout⟩⟩
    rw [htried, hiff]
    refine .inr ⟨hfacts, m, .inl ⟨fun hok => ?_, rfl⟩⟩
    unfold ControlHandshakeOutcome.summary at herror
    rw [if_pos hok] at herror
    cases herror
  · have hiff : s.InitGoesOut C descriptor endpoint input ↔ FirstInitGoesOut C (s.handshakeParams descriptor endpoint)
        s.session.nextLocalSequence s.session.lastRemoteSequence input.handshake :=
      ⟨fun hout => hout.firstInit, fun hout => ⟨hprepared, hcreated, hopened, hout⟩⟩
    rw [htried, hiff]
    refine .inr ⟨hfacts, m, .inr ⟨?_, rfl⟩⟩
    unfold ControlHandshakeOutcome.summary at herror
    by_contra hbad
    rw [if_neg hbad] at herror
    cases herror

end CallMedia

end VianiumVoip.Relay
