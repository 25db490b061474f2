import VianiumVoip.Relay.AudioRun
import VianiumVoip.Relay.ReflectorPacket
import VianiumVoip.Engine.Dh

/-!
# The control handshake

`RunControlHandshake` of `application/voip_engine`: two self-info requests to the reflector, then Init packets to the
peer, at growing intervals, until its InitAck comes.  In between it answers the Init and the Ping packets of the peer, and
passes over what it cannot read.

The platform is an input: the readings of the clock, the padding, what `Send` and `Receive` answer.  What goes through the
socket is written down in `socket`.  The loop runs on a list of turns; it goes on if they are used up before it returns.
-/

namespace VianiumVoip.Relay

open VianiumVoip.Lib VoipControlPacketCodec VoipPacketCrypto
open VianiumVoip.Engine (VoipError)
open VoipReflectorPacketCodec (buildSelfInfoRequest parseSelfInfoResponse)

def kInitialRetryMs : ℕ := 250
def kMaxRetryMs : ℕ := 1500
def kMaxInitAttempts : ℕ := 12
def kControlHandshakeTimeoutMs : ℕ := 13000

/-- The ticks of the clock in a millisecond. -/
def ticksPerMs : ℤ := 1000000

def transportError (message : String) : VoipError := { kind := .transportFailed, message := message }

/-- Zero from the deadline on, at least one before. -/
def remainingMs (deadline now : ℤ) : ℕ :=
  if deadline ≤ now then 0
  else
    let ms := ((deadline - now) / ticksPerMs).toNat
    if ms < 1 then 1 else ms

structure VoipReflectorDatagramResult where
  success : Bool := false
  error : String := ""
  rttMs : ℤ := 0
  bytes : Bytes := []

def isReceiveTimeout (result : VoipReflectorDatagramResult) : Bool :=
  !result.success && decide ("timed out".toList <:+: result.error.toList)

structure ControlHandshakeOutcome where
  error : VoipError := {}
  packetsSent : UInt32 := 0
  packetsReceived : UInt32 := 0
  bytesSent : UInt32 := 0
  bytesReceived : UInt32 := 0
  rttMs : ℤ := 0
  peerVersion : UInt32 := 0
  audioFrameDurationMs : UInt16 := 0
  selfInfoResponses : UInt32 := 0
  decryptFailures : UInt32 := 0
  decodeFailures : UInt32 := 0
  initAttempts : UInt32 := 0
  initAckReceived : Bool := false

/-- What the socket has been given, with its answer, and what it has delivered. -/
inductive SocketEvent
  | sent (bytes : Bytes) (accepted : Bool)
  | received (bytes : Bytes)

/-- The parameters that do not change. -/
structure HandshakeParams where
  peerTag : Bytes
  queryId : UInt64
  sharedKey : Bytes
  localIsOutgoing : Bool

/-- For a packet that is sent: the random bytes, and the answer of `Send`. -/
structure SendInput where
  random : ℕ → UInt8
  answer : Bytes → VoipReflectorDatagramResult

/-- One turn of the loop: the readings of the clock, the Init packet if one is due, what `Receive` answers to the time
that it may wait, and the answer to the peer if there is one. -/
structure HandshakeTurn where
  checkedAt : ℤ
  now : ℤ
  waitsFrom : ℤ
  init : SendInput
  receive : ℕ → VoipReflectorDatagramResult
  answer : SendInput

structure HandshakeInput where
  firstWarmup : Bytes → VoipReflectorDatagramResult
  secondWarmup : Bytes → VoipReflectorDatagramResult
  startedAt : ℤ
  firstInitAt : ℤ
  turns : List HandshakeTurn

/-- The local variables, and the two counters of the caller. -/
structure HandshakeState where
  outcome : ControlHandshakeOutcome := {}
  nextInitAt : ℤ
  initAttempts : ℕ := 0
  currentRetryMs : ℕ := kInitialRetryMs
  selfInfoResponses : ℕ := 0
  decryptFailures : ℕ := 0
  decodeFailures : ℕ := 0
  lastPacketError : String := ""
  nextLocalSequence : UInt32
  lastRemoteSequence : UInt32
  socket : List SocketEvent := []

/-- How far the handshake has come. -/
inductive HandshakeProgress
  | goesOn (s : HandshakeState)
  | returns (s : HandshakeState)

def HandshakeProgress.state : HandshakeProgress → HandshakeState
  | .goesOn s => s
  | .returns s => s

namespace HandshakeState

def fail (s : HandshakeState) (error : VoipError) : HandshakeState := { s with outcome := { s.outcome with error := error } }

/-- `Send`, and the count of what it has accepted. -/
def send (s : HandshakeState) (bytes : Bytes) (answer : Bytes → VoipReflectorDatagramResult) :
    HandshakeState × Option String :=
  let sent := answer bytes
  let s := { s with socket := s.socket ++ [.sent bytes sent.success] }
  if sent.success = false then (s, some sent.error)
  else
    ({ s with
        outcome :=
          { s.outcome with
            packetsSent := s.outcome.packetsSent + 1
            bytesSent := s.outcome.bytesSent + UInt32.ofNat bytes.length } }, none)

/-- A packet of the peer with this number has come. -/
def noteRemoteSequence (s : HandshakeState) (sequence : UInt32) : HandshakeState :=
  if sequence ≠ 0 ∧ (s.lastRemoteSequence = 0 ∨ s.lastRemoteSequence < sequence) then
    { s with lastRemoteSequence := sequence }
  else s

/-- A datagram has come. -/
def countReceived (s : HandshakeState) (received : VoipReflectorDatagramResult) : HandshakeState :=
  { s with
    socket := s.socket ++ [.received received.bytes]
    outcome :=
      { s.outcome with
        packetsReceived := s.outcome.packetsReceived + 1
        bytesReceived := s.outcome.bytesReceived + UInt32.ofNat received.bytes.length
        rttMs := if 0 < received.rttMs then received.rttMs else s.outcome.rttMs } }

/-- The local counters go into the outcome. -/
def report (s : HandshakeState) (initAckReceived : Bool) : HandshakeState :=
  { s with
    outcome :=
      { s.outcome with
        selfInfoResponses := UInt32.ofNat s.selfInfoResponses
        decryptFailures := UInt32.ofNat s.decryptFailures
        decodeFailures := UInt32.ofNat s.decodeFailures
        initAttempts := UInt32.ofNat s.initAttempts
        initAckReceived := initAckReceived } }

def timeoutMessage (s : HandshakeState) : String :=
  "VoIP INIT/INIT_ACK handshake timed out attempts=" ++ toString s.initAttempts
    ++ " selfInfo=" ++ toString s.selfInfoResponses
    ++ " txPackets=" ++ toString s.outcome.packetsSent
    ++ " rxPackets=" ++ toString s.outcome.packetsReceived
    ++ " txBytes=" ++ toString s.outcome.bytesSent
    ++ " rxBytes=" ++ toString s.outcome.bytesReceived
    ++ " decryptFailures=" ++ toString s.decryptFailures
    ++ " decodeFailures=" ++ toString s.decodeFailures
    ++ if s.lastPacketError ≠ "" then " lastPacketError=" ++ s.lastPacketError else ""

/-- The end of the loop. -/
def timedOut (s : HandshakeState) : HandshakeState :=
  (s.report false).fail { kind := .handshakeTimeout, message := s.timeoutMessage }

section

variable (C : BlockCrypto) (params : HandshakeParams)

/-- `EncryptAndSendControlPacket`: the state and the error, if there is one. -/
def encryptAndSendControlPacket (s : HandshakeState) (plain : Bytes) (input : SendInput) :
    HandshakeState × Option String :=
  let encrypted :=
    encryptRelayPacketMtProto2Short C params.sharedKey params.localIsOutgoing params.peerTag input.random plain
  if encrypted.success = false then (s, some encrypted.error) else s.send encrypted.bytes input.answer

/-- What `SendInitPacket` and the two answers in the loop share: the next number is taken, and the packet is built and
sent. -/
def sendControlPacket (s : HandshakeState) (type : VoipControlPacketType) (payload : Bytes) (input : SendInput) :
    HandshakeState × Option String :=
  let (seq, next) := takeNextSequence s.nextLocalSequence
  let packet := buildControlPacket type seq s.lastRemoteSequence payload
  let s := { s with nextLocalSequence := next }
  if packet.success = false then (s, some packet.error)
  else s.encryptAndSendControlPacket C params packet.bytes input

/-- `SendInitPacket` -/
def sendInitPacket (s : HandshakeState) (input : SendInput) : HandshakeState × Option String :=
  s.sendControlPacket C params .init (buildInitPayload false).bytes input

/-- The Init packet of a turn, when its time has come; the interval to the next one grows up to its limit. -/
def sendInitIfDue (s : HandshakeState) (turn : HandshakeTurn) : HandshakeState × Option String :=
  if s.initAttempts = 0 ∨ s.nextInitAt ≤ turn.now then
    match s.sendInitPacket C params turn.init with
    | (s, some error) => (s, some error)
    | (s, none) =>
      let doubled := s.currentRetryMs * 2
      ({ s with
          initAttempts := s.initAttempts + 1
          nextInitAt := turn.now + s.currentRetryMs * ticksPerMs
          currentRetryMs := if kMaxRetryMs < doubled then kMaxRetryMs else doubled }, none)
  else (s, none)

/-- An answer to the peer. -/
def answerPeer (s : HandshakeState) (type : VoipControlPacketType) (payload : Bytes) (input : SendInput) :
    HandshakeProgress :=
  match s.sendControlPacket C params type payload input with
  | (s, some error) => .returns (s.fail (transportError error))
  | (s, none) => .goesOn s

/-- What the loop does with a packet of each type. -/
def handlePacket (s : HandshakeState) (packet : VoipControlPacket) (input : SendInput) : HandshakeProgress :=
  match packet.type with
  | .initAck =>
    let parsedAck := parseInitAckPayload packet.payload
    if parsedAck.success = false then .returns (s.fail (transportError parsedAck.error))
    else if parsedAck.initAck.hasAudioOpusStream = false then
      .returns (s.fail
        { kind := .codecFailed, message := "VoIP peer did not advertise an enabled OPUS audio stream" })
    else
      let s := s.report true
      .returns
        { s with
          outcome :=
            { s.outcome with
              peerVersion := parsedAck.initAck.peerVersion
              audioFrameDurationMs := parsedAck.initAck.frameDurationMs } }
  | .init => s.answerPeer C params .initAck buildInitAckPayload.bytes input
  | .ping => s.answerPeer C params .pong packet.payload input
  | _ => .goesOn s

/-- A datagram in the loop. -/
def handleDatagram (s : HandshakeState) (received : VoipReflectorDatagramResult) (input : SendInput) :
    HandshakeProgress :=
  let s := s.countReceived received
  let parsedSelfInfo := parseSelfInfoResponse received.bytes params.peerTag
  if parsedSelfInfo.success then
    .goesOn
      (if parsedSelfInfo.selfInfo.queryId = params.queryId then { s with selfInfoResponses := s.selfInfoResponses + 1 }
      else s)
  else
    let decrypted :=
      decryptRelayPacketMtProto2Short C params.sharedKey params.localIsOutgoing params.peerTag received.bytes
    if decrypted.success = false then
      .goesOn { s with decryptFailures := s.decryptFailures + 1, lastPacketError := decrypted.error }
    else
      let decoded := decodeShort decrypted.plain
      if decoded.success = false then
        .goesOn { s with decodeFailures := s.decodeFailures + 1, lastPacketError := decoded.error }
      else (s.noteRemoteSequence decoded.packet.sequence).handlePacket C params decoded.packet input

/-- One turn of the loop. -/
def turn (deadline : ℤ) (s : HandshakeState) (turn : HandshakeTurn) : HandshakeProgress :=
  if ¬ (0 < remainingMs deadline turn.checkedAt ∧ s.initAttempts < kMaxInitAttempts) then .returns s.timedOut
  else
    match s.sendInitIfDue C params turn with
    | (s, some error) => .returns (s.fail (transportError error))
    | (s, none) =>
      let remaining := remainingMs deadline turn.waitsFrom
      let waitMs := if remaining < 250 then remaining else 250
      let received := turn.receive waitMs
      if received.success = false then
        if isReceiveTimeout received then .goesOn s else .returns (s.fail (transportError received.error))
      else s.handleDatagram C params received turn.answer

def loop (deadline : ℤ) : HandshakeState → List HandshakeTurn → HandshakeProgress
  | s, [] => .goesOn s
  | s, t :: turns =>
    match s.turn C params deadline t with
    | .returns s => .returns s
    | .goesOn s => loop deadline s turns

end

end HandshakeState

/-- `RunControlHandshake`, with the counters of the caller. -/
def runControlHandshake (C : BlockCrypto) (params : HandshakeParams) (hasSocket : Bool)
    (nextLocalSequence lastRemoteSequence : UInt32) (input : HandshakeInput) : HandshakeProgress :=
  let s : HandshakeState :=
    { nextInitAt := input.firstInitAt
      nextLocalSequence := nextLocalSequence
      lastRemoteSequence := lastRemoteSequence }
  if hasSocket = false then .returns (s.fail (transportError "VoIP reflector datagram session is unavailable"))
  else
    let selfInfo := buildSelfInfoRequest params.peerTag params.queryId
    if selfInfo.success = false then .returns (s.fail (transportError selfInfo.error))
    else
      match s.send selfInfo.bytes input.firstWarmup with
      | (s, some error) => .returns (s.fail (transportError error))
      | (s, none) =>
        match s.send selfInfo.bytes input.secondWarmup with
        | (s, some error) => .returns (s.fail (transportError error))
        | (s, none) => s.loop C params (input.startedAt + kControlHandshakeTimeoutMs * ticksPerMs) input.turns

end VianiumVoip.Relay
