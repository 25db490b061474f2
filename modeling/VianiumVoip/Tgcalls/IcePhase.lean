import VianiumVoip.Tgcalls.Connection
import VianiumVoip.Ice.CandidateParser
import VianiumVoip.Ice.Encoding

/-!
# The ICE phase of a connection

The rest of `TgcallsConnection` up to the DTLS phase: the peer's candidates are parked until its `InitialSetup` is
there as well, then `StartIcePhase` builds the ICE agent and hands them over.  From there on the agent gives its
verdict on every STUN datagram.

A datagram comes in by one of two overloads.  The sessions and the TURN clients push it with its source; the push
overload frames it once more and calls the other one, which takes the first reflector for the source.
-/

namespace VianiumVoip.Tgcalls

open VianiumVoip.Lib VianiumVoip.Dtls VianiumVoip.Ice

/-- A connection with what belongs to its ICE phase. -/
structure IceConnection extends TgcallsConnection where
  peerCandidates : List String := []
  iceStarted : Bool := false
  iceAgent : Option IceAgent := none
  iceAttempts : ℕ := 0

/-- What the platform draws for a new agent and its requests. -/
structure IceDraws where
  tieBreak : UInt64
  transactionId : ℕ → Vector UInt8 12

/-- What a call sends: our own candidates, datagrams for the reflectors, a packet to play.  `stun` is the call of
`ProcessIncoming`, with its source. -/
structure Effects where
  candidates : Bool := false
  sent : List Bytes := []
  rtp : Option Bytes := none
  stun : Option (String × ℤ × Bytes) := none

def kPeerTagSize : ℕ := 16

def kMaxIceAttempts : ℕ := 20

/-- The bytes of a `std::string`. -/
def stringBytes (s : String) : Bytes := s.toUTF8.data.toList

/-- The types that `StartIcePhase` hands to the agent. -/
def acceptsType (type : IceCandidateType) : Bool := type = .relay ∨ type = .host

/-- `TryStripPeerTag` -/
def tryStripPeerTag (packet : Bytes) : Option Bytes :=
  if packet.length < kPeerTagSize then none else some (packet.drop kPeerTagSize)

namespace IceConnection

variable (C : Crypto)

/-! ### Starting the phase -/

/-- The loop that feeds the peer's candidates into the agent. -/
def feedCandidates (agent : IceAgent) (lines : List String) : IceAgent :=
  lines.foldl (fun agent line =>
    match IceCandidateParser.parse line with
    | none => agent
    | some parsed => if acceptsType parsed.type then agent.addRemoteCandidate parsed else agent) agent

/-- `SendIceBindingRequests` -/
def sendIceBindingRequests (c : IceConnection) (transactionId : ℕ → Vector UInt8 12) : IceConnection × List Bytes :=
  match c.iceAgent with
  | none => (c, [])
  | some agent =>
    let (agent, requests) := agent.getBindingRequestsToSend C.srtp.hmacSha1 fun i => (transactionId i).toList
    ({ c with iceAgent := some agent }, requests.map (·.2))

/-- The peer's `InitialSetup` is there, with its credentials. -/
def peerReady (c : IceConnection) : Bool := c.peerInitialReceived ∧ c.peerUfrag ≠ "" ∧ c.peerPwd ≠ ""

/-- The agent that `StartIcePhase` builds. -/
def newAgent (c : IceConnection) (tieBreak : UInt64) : IceAgent :=
  { role := if c.isOutgoing then .controlling else .controlled
    localUfrag := stringBytes c.localUfrag
    localPwd := stringBytes c.localPwd
    remoteUfrag := stringBytes c.peerUfrag
    remotePwd := stringBytes c.peerPwd
    tieBreak := tieBreak }

/-- `StartIcePhase` -/
def startIcePhase (c : IceConnection) (draws : IceDraws) : IceConnection × Effects :=
  if !c.peerReady then (c, {})
  else
    let announces := !c.iceStarted
    if c.peerCandidates = [] then (c, { candidates := announces })
    else if c.iceStarted then (c, { candidates := announces })
    else
      let agent := feedCandidates (c.newAgent draws.tieBreak) c.peerCandidates
      let c := { c with iceStarted := true, iceAgent := some agent, iceAttempts := 0 }
      let (c, requests) := c.sendIceBindingRequests C draws.transactionId
      (c, { candidates := announces, sent := requests })

/-- `OnPeerInitialSetup` -/
def onPeerInitialSetup (c : IceConnection) (msg : InitialSetupMsg) (draws : IceDraws) : IceConnection × Effects :=
  let c := { c with toTgcallsConnection := c.toTgcallsConnection.onPeerInitialSetup msg }
  c.startIcePhase C draws

/-- `OnPeerCandidates`, but for the permissions of the TURN clients. -/
def onPeerCandidates (c : IceConnection) (lines : List String) (draws : IceDraws) : IceConnection × Effects :=
  let c := { c with peerCandidates := c.peerCandidates ++ lines }
  c.startIcePhase C draws

/-- The retry timer. -/
def onIceRetryTimer (c : IceConnection) (transactionId : ℕ → Vector UInt8 12) : IceConnection × Effects :=
  if c.stopped ∨ State.dtlsHandshaking.toNat ≤ c.state.toNat then (c, {})
  else if kMaxIceAttempts ≤ c.iceAttempts then
    ({ c with toTgcallsConnection := c.toTgcallsConnection.transitionTo .failed }, {})
  else
    let (c, requests) := c.sendIceBindingRequests C transactionId
    ({ c with iceAttempts := c.iceAttempts + 1 }, { sent := requests })

/-! ### Inbound datagrams -/

/-- The source that a datagram is taken to have. -/
def assumedSource (c : IceConnection) : String × ℤ :=
  match c.reflectors with
  | [] => ("", 0)
  | first :: _ => (first.ip, first.port)

/-- The STUN branch: the agent, and `OnIceConnected` where it has become connected. -/
def onStunDatagram (c : IceConnection) (srcIp : String) (srcPort : ℤ) (inner : Bytes) (draws : InitiateDraws)
    (audio : TgcallsConnection.AudioInput) : IceConnection × Effects :=
  match c.iceAgent with
  | none => (c, {})
  | some agent =>
    let (agent, result, response) := agent.processIncoming C.srtp.hmacSha1 srcIp srcPort inner
    let (base, out, _) := c.toTgcallsConnection.onReflectorDatagram C
      { inner := inner, connectivityEstablished := result = .connectivityEstablished, draws := draws, audio := audio }
    ({ c with toTgcallsConnection := base, iceAgent := some agent },
      { sent := (if response = [] then [] else [response]) ++ out, stun := some (srcIp, srcPort, inner) })

/-- The legacy overload of `OnReflectorDatagram`, with the peer tag in front. -/
def onReflectorDatagram (c : IceConnection) (bytes : Bytes) (draws : InitiateDraws)
    (audio : TgcallsConnection.AudioInput) : IceConnection × Effects :=
  match tryStripPeerTag bytes with
  | none => (c, {})
  | some inner =>
    match inner with
    | [] => (c, {})
    | firstByte :: _ =>
      let (srcIp, srcPort) := c.assumedSource
      if firstByte ≤ 0x03 then c.onStunDatagram C srcIp srcPort inner draws audio
      else
        let (base, out, rtp) := c.toTgcallsConnection.onReflectorDatagram C
          { inner := inner, connectivityEstablished := false, draws := draws, audio := audio }
        ({ c with toTgcallsConnection := base }, { sent := out, rtp := rtp })

/-- The push overload of `OnReflectorDatagram`. -/
def onReflectorDatagramFrom (c : IceConnection) (_srcIp : String) (_srcPort : ℤ) (payload : Bytes)
    (draws : InitiateDraws) (audio : TgcallsConnection.AudioInput) : IceConnection × Effects :=
  if payload = [] then (c, {})
  else
    let reframed := List.replicate 16 0 ++ payload
    c.onReflectorDatagram C reframed draws audio

end IceConnection

end VianiumVoip.Tgcalls
