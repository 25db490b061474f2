import VianiumVoip.Dtls.ClientSession
import VianiumVoip.Srtp.SessionKeys

/-!
# The connection of a call

`TgcallsConnection` from its start to its stop, as far as identity, DTLS and SRTP go: `Start` draws the
certificate and announces its fingerprint, the ICE agent's word starts the DTLS phase, inbound datagrams are
told apart by their first byte, and an established DTLS session hands its keys to the audio phase.  The state
is explicit; a function that sends returns what it sends next to the new state.

What the connection asks of the platform is input of the step that asks.  So is the verdict of the ICE
agent on a STUN datagram.
-/

namespace VianiumVoip.Tgcalls

open VianiumVoip.Lib VianiumVoip.Cert VianiumVoip.Dtls VianiumVoip.Srtp

/-- The crypto libraries of the two protocol layers. -/
structure Crypto where
  dtls : Dtls.Crypto
  srtp : Srtp.Crypto

inductive State
  | connecting
  | iceConnecting
  | dtlsHandshaking
  | connected
  | failed
  | stopped
  deriving DecidableEq, Repr

/-- The value of the enumerator. -/
def State.toNat : State → ℕ
  | connecting => 0
  | iceConnecting => 1
  | dtlsHandshaking => 2
  | connected => 3
  | failed => 4
  | stopped => 5

structure ReflectorEndpoint where
  ip : String := ""
  ipv6 : String := ""
  port : ℤ := 0
  peerTag : Bytes := []
  isWebRtc : Bool := false
  username : String := ""
  password : String := ""

/-- The `InitialSetup` message, with its fingerprint record. -/
structure InitialSetupMsg where
  ufrag : String
  pwd : String
  supportsRenomination : Bool
  hash : String
  setup : String
  fingerprint : List Char

structure TgcallsConnection where
  isOutgoing : Bool
  sharedKey : Bytes
  reflectors : List ReflectorEndpoint
  hasSignalingOut : Bool
  state : State := .connecting
  localCert : Option EcdsaP256KeyPair := none
  localFingerprint : List Char := []
  localUfrag : String := ""
  localPwd : String := ""
  localSetupRole : String := if isOutgoing then "actpass" else "passive"
  peerInitialReceived : Bool := false
  peerFingerprintHash : String := ""
  peerFingerprint : List Char := []
  peerSetup : String := ""
  peerUfrag : String := ""
  peerPwd : String := ""
  dtls : Option DtlsClientSession := none
  srtpReady : Bool := false
  srtpOutgoing : Option SrtpEncryptParams := none
  srtpIncoming : Option SrtpEncryptParams := none
  localSsrc : UInt32 := 0
  outgoingSeq : UInt16 := 0
  outgoingTimestamp : UInt32 := 0
  stopped : Bool := false

def kSharedKeySize : ℕ := 256

namespace TgcallsConnection

def transitionTo (c : TgcallsConnection) (newState : State) : TgcallsConnection := { c with state := newState }

/-! ### Start -/

/-- What `Start` gets from outside: a key pair, random tokens, and the outcome (an error text where there is
one) of handing the message out and of opening the first reflector. -/
structure StartInput where
  generate : Option EcdsaP256KeyPair
  ufrag : String
  pwd : String
  ssrc : UInt32
  emitError : Option String
  openError : ReflectorEndpoint → Option String

/-- `EmitInitialSetup`: the message. -/
def initialSetup (c : TgcallsConnection) : InitialSetupMsg where
  ufrag := c.localUfrag
  pwd := c.localPwd
  supportsRenomination := false
  hash := "sha-256"
  setup := c.localSetupRole
  fingerprint := c.localFingerprint

/-- `Start`: the connection, the messages it sent, and the error it returned. -/
def start (P : Platform) (c : TgcallsConnection) (input : StartInput) :
    TgcallsConnection × List InitialSetupMsg × Option String :=
  if c.sharedKey.length ≠ kSharedKeySize then
    (c, [], some "tgcalls connection requires a 256-byte shared key")
  else
    match c.reflectors with
    | [] => (c, [], some "tgcalls connection requires at least one WebRTC reflector endpoint")
    | first :: _ =>
      if !c.hasSignalingOut then (c, [], some "tgcalls connection requires a SignalingDataCallback")
      else
        match input.generate with
        | none => ({ c with localCert := none }.transitionTo .failed, [],
            some "platform ECDSA-P256 provider is unavailable")
        | some cert =>
          let (fingerprint, cert) := cert.toSha256Fingerprint P
          let c := { c with
            localCert := some cert
            localFingerprint := fingerprint
            localUfrag := input.ufrag
            localPwd := input.pwd
            localSsrc := input.ssrc }
          match input.emitError with
          | some error => (c.transitionTo .failed, [], some error)
          | none =>
            match input.openError first with
            | some error => (c.transitionTo .failed, [c.initialSetup], some error)
            | none => (c.transitionTo .iceConnecting, [c.initialSetup], none)

theorem canSignal_of_start {c : TgcallsConnection} {P : Platform} {input : StartInput} (h : (c.start P input).2.2 = none) :
    c.hasSignalingOut = true ∧ c.sharedKey.length = kSharedKeySize := by
  unfold start at h
  split at h
  · cases h
  next hkey =>
  split at h
  · cases h
  split at h
  · cases h
  next hout => exact ⟨by simpa using hout, not_not.1 hkey⟩

/-! ### Signaling -/

/-- `OnPeerInitialSetup`, up to the ICE phase. -/
def onPeerInitialSetup (c : TgcallsConnection) (msg : InitialSetupMsg) : TgcallsConnection :=
  let c := { c with
    peerInitialReceived := true
    peerUfrag := msg.ufrag
    peerPwd := msg.pwd
    peerFingerprintHash := msg.hash
    peerFingerprint := msg.fingerprint
    peerSetup := msg.setup }
  if c.isOutgoing then c
  else if msg.setup = "actpass" ∨ msg.setup = "passive" then { c with localSetupRole := "active" }
  else { c with localSetupRole := "passive" }

/-! ### The DTLS phase -/

/-- `StartDtlsPhase`: the certificate moves into the session. -/
def startDtlsPhase (c : TgcallsConnection) (draws : InitiateDraws) : TgcallsConnection × List Bytes :=
  match c.dtls with
  | some _ => (c, [])
  | none =>
    let c := c.transitionTo .dtlsHandshaking
    let cert := c.localCert
    let c := { c with localCert := none }
    match cert with
    | none => (c.transitionTo .failed, [])
    | some cert =>
      if c.peerFingerprint = [] then (c.transitionTo .failed, [])
      else
        let (dtls, initial) := (DtlsClientSession.create cert c.peerFingerprint).initiate draws
        ({ c with dtls := some dtls }, initial)

/-- `OnIceConnected` -/
def onIceConnected (c : TgcallsConnection) (draws : InitiateDraws) : TgcallsConnection × List Bytes :=
  if State.dtlsHandshaking.toNat ≤ c.state.toNat then (c, []) else c.startDtlsPhase draws

/-- The retry timer that has run out of attempts. -/
def onIceGaveUp (c : TgcallsConnection) : TgcallsConnection :=
  if c.stopped ∨ State.dtlsHandshaking.toNat ≤ c.state.toNat then c else c.transitionTo .failed

/-! ### The audio phase -/

/-- Whether the audio device opens and the codec initialises. -/
structure AudioInput where
  opened : Bool
  codecInit : Bool

/-- `StartAudioPhase` -/
def startAudioPhase (C : Srtp.Crypto) (c : TgcallsConnection) (keys : Bytes) (audio : AudioInput) :
    TgcallsConnection :=
  let outMaster : SrtpKeys := { masterKey := keys.take 16, masterSalt := (keys.drop 32).take 14 }
  let inMaster : SrtpKeys := { masterKey := (keys.drop 16).take 16, masterSalt := (keys.drop 46).take 14 }
  let c := { c with
    srtpOutgoing := some (SrtpEncryptParams.initial C outMaster c.localSsrc)
    -- the SSRC of the peer is filled in by the first inbound packet
    srtpIncoming := some (SrtpEncryptParams.initial C inMaster 0)
    srtpReady := true }
  if !audio.opened then c.transitionTo .failed
  else if !audio.codecInit then c.transitionTo .failed
  else c.transitionTo .connected

/-- `OnDtlsEstablished` -/
def onDtlsEstablished (C : Srtp.Crypto) (c : TgcallsConnection) (keys : Bytes) (audio : AudioInput) :
    TgcallsConnection :=
  if keys.length ≠ 60 then c.transitionTo .failed else c.startAudioPhase C keys audio

/-- `OnSrtpDatagram`: the connection, and the RTP packet that goes to `OnRtpPacket`. -/
def onSrtpDatagram (C : Srtp.Crypto) (c : TgcallsConnection) (bytes : Bytes) : TgcallsConnection × Option Bytes :=
  if bytes.length < 12 + kAuthTagSize then (c, none)
  else
    match c.srtpReady, c.srtpIncoming with
    | true, some inParams =>
      let pktSsrc := headerSsrc bytes
      let inParams := if inParams.ssrc = 0 then { inParams with ssrc := pktSsrc } else inParams
      let c := { c with srtpIncoming := some inParams }
      if inParams.ssrc ≠ pktSsrc then (c, none) else (c, decrypt C inParams bytes)
    | _, _ => (c, none)

/-! ### Inbound datagrams -/

/-- A datagram without its peer tag, and the answers of the platform while it is handled: the verdict of the ICE
agent, the draws of a DTLS session, the audio device. -/
structure Arrival where
  inner : Bytes
  connectivityEstablished : Bool
  draws : InitiateDraws
  audio : AudioInput

/-- The DTLS branch of `OnReflectorDatagram`. -/
def onDtlsDatagram (C : Crypto) (c : TgcallsConnection) (inner : Bytes) (audio : AudioInput) :
    TgcallsConnection × List Bytes :=
  match c.dtls with
  | none => (c, [])
  | some dtls =>
    let (dtls, out, _) := dtls.processDatagram C.dtls inner
    let c := { c with dtls := some dtls }
    if dtls.state = .established ∧ !c.srtpReady then
      (c.onDtlsEstablished C.srtp (dtls.exportKeyingMaterial C.dtls "EXTRACTOR-dtls_srtp" 60) audio, out)
    else if dtls.state = .failed then (c.transitionTo .failed, out)
    else (c, out)

/-- `OnReflectorDatagram` behind the peer tag: the demultiplexer of RFC 7983.  The DTLS datagrams it sends, and
the RTP packet it plays. -/
def onReflectorDatagram (C : Crypto) (c : TgcallsConnection) (a : Arrival) :
    TgcallsConnection × List Bytes × Option Bytes :=
  match a.inner with
  | [] => (c, [], none)
  | firstByte :: _ =>
    if firstByte ≤ 0x03 then
      if a.connectivityEstablished then
        let (c, out) := c.onIceConnected a.draws
        (c, out, none)
      else (c, [], none)
    else if 0x14 ≤ firstByte ∧ firstByte ≤ 0x1F then
      let (c, out) := c.onDtlsDatagram C a.inner a.audio
      (c, out, none)
    else if 0x80 ≤ firstByte ∧ firstByte ≤ 0xBF then
      if c.state = .connected then
        let (c, rtp) := c.onSrtpDatagram C.srtp a.inner
        (c, [], rtp)
      else (c, [], none)
    else (c, [], none)

/-! ### Stop -/

/-- `Stop` -/
def stop (c : TgcallsConnection) : TgcallsConnection :=
  if c.stopped then c
  else { c with
    stopped := true
    localCert := none
    dtls := none
    srtpOutgoing := none
    srtpIncoming := none
    srtpReady := false
    state := .stopped }

end TgcallsConnection

end VianiumVoip.Tgcalls
