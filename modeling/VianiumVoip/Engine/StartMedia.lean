import VianiumVoip.Engine.Sections

/-!
# StartMedia from beginning to end

The engine where its operations come one after the other: `StartMedia` with each of its exits, on the path over a
connection, over the graph and over the classic reflectors, and `DropCall`, `StopMedia` and `SetMuted`.  What the platform
answers on the way is input.

Next to the slots that the engine keeps its media in stands the set of the media that run: a classic context until a stop
is requested of it, a connection until it is stopped or destroyed, the graph until it is told to stop the call.
-/

namespace VianiumVoip.Engine

open VianiumVoip.Lib VianiumVoip.Cert VianiumVoip.Tgcalls

/-! ### What the platform answers -/

/-- The descriptor with the configuration of the call. -/
structure CallStartDescriptor extends VoipCallStartDescriptor where
  callConfigJson : String := ""

/-- What `RunControlHandshake` comes to. -/
structure ControlHandshakeOutcome where
  error : Option VoipError := none
  packetsSent : UInt32 := 0
  packetsReceived : UInt32 := 0
  bytesSent : UInt32 := 0
  bytesReceived : UInt32 := 0
  rttMs : ℤ := 0
  selfInfoResponses : UInt32 := 0

/-- The answers for one endpoint: whether a datagram session is created, whether it opens, and the handshake over it. -/
structure EndpointAttempt where
  created : Bool := true
  openError : Option String := none
  handshake : ControlHandshakeOutcome := {}

/-- The answers of the audio factory, of its device and of its codec. -/
structure AudioAnswers where
  deviceCreated : Bool := true
  openError : Option String := none
  codecCreated : Bool := true
  codecInit : ℤ := 0
  codecReady : Bool := true

structure StartMediaInput where
  connection : TgcallsConnection.StartInput
  graphStart : Option VoipError := none
  /-- The answer of the graph to the `n`-th packet of the queue. -/
  graphReceive : ℕ → Option VoipError := fun _ => none
  attempts : ℕ → EndpointAttempt := fun _ => {}
  audio : AudioAnswers := {}

/-! ### The session with its counters -/

/-- The counters that `RecordHandshake` moves; nothing moves the others. -/
structure VoipMediaStats where
  rttMs : ℤ := 0
  packetsSent : UInt32 := 0
  packetsReceived : UInt32 := 0
  bytesSent : UInt32 := 0
  bytesReceived : UInt32 := 0
  deriving DecidableEq

structure CountedSession extends VoipMediaSession where
  stats : VoipMediaStats := {}

namespace CountedSession

def prepare (s : CountedSession) (callId : ℤ) (keyHandle : String) (endpoint : VoipEndpoint) :
    CountedSession × Except VoipError Unit :=
  match s.toVoipMediaSession.prepare callId keyHandle endpoint with
  | (_, .error error) => (s, .error error)
  | (session, .ok ()) => ({ toVoipMediaSession := session }, .ok ())

def markConnecting (s : CountedSession) : CountedSession × Except VoipError Unit :=
  let (session, result) := s.toVoipMediaSession.markConnecting
  ({ s with toVoipMediaSession := session }, result)

def recordHandshake (s : CountedSession) (handshake : ControlHandshakeOutcome) : CountedSession :=
  { s with stats :=
    { packetsSent := s.stats.packetsSent + handshake.packetsSent
      packetsReceived := s.stats.packetsReceived + handshake.packetsReceived
      bytesSent := s.stats.bytesSent + handshake.bytesSent
      bytesReceived := s.stats.bytesReceived + handshake.bytesReceived
      rttMs := if 0 < handshake.rttMs then handshake.rttMs else s.stats.rttMs } }

def setMuted (s : CountedSession) (muted : Bool) : CountedSession × Except VoipError Unit :=
  let (session, result) := s.toVoipMediaSession.setMuted muted
  ({ s with toVoipMediaSession := session }, result)

def stop (s : CountedSession) : CountedSession := { toVoipMediaSession := s.toVoipMediaSession.stop }

end CountedSession

/-! ### One endpoint after the other -/

inductive EndpointOutcome
  /-- The endpoint has failed, before its handshake or in it. -/
  | failed (handshake : Option ControlHandshakeOutcome)
  | selected (handshake : ControlHandshakeOutcome)

/-- A turn of the loop over the endpoints.  The session is stopped after each endpoint that fails. -/
def tryEndpoint (descriptor : CallStartDescriptor) (s : CountedSession) (endpoint : VoipEndpoint)
    (attempt : EndpointAttempt) : CountedSession × EndpointOutcome :=
  match s.prepare descriptor.callId descriptor.keyHandle endpoint with
  | (s, .error _) => (s.stop, .failed none)
  | (s, .ok ()) =>
    match s.markConnecting with
    | (s, .error _) => (s.stop, .failed none)
    | (s, .ok ()) =>
      if !attempt.created then (s.stop, .failed none)
      else
        match attempt.openError with
        | some _ => (s.stop, .failed none)
        | none =>
          match attempt.handshake.error with
          | some _ => (s.stop, .failed (some attempt.handshake))
          | none => (s.recordHandshake attempt.handshake, .selected attempt.handshake)

/-- The endpoints that were tried, and those that sent a packet back. -/
structure EndpointTally where
  classicTotal : ℕ := 0
  classicResponded : ℕ := 0
  webrtcTotal : ℕ := 0
  webrtcResponded : ℕ := 0
  classicWithSelfInfo : ℕ := 0

namespace EndpointTally

def tried (t : EndpointTally) (endpoint : VoipEndpoint) : EndpointTally :=
  if endpoint.isWebRtc then { t with webrtcTotal := t.webrtcTotal + 1 } else { t with classicTotal := t.classicTotal + 1 }

def answered (t : EndpointTally) (endpoint : VoipEndpoint) (handshake : ControlHandshakeOutcome) : EndpointTally :=
  let t :=
    if 0 < handshake.packetsReceived then
      if endpoint.isWebRtc then { t with webrtcResponded := t.webrtcResponded + 1 }
      else { t with classicResponded := t.classicResponded + 1 }
    else t
  if !endpoint.isWebRtc ∧ 0 < handshake.selfInfoResponses then
    { t with classicWithSelfInfo := t.classicWithSelfInfo + 1 }
  else t

end EndpointTally

/-- The loop over the endpoints, from the `i`-th on: the session, the tally, and whether an endpoint was selected. -/
def tryEndpoints (descriptor : CallStartDescriptor) (attempts : ℕ → EndpointAttempt) (i : ℕ) (s : CountedSession)
    (t : EndpointTally) : List VoipEndpoint → CountedSession × EndpointTally × Bool
  | [] => (s, t, false)
  | endpoint :: rest =>
    let t := t.tried endpoint
    match tryEndpoint descriptor s endpoint (attempts i) with
    | (s, .selected handshake) => (s, t.answered endpoint handshake, true)
    | (s, .failed (some handshake)) => tryEndpoints descriptor attempts (i + 1) s (t.answered endpoint handshake) rest
    | (s, .failed none) => tryEndpoints descriptor attempts (i + 1) s t rest

/-! ### The texts of the errors -/

def kUnavailableReason : String :=
  "VianiumVoIP call key exchange, UDP reflector probing, encrypted VoIP control packets, and native Opus codec are available; "
    ++ "audio capture/playback and acoustic echo cancellation are not enabled in this build"

/-- `SelectReflector` where it finds none. -/
def selectReflectorReason (endpoints : List VoipEndpoint) : String :=
  if endpoints = [] then "phoneCall returned no media endpoints"
  else "no Telegram reflector endpoint with peer_tag was available"

def joinLibraryVersions (versions : List String) : String :=
  if versions = [] then "none" else String.intercalate "," versions

def selectedLibraryVersion (descriptor : CallStartDescriptor) : String :=
  descriptor.libraryVersions.headD "classic-default"

/-- Neither a connection nor the graph. -/
def tgcallsUnavailable (descriptor : CallStartDescriptor) (session : CallSession) : VoipError :=
  { kind := .unavailable
    message := "negotiated Telegram VoIP protocol " ++ selectedLibraryVersion descriptor
      ++ " requires the VianiumVoIP native tgcalls/WebRTC media graph"
      ++ (if descriptor.endpoints.any (·.isWebRtc) then " (phoneConnectionWebrtc endpoints present)" else "")
      ++ (if 0 < session.signalingPacketsReceived then
          "; received " ++ toString session.signalingPacketsReceived ++ " signaling packet(s)/"
            ++ toString session.signalingBytesReceived ++ "B before media start"
        else "")
      ++ (if session.pendingSignalingPackets ≠ [] then
          "; queued " ++ toString session.pendingSignalingPackets.length ++ " early signaling packet(s)/"
            ++ toString (pendingSignalingBytes session.pendingSignalingPackets) ++ "B for tgcalls startup"
        else "")
      ++ (if 0 < session.signalingPacketsDropped then
          "; dropped " ++ toString session.signalingPacketsDropped
            ++ " early signaling packet(s) because the native queue limit was reached"
        else "")
      ++ "; advertised_versions=[" ++ joinLibraryVersions descriptor.libraryVersions ++ "] callConfig="
      ++ toString descriptor.callConfigJson.utf8ByteSize
      ++ "B. No ITgcallsMediaGraph backend is bound in this WP81 build. "
      ++ "Classic reflector fallback is intentionally blocked for this negotiation." }

/-- No endpoint has completed the handshake. -/
def handshakeFailure (candidates : List VoipEndpoint) (t : EndpointTally) (liveSignalingCount : UInt32) : VoipError :=
  let hint :=
    if 0 < liveSignalingCount then "peerLikelyTgcalls"
    else if 0 < t.classicTotal ∧ t.classicWithSelfInfo = 0 then "networkBlocked"
    else "peerOffline"
  { kind := .handshakeTimeout
    message := "VoIP control handshake timed out across " ++ toString candidates.length ++ " endpoint(s)"
      ++ " (classic=" ++ toString t.classicTotal ++ ", webrtc=" ++ toString t.webrtcTotal ++ ")"
      ++ "; classicResponded=" ++ toString t.classicResponded ++ "/" ++ toString t.classicTotal
      ++ "; webrtcResponded=" ++ toString t.webrtcResponded ++ "/" ++ toString t.webrtcTotal
      ++ "; signalingPacketsReceived=" ++ toString liveSignalingCount ++ "; hint=" ++ hint }

/-- The error of the audio device or of the codec, where there is one. -/
def AudioAnswers.error (a : AudioAnswers) : Option VoipError :=
  if !a.deviceCreated then some { kind := .audioDeviceFailed, message := "VoIP audio device factory returned null" }
  else
    match a.openError with
    | some message => some { kind := .audioDeviceFailed, message := message }
    | none =>
      if !a.codecCreated then some { kind := .codecFailed, message := "VoIP audio codec factory returned null" }
      else if a.codecInit ≠ 0 ∨ !a.codecReady then
        some
          { kind := .codecFailed
            code := a.codecInit
            message := "Opus VoIP codec init failed code=" ++ toString a.codecInit }
      else none

/-- The error of `Start`, with its kind. -/
def startError (conn : TgcallsConnection) (input : TgcallsConnection.StartInput) (message : String) : VoipError :=
  { kind :=
      if conn.sharedKey.length ≠ kSharedKeySize ∨ conn.reflectors.isEmpty ∨ !conn.hasSignalingOut then .invalidArgument
      else if input.generate.isNone ∨ input.emitError.isSome then .cryptoUnavailable
      else .transportFailed
    message := message }

/-! ### The engine -/

/-- What `StartMedia` has started: the `id`-th context or connection, or the graph for a call. -/
inductive Media
  | classic (id : ℕ) (callId : ℤ)
  | connection (id : ℕ) (callId : ℤ)
  | graph (callId : ℤ)
  deriving DecidableEq

def Media.callId : Media → ℤ
  | classic _ callId => callId
  | connection _ callId => callId
  | graph callId => callId

structure MediaContext extends VoipActiveMediaContext where
  id : ℕ

def MediaContext.media (active : MediaContext) : Media := .classic active.id active.callId

def HeldConnection.media (conn : HeldConnection) : Media := .connection conn.id conn.callId

structure CallEngine extends SignalingEngine where
  /-- `m_reflectorTransport` is bound. -/
  hasTransport : Bool := true
  /-- `m_audioFactory` is bound. -/
  hasAudioFactory : Bool := true
  session : CountedSession := {}
  activeMedia : Option MediaContext := none
  /-- How many contexts and connections have been started. -/
  started : ℕ := 0
  /-- The media that run. -/
  running : Finset Media := ∅

namespace CallEngine

/-- A stop is requested of a context. -/
def stopContext (e : CallEngine) (active : Option MediaContext) : CallEngine :=
  match active with
  | some active => { e with running := e.running.erase active.media }
  | none => e

/-- A connection is stopped, or destroyed, which stops it. -/
def stopConnection (e : CallEngine) (conn : Option HeldConnection) : CallEngine :=
  match conn with
  | some conn => { e with running := e.running.erase conn.media }
  | none => e

@[simp] theorem stopConnection_toSignalingEngine (e : CallEngine) (conn : Option HeldConnection) :
    (e.stopConnection conn).toSignalingEngine = e.toSignalingEngine := by
  cases conn <;> rfl

@[simp] theorem stopConnection_session (e : CallEngine) (conn : Option HeldConnection) :
    (e.stopConnection conn).session = e.session := by
  cases conn <;> rfl

@[simp] theorem stopConnection_activeMedia (e : CallEngine) (conn : Option HeldConnection) :
    (e.stopConnection conn).activeMedia = e.activeMedia := by
  cases conn <;> rfl

@[simp] theorem stopConnection_started (e : CallEngine) (conn : Option HeldConnection) :
    (e.stopConnection conn).started = e.started := by
  cases conn <;> rfl

/-! ### StartMedia -/

/-- The packets of the queue are handed over, up to the first one that is refused: its error. -/
def handOverAll (receive : ℕ → Packet → Option VoipError) (pending : List Packet) : Option VoipError :=
  pending.zipIdx.findSome? fun entry => receive entry.2 entry.1

/-- The path over a connection, once it is clear that there are reflectors for it. -/
def startConnection (P : Platform) (e : CallEngine) (conn : TgcallsConnection) (callId : ℤ)
    (input : TgcallsConnection.StartInput) : CallEngine × Except VoipError Unit :=
  match (conn.start P input).2.2 with
  | some message => (e, .error (startError conn input message))
  | none =>
    let held : HeldConnection := { id := e.started, callId := callId, sharedKey := conn.sharedKey }
    -- the connection that was published before is destroyed
    let e := e.stopConnection e.tgcallsConnection
    let (signaling, pending) := e.toSignalingEngine.publishConnection callId held
    let e := { e with
      toSignalingEngine := signaling
      started := e.started + 1
      running := insert held.media e.running }
    match handOverAll (fun _ packet => held.handleIncomingSignaling packet.data) pending with
    | some error => ({ e.stopConnection (some held) with toSignalingEngine := e.retractConnection }, .error error)
    | none => (e, .ok ())

/-- The graph is told to stop the call. -/
def stopGraph (e : CallEngine) (callId : ℤ) : CallEngine := { e with running := e.running.erase (Media.graph callId) }

/-- The path over the graph.  Nothing comes in between: the second turn finds the queue empty. -/
def startGraph (e : CallEngine) (callId : ℤ) (input : StartMediaInput) : CallEngine × Except VoipError Unit :=
  match input.graphStart with
  | some error => (e, .error error)
  | none =>
    let e := { e with running := insert (Media.graph callId) e.running }
    match e.toSignalingEngine.graphTurn callId with
    | (signaling, .opened) => ({ e with toSignalingEngine := signaling }, .ok ())
    | (signaling, .drain pending) =>
      match handOverAll (fun n _ => input.graphReceive n) pending with
      | some error => ({ e.stopGraph callId with toSignalingEngine := signaling.retractGraph callId }, .error error)
      | none => ({ e with toSignalingEngine := (signaling.graphTurn callId).1 }, .ok ())
    | (signaling, .dropped) =>
      ({ e.stopGraph callId with toSignalingEngine := signaling },
        .error (invalid "call DH state was dropped while starting tgcalls media graph"))

/-- The classic path. -/
def startClassic (e : CallEngine) (session : CallSession) (descriptor : CallStartDescriptor) (input : StartMediaInput) :
    CallEngine × Except VoipError Unit :=
  let candidates := orderedReflectorEndpoints descriptor.endpoints
  if candidates = [] then
    (e, .error { kind := .transportFailed, message := selectReflectorReason descriptor.endpoints })
  else if !e.hasTransport then
    (e, .error { kind := .transportFailed, message := "VoIP reflector transport is unavailable" })
  else if !e.hasAudioFactory then (e, .error { kind := .unavailable, message := kUnavailableReason })
  else
    match tryEndpoints descriptor input.attempts 0 e.session {} candidates with
    | (s, t, false) =>
      ({ e with session := s.stop }, .error (handshakeFailure candidates t session.signalingPacketsReceived))
    | (s, _, true) =>
      match input.audio.error with
      | some error => ({ e with session := s.stop }, .error error)
      | none =>
        let active : MediaContext :=
          { callId := descriptor.callId
            audio := ({} : AudioDevice).opened true
            id := e.started }
        ({ e with
            session := s
            activeMedia := some active
            started := e.started + 1
            running := insert active.media e.running }, .ok ())

/-- The reflectors of a descriptor make a connection. -/
def connectionFor (descriptor : CallStartDescriptor) (session : CallSession) : TgcallsConnection where
  isOutgoing := descriptor.isInitiator
  sharedKey := session.sharedKey
  reflectors := descriptor.endpoints.filterMap toReflectorEndpoint
  hasSignalingOut := true

def startMedia (P : Platform) (e : CallEngine) (descriptor : CallStartDescriptor) (input : StartMediaInput) :
    CallEngine × Except VoipError Unit :=
  if descriptor.callId ≤ 0 then (e, .error (invalid "callId must be positive"))
  else if descriptor.keyHandle = "" then (e, .error (invalid "call key handle is missing"))
  else
    match e.calls descriptor.callId with
    | none => (e, .error (invalid "call shared key is not ready"))
    | some session =>
      if !session.sharedReady then (e, .error (invalid "call shared key is not ready"))
      else if handleForCall descriptor.callId ≠ descriptor.keyHandle then
        (e, .error (invalid "call key handle does not belong to this call"))
      else if isClassicReflectorDescriptor descriptor.toVoipCallStartDescriptor then
        e.startClassic session descriptor input
      else if !(connectionFor descriptor session).reflectors.isEmpty then
        e.startConnection P (connectionFor descriptor session) descriptor.callId input.connection
      else if e.hasGraph then e.startGraph descriptor.callId input
      else (e, .error (tgcallsUnavailable descriptor session))

/-! ### The other operations -/

/-- The connection of the call is stopped, where `m_tgcallsCallId` names the call. -/
def dropCall (e : CallEngine) (callId : ℤ) : CallEngine :=
  let (signaling, conn) := e.toSignalingEngine.dropCall callId
  { e.stopConnection conn with toSignalingEngine := signaling }

def stopMedia (e : CallEngine) (graphStop : Option VoipError) : CallEngine × Except VoipError Unit :=
  let e' := { e with
    toSignalingEngine := e.clearMedia
    activeMedia := none }
  let e' := (e'.stopContext e.activeMedia).stopConnection e.tgcallsConnection
  if e.hasGraph ∧ 0 < e.tgcallsCallId ∧ e.tgcallsConnection.isNone then
    let e' := e'.stopGraph e.tgcallsCallId
    match graphStop with
    | some error => (e', .error error)
    | none => ({ e' with session := e'.session.stop }, .ok ())
  else ({ e' with session := e'.session.stop }, .ok ())

/-- `SetMuted`, with the answers of the connection and of the graph. -/
def setMuted (e : CallEngine) (muted : Bool) (connAnswer graphAnswer : Option VoipError) :
    CallEngine × Except VoipError Unit :=
  let (session, result) := e.session.setMuted muted
  let e : CallEngine := { e with
    session := session
    activeMedia := e.activeMedia.map fun active =>
      { active with toVoipActiveMediaContext := active.toVoipActiveMediaContext.setMuted muted } }
  match e.tgcallsConnection with
  | some _ =>
    match connAnswer with
    | some tgc => (e, .error tgc)
    | none => (e, result)
  | none =>
    if e.hasGraph ∧ 0 < e.tgcallsCallId then
      match graphAnswer with
      | some graph => (e, .error graph)
      | none => (e, result)
    else (e, result)

/-! ### What StartMedia does -/

/-- How far a `StartMedia` comes. -/
inductive StartStage
  /-- It starts nothing. -/
  | checks
  /-- Its connection has started, and is published. -/
  | connection
  /-- The graph has started. -/
  | graph
  /-- It tries the endpoints. -/
  | endpoints
  deriving DecidableEq

def startStage (P : Platform) (e : CallEngine) (descriptor : CallStartDescriptor) (input : StartMediaInput) : StartStage :=
  if descriptor.callId ≤ 0 ∨ descriptor.keyHandle = "" then .checks
  else
    match e.calls descriptor.callId with
    | none => .checks
    | some session =>
      if !session.sharedReady ∨ handleForCall descriptor.callId ≠ descriptor.keyHandle then .checks
      else if isClassicReflectorDescriptor descriptor.toVoipCallStartDescriptor then
        if orderedReflectorEndpoints descriptor.endpoints = [] ∨ !e.hasTransport ∨ !e.hasAudioFactory then .checks
        else .endpoints
      else if !(connectionFor descriptor session).reflectors.isEmpty then
        if ((connectionFor descriptor session).start P input.connection).2.2 = none then .connection else .checks
      else if e.hasGraph ∧ input.graphStart = none then .graph
      else .checks

/-- `StartMedia` comes to its loop over the endpoints. -/
structure TriesEndpoints (e : CallEngine) (descriptor : CallStartDescriptor) : Prop where
  callId : 0 < descriptor.callId
  keyHandle : descriptor.keyHandle ≠ ""
  ready : ∃ session, e.calls descriptor.callId = some session ∧ session.sharedReady = true
  belongs : handleForCall descriptor.callId = descriptor.keyHandle
  classic : isClassicReflectorDescriptor descriptor.toVoipCallStartDescriptor = true
  candidates : orderedReflectorEndpoints descriptor.endpoints ≠ []
  transport : e.hasTransport = true
  audioFactory : e.hasAudioFactory = true

/-- What a `StartMedia` that comes so far results in, in the slots of the engine and in what runs. -/
inductive Starts (e : CallEngine) (descriptor : CallStartDescriptor) :
    StartStage → CallEngine × Except VoipError Unit → Prop
  | refused (error : VoipError) : Starts e descriptor .checks (e, .error error)
  | connection (signaling : SignalingEngine) (held : HeldConnection) (hpos : 0 < descriptor.callId)
      (hid : held.id = e.started) (hcall : held.callId = descriptor.callId)
      (hslot : signaling.tgcallsConnection = some held) (hcallId : signaling.tgcallsCallId = descriptor.callId)
      (hgraph : signaling.hasGraph = e.hasGraph) :
      Starts e descriptor .connection ({ e.stopConnection e.tgcallsConnection with
        toSignalingEngine := signaling
        started := e.started + 1
        running := insert held.media (e.stopConnection e.tgcallsConnection).running }, .ok ())
  | connectionRefused (signaling : SignalingEngine) (held : HeldConnection) (error : VoipError) (hpos : 0 < descriptor.callId)
      (hid : held.id = e.started) (hcall : held.callId = descriptor.callId) (hslot : signaling.tgcallsConnection = none)
      (hcallId : signaling.tgcallsCallId = 0) (hgraph : signaling.hasGraph = e.hasGraph) :
      Starts e descriptor .connection ({ e.stopConnection e.tgcallsConnection with
        toSignalingEngine := signaling
        started := e.started + 1
        running := (insert held.media (e.stopConnection e.tgcallsConnection).running).erase held.media }, .error error)
  | graph (signaling : SignalingEngine) (hpos : 0 < descriptor.callId) (hbound : e.hasGraph = true)
      (hslot : signaling.tgcallsConnection = e.tgcallsConnection) (hcallId : signaling.tgcallsCallId = descriptor.callId)
      (hgraph : signaling.hasGraph = e.hasGraph) :
      Starts e descriptor .graph ({ e with
        toSignalingEngine := signaling
        running := insert (Media.graph descriptor.callId) e.running }, .ok ())
  | graphRefused (signaling : SignalingEngine) (error : VoipError) (hpos : 0 < descriptor.callId)
      (hbound : e.hasGraph = true) (hslot : signaling.tgcallsConnection = e.tgcallsConnection)
      (hcallId : signaling.tgcallsCallId = if e.tgcallsCallId = descriptor.callId then 0 else e.tgcallsCallId)
      (hgraph : signaling.hasGraph = e.hasGraph) :
      Starts e descriptor .graph ({ e with
        toSignalingEngine := signaling
        running := (insert (Media.graph descriptor.callId) e.running).erase (Media.graph descriptor.callId) }, .error error)
  | failed (s : CountedSession) (error : VoipError) :
      Starts e descriptor .endpoints ({ e with session := s.stop }, .error error)
  | classic (s : CountedSession) (active : MediaContext) (hid : active.id = e.started)
      (hcall : active.callId = descriptor.callId) :
      Starts e descriptor .endpoints ({ e with
        session := s
        activeMedia := some active
        started := e.started + 1
        running := insert active.media e.running }, .ok ())

variable {e : CallEngine} {descriptor : CallStartDescriptor}

theorem publishConnection_slots (e : SignalingEngine) (callId : ℤ) (held : HeldConnection) :
    (e.publishConnection callId held).1.tgcallsConnection = some held ∧
      (e.publishConnection callId held).1.tgcallsCallId = callId ∧
      (e.publishConnection callId held).1.hasGraph = e.hasGraph := by
  unfold SignalingEngine.publishConnection SignalingEngine.swapPending
  cases e.calls callId <;> exact ⟨rfl, rfl, rfl⟩

theorem startConnection_starts (P : Platform) (conn : TgcallsConnection) (input : TgcallsConnection.StartInput)
    (hpos : 0 < descriptor.callId) :
    e.Starts descriptor (if (conn.start P input).2.2 = none then .connection else .checks)
      (e.startConnection P conn descriptor.callId input) := by
  unfold startConnection
  cases (conn.start P input).2.2 with
  | some message => exact .refused _
  | none =>
    simp only [stopConnection_started, stopConnection_toSignalingEngine, if_true]
    set held : HeldConnection := { id := e.started, callId := descriptor.callId, sharedKey := conn.sharedKey } with hheld
    obtain ⟨hslot, hcallId, hgraph⟩ := publishConnection_slots e.toSignalingEngine descriptor.callId held
    generalize e.toSignalingEngine.publishConnection descriptor.callId held = published at hslot hcallId hgraph ⊢
    split
    · next error _ => exact .connectionRefused published.1.retractConnection held error hpos rfl rfl rfl rfl hgraph
    · exact .connection published.1 held hpos rfl rfl hslot hcallId hgraph

theorem graphTurn_slots (e : SignalingEngine) (callId : ℤ) (hcall : e.calls callId ≠ none) :
    (e.graphTurn callId).1.tgcallsConnection = e.tgcallsConnection ∧
      (e.graphTurn callId).1.hasGraph = e.hasGraph ∧
      ((e.graphTurn callId).2 = .opened ∧ (e.graphTurn callId).1.tgcallsCallId = callId ∨
        ∃ pending, (e.graphTurn callId).2 = .drain pending ∧ (e.graphTurn callId).1.tgcallsCallId = e.tgcallsCallId ∧
          ((e.graphTurn callId).1.graphTurn callId).1.tgcallsConnection = e.tgcallsConnection ∧
          ((e.graphTurn callId).1.graphTurn callId).1.hasGraph = e.hasGraph ∧
          ((e.graphTurn callId).1.graphTurn callId).1.tgcallsCallId = callId) := by
  obtain ⟨session, hsession⟩ := Option.ne_none_iff_exists'.1 hcall
  by_cases hempty : session.pendingSignalingPackets = []
  · simp [SignalingEngine.graphTurn, hsession, hempty]
  · simp [SignalingEngine.graphTurn, hsession, hempty, SignalingEngine.storeCall]

theorem retractGraph_slots (e : SignalingEngine) (callId : ℤ) :
    (e.retractGraph callId).tgcallsConnection = e.tgcallsConnection ∧ (e.retractGraph callId).hasGraph = e.hasGraph ∧
      (e.retractGraph callId).tgcallsCallId = if e.tgcallsCallId = callId then 0 else e.tgcallsCallId := by
  unfold SignalingEngine.retractGraph
  split_ifs <;> exact ⟨rfl, rfl, rfl⟩

theorem startGraph_starts (input : StartMediaInput) (hpos : 0 < descriptor.callId) (hbound : e.hasGraph = true)
    (hcall : e.calls descriptor.callId ≠ none) :
    e.Starts descriptor (if e.hasGraph ∧ input.graphStart = none then .graph else .checks)
      (e.startGraph descriptor.callId input) := by
  unfold startGraph
  cases input.graphStart with
  | some error =>
    rw [if_neg fun hnone => by cases hnone.2]
    exact .refused error
  | none =>
    simp only [hbound, and_self, if_true]
    have hturn := graphTurn_slots e.toSignalingEngine descriptor.callId hcall
    generalize e.toSignalingEngine.graphTurn descriptor.callId = turn at hturn ⊢
    obtain ⟨signaling, outcome⟩ := turn
    obtain ⟨hslot, hgraph, ⟨rfl, hcallId⟩ | ⟨pending, rfl, hkept, hslot', hgraph', hcallId'⟩⟩ := hturn
    · exact .graph signaling hpos hbound hslot hcallId hgraph
    · simp only at hkept hslot hgraph ⊢
      split
      · next error _ =>
        obtain ⟨hconn, hsame, hid⟩ := retractGraph_slots signaling descriptor.callId
        rw [hkept] at hid
        exact .graphRefused _ error hpos hbound (hconn.trans hslot) hid (hsame.trans hgraph)
      · exact .graph _ hpos hbound hslot' hcallId' hgraph'

theorem startClassic_starts (session : CallSession) (input : StartMediaInput) :
    e.Starts descriptor
      (if orderedReflectorEndpoints descriptor.endpoints = [] ∨ !e.hasTransport ∨ !e.hasAudioFactory then .checks
        else .endpoints)
      (e.startClassic session descriptor input) := by
  unfold startClassic
  dsimp only
  by_cases hcandidates : orderedReflectorEndpoints descriptor.endpoints = []
  · rw [if_pos (.inl hcandidates), if_pos hcandidates]
    exact .refused _
  by_cases htransport : (!e.hasTransport) = true
  · rw [if_pos (.inr (.inl htransport)), if_neg hcandidates, if_pos htransport]
    exact .refused _
  by_cases hfactory : (!e.hasAudioFactory) = true
  · rw [if_pos (.inr (.inr hfactory)), if_neg hcandidates, if_neg htransport, if_pos hfactory]
    exact .refused _
  rw [if_neg (not_or.2 ⟨hcandidates, not_or.2 ⟨htransport, hfactory⟩⟩), if_neg hcandidates, if_neg htransport,
    if_neg hfactory]
  split
  · exact .failed _ _
  · split
    · exact .failed _ _
    · exact .classic _ _ rfl rfl

/-- **What a `StartMedia` results in**, by how far it comes. -/
theorem startMedia_starts (P : Platform) (e : CallEngine) (descriptor : CallStartDescriptor) (input : StartMediaInput) :
    e.Starts descriptor (e.startStage P descriptor input) (e.startMedia P descriptor input) := by
  unfold startMedia startStage
  by_cases hcallId : descriptor.callId ≤ 0
  · rw [if_pos hcallId, if_pos (.inl hcallId)]
    exact .refused _
  by_cases hkey : descriptor.keyHandle = ""
  · rw [if_neg hcallId, if_pos hkey, if_pos (.inr hkey)]
    exact .refused _
  rw [if_neg hcallId, if_neg hkey, if_neg (not_or.2 ⟨hcallId, hkey⟩)]
  cases hcall : e.calls descriptor.callId with
  | none => exact .refused _
  | some session =>
    simp only
    by_cases hready : (!session.sharedReady) = true
    · rw [if_pos hready, if_pos (.inl hready)]
      exact .refused _
    by_cases hhandle : handleForCall descriptor.callId ≠ descriptor.keyHandle
    · rw [if_neg hready, if_pos hhandle, if_pos (.inr hhandle)]
      exact .refused _
    rw [if_neg hready, if_neg hhandle, if_neg (not_or.2 ⟨hready, hhandle⟩)]
    by_cases hclassic : isClassicReflectorDescriptor descriptor.toVoipCallStartDescriptor = true
    · rw [if_pos hclassic, if_pos hclassic]
      exact startClassic_starts session input
    rw [if_neg hclassic, if_neg hclassic]
    by_cases hreflectors : (!(connectionFor descriptor session).reflectors.isEmpty) = true
    · rw [if_pos hreflectors, if_pos hreflectors]
      exact startConnection_starts P _ _ (not_le.1 hcallId)
    rw [if_neg hreflectors, if_neg hreflectors]
    by_cases hgraph : e.hasGraph = true
    · rw [if_pos hgraph]
      refine startGraph_starts input (not_le.1 hcallId) hgraph ?_
      rw [hcall]
      exact Option.some_ne_none _
    · rw [if_neg hgraph, if_neg fun hboth => hgraph hboth.1]
      exact .refused _

theorem startStage_eq_endpoints_iff (P : Platform) (e : CallEngine) (descriptor : CallStartDescriptor)
    (input : StartMediaInput) : e.startStage P descriptor input = .endpoints ↔ e.TriesEndpoints descriptor := by
  constructor
  · intro hstage
    unfold startStage at hstage
    split at hstage
    · cases hstage
    next hchecks =>
    split at hstage
    · cases hstage
    next session hcall =>
    split at hstage
    · cases hstage
    next hkey =>
    split at hstage
    next hclassic =>
      split at hstage
      · cases hstage
      next hlast =>
      simp only [not_or, Bool.not_eq_true', Bool.not_eq_false, ne_eq, not_not, not_le] at hchecks hkey hlast
      exact ⟨hchecks.1, hchecks.2, ⟨session, hcall, hkey.1⟩, hkey.2, hclassic, hlast.1, hlast.2.1, hlast.2.2⟩
    · split at hstage
      · split at hstage <;> cases hstage
      · split at hstage <;> cases hstage
  · intro h
    obtain ⟨session, hcall, hready⟩ := h.ready
    unfold startStage
    rw [if_neg (not_or.2 ⟨not_le.2 h.callId, h.keyHandle⟩), hcall]
    simp [hready, h.belongs, h.classic, h.candidates, h.transport, h.audioFactory]

end CallEngine

end VianiumVoip.Engine
