import VianiumVoip.Tgcalls.AudioPhase

/-!
# The media plane of the engine

`StartMedia` routes a call to the in-process tgcalls connection or to the classic reflectors.  On the classic path it
tries one endpoint after the other, opens the audio device when one has answered, and publishes it as the active
context at the very end.  This takes long, and meanwhile the user may mute or stop the call, and other calls may start: so
a `StartMedia` is a thread here, and an event is what one thread does between two points where it waits.  `SetMuted`,
`StopMedia` and `DropCall` do not wait, and are one event each.

No media graph is bound, and transport and audio factory are.
-/

namespace VianiumVoip.Engine

open VianiumVoip.Lib VianiumVoip.Cert VianiumVoip.Tgcalls

/-! ### Routing -/

structure VoipCallStartDescriptor where
  callId : ℤ
  isInitiator : Bool := false
  libraryVersions : List String := []
  keyHandle : String
  endpoints : List VoipEndpoint

/-- Version 8 to 13 of the library. -/
def isModernVersion (version : String) : Bool :=
  match version.toList with
  | '8' :: _ => true
  | '9' :: _ => true
  | '1' :: second :: _ => second = '0' ∨ second = '1' ∨ second = '2' ∨ second = '3'
  | _ => false

def isClassicReflectorDescriptor (descriptor : VoipCallStartDescriptor) : Bool :=
  -- without a version the layers decide, and every branch of that rule is for the classic path
  ¬ (descriptor.libraryVersions.filter (· ≠ "")).any isModernVersion

/-- The reflectors that a connection is started with. -/
def toReflectorEndpoint (endpoint : VoipEndpoint) : Option ReflectorEndpoint :=
  if endpoint.isWebRtc then
    if endpoint.username = "" ∨ endpoint.password = "" then none
    else some
      { ip := endpoint.ip
        ipv6 := endpoint.ipv6
        port := endpoint.port
        isWebRtc := true
        username := endpoint.username
        password := endpoint.password }
  else if endpoint.peerTag.length ≠ 16 then none
  else some { ip := endpoint.ip, ipv6 := endpoint.ipv6, port := endpoint.port, peerTag := endpoint.peerTag }

/-! ### The state -/

/-- A published context, with the call that it was started for. -/
structure VoipActiveMediaContext where
  callId : ℤ
  audio : AudioDevice
  mediaReady : Bool := false

/-- `active->Audio->SetMuted` -/
def VoipActiveMediaContext.setMuted (active : VoipActiveMediaContext) (muted : Bool) : VoipActiveMediaContext :=
  { active with audio := active.audio.setMuted muted }

/-- Where a classic `StartMedia` stands. -/
inductive StartPhase
  /-- At the head of the loop over the endpoints. -/
  | selecting
  /-- `Prepare` is done. -/
  | prepared
  /-- The socket is opened, and the control handshake runs. -/
  | connecting
  /-- The handshake is done. -/
  | selected
  /-- The audio device is open. -/
  | opened (audio : AudioDevice)
  deriving DecidableEq

/-- A classic `StartMedia` in progress, with the endpoints that are left. -/
structure StartThread where
  callId : ℤ
  keyHandle : String
  candidates : List VoipEndpoint
  phase : StartPhase := .selecting

/-- The engine with its media.  `replaced` are the contexts that a later `StartMedia` has put another one in the place of:
their loops still run. -/
structure MediaEngine extends VoipEngine where
  session : VoipMediaSession := {}
  activeMedia : Option VoipActiveMediaContext := none
  replaced : List VoipActiveMediaContext := []
  tgcallsConnection : Option MediaConnection := none
  starts : ℕ → Option StartThread := fun _ => none

/-- What happens to the engine.  A thread is named by a number; what the platform answers comes with the event. -/
inductive MediaEvent
  | dh (op : DhOperation)
  | startMedia (thread : ℕ) (descriptor : VoipCallStartDescriptor) (input : TgcallsConnection.StartInput)
  /-- The connection refuses a signaling packet that was queued before it was there. -/
  | drainFailed
  | prepare (thread : ℕ)
  | markConnecting (thread : ℕ)
  /-- The control handshake with the endpoint ends. -/
  | handshake (thread : ℕ) (success : Bool)
  | openAudio (thread : ℕ) (success : Bool)
  /-- The codec is initialised, or fails, and the context is published. -/
  | publish (thread : ℕ) (codecReady : Bool)
  | mediaReady
  | connection (input : IceConnection.Input)
  | connectionAudio (audio : TgcallsConnection.AudioInput)
  | setMuted (muted : Bool) (emitError : Option VoipError)
  | stopMedia

namespace MediaEngine

/-- A thread goes on, or ends. -/
def setStart (e : MediaEngine) (thread : ℕ) (start : Option StartThread) : MediaEngine :=
  { e with starts := Function.update e.starts thread start }

/-- `m_mediaSession.Stop()` -/
def stopSession (e : MediaEngine) : MediaEngine := { e with session := e.session.stop }

/-! ### StartMedia -/

/-- The tgcalls path of `StartMedia`. -/
def startTgcalls (P : Platform) (e : MediaEngine) (descriptor : VoipCallStartDescriptor) (sharedKey : Bytes)
    (input : TgcallsConnection.StartInput) : MediaEngine :=
  let reflectors := descriptor.endpoints.filterMap toReflectorEndpoint
  if reflectors = [] then e
  else
    let conn : TgcallsConnection :=
      { isOutgoing := descriptor.isInitiator
        sharedKey := sharedKey
        reflectors := reflectors
        hasSignalingOut := true }
    match conn.start P input with
    | (_, _, some _) => e
    | (conn, _, none) =>
      { e with tgcallsConnection := some { toTgcallsConnection := conn, callId := descriptor.callId } }

/-- The classic path of `StartMedia`, up to its loop. -/
def startClassic (e : MediaEngine) (thread : ℕ) (descriptor : VoipCallStartDescriptor) : MediaEngine :=
  let candidates := orderedReflectorEndpoints descriptor.endpoints
  if candidates = [] then e
  else e.setStart thread
    (some { callId := descriptor.callId, keyHandle := descriptor.keyHandle, candidates := candidates })

/-- `StartMedia` up to the point where the paths part, on a thread that is free. -/
def startMedia (P : Platform) (e : MediaEngine) (thread : ℕ) (descriptor : VoipCallStartDescriptor)
    (input : TgcallsConnection.StartInput) : MediaEngine :=
  if descriptor.callId ≤ 0 then e
  else if descriptor.keyHandle = "" then e
  else
    match e.calls descriptor.callId, e.starts thread with
    | some session, none =>
      if !session.sharedReady then e
      else if handleForCall descriptor.callId ≠ descriptor.keyHandle then e
      else if isClassicReflectorDescriptor descriptor then e.startClassic thread descriptor
      else e.startTgcalls P descriptor session.sharedKey input
    | _, _ => e

/-- The next endpoint is prepared; where there is none left, `StartMedia` fails. -/
def prepareNext (e : MediaEngine) (thread : ℕ) (start : StartThread) : MediaEngine :=
  match start.candidates with
  | [] => e.stopSession.setStart thread none
  | endpoint :: rest =>
    match e.session.prepare start.callId start.keyHandle endpoint with
    | (session, .ok ()) =>
      ({ e with session := session } : MediaEngine).setStart thread (some { start with candidates := rest, phase := .prepared })
    | (_, .error _) => e.stopSession.setStart thread (some { start with candidates := rest })

/-- The endpoint has failed: on to the next one. -/
def nextEndpoint (e : MediaEngine) (thread : ℕ) (start : StartThread) : MediaEngine :=
  e.stopSession.setStart thread (some { start with phase := .selecting })

def markConnecting (e : MediaEngine) (thread : ℕ) (start : StartThread) : MediaEngine :=
  match e.session.markConnecting with
  | (session, .ok ()) => ({ e with session := session } : MediaEngine).setStart thread (some { start with phase := .connecting })
  | (_, .error _) => e.nextEndpoint thread start

def endHandshake (e : MediaEngine) (thread : ℕ) (start : StartThread) (success : Bool) : MediaEngine :=
  if success then e.setStart thread (some { start with phase := .selected }) else e.nextEndpoint thread start

/-- A device is created and opened. -/
def openAudio (e : MediaEngine) (thread : ℕ) (start : StartThread) (success : Bool) : MediaEngine :=
  let audio := ({} : AudioDevice).opened success
  if success then e.setStart thread (some { start with phase := .opened audio })
  else e.stopSession.setStart thread none

/-- The context is published, or the device is closed again. -/
def publish (e : MediaEngine) (thread : ℕ) (start : StartThread) (audio : AudioDevice) (codecReady : Bool) :
    MediaEngine :=
  if codecReady then
    let e := { e with
      replaced := e.replaced ++ e.activeMedia.toList
      activeMedia := some { callId := start.callId, audio := audio } }
    e.setStart thread none
  else e.stopSession.setStart thread none

/-! ### The other operations -/

def dropCall (e : MediaEngine) (callId : ℤ) : MediaEngine :=
  { e with
    toVoipEngine := e.toVoipEngine.dropCall callId
    tgcallsConnection := e.tgcallsConnection.filter fun conn => conn.callId ≠ callId }

def setMuted (e : MediaEngine) (muted : Bool) (emitError : Option VoipError) : MediaEngine × Except VoipError Unit :=
  let (session, result) := e.session.setMuted muted
  let e : MediaEngine := { e with
    session := session
    activeMedia := e.activeMedia.map (·.setMuted muted) }
  match e.tgcallsConnection with
  | some conn =>
    match conn.setMuted muted emitError with
    | (conn, .error tgc) => ({ e with tgcallsConnection := some conn }, .error tgc)
    | (conn, .ok ()) => ({ e with tgcallsConnection := some conn }, result)
  | none => (e, result)

/-- The active device and that of the connection are closed. -/
def stopMedia (e : MediaEngine) : MediaEngine :=
  ({ e with activeMedia := none, tgcallsConnection := none } : MediaEngine).stopSession

def getMediaSnapshot (e : MediaEngine) : VoipMediaSnapshot :=
  let snapshot := e.session.snapshot
  match e.tgcallsConnection with
  | some conn =>
    { snapshot with
      state :=
        match conn.state with
        | .connected => .active
        | .failed | .stopped => .stopped
        | _ => .connecting }
  | none =>
    match e.activeMedia with
    | some active => { snapshot with state := if active.mediaReady then .active else .connecting }
    | none => snapshot

/-- A thread goes on from this phase. -/
def atPhase (e : MediaEngine) (thread : ℕ) (phase : StartPhase) (next : StartThread → MediaEngine) : MediaEngine :=
  match e.starts thread with
  | some start => if start.phase = phase then next start else e
  | none => e

variable (D : Engine.Crypto) (C : Tgcalls.Crypto) (P : Platform)

def step (e : MediaEngine) : MediaEvent → MediaEngine
  | .dh (.dropCall callId) => e.dropCall callId
  | .dh op => { e with toVoipEngine := e.toVoipEngine.apply D op }
  | .startMedia thread descriptor input => e.startMedia P thread descriptor input
  | .drainFailed => { e with tgcallsConnection := none }
  | .prepare thread => e.atPhase thread .selecting (e.prepareNext thread)
  | .markConnecting thread => e.atPhase thread .prepared (e.markConnecting thread)
  | .handshake thread success => e.atPhase thread .connecting fun start => e.endHandshake thread start success
  | .openAudio thread success => e.atPhase thread .selected fun start => e.openAudio thread start success
  | .publish thread codecReady =>
    match e.starts thread with
    | some start =>
      match start.phase with
      | .opened audio => e.publish thread start audio codecReady
      | _ => e
    | none => e
  | .mediaReady => { e with activeMedia := e.activeMedia.map fun active => { active with mediaReady := true } }
  | .connection input => { e with tgcallsConnection := e.tgcallsConnection.map fun conn => conn.onInput C input }
  | .connectionAudio audio => { e with tgcallsConnection := e.tgcallsConnection.map fun conn => conn.openAudio audio }
  | .setMuted muted emitError => (e.setMuted muted emitError).1
  | .stopMedia => e.stopMedia

/-! ### First facts -/

/-- The thread stands in this phase. -/
def StandsAt (e : MediaEngine) (thread : ℕ) (phase : StartPhase) (start : StartThread) : Prop :=
  e.starts thread = some start ∧ start.phase = phase

variable {e : MediaEngine} {thread : ℕ} {phase : StartPhase}

theorem StandsAt.unique {start start' : StartThread} (h : e.StandsAt thread phase start)
    (h' : e.StandsAt thread phase start') : start' = start :=
  Option.some.inj (h'.1.symm.trans h.1)

theorem atPhase_cases (e : MediaEngine) (thread : ℕ) (phase : StartPhase) (next : StartThread → MediaEngine) :
    (∃ start, e.StandsAt thread phase start ∧ e.atPhase thread phase next = next start) ∨
      (∀ start, ¬ e.StandsAt thread phase start) ∧ e.atPhase thread phase next = e := by
  unfold atPhase
  cases hstart : e.starts thread with
  | none =>
    refine .inr ⟨?_, rfl⟩
    rintro start ⟨hstart', -⟩
    rw [hstart] at hstart'
    cases hstart'
  | some start =>
    by_cases hphase : start.phase = phase
    · exact .inl ⟨start, ⟨hstart, hphase⟩, if_pos hphase⟩
    · refine .inr ⟨?_, if_neg hphase⟩
      rintro start' ⟨hstart', hphase'⟩
      obtain rfl := Option.some.inj (hstart.symm.trans hstart')
      exact hphase hphase'

@[simp] theorem getMediaSnapshot_muted (e : MediaEngine) : e.getMediaSnapshot.muted = e.session.muted := by
  unfold getMediaSnapshot
  split
  · rfl
  · split <;> rfl

end MediaEngine

end VianiumVoip.Engine
