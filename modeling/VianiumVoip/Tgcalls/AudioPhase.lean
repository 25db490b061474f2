import VianiumVoip.Engine.MediaSession
import VianiumVoip.Tgcalls.SrtpReceive
import VianiumVoip.Tgcalls.Trickle

/-!
# The audio device of a connection

A connection keeps the mute flag of the user, and passes it on to its audio device if it has one.  It gets one late:
`StartAudioPhase` creates it when the SRTP keys are there, opens it, and does not look at the flag.  Opening a
device blocks, and `SetMuted` may be called meanwhile; so the audio phase is two steps here, and `openAudio_onInput` says
that together they are the one step of `onReflectorDatagram`.
-/

namespace VianiumVoip.Tgcalls

open VianiumVoip.Lib VianiumVoip.Dtls VianiumVoip.Engine TgcallsConnection

/-- A connection with its audio device, as it belongs to a call. -/
structure MediaConnection extends IceConnection where
  callId : ℤ
  muted : Bool := false
  audio : Option AudioDevice := none
  /-- `StartAudioPhase` has created the device, and is opening it. -/
  startingAudio : Bool := false

namespace MediaConnection

variable (C : Crypto)

/-- The state in which the audio phase ends. -/
def audioState (audio : AudioInput) : State := if audio.opened ∧ audio.codecInit then .connected else .failed

/-- `SetMuted`, with the error of announcing it to the peer where there is one. -/
def setMuted (c : MediaConnection) (muted : Bool) (emitError : Option VoipError) :
    MediaConnection × Except VoipError Unit :=
  ({ c with muted := muted, audio := c.audio.map (·.setMuted muted) },
    match emitError with
    | some error => .error error
    | none => .ok ())

/-- What happens to a connection, up to the point where a device is opened. -/
def onInput (c : MediaConnection) (input : IceConnection.Input) : MediaConnection :=
  let next := IceConnection.step C c.toIceConnection input
  if next.srtpReady ∧ ¬ c.srtpReady then
    -- the transition comes with the device
    let next := { next with state := c.state }
    { c with toIceConnection := next, audio := some {}, startingAudio := true }
  else { c with toIceConnection := next }

/-- `StartAudioPhase` from `Open` on. -/
def openAudio (c : MediaConnection) (input : AudioInput) : MediaConnection :=
  if !c.startingAudio then c
  else
    { c with
      state := audioState input
      audio := c.audio.map (·.opened input.opened)
      startingAudio := false }

variable {C} {c : MediaConnection}

/-! ### The audio phase in one step -/

theorem startAudioPhase_state (c : TgcallsConnection) (keys : Bytes) (audio : AudioInput) :
    (c.startAudioPhase C.srtp keys audio).state = audioState audio := by
  unfold startAudioPhase audioState
  cases hopened : audio.opened <;> cases hcodec : audio.codecInit <;> rfl

theorem startDtlsPhase_srtpReady (c : TgcallsConnection) (draws : InitiateDraws) :
    (c.startDtlsPhase draws).1.srtpReady = c.srtpReady := by
  simp only [startDtlsPhase]
  split
  · rfl
  · split
    · rfl
    · split_ifs <;> rfl

theorem onIceConnected_srtpReady (c : TgcallsConnection) (draws : InitiateDraws) :
    (c.onIceConnected draws).1.srtpReady = c.srtpReady := by
  unfold onIceConnected
  split_ifs
  · rfl
  · exact startDtlsPhase_srtpReady c draws

theorem onDtlsEstablished_state {c : TgcallsConnection} {keys : Bytes} {audio : AudioInput} (hnot : c.srtpReady = false)
    (hready : (c.onDtlsEstablished C.srtp keys audio).srtpReady = true) :
    (c.onDtlsEstablished C.srtp keys audio).state = audioState audio := by
  unfold onDtlsEstablished at hready ⊢
  split_ifs at hready ⊢
  · rw [transitionTo, hnot] at hready
    cases hready
  · exact startAudioPhase_state c keys audio

theorem onDtlsDatagram_state {c : TgcallsConnection} {inner : Bytes} {audio : AudioInput} (hnot : c.srtpReady = false)
    (hready : (c.onDtlsDatagram C inner audio).1.srtpReady = true) :
    (c.onDtlsDatagram C inner audio).1.state = audioState audio := by
  unfold onDtlsDatagram at hready ⊢
  cases hdtls : c.dtls with
  | none =>
    rw [hdtls] at hready
    rw [hnot] at hready
    cases hready
  | some dtls =>
    rw [hdtls] at hready
    simp only at hready ⊢
    split_ifs at hready ⊢
    · exact onDtlsEstablished_state hnot hready
    · rw [transitionTo, hnot] at hready
      cases hready
    · rw [hnot] at hready
      cases hready

/-- The keys are installed by the audio phase, and by nothing else that a datagram brings about. -/
theorem onReflectorDatagram_state {c : TgcallsConnection} {a : TgcallsConnection.Arrival} (hnot : c.srtpReady = false)
    (hready : (c.onReflectorDatagram C a).1.srtpReady = true) :
    (c.onReflectorDatagram C a).1.state = audioState a.audio := by
  have hsame : ¬ c.srtpReady = true := by rw [hnot]; decide
  unfold onReflectorDatagram at hready ⊢
  split at hready
  · exact absurd hready hsame
  · next firstByte rest hinner =>
    split_ifs at hready ⊢
    · exact absurd ((onIceConnected_srtpReady c a.draws).symm.trans hready) hsame
    · exact absurd hready hsame
    · exact onDtlsDatagram_state hnot hready
    · rw [onSrtpDatagram_not_ready (fun h => hsame h.1)] at hready
      exact absurd hready hsame
    · exact absurd hready hsame
    · exact absurd hready hsame

theorem step_datagram_state {c : IceConnection} {srcIp : String} {srcPort : ℤ} {payload : Bytes} {draws : InitiateDraws}
    {audio : AudioInput} (hnot : c.srtpReady = false)
    (hready : (IceConnection.step C c (.datagram srcIp srcPort payload draws audio)).srtpReady = true) :
    (IceConnection.step C c (.datagram srcIp srcPort payload draws audio)).state = audioState audio := by
  have hsame : ¬ c.srtpReady = true := by rw [hnot]; decide
  simp only [IceConnection.step, IceConnection.onReflectorDatagramFrom, IceConnection.onReflectorDatagram] at hready ⊢
  split_ifs at hready ⊢
  · exact absurd hready hsame
  split at hready
  · exact absurd hready hsame
  split at hready
  · exact absurd hready hsame
  split_ifs at hready ⊢
  · unfold IceConnection.onStunDatagram at hready ⊢
    cases hagent : c.iceAgent with
    | none =>
      rw [hagent] at hready
      exact absurd hready hsame
    | some agent =>
      rw [hagent] at hready
      exact onReflectorDatagram_state hnot hready
  · exact onReflectorDatagram_state hnot hready

/-- **The audio phase in two steps is the audio phase.** -/
theorem openAudio_onInput {srcIp : String} {srcPort : ℤ} {payload : Bytes} {draws : InitiateDraws} {audio : AudioInput}
    (hidle : c.startingAudio = false) :
    ((c.onInput C (.datagram srcIp srcPort payload draws audio)).openAudio audio).toIceConnection
      = IceConnection.step C c.toIceConnection (.datagram srcIp srcPort payload draws audio) := by
  unfold onInput
  by_cases hkeys : (IceConnection.step C c.toIceConnection (.datagram srcIp srcPort payload draws audio)).srtpReady = true
      ∧ ¬ c.srtpReady = true
  · have hstate := step_datagram_state (Bool.eq_false_iff.2 hkeys.2) hkeys.1
    simp only [if_pos hkeys]
    unfold openAudio
    simp only [Bool.not_true, Bool.false_eq_true, if_false, ← hstate]
  · simp only [if_neg hkeys]
    unfold openAudio
    simp only [hidle, Bool.not_false, if_true]

end MediaConnection

end VianiumVoip.Tgcalls
