import VianiumVoip.Engine.Dh

/-!
# The media session and the audio device

`VoipMediaSession` is the domain object that stands for the media of a call: which call, over which endpoint, and
whether the user has muted it.  `StartMedia` prepares it once per endpoint it tries, and stops it after each that fails.
The flag that silences the microphone is another one, that of the audio device.
-/

namespace VianiumVoip.Engine

open VianiumVoip.Lib

structure VoipEndpoint where
  id : ℤ := 0
  ip : String := ""
  ipv6 : String := ""
  port : ℤ := 0
  peerTag : Bytes := []
  isWebRtc : Bool := false
  username : String := ""
  password : String := ""
  deriving DecidableEq

/-! ### The order of the endpoints -/

namespace VoipEndpoint

def hasAddress (endpoint : VoipEndpoint) : Bool := endpoint.ip ≠ "" ∨ endpoint.ipv6 ≠ ""

def endpointHasIpv4 (endpoint : VoipEndpoint) : Bool := endpoint.ip ≠ ""

def isUsableReflectorEndpoint (endpoint : VoipEndpoint) : Bool :=
  0 < endpoint.port ∧ endpoint.port ≤ 65535 ∧ endpoint.hasAddress ∧ ¬ endpoint.isWebRtc ∧ endpoint.peerTag ≠ []

def isClassicProbableEndpoint (endpoint : VoipEndpoint) : Bool :=
  0 < endpoint.port ∧ endpoint.port ≤ 65535 ∧ endpoint.hasAddress ∧ endpoint.peerTag ≠ []

end VoipEndpoint

/-- Reflectors with an IPv4 address, then the other reflectors, and last the WebRTC endpoints with a peer tag. -/
def orderedReflectorEndpoints (endpoints : List VoipEndpoint) : List VoipEndpoint :=
  endpoints.filter (fun endpoint => endpoint.isUsableReflectorEndpoint ∧ endpoint.endpointHasIpv4) ++
    endpoints.filter (fun endpoint => endpoint.isUsableReflectorEndpoint ∧ ¬ endpoint.endpointHasIpv4) ++
    endpoints.filter fun endpoint =>
      endpoint.isWebRtc ∧ endpoint.isClassicProbableEndpoint ∧ endpoint.peerTag ≠ []

/-! ### The session -/

inductive VoipMediaState
  | idle
  | prepared
  | connecting
  | active
  | stopped
  deriving DecidableEq, Repr

/-- What the session shows of itself, but for its counters. -/
structure VoipMediaSnapshot where
  state : VoipMediaState := .idle
  callId : ℤ := 0
  endpoint : VoipEndpoint := {}
  muted : Bool := false
  speakerOn : Bool := false

structure VoipMediaSession where
  state : VoipMediaState := .idle
  callId : ℤ := 0
  keyHandle : String := ""
  endpoint : VoipEndpoint := {}
  muted : Bool := false
  speakerOn : Bool := false

namespace VoipMediaSession

def prepare (s : VoipMediaSession) (callId : ℤ) (keyHandle : String) (endpoint : VoipEndpoint) :
    VoipMediaSession × Except VoipError Unit :=
  if callId ≤ 0 then (s, .error (invalid "media session callId must be positive"))
  else if keyHandle = "" then (s, .error (invalid "media session key handle is missing"))
  else if endpoint.port ≤ 0 ∨ 65535 < endpoint.port then
    (s, .error (invalid "media session endpoint port is invalid"))
  else if ¬ endpoint.hasAddress then (s, .error (invalid "media session endpoint address is missing"))
  else if endpoint.peerTag = [] then (s, .error (invalid "media session reflector peer_tag is missing"))
  else if s.state ≠ .idle ∧ s.state ≠ .stopped ∧ s.callId ≠ callId then
    (s, .error (invalid "another media session is already prepared"))
  else
    ({ s with
        state := .prepared
        callId := callId
        keyHandle := keyHandle
        endpoint := endpoint
        muted := false
        speakerOn := false }, .ok ())

def markConnecting (s : VoipMediaSession) : VoipMediaSession × Except VoipError Unit :=
  if s.state ≠ .prepared then (s, .error (invalid "media session must be prepared before connecting"))
  else ({ s with state := .connecting }, .ok ())

def setMuted (s : VoipMediaSession) (muted : Bool) : VoipMediaSession × Except VoipError Unit :=
  if s.state = .idle ∨ s.state = .stopped then (s, .error (invalid "media session is not started"))
  else ({ s with muted := muted }, .ok ())

def stop (s : VoipMediaSession) : VoipMediaSession :=
  { s with
    state := .stopped
    callId := 0
    keyHandle := ""
    endpoint := {}
    muted := false
    speakerOn := false }

def snapshot (s : VoipMediaSession) : VoipMediaSnapshot where
  state := s.state
  callId := s.callId
  endpoint := s.endpoint
  muted := s.muted
  speakerOn := s.speakerOn

/-- The session takes `SetMuted`. -/
def Started (s : VoipMediaSession) : Prop := s.state ≠ .idle ∧ s.state ≠ .stopped

variable {s s' : VoipMediaSession} {callId : ℤ} {keyHandle : String} {endpoint : VoipEndpoint}

@[simp] theorem stop_muted : s.stop.muted = false := rfl

@[simp] theorem snapshot_muted : s.snapshot.muted = s.muted := rfl

/-- **A session that is prepared is no longer muted.** -/
theorem prepare_muted (h : s.prepare callId keyHandle endpoint = (s', .ok ())) : s'.muted = false := by
  unfold prepare at h
  split_ifs at h <;> cases h
  rfl

theorem markConnecting_prepared (h : s.state = .prepared) :
    s.markConnecting = ({ s with state := .connecting }, .ok ()) := by
  rw [markConnecting, if_neg (not_not_intro h)]

theorem markConnecting_not_prepared (h : s.state ≠ .prepared) :
    s.markConnecting = (s, .error (invalid "media session must be prepared before connecting")) := by
  rw [markConnecting, if_pos h]

theorem setMuted_of_started (h : s.Started) (muted : Bool) : s.setMuted muted = ({ s with muted := muted }, .ok ()) := by
  rw [setMuted, if_neg (not_or.2 h)]

theorem setMuted_of_not_started (h : ¬ s.Started) (muted : Bool) :
    s.setMuted muted = (s, .error (invalid "media session is not started")) := by
  rw [setMuted, if_pos (by unfold Started at h; tauto)]

theorem setMuted_eq_ok_iff (muted : Bool) : (s.setMuted muted).2 = .ok () ↔ s.Started := by
  by_cases h : s.Started
  · simp [setMuted_of_started h, h]
  · simp [setMuted_of_not_started h, h]

end VoipMediaSession

/-- The endpoints that `StartMedia` tries pass the checks of `Prepare`: only the session of another call stops it. -/
theorem prepare_ordered {s : VoipMediaSession} {callId : ℤ} {keyHandle : String} {endpoint : VoipEndpoint}
    {endpoints : List VoipEndpoint} (hcall : 0 < callId) (hkey : keyHandle ≠ "")
    (hmem : endpoint ∈ orderedReflectorEndpoints endpoints) :
    (s.prepare callId keyHandle endpoint).2 = .ok () ↔ (s.Started → s.callId = callId) := by
  have hchecks : 0 < endpoint.port ∧ endpoint.port ≤ 65535 ∧ endpoint.hasAddress = true ∧ endpoint.peerTag ≠ [] := by
    simp only [orderedReflectorEndpoints, List.mem_append, List.mem_filter, VoipEndpoint.isUsableReflectorEndpoint,
      VoipEndpoint.isClassicProbableEndpoint, decide_eq_true_eq] at hmem
    tauto
  obtain ⟨hpos, hmax, haddress, htag⟩ := hchecks
  unfold VoipMediaSession.prepare VoipMediaSession.Started
  rw [if_neg (not_le.2 hcall), if_neg hkey, if_neg (by omega), if_neg (not_not_intro haddress), if_neg htag]
  split_ifs with hother
  · simpa using hother
  · simp only [true_iff]
    tauto

/-! ### The audio device -/

/-- `WinrtVoipAudioDevice`: a new one is closed and not muted. -/
structure AudioDevice where
  isOpen : Bool := false
  muted : Bool := false
  deriving DecidableEq, Repr

namespace AudioDevice

/-- `Open`, which is successful or not; a device that is open stays so. -/
def opened (d : AudioDevice) (success : Bool) : AudioDevice := { d with isOpen := d.isOpen || success }

def setMuted (d : AudioDevice) (muted : Bool) : AudioDevice := { d with muted := muted }

@[simp] theorem opened_muted (d : AudioDevice) (success : Bool) : (d.opened success).muted = d.muted := rfl

@[simp] theorem opened_isOpen (d : AudioDevice) (success : Bool) : (d.opened success).isOpen = (d.isOpen || success) := rfl

@[simp] theorem setMuted_muted (d : AudioDevice) (muted : Bool) : (d.setMuted muted).muted = muted := rfl

@[simp] theorem setMuted_isOpen (d : AudioDevice) (muted : Bool) : (d.setMuted muted).isOpen = d.isOpen := rfl

end AudioDevice

end VianiumVoip.Engine
