import VianiumVoip.Tgcalls.SetupRoles

/-!
# Announcing the local candidates

`StartIcePhase` is entered from `OnPeerInitialSetup` and from `OnPeerCandidates`.  It sends our `Candidates` message
when the peer's credentials are there, and takes this for the first time as long as `m_iceStarted` is not set.  The
latch is set further down, once a candidate of the peer is there as well.

`announced_once_iff` says which runs announce the candidates once: those in which no entry with credentials follows the
first one before the phase has started.
-/

namespace VianiumVoip.Tgcalls

open VianiumVoip.Lib VianiumVoip.Lib.Run VianiumVoip.Dtls VianiumVoip.Ice

/-! ### What a datagram leaves alone -/

namespace TgcallsConnection

variable {C : Crypto} {c c' c'' : TgcallsConnection}

/-- The peer's credentials and the way out for signaling stay as they are. -/
structure SameSignaling (c c' : TgcallsConnection) : Prop where
  received : c'.peerInitialReceived = c.peerInitialReceived
  ufrag : c'.peerUfrag = c.peerUfrag
  pwd : c'.peerPwd = c.peerPwd
  out : c'.hasSignalingOut = c.hasSignalingOut
  key : c'.sharedKey = c.sharedKey

theorem SameSignaling.refl (c : TgcallsConnection) : SameSignaling c c := ⟨rfl, rfl, rfl, rfl, rfl⟩

theorem sameSignaling_startDtlsPhase (draws : InitiateDraws) : SameSignaling c (c.startDtlsPhase draws).1 := by
  unfold startDtlsPhase
  split
  · exact .refl c
  dsimp only
  split
  · exact ⟨rfl, rfl, rfl, rfl, rfl⟩
  split_ifs <;> exact ⟨rfl, rfl, rfl, rfl, rfl⟩

theorem sameSignaling_onIceConnected (draws : InitiateDraws) : SameSignaling c (c.onIceConnected draws).1 := by
  unfold onIceConnected
  split_ifs
  · exact .refl c
  · exact sameSignaling_startDtlsPhase draws

theorem sameSignaling_onDtlsEstablished (C : Srtp.Crypto) (keys : Bytes) (audio : AudioInput) :
    SameSignaling c (c.onDtlsEstablished C keys audio) := by
  unfold onDtlsEstablished startAudioPhase
  split_ifs <;> exact ⟨rfl, rfl, rfl, rfl, rfl⟩

theorem sameSignaling_onDtlsDatagram (inner : Bytes) (audio : AudioInput) :
    SameSignaling c (c.onDtlsDatagram C inner audio).1 := by
  unfold onDtlsDatagram
  cases c.dtls with
  | none => exact .refl c
  | some dtls =>
    simp only
    split_ifs
    · have h := sameSignaling_onDtlsEstablished (c := { c with dtls := some (dtls.processDatagram C.dtls inner).1 })
        C.srtp ((dtls.processDatagram C.dtls inner).1.exportKeyingMaterial C.dtls "EXTRACTOR-dtls_srtp" 60) audio
      exact ⟨h.received, h.ufrag, h.pwd, h.out, h.key⟩
    · exact ⟨rfl, rfl, rfl, rfl, rfl⟩
    · exact ⟨rfl, rfl, rfl, rfl, rfl⟩

theorem sameSignaling_onSrtpDatagram (C : Srtp.Crypto) (bytes : Bytes) :
    SameSignaling c (c.onSrtpDatagram C bytes).1 := by
  unfold onSrtpDatagram
  split_ifs
  · exact .refl c
  · split
    · simp only
      split_ifs <;> exact ⟨rfl, rfl, rfl, rfl, rfl⟩
    · exact .refl c

theorem sameSignaling_onReflectorDatagram (a : Arrival) : SameSignaling c (c.onReflectorDatagram C a).1 := by
  unfold onReflectorDatagram
  cases a.inner with
  | nil => exact .refl c
  | cons firstByte rest =>
    simp only
    split_ifs
    · exact sameSignaling_onIceConnected a.draws
    · exact .refl c
    · exact sameSignaling_onDtlsDatagram _ a.audio
    · exact sameSignaling_onSrtpDatagram C.srtp _
    · exact .refl c
    · exact .refl c

theorem sameSignaling_start (P : Cert.Platform) (input : StartInput) : SameSignaling c (c.start P input).1 := by
  unfold start
  split
  · exact .refl c
  split
  · exact .refl c
  split
  · exact .refl c
  split
  · exact ⟨rfl, rfl, rfl, rfl, rfl⟩
  dsimp only
  split
  · exact ⟨rfl, rfl, rfl, rfl, rfl⟩
  split <;> exact ⟨rfl, rfl, rfl, rfl, rfl⟩

end TgcallsConnection

namespace IceConnection

open TgcallsConnection

variable (C : Crypto)

/-! ### The messages that are emitted -/

/-- `EmitMessages` reaches the signaling callback: there is one, and the key is good for an envelope. -/
def canEmit (c : IceConnection) : Bool := c.hasSignalingOut ∧ c.sharedKey.length = kSharedKeySize

/-- What an input makes the connection send. -/
def effects (c : IceConnection) : Input → Effects
  | .initialSetup msg draws => (c.onPeerInitialSetup C msg draws).2
  | .candidates lines draws => (c.onPeerCandidates C lines draws).2
  | .datagram srcIp srcPort payload draws audio => (c.onReflectorDatagramFrom C srcIp srcPort payload draws audio).2
  | .retryTimer transactionId => (c.onIceRetryTimer C transactionId).2

/-- An input makes the connection emit its `Candidates` message. -/
def Announces (c : IceConnection) (i : Input) : Prop := (c.effects C i).candidates = true ∧ c.canEmit = true

instance (c : IceConnection) (i : Input) : Decidable (c.Announces C i) := inferInstanceAs (Decidable (_ ∧ _))

/-- A connection with its past: whether it has ever had the peer's ufrag and pwd, and how many `Candidates` messages it
has emitted. -/
structure Announcer where
  conn : IceConnection
  known : Bool := false
  announced : ℕ := 0

def Announcer.step (s : Announcer) (i : Input) : Announcer where
  conn := s.conn.step C i
  known := s.known || (s.conn.step C i).peerReady
  announced := s.announced + if s.conn.Announces C i then 1 else 0

/-- **Announced once**: as soon as the credentials are known, and never again. -/
def Announcer.AnnouncedOnce (s : Announcer) : Prop := s.announced = if s.known then 1 else 0

instance (s : Announcer) : Decidable s.AnnouncedOnce := inferInstanceAs (Decidable (_ = _))

/-- A message that enters `StartIcePhase` with the peer's credentials, after the first such message, finds the phase
started. -/
def Announcer.EntersStarted (s : Announcer) : Input → Prop
  | .initialSetup msg _ => s.known = true → msg.ufrag ≠ "" → msg.pwd ≠ "" → s.conn.iceStarted = true
  | .candidates _ _ => s.known = true → s.conn.peerReady = true → s.conn.iceStarted = true
  | _ => True

/-- The connection can emit, and the peer's credentials have been known when they are there or the phase has started. -/
structure Announcer.Sound (s : Announcer) : Prop where
  emits : s.conn.canEmit = true
  known_of_ready : s.conn.peerReady = true → s.known = true
  known_of_started : s.conn.iceStarted = true → s.known = true

variable {C} {c c' : IceConnection}

/-! ### What one input announces -/

theorem peerReady_of_sameSignaling (h : SameSignaling c.toTgcallsConnection c'.toTgcallsConnection) :
    c'.peerReady = c.peerReady := by
  simp only [peerReady, h.received, h.ufrag, h.pwd]

theorem canEmit_of_sameSignaling (h : SameSignaling c.toTgcallsConnection c'.toTgcallsConnection) :
    c'.canEmit = c.canEmit := by
  simp only [canEmit, h.out, h.key]

theorem sameSignaling_datagram (srcIp : String) (srcPort : ℤ) (payload : Bytes) (draws : InitiateDraws)
    (audio : AudioInput) :
    SameSignaling c.toTgcallsConnection (c.step C (.datagram srcIp srcPort payload draws audio)).toTgcallsConnection := by
  simp only [step, onReflectorDatagramFrom, onReflectorDatagram]
  split_ifs
  · exact .refl _
  split
  · exact .refl _
  split
  · exact .refl _
  split_ifs
  · unfold onStunDatagram
    cases c.iceAgent with
    | none => exact .refl _
    | some agent => exact sameSignaling_onReflectorDatagram _
  · exact sameSignaling_onReflectorDatagram _

theorem sameSignaling_retryTimer (ids : ℕ → Vector UInt8 12) :
    SameSignaling c.toTgcallsConnection (c.step C (.retryTimer ids)).toTgcallsConnection := by
  simp only [step, onIceRetryTimer]
  split_ifs
  · exact .refl _
  · exact ⟨rfl, rfl, rfl, rfl, rfl⟩
  · simp only [sendIceBindingRequests_base]
    exact .refl _

theorem candidates_datagram (srcIp : String) (srcPort : ℤ) (payload : Bytes) (draws : InitiateDraws)
    (audio : AudioInput) : (c.effects C (.datagram srcIp srcPort payload draws audio)).candidates = false := by
  simp only [effects, onReflectorDatagramFrom, onReflectorDatagram]
  split_ifs
  · rfl
  split
  · rfl
  split
  · rfl
  split_ifs
  · unfold onStunDatagram
    cases c.iceAgent <;> rfl
  · rfl

theorem candidates_retryTimer (ids : ℕ → Vector UInt8 12) : (c.effects C (.retryTimer ids)).candidates = false := by
  simp only [effects, onIceRetryTimer]
  split_ifs <;> rfl

/-- **What `StartIcePhase` announces**: the candidates, where the credentials are there and the phase has not
started. -/
theorem candidates_startIcePhase (draws : IceDraws) :
    (c.startIcePhase C draws).2.candidates = true ↔ c.peerReady = true ∧ c.iceStarted = false := by
  simp only [startIcePhase]
  cases c.peerReady <;> cases hstarted : c.iceStarted <;> by_cases hempty : c.peerCandidates = [] <;> simp [hempty]

theorem peerReady_startIcePhase (draws : IceDraws) : (c.startIcePhase C draws).1.peerReady = c.peerReady := by
  refine peerReady_of_sameSignaling ?_
  rw [startIcePhase_base]
  exact .refl _

theorem canEmit_startIcePhase (draws : IceDraws) : (c.startIcePhase C draws).1.canEmit = c.canEmit := by
  refine canEmit_of_sameSignaling ?_
  rw [startIcePhase_base]
  exact .refl _

theorem iceStarted_startIcePhase (draws : IceDraws) (h : (c.startIcePhase C draws).1.iceStarted = true) :
    c.iceStarted = true ∨ c.peerReady = true := by
  by_cases hready : c.peerReady = true
  · exact .inr hready
  · simp only [startIcePhase, eq_false_of_ne_true hready, Bool.not_false, if_true] at h
    exact .inl h

namespace Announcer

variable {s : Announcer}

/-- What a message that enters `StartIcePhase` does to the count, from its connection `c` on. -/
theorem announcedOnce_enter_iff (hs : s.Sound) (h : s.AnnouncedOnce) {i : Input} {draws : IceDraws}
    (hstarted : c.iceStarted = s.conn.iceStarted) (hconn : s.conn.step C i = (c.startIcePhase C draws).1)
    (heffects : s.conn.effects C i = (c.startIcePhase C draws).2) :
    (s.step C i).AnnouncedOnce ↔ (s.known = true → c.peerReady = true → s.conn.iceStarted = true) := by
  have hannounces : s.conn.Announces C i ↔ c.peerReady = true ∧ s.conn.iceStarted = false := by
    rw [Announces, heffects, candidates_startIcePhase, hstarted, hs.emits]
    simp
  have hfresh : s.known = false → s.conn.iceStarted = false := by
    intro hunknown
    cases hlatch : s.conn.iceStarted with
    | false => rfl
    | true => exact absurd (hs.known_of_started hlatch) (by rw [hunknown]; decide)
  simp only [AnnouncedOnce, step, hconn, peerReady_startIcePhase] at h ⊢
  rw [h]
  cases hknown : s.known with
  | true => cases hready : c.peerReady <;> cases hlatch : s.conn.iceStarted <;> simp [hannounces, hready, hlatch]
  | false => cases hready : c.peerReady <;> simp [hannounces, hready, hfresh hknown]

theorem announcedOnce_of_quiet (hs : s.Sound) (h : s.AnnouncedOnce) {i : Input}
    (hsame : SameSignaling s.conn.toTgcallsConnection (s.conn.step C i).toTgcallsConnection)
    (hquiet : (s.conn.effects C i).candidates = false) : (s.step C i).AnnouncedOnce := by
  have hknown : (s.known || s.conn.peerReady) = s.known := by
    cases hready : s.conn.peerReady with
    | false => exact Bool.or_false _
    | true => rw [hs.known_of_ready hready, Bool.or_true]
  simp only [AnnouncedOnce, step, Announces, hquiet, peerReady_of_sameSignaling hsame, hknown] at h ⊢
  simpa using h

/-- **A step announces once exactly when its guard holds.** -/
theorem announcedOnce_step_iff (hs : s.Sound) (h : s.AnnouncedOnce) (i : Input) :
    (s.step C i).AnnouncedOnce ↔ s.EntersStarted i := by
  cases i with
  | initialSetup msg draws =>
    have hready : ({ s.conn with
        toTgcallsConnection := s.conn.toTgcallsConnection.onPeerInitialSetup msg } : IceConnection).peerReady = true
          ↔ msg.ufrag ≠ "" ∧ msg.pwd ≠ "" := by
      simp only [peerReady, TgcallsConnection.onPeerInitialSetup]
      split_ifs <;> simp
    rw [announcedOnce_enter_iff (c := { s.conn with
      toTgcallsConnection := s.conn.toTgcallsConnection.onPeerInitialSetup msg }) hs h rfl rfl rfl, hready,
      EntersStarted, and_imp]
  | candidates lines draws =>
    exact announcedOnce_enter_iff (c := { s.conn with peerCandidates := s.conn.peerCandidates ++ lines }) hs h rfl rfl rfl
  | datagram srcIp srcPort payload draws audio =>
    refine iff_of_true ?_ trivial
    exact announcedOnce_of_quiet hs h (sameSignaling_datagram srcIp srcPort payload draws audio)
      (candidates_datagram srcIp srcPort payload draws audio)
  | retryTimer ids =>
    refine iff_of_true ?_ trivial
    exact announcedOnce_of_quiet hs h (sameSignaling_retryTimer ids) (candidates_retryTimer ids)

/-! ### Runs -/

theorem sound_enter (hs : s.Sound) {i : Input} {draws : IceDraws} (hemit : c.canEmit = s.conn.canEmit)
    (hstarted : c.iceStarted = s.conn.iceStarted) (hconn : s.conn.step C i = (c.startIcePhase C draws).1) :
    (s.step C i).Sound where
  emits := by
    simp only [step, hconn]
    rw [canEmit_startIcePhase, hemit, hs.emits]
  known_of_ready := by
    intro hready
    exact Bool.or_eq_true_iff.2 (.inr hready)
  known_of_started := by
    intro hlatch
    simp only [step, hconn, peerReady_startIcePhase] at hlatch ⊢
    rcases iceStarted_startIcePhase draws hlatch with hbefore | hready
    · rw [hs.known_of_started (hstarted.symm.trans hbefore), Bool.true_or]
    · rw [hready, Bool.or_true]

theorem sound_of_quiet (hs : s.Sound) {i : Input}
    (hsame : SameSignaling s.conn.toTgcallsConnection (s.conn.step C i).toTgcallsConnection)
    (hstarted : (s.conn.step C i).iceStarted = s.conn.iceStarted) : (s.step C i).Sound where
  emits := (canEmit_of_sameSignaling hsame).trans hs.emits
  known_of_ready := by
    intro hready
    exact Bool.or_eq_true_iff.2 (.inr hready)
  known_of_started := by
    intro hlatch
    simp only [step, hstarted] at hlatch ⊢
    rw [hs.known_of_started hlatch, Bool.true_or]

theorem sound_step (s : Announcer) (i : Input) (hs : s.Sound) : (s.step C i).Sound := by
  cases i with
  | initialSetup msg draws =>
    refine sound_enter (c := { s.conn with
      toTgcallsConnection := s.conn.toTgcallsConnection.onPeerInitialSetup msg }) hs ?_ rfl rfl
    simp only [canEmit, TgcallsConnection.onPeerInitialSetup]
    split_ifs <;> rfl
  | candidates lines draws =>
    exact sound_enter (c := { s.conn with peerCandidates := s.conn.peerCandidates ++ lines }) hs rfl rfl rfl
  | datagram srcIp srcPort payload draws audio =>
    exact sound_of_quiet hs (sameSignaling_datagram srcIp srcPort payload draws audio)
      (sameKnown_datagram srcIp srcPort payload draws audio).started
  | retryTimer ids => exact sound_of_quiet hs (sameSignaling_retryTimer ids) (sameKnown_retryTimer ids).started

/-- A connection after `Start`. -/
def started (P : Cert.Platform) (isOutgoing : Bool) (sharedKey : Bytes) (reflectors : List ReflectorEndpoint)
    (hasSignalingOut : Bool) (input : StartInput) : Announcer where
  conn := ofConnection ((construct isOutgoing sharedKey reflectors hasSignalingOut).start P input).1

/-- A `Start` that succeeds leaves a connection that can emit, and that has heard of no peer. -/
theorem sound_started {P : Cert.Platform} {isOutgoing : Bool} {sharedKey : Bytes} {reflectors : List ReflectorEndpoint}
    {hasSignalingOut : Bool} {input : StartInput}
    (h : ((construct isOutgoing sharedKey reflectors hasSignalingOut).start P input).2.2 = none) :
    (started P isOutgoing sharedKey reflectors hasSignalingOut input).Sound := by
  obtain ⟨hout, hkey⟩ := canSignal_of_start h
  have hsame := sameSignaling_start (c := construct isOutgoing sharedKey reflectors hasSignalingOut) P input
  refine ⟨?_, ?_, ?_⟩
  · simp [started, canEmit, ofConnection, hsame.out, hsame.key, hout, hkey]
  · have hreceived := hsame.received
    simp only [construct] at hreceived
    simp [started, peerReady, ofConnection, construct, hreceived]
  · simp [started, ofConnection]

/-- **When the candidates are announced once.**  In every state of a run of a started connection it has emitted its
`Candidates` message once if the peer's credentials have been known, and never if they have not, exactly when every
message that enters the phase with credentials after they were first known finds it started. -/
theorem announced_once_iff (C : Crypto) (isOutgoing : Bool) (sharedKey : Bytes) (reflectors : List ReflectorEndpoint)
    (hasSignalingOut : Bool) (input : StartInput) (inputs : List Input)
    (hstart : ((construct isOutgoing sharedKey reflectors hasSignalingOut).start C.dtls.toPlatform input).2.2 = none) :
    (∀ pre, pre <+: inputs →
        (run (step C) (started C.dtls.toPlatform isOutgoing sharedKey reflectors hasSignalingOut input) pre).AnnouncedOnce) ↔
      Guarded (step C) EntersStarted
        (started C.dtls.toPlatform isOutgoing sharedKey reflectors hasSignalingOut input) inputs := by
  have hstep : ∀ s i, Sound s → AnnouncedOnce s → (AnnouncedOnce (step C s i) ↔ EntersStarted s i) :=
    fun _ i hs h => announcedOnce_step_iff hs h i
  exact reached_iff_guarded sound_step hstep inputs (sound_started hstart) rfl

/-! ### The peer's setup, then its candidates -/

/-- The order in which a peer sends them. -/
def sampleEntries : List Input :=
  [.initialSetup
      { ufrag := "abcd", pwd := "0123456789abcdef012345", supportsRenomination := false, hash := "sha-256"
        setup := "active", fingerprint := [] } sampleDraws,
    .candidates ["candidate:rl1 1 udp 16776959 10.0.0.1 1400 typ relay generation 0 ufrag abcd"] sampleDraws]

def sampleAnnouncer : Announcer :=
  started samplePlatform true sampleCall.sharedKey sampleCall.reflectors true sampleStart

/-- A setup that finds the candidates parked is answered once. -/
theorem announced_once_sample :
    (run (step sampleLibraries) sampleAnnouncer sampleEntries.reverse).AnnouncedOnce := by
  have hexact := announced_once_iff sampleLibraries true sampleCall.sharedKey sampleCall.reflectors true sampleStart
    sampleEntries.reverse (by decide +kernel)
  refine hexact.2 ⟨fun hknown => ?_, fun hknown => ?_, trivial⟩ _ List.prefix_rfl
  · exact absurd hknown (by decide +kernel)
  · exact absurd hknown (by decide +kernel)

/-- **The candidates are announced twice**: for the setup, and again for the first candidates. -/
theorem announced_twice : ¬ (run (step sampleLibraries) sampleAnnouncer sampleEntries).AnnouncedOnce ∧
    (run (step sampleLibraries) sampleAnnouncer sampleEntries).announced = 2 := by
  decide +kernel

end Announcer

end IceConnection

end VianiumVoip.Tgcalls
