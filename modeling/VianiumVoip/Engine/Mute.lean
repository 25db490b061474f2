import VianiumVoip.Engine.IncomingAuthentication
import VianiumVoip.Engine.MediaPlane

/-!
# The mute flag

A mute that has been accepted should hold for every audio device of the call, and show in the snapshot, until the next
`SetMuted` or `StopMedia`.  The flag is in three places, and two kinds of step lose it: `StartMedia` prepares or stops
the session between endpoints, which clears the flag there, and a device is opened with a flag of its own.
`muteKept_iff` says which runs keep every mute that is accepted.
-/

namespace VianiumVoip.Engine

open VianiumVoip.Lib VianiumVoip.Lib.Run VianiumVoip.Cert VianiumVoip.Tgcalls

instance (s : VoipMediaSession) : Decidable s.Started := inferInstanceAs (Decidable (_ ∧ _))

/-- What counts as accepting a `SetMuted`. -/
inductive Acceptance
  /-- It returns no error. -/
  | returned
  /-- The media of the running call take it: the connection announces it to the peer, or without a connection the session
  takes it.  Over a connection `SetMuted` then still returns the error of the session, if that is not started. -/
  | taken

namespace MediaEngine

/-- The audio devices that have been made for a call and are in use. -/
inductive HasDevice (e : MediaEngine) (callId : ℤ) (d : AudioDevice) : Prop
  | starting {thread : ℕ} {start : StartThread} (h : e.starts thread = some start) (hcall : start.callId = callId)
      (hd : start.phase = .opened d)
  | active {active : VoipActiveMediaContext} (h : e.activeMedia = some active) (hcall : active.callId = callId)
      (hd : active.audio = d)
  | replaced {active : VoipActiveMediaContext} (h : active ∈ e.replaced) (hcall : active.callId = callId)
      (hd : active.audio = d)
  | connection {conn : MediaConnection} (h : e.tgcallsConnection = some conn) (hcall : conn.callId = callId)
      (hd : conn.audio = some d)

/-- Those that `SetMuted` does not reach. -/
inductive Unreached (e : MediaEngine) (callId : ℤ) (d : AudioDevice) : Prop
  | starting {thread : ℕ} {start : StartThread} (h : e.starts thread = some start) (hcall : start.callId = callId)
      (hd : start.phase = .opened d)
  | replaced {active : VoipActiveMediaContext} (h : active ∈ e.replaced) (hcall : active.callId = callId)
      (hd : active.audio = d)

/-- The call whose media run: that of the connection, or else that of the session. -/
def runningCall (e : MediaEngine) : ℤ :=
  match e.tgcallsConnection with
  | some conn => conn.callId
  | none => e.session.callId

/-- The `SetMuted` is accepted, with the error of announcing it where there is one. -/
def accepts (e : MediaEngine) (emitError : Option VoipError) : Acceptance → Bool
  | .returned => e.session.Started ∧ (e.tgcallsConnection.isNone ∨ emitError.isNone)
  | .taken =>
    match e.tgcallsConnection with
    | some _ => emitError.isNone
    | none => e.session.Started

/-- The step prepares or stops the session. -/
def Resets (e : MediaEngine) : MediaEvent → Prop
  | .prepare thread => ∃ start, e.StandsAt thread .selecting start
  | .markConnecting thread => (∃ start, e.StandsAt thread .prepared start) ∧ e.session.state ≠ .prepared
  | .handshake thread success => (∃ start, e.StandsAt thread .connecting start) ∧ success = false
  | .openAudio thread success => (∃ start, e.StandsAt thread .selected start) ∧ success = false
  | .publish thread codecReady => (∃ start d, e.StandsAt thread (.opened d) start) ∧ codecReady = false
  | _ => False

/-- The step opens a device of the call that has this flag. -/
def Opens (e : MediaEngine) : MediaEvent → ℤ → Bool → Prop
  | .openAudio thread success, callId, muted =>
    (∃ start, e.StandsAt thread .selected start ∧ start.callId = callId) ∧ success = true ∧ muted = false
  | .connectionAudio audio, callId, muted =>
    ∃ conn d, e.tgcallsConnection = some conn ∧ conn.startingAudio = true ∧ audio.opened = true ∧
      conn.callId = callId ∧ conn.audio = some d ∧ muted = d.muted
  | _, _, _ => False

end MediaEngine

/-- The engine, with the mute that is in force: the call and the flag of a `SetMuted` that was accepted. -/
structure MuteRun where
  engine : MediaEngine
  inForce : Option (ℤ × Bool) := none

namespace MuteRun

open MediaEngine

/-- **The mute in force is kept**: every open device of the call has the flag, and the snapshot shows it. -/
def MuteKept (r : MuteRun) : Prop :=
  ∀ callId muted, r.inForce = some (callId, muted) →
    (∀ d, r.engine.HasDevice callId d → d.isOpen = true → d.muted = muted) ∧
      r.engine.getMediaSnapshot.muted = muted

/-- The condition on an event where it happens.  A `SetMuted` that is accepted leaves no open device of the call behind
and finds a session that takes it, unless they have the flag already.  While a mute is in force, the session is not
prepared or stopped and no device of the call is opened, unless they then have the flag. -/
def KeepsMute (a : Acceptance) (r : MuteRun) : MediaEvent → Prop
  | .setMuted muted emitError => r.engine.accepts emitError a = true →
      (∀ d, r.engine.Unreached r.engine.runningCall d → d.isOpen = true → d.muted = muted) ∧
        (r.engine.session.Started ∨ r.engine.session.muted = muted)
  | .stopMedia => True
  | event => ∀ callId muted, r.inForce = some (callId, muted) →
      (r.engine.Resets event → muted = false) ∧ ∀ flag, r.engine.Opens event callId flag → flag = muted

variable (D : Engine.Crypto) (C : Tgcalls.Crypto) (P : Platform) (a : Acceptance)

def step (r : MuteRun) (event : MediaEvent) : MuteRun where
  engine := r.engine.step D C P event
  inForce :=
    match event with
    | .setMuted muted emitError => if r.engine.accepts emitError a then some (r.engine.runningCall, muted) else none
    | .stopMedia => none
    | _ => r.inForce

end MuteRun

namespace MediaEngine

variable {D : Engine.Crypto} {C : Tgcalls.Crypto} {P : Platform} {e e' : MediaEngine}

/-! ### What the steps do to the devices -/

/-- No device is open that was not there before. -/
def NoneOpened (e e' : MediaEngine) : Prop := ∀ callId d, e'.HasDevice callId d → d.isOpen = true → e.HasDevice callId d

theorem NoneOpened.refl (e : MediaEngine) : NoneOpened e e := fun _ _ h _ => h

theorem noneOpened_of_connection (hstarts : e'.starts = e.starts) (hactive : e'.activeMedia = e.activeMedia)
    (hreplaced : e'.replaced = e.replaced)
    (hconn : ∀ conn d, e'.tgcallsConnection = some conn → conn.audio = some d → d.isOpen = true →
      e.HasDevice conn.callId d) : NoneOpened e e' := by
  rintro callId d (⟨h, hcall, hd⟩ | ⟨h, hcall, hd⟩ | ⟨h, hcall, hd⟩ | ⟨h, rfl, hd⟩) hopen
  · exact .starting (hstarts ▸ h) hcall hd
  · exact .active (hactive ▸ h) hcall hd
  · exact .replaced (hreplaced ▸ h) hcall hd
  · exact hconn _ d h hd hopen

theorem hasDevice_setStart {thread : ℕ} {start : Option StartThread} {callId : ℤ} {d : AudioDevice}
    (h : (e.setStart thread start).HasDevice callId d) :
    e.HasDevice callId d ∨ ∃ s ∈ start, s.callId = callId ∧ s.phase = .opened d := by
  rcases h with ⟨h, hcall, hd⟩ | ⟨h, hcall, hd⟩ | ⟨h, hcall, hd⟩ | ⟨h, hcall, hd⟩
  · next thread' s =>
    simp only [setStart] at h
    by_cases hthread : thread' = thread
    · rw [hthread, Function.update_self] at h
      exact .inr ⟨s, h, hcall, hd⟩
    · rw [Function.update_of_ne hthread] at h
      exact .inl (.starting h hcall hd)
  · exact .inl (.active h hcall hd)
  · exact .inl (.replaced h hcall hd)
  · exact .inl (.connection h hcall hd)

theorem noneOpened_setStart (thread : ℕ) {start : Option StartThread}
    (hstart : ∀ s ∈ start, ∀ d, s.phase ≠ .opened d) : NoneOpened e (e.setStart thread start) := by
  intro callId d h _
  rcases hasDevice_setStart h with h | ⟨s, hs, -, hd⟩
  · exact h
  · exact absurd hd (hstart s hs d)

theorem noneOpened_stopSession : NoneOpened e e.stopSession :=
  noneOpened_of_connection rfl rfl rfl fun _ _ h hd _ => .connection h rfl hd

theorem NoneOpened.trans {e'' : MediaEngine} (h : NoneOpened e e') (h' : NoneOpened e' e'') : NoneOpened e e'' :=
  fun callId d hd hopen => h callId d (h' callId d hd hopen) hopen

/-- What a step does that is neither `SetMuted` nor `StopMedia`. -/
inductive Effect (e : MediaEngine) (event : MediaEvent) (e' : MediaEngine) : Prop
  | quiet (hdevices : NoneOpened e e') (hmuted : e'.session.muted = e.session.muted) (hresets : ¬ e.Resets event)
      (hopens : ∀ callId flag, ¬ e.Opens event callId flag)
  | reset (hdevices : NoneOpened e e') (hmuted : e'.session.muted = false) (hresets : e.Resets event)
      (hopens : ∀ callId flag, ¬ e.Opens event callId flag)
  | opened {callId : ℤ} {d : AudioDevice} (hnew : e'.HasDevice callId d) (hopen : d.isOpen = true)
      (hdevices : ∀ callId' d', e'.HasDevice callId' d' → d'.isOpen = true →
        e.HasDevice callId' d' ∨ callId' = callId ∧ d' = d)
      (hmuted : e'.session.muted = e.session.muted) (hresets : ¬ e.Resets event)
      (hopens : ∀ callId' flag, e.Opens event callId' flag ↔ callId' = callId ∧ flag = d.muted)

theorem Effect.of_idle {event : MediaEvent} (hresets : ¬ e.Resets event)
    (hopens : ∀ callId flag, ¬ e.Opens event callId flag) : Effect e event e :=
  .quiet (.refl e) rfl hresets hopens

theorem noneOpened_fail (thread : ℕ) {start : Option StartThread} (hstart : ∀ s ∈ start, ∀ d, s.phase ≠ .opened d) :
    NoneOpened e (e.stopSession.setStart thread start) :=
  noneOpened_stopSession.trans (noneOpened_setStart thread hstart)

theorem noneOpened_session (session : VoipMediaSession) : NoneOpened e { e with session := session } :=
  noneOpened_of_connection rfl rfl rfl fun _ _ h hd _ => .connection h rfl hd

theorem noneOpened_prepareNext (thread : ℕ) {start : StartThread} (hphase : start.phase = .selecting) :
    NoneOpened e (e.prepareNext thread start) ∧ (e.prepareNext thread start).session.muted = false := by
  unfold prepareNext
  split
  · refine ⟨noneOpened_fail thread ?_, rfl⟩
    rintro s ⟨⟩
  · next endpoint rest hcandidates =>
    cases hprepare : e.session.prepare start.callId start.keyHandle endpoint with
    | mk session result =>
      cases result with
      | error error =>
        refine ⟨noneOpened_fail thread ?_, rfl⟩
        rintro s ⟨⟩ d
        rw [hphase]
        exact StartPhase.noConfusion
      | ok _ =>
        refine ⟨(noneOpened_session session).trans (noneOpened_setStart thread ?_),
          VoipMediaSession.prepare_muted hprepare⟩
        rintro s ⟨⟩ d
        exact StartPhase.noConfusion

theorem noneOpened_nextEndpoint (thread : ℕ) (start : StartThread) : NoneOpened e (e.nextEndpoint thread start) := by
  refine noneOpened_fail thread ?_
  rintro s ⟨⟩ d
  exact StartPhase.noConfusion

theorem effect_prepare (thread : ℕ) : Effect e (.prepare thread) (e.step D C P (.prepare thread)) := by
  simp only [step]
  rcases atPhase_cases e thread .selecting (e.prepareNext thread) with
    ⟨start, hstart, heq⟩ | ⟨hnone, heq⟩
  · rw [heq]
    obtain ⟨hdevices, hmuted⟩ := noneOpened_prepareNext (e := e) thread hstart.2
    exact .reset hdevices hmuted ⟨start, hstart⟩ fun _ _ => id
  · rw [heq]
    refine .of_idle ?_ fun _ _ => id
    rintro ⟨start, hstart⟩
    exact hnone start hstart

theorem effect_markConnecting (thread : ℕ) :
    Effect e (.markConnecting thread) (e.step D C P (.markConnecting thread)) := by
  simp only [step]
  rcases atPhase_cases e thread .prepared (e.markConnecting thread) with
    ⟨start, hstart, heq⟩ | ⟨hnone, heq⟩
  · rw [heq]
    unfold markConnecting
    by_cases hstate : e.session.state = .prepared
    · rw [VoipMediaSession.markConnecting_prepared hstate]
      refine .quiet ((noneOpened_session _).trans (noneOpened_setStart thread ?_)) rfl ?_ fun _ _ => id
      · rintro s ⟨⟩ d
        exact StartPhase.noConfusion
      · rintro ⟨-, hstate'⟩
        exact hstate' hstate
    · rw [VoipMediaSession.markConnecting_not_prepared hstate]
      exact .reset (noneOpened_nextEndpoint thread start) rfl ⟨⟨start, hstart⟩, hstate⟩ fun _ _ => id
  · rw [heq]
    refine .of_idle ?_ fun _ _ => id
    rintro ⟨⟨start, hstart⟩, -⟩
    exact hnone start hstart

theorem effect_handshake (thread : ℕ) (success : Bool) :
    Effect e (.handshake thread success) (e.step D C P (.handshake thread success)) := by
  simp only [step]
  rcases atPhase_cases e thread .connecting
    (fun start => e.endHandshake thread start success) with ⟨start, hstart, heq⟩ | ⟨hnone, heq⟩
  · rw [heq]
    cases success with
    | true =>
      refine .quiet (noneOpened_setStart thread ?_) rfl ?_ fun _ _ => id
      · rintro s ⟨⟩ d
        exact StartPhase.noConfusion
      · rintro ⟨-, hfalse⟩
        cases hfalse
    | false => exact .reset (noneOpened_nextEndpoint thread start) rfl ⟨⟨start, hstart⟩, rfl⟩ fun _ _ => id
  · rw [heq]
    refine .of_idle ?_ fun _ _ => id
    rintro ⟨⟨start, hstart⟩, -⟩
    exact hnone start hstart

/-- A device that `StartMedia` opens is not muted. -/
theorem effect_openAudio (thread : ℕ) (success : Bool) :
    Effect e (.openAudio thread success) (e.step D C P (.openAudio thread success)) := by
  simp only [step]
  rcases atPhase_cases e thread .selected
    (fun start => e.openAudio thread start success) with ⟨start, hstart, heq⟩ | ⟨hnone, heq⟩
  · rw [heq]
    cases success with
    | true =>
      have hnew : (e.openAudio thread start true).starts thread
          = some { start with phase := .opened ({ isOpen := true } : AudioDevice) } := Function.update_self ..
      refine .opened (.starting hnew rfl rfl) rfl ?_ rfl ?_ ?_
      · intro callId d h _
        rcases hasDevice_setStart h with h | ⟨s, hs, hcall, hd⟩
        · exact .inl h
        · cases hs
          cases hd
          exact .inr ⟨hcall.symm, rfl⟩
      · rintro ⟨-, hfalse⟩
        cases hfalse
      · intro callId flag
        constructor
        · rintro ⟨⟨start', hstart', rfl⟩, -, rfl⟩
          rw [hstart.unique hstart']
          exact ⟨rfl, rfl⟩
        · rintro ⟨rfl, rfl⟩
          exact ⟨⟨start, hstart, rfl⟩, rfl, rfl⟩
    | false =>
      refine .reset (noneOpened_fail thread ?_) rfl ⟨⟨start, hstart⟩, rfl⟩ ?_
      · rintro s ⟨⟩
      · rintro callId flag ⟨-, hfalse, -⟩
        cases hfalse
  · rw [heq]
    refine .of_idle ?_ ?_
    · rintro ⟨⟨start, hstart⟩, -⟩
      exact hnone start hstart
    · rintro callId flag ⟨⟨start, hstart, -⟩, -⟩
      exact hnone start hstart

theorem noneOpened_publish {thread : ℕ} {start : StartThread} {audio : AudioDevice}
    (hstart : e.StandsAt thread (.opened audio) start) : NoneOpened e (e.publish thread start audio true) := by
  intro callId d h _
  rcases hasDevice_setStart h with h | ⟨s, hs, -⟩
  · rcases h with ⟨h, hcall, hd⟩ | ⟨h, hcall, hd⟩ | ⟨h, hcall, hd⟩ | ⟨h, hcall, hd⟩
    · exact .starting h hcall hd
    · cases h
      cases hd
      exact .starting hstart.1 hcall hstart.2
    · rcases List.mem_append.1 h with h | h
      · exact .replaced h hcall hd
      · exact .active (Option.mem_toList.1 h) hcall hd
    · exact .connection h hcall hd
  · cases hs

theorem effect_publish (thread : ℕ) (codecReady : Bool) :
    Effect e (.publish thread codecReady) (e.step D C P (.publish thread codecReady)) := by
  have hidle (hnone : ∀ start d, ¬ e.StandsAt thread (.opened d) start) :
      Effect e (.publish thread codecReady) e := by
    refine .of_idle ?_ fun _ _ => id
    rintro ⟨⟨start, d, hstart⟩, -⟩
    exact hnone start d hstart
  simp only [step]
  cases hstart : e.starts thread with
  | none =>
    refine hidle ?_
    rintro start d ⟨hstart', -⟩
    rw [hstart] at hstart'
    cases hstart'
  | some start =>
    simp only
    split
    · next audio hphase =>
      cases codecReady with
      | true =>
        refine .quiet (noneOpened_publish ⟨hstart, hphase⟩) rfl ?_ fun _ _ => id
        rintro ⟨-, hfalse⟩
        cases hfalse
      | false =>
        refine .reset (noneOpened_fail thread ?_) rfl ⟨⟨start, audio, hstart, hphase⟩, rfl⟩ fun _ _ => id
        rintro s ⟨⟩
    · next hnot =>
      refine hidle ?_
      rintro start' d ⟨hstart', hphase⟩
      obtain rfl := Option.some.inj (hstart.symm.trans hstart')
      exact hnot d hphase

theorem noneOpened_startClassic (thread : ℕ) (descriptor : VoipCallStartDescriptor) :
    NoneOpened e (e.startClassic thread descriptor) ∧ (e.startClassic thread descriptor).session = e.session := by
  unfold startClassic
  simp only
  split_ifs
  · exact ⟨.refl e, rfl⟩
  · refine ⟨noneOpened_setStart thread ?_, rfl⟩
    rintro s ⟨⟩ d
    exact StartPhase.noConfusion

theorem noneOpened_startTgcalls (descriptor : VoipCallStartDescriptor) (sharedKey : Bytes)
    (input : TgcallsConnection.StartInput) :
    NoneOpened e (e.startTgcalls P descriptor sharedKey input) ∧
      (e.startTgcalls P descriptor sharedKey input).session = e.session := by
  simp only [startTgcalls]
  by_cases hreflectors : descriptor.endpoints.filterMap toReflectorEndpoint = []
  · rw [if_pos hreflectors]
    exact ⟨.refl e, rfl⟩
  rw [if_neg hreflectors]
  split
  · exact ⟨.refl e, rfl⟩
  · refine ⟨noneOpened_of_connection rfl rfl rfl ?_, rfl⟩
    rintro conn d ⟨⟩ hd
    cases hd

theorem noneOpened_startMedia (thread : ℕ) (descriptor : VoipCallStartDescriptor)
    (input : TgcallsConnection.StartInput) :
    NoneOpened e (e.startMedia P thread descriptor input) ∧
      (e.startMedia P thread descriptor input).session = e.session := by
  unfold startMedia
  by_cases hcall : descriptor.callId ≤ 0
  · rw [if_pos hcall]
    exact ⟨.refl e, rfl⟩
  by_cases hkey : descriptor.keyHandle = ""
  · rw [if_neg hcall, if_pos hkey]
    exact ⟨.refl e, rfl⟩
  rw [if_neg hcall, if_neg hkey]
  split
  · split_ifs
    · exact ⟨.refl e, rfl⟩
    · exact ⟨.refl e, rfl⟩
    · exact noneOpened_startClassic thread descriptor
    · exact noneOpened_startTgcalls descriptor _ input
  · exact ⟨.refl e, rfl⟩

theorem noneOpened_connection (input : IceConnection.Input) :
    NoneOpened e (e.step D C P (.connection input)) := by
  refine noneOpened_of_connection rfl rfl rfl ?_
  intro conn d hconn hd hopen
  simp only [step] at hconn
  obtain ⟨conn₀, hconn₀, rfl⟩ := Option.map_eq_some_iff.1 hconn
  simp only [MediaConnection.onInput] at hd ⊢
  split_ifs at hd ⊢
  · cases hd
    cases hopen
  · exact .connection hconn₀ rfl hd

theorem noneOpened_mediaReady : NoneOpened e (e.step D C P .mediaReady) := by
  rintro callId d (⟨h, hcall, hd⟩ | ⟨h, hcall, hd⟩ | ⟨h, hcall, hd⟩ | ⟨h, hcall, hd⟩) hopen
  · exact .starting h hcall hd
  · obtain ⟨active, hactive, rfl⟩ := Option.map_eq_some_iff.1 h
    exact .active hactive hcall hd
  · exact .replaced h hcall hd
  · exact .connection h hcall hd

theorem noneOpened_dropCall (callId : ℤ) : NoneOpened e (e.dropCall callId) := by
  refine noneOpened_of_connection rfl rfl rfl ?_
  intro conn d hconn hd hopen
  exact .connection (Option.filter_eq_some_iff.1 hconn).1 rfl hd

/-- A device that a connection opens keeps the flag it has. -/
theorem effect_connectionAudio (audio : TgcallsConnection.AudioInput) :
    Effect e (.connectionAudio audio) (e.step D C P (.connectionAudio audio)) := by
  by_cases hopens : ∃ callId flag, e.Opens (.connectionAudio audio) callId flag
  · obtain ⟨-, -, conn, d, hconn, hstarting, hsuccess, -, hd, -⟩ := hopens
    have hnew : (e.step D C P (.connectionAudio audio)).tgcallsConnection
        = some { conn with
            state := MediaConnection.audioState audio, audio := some (d.opened true), startingAudio := false } := by
      simp only [step, hconn, Option.map_some, MediaConnection.openAudio, hstarting, Bool.not_true, Bool.false_eq_true,
        if_false, hd, hsuccess]
    refine .opened (.connection hnew rfl rfl) (Bool.or_true _) ?_ rfl id ?_
    · rintro callId' d' (⟨h, hcall, hd'⟩ | ⟨h, hcall, hd'⟩ | ⟨h, hcall, hd'⟩ | ⟨h, hcall, hd'⟩) -
      · exact .inl (.starting h hcall hd')
      · exact .inl (.active h hcall hd')
      · exact .inl (.replaced h hcall hd')
      · cases hnew.symm.trans h
        cases hd'
        exact .inr ⟨hcall.symm, rfl⟩
    · intro callId' flag
      constructor
      · rintro ⟨conn', d', hconn', -, -, rfl, hd', rfl⟩
        cases hconn.symm.trans hconn'
        cases hd.symm.trans hd'
        exact ⟨rfl, rfl⟩
      · rintro ⟨rfl, rfl⟩
        exact ⟨conn, d, hconn, hstarting, hsuccess, rfl, hd, rfl⟩
  · refine .quiet (noneOpened_of_connection rfl rfl rfl ?_) rfl id fun callId flag h => hopens ⟨callId, flag, h⟩
    intro conn d hconn hd hopen
    simp only [step] at hconn
    obtain ⟨conn₀, hconn₀, rfl⟩ := Option.map_eq_some_iff.1 hconn
    simp only [MediaConnection.openAudio] at hd ⊢
    split_ifs at hd ⊢ with hstarting
    · exact .connection hconn₀ rfl hd
    · obtain ⟨d₀, hd₀, rfl⟩ := Option.map_eq_some_iff.1 hd
      cases hsuccess : audio.opened with
      | true =>
        refine absurd ⟨_, _, conn₀, d₀, hconn₀, ?_, hsuccess, rfl, hd₀, rfl⟩ hopens
        simpa using hstarting
      | false =>
        rw [AudioDevice.opened, Bool.or_false]
        exact .connection hconn₀ rfl hd₀

/-- **What a step does** that is neither `SetMuted` nor `StopMedia`. -/
theorem effect_step (event : MediaEvent) (hmute : ∀ muted emitError, event ≠ .setMuted muted emitError)
    (hstop : event ≠ .stopMedia) : Effect e event (e.step D C P event) := by
  cases event with
  | dh op =>
    cases op with
    | dropCall callId => exact .quiet (noneOpened_dropCall callId) rfl id fun _ _ => id
    | _ => exact .quiet (noneOpened_of_connection rfl rfl rfl fun _ _ h hd _ => .connection h rfl hd) rfl id fun _ _ => id
  | startMedia thread descriptor input =>
    obtain ⟨hdevices, hsession⟩ := noneOpened_startMedia (e := e) (P := P) thread descriptor input
    exact .quiet hdevices (congrArg VoipMediaSession.muted hsession) id fun _ _ => id
  | drainFailed =>
    refine .quiet (noneOpened_of_connection rfl rfl rfl ?_) rfl id fun _ _ => id
    rintro conn d ⟨⟩
  | prepare thread => exact effect_prepare thread
  | markConnecting thread => exact effect_markConnecting thread
  | handshake thread success => exact effect_handshake thread success
  | openAudio thread success => exact effect_openAudio thread success
  | publish thread codecReady => exact effect_publish thread codecReady
  | mediaReady => exact .quiet noneOpened_mediaReady rfl id fun _ _ => id
  | connection input => exact .quiet (noneOpened_connection input) rfl id fun _ _ => id
  | connectionAudio audio => exact effect_connectionAudio audio
  | setMuted muted emitError => exact absurd rfl (hmute muted emitError)
  | stopMedia => exact absurd rfl hstop

/-! ### SetMuted -/

theorem setMuted_fst (muted : Bool) (emitError : Option VoipError) :
    (e.setMuted muted emitError).1 =
      { e with
        session := (e.session.setMuted muted).1
        activeMedia := e.activeMedia.map (·.setMuted muted)
        tgcallsConnection := e.tgcallsConnection.map fun conn => (conn.setMuted muted emitError).1 } := by
  unfold setMuted
  simp only
  cases hconn : e.tgcallsConnection with
  | none => rfl
  | some conn => cases emitError <;> rfl

theorem setMuted_eq_ok_iff {muted : Bool} {emitError : Option VoipError} :
    (e.setMuted muted emitError).2 = .ok () ↔ e.accepts emitError .returned = true := by
  simp only [accepts, decide_eq_true_eq, ← VoipMediaSession.setMuted_eq_ok_iff muted]
  unfold setMuted
  simp only
  cases hconn : e.tgcallsConnection with
  | none => simp
  | some conn => cases emitError <;> simp [MediaConnection.setMuted]

theorem accepts_taken {emitError : Option VoipError} (h : e.accepts emitError .returned = true) :
    e.accepts emitError .taken = true := by
  simp only [accepts, decide_eq_true_eq] at h ⊢
  cases hconn : e.tgcallsConnection with
  | none => exact decide_eq_true h.1
  | some conn => simpa [hconn] using h.2

theorem setMuted_session (muted : Bool) (emitError : Option VoipError) :
    (e.setMuted muted emitError).1.session.muted = muted ↔ e.session.Started ∨ e.session.muted = muted := by
  rw [setMuted_fst]
  by_cases hstarted : e.session.Started
  · simp [VoipMediaSession.setMuted_of_started hstarted, hstarted]
  · simp [VoipMediaSession.setMuted_of_not_started hstarted, hstarted]

/-- **What `SetMuted` reaches**: every device but that of a thread and that of a replaced context. -/
theorem setMuted_devices (callId : ℤ) (muted : Bool) (emitError : Option VoipError) :
    (∀ d, (e.setMuted muted emitError).1.HasDevice callId d → d.isOpen = true → d.muted = muted) ↔
      ∀ d, e.Unreached callId d → d.isOpen = true → d.muted = muted := by
  rw [setMuted_fst]
  constructor
  · rintro h d (⟨hstart, hcall, hd⟩ | ⟨hactive, hcall, hd⟩) hopen
    · exact h d (.starting hstart hcall hd) hopen
    · exact h d (.replaced hactive hcall hd) hopen
  · rintro h d (⟨hstart, hcall, hd⟩ | ⟨hactive, hcall, hd⟩ | ⟨hactive, hcall, hd⟩ | ⟨hconn, hcall, hd⟩) hopen
    · exact h d (.starting hstart hcall hd) hopen
    · obtain ⟨active, -, rfl⟩ := Option.map_eq_some_iff.1 hactive
      rw [← hd]
      rfl
    · exact h d (.replaced hactive hcall hd) hopen
    · obtain ⟨conn, -, rfl⟩ := Option.map_eq_some_iff.1 hconn
      obtain ⟨d₀, -, rfl⟩ := Option.map_eq_some_iff.1 hd
      rfl

end MediaEngine

namespace MuteRun

open MediaEngine

variable {D : Engine.Crypto} {C : Tgcalls.Crypto} {P : Platform} {a : Acceptance} {r : MuteRun}

/-! ### One step -/

theorem muteKept_setMuted (muted : Bool) (emitError : Option VoipError) :
    (r.step D C P a (.setMuted muted emitError)).MuteKept ↔ r.KeepsMute a (.setMuted muted emitError) := by
  unfold MuteKept KeepsMute
  simp only [step, MediaEngine.step, getMediaSnapshot_muted]
  by_cases haccepts : r.engine.accepts emitError a = true
  · rw [if_pos haccepts]
    constructor
    · intro h _
      obtain ⟨hdevices, hsession⟩ := h _ _ rfl
      exact ⟨(setMuted_devices ..).1 hdevices, (setMuted_session ..).1 hsession⟩
    · rintro h callId flag ⟨⟩
      obtain ⟨hdevices, hsession⟩ := h haccepts
      exact ⟨(setMuted_devices ..).2 hdevices, (setMuted_session ..).2 hsession⟩
  · rw [if_neg haccepts]
    exact iff_of_true (fun _ _ h => nomatch h) fun h => absurd h haccepts

theorem step_inForce {event : MediaEvent} (hmute : ∀ muted emitError, event ≠ .setMuted muted emitError)
    (hstop : event ≠ .stopMedia) : (r.step D C P a event).inForce = r.inForce := by
  cases event with
  | setMuted muted emitError => exact absurd rfl (hmute muted emitError)
  | stopMedia => exact absurd rfl hstop
  | _ => rfl

theorem keepsMute_iff {event : MediaEvent} (hmute : ∀ muted emitError, event ≠ .setMuted muted emitError)
    (hstop : event ≠ .stopMedia) : r.KeepsMute a event ↔ ∀ callId muted, r.inForce = some (callId, muted) →
      (r.engine.Resets event → muted = false) ∧ ∀ flag, r.engine.Opens event callId flag → flag = muted := by
  cases event with
  | setMuted muted emitError => exact absurd rfl (hmute muted emitError)
  | stopMedia => exact absurd rfl hstop
  | _ => exact Iff.rfl

/-- **A step keeps the mute in force exactly when it meets its condition.** -/
theorem muteKept_step_iff (h : r.MuteKept) (event : MediaEvent) :
    (r.step D C P a event).MuteKept ↔ r.KeepsMute a event := by
  by_cases hmute : ∃ muted emitError, event = .setMuted muted emitError
  · obtain ⟨muted, emitError, rfl⟩ := hmute
    exact muteKept_setMuted muted emitError
  by_cases hstop : event = .stopMedia
  · rw [hstop]
    exact iff_of_true (fun _ _ h => nomatch h) trivial
  have hmute' : ∀ muted emitError, event ≠ .setMuted muted emitError :=
    fun muted emitError heq => hmute ⟨muted, emitError, heq⟩
  rw [keepsMute_iff hmute' hstop]
  unfold MuteKept
  simp only [step_inForce hmute' hstop, getMediaSnapshot_muted]
  refine forall_congr' fun callId => forall_congr' fun muted => forall_congr' fun hforce => ?_
  obtain ⟨hdevices, hsession⟩ := h callId muted hforce
  rw [getMediaSnapshot_muted] at hsession
  rcases effect_step (D := D) (C := C) (P := P) (e := r.engine) event hmute' hstop with
    ⟨hnone, hmuted, hresets, hopens⟩ | ⟨hnone, hmuted, hresets, hopens⟩ |
    ⟨hnew, hopen, hnone, hmuted, hresets, hopens⟩
  · refine iff_of_true ⟨fun d hd ho => hdevices d (hnone _ _ hd ho) ho, hmuted.trans hsession⟩ ?_
    exact ⟨fun hr => absurd hr hresets, fun flag hf => absurd hf (hopens _ _)⟩
  · constructor
    · rintro ⟨-, hs⟩
      exact ⟨fun _ => hs.symm.trans hmuted, fun flag hf => absurd hf (hopens _ _)⟩
    · rintro ⟨hfalse, -⟩
      exact ⟨fun d hd ho => hdevices d (hnone _ _ hd ho) ho, hmuted.trans (hfalse hresets).symm⟩
  · constructor
    · rintro ⟨hall, -⟩
      refine ⟨fun hr => absurd hr hresets, fun flag hf => ?_⟩
      obtain ⟨rfl, rfl⟩ := (hopens _ _).1 hf
      exact hall _ hnew hopen
    · rintro ⟨-, hflag⟩
      refine ⟨fun d hd ho => ?_, hmuted.trans hsession⟩
      rcases hnone _ _ hd ho with hold | ⟨rfl, rfl⟩
      · exact hdevices d hold ho
      · exact hflag _ ((hopens _ _).2 ⟨rfl, rfl⟩)

/-! ### Runs -/

variable (D C P a) in
/-- **Every mute that is accepted is kept in exactly the runs whose events all meet their condition**, for either meaning
of acceptance and every sequence of events of an engine without media. -/
theorem muteKept_iff (keys : VoipEngine) (events : List MediaEvent) :
    (∀ pre, pre <+: events → (run (step D C P a) { engine := { toVoipEngine := keys } } pre).MuteKept) ↔
      Guarded (step D C P a) (KeepsMute a) { engine := { toVoipEngine := keys } } events := by
  have hstep : ∀ (r : MuteRun) (event : MediaEvent), r.MuteKept →
      ((r.step D C P a event).MuteKept ↔ r.KeepsMute a event) := fun _ event h => muteKept_step_iff h event
  have hstart : ({ engine := { toVoipEngine := keys } } : MuteRun).MuteKept := by
    rintro callId muted ⟨⟩
  exact reached_iff_guarded_of_step hstep events hstart

/-- **A call over a connection does not show as muted**: the session, which the snapshot is taken from, is not started. -/
theorem not_muteKept_of_connection (hconn : r.engine.tgcallsConnection.isSome) (hstarted : ¬ r.engine.session.Started)
    (hmuted : r.engine.session.muted = false) : ¬ (r.step D C P .taken (.setMuted true none)).MuteKept := by
  rw [muteKept_setMuted]
  intro h
  have haccepts : r.engine.accepts none .taken = true := by
    obtain ⟨conn, hconn⟩ := Option.isSome_iff_exists.1 hconn
    rw [accepts, hconn]
    rfl
  rcases (h haccepts).2 with hstarted' | hmuted'
  · exact hstarted hstarted'
  · rw [hmuted] at hmuted'
    cases hmuted'

/-! ### A call that is muted while it connects -/

/-- A call with a key. -/
def readyKeys : VoipEngine where
  calls callId :=
    if callId = 1 then some { callId := 1, sharedReady := true, sharedKey := List.replicate kDhBytes 1 } else none

def classicDescriptor : VoipCallStartDescriptor where
  callId := 1
  isInitiator := true
  libraryVersions := ["2.4.4"]
  keyHandle := handleForCall 1
  endpoints := [{ id := 7, ip := "149.154.175.50", port := 443, peerTag := List.replicate 16 1 }]

/-- The call waits for the reflector when the user mutes it. -/
def connectingEvents : List MediaEvent :=
  [.startMedia 0 classicDescriptor
      { generate := none, ufrag := "", pwd := "", ssrc := 0, emitError := none, openError := fun _ => none },
    .prepare 0,
    .markConnecting 0]

/-- The engine and the mute in force after these events. -/
def sampleRun (events : List MediaEvent) : MuteRun :=
  run (step sampleCrypto ⟨Dtls.nullCrypto, Srtp.sampleCrypto⟩ Dtls.nullCrypto.toPlatform .returned)
    { engine := { toVoipEngine := readyKeys } } events

/-- **The microphone of a muted call is live.**  `SetMuted` returns no error; then the handshake ends, and the device is
opened. -/
theorem muted_call_opens_live :
    ((sampleRun connectingEvents).engine.setMuted true none).2 = .ok () ∧
      ¬ (sampleRun (connectingEvents ++ [.setMuted true none, .handshake 0 true, .openAudio 0 true])).MuteKept := by
  refine ⟨by decide +kernel, ?_⟩
  set r := sampleRun (connectingEvents ++ [.setMuted true none, .handshake 0 true, .openAudio 0 true]) with hr
  have hforce : r.inForce = some (1, true) := by decide +kernel
  have hthread : (r.engine.starts 0).map (fun start => (start.callId, start.phase))
      = some (1, .opened { isOpen := true, muted := false }) := by decide +kernel
  obtain ⟨start, hstart, hphase⟩ := Option.map_eq_some_iff.1 hthread
  obtain ⟨hcall, hopened⟩ := Prod.mk.inj hphase
  intro hkept
  have hmuted := (hkept 1 true hforce).1 _ (.starting hstart hcall hopened) rfl
  cases hmuted

end MuteRun

end VianiumVoip.Engine
