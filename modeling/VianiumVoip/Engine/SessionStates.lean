import VianiumVoip.Engine.StartMedia
import VianiumVoip.Lib.Run

/-!
# The states of the media session

All operations of `VoipMediaSession`, in any order and with any arguments.  A session that is idle or stopped holds
nothing of a call; any other one holds a call, its key handle and an endpoint that can be reached
(`run_wellFormed`).  Only a stop takes the call away again (`run_callId`), and an operation that fails has no effect
(`apply_error`).  `session_states` puts these together.
-/

namespace VianiumVoip.Engine

open VianiumVoip.Lib

/-! ### The other operations -/

namespace VoipMediaSession

def markActive (s : VoipMediaSession) : VoipMediaSession × Except VoipError Unit :=
  if s.state ≠ .connecting ∧ s.state ≠ .prepared then
    (s, .error (invalid "media session must be prepared or connecting before active"))
  else ({ s with state := .active }, .ok ())

def setSpeaker (s : VoipMediaSession) (on : Bool) : VoipMediaSession × Except VoipError Unit :=
  if s.state = .idle ∨ s.state = .stopped then (s, .error (invalid "media session is not started"))
  else ({ s with speakerOn := on }, .ok ())

end VoipMediaSession

namespace CountedSession

def markActive (s : CountedSession) : CountedSession × Except VoipError Unit :=
  let (session, result) := s.toVoipMediaSession.markActive
  ({ s with toVoipMediaSession := session }, result)

def setSpeaker (s : CountedSession) (on : Bool) : CountedSession × Except VoipError Unit :=
  let (session, result) := s.toVoipMediaSession.setSpeaker on
  ({ s with toVoipMediaSession := session }, result)

def recordProbeSuccess (s : CountedSession) (bytesSent bytesReceived : UInt32) (rttMs : ℤ) : CountedSession :=
  { s with stats :=
    { packetsSent := s.stats.packetsSent + 1
      packetsReceived := s.stats.packetsReceived + 1
      bytesSent := s.stats.bytesSent + bytesSent
      bytesReceived := s.stats.bytesReceived + bytesReceived
      rttMs := if 0 < rttMs then rttMs else s.stats.rttMs } }

end CountedSession

/-- An operation of the session with its arguments. -/
inductive SessionOperation
  | prepare (callId : ℤ) (keyHandle : String) (endpoint : VoipEndpoint)
  | markConnecting
  | markActive
  | setMuted (muted : Bool)
  | setSpeaker (on : Bool)
  | recordProbeSuccess (bytesSent bytesReceived : UInt32) (rttMs : ℤ)
  | recordHandshake (packetsSent packetsReceived bytesSent bytesReceived : UInt32) (rttMs : ℤ)
  | stop
  deriving DecidableEq

namespace CountedSession

def apply (s : CountedSession) : SessionOperation → CountedSession × Except VoipError Unit
  | .prepare callId keyHandle endpoint => s.prepare callId keyHandle endpoint
  | .markConnecting => s.markConnecting
  | .markActive => s.markActive
  | .setMuted muted => s.setMuted muted
  | .setSpeaker on => s.setSpeaker on
  | .recordProbeSuccess bytesSent bytesReceived rttMs => (s.recordProbeSuccess bytesSent bytesReceived rttMs, .ok ())
  | .recordHandshake packetsSent packetsReceived bytesSent bytesReceived rttMs =>
    (s.recordHandshake
      { packetsSent := packetsSent
        packetsReceived := packetsReceived
        bytesSent := bytesSent
        bytesReceived := bytesReceived
        rttMs := rttMs }, .ok ())
  | .stop => (s.stop, .ok ())

/-- A session through some operations; what they return is not looked at. -/
def runOperations (s : CountedSession) (operations : List SessionOperation) : CountedSession :=
  Run.run (fun s operation => (s.apply operation).1) s operations

end CountedSession

/-! ### What a session holds -/

/-- The port is one of the protocol, and there is an address and a peer tag. -/
structure VoipEndpoint.Reachable (endpoint : VoipEndpoint) : Prop where
  port_pos : 0 < endpoint.port
  port_le : endpoint.port ≤ 65535
  address : endpoint.ip ≠ "" ∨ endpoint.ipv6 ≠ ""
  peerTag : endpoint.peerTag ≠ []

namespace VoipMediaSession

/-- Nothing of a call, as in a new session. -/
structure Blank (s : VoipMediaSession) : Prop where
  callId : s.callId = 0
  keyHandle : s.keyHandle = ""
  muted : s.muted = false
  speakerOn : s.speakerOn = false

/-- A call with all that its media need. -/
structure Bound (s : VoipMediaSession) : Prop where
  callId : 0 < s.callId
  keyHandle : s.keyHandle ≠ ""
  endpoint : s.endpoint.Reachable

structure WellFormed (s : VoipMediaSession) : Prop where
  blank : s.state = .idle ∨ s.state = .stopped → s.Blank
  bound : s.Started → s.Bound

variable {s s' : VoipMediaSession} {callId : ℤ} {keyHandle : String} {endpoint : VoipEndpoint}

theorem not_started : ¬ s.Started ↔ s.state = .idle ∨ s.state = .stopped := by
  unfold Started
  tauto

theorem started_of_state {state : VoipMediaState} (h : s.state = state) (hidle : state ≠ .idle)
    (hstopped : state ≠ .stopped) : s.Started :=
  ⟨h ▸ hidle, h ▸ hstopped⟩

theorem prepare_ok (h : s.prepare callId keyHandle endpoint = (s', .ok ())) :
    s'.Bound ∧ s'.callId = callId ∧ s'.state = .prepared ∧ (s.Started → s.callId = callId) := by
  unfold prepare at h
  split_ifs at h with hcall hkey hport haddress htag hother <;> cases h
  have hreachable : endpoint.Reachable :=
    { port_pos := by omega
      port_le := by omega
      address := by simpa only [VoipEndpoint.hasAddress, decide_eq_true_eq] using haddress
      peerTag := htag }
  refine ⟨⟨not_le.1 hcall, hkey, hreachable⟩, rfl, rfl, ?_⟩
  rintro ⟨hidle, hstopped⟩
  by_contra hne
  exact hother ⟨hidle, hstopped, hne⟩

theorem prepare_error {error : VoipError} (h : (s.prepare callId keyHandle endpoint).2 = .error error) :
    (s.prepare callId keyHandle endpoint).1 = s := by
  unfold prepare at h ⊢
  split_ifs at h ⊢ <;> rfl

/-- A session that goes on with the call that it is bound to. -/
structure Continues (s s' : VoipMediaSession) : Prop where
  started : s.Started
  started' : s'.Started
  callId : s'.callId = s.callId
  keyHandle : s'.keyHandle = s.keyHandle
  endpoint : s'.endpoint = s.endpoint

theorem Continues.wellFormed (h : s.Continues s') (hs : s.WellFormed) : s'.WellFormed := by
  obtain ⟨hcall, hkey, hendpoint⟩ := hs.bound h.started
  refine ⟨fun hstate => absurd h.started' (not_started.2 hstate), fun _ => ?_⟩
  exact ⟨h.callId ▸ hcall, h.keyHandle ▸ hkey, h.endpoint ▸ hendpoint⟩

theorem markConnecting_cases (s : VoipMediaSession) :
    (∃ error, s.markConnecting = (s, .error error)) ∨
      s.Continues s.markConnecting.1 ∧ s.markConnecting.2 = .ok () := by
  unfold markConnecting
  split_ifs with h
  · exact .inl ⟨_, rfl⟩
  · have hprepared : s.state = .prepared := not_not.1 h
    exact .inr ⟨⟨started_of_state hprepared nofun nofun, ⟨nofun, nofun⟩, rfl, rfl, rfl⟩, rfl⟩

theorem markActive_cases (s : VoipMediaSession) :
    (∃ error, s.markActive = (s, .error error)) ∨ s.Continues s.markActive.1 ∧ s.markActive.2 = .ok () := by
  unfold markActive
  split_ifs with h
  · exact .inl ⟨_, rfl⟩
  · refine .inr ⟨⟨?_, ⟨nofun, nofun⟩, rfl, rfl, rfl⟩, rfl⟩
    by_cases hconnecting : s.state = .connecting
    · exact started_of_state hconnecting nofun nofun
    · have hprepared : s.state = .prepared := by tauto
      exact started_of_state hprepared nofun nofun

theorem setMuted_cases (s : VoipMediaSession) (muted : Bool) :
    (∃ error, s.setMuted muted = (s, .error error)) ∨
      s.Continues (s.setMuted muted).1 ∧ (s.setMuted muted).2 = .ok () := by
  by_cases h : s.Started
  · rw [setMuted_of_started h]
    exact .inr ⟨⟨h, h, rfl, rfl, rfl⟩, rfl⟩
  · exact .inl ⟨_, setMuted_of_not_started h muted⟩

theorem setSpeaker_cases (s : VoipMediaSession) (on : Bool) :
    (∃ error, s.setSpeaker on = (s, .error error)) ∨
      s.Continues (s.setSpeaker on).1 ∧ (s.setSpeaker on).2 = .ok () := by
  unfold setSpeaker
  split_ifs with h
  · exact .inl ⟨_, rfl⟩
  · have hstarted : s.Started := by rwa [← not_started, not_not] at h
    exact .inr ⟨⟨hstarted, hstarted, rfl, rfl, rfl⟩, rfl⟩

theorem wellFormed_new : ({} : VoipMediaSession).WellFormed :=
  ⟨fun _ => ⟨rfl, rfl, rfl, rfl⟩, fun h => absurd rfl h.1⟩

theorem wellFormed_stop (s : VoipMediaSession) : s.stop.WellFormed :=
  ⟨fun _ => ⟨rfl, rfl, rfl, rfl⟩, fun h => absurd rfl h.2⟩

end VoipMediaSession

namespace CountedSession

/-! ### One operation -/

/-- **What an operation comes to**: it fails without an effect, the session goes on with its call, only its counters
move, it is prepared, or it is stopped. -/
inductive Effect (s : CountedSession) : SessionOperation → CountedSession × Except VoipError Unit → Prop
  | failed {operation : SessionOperation} (error : VoipError) : Effect s operation (s, .error error)
  | continued {operation : SessionOperation} {session : VoipMediaSession} (h : s.Continues session) :
    Effect s operation ({ s with toVoipMediaSession := session }, .ok ())
  | counted {operation : SessionOperation} (stats : VoipMediaStats) :
    Effect s operation ({ s with stats := stats }, .ok ())
  | prepared {callId : ℤ} {keyHandle : String} {endpoint : VoipEndpoint} {session : VoipMediaSession}
      (h : s.toVoipMediaSession.prepare callId keyHandle endpoint = (session, .ok ())) :
    Effect s (.prepare callId keyHandle endpoint) ({ toVoipMediaSession := session }, .ok ())
  | stopped : Effect s .stop (s.stop, .ok ())

/-- A `Prepare` that fails has changed nothing of the session before the counters are looked at, either. -/
theorem toVoipMediaSession_prepare (s : CountedSession) (callId : ℤ) (keyHandle : String) (endpoint : VoipEndpoint) :
    (s.prepare callId keyHandle endpoint).1.toVoipMediaSession
      = (s.toVoipMediaSession.prepare callId keyHandle endpoint).1 := by
  rw [prepare]
  split
  · next session error h =>
    have herror := VoipMediaSession.prepare_error (congrArg Prod.snd h)
    rw [h] at herror
    rw [h]
    exact herror.symm
  · next session h => rw [h]

theorem effect_of_cases {s : CountedSession} {result : VoipMediaSession × Except VoipError Unit}
    (operation : SessionOperation)
    (h : (∃ error, result = (s.toVoipMediaSession, .error error)) ∨
      s.Continues result.1 ∧ result.2 = .ok ()) :
    Effect s operation ({ s with toVoipMediaSession := result.1 }, result.2) := by
  rcases h with ⟨error, rfl⟩ | ⟨hcontinues, hok⟩
  · exact .failed error
  · rw [hok]
    exact .continued hcontinues

theorem apply_effect (s : CountedSession) (operation : SessionOperation) : Effect s operation (s.apply operation) := by
  cases operation with
  | prepare callId keyHandle endpoint =>
    simp only [apply, prepare]
    split
    · exact .failed _
    · next session h => exact .prepared h
  | markConnecting => exact effect_of_cases _ (VoipMediaSession.markConnecting_cases _)
  | markActive => exact effect_of_cases _ (VoipMediaSession.markActive_cases _)
  | setMuted muted => exact effect_of_cases _ (VoipMediaSession.setMuted_cases _ muted)
  | setSpeaker on => exact effect_of_cases _ (VoipMediaSession.setSpeaker_cases _ on)
  | recordProbeSuccess bytesSent bytesReceived rttMs => exact .counted _
  | recordHandshake packetsSent packetsReceived bytesSent bytesReceived rttMs => exact .counted _
  | stop => exact .stopped

variable {s : CountedSession} {operation : SessionOperation}

/-- **An operation that fails has no effect.** -/
theorem apply_error {error : VoipError} (h : (s.apply operation).2 = .error error) : (s.apply operation).1 = s := by
  have heffect := apply_effect s operation
  generalize s.apply operation = result at h heffect
  cases heffect with
  | failed => rfl
  | continued | counted | prepared | stopped => cases h

theorem apply_wellFormed (h : s.WellFormed) : (s.apply operation).1.WellFormed := by
  have heffect := apply_effect s operation
  generalize s.apply operation = result at heffect
  cases heffect with
  | failed => exact h
  | continued hcontinues => exact hcontinues.wellFormed h
  | counted => exact h
  | prepared hprepare =>
    obtain ⟨hbound, -, hstate, -⟩ := VoipMediaSession.prepare_ok hprepare
    have hstarted := VoipMediaSession.started_of_state hstate nofun nofun
    exact ⟨fun hnot => absurd hstarted (VoipMediaSession.not_started.2 hnot), fun _ => hbound⟩
  | stopped => exact VoipMediaSession.wellFormed_stop s.toVoipMediaSession

theorem apply_callId (hne : operation ≠ .stop) (h : s.Started) :
    (s.apply operation).1.Started ∧ (s.apply operation).1.callId = s.callId := by
  have heffect := apply_effect s operation
  generalize s.apply operation = result at heffect
  cases heffect with
  | failed => exact ⟨h, rfl⟩
  | continued hcontinues => exact ⟨hcontinues.started', hcontinues.callId⟩
  | counted => exact ⟨h, rfl⟩
  | prepared hprepare =>
    obtain ⟨-, hcall, hstate, hsame⟩ := VoipMediaSession.prepare_ok hprepare
    exact ⟨VoipMediaSession.started_of_state hstate nofun nofun, hcall.trans (hsame h).symm⟩
  | stopped => exact absurd rfl hne

/-! ### Runs -/

theorem runOperations_append (s : CountedSession) (operations later : List SessionOperation) :
    s.runOperations (operations ++ later) = (s.runOperations operations).runOperations later :=
  Run.run_append ..

theorem run_wellFormed (operations : List SessionOperation) (h : s.WellFormed) :
    (s.runOperations operations).WellFormed :=
  Run.invariant_run_of_step (I := fun s : CountedSession => s.WellFormed) (fun _ _ => apply_wellFormed) operations h

theorem run_callId {operations : List SessionOperation} (hstop : .stop ∉ operations) (h : s.Started) :
    (s.runOperations operations).Started ∧ (s.runOperations operations).callId = s.callId := by
  induction operations generalizing s with
  | nil => exact ⟨h, rfl⟩
  | cons operation operations ih =>
    rw [List.mem_cons, not_or] at hstop
    obtain ⟨hstarted, hcall⟩ := apply_callId (Ne.symm hstop.1) h
    obtain ⟨hstarted', hcall'⟩ := ih hstop.2 hstarted
    exact ⟨hstarted', hcall'.trans hcall⟩

/-- **The states of the media session**, from a new one on: what a session holds is up to its state, no call is put in
the place of another without a stop, and an operation that fails leaves the session as it is. -/
theorem session_states (operations : List SessionOperation) :
    (({} : CountedSession).runOperations operations).WellFormed ∧
      (∀ later, .stop ∉ later → (({} : CountedSession).runOperations operations).Started →
        (({} : CountedSession).runOperations (operations ++ later)).Started ∧
          (({} : CountedSession).runOperations (operations ++ later)).callId
            = (({} : CountedSession).runOperations operations).callId) ∧
      ∀ operation error, ((({} : CountedSession).runOperations operations).apply operation).2 = .error error →
        ((({} : CountedSession).runOperations operations).apply operation).1
          = ({} : CountedSession).runOperations operations := by
  refine ⟨run_wellFormed operations VoipMediaSession.wellFormed_new, ?_, ?_⟩
  · intro later hstop hstarted
    rw [runOperations_append]
    exact run_callId hstop hstarted
  · intro operation error h
    exact apply_error h

/-- A session that is prepared for call 7, asked to change over to call 8. -/
theorem session_states_rebind :
    (({} : CountedSession).runOperations
        ([.prepare 7 "k" { ip := "1.2.3.4", port := 443, peerTag := [1] }] ++
          [.markActive, .prepare 8 "k" { ip := "1.2.3.4", port := 443, peerTag := [1] }])).callId = 7 := by
  have h := (session_states [.prepare 7 "k" { ip := "1.2.3.4", port := 443, peerTag := [1] }]).2.1
    [.markActive, .prepare 8 "k" { ip := "1.2.3.4", port := 443, peerTag := [1] }] (by decide) ⟨by decide, by decide⟩
  exact h.2.trans (by decide)

end CountedSession

end VianiumVoip.Engine
