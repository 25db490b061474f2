import VianiumVoip.Engine.StartMedia

/-!
# A start that fails next to another call

The media session of the engine is one for all calls.  The loop over the endpoints stops it after every endpoint that has
failed, whatever the endpoint has failed of: also where `Prepare` has refused it because another call has it.

`unaffected_iff` says which failures of a `StartMedia` leave the media of another call as they are.
-/

namespace VianiumVoip.Engine

open VianiumVoip.Cert VianiumVoip.Tgcalls

namespace CallEngine

/-- The call has active classic media. -/
structure HasMedia (callId : ℤ) (e : CallEngine) : Prop where
  started : e.session.Started
  session : e.session.callId = callId
  active : ∃ active, e.activeMedia = some active ∧ active.callId = callId

/-- **The media are as they were**: the session with all it holds, the active context, and what `SetMuted` says. -/
structure Unaffected (e e' : CallEngine) : Prop where
  session : e'.session = e.session
  active : e'.activeMedia = e.activeMedia
  setMuted : ∀ muted connAnswer graphAnswer, (e.setMuted muted connAnswer graphAnswer).2 = .ok () →
    (e'.setMuted muted connAnswer graphAnswer).2 = .ok ()

variable {P : Platform} {e e' : CallEngine} {callId : ℤ} {descriptor : CallStartDescriptor} {input : StartMediaInput}
  {muted : Bool} {connAnswer graphAnswer : Option VoipError}

/-! ### SetMuted -/

theorem setMuted_of_not_started (h : ¬ e.session.Started) : (e.setMuted muted connAnswer graphAnswer).2 ≠ .ok () := by
  have hresult := VoipMediaSession.setMuted_of_not_started h muted
  unfold setMuted CountedSession.setMuted
  simp only [hresult]
  intro hok
  split at hok
  · split at hok <;> cases hok
  · split at hok
    · split at hok <;> cases hok
    · cases hok

theorem setMuted_eq_ok_iff (h : e.session.Started) : (e.setMuted muted connAnswer graphAnswer).2 = .ok () ↔
    (e.tgcallsConnection.isSome = true → connAnswer = none) ∧
      (e.tgcallsConnection = none → e.hasGraph = true → 0 < e.tgcallsCallId → graphAnswer = none) := by
  have hresult := VoipMediaSession.setMuted_of_started h muted
  unfold setMuted CountedSession.setMuted
  simp only [hresult]
  cases hconn : e.tgcallsConnection with
  | some conn => cases connAnswer <;> simp
  | none =>
    by_cases hgraph : e.hasGraph = true ∧ 0 < e.tgcallsCallId
    · cases graphAnswer <;> simp [hgraph]
    · simp only [if_neg hgraph, Option.isSome_none, Bool.false_eq_true, false_implies, true_and, true_iff, true_implies]
      exact fun hbound hpos => absurd ⟨hbound, hpos⟩ hgraph

/-- Where the session is as it was, no backend has come that could refuse a `SetMuted`. -/
theorem unaffected_of_slots (hstarted : e.session.Started) (hsession : e'.session = e.session)
    (hactive : e'.activeMedia = e.activeMedia) (hgraph : e'.hasGraph = e.hasGraph)
    (hslots : e'.tgcallsConnection = none ∧ e'.tgcallsCallId = 0 ∨
      e'.tgcallsConnection = e.tgcallsConnection ∧ (e'.tgcallsCallId = 0 ∨ e'.tgcallsCallId = e.tgcallsCallId)) :
    e.Unaffected e' where
  session := hsession
  active := hactive
  setMuted := by
    intro muted connAnswer graphAnswer hok
    rw [setMuted_eq_ok_iff hstarted] at hok
    rw [setMuted_eq_ok_iff (by rw [hsession]; exact hstarted), hgraph]
    obtain ⟨hconn, hcallId⟩ | ⟨hconn, hcallId | hcallId⟩ := hslots
    · rw [hconn, hcallId]
      exact ⟨fun hsome => (by cases hsome), fun _ _ hpos => absurd hpos (lt_irrefl 0)⟩
    · rw [hconn, hcallId]
      exact ⟨hok.1, fun _ _ hpos => absurd hpos (lt_irrefl 0)⟩
    · rw [hconn, hcallId]
      exact hok

/-! ### The exits of StartMedia -/

/-- **Every exit but those of the loop leaves the media alone.** -/
theorem unaffected_of_starts (hmedia : e.session.Started) {stage : StartStage} {outcome : CallEngine × Except VoipError Unit}
    (h : e.Starts descriptor stage outcome) (herror : outcome.2 ≠ .ok ()) (hloop : stage ≠ .endpoints) :
    e.Unaffected outcome.1 := by
  cases h with
  | refused error => exact ⟨rfl, rfl, fun _ _ _ hok => hok⟩
  | connection | graph | classic => exact absurd rfl herror
  | connectionRefused signaling held error hpos hid hcall hslot hcallId hgraph =>
    exact unaffected_of_slots hmedia (stopConnection_session ..) (stopConnection_activeMedia ..) hgraph (.inl ⟨hslot, hcallId⟩)
  | graphRefused signaling error hpos hbound hslot hcallId hgraph =>
    refine unaffected_of_slots hmedia rfl rfl hgraph (.inr ⟨hslot, ?_⟩)
    split_ifs at hcallId
    · exact .inl hcallId
    · exact .inr hcallId
  | failed => exact absurd rfl hloop

/-- **Every exit of the loop, and every one behind it, has stopped the session.** -/
theorem stopped_of_starts {outcome : CallEngine × Except VoipError Unit} (h : e.Starts descriptor .endpoints outcome)
    (herror : outcome.2 ≠ .ok ()) : ¬ outcome.1.session.Started := by
  cases h with
  | classic => exact absurd rfl herror
  | failed s error => exact fun hstarted => hstarted.2 rfl

/-- **When a start that fails disturbs no other call.**  From every state in which a call has active classic media, a
`StartMedia` that returns an error, for whichever call, leaves them as they were exactly when it has not come to its loop
over the endpoints. -/
theorem unaffected_iff (P : Platform) (e : CallEngine) (callId : ℤ) (descriptor : CallStartDescriptor)
    (input : StartMediaInput) (error : VoipError) (hmedia : e.HasMedia callId)
    (herror : (e.startMedia P descriptor input).2 = .error error) :
    e.Unaffected (e.startMedia P descriptor input).1 ↔ ¬ e.TriesEndpoints descriptor := by
  have hstarts := startMedia_starts P e descriptor input
  have hnot : (e.startMedia P descriptor input).2 ≠ .ok () := by
    rw [herror]
    intro hok
    cases hok
  rw [← startStage_eq_endpoints_iff P e descriptor input]
  constructor
  · intro hunaffected hstage
    rw [hstage] at hstarts
    have hstopped := stopped_of_starts hstarts hnot
    rw [hunaffected.session] at hstopped
    exact hstopped hmedia.started
  · exact unaffected_of_starts hmedia.started hstarts hnot

/-! ### A call that is cut off by another one -/

/-- The sessions of two calls with keys. -/
def sampleCalls : SignalingEngine where
  calls callId :=
    if callId = 1 ∨ callId = 2 then
      some { callId := callId, sharedReady := true, sharedKey := List.replicate kDhBytes 1 }
    else none

def classicCall (callId : ℤ) : CallStartDescriptor where
  callId := callId
  libraryVersions := ["2.4.4"]
  keyHandle := handleForCall callId
  endpoints := [{ id := 7, ip := "149.154.175.50", port := 443, peerTag := List.replicate 16 1 }]

/-- Every answer of the platform is good. -/
def sampleAnswers : StartMediaInput where
  connection := { generate := some {}, ufrag := "", pwd := "", ssrc := 0, emitError := none, openError := fun _ => none }

/-- The first of the calls has its media. -/
def sampleFirst : CallEngine :=
  (({ toSignalingEngine := sampleCalls } : CallEngine).startMedia Dtls.nullCrypto.toPlatform (classicCall 1) sampleAnswers).1

theorem hasMedia_sampleFirst : sampleFirst.HasMedia 1 where
  started := ⟨by decide +kernel, by decide +kernel⟩
  session := by decide +kernel
  active := by
    have hactive : sampleFirst.activeMedia.map (·.callId) = some 1 := by decide +kernel
    exact Option.map_eq_some_iff.1 hactive

/-- A start without a key handle. -/
theorem unaffected_sample : sampleFirst.Unaffected
    (sampleFirst.startMedia Dtls.nullCrypto.toPlatform { classicCall 2 with keyHandle := "" } sampleAnswers).1 := by
  refine (unaffected_iff Dtls.nullCrypto.toPlatform sampleFirst 1 { classicCall 2 with keyHandle := "" } sampleAnswers
    (invalid "call key handle is missing") hasMedia_sampleFirst rfl).2 ?_
  exact fun hloop => hloop.keyHandle rfl

/-- **The first call is cut off by a start that fails because of it**: its session is stopped, and `SetMuted` is
refused. -/
theorem other_call_disturbed :
    sampleFirst.HasMedia 1 ∧
      (sampleFirst.startMedia Dtls.nullCrypto.toPlatform (classicCall 2) sampleAnswers).2.toOption = none ∧
      ¬ sampleFirst.Unaffected (sampleFirst.startMedia Dtls.nullCrypto.toPlatform (classicCall 2) sampleAnswers).1 ∧
      ((sampleFirst.startMedia Dtls.nullCrypto.toPlatform (classicCall 2) sampleAnswers).1.setMuted true none none).2
        ≠ .ok () := by
  have hstate : (sampleFirst.startMedia Dtls.nullCrypto.toPlatform (classicCall 2) sampleAnswers).1.session.state
      = .stopped := by decide +kernel
  refine ⟨hasMedia_sampleFirst, by decide +kernel, ?_, ?_⟩
  · intro hunaffected
    rw [hunaffected.session] at hstate
    exact hasMedia_sampleFirst.started.2 hstate
  · exact setMuted_of_not_started fun hstarted => hstarted.2 hstate

end CallEngine

end VianiumVoip.Engine
