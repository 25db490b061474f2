import VianiumVoip.Engine.Sections
import VianiumVoip.Engine.KeyAgreement

/-!
# Dropped calls

`DropCall` clears a session, and keeps the call id among the dropped ones until the call is opened again.  An operation
that has copied the session before writes its copy back afterwards: the session is there again, with its keys.

`stays_dropped_iff` says in which interleavings a dropped call stays dropped: those in which no copy is written back to a
call that has been dropped.
-/

namespace VianiumVoip.Engine

open VianiumVoip.Lib VianiumVoip.Lib.Run VianiumVoip.Cert VianiumVoip.Tgcalls

namespace SignalingEngine

variable {e : SignalingEngine} {callId : ℤ}

/-- No dropped call has a session. -/
def Disjoint (e : SignalingEngine) : Prop := ∀ callId ∈ e.droppedCallIds, e.calls callId = none

/-- The same calls have a session, and the same are dropped. -/
structure SameLive (e e' : SignalingEngine) : Prop where
  calls : ∀ callId, e'.calls callId = none ↔ e.calls callId = none
  droppedCallIds : e'.droppedCallIds = e.droppedCallIds

theorem SameLive.refl (e : SignalingEngine) : SameLive e e := ⟨fun _ => Iff.rfl, rfl⟩

theorem SameLive.disjoint_iff {e' : SignalingEngine} (h : SameLive e e') : e'.Disjoint ↔ e.Disjoint := by
  unfold Disjoint
  rw [h.droppedCallIds]
  exact forall₂_congr fun callId _ => h.calls callId

theorem sameLive_storeCall {session session' : CallSession} (h : e.calls callId = some session) :
    SameLive e (e.storeCall callId session') where
  calls := by
    intro id
    by_cases hid : id = callId
    · subst hid
      simp [h]
    · rw [storeCall_of_ne hid]
  droppedCallIds := rfl

theorem sameLive_swapPending (e : SignalingEngine) (callId : ℤ) : SameLive e (e.swapPending callId).1 := by
  unfold swapPending
  cases hsession : e.calls callId with
  | none => exact .refl e
  | some session => exact sameLive_storeCall hsession

theorem sameLive_publishConnection (e : SignalingEngine) (callId : ℤ) (conn : HeldConnection) :
    SameLive e (e.publishConnection callId conn).1 :=
  ⟨(sameLive_swapPending e callId).calls, (sameLive_swapPending e callId).droppedCallIds⟩

theorem sameLive_graphTurn (e : SignalingEngine) (callId : ℤ) : SameLive e (e.graphTurn callId).1 := by
  unfold graphTurn
  cases hsession : e.calls callId with
  | none => exact ⟨fun _ => Iff.rfl, rfl⟩
  | some session =>
    simp only
    split_ifs
    · exact ⟨fun _ => Iff.rfl, rfl⟩
    · exact sameLive_storeCall hsession

theorem sameLive_receiveSignalingData (e : SignalingEngine) (callId : ℤ) (packet : Packet) :
    SameLive e (e.receiveSignalingData callId packet).1 := by
  have h := e.receiveSignalingData_receives callId packet
  generalize (e.receiveSignalingData callId packet).1 = e', (e.receiveSignalingData callId packet).2 = reception at h ⊢
  cases h with
  | refused error => exact .refl e
  | ignored hcall hdropped => exact .refl e
  | queued session hdata hcall hclosed => exact sameLive_storeCall hcall
  | toConnection session conn hdata hcall hid hconn => exact sameLive_storeCall hcall
  | toGraph session hdata hcall hid hconn hgraph => exact sameLive_storeCall hcall

theorem sameLive_retractGraph (e : SignalingEngine) (callId : ℤ) : SameLive e (e.retractGraph callId) := by
  unfold retractGraph
  split_ifs <;> exact ⟨fun _ => Iff.rfl, rfl⟩

/-! ### The operations on the sets -/

theorem disjoint_createOutgoingDh {C : Crypto} {randomId g : ℤ} {p : Bytes} {draws : ℕ → Draw} (h : e.Disjoint) :
    (e.createOutgoingDh C randomId g p draws).Disjoint := by
  unfold createOutgoingDh
  split <;> exact h

theorem disjoint_open {session : CallSession} {e' : SignalingEngine} (h : e.Disjoint)
    (hcalls : e'.calls = (e.storeCall callId session).calls)
    (hdropped : e'.droppedCallIds = e.droppedCallIds.erase callId) : e'.Disjoint := by
  intro id hid
  rw [hdropped, Finset.mem_erase] at hid
  rw [hcalls, storeCall_of_ne hid.1]
  exact h id hid.2

theorem disjoint_bindOutgoingCall {randomId : ℤ} (h : e.Disjoint) : (e.bindOutgoingCall randomId callId).Disjoint := by
  unfold bindOutgoingCall
  split_ifs
  · exact h
  · cases e.outgoingByRandom randomId with
    | none => exact h
    | some session => exact disjoint_open h rfl rfl

theorem disjoint_registerIncomingGAHash {gAHash : Bytes} (h : e.Disjoint) :
    (e.registerIncomingGAHash callId gAHash).Disjoint := by
  unfold registerIncomingGAHash
  split_ifs
  · exact h
  · exact h
  · exact disjoint_open h rfl rfl

theorem dropCall_calls (e : SignalingEngine) (callId : ℤ) :
    (e.dropCall callId).1.calls = Function.update e.calls callId none ∧
      (e.dropCall callId).1.droppedCallIds = insert callId e.droppedCallIds := by
  unfold dropCall
  dsimp only
  split_ifs <;> exact ⟨rfl, rfl⟩

theorem disjoint_dropCall (h : e.Disjoint) : (e.dropCall callId).1.Disjoint := by
  obtain ⟨hcalls, hdropped⟩ := dropCall_calls e callId
  intro id hid
  rw [hcalls]
  by_cases hsame : id = callId
  · rw [hsame, Function.update_self]
  · rw [hdropped, Finset.mem_insert, or_iff_right hsame] at hid
    rw [Function.update_of_ne hsame]
    exact h id hid

/-- A session that is stored keeps the sets disjoint exactly when its call is not dropped. -/
theorem disjoint_storeCall_iff {session : CallSession} (h : e.Disjoint) :
    (e.storeCall callId session).Disjoint ↔ callId ∉ e.droppedCallIds := by
  constructor
  · intro hstored hdropped
    have hnone := hstored callId hdropped
    rw [storeCall_self] at hnone
    cases hnone
  · intro hopen id hid
    have hne : id ≠ callId := fun hid' => hopen (hid' ▸ hid)
    rw [storeCall_of_ne hne]
    exact h id hid

end SignalingEngine

namespace SectionState

open SignalingEngine

variable {C : Crypto} {P : Platform} {s : SectionState} {callId : ℤ}

/-- A copy is written back to a call that is not dropped. -/
def WritesToOpenCall (s : SectionState) : Section → Prop
  | .writeBack thread => ∀ callId session, s.copies thread = some (callId, session) → callId ∉ s.engine.droppedCallIds
  | _ => True

theorem engine_startMedia (s : SectionState) (descriptor : VoipCallStartDescriptor) (id : ℕ)
    (input : TgcallsConnection.StartInput) (graphError : Option VoipError) :
    (s.startMedia P descriptor id input graphError).engine = s.engine := by
  rcases s.startMedia_cases P descriptor id input graphError with h | ⟨conn, -, -, h⟩ | ⟨-, h⟩ <;> rw [h]

theorem sameLive_receive (s : SectionState) (callId : ℤ) (data : Bytes) :
    SameLive s.engine (s.receive callId data).engine := by
  have h := sameLive_receiveSignalingData s.engine callId { number := s.received, data := data }
  unfold receive
  dsimp only
  split <;> exact h

theorem sameLive_publish (s : SectionState) (k : ℕ) : SameLive s.engine (s.publish k).engine := by
  unfold publish
  split
  · exact .refl _
  · exact sameLive_publishConnection _ _ _

theorem engine_handOver (s : SectionState) (k : ℕ) (graphError : Option VoipError) :
    (s.handOver k graphError).engine = s.engine := by
  unfold handOver
  split
  · rfl
  · split
    · rfl
    · split <;> rfl

theorem sameLive_graphTurn_section (s : SectionState) (k : ℕ) : SameLive s.engine (s.graphTurn k).engine := by
  unfold graphTurn
  split
  · exact .refl _
  · next drain _ =>
    have h := sameLive_graphTurn s.engine drain.callId
    split_ifs
    · split
      · next heq =>
        rw [heq] at h
        exact h
      · next heq =>
        rw [heq] at h
        exact h
    · exact .refl _

theorem sameLive_retract (s : SectionState) (k : ℕ) : SameLive s.engine (s.retract k).engine := by
  unfold retract
  split
  · exact .refl _
  · split_ifs
    · exact ⟨fun _ => Iff.rfl, rfl⟩
    · exact sameLive_retractGraph _ _
    · exact .refl _

/-- **A part of an operation keeps the sets disjoint exactly when it writes to no dropped call.** -/
theorem disjoint_step_iff (h : s.engine.Disjoint) (ev : Section) :
    (s.step C P ev).engine.Disjoint ↔ s.WritesToOpenCall ev := by
  cases ev with
  | createOutgoingDh randomId g p draws => exact iff_of_true (disjoint_createOutgoingDh h) trivial
  | bindOutgoingCall randomId callId => exact iff_of_true (disjoint_bindOutgoingCall h) trivial
  | registerIncomingGAHash callId gAHash => exact iff_of_true (disjoint_registerIncomingGAHash h) trivial
  | copy thread op =>
    refine iff_of_true ?_ trivial
    simp only [step]
    split <;> exact h
  | writeBack thread =>
    simp only [step, WritesToOpenCall]
    cases hcopy : s.copies thread with
    | none => exact iff_of_true h fun callId session hcopy => by cases hcopy
    | some copy =>
      refine (disjoint_storeCall_iff h).trans ?_
      constructor
      · rintro hopen callId session ⟨⟩
        exact hopen
      · intro hopen
        exact hopen _ _ rfl
  | dropCall callId => exact iff_of_true (disjoint_dropCall h) trivial
  | receive callId data => exact iff_of_true ((sameLive_receive s callId data).disjoint_iff.2 h) trivial
  | deliver k graphError => exact iff_of_true h trivial
  | startMedia descriptor id input graphError =>
    refine iff_of_true ?_ trivial
    simp only [step, engine_startMedia]
    exact h
  | publish k => exact iff_of_true ((sameLive_publish s k).disjoint_iff.2 h) trivial
  | handOver k graphError =>
    refine iff_of_true ?_ trivial
    simp only [step, engine_handOver]
    exact h
  | graphTurn k => exact iff_of_true ((sameLive_graphTurn_section s k).disjoint_iff.2 h) trivial
  | retract k => exact iff_of_true ((sameLive_retract s k).disjoint_iff.2 h) trivial
  | stopMedia => exact iff_of_true h trivial

/-! ### Runs -/

/-- `DropCall` has run for the call, and neither `BindOutgoingCall` nor `RegisterIncomingGAHash` since. -/
def DroppedIn (callId : ℤ) (events : List Section) : Prop :=
  ∃ pre post, events = pre ++ .dropCall callId :: post ∧ ∀ ev ∈ post, ¬ ev.Reopens callId

/-- **A dropped call stays dropped**: it has no session, and no session is that of a call among the dropped ones. -/
def StaysDropped (s : SectionState) (events : List Section) : Prop :=
  s.engine.Disjoint ∧ ∀ callId, DroppedIn callId events → s.engine.calls callId = none

theorem dropped_step (h : callId ∈ s.engine.droppedCallIds) {ev : Section} (hev : ¬ ev.Reopens callId) :
    callId ∈ (s.step C P ev).engine.droppedCallIds := by
  cases ev with
  | createOutgoingDh randomId g p draws =>
    simp only [step, createOutgoingDh]
    split <;> exact h
  | bindOutgoingCall randomId id =>
    simp only [step, bindOutgoingCall]
    split_ifs
    · exact h
    · split
      · exact h
      · exact Finset.mem_erase.2 ⟨fun hid => hev hid.symm, h⟩
  | registerIncomingGAHash id gAHash =>
    simp only [step, registerIncomingGAHash]
    split_ifs
    · exact h
    · exact h
    · exact Finset.mem_erase.2 ⟨fun hid => hev hid.symm, h⟩
  | copy thread op =>
    simp only [step]
    split <;> exact h
  | writeBack thread =>
    simp only [step]
    split <;> exact h
  | dropCall id =>
    simp only [step]
    rw [(dropCall_calls s.engine id).2]
    exact Finset.mem_insert_of_mem h
  | receive id data =>
    rw [step, (sameLive_receive s id data).droppedCallIds]
    exact h
  | deliver k graphError => exact h
  | startMedia descriptor id input graphError =>
    rw [step, engine_startMedia]
    exact h
  | publish k =>
    rw [step, (sameLive_publish s k).droppedCallIds]
    exact h
  | handOver k graphError =>
    rw [step, engine_handOver]
    exact h
  | graphTurn k =>
    rw [step, (sameLive_graphTurn_section s k).droppedCallIds]
    exact h
  | retract k =>
    rw [step, (sameLive_retract s k).droppedCallIds]
    exact h
  | stopMedia => exact h

theorem dropped_run (events : List Section) (h : callId ∈ s.engine.droppedCallIds)
    (hevents : ∀ ev ∈ events, ¬ ev.Reopens callId) : callId ∈ (run (step C P) s events).engine.droppedCallIds := by
  have hstep : ∀ (s : SectionState) ev, callId ∈ s.engine.droppedCallIds → ¬ ev.Reopens callId →
      callId ∈ (s.step C P ev).engine.droppedCallIds := fun s ev hdropped hev => dropped_step hdropped hev
  have hguard : Guarded (step C P) (fun _ ev => ¬ ev.Reopens callId) s events :=
    guarded_of_forall_mem fun ev hev _ => hevents ev hev
  exact invariant_run hstep h hguard

theorem dropped_of_droppedIn (s : SectionState) {events : List Section} (h : DroppedIn callId events) :
    callId ∈ (run (step C P) s events).engine.droppedCallIds := by
  obtain ⟨pre, post, rfl, hpost⟩ := h
  rw [run_append, run_cons]
  refine dropped_run post ?_ hpost
  simp only [step]
  rw [(dropCall_calls _ callId).2]
  exact Finset.mem_insert_self _ _

theorem staysDropped_iff_disjoint (s : SectionState) (events : List Section) :
    StaysDropped (run (step C P) s events) events ↔ (run (step C P) s events).engine.Disjoint := by
  constructor
  · exact fun h => h.1
  · exact fun h => ⟨h, fun callId hdropped => h callId (dropped_of_droppedIn s hdropped)⟩

/-- An engine without calls. -/
def initial (hasGraph : Bool) : SectionState where
  engine := { hasGraph := hasGraph }

/-- **When a dropped call stays dropped.**  In every interleaving, at every point of it, a call that has been dropped and
not opened since has no session, and `m_calls` and `m_droppedCallIds` are disjoint, exactly when no copy of a session is
written back to a call that has been dropped. -/
theorem stays_dropped_iff (C : Crypto) (P : Platform) (hasGraph : Bool) (events : List Section) :
    (∀ pre, pre <+: events → StaysDropped (run (step C P) (initial hasGraph) pre) pre) ↔
      Guarded (step C P) WritesToOpenCall (initial hasGraph) events := by
  have hstart : (initial hasGraph).engine.Disjoint := fun callId hdropped => by cases hdropped
  have hstep : ∀ (s : SectionState) ev, s.engine.Disjoint → ((s.step C P ev).engine.Disjoint ↔ s.WritesToOpenCall ev) :=
    fun s ev h => disjoint_step_iff h ev
  simp only [staysDropped_iff_disjoint]
  exact reached_iff_guarded_of_step (P := fun s : SectionState => s.engine.Disjoint) hstep events hstart

/-! ### A call that comes back -/

/-- An incoming call is dropped while `CreateIncomingDh` draws its exponent. -/
def sampleDrop : List Section :=
  [.registerIncomingGAHash 1 (List.replicate 32 7), .copy 0 (.createIncomingDh 1 3 samplePrime (smallDraws 2)), .dropCall 1,
    .writeBack 0]

/-- **The session is there again, with the exponent.** -/
theorem dropped_call_returns :
    ¬ StaysDropped (run (step sampleCrypto Dtls.nullCrypto.toPlatform) (initial false) sampleDrop) sampleDrop ∧
      ((run (step sampleCrypto Dtls.nullCrypto.toPlatform) (initial false) sampleDrop).engine.calls 1).map
        (fun session => session.privateValue) = some (toBE kDhBytes 2) := by
  refine ⟨?_, by decide +kernel⟩
  intro h
  have hdropped : DroppedIn 1 sampleDrop :=
    ⟨sampleDrop.take 2, [.writeBack 0], rfl, by simp [Section.Reopens]⟩
  have hnone := h.2 1 hdropped
  have hsome :
      ((run (step sampleCrypto Dtls.nullCrypto.toPlatform) (initial false) sampleDrop).engine.calls 1).isSome = true := by
    decide +kernel
  rw [hnone] at hsome
  cases hsome

end SectionState

end VianiumVoip.Engine
