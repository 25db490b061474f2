import VianiumVoip.Engine.Dh

/-!
# Authentication of an incoming call

The caller commits to `g_a` by its hash before the callee shows `g_b`.  `ConfirmPeerGAOrB` checks the commitment.
`AcceptPeerGB`, meant for the other role, computes a key for an incoming call without the check, and
`RegisterIncomingGAHash` replaces the commitment of a call whose key is already there.

The public value behind a key is not kept by the engine; a run is traced with it here.  `authentic_iff` says exactly
which runs keep every key of an incoming call under its commitment.
-/

namespace VianiumVoip.Engine

open VianiumVoip.Lib

variable (C : Crypto)

/-- What a shared key was computed from. -/
structure KeyInput where
  peerPublic : Bytes
  privateValue : Bytes
  p : Bytes
  deriving DecidableEq

/-- An engine, with what the keys of its calls were last computed from. -/
structure Traced where
  engine : VoipEngine := {}
  keyInput : ℤ → Option KeyInput := fun _ => none

/-- The call for which an operation computes a key, and from what. -/
def keyComputed (e : VoipEngine) : DhOperation → Option (ℤ × KeyInput)
  | .acceptPeerGB callId gB =>
    (e.calls callId).bind fun session =>
      match session.acceptPeerGB C gB with
      | .ok _ => some (callId, { peerPublic := gB, privateValue := session.privateValue, p := session.p })
      | .error _ => none
  | .confirmPeerGAOrB callId gAOrB expectedFingerprint =>
    (e.calls callId).bind fun session =>
      match session.confirmPeerGAOrB C gAOrB expectedFingerprint with
      | .ok _ => some (callId, { peerPublic := gAOrB, privateValue := session.privateValue, p := session.p })
      | .error _ => none
  | _ => none

def Traced.step (t : Traced) (op : DhOperation) : Traced where
  engine := t.engine.apply C op
  keyInput := match keyComputed C t.engine op with
    | some (callId, input) => Function.update t.keyInput callId (some input)
    | none => t.keyInput

theorem Traced.step_engine (t : Traced) (op : DhOperation) : (t.step C op).engine = t.engine.apply C op := rfl

theorem Traced.step_keyInput (t : Traced) (op : DhOperation) : (t.step C op).keyInput =
    match keyComputed C t.engine op with
    | some (callId, input) => Function.update t.keyInput callId (some input)
    | none => t.keyInput := rfl

theorem run_engine (t : Traced) (ops : List DhOperation) :
    (Run.run (Traced.step C) t ops).engine = Run.run (VoipEngine.apply C) t.engine ops := by
  induction ops generalizing t with
  | nil => rfl
  | cons op ops ih => rw [Run.run_cons, ih, Run.run_cons, Traced.step_engine]

/-- The shared key of a session was computed from `input`. -/
def ComputedFrom (session : DhSession) (input : KeyInput) : Prop :=
  session.sharedKey = computeShared C input.peerPublic input.privateValue input.p

/-- A session whose key, if it is ready and the call incoming, comes from the committed value. -/
def AuthenticSession (session : Option DhSession) (input : Option KeyInput) : Prop :=
  ∀ s, session = some s → s.incoming = true → s.sharedReady = true →
    ∃ k, input = some k ∧ ComputedFrom C s k ∧ C.sha256 k.peerPublic = s.peerGAHash

/-- **The key of every incoming call comes from a value whose hash is the registered one.** -/
def Authentic (t : Traced) : Prop := ∀ callId, AuthenticSession C (t.engine.calls callId) (t.keyInput callId)

/-- The condition on an operation where it is called: `AcceptPeerGB` is given the committed value if the call is
incoming, and `RegisterIncomingGAHash` the hash of the value behind the key if there is one. -/
def Authenticates (t : Traced) : DhOperation → Prop
  | .registerIncomingGAHash callId gAHash =>
    0 < callId → gAHash.length = kSha256DigestSize → ∀ s, t.engine.calls callId = some s → s.sharedReady = true →
      ∃ k, t.keyInput callId = some k ∧ C.sha256 k.peerPublic = gAHash
  | .acceptPeerGB callId gB =>
    ∀ s, t.engine.calls callId = some s → s.incoming = true → validatePublicValue gB s.p = .ok () →
      C.sha256 gB = s.peerGAHash
  | _ => True

/-! ### What holds of every session -/

/-- A session has a commitment exactly when it is incoming, and its key comes from the recorded input. -/
structure SoundSession (session : DhSession) (input : Option KeyInput) : Prop where
  hash : session.incoming = true → session.peerGAHash.length = kSha256DigestSize
  incoming : session.peerGAHash ≠ [] → session.incoming = true
  key : session.sharedReady = true → ∃ k, input = some k ∧ ComputedFrom C session k

/-- A session without a call has no role, commitment or key. -/
def Unbound (session : DhSession) : Prop :=
  session.incoming = false ∧ session.sharedReady = false ∧ session.peerGAHash = []

structure Sound (t : Traced) : Prop where
  calls : ∀ callId s, t.engine.calls callId = some s → SoundSession C s (t.keyInput callId)
  outgoing : ∀ randomId s, t.engine.outgoingByRandom randomId = some s → Unbound s

variable {C} {t : Traced}

/-! ### One step -/

theorem forall_update_iff {Q : Option DhSession → Option KeyInput → Prop} {calls : ℤ → Option DhSession}
    {keyInput : ℤ → Option KeyInput} {callId : ℤ} {session : Option DhSession} {input : Option KeyInput}
    (h : ∀ id, Q (calls id) (keyInput id)) :
    (∀ id, Q (Function.update calls callId session id) (Function.update keyInput callId input id)) ↔
      Q session input := by
  constructor
  · intro hall
    have := hall callId
    rwa [Function.update_self, Function.update_self] at this
  · intro hq id
    by_cases hid : id = callId
    · subst hid
      rwa [Function.update_self, Function.update_self]
    · rw [Function.update_of_ne hid, Function.update_of_ne hid]
      exact h id

variable (C) in
/-- What an operation puts at a call: the new session, and the new trace of its key. -/
inductive CallChange (t : Traced) : DhOperation → ℤ → Option DhSession → Option KeyInput → Prop
  | bindOutgoingCall {randomId callId s} : 0 < callId → t.engine.outgoingByRandom randomId = some s →
      CallChange t (.bindOutgoingCall randomId callId) callId (some { s with callId := callId }) (t.keyInput callId)
  | registerIncomingGAHash {callId gAHash} : 0 < callId → gAHash.length = kSha256DigestSize →
      CallChange t (.registerIncomingGAHash callId gAHash) callId
        (some { (t.engine.calls callId).getD {} with callId := callId, incoming := true, peerGAHash := gAHash })
        (t.keyInput callId)
  | createIncomingDh {callId g p draws s} : validateDhConfig g p = .ok () → t.engine.calls callId = some s →
      s.peerGAHash ≠ [] →
      CallChange t (.createIncomingDh callId g p draws) callId (some { s.draw C g p draws with incoming := true })
        (t.keyInput callId)
  | acceptPeerGB {callId gB s s'} : t.engine.calls callId = some s → s.acceptPeerGB C gB = .ok s' →
      CallChange t (.acceptPeerGB callId gB) callId (some s')
        (some { peerPublic := gB, privateValue := s.privateValue, p := s.p })
  | confirmPeerGAOrB {callId gAOrB expectedFingerprint s s'} : t.engine.calls callId = some s →
      s.confirmPeerGAOrB C gAOrB expectedFingerprint = .ok s' →
      CallChange t (.confirmPeerGAOrB callId gAOrB expectedFingerprint) callId (some s')
        (some { peerPublic := gAOrB, privateValue := s.privateValue, p := s.p })
  | dropCall {callId} : CallChange t (.dropCall callId) callId none (t.keyInput callId)

variable (C) in
/-- An operation makes one of the changes, or none where none is possible. -/
def Effect (t : Traced) (op : DhOperation) : Prop :=
  ((t.step C op).engine.calls = t.engine.calls ∧ (t.step C op).keyInput = t.keyInput ∧
      ∀ c v k, ¬ CallChange C t op c v k) ∨
    ∃ c v k, CallChange C t op c v k ∧ (t.step C op).engine.calls = Function.update t.engine.calls c v ∧
      (t.step C op).keyInput = Function.update t.keyInput c k

theorem effect_createOutgoingDh {randomId g : ℤ} {p : Bytes} {draws : ℕ → Draw} :
    Effect C t (.createOutgoingDh randomId g p draws) := by
  left
  refine ⟨?_, rfl, fun c v k h => nomatch h⟩
  rw [Traced.step_engine, VoipEngine.apply, VoipEngine.createOutgoingDh]
  cases validateDhConfig g p <;> rfl

theorem effect_bindOutgoingCall {randomId callId : ℤ} : Effect C t (.bindOutgoingCall randomId callId) := by
  unfold Effect
  rw [Traced.step_engine, VoipEngine.apply, VoipEngine.bindOutgoingCall]
  by_cases hid : callId ≤ 0
  · left
    refine ⟨by rw [if_pos hid], rfl, ?_⟩
    rintro c v k ⟨⟩
    omega
  cases hs : t.engine.outgoingByRandom randomId with
  | none =>
    left
    refine ⟨by rw [if_neg hid], rfl, ?_⟩
    rintro c v k ⟨⟩
    simp_all
  | some s =>
    right
    refine ⟨callId, _, _, .bindOutgoingCall (by omega) hs, ?_, (Function.update_eq_self _ _).symm⟩
    rw [if_neg hid]
    rfl

theorem effect_registerIncomingGAHash {callId : ℤ} {gAHash : Bytes} :
    Effect C t (.registerIncomingGAHash callId gAHash) := by
  unfold Effect
  rw [Traced.step_engine, VoipEngine.apply, VoipEngine.registerIncomingGAHash]
  by_cases hid : callId ≤ 0
  · left
    refine ⟨by rw [if_pos hid], rfl, ?_⟩
    rintro c v k ⟨⟩
    omega
  by_cases hlen : gAHash.length = kSha256DigestSize
  · right
    refine ⟨callId, _, _, .registerIncomingGAHash (by omega) hlen, ?_, (Function.update_eq_self _ _).symm⟩
    rw [if_neg hid, if_neg (not_not_intro hlen)]
    rfl
  · left
    refine ⟨by rw [if_neg hid, if_pos hlen], rfl, ?_⟩
    rintro c v k ⟨⟩
    contradiction

theorem effect_createIncomingDh {callId g : ℤ} {p : Bytes} {draws : ℕ → Draw} :
    Effect C t (.createIncomingDh callId g p draws) := by
  unfold Effect
  rw [Traced.step_engine, VoipEngine.apply, VoipEngine.createIncomingDh]
  cases hconfig : validateDhConfig g p with
  | error error =>
    left
    refine ⟨rfl, rfl, ?_⟩
    rintro c v k ⟨⟩
    simp_all
  | ok _ =>
    cases hs : t.engine.calls callId with
    | none =>
      left
      refine ⟨rfl, rfl, ?_⟩
      rintro c v k ⟨⟩
      simp_all
    | some s =>
      by_cases hhash : s.peerGAHash = []
      · left
        refine ⟨by simp [hhash], rfl, ?_⟩
        rintro c v k ⟨⟩
        simp_all
      · right
        refine ⟨callId, _, _, .createIncomingDh hconfig hs hhash, ?_, (Function.update_eq_self _ _).symm⟩
        simp [hhash, VoipEngine.storeCall]

theorem effect_acceptPeerGB {callId : ℤ} {gB : Bytes} : Effect C t (.acceptPeerGB callId gB) := by
  unfold Effect
  rw [Traced.step_engine, Traced.step_keyInput, VoipEngine.apply, VoipEngine.acceptPeerGB, keyComputed]
  cases hs : t.engine.calls callId with
  | none =>
    left
    refine ⟨rfl, rfl, ?_⟩
    rintro c v k ⟨⟩
    simp_all
  | some s =>
    rw [Option.bind_some]
    cases haccept : s.acceptPeerGB C gB with
    | error error =>
      left
      refine ⟨by simp only [haccept], rfl, ?_⟩
      rintro c v k ⟨⟩
      simp_all
    | ok s' =>
      right
      refine ⟨callId, _, _, .acceptPeerGB hs haccept, ?_, rfl⟩
      simp only [haccept]
      rfl

theorem effect_confirmPeerGAOrB {callId : ℤ} {gAOrB : Bytes} {expectedFingerprint : Int64} :
    Effect C t (.confirmPeerGAOrB callId gAOrB expectedFingerprint) := by
  unfold Effect
  rw [Traced.step_engine, Traced.step_keyInput, VoipEngine.apply, VoipEngine.confirmPeerGAOrB, keyComputed]
  cases hs : t.engine.calls callId with
  | none =>
    left
    refine ⟨rfl, rfl, ?_⟩
    rintro c v k ⟨⟩
    simp_all
  | some s =>
    rw [Option.bind_some]
    cases hconfirm : s.confirmPeerGAOrB C gAOrB expectedFingerprint with
    | error error =>
      left
      refine ⟨by simp only [hconfirm], rfl, ?_⟩
      rintro c v k ⟨⟩
      simp_all
    | ok s' =>
      right
      refine ⟨callId, _, _, .confirmPeerGAOrB hs hconfirm, ?_, rfl⟩
      simp only [hconfirm]
      rfl

theorem effect_dropCall {callId : ℤ} : Effect C t (.dropCall callId) := by
  right
  exact ⟨callId, _, _, .dropCall, rfl, (Function.update_eq_self _ _).symm⟩

/-- **What a step can do to the calls.** -/
theorem effect (t : Traced) (op : DhOperation) : Effect C t op := by
  cases op with
  | createOutgoingDh => exact effect_createOutgoingDh
  | bindOutgoingCall => exact effect_bindOutgoingCall
  | registerIncomingGAHash => exact effect_registerIncomingGAHash
  | createIncomingDh => exact effect_createIncomingDh
  | acceptPeerGB => exact effect_acceptPeerGB
  | confirmPeerGAOrB => exact effect_confirmPeerGAOrB
  | dropCall => exact effect_dropCall

/-! ### Soundness -/

theorem outgoing_step (h : ∀ randomId s, t.engine.outgoingByRandom randomId = some s → Unbound s)
    (op : DhOperation) : ∀ randomId s, (t.step C op).engine.outgoingByRandom randomId = some s → Unbound s := by
  have hupdate : ∀ randomId v, (∀ s, v = some s → Unbound s) →
      ∀ id s, Function.update t.engine.outgoingByRandom randomId v id = some s → Unbound s := by
    intro randomId v hv id s hs
    by_cases hid : id = randomId
    · rw [hid, Function.update_self] at hs
      exact hv s hs
    · rw [Function.update_of_ne hid] at hs
      exact h id s hs
  rw [Traced.step_engine]
  cases op with
  | createOutgoingDh randomId g p draws =>
    rw [VoipEngine.apply, VoipEngine.createOutgoingDh]
    cases validateDhConfig g p with
    | error error => exact h
    | ok _ =>
      refine hupdate randomId _ ?_
      rintro s ⟨⟩
      exact ⟨rfl, rfl, rfl⟩
  | bindOutgoingCall randomId callId =>
    rw [VoipEngine.apply, VoipEngine.bindOutgoingCall]
    by_cases hid : callId ≤ 0
    · rw [if_pos hid]
      exact h
    rw [if_neg hid]
    cases t.engine.outgoingByRandom randomId with
    | none => exact h
    | some s => exact hupdate randomId none (fun s hs => nomatch hs)
  | registerIncomingGAHash callId gAHash =>
    rw [VoipEngine.apply, VoipEngine.registerIncomingGAHash]
    split_ifs <;> exact h
  | createIncomingDh callId g p draws =>
    rw [VoipEngine.apply, VoipEngine.createIncomingDh]
    cases validateDhConfig g p with
    | error error => exact h
    | ok _ =>
      cases t.engine.calls callId with
      | none => exact h
      | some s =>
        simp only
        split_ifs <;> exact h
  | acceptPeerGB callId gB =>
    rw [VoipEngine.apply, VoipEngine.acceptPeerGB]
    cases t.engine.calls callId with
    | none => exact h
    | some s =>
      simp only
      cases s.acceptPeerGB C gB <;> exact h
  | confirmPeerGAOrB callId gAOrB expectedFingerprint =>
    rw [VoipEngine.apply, VoipEngine.confirmPeerGAOrB]
    cases t.engine.calls callId with
    | none => exact h
    | some s =>
      simp only
      cases s.confirmPeerGAOrB C gAOrB expectedFingerprint <;> exact h
  | dropCall callId => exact h

theorem soundSession_shareKey {s : DhSession} {input : Option KeyInput} (h : SoundSession C s input)
    (peerPublic : Bytes) : SoundSession C (s.shareKey C peerPublic)
      (some { peerPublic := peerPublic, privateValue := s.privateValue, p := s.p }) :=
  ⟨h.hash, h.incoming, fun _ => ⟨_, rfl, rfl⟩⟩

theorem soundSession_of_callChange (h : Sound C t) {op : DhOperation} {c : ℤ} {v : Option DhSession}
    {k : Option KeyInput} (hchange : CallChange C t op c v k) : ∀ s, v = some s → SoundSession C s k := by
  cases hchange with
  | bindOutgoingCall hid hs =>
    rintro s ⟨⟩
    obtain ⟨hincoming, hready, hhash⟩ := h.outgoing _ _ hs
    refine ⟨?_, ?_, ?_⟩ <;> simp [hincoming, hready, hhash]
  | registerIncomingGAHash hid hlen =>
    rintro s ⟨⟩
    refine ⟨fun _ => hlen, fun _ => rfl, ?_⟩
    intro hready
    cases hs : t.engine.calls c with
    | none =>
      rw [hs] at hready
      cases hready
    | some s =>
      rw [hs] at hready
      exact (h.calls c s hs).key hready
  | createIncomingDh hconfig hs hhash =>
    rintro s ⟨⟩
    have hsound := h.calls _ _ hs
    exact ⟨fun _ => hsound.hash (hsound.incoming hhash), fun _ => rfl, hsound.key⟩
  | acceptPeerGB hs haccept =>
    rintro s ⟨⟩
    obtain ⟨-, rfl⟩ := DhSession.acceptPeerGB_eq_ok_iff.1 haccept
    exact soundSession_shareKey (h.calls _ _ hs) _
  | confirmPeerGAOrB hs hconfirm =>
    rintro s ⟨⟩
    obtain ⟨-, -, rfl⟩ := DhSession.of_confirmPeerGAOrB hconfirm
    exact soundSession_shareKey (h.calls _ _ hs) _
  | dropCall =>
    rintro s ⟨⟩

theorem sound_step (h : Sound C t) (op : DhOperation) : Sound C (t.step C op) := by
  refine ⟨?_, outgoing_step h.outgoing op⟩
  rcases effect (C := C) t op with ⟨heq, hkey, -⟩ | ⟨c, v, k, hchange, heq, hkey⟩
  · rw [heq, hkey]
    exact h.calls
  · rw [heq, hkey]
    exact (forall_update_iff (Q := fun v k => ∀ s, v = some s → SoundSession C s k) h.calls).2
      (soundSession_of_callChange h hchange)

/-- A new engine. -/
def Traced.init : Traced := {}

theorem sound_init : Sound C .init := ⟨fun _ _ h => (nomatch h), fun _ _ h => (nomatch h)⟩

/-! ### Authentication -/

/-- A change keeps the call authentic exactly when the operation meets its condition. -/
theorem authenticSession_of_callChange (hsound : Sound C t) (h : Authentic C t) {op : DhOperation} {c : ℤ}
    {v : Option DhSession} {k : Option KeyInput} (hchange : CallChange C t op c v k) :
    AuthenticSession C v k ↔ Authenticates C t op := by
  cases hchange with
  | bindOutgoingCall hid hs =>
    refine iff_of_true ?_ trivial
    rintro s ⟨⟩ hincoming
    rw [(hsound.outgoing _ _ hs).1] at hincoming
    cases hincoming
  | registerIncomingGAHash hid hlen =>
    constructor
    · intro hauthentic _ _ s hs hready
      obtain ⟨k, hk, -, hhash⟩ := hauthentic _ rfl rfl (by rw [hs]; exact hready)
      exact ⟨k, hk, hhash⟩
    · rintro hmeets s ⟨⟩ - hready
      cases hs : t.engine.calls c with
      | none =>
        rw [hs] at hready
        cases hready
      | some s =>
        rw [hs] at hready
        obtain ⟨k, hk, hhash⟩ := hmeets hid hlen s hs hready
        obtain ⟨k', hk', hcomputed⟩ := (hsound.calls c s hs).key hready
        rw [hk, Option.some.injEq] at hk'
        subst hk'
        exact ⟨k, hk, hcomputed, hhash⟩
  | createIncomingDh hconfig hs hhash =>
    refine iff_of_true ?_ trivial
    rintro s ⟨⟩ - hready
    have hauthentic := h _ _ hs ((hsound.calls _ _ hs).incoming hhash) hready
    exact hauthentic
  | @acceptPeerGB _ gB s s' hs haccept =>
    obtain ⟨hvalid, rfl⟩ := DhSession.acceptPeerGB_eq_ok_iff.1 haccept
    constructor
    · intro hauthentic s₁ hs₁ hincoming _
      rw [hs, Option.some.injEq] at hs₁
      subst hs₁
      obtain ⟨k, hk, -, hhash⟩ := hauthentic _ rfl hincoming rfl
      rw [Option.some.injEq] at hk
      rw [← hk] at hhash
      exact hhash
    · rintro hmeets s₁ ⟨⟩ hincoming -
      exact ⟨_, rfl, rfl, hmeets s hs hincoming hvalid⟩
  | confirmPeerGAOrB hs hconfirm =>
    refine iff_of_true ?_ trivial
    rintro s ⟨⟩ hincoming hready
    obtain ⟨hhash, -, rfl⟩ := DhSession.of_confirmPeerGAOrB hconfirm
    exact ⟨_, rfl, rfl, hhash ((hsound.calls _ _ hs).hash hincoming)⟩
  | dropCall =>
    refine iff_of_true ?_ trivial
    rintro s ⟨⟩

theorem authenticates_of_refused {op : DhOperation} (h : ∀ c v k, ¬ CallChange C t op c v k) :
    Authenticates C t op := by
  cases op with
  | registerIncomingGAHash callId gAHash =>
    intro hid hlen
    exact absurd (.registerIncomingGAHash hid hlen) (h _ _ _)
  | acceptPeerGB callId gB =>
    intro s hs _ hvalid
    exact absurd (.acceptPeerGB hs (DhSession.acceptPeerGB_eq_ok_iff.2 ⟨hvalid, rfl⟩)) (h _ _ _)
  | _ => trivial

theorem authentic_step_iff (hsound : Sound C t) (h : Authentic C t) (op : DhOperation) :
    Authentic C (t.step C op) ↔ Authenticates C t op := by
  rcases effect (C := C) t op with ⟨heq, hkey, hrefused⟩ | ⟨c, v, k, hchange, heq, hkey⟩
  · refine iff_of_true ?_ (authenticates_of_refused hrefused)
    rw [Authentic, heq, hkey]
    exact h
  · rw [Authentic, heq, hkey, forall_update_iff h]
    exact authenticSession_of_callChange hsound h hchange

theorem authentic_init : Authentic C .init := by
  intro callId s hs
  cases hs

variable (C) in
/-- **The key of every incoming call stays under its commitment in exactly the runs whose operations all meet their
condition**, for every sequence of operations on a new engine. -/
theorem authentic_iff (ops : List DhOperation) :
    (∀ pre, pre <+: ops → Authentic C (Run.run (Traced.step C) .init pre)) ↔
      Run.Guarded (Traced.step C) (Authenticates C) .init ops := by
  have hsound : ∀ t op, Sound C t → Sound C (t.step C op) := fun _ op h => sound_step h op
  have hstep : ∀ t op, Sound C t → Authentic C t → (Authentic C (t.step C op) ↔ Authenticates C t op) :=
    fun _ op hsound h => authentic_step_iff hsound h op
  exact Run.reached_iff_guarded hsound hstep ops sound_init authentic_init

/-- An operation in its role: `AcceptPeerGB` on a call that is not incoming, `RegisterIncomingGAHash` before there is a
key. -/
def InRole (t : Traced) : DhOperation → Prop
  | .registerIncomingGAHash callId _ => ∀ s, t.engine.calls callId = some s → s.sharedReady = false
  | .acceptPeerGB callId _ => ∀ s, t.engine.calls callId = some s → s.incoming = false
  | _ => True

/-- Where every operation keeps to its role, every key of an incoming call is under its commitment. -/
theorem authentic_of_inRole {ops : List DhOperation} (h : Run.Guarded (Traced.step C) InRole .init ops) :
    Authentic C (Run.run (Traced.step C) .init ops) := by
  have hmeets : ∀ (t : Traced) (op : DhOperation), InRole t op → Authenticates C t op := by
    intro t op hrole
    cases op with
    | registerIncomingGAHash callId gAHash =>
      intro _ _ s hs hready
      rw [hrole s hs] at hready
      cases hready
    | acceptPeerGB callId gB =>
      intro s hs hincoming
      rw [hrole s hs] at hincoming
      cases hincoming
    | _ => trivial
  have hstep : ∀ t op, Sound C t ∧ Authentic C t → InRole t op → Sound C (t.step C op) ∧ Authentic C (t.step C op) := by
    rintro t op ⟨hsound, hauthentic⟩ hrole
    exact ⟨sound_step hsound op, (authentic_step_iff hsound hauthentic op).2 (hmeets t op hrole)⟩
  exact (Run.invariant_run hstep ⟨sound_init, authentic_init⟩ h).2

/-! ### Two runs of an incoming call -/

/-- The hashes at the values that the runs below reach. -/
def sampleCrypto : Crypto where
  sha256 msg := toBE 32 <|
    ((([(2, 0x330f13889983d473f51a237d8fc2816c9c8860a5aaa085304e9e7f362c64d956),
      (4, 0xf28df1a76e0150b22b6a770bc3e555ddbf3145ec80adb4244a1c094a109c1c08),
      (9, 0xd701281485674f7fe8d655b7195eb1c4eef8fcece8ebcad800a7d7e99d512b76)] : List (ℕ × ℕ)).lookup (ofBE msg)).getD 0)
  sha1 msg := toBE 20 <|
    ((([(4, 0xffdd0500e25017899f0093d673654423d341aac3),
      (16, 0x4f73f8815d5ffb2004c18d6b2d408d0f98246c95)] : List (ℕ × ℕ)).lookup (ofBE msg)).getD 0)
  modPow b e m := b ^ e % m

/-- A modulus that `ValidateDhConfig` accepts. -/
def samplePrime : Bytes := List.replicate 256 0xFF

/-- The key of an incoming call is ready under another commitment. -/
def exposed (C : Crypto) (t : Traced) (callId : ℤ) : Bool :=
  match t.engine.calls callId, t.keyInput callId with
  | some s, some k => s.incoming && s.sharedReady && decide (C.sha256 k.peerPublic ≠ s.peerGAHash)
  | _, _ => false

theorem not_authentic_of_exposed {callId : ℤ} (h : exposed C t callId = true) : ¬ Authentic C t := by
  intro hauthentic
  have hcall := hauthentic callId
  unfold exposed at h
  cases hs : t.engine.calls callId with
  | none => simp [hs] at h
  | some s =>
    cases hk : t.keyInput callId with
    | none => simp [hs, hk] at h
    | some k =>
      simp only [hs, hk, Bool.and_eq_true, decide_eq_true_eq] at h
      obtain ⟨⟨hincoming, hready⟩, hother⟩ := h
      obtain ⟨k', hk', -, hhash⟩ := hcall s hs hincoming hready
      rw [hk, Option.some.injEq] at hk'
      subst hk'
      exact hother hhash

/-- The caller has committed to 4, and the callee has drawn the exponent 2 with generator 3. -/
def sampleOffer : List DhOperation :=
  [.registerIncomingGAHash 1 (sampleCrypto.sha256 (toBE 256 4)),
    .createIncomingDh 1 3 samplePrime fun _ => ⟨toBE 256 2, length_toBE 256 2⟩]

/-- **The commitment is not kept.**  `AcceptPeerGB` with another value makes the key ready, and so does the committed
value before the commitment is replaced. -/
theorem keys_without_commitment :
    ¬ Authentic sampleCrypto
        (Run.run (Traced.step sampleCrypto) .init (sampleOffer ++ [.acceptPeerGB 1 (toBE 256 2)])) ∧
      ¬ Authentic sampleCrypto (Run.run (Traced.step sampleCrypto) .init
        (sampleOffer ++ [.confirmPeerGAOrB 1 (toBE 256 4) 0,
          .registerIncomingGAHash 1 (sampleCrypto.sha256 (toBE 256 2))])) := by
  refine ⟨?_, ?_⟩
  · exact not_authentic_of_exposed (show exposed sampleCrypto _ 1 = true by decide +kernel)
  · exact not_authentic_of_exposed (show exposed sampleCrypto _ 1 = true by decide +kernel)

end VianiumVoip.Engine
