import VianiumVoip.Engine.KeyAgreement

/-!
# The key and the exponent of a call

A shared key belongs to the exponent and the prime it was computed with.  `CreateIncomingDh` replaces both, and leaves
a key that is ready as it is.

The engine does not keep which exponent a key came from; a run is dated with it here.  `current_iff` says which runs
keep every ready key one of the exponent that the call has now.
-/

namespace VianiumVoip.Engine

open VianiumVoip.Lib

variable (C : Crypto)

/-- `key` can be computed with an exponent and a prime from some public value that is accepted. -/
def ComputableWith (key privateValue p : Bytes) : Prop :=
  ∃ v, validatePublicValue v p = .ok () ∧ key = computeShared C v privateValue p

/-- An engine, with how many exponents each call has been given so far, and the number of the one that its key was
computed with. -/
structure Dated where
  engine : VoipEngine := {}
  given : ℤ → ℕ := fun _ => 0
  keyedWith : ℤ → ℕ := fun _ => 0

/-- The call that an operation gives an exponent: `BindOutgoingCall` does with its session, and `CreateIncomingDh`. -/
def givenExponent (e : VoipEngine) : DhOperation → Option ℤ
  | .bindOutgoingCall randomId callId =>
    if 0 < callId ∧ (e.outgoingByRandom randomId).isSome = true then some callId else none
  | .createIncomingDh callId g p _ =>
    match validateDhConfig g p, e.calls callId with
    | .ok _, some s => if s.peerGAHash = [] then none else some callId
    | _, _ => none
  | _ => none

def Dated.step (t : Dated) (op : DhOperation) : Dated where
  engine := t.engine.apply C op
  given := (givenExponent t.engine op).elim t.given fun c => Function.update t.given c (t.given c + 1)
  keyedWith := (keyComputed C t.engine op).elim t.keyedWith fun k => Function.update t.keyedWith k.1 (t.given k.1)

theorem Dated.step_given (t : Dated) (op : DhOperation) : (t.step C op).given =
    (givenExponent t.engine op).elim t.given fun c => Function.update t.given c (t.given c + 1) := rfl

theorem Dated.step_keyedWith (t : Dated) (op : DhOperation) : (t.step C op).keyedWith =
    (keyComputed C t.engine op).elim t.keyedWith fun k => Function.update t.keyedWith k.1 (t.given k.1) := rfl

/-- A key that is ready is one of the session's exponent and prime, has its fingerprint, and was computed with the last
exponent that the call was given. -/
def CurrentSession (s : DhSession) (given keyedWith : ℕ) : Prop :=
  s.sharedReady = true → ComputableWith C s.sharedKey s.privateValue s.p ∧
    s.keyFingerprint = fingerprintForKey C s.sharedKey ∧ keyedWith = given

/-- **Every call that is ready has a current key.** -/
def Current (t : Dated) : Prop :=
  ∀ callId s, t.engine.calls callId = some s → CurrentSession C s (t.given callId) (t.keyedWith callId)

/-- The condition on an operation where it is called: `CreateIncomingDh` does not replace the exponent of a call that is
ready. -/
def KeepsExponent (e : VoipEngine) : DhOperation → Prop
  | .createIncomingDh callId g p _ =>
    validateDhConfig g p = .ok () → ∀ s, e.calls callId = some s → s.peerGAHash ≠ [] → s.sharedReady = false
  | _ => True

/-- The sessions without a call have no key. -/
def OutgoingUnbound (e : VoipEngine) : Prop := ∀ randomId s, e.outgoingByRandom randomId = some s → Unbound s

variable {C} {e : VoipEngine} {t : Dated} {op : DhOperation} {c : ℤ} {v : Option DhSession} {k : Option KeyInput}

theorem outgoingUnbound_apply (h : OutgoingUnbound e) (op : DhOperation) : OutgoingUnbound (e.apply C op) :=
  outgoing_step (t := { engine := e }) h op

theorem apply_calls (e : VoipEngine) (op : DhOperation) :
    ((e.apply C op).calls = e.calls ∧ ∀ c v k, ¬ CallChange C { engine := e } op c v k) ∨
      ∃ c v k, CallChange C { engine := e } op c v k ∧ (e.apply C op).calls = Function.update e.calls c v := by
  rcases effect (C := C) { engine := e } op with ⟨hcalls, -, hrefused⟩ | ⟨c, v, k, hchange, hcalls, -⟩
  · exact .inl ⟨hcalls, hrefused⟩
  · exact .inr ⟨c, v, k, hchange, hcalls⟩

theorem callChange_unique {c' : ℤ} {v' : Option DhSession} {k' : Option KeyInput}
    (h : CallChange C { engine := e } op c v k) (h' : CallChange C { engine := e } op c' v' k') : c' = c ∧ v' = v := by
  cases h <;> cases h' <;> simp_all

theorem apply_calls_eq (h : CallChange C { engine := e } op c v k) :
    (e.apply C op).calls = Function.update e.calls c v := by
  rcases apply_calls (C := C) e op with ⟨-, hrefused⟩ | ⟨c', v', k', h', hcalls⟩
  · exact absurd h (hrefused c v k)
  · obtain ⟨rfl, rfl⟩ := callChange_unique h h'
    exact hcalls

theorem call_of_change (h : CallChange C { engine := e } op c v k) : (e.apply C op).calls c = v := by
  rw [apply_calls_eq h, Function.update_self]

/-! ### The dates -/

theorem callChange_of_givenExponent (h : givenExponent e op = some c) : ∃ v k, CallChange C { engine := e } op c v k := by
  cases op with
  | bindOutgoingCall randomId callId =>
    rw [givenExponent] at h
    split_ifs at h with hbinds
    obtain rfl := Option.some.inj h
    obtain ⟨s, hs⟩ := Option.isSome_iff_exists.1 hbinds.2
    exact ⟨_, _, .bindOutgoingCall hbinds.1 hs⟩
  | createIncomingDh callId g p draws =>
    simp only [givenExponent] at h
    split at h
    next s hconfig hs =>
      split_ifs at h with hhash
      obtain rfl := Option.some.inj h
      exact ⟨_, _, .createIncomingDh hconfig hs hhash⟩
    next => cases h
  | _ => cases h

theorem callChange_of_keyComputed {input : KeyInput} (h : keyComputed C e op = some (c, input)) :
    ∃ v k, CallChange C { engine := e } op c v k := by
  cases op with
  | acceptPeerGB callId gB =>
    obtain ⟨s, hs, hkey⟩ := Option.bind_eq_some_iff.1 h
    cases haccept : s.acceptPeerGB C gB with
    | error error =>
      rw [haccept] at hkey
      cases hkey
    | ok s' =>
      rw [haccept] at hkey
      cases hkey
      exact ⟨_, _, .acceptPeerGB hs haccept⟩
  | confirmPeerGAOrB callId gAOrB expectedFingerprint =>
    obtain ⟨s, hs, hkey⟩ := Option.bind_eq_some_iff.1 h
    cases hconfirm : s.confirmPeerGAOrB C gAOrB expectedFingerprint with
    | error error =>
      rw [hconfirm] at hkey
      cases hkey
    | ok s' =>
      rw [hconfirm] at hkey
      cases hkey
      exact ⟨_, _, .confirmPeerGAOrB hs hconfirm⟩
  | _ => cases h

theorem dates_of_refused (h : ∀ c v k, ¬ CallChange C { engine := t.engine } op c v k) :
    (t.step C op).given = t.given ∧ (t.step C op).keyedWith = t.keyedWith := by
  have hgiven : givenExponent t.engine op = none := by
    by_contra hsome
    obtain ⟨c, hc⟩ := Option.ne_none_iff_exists'.1 hsome
    obtain ⟨v, k, hchange⟩ := callChange_of_givenExponent (C := C) hc
    exact h c v k hchange
  have hkey : keyComputed C t.engine op = none := by
    by_contra hsome
    obtain ⟨⟨c, input⟩, hc⟩ := Option.ne_none_iff_exists'.1 hsome
    obtain ⟨v, k, hchange⟩ := callChange_of_keyComputed hc
    exact h c v k hchange
  exact ⟨by rw [Dated.step_given, hgiven, Option.elim_none], by rw [Dated.step_keyedWith, hkey, Option.elim_none]⟩

theorem dates_of_ne (h : CallChange C { engine := t.engine } op c v k) {id : ℤ} (hid : id ≠ c) :
    (t.step C op).given id = t.given id ∧ (t.step C op).keyedWith id = t.keyedWith id := by
  constructor
  · cases hgiven : givenExponent t.engine op with
    | none => rw [Dated.step_given, hgiven, Option.elim_none]
    | some c' =>
      obtain ⟨v', k', h'⟩ := callChange_of_givenExponent (C := C) hgiven
      obtain ⟨rfl, -⟩ := callChange_unique h h'
      rw [Dated.step_given, hgiven, Option.elim_some, Function.update_of_ne hid]
  · cases hkey : keyComputed C t.engine op with
    | none => rw [Dated.step_keyedWith, hkey, Option.elim_none]
    | some input =>
      obtain ⟨v', k', h'⟩ := callChange_of_keyComputed hkey
      obtain ⟨hc, -⟩ := callChange_unique h h'
      rw [Dated.step_keyedWith, hkey, Option.elim_some, Function.update_of_ne (hc ▸ hid)]

/-- The call of a new exponent gets a new date, and its key keeps the old one. -/
theorem dates_createIncomingDh (C : Crypto) (draws : ℕ → Draw) {g : ℤ} {p : Bytes} {s : DhSession}
    (hconfig : validateDhConfig g p = .ok ()) (hs : t.engine.calls c = some s) (hhash : s.peerGAHash ≠ []) :
    (t.step C (.createIncomingDh c g p draws)).given c = t.given c + 1 ∧
      (t.step C (.createIncomingDh c g p draws)).keyedWith c = t.keyedWith c := by
  have hgiven : givenExponent t.engine (.createIncomingDh c g p draws) = some c := by
    simp only [givenExponent, hconfig, hs, if_neg hhash]
  exact ⟨by rw [Dated.step_given, hgiven, Option.elim_some, Function.update_self], rfl⟩

theorem dates_of_keyComputed {input : KeyInput} (h : keyComputed C t.engine op = some (c, input))
    (hgiven : givenExponent t.engine op = none) : (t.step C op).keyedWith c = (t.step C op).given c := by
  rw [Dated.step_keyedWith, Dated.step_given, h, hgiven, Option.elim_some, Option.elim_none, Function.update_self]

/-! ### One step -/

theorem currentSession_shareKey {s : DhSession} {peerPublic : Bytes} {given keyedWith : ℕ}
    (h : validatePublicValue peerPublic s.p = .ok ()) (hdate : keyedWith = given) :
    CurrentSession C (s.shareKey C peerPublic) given keyedWith :=
  fun _ => ⟨⟨peerPublic, h, rfl⟩, rfl, hdate⟩

/-- A change leaves a current key exactly when the operation meets its condition. -/
theorem currentSession_of_callChange (hunbound : OutgoingUnbound t.engine) (h : Current C t)
    (hchange : CallChange C { engine := t.engine } op c v k) :
    (∀ s, v = some s → CurrentSession C s ((t.step C op).given c) ((t.step C op).keyedWith c)) ↔
      KeepsExponent t.engine op := by
  cases hchange with
  | bindOutgoingCall hid hs =>
    refine iff_of_true ?_ trivial
    rintro s ⟨⟩ hready
    rw [(hunbound _ _ hs).2.1] at hready
    cases hready
  | registerIncomingGAHash hid hlen =>
    refine iff_of_true ?_ trivial
    rintro s ⟨⟩ hready
    cases hs : t.engine.calls c with
    | none =>
      rw [hs] at hready
      cases hready
    | some s =>
      rw [hs] at hready
      simp only [Option.getD_some]
      exact h c s hs hready
  | @createIncomingDh _ g p draws s hconfig hs hhash =>
    obtain ⟨hgiven, hkeyed⟩ := dates_createIncomingDh C draws hconfig hs hhash
    constructor
    · intro hcurrent _ s₁ hs₁ _
      obtain rfl : s = s₁ := Option.some.inj (hs.symm.trans hs₁)
      by_contra hnot
      have hready : s.sharedReady = true := by simpa using hnot
      -- the key keeps the date of the exponent that was replaced
      have hnew := (hcurrent _ rfl hready).2.2
      have hold := (h c s hs hready).2.2
      rw [hgiven, hkeyed] at hnew
      omega
    · rintro hkeeps s₁ ⟨⟩ hready
      have hfalse : s.sharedReady = false := hkeeps hconfig s hs hhash
      have hready' : s.sharedReady = true := hready
      rw [hfalse] at hready'
      cases hready'
  | @acceptPeerGB _ gB s s' hs haccept =>
    refine iff_of_true ?_ trivial
    have hkey : keyComputed C t.engine (.acceptPeerGB c gB)
        = some (c, { peerPublic := gB, privateValue := s.privateValue, p := s.p }) := by
      rw [keyComputed, hs, Option.bind_some, haccept]
    rintro s₁ ⟨⟩
    obtain ⟨hvalid, rfl⟩ := DhSession.acceptPeerGB_eq_ok_iff.1 haccept
    exact currentSession_shareKey hvalid (dates_of_keyComputed hkey rfl)
  | @confirmPeerGAOrB _ gAOrB expectedFingerprint s s' hs hconfirm =>
    refine iff_of_true ?_ trivial
    have hkey : keyComputed C t.engine (.confirmPeerGAOrB c gAOrB expectedFingerprint)
        = some (c, { peerPublic := gAOrB, privateValue := s.privateValue, p := s.p }) := by
      rw [keyComputed, hs, Option.bind_some, hconfirm]
    rintro s₁ ⟨⟩
    obtain ⟨-, hvalid, rfl⟩ := DhSession.of_confirmPeerGAOrB hconfirm
    exact currentSession_shareKey hvalid (dates_of_keyComputed hkey rfl)
  | dropCall =>
    refine iff_of_true ?_ trivial
    rintro s ⟨⟩

theorem keepsExponent_of_refused (h : ∀ c v k, ¬ CallChange C { engine := e } op c v k) : KeepsExponent e op := by
  cases op with
  | createIncomingDh callId g p draws =>
    intro hconfig s hs hhash
    exact absurd (.createIncomingDh hconfig hs hhash) (h _ _ _)
  | _ => trivial

theorem current_step_iff (hunbound : OutgoingUnbound t.engine) (h : Current C t) (op : DhOperation) :
    Current C (t.step C op) ↔ KeepsExponent t.engine op := by
  rcases apply_calls (C := C) t.engine op with ⟨hcalls, hrefused⟩ | ⟨c, v, k, hchange, hcalls⟩
  · refine iff_of_true ?_ (keepsExponent_of_refused hrefused)
    obtain ⟨hgiven, hkeyed⟩ := dates_of_refused hrefused
    intro callId s hs
    rw [hgiven, hkeyed]
    exact h callId s (hcalls ▸ hs)
  · rw [← currentSession_of_callChange hunbound h hchange]
    constructor
    · intro hall s hs
      exact hall c s ((call_of_change hchange).trans hs)
    · intro hnew callId s hs
      by_cases hid : callId = c
      · subst hid
        exact hnew s ((call_of_change hchange).symm.trans hs)
      · obtain ⟨hgiven, hkeyed⟩ := dates_of_ne hchange hid
        have hs' : t.engine.calls callId = some s := by
          rw [← hs, Dated.step, hcalls, Function.update_of_ne hid]
        rw [hgiven, hkeyed]
        exact h callId s hs'

/-! ### Runs -/

variable (C) in
/-- **The key of every call that is ready is current in exactly the runs in which `CreateIncomingDh` never replaces the
exponent of a call that is ready**, for every sequence of operations on a new engine. -/
theorem current_iff (ops : List DhOperation) :
    (∀ pre, pre <+: ops → Current C (Run.run (Dated.step C) {} pre)) ↔
      Run.Guarded (Dated.step C) (fun t op => KeepsExponent t.engine op) {} ops := by
  have hinv : ∀ (t : Dated) op, OutgoingUnbound t.engine → OutgoingUnbound (t.step C op).engine :=
    fun _ op h => outgoingUnbound_apply h op
  have hstep : ∀ (t : Dated) op, OutgoingUnbound t.engine → Current C t →
      (Current C (t.step C op) ↔ KeepsExponent t.engine op) :=
    fun _ op hunbound h => current_step_iff hunbound h op
  refine Run.reached_iff_guarded hinv hstep ops ?_ ?_
  · intro randomId s hs
    cases hs
  · intro callId s hs
    cases hs

theorem engine_dated (ops : List DhOperation) :
    (Run.run (Dated.step C) {} ops).engine = Run.run (VoipEngine.apply C) {} ops := by
  induction ops using List.reverseRecOn with
  | nil => rfl
  | append_singleton ops op ih =>
    rw [Run.run_concat, Run.run_concat, ← ih]
    rfl

/-! ### An exponent drawn twice -/

/-- The hashes at the values that the run below reaches. -/
def redrawnCrypto : Crypto where
  sha256 msg := toBE 32 <|
    ((([(2, 0x330f13889983d473f51a237d8fc2816c9c8860a5aaa085304e9e7f362c64d956),
      (9, 0xd701281485674f7fe8d655b7195eb1c4eef8fcece8ebcad800a7d7e99d512b76),
      (27, 0xf38b04c316f0e65e9a6c35609aedd8b2451125e4fca0b61e9497915aa0451855)] : List (ℕ × ℕ)).lookup
        (ofBE msg)).getD 0)
  sha1 msg := toBE 20 <| ((([(8, 0xbd766a376eaf34f50df5023b21d7d0e572d67ad1)] : List (ℕ × ℕ)).lookup (ofBE msg)).getD 0)
  modPow b e m := b ^ e % m

/-- The callee draws the exponent 3 and confirms the value 2; then it draws the exponent 2. -/
def redrawnOps : List DhOperation :=
  [.registerIncomingGAHash 1 (redrawnCrypto.sha256 (toBE kDhBytes 2)),
    .createIncomingDh 1 3 samplePrime (smallDraws 3),
    .confirmPeerGAOrB 1 (toBE kDhBytes 2) 0,
    .createIncomingDh 1 3 samplePrime (smallDraws 2)]

/-- The modulus is divisible by 5, and 8 is no square modulo 5. -/
theorem not_computableWith_redrawn :
    ¬ ComputableWith redrawnCrypto (toBE kDhBytes 8) (toBE kDhBytes 2) samplePrime := by
  rintro ⟨v, -, hkey⟩
  have hdvd : 5 ∣ ofBE samplePrime := by decide +kernel
  have hpos : 0 < ofBE samplePrime := lt_trans (by omega) samplePrime_large
  have hprime : ofBE samplePrime < 256 ^ kDhBytes := by
    have := ofBE_lt samplePrime
    rwa [length_samplePrime] at this
  have hsquare : 8 = ofBE v ^ 2 % ofBE samplePrime := by
    have hmod : redrawnCrypto.modPow (ofBE v) 2 (ofBE samplePrime) = ofBE v ^ 2 % ofBE samplePrime := rfl
    rw [computeShared, ofBE_small (by omega), hmod] at hkey
    exact toBE_inj ((lt_trans (by omega) samplePrime_large).trans hprime) ((Nat.mod_lt _ hpos).trans hprime) hkey
  have hthree : ofBE v ^ 2 % 5 = 3 := by
    rw [← Nat.mod_mod_of_dvd _ hdvd, ← hsquare]
  have hfive : ∀ r < 5, r ^ 2 % 5 ≠ 3 := by decide
  rw [Nat.pow_mod] at hthree
  exact hfive _ (Nat.mod_lt _ (by omega)) hthree

theorem computeShared_redrawn :
    computeShared redrawnCrypto (toBE kDhBytes 2) (toBE kDhBytes 3) samplePrime = toBE kDhBytes 8 := by
  have hmod : redrawnCrypto.modPow 2 3 (ofBE samplePrime) = 2 ^ 3 % ofBE samplePrime := rfl
  rw [computeShared, ofBE_small (by omega), ofBE_small (by omega), hmod,
    Nat.mod_eq_of_lt (lt_trans (by omega) samplePrime_large)]
  rfl

theorem redrawn_session : ∃ s, (Run.run (VoipEngine.apply redrawnCrypto) {} redrawnOps).calls 1 = some s ∧
    s.sharedReady = true ∧ s.sharedKey = toBE kDhBytes 8 ∧ s.privateValue = toBE kDhBytes 2 ∧ s.p = samplePrime := by
  have hconfig : validateDhConfig 3 samplePrime = .ok () := samplePrime_config (by decide)
  have hlen : (redrawnCrypto.sha256 (toBE kDhBytes 2)).length = kSha256DigestSize := length_toBE ..
  have hne : redrawnCrypto.sha256 (toBE kDhBytes 2) ≠ [] := List.ne_nil_of_length_pos (by rw [hlen]; decide)
  have hvalid : validatePublicValue (toBE kDhBytes 2) samplePrime = .ok () :=
    validatePublicValue_small (by omega) (by omega) length_samplePrime (lt_trans (by omega) samplePrime_large)
  have hpick (n : ℕ) (hn : 1 < n) (hlt : n < 256) : pickPrivateExponent samplePrime (smallDraws n) = toBE kDhBytes n :=
    pickPrivateExponent_small hn hlt (lt_trans hlt samplePrime_large)
  obtain ⟨s₁, hs₁, hhash⟩ : ∃ s, (VoipEngine.apply redrawnCrypto {}
      (.registerIncomingGAHash 1 (redrawnCrypto.sha256 (toBE kDhBytes 2)))).calls 1 = some s ∧
        s.peerGAHash = redrawnCrypto.sha256 (toBE kDhBytes 2) :=
    ⟨_, call_of_change (.registerIncomingGAHash Int.one_pos hlen), rfl⟩
  rw [redrawnOps, Run.run_cons]
  generalize VoipEngine.apply redrawnCrypto {} _ = e₁ at hs₁ ⊢
  obtain ⟨s₂, hs₂, hp, hprivate, hhash₂⟩ : ∃ s,
      (e₁.apply redrawnCrypto (.createIncomingDh 1 3 samplePrime (smallDraws 3))).calls 1 = some s ∧
        s.p = samplePrime ∧ s.privateValue = toBE kDhBytes 3 ∧
        s.peerGAHash = redrawnCrypto.sha256 (toBE kDhBytes 2) := by
    refine ⟨_, call_of_change (.createIncomingDh hconfig hs₁ (by rw [hhash]; exact hne)), ?_, ?_, hhash⟩
    · simp only [DhSession.draw]
    · simp only [DhSession.draw]
      exact hpick 3 (by omega) (by omega)
  rw [Run.run_cons]
  generalize e₁.apply redrawnCrypto _ = e₂ at hs₂ ⊢
  have hconfirm : s₂.confirmPeerGAOrB redrawnCrypto (toBE kDhBytes 2) 0
      = .ok (s₂.shareKey redrawnCrypto (toBE kDhBytes 2)) := by
    rw [DhSession.confirmPeerGAOrB_committed hhash₂ (.inl rfl), hp, hvalid]
  have hs₃ := call_of_change (.confirmPeerGAOrB hs₂ hconfirm)
  rw [Run.run_cons, Run.run_cons, Run.run_nil]
  generalize e₂.apply redrawnCrypto _ = e₃ at hs₃ ⊢
  have hkey : (s₂.shareKey redrawnCrypto (toBE kDhBytes 2)).sharedKey = toBE kDhBytes 8 := by
    unfold DhSession.shareKey
    rw [hprivate, hp]
    exact computeShared_redrawn
  have hne₃ : (s₂.shareKey redrawnCrypto (toBE kDhBytes 2)).peerGAHash ≠ [] := by
    unfold DhSession.shareKey
    rw [hhash₂]
    exact hne
  refine ⟨_, call_of_change (.createIncomingDh hconfig hs₃ hne₃), ?_, ?_, ?_, ?_⟩
  · simp only [DhSession.draw, DhSession.shareKey]
  · simp only [DhSession.draw]
    exact hkey
  · simp only [DhSession.draw]
    exact hpick 2 (by omega) (by omega)
  · simp only [DhSession.draw]

/-- **A key of an exponent that was replaced.** -/
theorem redrawn_not_current : ¬ Current redrawnCrypto (Run.run (Dated.step redrawnCrypto) {} redrawnOps) := by
  intro hcurrent
  obtain ⟨s, hs, hready, hkey, hprivate, hp⟩ := redrawn_session
  have hdated : (Run.run (Dated.step redrawnCrypto) {} redrawnOps).engine.calls 1 = some s := by
    rw [engine_dated]
    exact hs
  have hcomputable := (hcurrent 1 s hdated hready).1
  rw [hkey, hprivate, hp] at hcomputable
  exact not_computableWith_redrawn hcomputable

end VianiumVoip.Engine
