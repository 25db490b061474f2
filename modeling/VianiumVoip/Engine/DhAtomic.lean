import VianiumVoip.Lib.Fallible
import VianiumVoip.Engine.Signaling
import VianiumVoip.Engine.KeyAgreement

/-!
# A refused key exchange leaves no trace

The six operations of the key exchange once more, statement by statement: every access to `m_calls`,
`m_outgoingByRandom` and `m_droppedCallIds` is a step of its own, and an error returns from where it stands.  A key may
have been computed by then, into a copy of the session; the copy is stored behind the last check.
-/

namespace VianiumVoip.Engine

open VianiumVoip.Lib

/-- A piece of an operation on the engine. -/
abbrev EngineAction : Type → Type := Fallible VoipError SignalingEngine

namespace EngineAction

open Fallible

/-! ### The accesses -/

/-- `m_calls.find(callId)`, and the copy of what it finds. -/
def findCall (callId : ℤ) (message : String) : EngineAction CallSession := do
  let e ← get
  match e.calls callId with
  | none => throw (invalid message)
  | some session => pure session

/-- `m_outgoingByRandom.find(randomId)`, and the copy of what it finds. -/
def findOutgoing (randomId : ℤ) (message : String) : EngineAction CallSession := do
  let e ← get
  match e.outgoingByRandom randomId with
  | none => throw (invalid message)
  | some session => pure session

/-- The session of a call, a new one if there is none. -/
def findOrNew (callId : ℤ) : EngineAction CallSession := do
  let e ← get
  pure ((e.calls callId).getD {})

/-- `m_calls[callId] = session` -/
def putCall (callId : ℤ) (session : CallSession) : EngineAction Unit := modify fun e => e.storeCall callId session

/-- `m_outgoingByRandom[randomId] = session` -/
def putOutgoing (randomId : ℤ) (session : CallSession) : EngineAction Unit :=
  modify fun e => { e with outgoingByRandom := Function.update e.outgoingByRandom randomId (some session) }

/-- `m_outgoingByRandom.erase(it)` -/
def eraseOutgoing (randomId : ℤ) : EngineAction Unit :=
  modify fun e => { e with outgoingByRandom := Function.update e.outgoingByRandom randomId none }

/-- `m_droppedCallIds.erase(callId)` -/
def eraseDropped (callId : ℤ) : EngineAction Unit :=
  modify fun e => { e with droppedCallIds := e.droppedCallIds.erase callId }

/-! ### The operations -/

section

variable (C : Crypto)

def createOutgoingDh (randomId g : ℤ) (p : Bytes) (draws : ℕ → Draw) : EngineAction VoipDhMaterial := do
  ofExcept (validateDhConfig g p)
  let session : CallSession := { toDhSession := DhSession.draw C { randomId := randomId } g p draws }
  let out := { publicValue := session.publicValue, publicHash := session.publicHash }
  putOutgoing randomId session
  pure out

def bindOutgoingCall (randomId callId : ℤ) : EngineAction Unit := do
  failIf (callId ≤ 0) (invalid "callId must be positive")
  let session ← findOutgoing randomId "outgoing DH state not found for random_id"
  let session := { session with callId := callId }
  putCall callId session
  eraseDropped callId
  eraseOutgoing randomId

def registerIncomingGAHash (callId : ℤ) (gAHash : Bytes) : EngineAction Unit := do
  failIf (callId ≤ 0) (invalid "callId must be positive")
  failIf (gAHash.length ≠ kSha256DigestSize) (invalid "incoming g_a_hash must be exactly 32 bytes")
  let session ← findOrNew callId
  let session := { session with callId := callId, incoming := true, peerGAHash := gAHash }
  putCall callId session
  eraseDropped callId

def createIncomingDh (callId g : ℤ) (p : Bytes) (draws : ℕ → Draw) : EngineAction VoipDhMaterial := do
  ofExcept (validateDhConfig g p)
  let session ← findCall callId "incoming g_a_hash was not registered"
  failIf (session.peerGAHash = []) (invalid "incoming g_a_hash was not registered")
  let session := { session with toDhSession := { session.toDhSession.draw C g p draws with incoming := true } }
  let out := { publicValue := session.publicValue, publicHash := session.publicHash }
  putCall callId session
  pure out

def acceptPeerGB (callId : ℤ) (gB : Bytes) : EngineAction VoipDhMaterial := do
  let session ← findCall callId "call DH state not found"
  ofExcept (validatePublicValue gB session.p)
  let session := { session with toDhSession := session.toDhSession.shareKey C gB }
  let out :=
    { publicValue := session.publicValue
      publicHash := session.publicHash
      keyFingerprint := session.keyFingerprint
      keyHandle := handleForCall callId }
  putCall callId session
  pure out

def confirmPeerGAOrB (callId : ℤ) (gAOrB : Bytes) (expectedFingerprint : Int64) : EngineAction Unit := do
  let session ← findCall callId "call DH state not found"
  failIf (session.peerGAHash.length = kSha256DigestSize ∧ C.sha256 gAOrB ≠ session.peerGAHash)
    { kind := .fingerprintMismatch, message := "SHA256(g_a) does not match the caller's committed g_a_hash" }
  ofExcept (validatePublicValue gAOrB session.p)
  let session := { session with toDhSession := session.toDhSession.shareKey C gAOrB }
  -- the key is there, but not yet stored
  failIf (expectedFingerprint ≠ 0 ∧ session.keyFingerprint ≠ expectedFingerprint)
    { kind := .fingerprintMismatch, message := "shared-key fingerprint does not match phoneCall.key_fingerprint" }
  putCall callId session

end

/-! ### What reads and what does not fail -/

theorem readOnly_findCall (callId : ℤ) (message : String) : ReadOnly (findCall callId message) := by
  intro e
  unfold findCall
  rw [exec_bind_of_ok (exec_get e)]
  cases e.calls callId <;> rfl

theorem readOnly_findOutgoing (randomId : ℤ) (message : String) : ReadOnly (findOutgoing randomId message) := by
  intro e
  unfold findOutgoing
  rw [exec_bind_of_ok (exec_get e)]
  cases e.outgoingByRandom randomId <;> rfl

theorem readOnly_findOrNew (callId : ℤ) : ReadOnly (findOrNew callId) := fun _ => rfl

theorem neverFails_putCall (callId : ℤ) (session : CallSession) : NeverFails (putCall callId session) :=
  neverFails_modify _

theorem neverFails_eraseDropped (callId : ℤ) : NeverFails (eraseDropped callId) := neverFails_modify _

theorem atomic_putCall_pure (callId : ℤ) (session : CallSession) (out : VoipDhMaterial) :
    Atomic (putCall callId session >>= fun _ => pure out) :=
  ((neverFails_putCall callId session).bind fun _ => neverFails_pure out).atomic

end EngineAction

/-! ### The six operations -/

/-- The operations, by what they return. -/
inductive KeyOperation : Type → Type
  | createOutgoingDh (randomId g : ℤ) (p : Bytes) (draws : ℕ → Draw) : KeyOperation VoipDhMaterial
  | bindOutgoingCall (randomId callId : ℤ) : KeyOperation Unit
  | registerIncomingGAHash (callId : ℤ) (gAHash : Bytes) : KeyOperation Unit
  | createIncomingDh (callId g : ℤ) (p : Bytes) (draws : ℕ → Draw) : KeyOperation VoipDhMaterial
  | acceptPeerGB (callId : ℤ) (gB : Bytes) : KeyOperation VoipDhMaterial
  | confirmPeerGAOrB (callId : ℤ) (gAOrB : Bytes) (expectedFingerprint : Int64) : KeyOperation Unit

namespace KeyOperation

open Fallible EngineAction

variable (C : Crypto) {α : Type}

def action : KeyOperation α → EngineAction α
  | .createOutgoingDh randomId g p draws => EngineAction.createOutgoingDh C randomId g p draws
  | .bindOutgoingCall randomId callId => EngineAction.bindOutgoingCall randomId callId
  | .registerIncomingGAHash callId gAHash => EngineAction.registerIncomingGAHash callId gAHash
  | .createIncomingDh callId g p draws => EngineAction.createIncomingDh C callId g p draws
  | .acceptPeerGB callId gB => EngineAction.acceptPeerGB C callId gB
  | .confirmPeerGAOrB callId gAOrB expectedFingerprint => EngineAction.confirmPeerGAOrB C callId gAOrB expectedFingerprint

/-- The operation on the sessions of the key exchange alone. -/
def perform (e : VoipEngine) : KeyOperation α → VoipEngine × Except VoipError α
  | .createOutgoingDh randomId g p draws => e.createOutgoingDh C randomId g p draws
  | .bindOutgoingCall randomId callId => e.bindOutgoingCall randomId callId
  | .registerIncomingGAHash callId gAHash => e.registerIncomingGAHash callId gAHash
  | .createIncomingDh callId g p draws => e.createIncomingDh C callId g p draws
  | .acceptPeerGB callId gB => e.acceptPeerGB C callId gB
  | .confirmPeerGAOrB callId gAOrB expectedFingerprint => e.confirmPeerGAOrB C callId gAOrB expectedFingerprint

/-- Every exit of every operation stands in front of its first write. -/
theorem atomic_action (op : KeyOperation α) : Atomic (op.action C) := by
  cases op with
  | createOutgoingDh randomId g p draws =>
    refine (readOnly_ofExcept _).bind_atomic fun _ => NeverFails.atomic ?_
    exact NeverFails.bind (neverFails_modify _) fun _ => neverFails_pure _
  | bindOutgoingCall randomId callId =>
    refine (readOnly_failIf _ _).bind_atomic fun _ => ?_
    refine (readOnly_findOutgoing _ _).bind_atomic fun session => NeverFails.atomic ?_
    refine (neverFails_putCall _ _).bind fun _ => ?_
    exact (neverFails_eraseDropped _).bind fun _ => neverFails_modify _
  | registerIncomingGAHash callId gAHash =>
    refine (readOnly_failIf _ _).bind_atomic fun _ => ?_
    refine (readOnly_failIf _ _).bind_atomic fun _ => ?_
    refine (readOnly_findOrNew _).bind_atomic fun session => NeverFails.atomic ?_
    exact (neverFails_putCall _ _).bind fun _ => neverFails_eraseDropped _
  | createIncomingDh callId g p draws =>
    refine (readOnly_ofExcept _).bind_atomic fun _ => ?_
    refine (readOnly_findCall _ _).bind_atomic fun session => ?_
    refine (readOnly_failIf _ _).bind_atomic fun _ => ?_
    exact atomic_putCall_pure _ _ _
  | acceptPeerGB callId gB =>
    refine (readOnly_findCall _ _).bind_atomic fun session => ?_
    refine (readOnly_ofExcept _).bind_atomic fun _ => ?_
    exact atomic_putCall_pure _ _ _
  | confirmPeerGAOrB callId gAOrB expectedFingerprint =>
    refine (readOnly_findCall _ _).bind_atomic fun session => ?_
    refine (readOnly_failIf _ _).bind_atomic fun _ => ?_
    refine (readOnly_ofExcept _).bind_atomic fun _ => ?_
    refine (readOnly_failIf _ _).bind_atomic fun _ => ?_
    exact (neverFails_putCall _ _).atomic

/-! ### The operations on the key exchange alone -/

theorem exec_findCall (callId : ℤ) (message : String) (e : SignalingEngine) :
    exec (findCall callId message) e = ((e.calls callId).elim (.error (invalid message)) .ok, e) := by
  unfold findCall
  rw [exec_bind_of_ok (exec_get e)]
  cases e.calls callId <;> rfl

theorem exec_findOutgoing (randomId : ℤ) (message : String) (e : SignalingEngine) :
    exec (findOutgoing randomId message) e = ((e.outgoingByRandom randomId).elim (.error (invalid message)) .ok, e) := by
  unfold findOutgoing
  rw [exec_bind_of_ok (exec_get e)]
  cases e.outgoingByRandom randomId <;> rfl

/-- The statements of an operation, one after the other, do what the operation does to the key exchange. -/
theorem exec_action (op : KeyOperation α) (e : SignalingEngine) :
    (exec (op.action C) e).2.toVoipEngine = (op.perform C e.toVoipEngine).1 ∧
      (exec (op.action C) e).1 = (op.perform C e.toVoipEngine).2 := by
  have hcalls : ∀ callId, e.toVoipEngine.calls callId = (e.calls callId).map CallSession.toDhSession := fun _ => rfl
  have houtgoing : ∀ randomId, e.toVoipEngine.outgoingByRandom randomId
      = (e.outgoingByRandom randomId).map CallSession.toDhSession := fun _ => rfl
  cases op with
  | createOutgoingDh randomId g p draws =>
    simp only [action, perform, EngineAction.createOutgoingDh, VoipEngine.createOutgoingDh, exec_bind, exec_ofExcept]
    cases validateDhConfig g p with
    | error error => exact ⟨rfl, rfl⟩
    | ok _ =>
      simp only [putOutgoing, exec_modify, exec_pure, SignalingEngine.toVoipEngine, Function.comp_update, Option.map_some,
        and_self]
  | bindOutgoingCall randomId callId =>
    simp only [action, perform, EngineAction.bindOutgoingCall, VoipEngine.bindOutgoingCall, exec_bind, exec_failIf,
      exec_findOutgoing, houtgoing]
    split_ifs with hid
    · exact ⟨rfl, rfl⟩
    · dsimp only
      cases e.outgoingByRandom randomId with
      | none => exact ⟨rfl, rfl⟩
      | some session =>
        refine ⟨?_, rfl⟩
        simp only [Option.elim_some, Option.map_some, putCall, eraseDropped, eraseOutgoing, exec_modify,
          SignalingEngine.toVoipEngine, SignalingEngine.storeCall, VoipEngine.storeCall, Function.comp_update,
          Option.map_none]
  | registerIncomingGAHash callId gAHash =>
    simp only [action, perform, EngineAction.registerIncomingGAHash, VoipEngine.registerIncomingGAHash, exec_bind,
      exec_failIf]
    by_cases hid : callId ≤ 0
    · simp only [if_pos hid, and_self]
    by_cases hlen : gAHash.length ≠ kSha256DigestSize
    · simp only [if_neg hid, if_pos hlen, and_self]
    simp only [if_neg hid, if_neg hlen, findOrNew, exec_bind, exec_get, exec_pure, putCall, eraseDropped, exec_modify]
    refine ⟨?_, trivial⟩
    cases hsession : e.calls callId with
    | none =>
      simp [hsession, SignalingEngine.toVoipEngine, SignalingEngine.storeCall, VoipEngine.storeCall,
        Function.comp_update]
    | some session =>
      simp [hsession, SignalingEngine.toVoipEngine, SignalingEngine.storeCall, VoipEngine.storeCall,
        Function.comp_update]
  | createIncomingDh callId g p draws =>
    simp only [action, perform, EngineAction.createIncomingDh, VoipEngine.createIncomingDh, exec_bind, exec_ofExcept,
      exec_findCall, hcalls]
    cases validateDhConfig g p with
    | error error => exact ⟨rfl, rfl⟩
    | ok _ =>
      dsimp only
      cases e.calls callId with
      | none => exact ⟨rfl, rfl⟩
      | some session =>
        simp only [Option.elim_some, Option.map_some, exec_failIf]
        split_ifs with hhash
        · exact ⟨rfl, rfl⟩
        · exact ⟨SignalingEngine.toVoipEngine_storeCall _, rfl⟩
  | acceptPeerGB callId gB =>
    simp only [action, perform, EngineAction.acceptPeerGB, VoipEngine.acceptPeerGB, exec_bind, exec_findCall, hcalls]
    cases e.calls callId with
    | none => exact ⟨rfl, rfl⟩
    | some session =>
      simp only [Option.elim_some, Option.map_some, exec_ofExcept, DhSession.acceptPeerGB]
      cases validatePublicValue gB session.p with
      | error error => exact ⟨rfl, rfl⟩
      | ok _ => exact ⟨SignalingEngine.toVoipEngine_storeCall _, rfl⟩
  | confirmPeerGAOrB callId gAOrB expectedFingerprint =>
    simp only [action, perform, EngineAction.confirmPeerGAOrB, VoipEngine.confirmPeerGAOrB, exec_bind, exec_findCall,
      hcalls]
    cases e.calls callId with
    | none => exact ⟨rfl, rfl⟩
    | some session =>
      simp only [Option.elim_some, Option.map_some, exec_failIf, exec_ofExcept, DhSession.confirmPeerGAOrB]
      by_cases hhash : session.peerGAHash.length = kSha256DigestSize ∧ C.sha256 gAOrB ≠ session.peerGAHash
      · simp only [if_pos hhash, and_self]
      simp only [if_neg hhash]
      cases validatePublicValue gAOrB session.p with
      | error error => exact ⟨rfl, rfl⟩
      | ok _ =>
        dsimp only
        split_ifs with hfingerprint
        · exact ⟨rfl, rfl⟩
        · exact ⟨SignalingEngine.toVoipEngine_storeCall _, rfl⟩

/-! ### Atomicity -/

/-- **An operation of the key exchange that returns an error leaves the calls, the outgoing calls and the dropped calls
exactly as they were, whatever the engine and the arguments.** -/
theorem unchanged_of_error (op : KeyOperation α) (e : SignalingEngine) (error : VoipError)
    (h : (exec (op.action C) e).1 = .error error) : (exec (op.action C) e).2 = e :=
  atomic_action C op e error h

theorem error_of_fingerprint {e : SignalingEngine} {callId : ℤ} {session : CallSession} {gAOrB : Bytes}
    {expectedFingerprint : Int64} (hcall : e.calls callId = some session) (hhash : session.peerGAHash = [])
    (hvalid : validatePublicValue gAOrB session.p = .ok ()) (hexpected : expectedFingerprint ≠ 0)
    (hfingerprint : fingerprintForKey C (computeShared C gAOrB session.privateValue session.p) ≠ expectedFingerprint) :
    (exec ((confirmPeerGAOrB callId gAOrB expectedFingerprint).action C) e).1 = .error
      { kind := .fingerprintMismatch, message := "shared-key fingerprint does not match phoneCall.key_fingerprint" } := by
  have hcopied : e.toVoipEngine.calls callId = some session.toDhSession := by
    change (e.calls callId).map CallSession.toDhSession = _
    rw [hcall, Option.map_some]
  have hnoHash : ¬ (session.peerGAHash.length = kSha256DigestSize ∧ C.sha256 gAOrB ≠ session.peerGAHash) := by
    rw [hhash]
    exact fun hother => absurd hother.1 (by decide)
  have hrefused : session.toDhSession.confirmPeerGAOrB C gAOrB expectedFingerprint = .error
      { kind := .fingerprintMismatch
        message := "shared-key fingerprint does not match phoneCall.key_fingerprint" } := by
    unfold DhSession.confirmPeerGAOrB
    rw [if_neg hnoHash, hvalid]
    exact if_pos ⟨hexpected, hfingerprint⟩
  rw [(exec_action C _ e).2, perform, VoipEngine.confirmPeerGAOrB, hcopied]
  dsimp only
  rw [hrefused]

/-- A call that waits for the value of its peer. -/
def waitingEngine : SignalingEngine where
  calls := Function.update (fun _ => none) 1
    (some { callId := 1, g := 2, p := samplePrime, privateValue := toBE kDhBytes 2, publicValue := toBE kDhBytes 4 })

/-- The value of the peer is fine and the key is computed, but its fingerprint is not the one expected. -/
theorem unchanged_wrong_fingerprint :
    (exec ((confirmPeerGAOrB 1 (toBE kDhBytes 4) 7).action sampleCrypto) waitingEngine).2 = waitingEngine := by
  have hcall : waitingEngine.calls 1 = some
      { callId := 1, g := 2, p := samplePrime, privateValue := toBE kDhBytes 2, publicValue := toBE kDhBytes 4 } := rfl
  have hvalid : validatePublicValue (toBE kDhBytes 4) samplePrime = .ok () :=
    validatePublicValue_small (by omega) (by omega) length_samplePrime (lt_trans (by omega) samplePrime_large)
  have hshared : computeShared sampleCrypto (toBE kDhBytes 4) (toBE kDhBytes 2) samplePrime = toBE kDhBytes 16 := by
    have hmod : sampleCrypto.modPow 4 2 (ofBE samplePrime) = 4 ^ 2 % ofBE samplePrime := rfl
    rw [computeShared, ofBE_small (by omega), ofBE_small (by omega), hmod,
      Nat.mod_eq_of_lt (lt_trans (by omega) samplePrime_large)]
    exact congrArg (toBE kDhBytes) (show 4 ^ 2 = 16 by norm_num)
  have hsha1 : sampleCrypto.sha1 (toBE kDhBytes 16) = toBE 20 0x4f73f8815d5ffb2004c18d6b2d408d0f98246c95 := by
    unfold sampleCrypto
    dsimp only
    rw [ofBE_small (by omega)]
    rfl
  have hfingerprint : fingerprintForKey sampleCrypto
      (computeShared sampleCrypto (toBE kDhBytes 4) (toBE kDhBytes 2) samplePrime) ≠ 7 := by
    rw [hshared, fingerprintForKey, hsha1]
    decide +kernel
  refine unchanged_of_error sampleCrypto (confirmPeerGAOrB 1 (toBE kDhBytes 4) 7) waitingEngine
    { kind := .fingerprintMismatch, message := "shared-key fingerprint does not match phoneCall.key_fingerprint" } ?_
  exact error_of_fingerprint sampleCrypto hcall rfl hvalid (by decide) hfingerprint

end KeyOperation

end VianiumVoip.Engine
