import VianiumVoip.Lib.Run
import VianiumVoip.Lib.Bytes
import Mathlib.Data.Finset.Basic
import Mathlib.Data.Int.Notation
import Mathlib.Logic.Function.Basic

/-!
# The key exchange of a call

The Diffie-Hellman part of `VoipEngine`: the sessions of the calls, and the seven operations on them.  The caller
draws `g_a` in `CreateOutgoingDh`, is given a call id in `BindOutgoingCall` and computes the key from `g_b` in
`AcceptPeerGB`.  The callee is given the hash of `g_a` in `RegisterIncomingGAHash`, draws `g_b` in `CreateIncomingDh`
and computes the key from `g_a` in `ConfirmPeerGAOrB`.  Nothing ties an operation to the role of its call.
-/

namespace VianiumVoip.Engine

open VianiumVoip.Lib

/-- The hashes and the `BigNum` of `vianium::crypto`. -/
structure Crypto where
  sha256 : Bytes → Bytes
  sha1 : Bytes → Bytes
  /-- `BigNum::ModPow`: base, exponent, modulus. -/
  modPow : ℕ → ℕ → ℕ → ℕ

inductive VoipErrorKind
  | none
  | unavailable
  | invalidArgument
  | cryptoUnavailable
  | fingerprintMismatch
  | transportFailed
  | codecFailed
  | audioDeviceFailed
  | internalError
  | handshakeTimeout
  deriving DecidableEq, Repr

structure VoipError where
  kind : VoipErrorKind := .none
  code : ℤ := 0
  message : String := ""
  deriving DecidableEq, Repr

def invalid (message : String) : VoipError := { kind := .invalidArgument, message := message }

/-- `VoipDhMaterial` without its error. -/
structure VoipDhMaterial where
  publicValue : Bytes := []
  publicHash : Bytes := []
  keyFingerprint : Int64 := 0
  keyHandle : String := ""
  deriving DecidableEq

structure DhSession where
  randomId : ℤ := 0
  callId : ℤ := 0
  g : ℤ := 0
  incoming : Bool := false
  sharedReady : Bool := false
  p : Bytes := []
  privateValue : Bytes := []
  publicValue : Bytes := []
  publicHash : Bytes := []
  peerGAHash : Bytes := []
  sharedKey : Bytes := []
  keyFingerprint : Int64 := 0
  deriving DecidableEq

def kDhBytes : ℕ := 256
def kSha256DigestSize : ℕ := 32

/-- What `GenerateRandom` fills a candidate for an exponent with. -/
abbrev Draw := { b : Bytes // b.length = kDhBytes }

def handleForCall (callId : ℤ) : String := "voip-call:" ++ toString callId

/-! ### Values -/

def isSupportedGenerator (g : ℤ) : Bool := 2 ≤ g ∧ g ≤ 7

def validateDhConfig (g : ℤ) (p : Bytes) : Except VoipError Unit :=
  if ¬ isSupportedGenerator g then .error (invalid "DH generator must be in Telegram range \x7b2..7\x7d")
  else if p.length ≠ kDhBytes then .error (invalid "DH prime must be exactly 256 bytes")
  -- fewer than 2048 bits, or even
  else if ofBE p < 2 ^ 2047 ∨ ofBE p % 2 = 0 then .error (invalid "DH prime failed structural validation")
  else .ok ()

def validatePublicValue (value p : Bytes) : Except VoipError Unit :=
  if p.length ≠ kDhBytes then .error (invalid "DH prime is missing for call state")
  else if value.length ≠ kDhBytes then .error (invalid "peer DH public value must be exactly 256 bytes")
  else if ofBE value ≤ 1 ∨ ofBE p ≤ ofBE value then
    .error (invalid "peer DH public value is outside valid range")
  else .ok ()

/-- The first of eight draws in range; 2 when there is none. -/
def pickPrivateExponent (p : Bytes) (draws : ℕ → Draw) : Bytes :=
  (((List.range 8).map fun attempt => (draws attempt).1).find? fun candidate =>
    1 < ofBE candidate ∧ ofBE candidate < ofBE p).getD (toBE kDhBytes 2)

variable (C : Crypto)

def computePublic (g : ℤ) (privateValue p : Bytes) : Bytes :=
  toBE kDhBytes (C.modPow (g % 2 ^ 32).toNat (ofBE privateValue) (ofBE p))

/-- Bytes 12 to 19 of the digest, the least significant first. -/
def fingerprintForKey (sharedKey : Bytes) : Int64 :=
  (UInt64.ofNat (ofBE (((C.sha1 sharedKey).drop 12).take 8).reverse)).toInt64

def computeShared (peerPublic privateValue p : Bytes) : Bytes :=
  toBE kDhBytes (C.modPow (ofBE peerPublic) (ofBE privateValue) (ofBE p))

/-! ### What the operations do to a session -/

namespace DhSession

/-- A key pair for the group is drawn. -/
def draw (session : DhSession) (g : ℤ) (p : Bytes) (draws : ℕ → Draw) : DhSession :=
  let privateValue := pickPrivateExponent p draws
  let publicValue := computePublic C g privateValue p
  { session with
    g := g
    p := p
    privateValue := privateValue
    publicValue := publicValue
    publicHash := C.sha256 publicValue }

/-- The shared key is computed from the public value of the peer. -/
def shareKey (session : DhSession) (peerPublic : Bytes) : DhSession :=
  let sharedKey := computeShared C peerPublic session.privateValue session.p
  { session with
    sharedKey := sharedKey
    keyFingerprint := fingerprintForKey C sharedKey
    sharedReady := true }

/-- The body of `AcceptPeerGB`. -/
def acceptPeerGB (session : DhSession) (gB : Bytes) : Except VoipError DhSession :=
  match validatePublicValue gB session.p with
  | .error error => .error error
  | .ok () => .ok (session.shareKey C gB)

/-- The body of `ConfirmPeerGAOrB`. -/
def confirmPeerGAOrB (session : DhSession) (gAOrB : Bytes) (expectedFingerprint : Int64) :
    Except VoipError DhSession :=
  if session.peerGAHash.length = kSha256DigestSize ∧ C.sha256 gAOrB ≠ session.peerGAHash then
    .error { kind := .fingerprintMismatch, message := "SHA256(g_a) does not match the caller's committed g_a_hash" }
  else
    match validatePublicValue gAOrB session.p with
    | .error error => .error error
    | .ok () =>
      let session := session.shareKey C gAOrB
      if expectedFingerprint ≠ 0 ∧ session.keyFingerprint ≠ expectedFingerprint then
        .error
          { kind := .fingerprintMismatch, message := "shared-key fingerprint does not match phoneCall.key_fingerprint" }
      else .ok session

variable {C} {session session' : DhSession} {peerPublic : Bytes}

theorem acceptPeerGB_eq_ok_iff :
    session.acceptPeerGB C peerPublic = .ok session' ↔
      validatePublicValue peerPublic session.p = .ok () ∧ session' = session.shareKey C peerPublic := by
  unfold acceptPeerGB
  cases validatePublicValue peerPublic session.p with
  | error error => simp
  | ok _ => simp [eq_comm]

/-- What `ConfirmPeerGAOrB` stores has passed the commitment, if there is one. -/
theorem of_confirmPeerGAOrB {expectedFingerprint : Int64}
    (h : session.confirmPeerGAOrB C peerPublic expectedFingerprint = .ok session') :
    (session.peerGAHash.length = kSha256DigestSize → C.sha256 peerPublic = session.peerGAHash) ∧
      validatePublicValue peerPublic session.p = .ok () ∧ session' = session.shareKey C peerPublic := by
  unfold confirmPeerGAOrB at h
  by_cases hhash : session.peerGAHash.length = kSha256DigestSize ∧ C.sha256 peerPublic ≠ session.peerGAHash
  · rw [if_pos hhash] at h
    cases h
  rw [if_neg hhash] at h
  cases hvalid : validatePublicValue peerPublic session.p with
  | error error =>
    rw [hvalid] at h
    cases h
  | ok _ =>
    rw [hvalid] at h
    simp only at h
    split_ifs at h with hfingerprint
    refine ⟨by tauto, rfl, ?_⟩
    exact (Except.ok.inj h).symm

end DhSession

/-! ### The operations -/

structure VoipEngine where
  outgoingByRandom : ℤ → Option DhSession := fun _ => none
  calls : ℤ → Option DhSession := fun _ => none
  droppedCallIds : Finset ℤ := ∅

namespace VoipEngine

/-- `m_calls[callId] = session` -/
def storeCall (e : VoipEngine) (callId : ℤ) (session : DhSession) : VoipEngine :=
  { e with calls := Function.update e.calls callId (some session) }

def createOutgoingDh (e : VoipEngine) (randomId g : ℤ) (p : Bytes) (draws : ℕ → Draw) :
    VoipEngine × Except VoipError VoipDhMaterial :=
  match validateDhConfig g p with
  | .error error => (e, .error error)
  | .ok () =>
    let session := DhSession.draw C { randomId := randomId } g p draws
    ({ e with outgoingByRandom := Function.update e.outgoingByRandom randomId (some session) },
      .ok { publicValue := session.publicValue, publicHash := session.publicHash })

def bindOutgoingCall (e : VoipEngine) (randomId callId : ℤ) : VoipEngine × Except VoipError Unit :=
  if callId ≤ 0 then (e, .error (invalid "callId must be positive"))
  else
    match e.outgoingByRandom randomId with
    | none => (e, .error (invalid "outgoing DH state not found for random_id"))
    | some session =>
      let e := e.storeCall callId { session with callId := callId }
      ({ e with
          droppedCallIds := e.droppedCallIds.erase callId
          outgoingByRandom := Function.update e.outgoingByRandom randomId none }, .ok ())

def registerIncomingGAHash (e : VoipEngine) (callId : ℤ) (gAHash : Bytes) : VoipEngine × Except VoipError Unit :=
  if callId ≤ 0 then (e, .error (invalid "callId must be positive"))
  else if gAHash.length ≠ kSha256DigestSize then
    (e, .error (invalid "incoming g_a_hash must be exactly 32 bytes"))
  else
    let session := (e.calls callId).getD {}
    let e := e.storeCall callId { session with callId := callId, incoming := true, peerGAHash := gAHash }
    ({ e with droppedCallIds := e.droppedCallIds.erase callId }, .ok ())

def createIncomingDh (e : VoipEngine) (callId g : ℤ) (p : Bytes) (draws : ℕ → Draw) :
    VoipEngine × Except VoipError VoipDhMaterial :=
  match validateDhConfig g p with
  | .error error => (e, .error error)
  | .ok () =>
    match e.calls callId with
    | none => (e, .error (invalid "incoming g_a_hash was not registered"))
    | some session =>
      if session.peerGAHash = [] then (e, .error (invalid "incoming g_a_hash was not registered"))
      else
        let session := { session.draw C g p draws with incoming := true }
        (e.storeCall callId session, .ok { publicValue := session.publicValue, publicHash := session.publicHash })

def acceptPeerGB (e : VoipEngine) (callId : ℤ) (gB : Bytes) : VoipEngine × Except VoipError VoipDhMaterial :=
  match e.calls callId with
  | none => (e, .error (invalid "call DH state not found"))
  | some session =>
    match session.acceptPeerGB C gB with
    | .error error => (e, .error error)
    | .ok session =>
      (e.storeCall callId session,
        .ok
          { publicValue := session.publicValue
            publicHash := session.publicHash
            keyFingerprint := session.keyFingerprint
            keyHandle := handleForCall callId })

def confirmPeerGAOrB (e : VoipEngine) (callId : ℤ) (gAOrB : Bytes) (expectedFingerprint : Int64) :
    VoipEngine × Except VoipError Unit :=
  match e.calls callId with
  | none => (e, .error (invalid "call DH state not found"))
  | some session =>
    match session.confirmPeerGAOrB C gAOrB expectedFingerprint with
    | .error error => (e, .error error)
    | .ok session => (e.storeCall callId session, .ok ())

/-- What `DropCall` does to the sessions. -/
def dropCall (e : VoipEngine) (callId : ℤ) : VoipEngine :=
  { e with
    calls := Function.update e.calls callId none
    droppedCallIds := insert callId e.droppedCallIds }

end VoipEngine

/-- The operations, with what the random source answers. -/
inductive DhOperation
  | createOutgoingDh (randomId g : ℤ) (p : Bytes) (draws : ℕ → Draw)
  | bindOutgoingCall (randomId callId : ℤ)
  | registerIncomingGAHash (callId : ℤ) (gAHash : Bytes)
  | createIncomingDh (callId g : ℤ) (p : Bytes) (draws : ℕ → Draw)
  | acceptPeerGB (callId : ℤ) (gB : Bytes)
  | confirmPeerGAOrB (callId : ℤ) (gAOrB : Bytes) (expectedFingerprint : Int64)
  | dropCall (callId : ℤ)

/-- The engine after an operation. -/
def VoipEngine.apply (e : VoipEngine) : DhOperation → VoipEngine
  | .createOutgoingDh randomId g p draws => (e.createOutgoingDh C randomId g p draws).1
  | .bindOutgoingCall randomId callId => (e.bindOutgoingCall randomId callId).1
  | .registerIncomingGAHash callId gAHash => (e.registerIncomingGAHash callId gAHash).1
  | .createIncomingDh callId g p draws => (e.createIncomingDh C callId g p draws).1
  | .acceptPeerGB callId gB => (e.acceptPeerGB C callId gB).1
  | .confirmPeerGAOrB callId gAOrB expectedFingerprint => (e.confirmPeerGAOrB C callId gAOrB expectedFingerprint).1
  | .dropCall callId => e.dropCall callId

end VianiumVoip.Engine
