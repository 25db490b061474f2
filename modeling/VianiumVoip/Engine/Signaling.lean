import VianiumVoip.Engine.Dh
import VianiumVoip.Tgcalls.Connection

/-!
# The signaling of a call

The sessions of the engine once more, with what the key exchange has no use for: the signaling packets that a call has
received, and those that wait for its media.  A packet goes straight to the tgcalls connection or to the media graph once
`StartMedia` has opened that way for its call; until then it is queued, and `StartMedia` takes the queue.

`VoipEngine` takes its lock for a part of an operation at a time.  A definition here is such a part: what an operation
does between taking the lock and giving it back.  Three operations of the key exchange have two of them, and compute in
between on a copy of the session.
-/

namespace VianiumVoip.Engine

open VianiumVoip.Lib VianiumVoip.Tgcalls

def kMaxPendingSignalingPackets : ℕ := 128
def kMaxPendingSignalingBytes : ℕ := 512 * 1024

/-- A signaling packet, numbered in the order in which the engine has taken the packets.  The code knows only the
bytes. -/
structure Packet where
  number : ℕ
  data : Bytes
  deriving DecidableEq

/-- A session with all its fields. -/
structure CallSession extends DhSession where
  nextLocalSequence : UInt32 := 1
  lastRemoteSequence : UInt32 := 0
  signalingPacketsReceived : UInt32 := 0
  signalingBytesReceived : UInt32 := 0
  signalingPacketsDropped : UInt32 := 0
  pendingSignalingPackets : List Packet := []
  deriving DecidableEq

def pendingSignalingBytes (queue : List Packet) : ℕ := (queue.map fun packet => packet.data.length).sum

/-- How many of the oldest packets have to go: the turns of the loop in `QueuePendingSignaling`. -/
def surplus : List Packet → ℕ
  | [] => 0
  | packet :: rest =>
    if kMaxPendingSignalingPackets < (packet :: rest).length
        ∨ kMaxPendingSignalingBytes < pendingSignalingBytes (packet :: rest) then surplus rest + 1
    else 0

theorem surplus_le_length (queue : List Packet) : surplus queue ≤ queue.length := by
  induction queue with
  | nil => exact Nat.le_refl 0
  | cons packet rest ih =>
    unfold surplus
    rw [List.length_cons]
    split_ifs <;> omega

/-- `QueuePendingSignaling`, with the packets that have gone. -/
def CallSession.queuePendingSignaling (session : CallSession) (packet : Packet) : CallSession × List Packet :=
  let queue := session.pendingSignalingPackets ++ [packet]
  ({ session with
      pendingSignalingPackets := queue.drop (surplus queue)
      signalingPacketsDropped := session.signalingPacketsDropped + UInt32.ofNat (surplus queue) },
    queue.take (surplus queue))

/-- A packet is counted. -/
def CallSession.count (session : CallSession) (packet : Packet) : CallSession :=
  { session with
    signalingPacketsReceived := session.signalingPacketsReceived + 1
    signalingBytesReceived := session.signalingBytesReceived + UInt32.ofNat packet.data.length }

/-! ### The key exchange on a copy -/

/-- The operations that compute on a copy of the session, with what the random source answers. -/
inductive CopyingOperation
  | createIncomingDh (callId g : ℤ) (p : Bytes) (draws : ℕ → Draw)
  | acceptPeerGB (callId : ℤ) (gB : Bytes)
  | confirmPeerGAOrB (callId : ℤ) (gAOrB : Bytes) (expectedFingerprint : Int64)

namespace CopyingOperation

def callId : CopyingOperation → ℤ
  | createIncomingDh callId .. => callId
  | acceptPeerGB callId .. => callId
  | confirmPeerGAOrB callId .. => callId

variable (C : Crypto)

/-- What the operation computes from what it finds in `m_calls`: the session that it writes back, or the error that it
returns. -/
def compute (op : CopyingOperation) (found : Option CallSession) : Except VoipError CallSession :=
  match op with
  | createIncomingDh _ g p draws =>
    match validateDhConfig g p with
    | .error error => .error error
    | .ok () =>
      match found with
      | none => .error (invalid "incoming g_a_hash was not registered")
      | some session =>
        if session.peerGAHash = [] then .error (invalid "incoming g_a_hash was not registered")
        else .ok { session with toDhSession := { session.toDhSession.draw C g p draws with incoming := true } }
  | acceptPeerGB _ gB =>
    match found with
    | none => .error (invalid "call DH state not found")
    | some session => (session.toDhSession.acceptPeerGB C gB).map fun dh => { session with toDhSession := dh }
  | confirmPeerGAOrB _ gAOrB expectedFingerprint =>
    match found with
    | none => .error (invalid "call DH state not found")
    | some session =>
      (session.toDhSession.confirmPeerGAOrB C gAOrB expectedFingerprint).map fun dh => { session with toDhSession := dh }

/-- The operation as one of the key exchange. -/
def toDhOperation : CopyingOperation → DhOperation
  | createIncomingDh callId g p draws => .createIncomingDh callId g p draws
  | acceptPeerGB callId gB => .acceptPeerGB callId gB
  | confirmPeerGAOrB callId gAOrB expectedFingerprint => .confirmPeerGAOrB callId gAOrB expectedFingerprint

end CopyingOperation

/-! ### The engine -/

/-- The connection that `m_tgcallsConnection` points to: which one it is, the call it was started for, and the key that
`HandleIncomingSignaling` needs. -/
structure HeldConnection where
  id : ℕ
  callId : ℤ
  sharedKey : Bytes
  deriving DecidableEq

/-- The error of `HandleIncomingSignaling`; a packet that it cannot read is no error. -/
def HeldConnection.handleIncomingSignaling (conn : HeldConnection) (data : Bytes) : Option VoipError :=
  if data = [] then some (invalid "empty signaling payload")
  else if conn.sharedKey.length ≠ kSharedKeySize then some (invalid "tgcalls connection has no shared key")
  else none

structure SignalingEngine where
  outgoingByRandom : ℤ → Option CallSession := fun _ => none
  calls : ℤ → Option CallSession := fun _ => none
  droppedCallIds : Finset ℤ := ∅
  /-- `m_tgcallsGraph` is bound. -/
  hasGraph : Bool := false
  tgcallsConnection : Option HeldConnection := none
  tgcallsCallId : ℤ := 0

/-- What `ReceiveSignalingData` has decided when it gives the lock back. -/
inductive Reception
  | refused (error : VoipError)
  /-- The call has been dropped. -/
  | ignored
  | queued (evicted : List Packet)
  | toConnection (conn : HeldConnection)
  | toGraph

/-- What a turn of the loop of `StartMedia` over the queue has found. -/
inductive GraphTurn
  | dropped
  | opened
  | drain (pending : List Packet)

namespace SignalingEngine

/-- `m_calls[callId] = session` -/
def storeCall (e : SignalingEngine) (callId : ℤ) (session : CallSession) : SignalingEngine :=
  { e with calls := Function.update e.calls callId (some session) }

@[simp] theorem storeCall_self (e : SignalingEngine) (callId : ℤ) (session : CallSession) :
    (e.storeCall callId session).calls callId = some session := Function.update_self ..

theorem storeCall_of_ne {e : SignalingEngine} {callId id : ℤ} {session : CallSession} (h : id ≠ callId) :
    (e.storeCall callId session).calls id = e.calls id := Function.update_of_ne h ..

@[simp] theorem storeCall_droppedCallIds (e : SignalingEngine) (callId : ℤ) (session : CallSession) :
    (e.storeCall callId session).droppedCallIds = e.droppedCallIds := rfl

section KeyExchange

variable (C : Crypto)

def createOutgoingDh (e : SignalingEngine) (randomId g : ℤ) (p : Bytes) (draws : ℕ → Draw) : SignalingEngine :=
  match validateDhConfig g p with
  | .error _ => e
  | .ok () =>
    let session : CallSession := { toDhSession := DhSession.draw C { randomId := randomId } g p draws }
    { e with outgoingByRandom := Function.update e.outgoingByRandom randomId (some session) }

def bindOutgoingCall (e : SignalingEngine) (randomId callId : ℤ) : SignalingEngine :=
  if callId ≤ 0 then e
  else
    match e.outgoingByRandom randomId with
    | none => e
    | some session =>
      let e := e.storeCall callId { session with callId := callId }
      { e with
        droppedCallIds := e.droppedCallIds.erase callId
        outgoingByRandom := Function.update e.outgoingByRandom randomId none }

def registerIncomingGAHash (e : SignalingEngine) (callId : ℤ) (gAHash : Bytes) : SignalingEngine :=
  if callId ≤ 0 then e
  else if gAHash.length ≠ kSha256DigestSize then e
  else
    let session := (e.calls callId).getD {}
    let e := e.storeCall callId { session with callId := callId, incoming := true, peerGAHash := gAHash }
    { e with droppedCallIds := e.droppedCallIds.erase callId }

/-- The first part of an operation on a copy, and its computation. -/
def copyCall (e : SignalingEngine) (op : CopyingOperation) : Except VoipError CallSession :=
  op.compute C (e.calls op.callId)

end KeyExchange

/-- The part of `DropCall` under the lock, with the connection that it stops afterwards. -/
def dropCall (e : SignalingEngine) (callId : ℤ) : SignalingEngine × Option HeldConnection :=
  let e := { e with
    calls := Function.update e.calls callId none
    droppedCallIds := insert callId e.droppedCallIds }
  if e.tgcallsCallId = callId then ({ e with tgcallsConnection := none, tgcallsCallId := 0 }, e.tgcallsConnection)
  else (e, none)

/-- `ReceiveSignalingData` up to the point where it gives the lock back. -/
def receiveSignalingData (e : SignalingEngine) (callId : ℤ) (packet : Packet) : SignalingEngine × Reception :=
  if callId ≤ 0 then (e, .refused (invalid "callId must be positive"))
  else if packet.data = [] then (e, .refused (invalid "VoIP signaling data is empty"))
  else
    match e.calls callId with
    | none =>
      if callId ∈ e.droppedCallIds then (e, .ignored)
      else (e, .refused (invalid "call DH state not found for signaling data"))
    | some session =>
      let session := session.count packet
      if e.tgcallsCallId = callId then
        match e.tgcallsConnection with
        | some conn => (e.storeCall callId session, .toConnection conn)
        | none =>
          if e.hasGraph then (e.storeCall callId session, .toGraph)
          else
            let (session, evicted) := session.queuePendingSignaling packet
            (e.storeCall callId session, .queued evicted)
      else
        let (session, evicted) := session.queuePendingSignaling packet
        (e.storeCall callId session, .queued evicted)

/-! ### The parts of StartMedia and StopMedia -/

/-- The queue of a call is taken. -/
def swapPending (e : SignalingEngine) (callId : ℤ) : SignalingEngine × List Packet :=
  match e.calls callId with
  | none => (e, [])
  | some session => (e.storeCall callId { session with pendingSignalingPackets := [] }, session.pendingSignalingPackets)

/-- A connection that has started is published, and the queue of its call is taken. -/
def publishConnection (e : SignalingEngine) (callId : ℤ) (conn : HeldConnection) : SignalingEngine × List Packet :=
  let (e, pending) := e.swapPending callId
  ({ e with tgcallsConnection := some conn, tgcallsCallId := callId }, pending)

/-- The connection has refused a packet of the queue. -/
def retractConnection (e : SignalingEngine) : SignalingEngine := { e with tgcallsConnection := none, tgcallsCallId := 0 }

/-- A turn of the loop behind the start of the graph. -/
def graphTurn (e : SignalingEngine) (callId : ℤ) : SignalingEngine × GraphTurn :=
  match e.calls callId with
  | none => ({ e with tgcallsCallId := 0 }, .dropped)
  | some session =>
    if session.pendingSignalingPackets = [] then ({ e with tgcallsCallId := callId }, .opened)
    else
      (e.storeCall callId { session with pendingSignalingPackets := [] }, .drain session.pendingSignalingPackets)

/-- The graph has refused a packet of the queue. -/
def retractGraph (e : SignalingEngine) (callId : ℤ) : SignalingEngine :=
  if e.tgcallsCallId = callId then { e with tgcallsCallId := 0 } else e

/-- The part of `StopMedia` under the lock. -/
def clearMedia (e : SignalingEngine) : SignalingEngine := { e with tgcallsConnection := none, tgcallsCallId := 0 }

/-! ### What ReceiveSignalingData does -/

/-- The way past the queue is open for the call. -/
def OpenFor (e : SignalingEngine) (callId : ℤ) : Prop :=
  e.tgcallsCallId = callId ∧ (e.tgcallsConnection.isSome = true ∨ e.hasGraph = true)

instance (e : SignalingEngine) (callId : ℤ) : Decidable (e.OpenFor callId) := inferInstanceAs (Decidable (_ ∧ _))

/-- The engine and the decision that `ReceiveSignalingData` ends up with. -/
inductive Receives (e : SignalingEngine) (callId : ℤ) (packet : Packet) : SignalingEngine → Reception → Prop
  | refused (error : VoipError) : Receives e callId packet e (.refused error)
  | ignored (hcall : e.calls callId = none) (hdropped : callId ∈ e.droppedCallIds) : Receives e callId packet e .ignored
  | queued (session : CallSession) (hdata : packet.data ≠ []) (hcall : e.calls callId = some session)
      (hclosed : ¬ e.OpenFor callId) :
      Receives e callId packet (e.storeCall callId ((session.count packet).queuePendingSignaling packet).1)
        (.queued ((session.count packet).queuePendingSignaling packet).2)
  | toConnection (session : CallSession) (conn : HeldConnection) (hdata : packet.data ≠ [])
      (hcall : e.calls callId = some session) (hid : e.tgcallsCallId = callId) (hconn : e.tgcallsConnection = some conn) :
      Receives e callId packet (e.storeCall callId (session.count packet)) (.toConnection conn)
  | toGraph (session : CallSession) (hdata : packet.data ≠ []) (hcall : e.calls callId = some session)
      (hid : e.tgcallsCallId = callId) (hconn : e.tgcallsConnection = none) (hgraph : e.hasGraph = true) :
      Receives e callId packet (e.storeCall callId (session.count packet)) .toGraph

theorem receiveSignalingData_receives (e : SignalingEngine) (callId : ℤ) (packet : Packet) :
    e.Receives callId packet (e.receiveSignalingData callId packet).1 (e.receiveSignalingData callId packet).2 := by
  unfold receiveSignalingData
  by_cases hid : callId ≤ 0
  · rw [if_pos hid]
    exact .refused _
  rw [if_neg hid]
  by_cases hdata : packet.data = []
  · rw [if_pos hdata]
    exact .refused _
  rw [if_neg hdata]
  cases hcall : e.calls callId with
  | none =>
    by_cases hdropped : callId ∈ e.droppedCallIds
    · simp only [if_pos hdropped]
      exact .ignored hcall hdropped
    · simp only [if_neg hdropped]
      exact .refused _
  | some session =>
    by_cases hopen : e.tgcallsCallId = callId
    · simp only [if_pos hopen]
      cases hconn : e.tgcallsConnection with
      | some conn => exact .toConnection session conn hdata hcall hopen hconn
      | none =>
        by_cases hgraph : e.hasGraph = true
        · simp only [if_pos hgraph]
          exact .toGraph session hdata hcall hopen hconn hgraph
        · simp only [if_neg hgraph]
          exact .queued session hdata hcall (by simp [OpenFor, hconn, hgraph])
    · simp only [if_neg hopen]
      exact .queued session hdata hcall fun h => hopen h.1

/-! ### The key exchange of the engine -/

/-- The engine of the key exchange alone. -/
def toVoipEngine (e : SignalingEngine) : VoipEngine where
  outgoingByRandom := Option.map CallSession.toDhSession ∘ e.outgoingByRandom
  calls := Option.map CallSession.toDhSession ∘ e.calls
  droppedCallIds := e.droppedCallIds

variable {C : Crypto} {e : SignalingEngine} {callId : ℤ}

theorem toVoipEngine_storeCall (session : CallSession) :
    (e.storeCall callId session).toVoipEngine = e.toVoipEngine.storeCall callId session.toDhSession := by
  simp only [toVoipEngine, storeCall, VoipEngine.storeCall, Function.comp_update, Option.map_some]

theorem toVoipEngine_createOutgoingDh (randomId g : ℤ) (p : Bytes) (draws : ℕ → Draw) :
    (e.createOutgoingDh C randomId g p draws).toVoipEngine
      = e.toVoipEngine.apply C (.createOutgoingDh randomId g p draws) := by
  simp only [createOutgoingDh, VoipEngine.apply, VoipEngine.createOutgoingDh]
  cases validateDhConfig g p with
  | error error => rfl
  | ok _ => simp only [toVoipEngine, Function.comp_update, Option.map_some]

theorem toVoipEngine_bindOutgoingCall (randomId : ℤ) :
    (e.bindOutgoingCall randomId callId).toVoipEngine = e.toVoipEngine.apply C (.bindOutgoingCall randomId callId) := by
  simp only [bindOutgoingCall, VoipEngine.apply, VoipEngine.bindOutgoingCall]
  split_ifs with hid
  · rfl
  · cases hsession : e.outgoingByRandom randomId with
    | none => simp [toVoipEngine, hsession]
    | some session =>
      simp [toVoipEngine, hsession, storeCall, VoipEngine.storeCall, Function.comp_update]

theorem toVoipEngine_registerIncomingGAHash (gAHash : Bytes) :
    (e.registerIncomingGAHash callId gAHash).toVoipEngine
      = e.toVoipEngine.apply C (.registerIncomingGAHash callId gAHash) := by
  simp only [registerIncomingGAHash, VoipEngine.apply, VoipEngine.registerIncomingGAHash]
  split_ifs with hid hlen
  · rfl
  · rfl
  · cases hsession : e.calls callId with
    | none => simp [toVoipEngine, hsession, storeCall, VoipEngine.storeCall, Function.comp_update]
    | some session => simp [toVoipEngine, hsession, storeCall, VoipEngine.storeCall, Function.comp_update]

theorem toVoipEngine_dropCall : (e.dropCall callId).1.toVoipEngine = e.toVoipEngine.apply C (.dropCall callId) := by
  simp only [dropCall, VoipEngine.apply, VoipEngine.dropCall]
  split_ifs <;> simp [toVoipEngine, Function.comp_update]

/-- **The two parts of an operation, one right after the other, are the operation.** -/
theorem toVoipEngine_copyCall (op : CopyingOperation) :
    (match e.copyCall C op with
      | .error _ => e
      | .ok session => e.storeCall op.callId session).toVoipEngine = e.toVoipEngine.apply C op.toDhOperation := by
  have hcalls : ∀ callId, e.toVoipEngine.calls callId = (e.calls callId).map CallSession.toDhSession := fun _ => rfl
  cases op with
  | createIncomingDh callId g p draws =>
    simp only [copyCall, CopyingOperation.compute, CopyingOperation.callId, CopyingOperation.toDhOperation,
      VoipEngine.apply, VoipEngine.createIncomingDh, hcalls]
    cases validateDhConfig g p with
    | error error => rfl
    | ok _ =>
      cases e.calls callId with
      | none => rfl
      | some session =>
        simp only [Option.map_some]
        split_ifs
        · rfl
        · exact toVoipEngine_storeCall _
  | acceptPeerGB callId gB =>
    simp only [copyCall, CopyingOperation.compute, CopyingOperation.callId, CopyingOperation.toDhOperation,
      VoipEngine.apply, VoipEngine.acceptPeerGB, hcalls]
    cases e.calls callId with
    | none => rfl
    | some session =>
      simp only [Option.map_some]
      cases session.toDhSession.acceptPeerGB C gB with
      | error error => rfl
      | ok dh => exact toVoipEngine_storeCall _
  | confirmPeerGAOrB callId gAOrB expectedFingerprint =>
    simp only [copyCall, CopyingOperation.compute, CopyingOperation.callId, CopyingOperation.toDhOperation,
      VoipEngine.apply, VoipEngine.confirmPeerGAOrB, hcalls]
    cases e.calls callId with
    | none => rfl
    | some session =>
      simp only [Option.map_some]
      cases session.toDhSession.confirmPeerGAOrB C gAOrB expectedFingerprint with
      | error error => rfl
      | ok dh => exact toVoipEngine_storeCall _

end SignalingEngine

end VianiumVoip.Engine
