import VianiumVoip.Engine.Signaling
import VianiumVoip.Engine.MediaPlane

/-!
# The engine under several threads

The operations of `VoipEngine` that touch the sessions, cut where they give the lock back.  An event is one part of one
operation; any number of operations are under way at the same time, and their parts come in any order.

What an operation carries from one part to the next is the state of its thread: the session that a key exchange has
computed and not written back yet, the packet that `ReceiveSignalingData` is handing to a backend, the packets of a
queue that `StartMedia` has taken and hands over one by one.
-/

namespace VianiumVoip.Engine

open VianiumVoip.Lib VianiumVoip.Lib.Run VianiumVoip.Cert VianiumVoip.Tgcalls

/-- Where a packet goes: a connection, or the graph. -/
abbrev Backend := Option HeldConnection

/-- The answer of a backend to a packet; that of the graph comes from outside. -/
def Backend.receive (backend : Backend) (data : Bytes) (graphError : Option VoipError) : Option VoipError :=
  match backend with
  | some conn => conn.handleIncomingSignaling data
  | none => graphError

/-- A `ReceiveSignalingData` that hands its packet over. -/
structure DirectDelivery where
  callId : ℤ
  packet : Packet
  backend : Backend

/-- A `StartMedia` that hands over the packets of a queue. -/
structure Drain where
  callId : ℤ
  backend : Backend
  packets : List Packet := []
  refused : Bool := false

structure SectionState where
  engine : SignalingEngine
  /-- The sessions that are computed and not written back. -/
  copies : ℕ → Option (ℤ × CallSession) := fun _ => none
  direct : List DirectDelivery := []
  /-- The connections that have started and are not published. -/
  starts : List HeldConnection := []
  drains : List Drain := []
  /-- How many packets `ReceiveSignalingData` has been given. -/
  received : ℕ := 0

inductive Section
  | createOutgoingDh (randomId g : ℤ) (p : Bytes) (draws : ℕ → Draw)
  | bindOutgoingCall (randomId callId : ℤ)
  | registerIncomingGAHash (callId : ℤ) (gAHash : Bytes)
  | copy (thread : ℕ) (op : CopyingOperation)
  | writeBack (thread : ℕ)
  | dropCall (callId : ℤ)
  | receive (callId : ℤ) (data : Bytes)
  /-- The backend answers the `k`-th direct delivery. -/
  | deliver (k : ℕ) (graphError : Option VoipError)
  /-- `StartMedia` up to the start of its backend. -/
  | startMedia (descriptor : VoipCallStartDescriptor) (id : ℕ) (input : TgcallsConnection.StartInput)
      (graphError : Option VoipError)
  /-- The `k`-th connection that has started is published. -/
  | publish (k : ℕ)
  /-- The backend answers the next packet of the `k`-th queue. -/
  | handOver (k : ℕ) (graphError : Option VoipError)
  /-- The `k`-th queue is handed over, and the graph takes what has come in the meantime. -/
  | graphTurn (k : ℕ)
  /-- A packet of the `k`-th queue has been refused. -/
  | retract (k : ℕ)
  | stopMedia

/-- A successful `BindOutgoingCall` or `RegisterIncomingGAHash`, or one that fails. -/
def Section.Reopens (callId : ℤ) : Section → Prop
  | .bindOutgoingCall _ id => id = callId
  | .registerIncomingGAHash id _ => id = callId
  | _ => False

namespace SectionState

/-- `StartMedia` up to the start of its backend: a connection where there is a reflector for it, else the graph. -/
def startMedia (P : Platform) (s : SectionState) (descriptor : VoipCallStartDescriptor) (id : ℕ)
    (input : TgcallsConnection.StartInput) (graphError : Option VoipError) : SectionState :=
  if descriptor.callId ≤ 0 ∨ descriptor.keyHandle = "" then s
  else
    match s.engine.calls descriptor.callId with
    | none => s
    | some session =>
      if !session.sharedReady ∨ handleForCall descriptor.callId ≠ descriptor.keyHandle then s
      else if isClassicReflectorDescriptor descriptor then s
      else
        let reflectors := descriptor.endpoints.filterMap toReflectorEndpoint
        if reflectors = [] then
          if s.engine.hasGraph ∧ graphError = none then
            { s with drains := s.drains ++ [{ callId := descriptor.callId, backend := none }] }
          else s
        else
          let conn : TgcallsConnection :=
            { isOutgoing := descriptor.isInitiator
              sharedKey := session.sharedKey
              reflectors := reflectors
              hasSignalingOut := true }
          match (conn.start P input).2.2 with
          | some _ => s
          | none =>
            { s with starts := s.starts ++ [{ id := id, callId := descriptor.callId, sharedKey := session.sharedKey }] }

def receive (s : SectionState) (callId : ℤ) (data : Bytes) : SectionState :=
  let packet : Packet := { number := s.received, data := data }
  let (engine, reception) := s.engine.receiveSignalingData callId packet
  let s := { s with engine := engine, received := s.received + 1 }
  match reception with
  | .toConnection conn => { s with direct := s.direct ++ [{ callId := callId, packet := packet, backend := some conn }] }
  | .toGraph => { s with direct := s.direct ++ [{ callId := callId, packet := packet, backend := none }] }
  | _ => s

def publish (s : SectionState) (k : ℕ) : SectionState :=
  match s.starts[k]? with
  | none => s
  | some conn =>
    let (engine, pending) := s.engine.publishConnection conn.callId conn
    { s with
      engine := engine
      starts := s.starts.eraseIdx k
      drains := s.drains ++ [{ callId := conn.callId, backend := some conn, packets := pending }] }

def handOver (s : SectionState) (k : ℕ) (graphError : Option VoipError) : SectionState :=
  match s.drains[k]? with
  | none => s
  | some drain =>
    match drain.packets with
    | [] => s
    | packet :: rest =>
      match drain.backend.receive packet.data graphError with
      | none => { s with drains := s.drains.set k { drain with packets := rest } }
      | some _ => { s with drains := s.drains.set k { drain with packets := [], refused := true } }

def graphTurn (s : SectionState) (k : ℕ) : SectionState :=
  match s.drains[k]? with
  | none => s
  | some drain =>
    if drain.backend.isNone ∧ drain.packets = [] ∧ !drain.refused then
      match s.engine.graphTurn drain.callId with
      | (engine, .drain pending) =>
        { s with engine := engine, drains := s.drains.set k { drain with packets := pending } }
      | (engine, _) => { s with engine := engine, drains := s.drains.eraseIdx k }
    else s

def retract (s : SectionState) (k : ℕ) : SectionState :=
  match s.drains[k]? with
  | none => s
  | some drain =>
    if drain.refused then
      { s with
        engine := if drain.backend.isSome then s.engine.retractConnection else s.engine.retractGraph drain.callId
        drains := s.drains.eraseIdx k }
    else s

variable (C : Crypto) (P : Platform)

def step (s : SectionState) : Section → SectionState
  | .createOutgoingDh randomId g p draws => { s with engine := s.engine.createOutgoingDh C randomId g p draws }
  | .bindOutgoingCall randomId callId => { s with engine := s.engine.bindOutgoingCall randomId callId }
  | .registerIncomingGAHash callId gAHash => { s with engine := s.engine.registerIncomingGAHash callId gAHash }
  | .copy thread op =>
    match s.copies thread, s.engine.copyCall C op with
    | none, .ok session => { s with copies := Function.update s.copies thread (some (op.callId, session)) }
    | _, _ => s
  | .writeBack thread =>
    match s.copies thread with
    | none => s
    | some (callId, session) =>
      { s with
        engine := s.engine.storeCall callId session
        copies := Function.update s.copies thread none }
  | .dropCall callId => { s with engine := (s.engine.dropCall callId).1 }
  | .receive callId data => s.receive callId data
  | .deliver k _ => { s with direct := s.direct.eraseIdx k }
  | .startMedia descriptor id input graphError => s.startMedia P descriptor id input graphError
  | .publish k => s.publish k
  | .handOver k graphError => s.handOver k graphError
  | .graphTurn k => s.graphTurn k
  | .retract k => s.retract k
  | .stopMedia => { s with engine := s.engine.clearMedia }

/-- **What `StartMedia` does up to the start of its backend**: nothing, or it has started a connection with a key of the
right size, or the graph. -/
theorem startMedia_cases (P : Platform) (s : SectionState) (descriptor : VoipCallStartDescriptor) (id : ℕ)
    (input : TgcallsConnection.StartInput) (graphError : Option VoipError) :
    s.startMedia P descriptor id input graphError = s ∨
      (∃ conn : HeldConnection, conn.callId = descriptor.callId ∧ conn.sharedKey.length = kSharedKeySize ∧
        s.startMedia P descriptor id input graphError = { s with starts := s.starts ++ [conn] }) ∨
      s.engine.hasGraph = true ∧ s.startMedia P descriptor id input graphError
        = { s with drains := s.drains ++ [{ callId := descriptor.callId, backend := none }] } := by
  unfold startMedia
  split
  · exact .inl rfl
  split
  · exact .inl rfl
  split
  · exact .inl rfl
  split
  · exact .inl rfl
  dsimp only
  split
  · split
    · next h => exact .inr (.inr ⟨h.1, rfl⟩)
    · exact .inl rfl
  · split
    · exact .inl rfl
    · next hstart => exact .inr (.inl ⟨_, rfl, (TgcallsConnection.canSignal_of_start hstart).2, rfl⟩)

end SectionState

end VianiumVoip.Engine
