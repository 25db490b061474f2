import VianiumVoip.Engine.Sections

/-!
# The order of the signaling while the media starts

One signaling thread calls `ReceiveSignalingData`, for this call and for others, one call after the other; meanwhile one
`StartMedia` for the call succeeds.  A packet reaches the media either through the queue, which `StartMedia` hands over,
or past it.

`ordered_iff` says which interleavings deliver the packets in the order in which they were accepted, and
`ordered_of_graph` that those of a graph all do.
-/

namespace VianiumVoip.Engine

open VianiumVoip.Lib VianiumVoip.Lib.Run VianiumVoip.Cert VianiumVoip.Tgcalls

/-- What the two threads do. -/
inductive StartEvent
  | receive (id : ℤ) (data : Bytes)
  /-- The backend answers the packet that `ReceiveSignalingData` hands over. -/
  | deliver (graphError : Option VoipError)
  | startMedia (descriptor : VoipCallStartDescriptor) (id : ℕ) (input : TgcallsConnection.StartInput)
  | publish
  | handOver
  | graphTurn

/-- The part of an operation that it is. -/
def StartEvent.toSection : StartEvent → Section
  | receive id data => .receive id data
  | deliver graphError => .deliver 0 graphError
  | startMedia descriptor id input => .startMedia descriptor id input none
  | publish => .publish 0
  | handOver => .handOver 0 none
  | graphTurn => .graphTurn 0

/-- It is no `StartMedia` over a connection. -/
def StartEvent.OverGraph : StartEvent → Prop
  | startMedia descriptor _ _ => descriptor.endpoints.filterMap toReflectorEndpoint = []
  | _ => True

/-- The backend is the graph, or a connection of the call. -/
def Backend.serves (callId : ℤ) : Backend → Bool
  | some conn => conn.callId = callId
  | none => true

/-- The threads of the engine, and the packets of the call: those that `ReceiveSignalingData` has returned no error for,
those that a backend of the call has received, and those that the queue had no room for. -/
structure StartRun where
  sections : SectionState
  /-- `StartMedia` has been called. -/
  called : Bool := false
  accepted : List Packet := []
  delivered : List Packet := []
  dropped : List Packet := []

namespace StartRun

section Definitions

variable (callId : ℤ) (P : Platform)

/-- The signaling thread makes a call once the last one has returned. -/
def receive (r : StartRun) (id : ℤ) (data : Bytes) : StartRun :=
  if r.sections.direct.isEmpty then
    let packet : Packet := { number := r.sections.received, data := data }
    let next := { r with sections := r.sections.receive id data }
    match (r.sections.engine.receiveSignalingData id packet).2 with
    | .queued evicted =>
      if id = callId then
        { next with
          accepted := r.accepted ++ [packet]
          dropped := r.dropped ++ evicted }
      else next
    | _ => next
  else r

def deliver (r : StartRun) (graphError : Option VoipError) : StartRun :=
  match r.sections.direct with
  | [] => r
  | d :: rest =>
    let next := { r with sections := { r.sections with direct := rest } }
    if d.callId = callId ∧ d.backend.receive d.packet.data graphError = none then
      { next with
        accepted := r.accepted ++ [d.packet]
        delivered := if d.backend.serves callId then r.delivered ++ [d.packet] else r.delivered }
    else next

/-- The next packet of the queue; one that the backend refuses is none of a `StartMedia` that succeeds. -/
def handOver (r : StartRun) : StartRun :=
  match r.sections.drains with
  | [] => r
  | d :: _ =>
    match d.packets with
    | [] => r
    | packet :: _ =>
      match d.backend.receive packet.data none with
      | some _ => r
      | none => { r with sections := r.sections.handOver 0 none, delivered := r.delivered ++ [packet] }

def step (r : StartRun) : StartEvent → StartRun
  | .receive id data => r.receive callId id data
  | .deliver graphError => r.deliver callId graphError
  | .startMedia descriptor id input =>
    if descriptor.callId = callId ∧ !r.called then
      { r with sections := r.sections.startMedia P descriptor id input none, called := true }
    else r
  | .publish => { r with sections := r.sections.publish 0 }
  | .handOver => r.handOver
  | .graphTurn => { r with sections := r.sections.graphTurn 0 }

/-- The packets that wait in the queue of the call. -/
def queue (r : StartRun) : List Packet :=
  ((r.sections.engine.calls callId).map fun session => session.pendingSignalingPackets).getD []

/-- The packets that have been accepted and that no backend has received, in the order in which they are to be: those
that `StartMedia` has taken, and then those in the queue. -/
def waiting (r : StartRun) : List Packet := (r.sections.drains.flatMap fun d => d.packets) ++ r.queue callId

/-- **The media receives the packets in order.**  Those that were accepted and not dropped are, in the order in which
they were accepted, those that it has received, and then those that wait for it. -/
def Ordered (r : StartRun) : Prop :=
  (r.accepted.filter fun packet => packet ∉ r.dropped) = r.delivered ++ r.waiting callId

instance (r : StartRun) : Decidable (r.Ordered callId) := inferInstanceAs (Decidable (_ = _))

/-- The condition where a packet is handed over past the queue, and not refused: the backend is one of the call, and no
other packet waits. -/
def OvertakesNone (r : StartRun) : StartEvent → Prop
  | .deliver graphError => ∀ d ∈ r.sections.direct, d.callId = callId →
      d.backend.receive d.packet.data graphError = none → d.backend.serves callId = true ∧ r.waiting callId = []
  | _ => True

/-- The packets of a queue, numbered. -/
def number (queue : List Bytes) : List Packet := queue.zipIdx.map fun entry => { number := entry.2, data := entry.1 }

/-- Any engine that knows the call, with any queue, between two calls of either thread. -/
def start (e : SignalingEngine) (session : CallSession) (queue : List Bytes) : StartRun where
  sections :=
    { engine := e.storeCall callId { session with pendingSignalingPackets := number queue }
      received := queue.length }
  accepted := number queue

end Definitions

variable {callId : ℤ} {P : Platform} {r : StartRun}

/-! ### The two threads among all threads -/

theorem handOver_sections (C : Crypto) (P : Platform) (r : StartRun) :
    r.handOver.sections = r.sections ∨ r.handOver.sections = r.sections.step C P StartEvent.handOver.toSection := by
  unfold handOver
  split
  · exact .inl rfl
  · split
    · exact .inl rfl
    · split
      · exact .inl rfl
      · exact .inr rfl

/-- **Every event is a part of an operation of the engine**, or none. -/
theorem step_sections (C : Crypto) (r : StartRun) (ev : StartEvent) :
    (r.step callId P ev).sections = r.sections ∨ (r.step callId P ev).sections = r.sections.step C P ev.toSection := by
  cases ev with
  | receive id data =>
    simp only [step, receive]
    split
    · right
      split
      · split <;> rfl
      · rfl
    · exact .inl rfl
  | deliver graphError =>
    simp only [step, deliver]
    cases hdirect : r.sections.direct with
    | nil => exact .inl rfl
    | cons d rest =>
      right
      simp only [StartEvent.toSection, SectionState.step, hdirect, List.eraseIdx_cons_zero]
      split <;> rfl
  | startMedia descriptor id input =>
    simp only [step]
    split
    · exact .inr rfl
    · exact .inl rfl
  | publish => exact .inr rfl
  | handOver => exact handOver_sections C P r
  | graphTurn => exact .inr rfl

/-! ### What the two threads keep -/

/-- The engine knows the call, and one `StartMedia` is under way at most, for this call. -/
structure OneStart (callId : ℤ) (r : StartRun) : Prop where
  call : ∃ session, r.sections.engine.calls callId = some session
  uncalled : r.called = false → r.sections.starts = [] ∧ r.sections.drains = []
  single : r.sections.starts.length + r.sections.drains.length ≤ 1
  starts : ∀ conn ∈ r.sections.starts, conn.callId = callId
  drains : ∀ d ∈ r.sections.drains, d.callId = callId

/-- One packet is being handed over at most, and it is younger than those that have been accepted. -/
structure Young (callId : ℤ) (r : StartRun) : Prop where
  direct : r.sections.direct.length ≤ 1
  numbered : ∀ d ∈ r.sections.direct, d.packet.number < r.sections.received
  queued : ∀ packet ∈ r.queue callId, packet.number < r.sections.received
  settled : ∀ packet ∈ r.accepted ++ r.dropped, packet.number < r.sections.received ∧
    ∀ d ∈ r.sections.direct, packet.number < d.packet.number
  nodup : r.accepted.Nodup

theorem queue_of_calls {session : CallSession} (h : r.sections.engine.calls callId = some session) :
    r.queue callId = session.pendingSignalingPackets := by
  rw [queue, h, Option.map_some, Option.getD_some]

theorem OneStart.starts_nil (h : r.OneStart callId) {d : Drain} {rest : List Drain}
    (hdrains : r.sections.drains = d :: rest) : r.sections.starts = [] ∧ rest = [] := by
  have hsingle := h.single
  rw [hdrains, List.length_cons] at hsingle
  exact ⟨List.length_eq_zero_iff.1 (by omega), List.length_eq_zero_iff.1 (by omega)⟩

theorem OneStart.drains_nil (h : r.OneStart callId) {conn : HeldConnection} {rest : List HeldConnection}
    (hstarts : r.sections.starts = conn :: rest) : rest = [] ∧ r.sections.drains = [] := by
  have hsingle := h.single
  rw [hstarts, List.length_cons] at hsingle
  exact ⟨List.length_eq_zero_iff.1 (by omega), List.length_eq_zero_iff.1 (by omega)⟩

/-! ### What a part of StartMedia does -/

theorem publish_cases (h : r.OneStart callId) :
    r.sections.publish 0 = r.sections ∨ ∃ conn session, r.sections.starts = [conn] ∧ r.sections.drains = [] ∧
      r.sections.engine.calls callId = some session ∧
      r.sections.publish 0 = { r.sections with
        engine := { r.sections.engine.storeCall callId { session with pendingSignalingPackets := [] } with
          tgcallsConnection := some conn
          tgcallsCallId := callId }
        starts := []
        drains := [{ callId := callId, backend := some conn, packets := session.pendingSignalingPackets }] } := by
  cases hstarts : r.sections.starts with
  | nil =>
    left
    simp only [SectionState.publish, hstarts, List.getElem?_nil]
  | cons conn rest =>
    right
    obtain ⟨rfl, hdrains⟩ := h.drains_nil hstarts
    obtain ⟨session, hcall⟩ := h.call
    have hid : conn.callId = callId := h.starts conn (by rw [hstarts]; exact List.mem_singleton.2 rfl)
    refine ⟨conn, session, rfl, hdrains, hcall, ?_⟩
    simp only [SectionState.publish, hstarts, List.getElem?_cons_zero, SignalingEngine.publishConnection,
      SignalingEngine.swapPending, hid, hcall, List.eraseIdx_cons_zero, hdrains, List.nil_append]

theorem graphTurn_cases (h : r.OneStart callId) :
    r.sections.graphTurn 0 = r.sections ∨ ∃ d session, r.sections.drains = [d] ∧ d.packets = [] ∧
      r.sections.engine.calls callId = some session ∧
      (session.pendingSignalingPackets = [] ∧ r.sections.graphTurn 0 = { r.sections with
          engine := { r.sections.engine with tgcallsCallId := callId }
          drains := [] } ∨
        r.sections.graphTurn 0 = { r.sections with
          engine := r.sections.engine.storeCall callId { session with pendingSignalingPackets := [] }
          drains := [{ d with packets := session.pendingSignalingPackets }] }) := by
  cases hdrains : r.sections.drains with
  | nil =>
    left
    simp only [SectionState.graphTurn, hdrains, List.getElem?_nil]
  | cons d rest =>
    obtain ⟨-, rfl⟩ := h.starts_nil hdrains
    obtain ⟨session, hcall⟩ := h.call
    have hid : d.callId = callId := h.drains d (by rw [hdrains]; exact List.mem_singleton.2 rfl)
    by_cases hturn : d.backend.isNone ∧ d.packets = [] ∧ !d.refused
    · right
      refine ⟨d, session, rfl, hturn.2.1, hcall, ?_⟩
      simp only [SectionState.graphTurn, hdrains, List.getElem?_cons_zero, if_pos hturn, SignalingEngine.graphTurn, hid,
        hcall]
      by_cases hempty : session.pendingSignalingPackets = []
      · simp only [if_pos hempty, List.eraseIdx_cons_zero]
        exact .inl ⟨hempty, trivial⟩
      · simp only [if_neg hempty, List.set_cons_zero]
        exact .inr trivial
    · left
      simp only [SectionState.graphTurn, hdrains, List.getElem?_cons_zero, if_neg hturn]

theorem handOver_cases (h : r.OneStart callId) :
    r.handOver = r ∨ ∃ d packet rest, r.sections.drains = [d] ∧ d.packets = packet :: rest ∧
      r.handOver = { r with
        sections := { r.sections with drains := [{ d with packets := rest }] }
        delivered := r.delivered ++ [packet] } := by
  cases hdrains : r.sections.drains with
  | nil =>
    left
    simp only [handOver, hdrains]
  | cons d others =>
    obtain ⟨-, rfl⟩ := h.starts_nil hdrains
    cases hpackets : d.packets with
    | nil =>
      left
      simp only [handOver, hdrains, hpackets]
    | cons packet rest =>
      cases hanswer : d.backend.receive packet.data none with
      | some error =>
        left
        simp only [handOver, hdrains, hpackets, hanswer]
      | none =>
        right
        refine ⟨d, packet, rest, rfl, hpackets, ?_⟩
        simp only [handOver, SectionState.handOver, hdrains, hpackets, hanswer, List.getElem?_cons_zero,
          List.set_cons_zero]

/-! ### What ReceiveSignalingData does -/

/-- What a call of `ReceiveSignalingData` that is made comes to, up to the point where it gives the lock back. -/
inductive Received (callId : ℤ) (r : StartRun) (id : ℤ) (packet : Packet) : StartRun → Prop
  | unheard : Received callId r id packet { r with sections := { r.sections with received := r.sections.received + 1 } }
  | other (session : CallSession) (hid : id ≠ callId) : Received callId r id packet { r with sections := { r.sections with
      engine := r.sections.engine.storeCall id session
      received := r.sections.received + 1 } }
  | queued (session : CallSession) (hcall : r.sections.engine.calls callId = some session) (hid : id = callId)
      (hclosed : ¬ r.sections.engine.OpenFor callId) : Received callId r id packet { r with
        sections := { r.sections with
          engine := r.sections.engine.storeCall callId ((session.count packet).queuePendingSignaling packet).1
          received := r.sections.received + 1 }
        accepted := r.accepted ++ [packet]
        dropped := r.dropped ++ ((session.count packet).queuePendingSignaling packet).2 }
  | direct (session : CallSession) (backend : Backend) (hcall : r.sections.engine.calls id = some session)
      (hopen : r.sections.engine.OpenFor id) (hbackend : backend = r.sections.engine.tgcallsConnection) :
      Received callId r id packet { r with sections := { r.sections with
        engine := r.sections.engine.storeCall id (session.count packet)
        direct := [{ callId := id, packet := packet, backend := backend }]
        received := r.sections.received + 1 } }

theorem receive_cases (callId : ℤ) (r : StartRun) (id : ℤ) (data : Bytes) :
    r.receive callId id data = r ∨ r.sections.direct = [] ∧
      r.Received callId id { number := r.sections.received, data := data } (r.receive callId id data) := by
  obtain ⟨⟨e, copies, direct, starts, drains, received⟩, called, accepted, delivered, dropped⟩ := r
  cases direct with
  | cons d rest => exact .inl rfl
  | nil =>
    refine .inr ⟨rfl, ?_⟩
    have hreceives := e.receiveSignalingData_receives id { number := received, data := data }
    rcases hresult : e.receiveSignalingData id { number := received, data := data } with ⟨e', reception⟩
    rw [hresult] at hreceives
    simp only [receive, List.isEmpty_nil, if_true, SectionState.receive, hresult]
    cases hreceives with
    | refused error => exact .unheard
    | ignored hcall hdropped => exact .unheard
    | queued session hdata hcall hclosed =>
      by_cases hid : id = callId
      · subst hid
        simp only [if_true]
        exact .queued session hcall rfl hclosed
      · simp only [if_neg hid]
        exact .other _ hid
    | toConnection session conn hdata hcall hid hconn =>
      exact .direct session (some conn) hcall ⟨hid, .inl (by rw [hconn]; rfl)⟩ hconn.symm
    | toGraph session hdata hcall hid hconn hgraph => exact .direct session none hcall ⟨hid, .inr hgraph⟩ hconn.symm

theorem calls_storeCall {e : SignalingEngine} {id : ℤ} {session : CallSession}
    (h : ∃ session, e.calls callId = some session) : ∃ session', (e.storeCall id session).calls callId = some session' := by
  by_cases hid : callId = id
  · subst hid
    exact ⟨session, SignalingEngine.storeCall_self ..⟩
  · rw [SignalingEngine.storeCall_of_ne hid]
    exact h

/-- **An event keeps to one `StartMedia`.** -/
theorem oneStart_step (h : r.OneStart callId) (ev : StartEvent) : (r.step callId P ev).OneStart callId := by
  cases ev with
  | receive id data =>
    simp only [step]
    rcases receive_cases callId r id data with heq | ⟨-, hreceived⟩
    · rw [heq]
      exact h
    · generalize r.receive callId id data = r' at hreceived
      cases hreceived with
      | unheard => exact ⟨h.call, h.uncalled, h.single, h.starts, h.drains⟩
      | other session hid => exact ⟨calls_storeCall h.call, h.uncalled, h.single, h.starts, h.drains⟩
      | queued session hcall hid hclosed => exact ⟨calls_storeCall h.call, h.uncalled, h.single, h.starts, h.drains⟩
      | direct session backend hcall hopen hbackend =>
        exact ⟨calls_storeCall h.call, h.uncalled, h.single, h.starts, h.drains⟩
  | deliver graphError =>
    simp only [step, deliver]
    split
    · exact h
    · split <;> exact ⟨h.call, h.uncalled, h.single, h.starts, h.drains⟩
  | startMedia descriptor id input =>
    simp only [step]
    split_ifs with hcalled
    · obtain ⟨hid, hcalled⟩ := hcalled
      obtain ⟨hstarts, hdrains⟩ := h.uncalled (by simpa using hcalled)
      rcases r.sections.startMedia_cases P descriptor id input none with heq | ⟨conn, hconn, -, heq⟩ | ⟨-, heq⟩
      · rw [heq]
        exact ⟨h.call, fun hfalse => (by cases hfalse), h.single, h.starts, h.drains⟩
      · rw [heq, hstarts]
        refine ⟨h.call, fun hfalse => (by cases hfalse), ?_, ?_, h.drains⟩
        · rw [hdrains]
          exact Nat.le_refl 1
        · intro conn' hconn'
          rw [List.mem_singleton.1 hconn', hconn, hid]
      · rw [heq, hdrains]
        refine ⟨h.call, fun hfalse => (by cases hfalse), ?_, h.starts, ?_⟩
        · rw [hstarts]
          exact Nat.le_refl 1
        · intro d hd
          rw [List.mem_singleton.1 hd]
          exact hid
    · exact h
  | publish =>
    simp only [step]
    rcases publish_cases h with heq | ⟨conn, session, hstarts, hdrains, hcall, heq⟩
    · rw [heq]
      exact h
    · rw [heq]
      refine ⟨calls_storeCall h.call, ?_, Nat.le_refl 1, fun _ hnone => absurd hnone List.not_mem_nil, ?_⟩
      · intro huncalled
        have hnone := (h.uncalled huncalled).1
        rw [hstarts] at hnone
        cases hnone
      · intro d hd
        rw [List.mem_singleton.1 hd]
  | handOver =>
    simp only [step]
    rcases handOver_cases h with heq | ⟨d, packet, rest, hdrains, hpackets, heq⟩
    · rw [heq]
      exact h
    · rw [heq]
      refine ⟨h.call, ?_, ?_, h.starts, ?_⟩
      · intro huncalled
        have hnone := (h.uncalled huncalled).2
        rw [hdrains] at hnone
        cases hnone
      · have hsingle := h.single
        rwa [hdrains] at hsingle
      · intro d' hd'
        rw [List.mem_singleton.1 hd']
        exact h.drains d (by rw [hdrains]; exact List.mem_singleton.2 rfl)
  | graphTurn =>
    simp only [step]
    rcases graphTurn_cases h with heq | ⟨d, session, hdrains, hpackets, hcall, ⟨hempty, heq⟩ | heq⟩
    · rw [heq]
      exact h
    · rw [heq]
      refine ⟨h.call, ?_, ?_, h.starts, fun _ hnone => absurd hnone List.not_mem_nil⟩
      · exact fun huncalled => ⟨(h.uncalled huncalled).1, rfl⟩
      · have hsingle := h.single
        rw [hdrains, List.length_singleton] at hsingle
        simp only [List.length_nil]
        omega
    · rw [heq]
      refine ⟨calls_storeCall h.call, ?_, ?_, h.starts, ?_⟩
      · intro huncalled
        have hnone := (h.uncalled huncalled).2
        rw [hdrains] at hnone
        cases hnone
      · have hsingle := h.single
        rwa [hdrains] at hsingle
      · intro d' hd'
        rw [List.mem_singleton.1 hd']
        exact h.drains d (by rw [hdrains]; exact List.mem_singleton.2 rfl)

theorem Young.of_queue (h : r.Young callId) {r' : StartRun} (hdirect : r'.sections.direct = r.sections.direct)
    (hreceived : r'.sections.received = r.sections.received)
    (hqueue : ∀ packet ∈ r'.queue callId, packet ∈ r.queue callId) (haccepted : r'.accepted = r.accepted)
    (hdropped : r'.dropped = r.dropped) : r'.Young callId where
  direct := by rw [hdirect]; exact h.direct
  numbered := by rw [hdirect, hreceived]; exact h.numbered
  queued := by
    intro packet hpacket
    rw [hreceived]
    exact h.queued packet (hqueue packet hpacket)
  settled := by rw [haccepted, hdropped, hdirect, hreceived]; exact h.settled
  nodup := by rw [haccepted]; exact h.nodup

theorem young_received (h : r.Young callId) {id : ℤ} {data : Bytes} {r' : StartRun} (hnone : r.sections.direct = [])
    (hreceived : r.Received callId id { number := r.sections.received, data := data } r') : r'.Young callId := by
  have hsettled : ∀ packet ∈ r.accepted ++ r.dropped, packet.number < r.sections.received :=
    fun packet hpacket => (h.settled packet hpacket).1
  have hdirect : ∀ d ∈ r.sections.direct, d.packet.number < r.sections.received + 1 := by
    rw [hnone]
    exact fun d hd => absurd hd List.not_mem_nil
  have hlater : ∀ packet ∈ r.accepted ++ r.dropped, packet.number < r.sections.received + 1 ∧
      ∀ d ∈ r.sections.direct, packet.number < d.packet.number :=
    fun packet hpacket => ⟨Nat.lt_succ_of_lt (hsettled packet hpacket), (h.settled packet hpacket).2⟩
  cases hreceived with
  | unheard =>
    exact ⟨h.direct, hdirect, fun packet hpacket => Nat.lt_succ_of_lt (h.queued packet hpacket), hlater, h.nodup⟩
  | other session hid =>
    refine ⟨h.direct, hdirect, ?_, hlater, h.nodup⟩
    intro packet hpacket
    rw [queue, SignalingEngine.storeCall_of_ne hid.symm] at hpacket
    exact Nat.lt_succ_of_lt (h.queued packet hpacket)
  | queued session hcall hid hclosed =>
    set newest : Packet := { number := r.sections.received, data := data } with hnewest
    have hqueue : ∀ packet ∈ session.pendingSignalingPackets ++ [newest], packet.number < r.sections.received + 1 := by
      intro packet hpacket
      rcases List.mem_append.1 hpacket with hold | hnew
      · exact Nat.lt_succ_of_lt (h.queued packet (by rwa [queue_of_calls hcall]))
      · rw [List.mem_singleton.1 hnew]
        exact Nat.lt_succ_self _
    refine ⟨h.direct, hdirect, ?_, ?_, ?_⟩
    · intro packet hpacket
      rw [queue_of_calls (SignalingEngine.storeCall_self ..)] at hpacket
      exact hqueue packet (List.mem_of_mem_drop hpacket)
    · intro packet hpacket
      refine ⟨?_, fun d hd => absurd (hnone ▸ hd) List.not_mem_nil⟩
      simp only [List.append_assoc, List.mem_append] at hpacket
      rcases hpacket with haccepted | hnew | hdropped | hevicted
      · exact (hlater packet (List.mem_append_left _ haccepted)).1
      · rw [List.mem_singleton.1 hnew]
        exact Nat.lt_succ_self _
      · exact (hlater packet (List.mem_append_right _ hdropped)).1
      · exact hqueue packet (List.mem_of_mem_take hevicted)
    · refine List.nodup_append.2 ⟨h.nodup, List.nodup_singleton _, ?_⟩
      rintro packet hpacket packet' hpacket' rfl
      have hlt := hsettled packet (List.mem_append_left _ hpacket)
      rw [List.mem_singleton.1 hpacket'] at hlt
      exact absurd hlt (lt_irrefl _)
  | direct session backend hcall hopen hbackend =>
    refine ⟨Nat.le_refl 1, ?_, ?_, ?_, h.nodup⟩
    · intro d hd
      rw [List.mem_singleton.1 hd]
      exact Nat.lt_succ_self _
    · intro packet hpacket
      by_cases hid : callId = id
      · subst hid
        rw [queue_of_calls (SignalingEngine.storeCall_self ..)] at hpacket
        exact Nat.lt_succ_of_lt (h.queued packet (by rw [queue_of_calls hcall]; exact hpacket))
      · rw [queue, SignalingEngine.storeCall_of_ne hid] at hpacket
        exact Nat.lt_succ_of_lt (h.queued packet hpacket)
    · intro packet hpacket
      refine ⟨(hlater packet hpacket).1, ?_⟩
      intro d hd
      rw [List.mem_singleton.1 hd]
      exact hsettled packet hpacket

theorem deliver_cases (callId : ℤ) (h : r.sections.direct.length ≤ 1) (graphError : Option VoipError) :
    r.sections.direct = [] ∧ r.deliver callId graphError = r ∨ ∃ d, r.sections.direct = [d] ∧
      (¬ (d.callId = callId ∧ d.backend.receive d.packet.data graphError = none) ∧
          r.deliver callId graphError = { r with sections := { r.sections with direct := [] } } ∨
        (d.callId = callId ∧ d.backend.receive d.packet.data graphError = none) ∧
          r.deliver callId graphError = { r with
            sections := { r.sections with direct := [] }
            accepted := r.accepted ++ [d.packet]
            delivered := if d.backend.serves callId then r.delivered ++ [d.packet] else r.delivered }) := by
  cases hdirect : r.sections.direct with
  | nil =>
    left
    simp only [deliver, hdirect, and_self]
  | cons d rest =>
    rw [hdirect, List.length_cons] at h
    obtain rfl : rest = [] := List.length_eq_zero_iff.1 (by omega)
    refine .inr ⟨d, rfl, ?_⟩
    by_cases hcounts : d.callId = callId ∧ d.backend.receive d.packet.data graphError = none
    · exact .inr ⟨hcounts, by simp only [deliver, hdirect, if_pos hcounts]⟩
    · exact .inl ⟨hcounts, by simp only [deliver, hdirect, if_neg hcounts]⟩

theorem young_deliver (h : r.Young callId) (graphError : Option VoipError) :
    (r.deliver callId graphError).Young callId := by
  rcases deliver_cases callId h.direct graphError with ⟨-, heq⟩ | ⟨d, hdirect, ⟨-, heq⟩ | ⟨-, heq⟩⟩
  · rw [heq]
    exact h
  · rw [heq]
    refine ⟨Nat.zero_le 1, fun _ hnone => absurd hnone List.not_mem_nil, h.queued, ?_, h.nodup⟩
    exact fun packet hpacket => ⟨(h.settled packet hpacket).1, fun _ hnone => absurd hnone List.not_mem_nil⟩
  · have hd : d ∈ r.sections.direct := by rw [hdirect]; exact List.mem_singleton.2 rfl
    rw [heq]
    refine ⟨Nat.zero_le 1, fun _ hnone => absurd hnone List.not_mem_nil, h.queued, ?_, ?_⟩
    · intro packet hpacket
      refine ⟨?_, fun _ hnone => absurd hnone List.not_mem_nil⟩
      simp only [List.append_assoc, List.mem_append] at hpacket
      rcases hpacket with haccepted | hnew | hdropped
      · exact (h.settled packet (List.mem_append_left _ haccepted)).1
      · rw [List.mem_singleton.1 hnew]
        exact h.numbered d hd
      · exact (h.settled packet (List.mem_append_right _ hdropped)).1
    · refine List.nodup_append.2 ⟨h.nodup, List.nodup_singleton _, ?_⟩
      rintro packet hpacket packet' hpacket' rfl
      have hlt := (h.settled packet (List.mem_append_left _ hpacket)).2 d hd
      rw [List.mem_singleton.1 hpacket'] at hlt
      exact absurd hlt (lt_irrefl _)

/-- **An event keeps the packets in the order of their numbers.** -/
theorem young_step (hone : r.OneStart callId) (h : r.Young callId) (ev : StartEvent) :
    (r.step callId P ev).Young callId := by
  cases ev with
  | receive id data =>
    simp only [step]
    rcases receive_cases callId r id data with heq | ⟨hnone, hreceived⟩
    · rw [heq]
      exact h
    · exact young_received h hnone hreceived
  | deliver graphError => exact young_deliver h graphError
  | startMedia descriptor id input =>
    simp only [step]
    split_ifs
    · rcases r.sections.startMedia_cases P descriptor id input none with heq | ⟨conn, -, -, heq⟩ | ⟨-, heq⟩ <;> rw [heq]
      · exact h.of_queue rfl rfl (fun _ hpacket => hpacket) rfl rfl
      · exact h.of_queue rfl rfl (fun _ hpacket => hpacket) rfl rfl
      · exact h.of_queue rfl rfl (fun _ hpacket => hpacket) rfl rfl
    · exact h
  | publish =>
    simp only [step]
    rcases publish_cases hone with heq | ⟨conn, session, hstarts, hdrains, hcall, heq⟩
    · rw [heq]
      exact h
    · rw [heq]
      refine h.of_queue rfl rfl ?_ rfl rfl
      intro packet hpacket
      rw [queue_of_calls (SignalingEngine.storeCall_self ..)] at hpacket
      exact absurd hpacket List.not_mem_nil
  | handOver =>
    simp only [step]
    rcases handOver_cases hone with heq | ⟨d, packet, rest, hdrains, hpackets, heq⟩
    · rw [heq]
      exact h
    · rw [heq]
      exact h.of_queue rfl rfl (fun _ hpacket => hpacket) rfl rfl
  | graphTurn =>
    simp only [step]
    rcases graphTurn_cases hone with heq | ⟨d, session, hdrains, hpackets, hcall, ⟨hempty, heq⟩ | heq⟩
    · rw [heq]
      exact h
    · rw [heq]
      exact h.of_queue rfl rfl (fun _ hpacket => hpacket) rfl rfl
    · rw [heq]
      refine h.of_queue rfl rfl ?_ rfl rfl
      intro packet hpacket
      rw [queue_of_calls (SignalingEngine.storeCall_self ..)] at hpacket
      exact absurd hpacket List.not_mem_nil

/-! ### The order -/

theorem filter_notMem_take {α : Type*} [DecidableEq α] {a l : List α} (h : (a ++ l).Nodup) (k : ℕ) :
    (a ++ l).filter (fun x => x ∉ l.take k) = a ++ l.drop k := by
  obtain ⟨-, hl, hdisjoint⟩ := List.nodup_append.1 h
  have hkept : a.filter (fun x => x ∉ l.take k) = a := by
    rw [List.filter_eq_self]
    intro x hx
    rw [decide_eq_true_eq]
    exact fun htake => hdisjoint x hx x (List.mem_of_mem_take htake) rfl
  have hgone : (l.take k).filter (fun x => x ∉ l.take k) = [] := by
    rw [List.filter_eq_nil_iff]
    intro x hx
    rw [decide_eq_true_eq]
    exact not_not.2 hx
  have hrest : (l.drop k).filter (fun x => x ∉ l.take k) = l.drop k := by
    rw [List.filter_eq_self]
    intro x hx
    rw [decide_eq_true_eq]
    rw [← List.take_append_drop k l] at hl
    exact fun htake => (List.nodup_append.1 hl).2.2 x htake x hx rfl
  have hsplit : l.filter (fun x => x ∉ l.take k) = l.drop k := by
    conv_lhs => rw [← List.take_append_drop k l, List.filter_append]
    simp only [List.take_append_drop] at hgone hrest ⊢
    rw [hgone, hrest, List.nil_append]
  rw [List.filter_append, hkept, hsplit]

theorem ordered_queued {accepted dropped before : List Packet} {session : CallSession} {n : ℕ} (packet : Packet)
    (hsettled : ∀ q ∈ accepted ++ dropped, q.number < n) (hnumber : packet.number = n) (hnodup : accepted.Nodup)
    (h : (accepted.filter fun q => q ∉ dropped) = before ++ session.pendingSignalingPackets) :
    ((accepted ++ [packet]).filter fun q => q ∉ dropped ++ ((session.count packet).queuePendingSignaling packet).2) =
      before ++ ((session.count packet).queuePendingSignaling packet).1.pendingSignalingPackets := by
  have hnew : ∀ q ∈ accepted ++ dropped, q ≠ packet := by
    rintro q hq rfl
    have hlt := hsettled q hq
    omega
  have hkept : ((accepted ++ [packet]).filter fun q => q ∉ dropped)
      = before ++ (session.pendingSignalingPackets ++ [packet]) := by
    have hpacket : packet ∉ dropped := fun hmem => hnew packet (List.mem_append_right _ hmem) rfl
    rw [List.filter_append, h, List.filter_singleton, List.append_assoc]
    simp only [hpacket, not_false_eq_true, decide_true, Bool.cond_true]
  have hdistinct : (before ++ (session.pendingSignalingPackets ++ [packet])).Nodup := by
    rw [← hkept]
    refine (List.nodup_append.2 ⟨hnodup, List.nodup_singleton _, ?_⟩).filter _
    intro q hq q' hq'
    rw [List.mem_singleton.1 hq']
    exact hnew q (List.mem_append_left _ hq)
  have hafter := filter_notMem_take hdistinct (surplus (session.pendingSignalingPackets ++ [packet]))
  rw [← hkept, List.filter_filter] at hafter
  refine Eq.trans (List.filter_congr fun q _ => ?_) hafter
  simp only [CallSession.queuePendingSignaling, CallSession.count, List.mem_append, not_or, Bool.decide_and]
  exact Bool.and_comm _ _

theorem Ordered.congr (h : r.Ordered callId) {r' : StartRun} (haccepted : r'.accepted = r.accepted)
    (hdropped : r'.dropped = r.dropped)
    (hwaiting : r'.delivered ++ r'.waiting callId = r.delivered ++ r.waiting callId) : r'.Ordered callId := by
  rw [Ordered, haccepted, hdropped, hwaiting]
  exact h

theorem ordered_received (hyoung : r.Young callId) (h : r.Ordered callId) {id : ℤ} {data : Bytes} {r' : StartRun}
    (hreceived : r.Received callId id { number := r.sections.received, data := data } r') : r'.Ordered callId := by
  cases hreceived with
  | unheard => exact h
  | other session hid =>
    refine h.congr rfl rfl ?_
    simp only [waiting, queue, SignalingEngine.storeCall_of_ne (Ne.symm hid)]
  | queued session hcall hid hclosed =>
    have hsettled : ∀ q ∈ r.accepted ++ r.dropped, q.number < r.sections.received := fun q hq => (hyoung.settled q hq).1
    have hbefore := h
    rw [Ordered, waiting, queue_of_calls hcall, ← List.append_assoc] at hbefore
    have hafter := ordered_queued { number := r.sections.received, data := data } hsettled rfl hyoung.nodup hbefore
    rw [Ordered, waiting, queue_of_calls (SignalingEngine.storeCall_self ..), ← List.append_assoc]
    exact hafter
  | direct session backend hcall hopen hbackend =>
    refine h.congr rfl rfl ?_
    by_cases hid : callId = id
    · subst hid
      simp only [waiting, queue, SignalingEngine.storeCall_self, hcall, Option.map_some, CallSession.count]
    · simp only [waiting, queue, SignalingEngine.storeCall_of_ne hid]

theorem ordered_deliver_iff (hyoung : r.Young callId) (h : r.Ordered callId) (graphError : Option VoipError) :
    (r.deliver callId graphError).Ordered callId ↔ r.OvertakesNone callId (.deliver graphError) := by
  rcases deliver_cases callId hyoung.direct graphError with ⟨hdirect, heq⟩ | ⟨d, hdirect, hcases⟩
  · rw [heq]
    refine iff_of_true h ?_
    intro d hd
    rw [hdirect] at hd
    exact absurd hd List.not_mem_nil
  have hmem : d ∈ r.sections.direct := by rw [hdirect]; exact List.mem_singleton.2 rfl
  rcases hcases with ⟨hcounts, heq⟩ | ⟨hcounts, heq⟩
  · rw [heq]
    refine iff_of_true h ?_
    intro d' hd' hid hanswer
    rw [hdirect] at hd'
    obtain rfl := List.mem_singleton.1 hd'
    exact absurd ⟨hid, hanswer⟩ hcounts
  have hguard : r.OvertakesNone callId (.deliver graphError) ↔
      d.backend.serves callId = true ∧ r.waiting callId = [] := by
    simp only [OvertakesNone, hdirect, List.mem_singleton, forall_eq]
    exact ⟨fun hall => hall hcounts.1 hcounts.2, fun hkept _ _ => hkept⟩
  have hnew : ∀ q ∈ r.accepted ++ r.dropped, q ≠ d.packet := by
    rintro q hq rfl
    exact absurd ((hyoung.settled _ hq).2 d hmem) (lt_irrefl _)
  have hwaits : d.packet ∉ r.waiting callId := by
    intro hwaits
    have haccepted : d.packet ∈ r.accepted.filter fun packet => packet ∉ r.dropped := by
      rw [h]
      exact List.mem_append_right _ hwaits
    exact hnew _ (List.mem_append_left _ (List.mem_of_mem_filter haccepted)) rfl
  have hkept : ((r.accepted ++ [d.packet]).filter fun packet => packet ∉ r.dropped)
      = r.delivered ++ r.waiting callId ++ [d.packet] := by
    have hpacket : d.packet ∉ r.dropped := fun hdropped => hnew _ (List.mem_append_right _ hdropped) rfl
    rw [List.filter_append, h, List.filter_singleton]
    simp only [hpacket, not_false_eq_true, decide_true, Bool.cond_true]
  rw [heq, hguard]
  simp only [Ordered]
  rw [hkept]
  cases hserves : d.backend.serves callId with
  | false =>
    refine iff_of_false ?_ fun hfalse => by cases hfalse.1
    intro hlists
    have hlen := congrArg List.length hlists
    simp only [Bool.false_eq_true, if_false, waiting, queue, List.length_append, List.length_singleton] at hlen
    omega
  | true =>
    simp only [if_true, true_and, List.append_assoc, List.append_cancel_left_eq]
    constructor
    · intro hlists
      cases hwaiting : r.waiting callId with
      | nil => rfl
      | cons q rest =>
        rw [hwaiting] at hwaits
        have hhead : q = d.packet := by
          have hcons : q :: (rest ++ [d.packet]) = d.packet :: r.waiting callId := by
            rw [← List.cons_append, ← hwaiting]
            exact hlists
          exact (List.cons.inj hcons).1
        exact absurd (hhead ▸ List.mem_cons_self) hwaits
    · intro hnone
      have hwaiting : r.waiting callId = [] := hnone
      have hafter : StartRun.waiting callId { r with
          sections := { r.sections with direct := [] }
          accepted := r.accepted ++ [d.packet]
          delivered := r.delivered ++ [d.packet] } = [] := hwaiting
      rw [hnone]
      exact congrArg (d.packet :: ·) hafter.symm

/-- **An event keeps the order exactly when it overtakes no packet.** -/
theorem ordered_step_iff (hone : r.OneStart callId) (hyoung : r.Young callId) (h : r.Ordered callId) (ev : StartEvent) :
    (r.step callId P ev).Ordered callId ↔ r.OvertakesNone callId ev := by
  cases ev with
  | receive id data =>
    refine iff_of_true ?_ trivial
    simp only [step]
    rcases receive_cases callId r id data with heq | ⟨-, hreceived⟩
    · rw [heq]
      exact h
    · exact ordered_received hyoung h hreceived
  | deliver graphError => exact ordered_deliver_iff hyoung h graphError
  | startMedia descriptor id input =>
    refine iff_of_true ?_ trivial
    simp only [step]
    split_ifs
    · rcases r.sections.startMedia_cases P descriptor id input none with heq | ⟨conn, -, -, heq⟩ | ⟨-, heq⟩ <;> rw [heq]
      · exact h
      · exact h.congr rfl rfl rfl
      · refine h.congr rfl rfl ?_
        simp only [waiting, List.flatMap_append, List.flatMap_singleton, List.append_nil, queue]
    · exact h
  | publish =>
    refine iff_of_true ?_ trivial
    simp only [step]
    rcases publish_cases hone with heq | ⟨conn, session, hstarts, hdrains, hcall, heq⟩
    · rw [heq]
      exact h
    · rw [heq]
      refine h.congr rfl rfl ?_
      simp only [waiting, queue, hdrains, hcall, SignalingEngine.storeCall_self, List.flatMap_singleton, List.flatMap_nil,
        Option.map_some, Option.getD_some, List.append_nil, List.nil_append]
  | handOver =>
    refine iff_of_true ?_ trivial
    simp only [step]
    rcases handOver_cases hone with heq | ⟨d, packet, rest, hdrains, hpackets, heq⟩
    · rw [heq]
      exact h
    · rw [heq]
      refine h.congr rfl rfl ?_
      simp only [waiting, queue, hdrains, hpackets, List.flatMap_singleton, List.append_assoc, List.cons_append,
        List.nil_append]
  | graphTurn =>
    refine iff_of_true ?_ trivial
    simp only [step]
    rcases graphTurn_cases hone with heq | ⟨d, session, hdrains, hpackets, hcall, ⟨hempty, heq⟩ | heq⟩
    · rw [heq]
      exact h
    · rw [heq]
      refine h.congr rfl rfl ?_
      simp only [waiting, queue, hdrains, hpackets, List.flatMap_singleton, List.flatMap_nil]
    · rw [heq]
      refine h.congr rfl rfl ?_
      simp only [waiting, queue, hdrains, hpackets, hcall, SignalingEngine.storeCall_self, List.flatMap_singleton,
        Option.map_some, Option.getD_some, List.append_nil, List.nil_append]

/-! ### Runs -/

theorem number_lt {queue : List Bytes} {packet : Packet} (h : packet ∈ number queue) : packet.number < queue.length := by
  obtain ⟨⟨data, n⟩, hentry, rfl⟩ := List.mem_map.1 h
  obtain ⟨-, hlt, -⟩ := List.mem_zipIdx hentry
  rwa [Nat.zero_add] at hlt

theorem nodup_number (queue : List Bytes) : (number queue).Nodup := by
  refine List.Nodup.of_map Packet.number ?_
  have hnumbers : (number queue).map Packet.number = List.range' 0 queue.length := by
    simp only [number, List.map_map]
    exact List.zipIdx_map_snd 0 queue
  rw [hnumbers]
  exact List.nodup_range'

variable (callId) in
theorem oneStart_start (e : SignalingEngine) (session : CallSession) (queue : List Bytes) :
    (start callId e session queue).OneStart callId where
  call := ⟨_, SignalingEngine.storeCall_self ..⟩
  uncalled := fun _ => ⟨rfl, rfl⟩
  single := Nat.zero_le 1
  starts := fun _ hnone => absurd hnone List.not_mem_nil
  drains := fun _ hnone => absurd hnone List.not_mem_nil

theorem queue_start (e : SignalingEngine) (session : CallSession) (waiting : List Bytes) :
    (start callId e session waiting).queue callId = number waiting := by
  have hcall : (start callId e session waiting).sections.engine.calls callId
      = some { session with pendingSignalingPackets := number waiting } := SignalingEngine.storeCall_self ..
  exact queue_of_calls hcall

theorem young_start (e : SignalingEngine) (session : CallSession) (queue : List Bytes) :
    (start callId e session queue).Young callId where
  direct := Nat.zero_le 1
  numbered := fun _ hnone => absurd hnone List.not_mem_nil
  queued := by
    intro packet hpacket
    rw [queue_start] at hpacket
    exact number_lt hpacket
  settled := by
    intro packet hpacket
    refine ⟨?_, fun _ hnone => absurd hnone List.not_mem_nil⟩
    simp only [start, List.append_nil] at hpacket
    exact number_lt hpacket
  nodup := nodup_number queue

theorem ordered_start (e : SignalingEngine) (session : CallSession) (queue : List Bytes) :
    (start callId e session queue).Ordered callId := by
  rw [Ordered, waiting, queue_start]
  simp only [start, List.flatMap_nil, List.nil_append, List.not_mem_nil, not_false_eq_true, decide_true, List.filter_true]

/-- **When the media receives the signaling in order.**  From every engine that knows the call and every queue, in every
interleaving of the two threads, at every point of it, the packets that were accepted and not dropped reach the media in
their order, exactly when every packet that goes past the queue goes to a backend of the call and overtakes none. -/
theorem ordered_iff (P : Platform) (callId : ℤ) (e : SignalingEngine) (session : CallSession) (queue : List Bytes)
    (events : List StartEvent) :
    (∀ pre, pre <+: events → (run (step callId P) (start callId e session queue) pre).Ordered callId) ↔
      Guarded (step callId P) (OvertakesNone callId) (start callId e session queue) events := by
  have hinv : ∀ (r : StartRun) ev, r.OneStart callId ∧ r.Young callId →
      (r.step callId P ev).OneStart callId ∧ (r.step callId P ev).Young callId :=
    fun r ev h => ⟨oneStart_step h.1 ev, young_step h.1 h.2 ev⟩
  have hstep : ∀ (r : StartRun) ev, r.OneStart callId ∧ r.Young callId → r.Ordered callId →
      ((r.step callId P ev).Ordered callId ↔ r.OvertakesNone callId ev) :=
    fun r ev hinv h => ordered_step_iff hinv.1 hinv.2 h ev
  exact reached_iff_guarded hinv hstep events ⟨oneStart_start callId e session queue, young_start e session queue⟩
    (ordered_start e session queue)

/-! ### The graph -/

/-- No connection is there, and the way to the graph is open to the call only when none of its packets waits. -/
structure GraphOnly (callId : ℤ) (r : StartRun) : Prop where
  connection : r.sections.engine.tgcallsConnection = none
  starts : r.sections.starts = []
  opened : r.sections.engine.OpenFor callId → r.waiting callId = []
  direct : ∀ d ∈ r.sections.direct, d.backend = none ∧ (d.callId = callId → r.sections.engine.OpenFor callId)

theorem startMedia_of_noReflectors {descriptor : VoipCallStartDescriptor} (s : SectionState) (id : ℕ)
    (input : TgcallsConnection.StartInput) (h : descriptor.endpoints.filterMap toReflectorEndpoint = []) :
    s.startMedia P descriptor id input none = s ∨ s.startMedia P descriptor id input none
      = { s with drains := s.drains ++ [{ callId := descriptor.callId, backend := none }] } := by
  unfold SectionState.startMedia
  split
  · exact .inl rfl
  split
  · exact .inl rfl
  split
  · exact .inl rfl
  split
  · exact .inl rfl
  rw [h]
  simp only [if_true]
  split
  · exact .inr rfl
  · exact .inl rfl

theorem graphOnly_received (h : r.GraphOnly callId) {id : ℤ} {packet : Packet} {r' : StartRun}
    (hreceived : r.Received callId id packet r') : r'.GraphOnly callId := by
  cases hreceived with
  | unheard => exact ⟨h.connection, h.starts, h.opened, h.direct⟩
  | other session hid =>
    refine ⟨h.connection, h.starts, ?_, h.direct⟩
    intro hopen
    have hwaiting := h.opened hopen
    simpa only [waiting, queue, SignalingEngine.storeCall_of_ne (Ne.symm hid)] using hwaiting
  | queued session hcall hid hclosed => exact ⟨h.connection, h.starts, fun hopen => absurd hopen hclosed, h.direct⟩
  | direct session backend hcall hopen hbackend =>
    refine ⟨h.connection, h.starts, ?_, ?_⟩
    · intro hopened
      have hwaiting := h.opened hopened
      by_cases hid : callId = id
      · subst hid
        simpa only [waiting, queue, SignalingEngine.storeCall_self, hcall, Option.map_some, CallSession.count] using hwaiting
      · simpa only [waiting, queue, SignalingEngine.storeCall_of_ne hid] using hwaiting
    · intro d hd
      rw [List.mem_singleton.1 hd]
      refine ⟨hbackend.trans h.connection, ?_⟩
      rintro rfl
      exact hopen

theorem graphOnly_step (hone : r.OneStart callId) (hyoung : r.Young callId) (h : r.GraphOnly callId) (ev : StartEvent)
    (hgraph : ev.OverGraph) : (r.step callId P ev).GraphOnly callId := by
  cases ev with
  | receive id data =>
    simp only [step]
    rcases receive_cases callId r id data with heq | ⟨-, hreceived⟩
    · rw [heq]
      exact h
    · exact graphOnly_received h hreceived
  | deliver graphError =>
    simp only [step]
    have hnone : ∀ d ∈ ([] : List DirectDelivery), d.backend = none ∧
        (d.callId = callId → r.sections.engine.OpenFor callId) := fun _ hnone => absurd hnone List.not_mem_nil
    rcases deliver_cases callId hyoung.direct graphError with ⟨-, heq⟩ | ⟨d, -, ⟨-, heq⟩ | ⟨-, heq⟩⟩
    · rw [heq]
      exact h
    · rw [heq]
      exact ⟨h.connection, h.starts, h.opened, hnone⟩
    · rw [heq]
      exact ⟨h.connection, h.starts, h.opened, hnone⟩
  | startMedia descriptor id input =>
    simp only [step]
    split_ifs
    · rcases startMedia_of_noReflectors (P := P) r.sections id input hgraph with heq | heq
      · rw [heq]
        exact ⟨h.connection, h.starts, h.opened, h.direct⟩
      · rw [heq]
        refine ⟨h.connection, h.starts, ?_, h.direct⟩
        intro hopen
        have hwaiting := h.opened hopen
        simpa only [waiting, queue, List.flatMap_append, List.flatMap_singleton, List.append_nil] using hwaiting
    · exact h
  | publish =>
    simp only [step]
    rcases publish_cases hone with heq | ⟨conn, session, hstarts, -, -, -⟩
    · rw [heq]
      exact h
    · rw [h.starts] at hstarts
      cases hstarts
  | handOver =>
    simp only [step]
    rcases handOver_cases hone with heq | ⟨d, packet, rest, hdrains, hpackets, heq⟩
    · rw [heq]
      exact h
    · rw [heq]
      refine ⟨h.connection, h.starts, ?_, h.direct⟩
      intro hopen
      have hwaiting := h.opened hopen
      simp only [waiting, hdrains, List.flatMap_singleton, hpackets, List.cons_append] at hwaiting
      cases hwaiting
  | graphTurn =>
    simp only [step]
    rcases graphTurn_cases hone with heq | ⟨d, session, hdrains, hpackets, hcall, ⟨hempty, heq⟩ | heq⟩
    · rw [heq]
      exact h
    · rw [heq]
      refine ⟨h.connection, h.starts, ?_, ?_⟩
      · intro _
        simp only [waiting, queue, List.flatMap_nil, List.nil_append, hcall, Option.map_some, Option.getD_some, hempty]
      · exact fun d' hd' => ⟨(h.direct d' hd').1, fun hid => ⟨rfl, ((h.direct d' hd').2 hid).2⟩⟩
    · rw [heq]
      refine ⟨h.connection, h.starts, ?_, h.direct⟩
      intro hopen
      have hwaiting := h.opened hopen
      simpa only [waiting, queue, hdrains, hpackets, hcall, SignalingEngine.storeCall_self, List.flatMap_singleton,
        Option.map_some, Option.getD_some, List.append_nil, List.nil_append] using hwaiting

/-- What holds of a run over the graph. -/
structure OrderedOverGraph (callId : ℤ) (r : StartRun) : Prop where
  oneStart : r.OneStart callId
  young : r.Young callId
  ordered : r.Ordered callId
  graphOnly : r.GraphOnly callId

theorem orderedOverGraph_step (r : StartRun) (ev : StartEvent) (h : OrderedOverGraph callId r) (hev : ev.OverGraph) :
    OrderedOverGraph callId (r.step callId P ev) := by
  refine ⟨oneStart_step h.oneStart ev, young_step h.oneStart h.young ev, ?_,
    graphOnly_step h.oneStart h.young h.graphOnly ev hev⟩
  refine (ordered_step_iff h.oneStart h.young h.ordered ev).2 ?_
  cases ev with
  | deliver graphError =>
    -- the graph is open, so nothing waits any more
    intro d hd hid _
    obtain ⟨hbackend, hopened⟩ := h.graphOnly.direct d hd
    rw [hbackend]
    exact ⟨rfl, h.graphOnly.opened (hopened hid)⟩
  | _ => trivial

/-- **Over the graph the signaling arrives in order**: `StartMedia` opens the way past the queue once this is empty, in
the same part. -/
theorem ordered_of_graph {e : SignalingEngine} {session : CallSession} {queue : List Bytes} {events : List StartEvent}
    (hconnection : e.tgcallsConnection = none) (hopen : e.OpenFor callId → queue = [])
    (hgraph : ∀ ev ∈ events, ev.OverGraph) :
    (run (step callId P) (start callId e session queue) events).Ordered callId := by
  have honly : (start callId e session queue).GraphOnly callId := by
    refine ⟨hconnection, rfl, ?_, fun _ hnone => absurd hnone List.not_mem_nil⟩
    intro hopened
    rw [waiting, queue_start, hopen hopened]
    rfl
  have hstart : OrderedOverGraph callId (start callId e session queue) :=
    ⟨oneStart_start callId e session queue, young_start e session queue, ordered_start e session queue, honly⟩
  have hguard : Guarded (step callId P) (fun _ ev => ev.OverGraph) (start callId e session queue) events :=
    guarded_of_forall_mem fun ev hev _ => hgraph ev hev
  exact (invariant_run orderedOverGraph_step hstart hguard).ordered

/-! ### A packet that overtakes another one -/

def reflectorDescriptor : VoipCallStartDescriptor where
  callId := 1
  isInitiator := true
  libraryVersions := ["11.0.0"]
  keyHandle := handleForCall 1
  endpoints := [{ id := 7, ip := "149.154.175.50", port := 443, peerTag := List.replicate 16 1 }]

/-- A packet comes while `StartMedia` has one of the queue left to hand over. -/
def sampleOvertaking : List StartEvent :=
  [.startMedia reflectorDescriptor 0
      { generate := some {}, ufrag := "", pwd := "", ssrc := 0, emitError := none, openError := fun _ => none },
    .publish, .receive 1 [6], .deliver none]

/-- The call, with a packet in its queue. -/
def sampleQueued : StartRun :=
  start 1 {} { callId := 1, sharedReady := true, sharedKey := List.replicate kDhBytes 1 } [[5]]

/-- **The connection has received the second packet and not the first.** -/
theorem signaling_overtaken :
    ¬ (run (step 1 Dtls.nullCrypto.toPlatform) sampleQueued sampleOvertaking).Ordered 1 ∧
      (run (step 1 Dtls.nullCrypto.toPlatform) sampleQueued sampleOvertaking).accepted = [⟨0, [5]⟩, ⟨1, [6]⟩] ∧
      (run (step 1 Dtls.nullCrypto.toPlatform) sampleQueued sampleOvertaking).delivered = [⟨1, [6]⟩] := by
  decide +kernel

end StartRun

end VianiumVoip.Engine
