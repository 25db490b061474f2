import VianiumVoip.Engine.DroppedCalls

/-!
# What becomes of the signaling of a call

A ledger of the packets of one call, kept next to the threads of the engine: those that `ReceiveSignalingData` has
returned no error for, those that a backend has taken, and those that the queue had no room for.  It is begun anew when
the call is dropped.

A key exchange writes the whole session back, with the queue and the counters that it has copied.
`conserved_iff` says which interleavings lose no packet and count each of them.
-/

namespace VianiumVoip.Engine

open VianiumVoip.Lib VianiumVoip.Lib.Run VianiumVoip.Cert VianiumVoip.Tgcalls

/-- What counts as a place for a packet that `StartMedia` has taken from the queue and not handed over. -/
inductive Reading
  /-- It is none: such a packet is neither queued nor delivered nor dropped. -/
  | strict
  /-- `StartMedia` holds the packet for the backend. -/
  | lenient
  deriving DecidableEq

/-- The packets of a call since it was opened.  Earlier packets have a smaller number than `firstNumber`. -/
structure Ledger where
  firstNumber : ℕ := 0
  accepted : List Packet := []
  delivered : List Packet := []
  evicted : List Packet := []

/-- The engine, and the ledger of a call. -/
structure SignalingRun where
  sections : SectionState
  ledger : Ledger := {}

/-- What a `ReceiveSignalingData` for the call is handing over. -/
def DirectDelivery.holds (callId : ℤ) (firstNumber : ℕ) (d : DirectDelivery) : List Packet :=
  if d.callId = callId ∧ firstNumber ≤ d.packet.number then [d.packet] else []

/-- What a `StartMedia` for the call has to hand over. -/
def Drain.holds (callId : ℤ) (firstNumber : ℕ) (d : Drain) : List Packet :=
  if d.callId = callId then d.packets.filter fun packet => firstNumber ≤ packet.number else []

/-- The session of a call; a call that has none shows what a new session has. -/
def SignalingEngine.session (e : SignalingEngine) (callId : ℤ) : CallSession := (e.calls callId).getD {}

/-- Two sessions with the same packets in their queues and the same counts of packets. -/
structure SameSignaling (session session' : CallSession) : Prop where
  pending : session'.pendingSignalingPackets.Perm session.pendingSignalingPackets
  received : session'.signalingPacketsReceived = session.signalingPacketsReceived
  dropped : session'.signalingPacketsDropped = session.signalingPacketsDropped

theorem SameSignaling.refl (session : CallSession) : SameSignaling session session := ⟨.refl _, rfl, rfl⟩

namespace SignalingRun

section Definitions

variable (callId : ℤ)

/-- What the part of an operation enters in the ledger. -/
def enter (r : SignalingRun) : Section → Ledger
  | .dropCall id => if id = callId then { firstNumber := r.sections.received } else r.ledger
  | .receive id data =>
    let packet : Packet := { number := r.sections.received, data := data }
    match (r.sections.engine.receiveSignalingData id packet).2 with
    | .queued evicted =>
      if id = callId then
        { r.ledger with
          accepted := r.ledger.accepted ++ [packet]
          evicted := r.ledger.evicted ++ evicted }
      else r.ledger
    | _ => r.ledger
  | .deliver k graphError =>
    match r.sections.direct[k]? with
    | none => r.ledger
    | some d =>
      match d.backend.receive d.packet.data graphError with
      | some _ => r.ledger
      | none =>
        { r.ledger with
          accepted := r.ledger.accepted ++ d.holds callId r.ledger.firstNumber
          delivered := r.ledger.delivered ++ d.holds callId r.ledger.firstNumber }
  | .handOver k graphError =>
    match r.sections.drains[k]? with
    | none => r.ledger
    | some d =>
      match d.packets with
      | [] => r.ledger
      | packet :: _ =>
        match d.backend.receive packet.data graphError with
        | some _ => r.ledger
        | none =>
          { r.ledger with
            delivered := r.ledger.delivered ++ { d with packets := [packet] }.holds callId r.ledger.firstNumber }
  | _ => r.ledger

def step (C : Crypto) (P : Platform) (r : SignalingRun) (ev : Section) : SignalingRun where
  sections := r.sections.step C P ev
  ledger := r.enter callId ev

/-- The packets that `ReceiveSignalingData` is handing over. -/
def inFlight (r : SignalingRun) : List Packet :=
  r.sections.direct.flatMap fun d => d.holds callId r.ledger.firstNumber

/-- The packets that `StartMedia` has taken from the queue and has not handed over. -/
def inTransit (r : SignalingRun) : List Packet :=
  r.sections.drains.flatMap fun d => d.holds callId r.ledger.firstNumber

/-- **The signaling of the call is conserved.**  The packets that were accepted are those in the queue, those delivered
and those dropped, each once; and the counters say how many were accepted, or are about to be, and how many dropped. -/
structure Conserved (reading : Reading) (r : SignalingRun) : Prop where
  accounted : r.ledger.accepted.Perm ((r.sections.engine.session callId).pendingSignalingPackets ++ r.ledger.delivered
    ++ r.ledger.evicted ++ r.inTransit callId)
  distinct : r.ledger.accepted.Nodup
  nowhereElse : reading = .strict → r.inTransit callId = []
  received : (r.sections.engine.session callId).signalingPacketsReceived
    = UInt32.ofNat (r.ledger.accepted.length + (r.inFlight callId).length)
  dropped : (r.sections.engine.session callId).signalingPacketsDropped = UInt32.ofNat r.ledger.evicted.length

/-- The condition on a part of an operation where it takes place: a session that is written over the session of the call
has the same packets and counts, and a backend refuses no packet of the call; where a packet must not be held by
`StartMedia`, this finds an empty queue. -/
def Keeps (reading : Reading) (r : SignalingRun) : Section → Prop
  | .bindOutgoingCall randomId id => 0 < id → id = callId → ∀ session,
      r.sections.engine.outgoingByRandom randomId = some session →
        SameSignaling (r.sections.engine.session callId) session
  | .writeBack thread => ∀ session, r.sections.copies thread = some (callId, session) →
      SameSignaling (r.sections.engine.session callId) session
  | .deliver k graphError => ∀ d, r.sections.direct[k]? = some d → d.holds callId r.ledger.firstNumber ≠ [] →
      d.backend.receive d.packet.data graphError = none
  | .publish k => reading = .strict → ∀ conn, r.sections.starts[k]? = some conn → conn.callId = callId →
      (r.sections.engine.session callId).pendingSignalingPackets = []
  | .handOver k graphError => ∀ d packet rest, r.sections.drains[k]? = some d → d.packets = packet :: rest →
      d.holds callId r.ledger.firstNumber ≠ [] → d.backend.receive packet.data graphError = none
  | .graphTurn k => reading = .strict → ∀ d, r.sections.drains[k]? = some d → d.callId = callId →
      d.backend.isNone ∧ d.packets = [] ∧ !d.refused → (r.sections.engine.session callId).pendingSignalingPackets = []
  | _ => True

end Definitions

variable {C : Crypto} {P : Platform} {callId : ℤ} {reading : Reading} {r r' : SignalingRun}

/-! ### Lists of threads -/

theorem perm_cons_eraseIdx {α : Type*} {l : List α} {k : ℕ} {a : α} (h : l[k]? = some a) :
    l.Perm (a :: l.eraseIdx k) := by
  obtain ⟨hk, rfl⟩ := List.getElem?_eq_some_iff.1 h
  exact (List.getElem_cons_eraseIdx_perm hk).symm

theorem perm_set {α : Type*} {l : List α} {k : ℕ} {a : α} (h : l[k]? = some a) (b : α) :
    (l.set k b).Perm (b :: l.eraseIdx k) := by
  obtain ⟨hk, -⟩ := List.getElem?_eq_some_iff.1 h
  exact List.set_perm_cons_eraseIdx hk b

/-! ### Numbers -/

/-- Every number in a list of packets is smaller. -/
def Older (n : ℕ) (packets : List Packet) : Prop := ∀ packet ∈ packets, packet.number < n

/-- So it is in every queue of a table of sessions. -/
def AllOlder (n : ℕ) (sessions : ℤ → Option CallSession) : Prop :=
  ∀ id session, sessions id = some session → Older n session.pendingSignalingPackets

/-- The packets that the engine and its threads hold have been numbered; a thread whose packet was refused holds none. -/
structure Numbered (s : SectionState) : Prop where
  calls : AllOlder s.received s.engine.calls
  outgoing : AllOlder s.received s.engine.outgoingByRandom
  copies : ∀ thread id session, s.copies thread = some (id, session) →
    Older s.received session.pendingSignalingPackets
  direct : ∀ d ∈ s.direct, d.packet.number < s.received
  drains : ∀ d ∈ s.drains, Older s.received d.packets
  refused : ∀ d ∈ s.drains, d.refused = true → d.packets = []

/-- **The numbers in the ledger**: those of the packets since the call was opened, and no two alike. -/
structure NumberedOnce (callId : ℤ) (r : SignalingRun) : Prop where
  sections : Numbered r.sections
  first : r.ledger.firstNumber ≤ r.sections.received
  fresh : ∀ packet ∈ r.ledger.accepted, r.ledger.firstNumber ≤ packet.number ∧ packet.number < r.sections.received
  nodup : (r.ledger.accepted ++ r.inFlight callId).Nodup

/-! ### What the engine shows of the call -/

theorem session_storeCall_self (e : SignalingEngine) (id : ℤ) (session : CallSession) :
    (e.storeCall id session).session id = session := by
  simp [SignalingEngine.session]

theorem session_storeCall_of_ne {e : SignalingEngine} {id id' : ℤ} {session : CallSession} (h : id' ≠ id) :
    (e.storeCall id session).session id' = e.session id' := by
  simp only [SignalingEngine.session, SignalingEngine.storeCall_of_ne h]

theorem session_of_calls {e : SignalingEngine} {id : ℤ} {session : CallSession} (h : e.calls id = some session) :
    e.session id = session := by
  rw [SignalingEngine.session, h, Option.getD_some]

theorem sameSignaling_storeCall {e : SignalingEngine} {id : ℤ} {session : CallSession}
    (h : id = callId → SameSignaling (e.session callId) session) :
    SameSignaling (e.session callId) ((e.storeCall id session).session callId) := by
  by_cases hid : callId = id
  · subst hid
    rw [session_storeCall_self]
    exact h rfl
  · rw [session_storeCall_of_ne hid]
    exact .refl _

theorem sameSignaling_registerIncomingGAHash (e : SignalingEngine) (id : ℤ) (gAHash : Bytes) :
    SameSignaling (e.session callId) ((e.registerIncomingGAHash id gAHash).session callId) := by
  unfold SignalingEngine.registerIncomingGAHash
  split_ifs
  · exact .refl _
  · exact .refl _
  · refine sameSignaling_storeCall ?_
    rintro rfl
    exact ⟨.refl _, rfl, rfl⟩

theorem session_createOutgoingDh (e : SignalingEngine) (randomId g : ℤ) (p : Bytes) (draws : ℕ → Draw) :
    (e.createOutgoingDh C randomId g p draws).session callId = e.session callId := by
  unfold SignalingEngine.createOutgoingDh
  split <;> rfl

theorem session_retractGraph (e : SignalingEngine) (id : ℤ) : (e.retractGraph id).session callId = e.session callId := by
  unfold SignalingEngine.retractGraph
  split_ifs <;> rfl

/-! ### Steps that leave the ledger and the threads alone -/

/-- **Where only a session is written**, the signaling stays conserved exactly when the session shows the same. -/
theorem conserved_iff_sameSignaling (h : r.Conserved callId reading) (r' : SignalingRun) (hledger : r'.ledger = r.ledger)
    (hflight : r'.inFlight callId = r.inFlight callId) (htransit : r'.inTransit callId = r.inTransit callId) :
    r'.Conserved callId reading ↔
      SameSignaling (r.sections.engine.session callId) (r'.sections.engine.session callId) := by
  constructor
  · intro h'
    refine ⟨?_, ?_, ?_⟩
    · have hperm := h'.accounted.symm.trans (hledger ▸ h.accounted)
      simp only [hledger, htransit, List.append_assoc] at hperm
      exact (List.perm_append_right_iff _).1 hperm
    · rw [h'.received, h.received, hledger, hflight]
    · rw [h'.dropped, h.dropped, hledger]
  · intro hsame
    refine ⟨?_, ?_, ?_, ?_, ?_⟩
    · rw [hledger, htransit]
      refine h.accounted.trans ?_
      simp only [List.append_assoc]
      exact hsame.pending.symm.append_right _
    · rw [hledger]
      exact h.distinct
    · rw [htransit]
      exact h.nowhereElse
    · rw [hsame.received, h.received, hledger, hflight]
    · rw [hsame.dropped, h.dropped, hledger]

theorem Conserved.same (h : r.Conserved callId reading) (hledger : r'.ledger = r.ledger)
    (hflight : r'.inFlight callId = r.inFlight callId) (htransit : r'.inTransit callId = r.inTransit callId)
    (hsame : SameSignaling (r.sections.engine.session callId) (r'.sections.engine.session callId)) :
    r'.Conserved callId reading :=
  (conserved_iff_sameSignaling h _ hledger hflight htransit).2 hsame

/-! ### ReceiveSignalingData and DropCall -/

theorem ofNat_succ (n : ℕ) : UInt32.ofNat (n + 1) = UInt32.ofNat n + 1 := UInt32.ofNat_add n 1

theorem conserved_queued (hnum : r.NumberedOnce callId) (h : r.Conserved callId reading) {session : CallSession}
    {packet : Packet} (hcall : r.sections.engine.session callId = session) (hnumber : packet.number = r.sections.received)
    (hsession : r'.sections.engine.session callId = ((session.count packet).queuePendingSignaling packet).1)
    (hledger : r'.ledger = { r.ledger with
      accepted := r.ledger.accepted ++ [packet]
      evicted := r.ledger.evicted ++ ((session.count packet).queuePendingSignaling packet).2 })
    (hflight : r'.inFlight callId = r.inFlight callId) (htransit : r'.inTransit callId = r.inTransit callId) :
    r'.Conserved callId reading := by
  set queue := session.pendingSignalingPackets ++ [packet] with hqueue
  have hsplit : queue.Perm (queue.drop (surplus queue) ++ queue.take (surplus queue)) := by
    conv_lhs => rw [← List.take_append_drop (surplus queue) queue]
    exact List.perm_append_comm
  refine ⟨?_, ?_, ?_, ?_, ?_⟩
  · rw [hledger, hsession, htransit]
    have hbefore := h.accounted
    rw [hcall] at hbefore
    rw [List.perm_iff_count] at hbefore hsplit ⊢
    intro q
    have hq := hbefore q
    have hs := hsplit q
    simp only [CallSession.queuePendingSignaling, CallSession.count, ← hqueue, List.count_append] at hq hs ⊢
    have hcount : queue.count q = session.pendingSignalingPackets.count q + [packet].count q := by
      rw [hqueue, List.count_append]
    omega
  · rw [hledger]
    refine List.nodup_append.2 ⟨h.distinct, List.nodup_singleton _, ?_⟩
    rintro q hq q' hq' rfl
    rw [List.mem_singleton.1 hq'] at hq
    have hlt := (hnum.fresh _ hq).2
    omega
  · rw [htransit]
    exact h.nowhereElse
  · rw [hledger, hsession, hflight]
    have hreceived := h.received
    rw [hcall] at hreceived
    simp only [CallSession.queuePendingSignaling, CallSession.count, hreceived, List.length_append,
      List.length_singleton, ← ofNat_succ]
    congr 1
    omega
  · rw [hledger, hsession]
    have hdropped := h.dropped
    rw [hcall] at hdropped
    have hlen : (queue.take (surplus queue)).length = surplus queue := by
      rw [List.length_take, Nat.min_eq_left (surplus_le_length queue)]
    simp only [CallSession.queuePendingSignaling, CallSession.count, ← hqueue, List.length_append, hlen,
      UInt32.ofNat_add, hdropped]

theorem conserved_direct (h : r.Conserved callId reading) {session : CallSession} {packet : Packet}
    (hcall : r.sections.engine.session callId = session)
    (hsession : r'.sections.engine.session callId = session.count packet) (hledger : r'.ledger = r.ledger)
    (hflight : r'.inFlight callId = r.inFlight callId ++ [packet])
    (htransit : r'.inTransit callId = r.inTransit callId) : r'.Conserved callId reading := by
  subst hcall
  refine ⟨?_, ?_, ?_, ?_, ?_⟩
  · rw [hledger, hsession, htransit]
    exact h.accounted
  · rw [hledger]
    exact h.distinct
  · rw [htransit]
    exact h.nowhereElse
  · rw [hledger, hsession, hflight]
    simp only [CallSession.count, h.received, List.length_append, List.length_singleton, ← Nat.add_assoc, ofNat_succ]
  · rw [hledger, hsession]
    exact h.dropped

theorem conserved_receive (hnum : r.NumberedOnce callId) (h : r.Conserved callId reading) (id : ℤ) (data : Bytes) :
    (r.step callId C P (.receive id data)).Conserved callId reading := by
  have hreceives := r.sections.engine.receiveSignalingData_receives id { number := r.sections.received, data := data }
  rcases hresult : r.sections.engine.receiveSignalingData id { number := r.sections.received, data := data } with
    ⟨e', reception⟩
  rw [hresult] at hreceives
  simp only [step, SectionState.step, SectionState.receive, enter, hresult]
  by_cases hid : id = callId
  · subst hid
    cases hreceives with
    | refused error => exact h.same rfl rfl rfl (.refl _)
    | ignored hcall hdropped => exact h.same rfl rfl rfl (.refl _)
    | queued session hdata hcall hclosed =>
      simp only [if_true]
      exact conserved_queued hnum h (session_of_calls hcall) rfl (session_storeCall_self _ _ _) rfl rfl rfl
    | toConnection session conn hdata hcall hopen hconn =>
      refine conserved_direct h (session_of_calls hcall) (session_storeCall_self _ _ _) rfl ?_ rfl
      simp [inFlight, DirectDelivery.holds, hnum.first]
    | toGraph session hdata hcall hopen hconn hgraph =>
      refine conserved_direct h (session_of_calls hcall) (session_storeCall_self _ _ _) rfl ?_ rfl
      simp [inFlight, DirectDelivery.holds, hnum.first]
  · have hsame : ∀ session, SameSignaling (r.sections.engine.session callId)
        ((r.sections.engine.storeCall id session).session callId) :=
      fun session => sameSignaling_storeCall fun hid' => absurd hid' hid
    cases hreceives with
    | refused error => exact h.same rfl rfl rfl (.refl _)
    | ignored hcall hdropped => exact h.same rfl rfl rfl (.refl _)
    | queued session hdata hcall hclosed =>
      simp only [if_neg hid]
      exact h.same rfl rfl rfl (hsame _)
    | toConnection session conn hdata hcall hopen hconn =>
      refine h.same rfl ?_ rfl (hsame _)
      simp [inFlight, DirectDelivery.holds, hid]
    | toGraph session hdata hcall hopen hconn hgraph =>
      refine h.same rfl ?_ rfl (hsame _)
      simp [inFlight, DirectDelivery.holds, hid]

theorem conserved_dropCall (hnum : r.NumberedOnce callId) (h : r.Conserved callId reading) (id : ℤ) :
    (r.step callId C P (.dropCall id)).Conserved callId reading := by
  obtain ⟨hcalls, -⟩ := SignalingEngine.dropCall_calls r.sections.engine id
  by_cases hid : id = callId
  · subst hid
    have hsession : (r.sections.engine.dropCall id).1.session id = {} := by
      rw [SignalingEngine.session, hcalls, Function.update_self, Option.getD_none]
    have hflight : (r.step id C P (.dropCall id)).inFlight id = [] := by
      simp only [step, inFlight, SectionState.step, enter, if_true, List.flatMap_eq_nil_iff]
      intro d hd
      have hlt := hnum.sections.direct d hd
      simp only [DirectDelivery.holds]
      exact if_neg fun hheld => by omega
    have htransit : (r.step id C P (.dropCall id)).inTransit id = [] := by
      simp only [step, inTransit, SectionState.step, enter, if_true, List.flatMap_eq_nil_iff]
      intro d hd
      simp only [Drain.holds]
      split_ifs
      · refine List.filter_eq_nil_iff.2 fun packet hpacket => ?_
        have hlt := hnum.sections.drains d hd packet hpacket
        simpa using hlt
      · rfl
    refine ⟨?_, ?_, fun _ => htransit, ?_, ?_⟩
    · rw [htransit]
      simp only [step, SectionState.step, enter, if_true, hsession]
      exact .refl _
    · simp only [step, enter, if_true]
      exact List.nodup_nil
    · rw [hflight]
      simp only [step, SectionState.step, enter, if_true, hsession]
      rfl
    · simp only [step, SectionState.step, enter, if_true, hsession]
      rfl
  · have hledger : (r.step callId C P (.dropCall id)).ledger = r.ledger := if_neg hid
    have hne : callId ≠ id := fun h => hid h.symm
    refine (conserved_iff_sameSignaling h _ hledger ?_ ?_).2 ?_
    · rw [inFlight, hledger]
      rfl
    · rw [inTransit, hledger]
      rfl
    · simp only [step, SectionState.step, SignalingEngine.session, hcalls, Function.update_of_ne hne]
      exact .refl _

/-! ### The backends -/

theorem holds_length (callId : ℤ) (d : DirectDelivery) (firstNumber : ℕ) : (d.holds callId firstNumber).length ≤ 1 := by
  unfold DirectDelivery.holds
  split_ifs <;> simp

theorem conserved_deliver_iff (hnum : r.NumberedOnce callId) (h : r.Conserved callId reading) (k : ℕ)
    (graphError : Option VoipError) :
    (r.step callId C P (.deliver k graphError)).Conserved callId reading ↔ r.Keeps callId reading (.deliver k graphError) := by
  cases hk : r.sections.direct[k]? with
  | none =>
    have herase : r.sections.direct.eraseIdx k = r.sections.direct :=
      List.eraseIdx_of_length_le (List.getElem?_eq_none_iff.1 hk)
    refine iff_of_true ?_ ?_
    · simp only [step, SectionState.step, enter, hk, herase]
      exact h
    · intro d hd
      rw [hk] at hd
      cases hd
  | some d =>
    have hheld : (r.inFlight callId).Perm (d.holds callId r.ledger.firstNumber ++
        (r.sections.direct.eraseIdx k).flatMap fun d => d.holds callId r.ledger.firstNumber) := by
      have hperm := (perm_cons_eraseIdx hk).flatMap_right fun d => d.holds callId r.ledger.firstNumber
      rwa [List.flatMap_cons] at hperm
    have hlength := hheld.length_eq
    rw [List.length_append] at hlength
    have hguard : r.Keeps callId reading (.deliver k graphError) ↔
        (d.holds callId r.ledger.firstNumber ≠ [] → d.backend.receive d.packet.data graphError = none) := by
      simp only [Keeps, hk, Option.some.injEq, forall_eq']
    rw [hguard]
    simp only [step, SectionState.step, enter, hk]
    cases hanswer : d.backend.receive d.packet.data graphError with
    | none =>
      refine iff_of_true ⟨?_, ?_, h.nowhereElse, ?_, h.dropped⟩ fun _ => rfl
      · have hbefore := h.accounted
        rw [List.perm_iff_count] at hbefore ⊢
        intro q
        have hq := hbefore q
        simp only [inTransit, List.count_append] at hq ⊢
        omega
      · have hnodup := (hheld.append_left r.ledger.accepted).nodup hnum.nodup
        rw [← List.append_assoc] at hnodup
        exact (List.nodup_append.1 hnodup).1
      · simp only [inFlight, List.length_append]
        rw [h.received, hlength]
        congr 1
        omega
    | some error =>
      simp only [reduceCtorEq, imp_false, not_not]
      constructor
      · intro h'
        have hreceived := h'.received
        simp only [inFlight] at hreceived
        rw [h.received, hlength] at hreceived
        have hone := holds_length callId d r.ledger.firstNumber
        cases hholds : d.holds callId r.ledger.firstNumber with
        | nil => rfl
        | cons packet rest =>
          rw [hholds, List.length_cons] at hone hreceived
          have hrest : rest.length = 0 := by omega
          rw [hrest, Nat.zero_add, Nat.add_comm 1, ← Nat.add_assoc, ofNat_succ] at hreceived
          have hnat := congrArg UInt32.toNat hreceived
          rw [UInt32.toNat_add] at hnat
          have hlt := (UInt32.ofNat (r.ledger.accepted.length +
            ((r.sections.direct.eraseIdx k).flatMap fun d => d.holds callId r.ledger.firstNumber).length)).toNat_lt
          have hval : UInt32.toNat 1 = 1 := rfl
          omega
      · intro hholds
        refine ⟨h.accounted, h.distinct, h.nowhereElse, ?_, h.dropped⟩
        simp only [inFlight]
        rw [h.received, hlength, hholds, List.length_nil, Nat.zero_add]

/-! ### The queue and StartMedia -/

theorem conserved_swap_iff (hnum : r.NumberedOnce callId) (h : r.Conserved callId reading) {queue : List Packet}
    (hqueue : (r.sections.engine.session callId).pendingSignalingPackets = queue)
    (hsession : r'.sections.engine.session callId
      = { r.sections.engine.session callId with pendingSignalingPackets := [] })
    (hledger : r'.ledger = r.ledger) (hflight : r'.inFlight callId = r.inFlight callId)
    (htransit : (r'.inTransit callId).Perm
      (r.inTransit callId ++ queue.filter fun packet => r.ledger.firstNumber ≤ packet.number)) :
    r'.Conserved callId reading ↔ (reading = .strict → queue = []) := by
  have hfresh : queue.filter (fun packet => r.ledger.firstNumber ≤ packet.number) = queue := by
    refine List.filter_eq_self.2 fun packet hpacket => ?_
    have hmem : packet ∈ r.ledger.accepted := by
      refine h.accounted.mem_iff.2 ?_
      simp only [hqueue, List.mem_append]
      exact .inl (.inl (.inl hpacket))
    simpa using (hnum.fresh packet hmem).1
  rw [hfresh] at htransit
  constructor
  · intro h' hreading
    have hempty := h'.nowhereElse hreading
    rw [hempty] at htransit
    exact (List.append_eq_nil_iff.1 htransit.symm.eq_nil).2
  · intro hempty
    refine ⟨?_, ?_, ?_, ?_, ?_⟩
    · have hbefore := h.accounted
      rw [hqueue] at hbefore
      rw [hledger, hsession]
      rw [List.perm_iff_count] at hbefore htransit ⊢
      intro q
      have hb := hbefore q
      have ht := htransit q
      simp only [List.count_append, List.nil_append] at hb ht ⊢
      omega
    · rw [hledger]
      exact h.distinct
    · intro hreading
      rw [h.nowhereElse hreading, hempty hreading, List.append_nil] at htransit
      exact htransit.eq_nil
    · rw [hledger, hsession, hflight]
      exact h.received
    · rw [hledger, hsession]
      exact h.dropped

theorem swapPending_snd (e : SignalingEngine) (id : ℤ) :
    (e.swapPending id).2 = (e.session id).pendingSignalingPackets := by
  unfold SignalingEngine.swapPending SignalingEngine.session
  cases e.calls id <;> rfl

theorem session_swapPending_self (e : SignalingEngine) (id : ℤ) :
    (e.swapPending id).1.session id = { e.session id with pendingSignalingPackets := [] } := by
  unfold SignalingEngine.swapPending
  cases hcall : e.calls id with
  | none => simp [SignalingEngine.session, hcall]
  | some session => simp [SignalingEngine.session, hcall]

theorem session_swapPending_of_ne {e : SignalingEngine} {id id' : ℤ} (h : id' ≠ id) :
    (e.swapPending id).1.session id' = e.session id' := by
  unfold SignalingEngine.swapPending
  cases e.calls id with
  | none => rfl
  | some session => exact session_storeCall_of_ne h

theorem conserved_publish_iff (hnum : r.NumberedOnce callId) (h : r.Conserved callId reading) (k : ℕ) :
    (r.step callId C P (.publish k)).Conserved callId reading ↔ r.Keeps callId reading (.publish k) := by
  simp only [step, SectionState.step, SectionState.publish, enter, Keeps]
  cases hk : r.sections.starts[k]? with
  | none =>
    refine iff_of_true h ?_
    rintro - conn hconn
    cases hconn
  | some conn =>
    simp only [Option.some.injEq, forall_eq', SignalingEngine.publishConnection]
    by_cases hid : conn.callId = callId
    · subst hid
      simp only [forall_true_left]
      refine conserved_swap_iff hnum h rfl (session_swapPending_self _ _) rfl rfl ?_
      simp only [inTransit, List.flatMap_append, List.flatMap_singleton, Drain.holds, if_true, swapPending_snd]
      exact .refl _
    · simp only [hid, false_imp_iff, implies_true, iff_true]
      have hne : callId ≠ conn.callId := fun hid' => hid hid'.symm
      refine h.same rfl rfl ?_ ?_
      · simp [inTransit, Drain.holds, hid]
      · exact (session_swapPending_of_ne (e := r.sections.engine) hne) ▸ .refl _

theorem inTransit_perm (callId : ℤ) {d : Drain} {k : ℕ} (hk : r.sections.drains[k]? = some d) :
    (r.inTransit callId).Perm (d.holds callId r.ledger.firstNumber ++
      (r.sections.drains.eraseIdx k).flatMap fun d => d.holds callId r.ledger.firstNumber) := by
  have hperm := (perm_cons_eraseIdx hk).flatMap_right fun d => d.holds callId r.ledger.firstNumber
  rwa [List.flatMap_cons] at hperm

theorem inTransit_set_perm (callId : ℤ) {d : Drain} {k : ℕ} (hk : r.sections.drains[k]? = some d) (d' : Drain)
    (firstNumber : ℕ) :
    ((r.sections.drains.set k d').flatMap fun d => d.holds callId firstNumber).Perm (d'.holds callId firstNumber ++
      (r.sections.drains.eraseIdx k).flatMap fun d => d.holds callId firstNumber) := by
  have hperm := (perm_set hk d').flatMap_right fun d => d.holds callId firstNumber
  rwa [List.flatMap_cons] at hperm

theorem Conserved.perm (h : r.Conserved callId reading) (hledger : r'.ledger = r.ledger)
    (hflight : r'.inFlight callId = r.inFlight callId) (htransit : (r'.inTransit callId).Perm (r.inTransit callId))
    (hsession : r'.sections.engine.session callId = r.sections.engine.session callId) :
    r'.Conserved callId reading := by
  refine ⟨?_, ?_, ?_, ?_, ?_⟩
  · rw [hledger, hsession]
    exact h.accounted.trans (htransit.symm.append_left _)
  · rw [hledger]
    exact h.distinct
  · intro hreading
    rw [h.nowhereElse hreading] at htransit
    exact htransit.eq_nil
  · rw [hledger, hsession, hflight]
    exact h.received
  · rw [hledger, hsession]
    exact h.dropped

theorem holds_nil {d : Drain} (h : d.packets = []) (firstNumber : ℕ) : d.holds callId firstNumber = [] := by
  unfold Drain.holds
  rw [h]
  split_ifs <;> rfl

theorem conserved_graphTurn_iff (hnum : r.NumberedOnce callId) (h : r.Conserved callId reading) (k : ℕ) :
    (r.step callId C P (.graphTurn k)).Conserved callId reading ↔ r.Keeps callId reading (.graphTurn k) := by
  simp only [step, SectionState.step, SectionState.graphTurn, enter, Keeps]
  cases hk : r.sections.drains[k]? with
  | none =>
    refine iff_of_true h ?_
    rintro - d hd
    cases hd
  | some d =>
    simp only [Option.some.injEq, forall_eq']
    by_cases hturn : d.backend.isNone ∧ d.packets = [] ∧ !d.refused
    swap
    · rw [if_neg hturn]
      exact iff_of_true h fun _ _ hturn' => absurd hturn' hturn
    rw [if_pos hturn]
    have hheld := inTransit_perm callId hk
    rw [holds_nil hturn.2.1, List.nil_append] at hheld
    -- the thread ends, and has held nothing
    have hends : ∀ e' : SignalingEngine, e'.calls = r.sections.engine.calls →
        ({ r with sections := { r.sections with
            engine := e'
            drains := r.sections.drains.eraseIdx k } } : SignalingRun).Conserved callId reading := by
      intro e' hcalls
      refine h.perm rfl rfl hheld.symm ?_
      simp only [SignalingEngine.session, hcalls]
    simp only [SignalingEngine.graphTurn]
    cases hcall : r.sections.engine.calls d.callId with
    | none =>
      refine iff_of_true (hends _ rfl) fun _ hid _ => ?_
      rw [← hid, SignalingEngine.session, hcall]
      rfl
    | some session =>
      by_cases hempty : session.pendingSignalingPackets = []
      · simp only [if_pos hempty]
        refine iff_of_true (hends _ rfl) fun _ hid _ => ?_
        rw [← hid, session_of_calls hcall]
        exact hempty
      · simp only [if_neg hempty]
        by_cases hid : d.callId = callId
        · subst hid
          have hsession := session_of_calls hcall
          rw [hsession]
          have htaken : ∀ d' : Drain, d'.callId = d.callId → d'.packets = session.pendingSignalingPackets →
              ((r.sections.drains.set k d').flatMap fun d' => d'.holds d.callId r.ledger.firstNumber).Perm
                (r.inTransit d.callId ++
                  session.pendingSignalingPackets.filter fun packet => r.ledger.firstNumber ≤ packet.number) := by
            intro d' hid hpackets
            refine (inTransit_set_perm _ hk _ _).trans ?_
            rw [Drain.holds, if_pos hid, hpackets]
            exact List.perm_append_comm.trans (hheld.symm.append_right _)
          simp only [hturn.1, hturn.2.1, hturn.2.2, and_self, forall_true_left]
          refine conserved_swap_iff hnum h (congrArg _ hsession) ?_ rfl rfl ?_
          · exact (session_storeCall_self _ _ _).trans (by rw [hsession])
          · exact htaken _ rfl rfl
        · refine iff_of_true ?_ fun _ hid' => absurd hid' hid
          have hne : callId ≠ d.callId := fun hid' => hid hid'.symm
          refine h.perm rfl rfl ?_ (session_storeCall_of_ne hne)
          refine (inTransit_set_perm _ hk _ _).trans ?_
          rw [Drain.holds, if_neg hid, List.nil_append]
          exact hheld.symm

theorem conserved_handOver_iff (h : r.Conserved callId reading) (k : ℕ) (graphError : Option VoipError) :
    (r.step callId C P (.handOver k graphError)).Conserved callId reading ↔
      r.Keeps callId reading (.handOver k graphError) := by
  simp only [step, SectionState.step, SectionState.handOver, enter, Keeps]
  cases hk : r.sections.drains[k]? with
  | none =>
    refine iff_of_true h ?_
    intro d packet rest hd
    cases hd
  | some d =>
    simp only [Option.some.injEq]
    cases hpackets : d.packets with
    | nil =>
      refine iff_of_true h ?_
      rintro d' packet rest rfl hcons
      rw [hpackets] at hcons
      cases hcons
    | cons packet rest =>
      have hheld := inTransit_perm callId hk
      have hguard : (∀ d' packet' rest', d = d' → d'.packets = packet' :: rest' →
          d'.holds callId r.ledger.firstNumber ≠ [] → d'.backend.receive packet'.data graphError = none) ↔
          (d.holds callId r.ledger.firstNumber ≠ [] → d.backend.receive packet.data graphError = none) := by
        constructor
        · exact fun hall => hall d packet rest rfl hpackets
        · rintro hone d' packet' rest' rfl hcons
          rw [hpackets] at hcons
          cases hcons
          exact hone
      rw [hguard]
      cases hanswer : d.backend.receive packet.data graphError with
      | none =>
        simp only [hanswer]
        refine iff_of_true ?_ fun _ => trivial
        have hsplit : d.holds callId r.ledger.firstNumber
            = { d with packets := [packet] }.holds callId r.ledger.firstNumber ++
              { d with packets := rest }.holds callId r.ledger.firstNumber := by
          unfold Drain.holds
          rw [hpackets]
          split_ifs
          · rw [← List.filter_append]
            rfl
          · rfl
        rw [hsplit] at hheld
        have hafter := inTransit_set_perm callId hk { d with packets := rest } r.ledger.firstNumber
        refine ⟨?_, h.distinct, ?_, h.received, h.dropped⟩
        · have hbefore := h.accounted
          rw [List.perm_iff_count] at hbefore hheld hafter ⊢
          intro q
          have hb := hbefore q
          have hh := hheld q
          have ha := hafter q
          simp only [inTransit, List.count_append] at hb hh ha ⊢
          omega
        · intro hreading
          rw [h.nowhereElse hreading] at hheld
          obtain ⟨hholds, hothers⟩ := List.append_eq_nil_iff.1 hheld.symm.eq_nil
          rw [(List.append_eq_nil_iff.1 hholds).2, hothers] at hafter
          exact hafter.eq_nil
      | some error =>
        simp only [hanswer, reduceCtorEq, imp_false, not_not]
        have hafter := inTransit_set_perm callId hk { d with packets := [], refused := true }
          r.ledger.firstNumber
        rw [holds_nil rfl, List.nil_append] at hafter
        constructor
        · intro h'
          have hperm := h'.accounted.symm.trans h.accounted
          have htransit := ((List.perm_append_left_iff _).1 hperm).length_eq
          have hlen := hheld.length_eq
          have hlen' := hafter.length_eq
          simp only [inTransit, List.length_append] at htransit hlen hlen'
          exact List.length_eq_zero_iff.1 (by omega)
        · intro hholds
          rw [hholds, List.nil_append] at hheld
          exact h.perm rfl rfl (hafter.trans hheld.symm) rfl

theorem conserved_retract (hnum : r.NumberedOnce callId) (h : r.Conserved callId reading) (k : ℕ) :
    (r.step callId C P (.retract k)).Conserved callId reading := by
  simp only [step, SectionState.step, SectionState.retract, enter]
  cases hk : r.sections.drains[k]? with
  | none => exact h
  | some d =>
    by_cases hrefused : d.refused = true
    swap
    · simp only [if_neg hrefused]
      exact h
    simp only [if_pos hrefused]
    have hheld := inTransit_perm callId hk
    rw [holds_nil (hnum.sections.refused d (List.mem_of_getElem? hk) hrefused), List.nil_append] at hheld
    refine h.perm rfl rfl hheld.symm ?_
    simp only
    split_ifs
    · rfl
    · exact session_retractGraph _ _

/-! ### The numbers -/

section Numbers

variable {s : SectionState} {n m : ℕ}

theorem Older.mono (hle : n ≤ m) {packets : List Packet} (h : Older n packets) : Older m packets :=
  fun packet hpacket => (h packet hpacket).trans_le hle

theorem AllOlder.mono (hle : n ≤ m) {sessions : ℤ → Option CallSession} (h : AllOlder n sessions) : AllOlder m sessions :=
  fun id session hsession => (h id session hsession).mono hle

theorem older_nil (n : ℕ) : Older n [] := fun _ h => absurd h List.not_mem_nil

theorem allOlder_update {sessions : ℤ → Option CallSession} (h : AllOlder n sessions) {id : ℤ} {session : CallSession}
    (hnew : Older n session.pendingSignalingPackets) : AllOlder n (Function.update sessions id (some session)) := by
  intro id' session' hsession
  by_cases hid : id' = id
  · subst hid
    rw [Function.update_self] at hsession
    cases hsession
    exact hnew
  · rw [Function.update_of_ne hid] at hsession
    exact h id' session' hsession

theorem allOlder_remove {sessions : ℤ → Option CallSession} (h : AllOlder n sessions) (id : ℤ) :
    AllOlder n (Function.update sessions id none) := by
  intro id' session' hsession
  by_cases hid : id' = id
  · subst hid
    rw [Function.update_self] at hsession
    cases hsession
  · rw [Function.update_of_ne hid] at hsession
    exact h id' session' hsession

theorem pending_of_compute {op : CopyingOperation} {found : Option CallSession} {session : CallSession}
    (h : op.compute C found = .ok session) :
    ∃ before, found = some before ∧ session.pendingSignalingPackets = before.pendingSignalingPackets := by
  cases op with
  | createIncomingDh callId g p draws =>
    simp only [CopyingOperation.compute] at h
    split at h
    · cases h
    · split at h
      · cases h
      · next before =>
        split at h
        · cases h
        · cases h
          exact ⟨before, rfl, rfl⟩
  | acceptPeerGB callId gB =>
    simp only [CopyingOperation.compute] at h
    split at h
    · cases h
    · next before =>
      cases haccept : before.toDhSession.acceptPeerGB C gB with
      | error error =>
        rw [haccept] at h
        cases h
      | ok dh =>
        rw [haccept] at h
        cases h
        exact ⟨before, rfl, rfl⟩
  | confirmPeerGAOrB callId gAOrB expectedFingerprint =>
    simp only [CopyingOperation.compute] at h
    split at h
    · cases h
    · next before =>
      cases hconfirm : before.toDhSession.confirmPeerGAOrB C gAOrB expectedFingerprint with
      | error error =>
        rw [hconfirm] at h
        cases h
      | ok dh =>
        rw [hconfirm] at h
        cases h
        exact ⟨before, rfl, rfl⟩

theorem older_queuePendingSignaling {session : CallSession} {packet : Packet} (hnumber : packet.number = n)
    (h : Older n session.pendingSignalingPackets) :
    Older (n + 1) ((session.count packet).queuePendingSignaling packet).1.pendingSignalingPackets := by
  intro q hq
  rcases List.mem_append.1 (List.mem_of_mem_drop hq) with hold | hnew
  · exact (h q hold).trans (Nat.lt_succ_self n)
  · rw [List.mem_singleton.1 hnew, hnumber]
    exact Nat.lt_succ_self n

theorem numbered_receive (h : Numbered s) (id : ℤ) (data : Bytes) : Numbered (s.receive id data) := by
  have hreceives := s.engine.receiveSignalingData_receives id { number := s.received, data := data }
  rcases hresult : s.engine.receiveSignalingData id { number := s.received, data := data } with ⟨e', reception⟩
  rw [hresult] at hreceives
  have hle : s.received ≤ s.received + 1 := Nat.le_succ _
  have hcopies : ∀ thread id session, s.copies thread = some (id, session) →
      Older (s.received + 1) session.pendingSignalingPackets :=
    fun thread id session hcopy => (h.copies thread id session hcopy).mono hle
  have hdirect : ∀ d ∈ s.direct, d.packet.number < s.received + 1 := fun d hd => (h.direct d hd).trans_le hle
  have hdrains : ∀ d ∈ s.drains, Older (s.received + 1) d.packets := fun d hd => (h.drains d hd).mono hle
  have hmore : ∀ backend, ∀ d ∈ s.direct ++
      [{ callId := id, packet := { number := s.received, data := data }, backend := backend }],
        d.packet.number < s.received + 1 := by
    intro backend d hd
    rcases List.mem_append.1 hd with hold | hnew
    · exact hdirect d hold
    · rw [List.mem_singleton.1 hnew]
      exact Nat.lt_succ_self _
  simp only [SectionState.receive, hresult]
  cases hreceives with
  | refused error => exact ⟨h.calls.mono hle, h.outgoing.mono hle, hcopies, hdirect, hdrains, h.refused⟩
  | ignored hcall hdropped => exact ⟨h.calls.mono hle, h.outgoing.mono hle, hcopies, hdirect, hdrains, h.refused⟩
  | queued session hdata hcall hclosed =>
    exact ⟨allOlder_update (h.calls.mono hle) (older_queuePendingSignaling rfl (h.calls id session hcall)),
      h.outgoing.mono hle, hcopies, hdirect, hdrains, h.refused⟩
  | toConnection session conn hdata hcall hopen hconn =>
    exact ⟨allOlder_update (h.calls.mono hle) ((h.calls id session hcall).mono hle), h.outgoing.mono hle, hcopies,
      hmore _, hdrains, h.refused⟩
  | toGraph session hdata hcall hopen hconn hgraph =>
    exact ⟨allOlder_update (h.calls.mono hle) ((h.calls id session hcall).mono hle), h.outgoing.mono hle, hcopies,
      hmore _, hdrains, h.refused⟩

theorem drains_set (h : Numbered s) {k : ℕ} {d : Drain} (hd : Older s.received d.packets)
    (hrefused : d.refused = true → d.packets = []) :
    (∀ d' ∈ s.drains.set k d, Older s.received d'.packets) ∧
      ∀ d' ∈ s.drains.set k d, d'.refused = true → d'.packets = [] := by
  constructor
  · intro d' hd'
    rcases List.mem_or_eq_of_mem_set hd' with hold | rfl
    · exact h.drains d' hold
    · exact hd
  · intro d' hd'
    rcases List.mem_or_eq_of_mem_set hd' with hold | rfl
    · exact h.refused d' hold
    · exact hrefused

theorem drains_append (h : Numbered s) {d : Drain} (hd : Older s.received d.packets)
    (hrefused : d.refused = true → d.packets = []) :
    (∀ d' ∈ s.drains ++ [d], Older s.received d'.packets) ∧
      ∀ d' ∈ s.drains ++ [d], d'.refused = true → d'.packets = [] := by
  constructor
  · intro d' hd'
    rcases List.mem_append.1 hd' with hold | hnew
    · exact h.drains d' hold
    · rw [List.mem_singleton.1 hnew]
      exact hd
  · intro d' hd'
    rcases List.mem_append.1 hd' with hold | hnew
    · exact h.refused d' hold
    · rw [List.mem_singleton.1 hnew]
      exact hrefused

theorem numbered_publish (h : Numbered s) (k : ℕ) : Numbered (s.publish k) := by
  unfold SectionState.publish
  split
  · exact h
  · next conn _ =>
    simp only [SignalingEngine.publishConnection, SignalingEngine.swapPending]
    cases hcall : s.engine.calls conn.callId with
    | none =>
      have happend := drains_append h (d := { callId := conn.callId, backend := some conn, packets := [] })
        (older_nil _) fun _ => rfl
      exact ⟨h.calls, h.outgoing, h.copies, h.direct, happend.1, happend.2⟩
    | some session =>
      have happend := drains_append h
        (d := { callId := conn.callId, backend := some conn, packets := session.pendingSignalingPackets })
        (h.calls _ _ hcall) fun hrefused => by cases hrefused
      exact ⟨allOlder_update h.calls (older_nil _), h.outgoing, h.copies, h.direct, happend.1, happend.2⟩

theorem numbered_eraseDrain (h : Numbered s) {e' : SignalingEngine} (hcalls : e'.calls = s.engine.calls)
    (houtgoing : e'.outgoingByRandom = s.engine.outgoingByRandom) (k : ℕ) :
    Numbered { s with engine := e', drains := s.drains.eraseIdx k } where
  calls := by rw [hcalls]; exact h.calls
  outgoing := by rw [houtgoing]; exact h.outgoing
  copies := h.copies
  direct := h.direct
  drains := fun d hd => h.drains d (List.mem_of_mem_eraseIdx hd)
  refused := fun d hd => h.refused d (List.mem_of_mem_eraseIdx hd)

theorem numbered_handOver (h : Numbered s) (k : ℕ) (graphError : Option VoipError) :
    Numbered (s.handOver k graphError) := by
  unfold SectionState.handOver
  cases hk : s.drains[k]? with
  | none => exact h
  | some d =>
    have hmem := List.mem_of_getElem? hk
    simp only
    cases hpackets : d.packets with
    | nil => exact h
    | cons packet rest =>
      simp only
      cases d.backend.receive packet.data graphError with
      | none =>
        have hset := drains_set h (k := k) (d := { d with packets := rest })
          (fun q hq => h.drains d hmem q (hpackets ▸ List.mem_cons_of_mem _ hq))
          (fun hrefused => absurd (hpackets.symm.trans (h.refused d hmem hrefused)) (List.cons_ne_nil _ _))
        exact ⟨h.calls, h.outgoing, h.copies, h.direct, hset.1, hset.2⟩
      | some error =>
        have hset := drains_set h (k := k) (d := { d with packets := [], refused := true }) (older_nil _) fun _ => rfl
        exact ⟨h.calls, h.outgoing, h.copies, h.direct, hset.1, hset.2⟩

theorem numbered_graphTurn (h : Numbered s) (k : ℕ) : Numbered (s.graphTurn k) := by
  unfold SectionState.graphTurn
  cases hk : s.drains[k]? with
  | none => exact h
  | some d =>
    simp only
    split_ifs with hturn
    · simp only [SignalingEngine.graphTurn]
      cases hcall : s.engine.calls d.callId with
      | none =>
        simp only
        refine numbered_eraseDrain h ?_ ?_ k <;> rfl
      | some session =>
        simp only
        by_cases hempty : session.pendingSignalingPackets = []
        · simp only [if_pos hempty]
          refine numbered_eraseDrain h ?_ ?_ k <;> rfl
        · simp only [if_neg hempty]
          have hset := drains_set h (k := k) (d := { d with packets := session.pendingSignalingPackets })
            (h.calls _ _ hcall) (fun hrefused => absurd hturn.2.2 (by simp [show d.refused = true from hrefused]))
          exact ⟨allOlder_update h.calls (older_nil _), h.outgoing, h.copies, h.direct, hset.1, hset.2⟩
    · exact h

/-- **A part of an operation keeps the packets numbered.** -/
theorem numbered_step (h : Numbered s) (ev : Section) : Numbered (s.step C P ev) := by
  cases ev with
  | createOutgoingDh randomId g p draws =>
    simp only [SectionState.step, SignalingEngine.createOutgoingDh]
    split
    · exact h
    · exact ⟨h.calls, allOlder_update h.outgoing (older_nil _), h.copies, h.direct, h.drains, h.refused⟩
  | bindOutgoingCall randomId id =>
    simp only [SectionState.step, SignalingEngine.bindOutgoingCall]
    split_ifs
    · exact h
    · cases hsession : s.engine.outgoingByRandom randomId with
      | none => exact h
      | some session =>
        have hqueue : Older s.received session.pendingSignalingPackets := h.outgoing randomId session hsession
        exact ⟨allOlder_update h.calls hqueue, allOlder_remove h.outgoing randomId, h.copies, h.direct, h.drains,
          h.refused⟩
  | registerIncomingGAHash id gAHash =>
    simp only [SectionState.step, SignalingEngine.registerIncomingGAHash]
    split_ifs
    · exact h
    · exact h
    · refine ⟨allOlder_update h.calls ?_, h.outgoing, h.copies, h.direct, h.drains, h.refused⟩
      cases hsession : s.engine.calls id with
      | none => exact older_nil _
      | some session => exact h.calls id session hsession
  | copy thread op =>
    simp only [SectionState.step]
    split
    · next session _ hcopy =>
      obtain ⟨before, hfound, hpending⟩ := pending_of_compute hcopy
      refine ⟨h.calls, h.outgoing, ?_, h.direct, h.drains, h.refused⟩
      intro thread' id session' hcopied
      simp only at hcopied ⊢
      by_cases hthread : thread' = thread
      · subst hthread
        rw [Function.update_self] at hcopied
        cases hcopied
        rw [hpending]
        exact h.calls _ _ hfound
      · rw [Function.update_of_ne hthread] at hcopied
        exact h.copies thread' id session' hcopied
    · exact h
  | writeBack thread =>
    simp only [SectionState.step]
    split
    · exact h
    · next id session hcopy =>
      refine ⟨allOlder_update h.calls (h.copies thread id session hcopy), h.outgoing, ?_, h.direct, h.drains, h.refused⟩
      intro thread' id' session' hcopied
      simp only at hcopied ⊢
      by_cases hthread : thread' = thread
      · subst hthread
        rw [Function.update_self] at hcopied
        cases hcopied
      · rw [Function.update_of_ne hthread] at hcopied
        exact h.copies thread' id' session' hcopied
  | dropCall id =>
    refine ⟨?_, ?_, h.copies, h.direct, h.drains, h.refused⟩
    · simp only [SectionState.step, (SignalingEngine.dropCall_calls s.engine id).1]
      exact allOlder_remove h.calls id
    · simp only [SectionState.step, SignalingEngine.dropCall]
      split_ifs <;> exact h.outgoing
  | receive id data => exact numbered_receive h id data
  | deliver k graphError =>
    exact ⟨h.calls, h.outgoing, h.copies, fun d hd => h.direct d (List.mem_of_mem_eraseIdx hd), h.drains, h.refused⟩
  | startMedia descriptor id input graphError =>
    rw [SectionState.step]
    rcases s.startMedia_cases P descriptor id input graphError with heq | ⟨conn, -, -, heq⟩ | ⟨-, heq⟩
    · rw [heq]
      exact h
    · rw [heq]
      exact ⟨h.calls, h.outgoing, h.copies, h.direct, h.drains, h.refused⟩
    · rw [heq]
      have happend := drains_append h (d := { callId := descriptor.callId, backend := none }) (older_nil _) fun _ => rfl
      exact ⟨h.calls, h.outgoing, h.copies, h.direct, happend.1, happend.2⟩
  | publish k => exact numbered_publish h k
  | handOver k graphError => exact numbered_handOver h k graphError
  | graphTurn k => exact numbered_graphTurn h k
  | retract k =>
    simp only [SectionState.step, SectionState.retract]
    cases s.drains[k]? with
    | none => exact h
    | some d =>
      simp only
      split_ifs
      · refine numbered_eraseDrain h ?_ ?_ k <;> rfl
      · refine numbered_eraseDrain h ?_ ?_ k <;> unfold SignalingEngine.retractGraph <;> split_ifs <;> rfl
      · exact h
  | stopMedia => exact ⟨h.calls, h.outgoing, h.copies, h.direct, h.drains, h.refused⟩

theorem direct_step {ev : Section} (hreceive : ∀ id data, ev ≠ .receive id data)
    (hdeliver : ∀ k graphError, ev ≠ .deliver k graphError) :
    (s.step C P ev).direct = s.direct ∧ (s.step C P ev).received = s.received := by
  cases ev with
  | receive id data => exact absurd rfl (hreceive id data)
  | deliver k graphError => exact absurd rfl (hdeliver k graphError)
  | copy thread op =>
    simp only [SectionState.step]
    split <;> exact ⟨rfl, rfl⟩
  | writeBack thread =>
    simp only [SectionState.step]
    split <;> exact ⟨rfl, rfl⟩
  | startMedia descriptor id input graphError =>
    rw [SectionState.step]
    rcases s.startMedia_cases P descriptor id input graphError with heq | ⟨conn, -, -, heq⟩ | ⟨-, heq⟩ <;> rw [heq] <;>
      exact ⟨rfl, rfl⟩
  | publish k =>
    simp only [SectionState.step, SectionState.publish]
    split <;> exact ⟨rfl, rfl⟩
  | handOver k graphError =>
    simp only [SectionState.step, SectionState.handOver]
    split
    · exact ⟨rfl, rfl⟩
    · split
      · exact ⟨rfl, rfl⟩
      · split <;> exact ⟨rfl, rfl⟩
  | graphTurn k =>
    simp only [SectionState.step, SectionState.graphTurn]
    split
    · exact ⟨rfl, rfl⟩
    · split
      · split <;> exact ⟨rfl, rfl⟩
      · exact ⟨rfl, rfl⟩
  | retract k =>
    simp only [SectionState.step, SectionState.retract]
    split
    · exact ⟨rfl, rfl⟩
    · split <;> exact ⟨rfl, rfl⟩
  | _ => exact ⟨rfl, rfl⟩

theorem enter_step {ev : Section} (hreceive : ∀ id data, ev ≠ .receive id data)
    (hdeliver : ∀ k graphError, ev ≠ .deliver k graphError) (hdrop : ev ≠ .dropCall callId) :
    (r.enter callId ev).accepted = r.ledger.accepted ∧ (r.enter callId ev).firstNumber = r.ledger.firstNumber := by
  cases ev with
  | receive id data => exact absurd rfl (hreceive id data)
  | deliver k graphError => exact absurd rfl (hdeliver k graphError)
  | dropCall id =>
    have hid : id ≠ callId := fun hid => hdrop (by rw [hid])
    simp only [enter, if_neg hid, and_self]
  | handOver k graphError =>
    simp only [enter]
    split
    · exact ⟨rfl, rfl⟩
    · split
      · exact ⟨rfl, rfl⟩
      · split <;> exact ⟨rfl, rfl⟩
  | _ => exact ⟨rfl, rfl⟩

theorem numberedOnce_receive (h : r.NumberedOnce callId) (id : ℤ) (data : Bytes) :
    (r.step callId C P (.receive id data)).NumberedOnce callId := by
  have hsections : Numbered (r.sections.step C P (.receive id data)) := numbered_step h.sections _
  have hlt : ∀ packet ∈ r.ledger.accepted ++ r.inFlight callId, packet.number < r.sections.received := by
    intro packet hpacket
    rcases List.mem_append.1 hpacket with haccepted | hflight
    · exact (h.fresh packet haccepted).2
    · obtain ⟨d, hd, hheld⟩ := List.mem_flatMap.1 hflight
      unfold DirectDelivery.holds at hheld
      split_ifs at hheld
      · rw [List.mem_singleton.1 hheld]
        exact h.sections.direct d hd
      · exact absurd hheld List.not_mem_nil
  have hnew : ∀ packet : Packet, packet.number = r.sections.received →
      (r.ledger.accepted ++ r.inFlight callId ++ [packet]).Nodup := by
    intro packet hnumber
    refine List.nodup_append.2 ⟨h.nodup, List.nodup_singleton _, ?_⟩
    rintro q hq q' hq' rfl
    have hq := hlt q hq
    rw [List.mem_singleton.1 hq', hnumber] at hq
    exact absurd hq (lt_irrefl _)
  have hfirst : r.ledger.firstNumber ≤ r.sections.received + 1 := h.first.trans (Nat.le_succ _)
  have hfresh : ∀ packet ∈ r.ledger.accepted,
      r.ledger.firstNumber ≤ packet.number ∧ packet.number < r.sections.received + 1 :=
    fun packet hpacket => ⟨(h.fresh packet hpacket).1, (h.fresh packet hpacket).2.trans (Nat.lt_succ_self _)⟩
  have hreceives := r.sections.engine.receiveSignalingData_receives id { number := r.sections.received, data := data }
  rcases hresult : r.sections.engine.receiveSignalingData id { number := r.sections.received, data := data } with
    ⟨e', reception⟩
  rw [hresult] at hreceives
  have hdirect : ∀ d : DirectDelivery, d.packet = { number := r.sections.received, data := data } →
      (r.ledger.accepted ++ (r.sections.direct ++ [d]).flatMap
        fun d => d.holds callId r.ledger.firstNumber).Nodup := by
    intro d hpacket
    rw [List.flatMap_append, List.flatMap_singleton, ← List.append_assoc]
    by_cases hcounts : d.callId = callId ∧ r.ledger.firstNumber ≤ d.packet.number
    · rw [show d.holds callId r.ledger.firstNumber = [d.packet] from if_pos hcounts]
      exact hnew _ (by rw [hpacket])
    · rw [show d.holds callId r.ledger.firstNumber = [] from if_neg hcounts, List.append_nil]
      exact h.nodup
  simp only [step, SectionState.step, SectionState.receive, enter, hresult] at hsections ⊢
  cases hreceives with
  | refused error => exact ⟨hsections, hfirst, hfresh, h.nodup⟩
  | ignored hcall hdropped => exact ⟨hsections, hfirst, hfresh, h.nodup⟩
  | queued session hdata hcall hclosed =>
    by_cases hid : id = callId
    · simp only [if_pos hid]
      refine ⟨hsections, hfirst, ?_, ?_⟩
      · intro packet hpacket
        rcases List.mem_append.1 hpacket with hold | hnew
        · exact hfresh packet hold
        · rw [List.mem_singleton.1 hnew]
          exact ⟨h.first, Nat.lt_succ_self _⟩
      · refine List.Perm.nodup ?_ (hnew { number := r.sections.received, data := data } rfl)
        simp only [inFlight, List.append_assoc]
        exact List.perm_append_comm.append_left _
    · simp only [if_neg hid]
      exact ⟨hsections, hfirst, hfresh, h.nodup⟩
  | toConnection session conn hdata hcall hopen hconn => exact ⟨hsections, hfirst, hfresh, hdirect _ rfl⟩
  | toGraph session hdata hcall hopen hconn hgraph => exact ⟨hsections, hfirst, hfresh, hdirect _ rfl⟩

theorem numberedOnce_deliver (h : r.NumberedOnce callId) (k : ℕ) (graphError : Option VoipError) :
    (r.step callId C P (.deliver k graphError)).NumberedOnce callId := by
  have hsections : Numbered (r.sections.step C P (.deliver k graphError)) := numbered_step h.sections _
  simp only [step, SectionState.step, enter] at hsections ⊢
  cases hk : r.sections.direct[k]? with
  | none =>
    have herase : r.sections.direct.eraseIdx k = r.sections.direct :=
      List.eraseIdx_of_length_le (List.getElem?_eq_none_iff.1 hk)
    simp only [herase]
    exact h
  | some d =>
    have hheld : (r.inFlight callId).Perm (d.holds callId r.ledger.firstNumber ++
        (r.sections.direct.eraseIdx k).flatMap fun d => d.holds callId r.ledger.firstNumber) := by
      have hperm := (perm_cons_eraseIdx hk).flatMap_right fun d => d.holds callId r.ledger.firstNumber
      rwa [List.flatMap_cons] at hperm
    have hnodup := (hheld.append_left r.ledger.accepted).nodup h.nodup
    simp only
    cases d.backend.receive d.packet.data graphError with
    | none =>
      refine ⟨hsections, h.first, ?_, ?_⟩
      · intro packet hpacket
        rcases List.mem_append.1 hpacket with hold | hnew
        · exact h.fresh packet hold
        · unfold DirectDelivery.holds at hnew
          split_ifs at hnew with hcounts
          · rw [List.mem_singleton.1 hnew]
            exact ⟨hcounts.2, h.sections.direct d (List.mem_of_getElem? hk)⟩
          · exact absurd hnew List.not_mem_nil
      · rw [← List.append_assoc] at hnodup
        exact hnodup
    | some error =>
      refine ⟨hsections, h.first, h.fresh, hnodup.sublist ?_⟩
      exact (List.Sublist.refl _).append (List.sublist_append_right _ _)

/-- **A part of an operation keeps the numbers of the ledger.** -/
theorem numberedOnce_step (r : SignalingRun) (ev : Section) (h : r.NumberedOnce callId) :
    (r.step callId C P ev).NumberedOnce callId := by
  by_cases hreceive : ∃ id data, ev = .receive id data
  · obtain ⟨id, data, rfl⟩ := hreceive
    exact numberedOnce_receive h id data
  by_cases hdeliver : ∃ k graphError, ev = .deliver k graphError
  · obtain ⟨k, graphError, rfl⟩ := hdeliver
    exact numberedOnce_deliver h k graphError
  push Not at hreceive hdeliver
  obtain ⟨hdirect, hreceived⟩ := direct_step (C := C) (P := P) (s := r.sections) hreceive hdeliver
  by_cases hdrop : ev = .dropCall callId
  · subst hdrop
    have hempty : (r.step callId C P (.dropCall callId)).ledger = { firstNumber := r.sections.received } := if_pos rfl
    have hsections : Numbered (r.sections.step C P (.dropCall callId)) := numbered_step h.sections _
    refine ⟨hsections, ?_, ?_, ?_⟩
    · rw [hempty]
      exact hreceived.ge
    · rw [hempty]
      exact fun packet hpacket => absurd hpacket List.not_mem_nil
    · rw [inFlight, hempty]
      simp only [step, hdirect, List.nil_append]
      have hnone : (r.sections.direct.flatMap fun d => d.holds callId r.sections.received) = [] := by
        rw [List.flatMap_eq_nil_iff]
        intro d hd
        have hlt := h.sections.direct d hd
        simp only [DirectDelivery.holds]
        exact if_neg fun hheld => by omega
      rw [hnone]
      exact List.nodup_nil
  · obtain ⟨haccepted, hfirst⟩ := enter_step (r := r) hreceive hdeliver hdrop
    have hsections : Numbered (r.sections.step C P ev) := numbered_step h.sections _
    refine ⟨hsections, ?_, ?_, ?_⟩
    · simp only [step, hfirst, hreceived]
      exact h.first
    · simp only [step, haccepted, hfirst, hreceived]
      exact h.fresh
    · simp only [step, inFlight, haccepted, hfirst, hdirect]
      exact h.nodup

end Numbers

/-! ### Runs -/

theorem numbered_initial (hasGraph : Bool) : Numbered (.initial hasGraph) := by
  refine ⟨?_, ?_, ?_, ?_, ?_, ?_⟩
  · intro id session hnone
    cases hnone
  · intro id session hnone
    cases hnone
  · intro thread id session hnone
    cases hnone
  · exact fun d hd => absurd hd List.not_mem_nil
  · exact fun d hd => absurd hd List.not_mem_nil
  · exact fun d hd => absurd hd List.not_mem_nil

theorem conserved_writeBack_iff (h : r.Conserved callId reading) (thread : ℕ) :
    (r.step callId C P (.writeBack thread)).Conserved callId reading ↔ r.Keeps callId reading (.writeBack thread) := by
  cases hcopy : r.sections.copies thread with
  | none =>
    have hsame : r.step callId C P (.writeBack thread) = r := by
      simp only [step, SectionState.step, hcopy, enter]
    rw [hsame]
    refine iff_of_true h ?_
    intro session hsome
    rw [hcopy] at hsome
    cases hsome
  | some copy =>
    obtain ⟨id, session⟩ := copy
    have hstep : r.step callId C P (.writeBack thread) = { r with sections := { r.sections with
        engine := r.sections.engine.storeCall id session
        copies := Function.update r.sections.copies thread none } } := by
      simp only [step, SectionState.step, hcopy, enter]
    have hiff := conserved_iff_sameSignaling h { r with sections := { r.sections with
        engine := r.sections.engine.storeCall id session
        copies := Function.update r.sections.copies thread none } } rfl rfl rfl
    rw [hstep, hiff]
    simp only [Keeps, hcopy, Option.some.injEq, Prod.mk.injEq]
    by_cases hid : id = callId
    · subst hid
      simp only [session_storeCall_self, true_and, forall_eq']
    · refine iff_of_true (sameSignaling_storeCall fun hid' => absurd hid' hid) ?_
      rintro session' ⟨hid', -⟩
      exact absurd hid' hid

/-- **A part of an operation keeps the signaling conserved exactly when it meets its condition.** -/
theorem conserved_step_iff (hnum : r.NumberedOnce callId) (h : r.Conserved callId reading) (ev : Section) :
    (r.step callId C P ev).Conserved callId reading ↔ r.Keeps callId reading ev := by
  cases ev with
  | createOutgoingDh randomId g p draws =>
    refine iff_of_true (h.same rfl rfl rfl ?_) trivial
    simp only [step, SectionState.step, session_createOutgoingDh]
    exact .refl _
  | bindOutgoingCall randomId id =>
    have hiff := conserved_iff_sameSignaling h (r.step callId C P (.bindOutgoingCall randomId id)) rfl rfl rfl
    rw [hiff]
    simp only [step, SectionState.step, SignalingEngine.bindOutgoingCall, Keeps]
    by_cases hpos : id ≤ 0
    · rw [if_pos hpos]
      exact iff_of_true (.refl _) fun hpos' => absurd hpos' (not_lt.2 hpos)
    rw [if_neg hpos]
    cases hsession : r.sections.engine.outgoingByRandom randomId with
    | none =>
      refine iff_of_true (.refl _) ?_
      intro _ _ session hsome
      cases hsome
    | some session =>
      simp only [not_le.1 hpos, forall_true_left, Option.some.injEq, forall_eq']
      by_cases hid : id = callId
      · subst hid
        simp only [forall_true_left]
        refine ⟨fun hsame => ?_, fun hsame => ?_⟩
        · have hstored := session_storeCall_self r.sections.engine id
            { session with toDhSession := { session.toDhSession with callId := id } }
          have hsame' : SameSignaling (r.sections.engine.session id)
            ((r.sections.engine.storeCall id { session with toDhSession := { session.toDhSession with callId := id } }).session
              id) := hsame
          rw [hstored] at hsame'
          exact ⟨hsame'.pending, hsame'.received, hsame'.dropped⟩
        · exact sameSignaling_storeCall (e := r.sections.engine)
            fun _ => ⟨hsame.pending, hsame.received, hsame.dropped⟩
      · refine iff_of_true ?_ fun hid' => absurd hid' hid
        exact sameSignaling_storeCall (e := r.sections.engine) fun hid' => absurd hid' hid
  | registerIncomingGAHash id gAHash =>
    exact iff_of_true (h.same rfl rfl rfl (sameSignaling_registerIncomingGAHash _ id gAHash)) trivial
  | copy thread op =>
    refine iff_of_true ?_ trivial
    simp only [step, SectionState.step, enter]
    split <;> exact h.same rfl rfl rfl (.refl _)
  | writeBack thread => exact conserved_writeBack_iff h thread
  | dropCall id => exact iff_of_true (conserved_dropCall hnum h id) trivial
  | receive id data => exact iff_of_true (conserved_receive hnum h id data) trivial
  | deliver k graphError => exact conserved_deliver_iff hnum h k graphError
  | startMedia descriptor id input graphError =>
    refine iff_of_true ?_ trivial
    simp only [step, SectionState.step, enter]
    rcases r.sections.startMedia_cases P descriptor id input graphError with heq | ⟨conn, -, -, heq⟩ | ⟨-, heq⟩
    · rw [heq]
      exact h
    · rw [heq]
      exact h.same rfl rfl rfl (.refl _)
    · rw [heq]
      refine h.same rfl rfl ?_ (.refl _)
      simp [inTransit, holds_nil]
  | publish k => exact conserved_publish_iff hnum h k
  | handOver k graphError => exact conserved_handOver_iff h k graphError
  | graphTurn k => exact conserved_graphTurn_iff hnum h k
  | retract k => exact iff_of_true (conserved_retract hnum h k) trivial
  | stopMedia => exact iff_of_true (h.same rfl rfl rfl (.refl _)) trivial

/-- **When the signaling is conserved.**  For every call, in either reading: in every interleaving, at every point of it,
the packets of the call that were accepted since it was opened are queued, delivered or dropped, each once, and counted,
exactly when every part of an operation meets its condition. -/
theorem conserved_iff (C : Crypto) (P : Platform) (callId : ℤ) (reading : Reading) (hasGraph : Bool)
    (events : List Section) :
    (∀ pre, pre <+: events →
        (run (step callId C P) { sections := .initial hasGraph } pre).Conserved callId reading) ↔
      Guarded (step callId C P) (Keeps callId reading) { sections := .initial hasGraph } events := by
  have hstart : NumberedOnce callId { sections := .initial hasGraph } :=
    ⟨numbered_initial hasGraph, Nat.le_refl 0, fun _ h => absurd h List.not_mem_nil, List.nodup_nil⟩
  have hconserved : Conserved callId reading { sections := .initial hasGraph } :=
    ⟨.refl _, List.nodup_nil, fun _ => rfl, rfl, rfl⟩
  have hstep : ∀ (r : SignalingRun) ev, r.NumberedOnce callId → r.Conserved callId reading →
      ((r.step callId C P ev).Conserved callId reading ↔ r.Keeps callId reading ev) :=
    fun r ev hnum h => conserved_step_iff hnum h ev
  exact reached_iff_guarded numberedOnce_step hstep events hstart hconserved

/-! ### A packet that is lost -/

/-- A packet comes while `CreateIncomingDh` draws its exponent. -/
def sampleLost : List Section :=
  [.registerIncomingGAHash 1 (List.replicate 32 7), .copy 0 (.createIncomingDh 1 3 samplePrime (smallDraws 2)),
    .receive 1 [5], .writeBack 0]

/-- **The packet was accepted, and is nowhere**, nor is it counted. -/
theorem signaling_lost :
    ¬ (run (step 1 sampleCrypto Dtls.nullCrypto.toPlatform) { sections := .initial false } sampleLost).Conserved 1 .strict ∧
      ¬ (run (step 1 sampleCrypto Dtls.nullCrypto.toPlatform) { sections := .initial false } sampleLost).Conserved 1
        .lenient := by
  set r := run (step 1 sampleCrypto Dtls.nullCrypto.toPlatform) { sections := .initial false } sampleLost with hr
  have haccepted : r.ledger.accepted.length = 1 := by
    rw [hr]
    decide +kernel
  have hnowhere : ((r.sections.engine.session 1).pendingSignalingPackets ++ r.ledger.delivered ++ r.ledger.evicted
      ++ r.inTransit 1).length = 0 := by
    rw [hr]
    decide +kernel
  have hlost : ∀ reading, ¬ r.Conserved 1 reading := by
    intro reading h
    have hlen := h.accounted.length_eq
    omega
  exact ⟨hlost _, hlost _⟩

end SignalingRun

end VianiumVoip.Engine
