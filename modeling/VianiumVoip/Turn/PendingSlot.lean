import VianiumVoip.Turn.Threads

/-!
# The pending slot of a TURN client under several threads

Every request of a client overwrites the one pending slot.  `OnInboundUdp` drops a response whose transaction id is not
the one of the last request, and a thread whose slot was overwritten waits for nothing.

`delivered_run` says in which runs the calls of `AddPeerPermission` get their responses.  A request begins while no
response waits to be taken; a response arrives while its request is the last one, in a type that `TurnClassOf` reads
right; and `wait_until` reports no timeout to a thread whose response is there.
-/

namespace VianiumVoip.Turn

open VianiumVoip.Lib VianiumVoip.Lib.Run VianiumVoip.Engine AllocationClient

/-- The transaction id of the response that a thread waits for. -/
def Point.awaited? : Point → Option Bytes
  | .waitForResponse _ txnId | .waiting _ txnId => some txnId
  | _ => none

/-- The transaction id of the request that a thread has begun and got no response to. -/
def Point.pending? : Point → Option Bytes
  | .takeSocket _ (some (_, txnId)) | .store _ _ (some (_, txnId)) => some txnId
  | .waitForResponse _ txnId | .waiting _ txnId => some txnId
  | _ => none

/-- A call on an allocated client, or a datagram. -/
def Call.isOnAllocated : Call → Bool
  | .addPeerPermission _ | .send _ _ | .messageReceived _ _ => true
  | _ => false

structure PermissionRun extends TurnSystem where
  /-- The transaction ids of all requests. -/
  used : List Bytes := []
  /-- The threads whose response has arrived while they waited for it. -/
  answered : List ℕ := []
  /-- What the calls have taken from the slot, with the transaction ids of their requests. -/
  taken : List (Bytes × TurnMessage) := []

namespace PermissionRun

section Definitions

variable (C : Crypto) (r : PermissionRun)

/-- The transaction id that an access draws. -/
def drawn (answers : Answers) : Point → List Bytes
  | .beginRequest _ => [answers.txnId]
  | _ => []

/-- The threads that wait for the response in a datagram. -/
def arrivals : Point → List ℕ
  | .onInboundUdp bytes =>
    match decodeMessage bytes with
    | some msg =>
      (List.range r.threads.length).filter fun k =>
        r.threads[k]?.any fun t => t.point.awaited? = some msg.transactionId
    | none => []
  | _ => []

def takes : Point → List (Bytes × TurnMessage)
  | .waitForResponse _ txnId =>
    if r.client.active then ((r.client.toTurnClient.waitForResponse txnId).map fun p => (txnId, p.1)).toList else []
  | _ => []

def step (r : PermissionRun) (ev : TurnEvent) : PermissionRun :=
  match ev with
  | .calls _ => { r with toTurnSystem := r.toTurnSystem.step C ev }
  | .performs k answers =>
    match r.threads[k]? with
    | some t =>
      { toTurnSystem := r.toTurnSystem.step C ev
        used := r.used ++ drawn answers t.point
        answered := r.answered ++ r.arrivals t.point
        taken := r.taken ++ r.takes t.point }
    | none => r

/-- The thread gets to its end, with its peers permitted. -/
def Finishes (s : TurnSystem) (k : ℕ) : Prop :=
  ∃ n, ∃ t ∈ (run (TurnSystem.step C) s (List.replicate n (.performs k {}))).threads[k]?,
    t.point = .returned (.ok ()) ∧
      ∀ peer ∈ t.call.peers,
        peer ∈ (run (TurnSystem.step C) s (List.replicate n (.performs k {}))).client.permittedPeers

/-- **No response is lost.**  A call whose response has arrived has returned `Ok` or gets there, whatever has happened
to the other calls, and no call has taken the response to another. -/
structure Delivered : Prop where
  returned : ∀ k ∈ r.answered, ∀ t ∈ r.threads[k]?, ∀ result, t.point = .returned result →
    result = .ok () ∧ ∀ peer ∈ t.call.peers, peer ∈ r.client.permittedPeers
  finishes : ∀ k ∈ r.answered, Finishes C r.toTurnSystem k
  taken : ∀ p ∈ r.taken, p.2.transactionId = p.1

/-- What is said of the runs: the calls, fresh transaction ids, and that the responses to requests are successes. -/
def expects (answers : Answers) : Point → Bool
  | .beginRequest _ => answers.txnId ∉ r.used
  | .onInboundUdp bytes =>
    (decodeMessage bytes).all fun msg => msg.transactionId ∉ r.used || rfcClassOf msg.type = .success
  | _ => true

def Expects : TurnEvent → Prop
  | .calls call => call.isOnAllocated = true
  | .performs k answers => ∀ t ∈ r.threads[k]?, r.expects answers t.point = true

instance (ev : TurnEvent) : Decidable (r.Expects ev) :=
  match ev with
  | .calls call => inferInstanceAs (Decidable (call.isOnAllocated = true))
  | .performs k answers => inferInstanceAs (Decidable (∀ t ∈ r.threads[k]?, r.expects answers t.point = true))

/-- The condition on an access. -/
def admits (answers : Answers) : Point → Bool
  | .beginRequest _ => r.answered.all fun k => r.threads[k]?.all fun t => t.point.awaited?.isNone
  | .waiting _ txnId => !answers.timedOut || !(r.client.pendingComplete && r.client.pendingTxnId = txnId)
  | .onInboundUdp bytes =>
    (decodeMessage bytes).all fun msg =>
      r.threads.all fun t =>
        t.point.awaited? ≠ some msg.transactionId
          || r.client.pendingTxnId = msg.transactionId && msg.type &&& 0x0200 ≠ 0
  | _ => true

def Admits : TurnEvent → Prop
  | .calls _ => True
  | .performs k answers => ∀ t ∈ r.threads[k]?, r.admits answers t.point = true

instance (ev : TurnEvent) : Decidable (r.Admits ev) :=
  match ev with
  | .calls _ => inferInstanceAs (Decidable True)
  | .performs k answers => inferInstanceAs (Decidable (∀ t ∈ r.threads[k]?, r.admits answers t.point = true))

end Definitions

end PermissionRun

/-! ### The invariant -/

/-- The points of a call on an allocated client. -/
inductive Fits : Call → Point → Prop
  | addPeerPermission (peer : TurnAddress) : Fits (.addPeerPermission peer) (.addPeerPermission peer)
  | deduplicate (peer : TurnAddress) : Fits (.addPeerPermission peer) (.deduplicate peer)
  | createPermission (peer : TurnAddress) : Fits (.addPeerPermission peer) (.createPermission [peer])
  | beginRequest (peer : TurnAddress) :
      Fits (.addPeerPermission peer) (.beginRequest (.createPermission [peer]))
  | takeSocket (peer : TurnAddress) (bytes txnId : Bytes) :
      Fits (.addPeerPermission peer) (.takeSocket bytes (some (.createPermission [peer], txnId)))
  | store (peer : TurnAddress) (socket : Option ℕ) (bytes txnId : Bytes) :
      Fits (.addPeerPermission peer) (.store socket bytes (some (.createPermission [peer], txnId)))
  | waitForResponse (peer : TurnAddress) (txnId : Bytes) :
      Fits (.addPeerPermission peer) (.waitForResponse (.createPermission [peer]) txnId)
  | waiting (peer : TurnAddress) (txnId : Bytes) :
      Fits (.addPeerPermission peer) (.waiting (.createPermission [peer]) txnId)
  | permit (peer : TurnAddress) : Fits (.addPeerPermission peer) (.permit [peer])
  | send (peer : TurnAddress) (bytes : Bytes) : Fits (.send peer bytes) (.send peer bytes)
  | takeSendSocket (peer : TurnAddress) (bytes envelope : Bytes) : Fits (.send peer bytes) (.takeSocket envelope none)
  | storeSend (peer : TurnAddress) (bytes envelope : Bytes) (socket : Option ℕ) :
      Fits (.send peer bytes) (.store socket envelope none)
  | messageReceived (socket : ℕ) (bytes : Bytes) :
      Fits (.messageReceived socket bytes) (.messageReceived socket bytes)
  | onInboundUdp (socket : ℕ) (bytes : Bytes) : Fits (.messageReceived socket bytes) (.onInboundUdp bytes)
  | returned (call : Call) (result : Result) : Fits call (.returned result)

namespace PermissionRun

section Invariant

variable (r : PermissionRun)

/-- What the slot holds for a request with this transaction id, while it is the last one. -/
def HoldsFor (txnId : Bytes) : Prop :=
  r.client.havePending = true ∧
    (r.client.pendingComplete = true →
      r.client.pendingResponse.transactionId = txnId ∧ turnClassOf r.client.pendingResponse.type = kClassSuccess)

/-- Where a thread may stand whose response has arrived. -/
def Attended (t : Thread) : Prop :=
  match t.point with
  | .waitForResponse _ txnId | .waiting _ txnId =>
    r.client.pendingTxnId = txnId ∧ r.client.pendingComplete = true
  | .permit _ => True
  | .returned result => result = .ok () ∧ ∀ peer ∈ t.call.peers, peer ∈ r.client.permittedPeers
  | _ => False

structure ThreadInv (k : ℕ) (t : Thread) : Prop where
  fits : Fits t.call t.point
  used : ∀ txnId ∈ t.point.pending?, txnId ∈ r.used
  holds : ∀ txnId ∈ t.point.pending?, txnId = r.client.pendingTxnId → r.HoldsFor txnId
  attended : k ∈ r.answered → r.Attended t

structure Inv : Prop where
  active : r.client.active = true
  allocated : r.client.allocated = true
  threads : ∀ k, ∀ t ∈ r.threads[k]?, r.ThreadInv k t
  /-- Two threads never wait for the same response. -/
  distinct : ∀ (j k : ℕ) (s t : Thread) (txnId : Bytes), r.threads[j]? = some s → r.threads[k]? = some t →
    s.point.pending? = some txnId → t.point.pending? = some txnId → j = k
  answered : ∀ k ∈ r.answered, k < r.threads.length
  taken : ∀ p ∈ r.taken, p.2.transactionId = p.1

end Invariant

variable {C : Crypto} {r : PermissionRun} {answers : Answers} {k : ℕ} {t : Thread} {p : Point}

theorem fits_entry {call : Call} (h : call.isOnAllocated = true) : Fits call call.entry := by
  cases call with
  | addPeerPermission peer => exact .addPeerPermission peer
  | send peer bytes => exact .send peer bytes
  | messageReceived socket bytes => exact .messageReceived socket bytes
  | _ => cases h

theorem inv_calls (h : r.Inv) {call : Call} (hcall : call.isOnAllocated = true) : (r.step C (.calls call)).Inv := by
  have hthreads : (r.step C (.calls call)).threads = r.threads ++ [{ call := call, point := call.entry }] := rfl
  have hpending : call.entry.pending? = none := by
    cases call <;> rfl
  have hcases (j : ℕ) (s : Thread) (hs : (r.step C (.calls call)).threads[j]? = some s) :
      r.threads[j]? = some s ∨ j = r.threads.length ∧ s = { call := call, point := call.entry } := by
    rw [hthreads] at hs
    rcases lt_trichotomy j r.threads.length with hlt | rfl | hgt
    · exact .inl (by rwa [List.getElem?_append_left hlt] at hs)
    · rw [List.getElem?_concat_length] at hs
      exact .inr ⟨rfl, (Option.some.inj hs).symm⟩
    · rw [List.getElem?_eq_none (by rw [List.length_append, List.length_singleton]; omega)] at hs
      cases hs
  constructor
  case active => exact h.active
  case allocated => exact h.allocated
  case threads =>
    intro j s hs
    rcases hcases j s hs with hold | ⟨rfl, rfl⟩
    · have hinv := h.threads j s hold
      exact ⟨hinv.fits, hinv.used, hinv.holds, hinv.attended⟩
    · refine ⟨fits_entry hcall, ?_, ?_, fun hanswered => absurd (h.answered _ hanswered) (lt_irrefl _)⟩
      all_goals
        intro txnId htxn
        rw [hpending] at htxn
        cases htxn
  case distinct =>
    intro i j s s' txnId hs hs' htxn htxn'
    rcases hcases i s hs with hold | ⟨rfl, rfl⟩
    · rcases hcases j s' hs' with hold' | ⟨rfl, rfl⟩
      · exact h.distinct i j s s' txnId hold hold' htxn htxn'
      · rw [hpending] at htxn'
        cases htxn'
    · rw [hpending] at htxn
      cases htxn
  case answered =>
    intro j hj
    rw [hthreads, List.length_append, List.length_singleton]
    exact (h.answered j hj).trans (Nat.lt_succ_self _)
  case taken => exact h.taken

/-! One thread makes its access. -/

theorem step_performs (hk : r.threads[k]? = some t) :
    r.step C (.performs k answers)
      = { client := (r.client.perform C answers t.call t.point).1
          threads := r.threads.set k { t with point := (r.client.perform C answers t.call t.point).2 }
          used := r.used ++ drawn answers t.point
          answered := r.answered ++ r.arrivals t.point
          taken := r.taken ++ r.takes t.point } := by
  simp only [step, TurnSystem.step, hk]

/-- What is to be shown of an access: what it leaves to the thread itself and to the others. -/
theorem inv_change (h : r.Inv) (hk : r.threads[k]? = some t) {r' : PermissionRun}
    (hthreads : r'.threads = r.threads.set k { t with point := p }) (hactive : r'.client.active = true)
    (hallocated : r'.client.allocated = true) (hself : r'.ThreadInv k { t with point := p })
    (hothers : ∀ j s, j ≠ k → r.threads[j]? = some s → r'.ThreadInv j s)
    (hpending : ∀ txnId, p.pending? = some txnId → t.point.pending? = some txnId ∨ txnId ∉ r.used)
    (hanswered : ∀ j ∈ r'.answered, j < r.threads.length) (htaken : ∀ p ∈ r'.taken, p.2.transactionId = p.1) :
    r'.Inv := by
  have hlt : k < r.threads.length := (List.getElem?_eq_some_iff.1 hk).1
  have hcases (j : ℕ) (s : Thread) (hs : r'.threads[j]? = some s) :
      j = k ∧ s = { t with point := p } ∨ j ≠ k ∧ r.threads[j]? = some s := by
    rw [hthreads] at hs
    rcases eq_or_ne j k with rfl | hne
    · rw [List.getElem?_set_self hlt] at hs
      exact .inl ⟨rfl, (Option.some.inj hs).symm⟩
    · rw [List.getElem?_set_ne hne.symm] at hs
      exact .inr ⟨hne, hs⟩
  -- a transaction id that the thread and another one have is an old one of both
  have hother (j : ℕ) (s : Thread) (txnId : Bytes) (hs : r.threads[j]? = some s)
      (htxn : s.point.pending? = some txnId) (hp : p.pending? = some txnId) : j = k := by
    rcases hpending txnId hp with hold | hfresh
    · exact h.distinct j k s t txnId hs hk htxn hold
    · exact absurd ((h.threads j s hs).used txnId htxn) hfresh
  constructor
  case active => exact hactive
  case allocated => exact hallocated
  case threads =>
    intro j s hs
    rcases hcases j s hs with ⟨rfl, rfl⟩ | ⟨hne, hold⟩
    · exact hself
    · exact hothers j s hne hold
  case distinct =>
    intro i j s s' txnId hs hs' htxn htxn'
    rcases hcases i s hs with ⟨rfl, rfl⟩ | ⟨hne, hold⟩
    · rcases hcases j s' hs' with ⟨rfl, rfl⟩ | ⟨hne', hold'⟩
      · rfl
      · exact (hother j s' txnId hold' htxn' htxn).symm
    · rcases hcases j s' hs' with ⟨rfl, rfl⟩ | ⟨hne', hold'⟩
      · exact hother i s txnId hold htxn htxn'
      · exact h.distinct i j s s' txnId hold hold' htxn htxn'
  case answered =>
    intro j hj
    rw [hthreads, List.length_set]
    exact hanswered j hj
  case taken => exact htaken

theorem inv_local (h : r.Inv) (hk : r.threads[k]? = some t)
    (hperform : r.client.perform C answers t.call t.point = (r.client, p)) (hdrawn : drawn answers t.point = [])
    (harrivals : r.arrivals t.point = []) (htakes : r.takes t.point = []) (hfits : Fits t.call p)
    (hpending : p.pending? = none ∨ p.pending? = t.point.pending?)
    (hattended : k ∈ r.answered → r.Attended { t with point := p }) : (r.step C (.performs k answers)).Inv := by
  have hinv := h.threads k t hk
  have hold : ∀ txnId, p.pending? = some txnId → t.point.pending? = some txnId := by
    intro txnId htxn
    rcases hpending with hnone | hsame
    · rw [hnone] at htxn
      cases htxn
    · rwa [← hsame]
  rw [step_performs hk, hperform, hdrawn, harrivals, htakes, List.append_nil, List.append_nil, List.append_nil]
  refine inv_change h hk rfl h.active h.allocated ?_ ?_ (fun txnId htxn => .inl (hold txnId htxn)) h.answered h.taken
  · exact ⟨hfits, fun txnId htxn => hinv.used txnId (hold txnId htxn),
      fun txnId htxn => hinv.holds txnId (hold txnId htxn), hattended⟩
  · intro j s _ hs
    have hother := h.threads j s hs
    exact ⟨hother.fits, hother.used, hother.holds, hother.attended⟩

theorem pending_of_awaited {point : Point} {txnId : Bytes} (h : point.awaited? = some txnId) :
    point.pending? = some txnId := by
  cases point with
  | waitForResponse _ _ => exact h
  | waiting _ _ => exact h
  | _ => cases h

theorem Attended.mono {r r' : PermissionRun} (h : r.Attended t)
    (hpermitted : ∀ peer ∈ r.client.permittedPeers, peer ∈ r'.client.permittedPeers)
    (hslot : ∀ txnId, t.point.awaited? = some txnId →
      r'.client.pendingTxnId = txnId ∧ r'.client.pendingComplete = true) : r'.Attended t := by
  unfold Attended at h ⊢
  cases hpoint : t.point <;> rw [hpoint] at h hslot
  case waitForResponse request txnId => exact hslot txnId rfl
  case waiting request txnId => exact hslot txnId rfl
  case permit peers => trivial
  case returned result => exact ⟨h.1, fun peer hpeer => hpermitted peer (h.2 peer hpeer)⟩
  all_goals exact h

theorem slot_of_attended (h : r.Attended t) {txnId : Bytes} (htxn : t.point.awaited? = some txnId) :
    r.client.pendingTxnId = txnId ∧ r.client.pendingComplete = true := by
  unfold Attended at h
  cases hpoint : t.point <;> rw [hpoint] at h htxn
  case waitForResponse request txnId' =>
    rw [← Option.some.inj htxn]
    exact h
  case waiting request txnId' =>
    rw [← Option.some.inj htxn]
    exact h
  all_goals cases htxn

theorem attended_of_slot {txnId : Bytes} (htxn : t.point.awaited? = some txnId)
    (hid : r.client.pendingTxnId = txnId) (hcomplete : r.client.pendingComplete = true) : r.Attended t := by
  unfold Attended
  cases hpoint : t.point <;> rw [hpoint] at htxn
  case waitForResponse request txnId' => exact ⟨hid.trans (Option.some.inj htxn).symm, hcomplete⟩
  case waiting request txnId' => exact ⟨hid.trans (Option.some.inj htxn).symm, hcomplete⟩
  all_goals cases htxn

/-- A new request overwrites the slot, and no response waits there. -/
theorem inv_beginRequest (h : r.Inv) {peer : TurnAddress}
    (hk : r.threads[k]? = some ⟨.addPeerPermission peer, .beginRequest (.createPermission [peer])⟩)
    (hexpects : r.expects answers (.beginRequest (.createPermission [peer])) = true)
    (hadmits : r.admits answers (.beginRequest (.createPermission [peer])) = true) :
    (r.step C (.performs k answers)).Inv := by
  have hfresh : answers.txnId ∉ r.used := of_decide_eq_true hexpects
  have hinv := h.threads k _ hk
  have hanswered : r.answered ++ r.arrivals (.beginRequest (.createPermission [peer])) = r.answered :=
    List.append_nil _
  have htaken : r.taken ++ r.takes (.beginRequest (.createPermission [peer])) = r.taken := List.append_nil _
  rw [step_performs hk, hanswered, htaken]
  refine inv_change h hk rfl h.active h.allocated ?_ ?_ (fun txnId htxn => ?_) h.answered h.taken
  · constructor
    case fits => exact .takeSocket peer _ answers.txnId
    case used =>
      intro txnId htxn
      rw [← Option.some.inj htxn]
      exact List.mem_append_right _ (List.mem_singleton_self _)
    case holds => exact fun _ _ _ => ⟨rfl, fun hcomplete => Bool.noConfusion hcomplete⟩
    case attended => exact fun hk' => (hinv.attended hk').elim
  · intro j s hne hs
    have hother := h.threads j s hs
    constructor
    case fits => exact hother.fits
    case used => exact fun txnId htxn => List.mem_append_left _ (hother.used txnId htxn)
    case holds =>
      intro txnId htxn heq
      -- it is not the last request any more
      have hmem := hother.used txnId htxn
      rw [heq] at hmem
      exact absurd hmem hfresh
    case attended =>
      intro hj
      have hnone : s.point.awaited? = none := by
        have hall := List.all_eq_true.1 hadmits j hj
        rw [hs] at hall
        exact Option.isNone_iff_eq_none.1 hall
      refine (hother.attended hj).mono (fun _ hpeer => hpeer) fun txnId htxn => ?_
      rw [hnone] at htxn
      cases htxn
  · rw [← Option.some.inj htxn]
    exact .inr hfresh

theorem onPermission_of_success {call : Call} {peers : List TurnAddress} {response : TurnMessage}
    (h : turnClassOf response.type = kClassSuccess) : onPermission call peers response = .permit peers := by
  unfold onPermission
  rw [h, if_neg (by decide), if_neg (not_not_intro rfl)]

theorem perform_take {c : AllocationClient} {peer : TurnAddress} {txnId : Bytes} (C : Crypto) (answers : Answers)
    (hactive : c.active = true)
    (hslot : c.pendingComplete = true ∧ c.havePending = true ∧ c.pendingTxnId = txnId)
    (hclass : turnClassOf c.pendingResponse.type = kClassSuccess) :
    c.perform C answers (.addPeerPermission peer) (.waitForResponse (.createPermission [peer]) txnId)
      = ({ c with toTurnClient := { c.toTurnClient with havePending := false, pendingComplete := false } },
          .permit [peer]) := by
  have htake : c.toTurnClient.waitForResponse txnId
      = some (c.pendingResponse, { c.toTurnClient with havePending := false, pendingComplete := false }) := if_pos hslot
  simp only [perform, hactive, Bool.not_true, Bool.false_eq_true, if_false, htake, onResponse,
    onPermission_of_success hclass]

theorem inv_take (h : r.Inv) {peer : TurnAddress} {txnId : Bytes}
    (hk : r.threads[k]? = some ⟨.addPeerPermission peer, .waitForResponse (.createPermission [peer]) txnId⟩)
    (hslot : r.client.pendingComplete = true ∧ r.client.havePending = true ∧ r.client.pendingTxnId = txnId) :
    (r.step C (.performs k answers)).Inv := by
  have hinv := h.threads k _ hk
  obtain ⟨-, hresponse⟩ := hinv.holds txnId rfl hslot.2.2.symm
  obtain ⟨hid, hclass⟩ := hresponse hslot.1
  have htake : r.client.toTurnClient.waitForResponse txnId
      = some (r.client.pendingResponse,
          { r.client.toTurnClient with havePending := false, pendingComplete := false }) := if_pos hslot
  have htakes : r.takes (.waitForResponse (.createPermission [peer]) txnId) = [(txnId, r.client.pendingResponse)] := by
    simp only [takes, h.active, if_true, htake, Option.map_some, Option.toList_some]
  -- no other thread waits for this response
  have hother (j : ℕ) (s : Thread) (hne : j ≠ k) (hs : r.threads[j]? = some s) :
      s.point.pending? ≠ some r.client.pendingTxnId := by
    intro htxn
    rw [hslot.2.2] at htxn
    exact hne (h.distinct j k s _ txnId hs hk htxn rfl)
  have hanswered : r.answered ++ r.arrivals (.waitForResponse (.createPermission [peer]) txnId) = r.answered :=
    List.append_nil _
  rw [step_performs hk, perform_take C answers h.active hslot hclass, htakes, hanswered]
  refine inv_change h hk rfl h.active h.allocated ?_ ?_ (fun txnId htxn => ?_) h.answered fun p hp => ?_
  · refine ⟨.permit peer, ?_, ?_, fun _ => trivial⟩
    all_goals
      intro txnId htxn
      cases htxn
  · intro j s hne hs
    have hinv := h.threads j s hs
    constructor
    case fits => exact hinv.fits
    case used => exact fun txnId htxn => List.mem_append_left _ (hinv.used txnId htxn)
    case holds =>
      rintro txnId htxn rfl
      exact absurd htxn (hother j s hne hs)
    case attended =>
      intro hj
      have hattended := hinv.attended hj
      refine hattended.mono (fun _ hpeer => hpeer) fun txnId htxn => ?_
      have hown := slot_of_attended hattended htxn
      rw [← hown.1] at htxn
      exact absurd (pending_of_awaited htxn) (hother j s hne hs)
  · cases htxn
  · rcases List.mem_append.1 hp with hp | hp
    · exact h.taken p hp
    · rw [List.mem_singleton.1 hp]
      exact hid

theorem inv_permit (h : r.Inv) {peer : TurnAddress}
    (hk : r.threads[k]? = some ⟨.addPeerPermission peer, .permit [peer]⟩) :
    (r.step C (.performs k answers)).Inv := by
  rw [step_performs hk]
  have hused : r.used ++ drawn answers (.permit [peer]) = r.used := List.append_nil _
  have hanswered : r.answered ++ r.arrivals (.permit [peer]) = r.answered := List.append_nil _
  have htaken : r.taken ++ r.takes (.permit [peer]) = r.taken := List.append_nil _
  rw [hused, hanswered, htaken]
  refine inv_change h hk rfl h.active h.allocated ?_ ?_ (fun txnId htxn => ?_) h.answered h.taken
  · refine ⟨.returned _ _, ?_, ?_, fun _ => ⟨rfl, ?_⟩⟩
    · exact fun txnId htxn => nomatch htxn
    · exact fun txnId htxn => nomatch htxn
    · exact fun peer hpeer => List.mem_append_right _ hpeer
  · intro j s _ hs
    have hinv := h.threads j s hs
    exact ⟨hinv.fits, hinv.used, hinv.holds, fun hj =>
      (hinv.attended hj).mono (fun _ hpeer => List.mem_append_left _ hpeer)
        fun txnId htxn => slot_of_attended (hinv.attended hj) htxn⟩
  · cases htxn

/-- What a datagram does to the slot: it completes the last request, or nothing. -/
theorem slot_onInboundUdp (s : TurnClient) (bytes : Bytes) :
    (s.onInboundUdp bytes).1 = s ∨
      ∃ msg, decodeMessage bytes = some msg ∧ s.havePending = true ∧ msg.type &&& 0x0200 ≠ 0 ∧
        msg.transactionId = s.pendingTxnId ∧ (s.onInboundUdp bytes).1 = s.complete msg := by
  cases hmsg : decodeMessage bytes with
  | none => exact .inl (by rw [TurnClient.onInboundUdp_of_undecoded hmsg])
  | some msg =>
    by_cases hmatch : msg.type &&& 0x0200 ≠ 0 ∧ msg.transactionId = s.pendingTxnId
    · obtain ⟨hbit, htxn⟩ := hmatch
      cases hpending : s.havePending with
      | true =>
        exact .inr ⟨msg, rfl, rfl, hbit, htxn, by rw [TurnClient.onInboundUdp_eq_complete hpending hmsg hbit htxn]⟩
      | false => exact .inl (TurnClient.onInboundUdp_of_idle hpending bytes)
    · refine .inl (TurnClient.onInboundUdp_unchanged hmsg ?_).1
      tauto

/-- A response to a request of the calls is a success, as the client reads its type. -/
theorem turnClassOf_of_success {type : UInt16} (hclass : rfcClassOf type = .success) (hbit : type &&& 0x0200 ≠ 0) :
    turnClassOf type = kClassSuccess := by
  have hbit8 : type &&& 0x0100 ≠ 0 := (rfcClassOf_response_iff type).1 (.inl hclass)
  rw [(turnClassOf_eq_iff type).2 ⟨fun h => absurd h hbit8, fun h => absurd h hbit⟩, hclass]
  rfl

theorem mem_arrivals {bytes : Bytes} {j : ℕ} (h : j ∈ r.arrivals (.onInboundUdp bytes)) :
    ∃ msg s, decodeMessage bytes = some msg ∧ r.threads[j]? = some s ∧ s.point.awaited? = some msg.transactionId := by
  simp only [arrivals] at h
  cases hmsg : decodeMessage bytes with
  | none =>
    rw [hmsg] at h
    cases h
  | some msg =>
    rw [hmsg] at h
    obtain ⟨-, hany⟩ := List.mem_filter.1 h
    obtain ⟨s, hs, hawaited⟩ := (Option.any_eq_true _ _).1 hany
    exact ⟨msg, s, rfl, hs, of_decide_eq_true hawaited⟩

/-- **A datagram arrives.**  A response that a thread waits for gets into the slot. -/
theorem inv_onInboundUdp (h : r.Inv) {socket : ℕ} {bytes bytes' : Bytes}
    (hk : r.threads[k]? = some ⟨.messageReceived socket bytes', .onInboundUdp bytes⟩)
    (hexpects : r.expects answers (.onInboundUdp bytes) = true)
    (hadmits : r.admits answers (.onInboundUdp bytes) = true) : (r.step C (.performs k answers)).Inv := by
  have hinv := h.threads k _ hk
  set slot := (r.client.toTurnClient.onInboundUdp bytes).1 with hslot
  have hcases := slot_onInboundUdp r.client.toTurnClient bytes
  -- the slot goes on holding for the last request what it held, or holds its response now
  have hid : slot.pendingTxnId = r.client.pendingTxnId := by
    rcases hcases with hsame | ⟨msg, -, -, -, -, hdone⟩
    · rw [hslot, hsame]
    · rw [hslot, hdone]
      rfl
  have hcomplete : r.client.pendingComplete = true → slot.pendingComplete = true := by
    rcases hcases with hsame | ⟨msg, -, -, -, -, hdone⟩
    · rw [hslot, hsame]
      exact fun hbefore => hbefore
    · rw [hslot, hdone]
      exact fun _ => rfl
  have hholds (txnId : Bytes) (hused : txnId ∈ r.used) (heq : txnId = r.client.pendingTxnId)
      (hbefore : r.HoldsFor txnId) : slot.havePending = true ∧ (slot.pendingComplete = true →
        slot.pendingResponse.transactionId = txnId ∧ turnClassOf slot.pendingResponse.type = kClassSuccess) := by
    rcases hcases with hsame | ⟨msg, hmsg, hpending, hbit, htxn, hdone⟩
    · rw [hslot, hsame]
      exact hbefore
    · have hclass : rfcClassOf msg.type = .success := by
        simp only [expects, hmsg, Option.all_some, Bool.or_eq_true, decide_eq_true_eq] at hexpects
        refine hexpects.resolve_left fun hnot => hnot ?_
        rwa [htxn, ← heq]
      rw [hslot, hdone]
      exact ⟨hpending, fun _ => ⟨by rw [heq]; exact htxn, turnClassOf_of_success hclass hbit⟩⟩
  have harrived (j : ℕ) (s : Thread) (hs : r.threads[j]? = some s)
      (hj : j ∈ r.arrivals (.onInboundUdp bytes)) :
      ∃ txnId, s.point.awaited? = some txnId ∧ slot.pendingTxnId = txnId ∧ slot.pendingComplete = true := by
    obtain ⟨msg, s', hmsg, hs', hawaited⟩ := mem_arrivals hj
    rw [hs] at hs'
    cases hs'
    simp only [admits, hmsg, Option.all_some] at hadmits
    have hlast := List.all_eq_true.1 hadmits s (List.mem_of_getElem? hs)
    simp only [hawaited, ne_eq, not_true_eq_false, decide_false, Bool.false_or, Bool.and_eq_true,
      decide_eq_true_eq] at hlast
    have hpending := ((h.threads j s hs).holds _ (pending_of_awaited hawaited) hlast.1.symm).1
    have hdone := TurnClient.onInboundUdp_eq_complete hpending hmsg hlast.2 hlast.1.symm
    exact ⟨_, hawaited, by rw [hid, hlast.1], by rw [hslot, hdone]; rfl⟩
  have hused : r.used ++ drawn answers (.onInboundUdp bytes) = r.used := List.append_nil _
  have htaken : r.taken ++ r.takes (.onInboundUdp bytes) = r.taken := List.append_nil _
  rw [step_performs hk, hused, htaken]
  refine inv_change h hk rfl h.active h.allocated ?_ ?_ (fun txnId htxn => ?_) ?_ h.taken
  · refine ⟨.returned _ _, ?_, ?_, fun hk' => ?_⟩
    · exact fun txnId htxn => nomatch htxn
    · exact fun txnId htxn => nomatch htxn
    · rcases List.mem_append.1 hk' with hbefore | hnow
      · exact (hinv.attended hbefore).elim
      · obtain ⟨txnId, hawaited, -⟩ := harrived k _ hk hnow
        cases hawaited
  · intro j s _ hs
    have hother := h.threads j s hs
    constructor
    case fits => exact hother.fits
    case used => exact hother.used
    case holds =>
      intro txnId htxn heq
      have hlast : txnId = r.client.pendingTxnId := heq.trans hid
      exact hholds txnId (hother.used txnId htxn) hlast (hother.holds txnId htxn hlast)
    case attended =>
      intro hj
      rcases List.mem_append.1 hj with hbefore | hnow
      · have hattended := hother.attended hbefore
        refine hattended.mono (fun _ hpeer => hpeer) fun txnId htxn => ?_
        obtain ⟨hown, hthere⟩ := slot_of_attended hattended htxn
        exact ⟨hid.trans hown, hcomplete hthere⟩
      · obtain ⟨txnId, hawaited, hown, hthere⟩ := harrived j s hs hnow
        exact attended_of_slot hawaited hown hthere
  · cases htxn
  · intro j hj
    rcases List.mem_append.1 hj with hbefore | hnow
    · exact h.answered j hbefore
    · obtain ⟨msg, s, -, hs, -⟩ := mem_arrivals hnow
      exact (List.getElem?_eq_some_iff.1 hs).1

theorem perform_store (C : Crypto) (answers : Answers) (c : AllocationClient) (peer : TurnAddress) (socket : Option ℕ)
    (bytes txnId : Bytes) :
    (∃ error, c.perform C answers (.addPeerPermission peer) (.store socket bytes (some (.createPermission [peer], txnId)))
        = (c, .returned (.error error))) ∨
      c.perform C answers (.addPeerPermission peer) (.store socket bytes (some (.createPermission [peer], txnId)))
        = (c, .waitForResponse (.createPermission [peer]) txnId) := by
  simp only [perform]
  split_ifs
  · exact .inl ⟨_, rfl⟩
  · exact .inl ⟨_, rfl⟩
  · cases answers.storeFault with
    | some hr => exact .inl ⟨_, rfl⟩
    | none => exact .inr rfl

theorem perform_storeSend (C : Crypto) (answers : Answers) (c : AllocationClient) (peer : TurnAddress)
    (bytes envelope : Bytes) (socket : Option ℕ) :
    ∃ result, c.perform C answers (.send peer bytes) (.store socket envelope none) = (c, .returned result) := by
  simp only [perform]
  split_ifs
  · exact ⟨_, rfl⟩
  · exact ⟨_, rfl⟩
  · cases answers.storeFault with
    | some hr => exact ⟨_, rfl⟩
    | none => exact ⟨_, rfl⟩

/-- **An access keeps the invariant**, by the point at which the thread stands. -/
theorem inv_performs (h : r.Inv) (hk : r.threads[k]? = some t) (hexpects : r.expects answers t.point = true)
    (hadmits : r.admits answers t.point = true) : (r.step C (.performs k answers)).Inv := by
  have hinv := h.threads k t hk
  obtain ⟨call, point⟩ := t
  have hfits : Fits call point := hinv.fits
  cases hfits with
  | addPeerPermission peer =>
    have hperform : r.client.perform C answers (.addPeerPermission peer) (.addPeerPermission peer)
        = (r.client, .deduplicate peer) := by
      simp only [perform, h.allocated, if_true]
    exact inv_local h hk hperform rfl rfl rfl (.deduplicate peer) (.inl rfl) fun hk' => (hinv.attended hk').elim
  | deduplicate peer =>
    by_cases hmem : peer ∈ r.client.permittedPeers
    · have hperform : r.client.perform C answers (.addPeerPermission peer) (.deduplicate peer)
          = (r.client, .returned (.ok ())) := by
        simp only [perform, if_pos hmem]
      exact inv_local h hk hperform rfl rfl rfl (.returned _ _) (.inl rfl) fun hk' => (hinv.attended hk').elim
    · have hperform : r.client.perform C answers (.addPeerPermission peer) (.deduplicate peer)
          = (r.client, .createPermission [peer]) := by
        simp only [perform, if_neg hmem]
      exact inv_local h hk hperform rfl rfl rfl (.createPermission peer) (.inl rfl) fun hk' =>
        (hinv.attended hk').elim
  | createPermission peer =>
    have hperform : r.client.perform C answers (.addPeerPermission peer) (.createPermission [peer])
        = (r.client, .beginRequest (.createPermission [peer])) := by
      simp only [perform, h.allocated, Bool.not_true, Bool.false_eq_true, if_false, List.cons_ne_nil]
    exact inv_local h hk hperform rfl rfl rfl (.beginRequest peer) (.inl rfl) fun hk' => (hinv.attended hk').elim
  | beginRequest peer => exact inv_beginRequest h hk hexpects hadmits
  | takeSocket peer bytes txnId =>
    exact inv_local h hk rfl rfl rfl rfl (.store peer _ bytes txnId) (.inr rfl) fun hk' => (hinv.attended hk').elim
  | store peer socket bytes txnId =>
    rcases perform_store C answers r.client peer socket bytes txnId with
      ⟨error, hperform⟩ | hperform
    · exact inv_local h hk hperform rfl rfl rfl (.returned _ _) (.inl rfl) fun hk' => (hinv.attended hk').elim
    · exact inv_local h hk hperform rfl rfl rfl (.waitForResponse peer txnId) (.inr rfl) fun hk' =>
        (hinv.attended hk').elim
  | waitForResponse peer txnId =>
    by_cases hslot : r.client.pendingComplete = true ∧ r.client.havePending = true ∧ r.client.pendingTxnId = txnId
    · exact inv_take h hk hslot
    · have hnone : r.client.toTurnClient.waitForResponse txnId = none := if_neg hslot
      have hperform : r.client.perform C answers (.addPeerPermission peer)
          (.waitForResponse (.createPermission [peer]) txnId)
            = (r.client, .waiting (.createPermission [peer]) txnId) := by
        simp only [perform, h.active, Bool.not_true, Bool.false_eq_true, if_false, hnone]
      have htakes : r.takes (.waitForResponse (.createPermission [peer]) txnId) = [] := by
        simp only [takes, h.active, if_true, hnone, Option.map_none, Option.toList_none]
      refine inv_local h hk hperform rfl rfl htakes (.waiting peer txnId) (.inr rfl) fun hk' => ?_
      exact hinv.attended hk'
  | waiting peer txnId =>
    cases htimed : answers.timedOut with
    | true =>
      have hperform : r.client.perform C answers (.addPeerPermission peer) (.waiting (.createPermission [peer]) txnId)
          = (r.client, .returned (.error (handshakeTimeout "CreatePermission timed out"))) := by
        simp only [perform, htimed, if_true]
        rfl
      refine inv_local h hk hperform rfl rfl rfl (.returned _ _) (.inl rfl) fun hk' => ?_
      -- the response would be in the slot
      obtain ⟨hid, hcomplete⟩ := slot_of_attended (hinv.attended hk') rfl
      simp [admits, htimed, hid, hcomplete] at hadmits
    | false =>
      have hperform : r.client.perform C answers (.addPeerPermission peer) (.waiting (.createPermission [peer]) txnId)
          = (r.client, .waitForResponse (.createPermission [peer]) txnId) := by
        simp only [perform, htimed, Bool.false_eq_true, if_false]
      exact inv_local h hk hperform rfl rfl rfl (.waitForResponse peer txnId) (.inr rfl) fun hk' => hinv.attended hk'
  | permit peer => exact inv_permit h hk
  | send peer bytes =>
    by_cases hempty : peer.address = []
    · have hperform : r.client.perform C answers (.send peer bytes) (.send peer bytes)
          = (r.client, .returned (.error (invalid "Send peer address empty"))) := by
        simp only [perform, h.allocated, Bool.not_true, Bool.false_eq_true, if_false, if_pos hempty]
      exact inv_local h hk hperform rfl rfl rfl (.returned _ _) (.inl rfl) fun hk' => (hinv.attended hk').elim
    · have hperform : r.client.perform C answers (.send peer bytes) (.send peer bytes)
          = (r.client, .takeSocket (encodeSendIndication answers.txnId peer bytes) none) := by
        simp only [perform, h.allocated, Bool.not_true, Bool.false_eq_true, if_false, if_neg hempty]
      exact inv_local h hk hperform rfl rfl rfl (.takeSendSocket peer bytes _) (.inl rfl) fun hk' =>
        (hinv.attended hk').elim
  | takeSendSocket peer bytes envelope =>
    exact inv_local h hk rfl rfl rfl rfl (.storeSend peer bytes envelope _) (.inl rfl) fun hk' =>
      (hinv.attended hk').elim
  | storeSend peer bytes envelope socket =>
    obtain ⟨result, hperform⟩ := perform_storeSend C answers r.client peer bytes envelope socket
    exact inv_local h hk hperform rfl rfl rfl (.returned _ _) (.inl rfl) fun hk' => (hinv.attended hk').elim
  | messageReceived socket bytes =>
    by_cases hopen : r.client.isActive (some socket) = true ∧ bytes ≠ []
    · have hperform : r.client.perform C answers (.messageReceived socket bytes) (.messageReceived socket bytes)
          = (r.client, .onInboundUdp bytes) := by
        simp only [perform, if_pos hopen]
      exact inv_local h hk hperform rfl rfl rfl (.onInboundUdp socket bytes) (.inl rfl) fun hk' =>
        (hinv.attended hk').elim
    · have hperform : r.client.perform C answers (.messageReceived socket bytes) (.messageReceived socket bytes)
          = (r.client, .returned (.ok ())) := by
        simp only [perform, if_neg hopen]
      exact inv_local h hk hperform rfl rfl rfl (.returned _ _) (.inl rfl) fun hk' => (hinv.attended hk').elim
  | onInboundUdp socket bytes => exact inv_onInboundUdp h hk hexpects hadmits
  | returned call result =>
    exact inv_local h hk rfl rfl rfl rfl (.returned _ _) (.inl rfl) fun hk' => hinv.attended hk'

theorem inv_step (C : Crypto) (r : PermissionRun) (ev : TurnEvent) (h : r.Inv) (hev : r.Expects ev ∧ r.Admits ev) :
    (r.step C ev).Inv := by
  cases ev with
  | calls call => exact inv_calls h hev.1
  | performs k answers =>
    cases hk : r.threads[k]? with
    | some t => exact inv_performs h hk (hev.1 t hk) (hev.2 t hk)
    | none =>
      have hsame : r.step C (.performs k answers) = r := by
        simp only [step, hk]
      rw [hsame]
      exact h

/-! ### A call whose response has arrived -/

section Finishes

variable {s : TurnSystem} (peer : TurnAddress) (txnId : Bytes)

theorem Finishes.of_step (h : Finishes C (s.step C (.performs k {})) k) : Finishes C s k := by
  obtain ⟨n, hn⟩ := h
  exact ⟨n + 1, hn⟩

theorem threads_step (hk : s.threads[k]? = some t) :
    (s.step C (.performs k answers)).threads[k]?
      = some { t with point := (s.client.perform C answers t.call t.point).2 } := by
  rw [TurnSystem.step_performs C answers hk]
  exact List.getElem?_set_self (List.getElem?_eq_some_iff.1 hk).1

theorem finishes_permit (hk : s.threads[k]? = some ⟨.addPeerPermission peer, .permit [peer]⟩) : Finishes C s k := by
  have hreturned : (s.step C (.performs k {})).threads[k]?
      = some ⟨.addPeerPermission peer, .returned (.ok ())⟩ := threads_step hk
  refine .of_step ⟨0, _, hreturned, rfl, fun other hother => ?_⟩
  rw [List.replicate_zero, run_nil, TurnSystem.step_performs C _ hk]
  exact List.mem_append_right _ hother

theorem finishes_waitForResponse (hactive : s.client.active = true)
    (hslot : s.client.pendingComplete = true ∧ s.client.havePending = true ∧ s.client.pendingTxnId = txnId)
    (hclass : turnClassOf s.client.pendingResponse.type = kClassSuccess)
    (hk : s.threads[k]? = some ⟨.addPeerPermission peer, .waitForResponse (.createPermission [peer]) txnId⟩) :
    Finishes C s k := by
  refine .of_step (finishes_permit peer ?_)
  rw [threads_step hk, perform_take C _ hactive hslot hclass]

theorem finishes_waiting (hactive : s.client.active = true)
    (hslot : s.client.pendingComplete = true ∧ s.client.havePending = true ∧ s.client.pendingTxnId = txnId)
    (hclass : turnClassOf s.client.pendingResponse.type = kClassSuccess)
    (hk : s.threads[k]? = some ⟨.addPeerPermission peer, .waiting (.createPermission [peer]) txnId⟩) :
    Finishes C s k := by
  have hclient : (s.step C (.performs k {})).client = s.client := by
    rw [TurnSystem.step_performs C _ hk]
    rfl
  refine .of_step (finishes_waitForResponse peer txnId ?_ ?_ ?_ (threads_step hk))
  · rwa [hclient]
  · rwa [hclient]
  · rwa [hclient]

end Finishes

theorem Inv.finishes (h : r.Inv) (hanswered : k ∈ r.answered) : Finishes C r.toTurnSystem k := by
  obtain ⟨⟨call, point⟩, hk⟩ : ∃ t, r.threads[k]? = some t :=
    ⟨_, List.getElem?_eq_getElem (h.answered k hanswered)⟩
  have hinv := h.threads k _ hk
  have hattended := hinv.attended hanswered
  have hfits : Fits call point := hinv.fits
  cases hfits with
  | waitForResponse peer txnId =>
    obtain ⟨hid, hcomplete⟩ := slot_of_attended hattended rfl
    obtain ⟨hpending, hresponse⟩ := hinv.holds txnId rfl hid.symm
    exact finishes_waitForResponse peer txnId h.active ⟨hcomplete, hpending, hid⟩ (hresponse hcomplete).2 hk
  | waiting peer txnId =>
    obtain ⟨hid, hcomplete⟩ := slot_of_attended hattended rfl
    obtain ⟨hpending, hresponse⟩ := hinv.holds txnId rfl hid.symm
    exact finishes_waiting peer txnId h.active ⟨hcomplete, hpending, hid⟩ (hresponse hcomplete).2 hk
  | permit peer => exact finishes_permit peer hk
  | returned call result =>
    obtain ⟨rfl, hpermitted⟩ : result = .ok () ∧ _ := hattended
    exact ⟨0, _, hk, rfl, hpermitted⟩
  | _ => exact hattended.elim

theorem Inv.delivered (h : r.Inv) : r.Delivered C := by
  constructor
  case returned =>
    intro k hk t ht result hpoint
    have hattended := (h.threads k t ht).attended hk
    unfold Attended at hattended
    rw [hpoint] at hattended
    exact hattended
  case finishes => exact fun k hk => h.finishes hk
  case taken => exact h.taken

theorem inv_start {client : AllocationClient} (hactive : client.active = true) (hallocated : client.allocated = true) :
    PermissionRun.Inv { client := client } := by
  constructor
  case active => exact hactive
  case allocated => exact hallocated
  case threads => exact fun k t ht => nomatch ht
  case distinct => exact fun j k s t txnId hs => nomatch hs
  case answered => exact fun k hk => absurd hk List.not_mem_nil
  case taken => exact fun p hp => absurd hp List.not_mem_nil

/-- **No response is lost**, in every run of `AddPeerPermission`, `Send` and datagrams on an allocated client in which a
request begins while no response waits in the slot for its thread, a response that a thread waits for arrives while the
slot holds its transaction id and has bit 9 of its type set, and no thread is told of a timeout while its response is
in the slot. -/
theorem delivered_run (C : Crypto) {client : AllocationClient} (hactive : client.active = true)
    (hallocated : client.allocated = true) {events : List TurnEvent}
    (hexpects : Guarded (step C) Expects { client := client } events)
    (hadmits : Guarded (step C) Admits { client := client } events) :
    (run (step C) { client := client } events).Delivered C :=
  (invariant_run (fun r ev hinv hev => inv_step C r ev hinv hev) (inv_start hactive hallocated)
    (hexpects.and hadmits)).delivered

/-! ### Three runs -/

def sampleAllocated : AllocationClient :=
  { active := true, allocated := true, socketState := some 0, sockets := [true] }

/-- Another peer than 192.168.1.20:3478. -/
def sampleOtherPeer : TurnAddress := { family := kFamilyIPv4, port := 3479, address := [192, 168, 1, 21] }

/-- A success response with nothing in it. -/
def sampleResponse (type : UInt16) (txnId : Bytes) : Bytes := storeBE16 type ++ [0, 0] ++ storeBE32 kMagicCookie ++ txnId

/-- The `k`-th thread calls `AddPeerPermission`, up to its wait. -/
def sampleRequest (k : ℕ) (peer : TurnAddress) (txnId : Bytes) : List TurnEvent :=
  .calls (.addPeerPermission peer) :: List.replicate 7 (.performs k { txnId := txnId })

/-- The `k`-th thread brings a datagram. -/
def sampleArrival (k : ℕ) (bytes : Bytes) : List TurnEvent :=
  [.calls (.messageReceived 0 bytes), .performs k {}, .performs k {}]

/-- Two calls, one after the other, with responses in a type whose bit 9 is set. -/
def sampleInTurn : List TurnEvent :=
  sampleRequest 0 sampleIPv4 (List.replicate 12 1) ++ sampleArrival 1 (sampleResponse 0x0308 (List.replicate 12 1))
    ++ List.replicate 3 (.performs 0 {})
    ++ sampleRequest 2 sampleOtherPeer (List.replicate 12 2)
    ++ sampleArrival 3 (sampleResponse 0x0308 (List.replicate 12 2)) ++ List.replicate 3 (.performs 2 {})

theorem delivered_in_turn :
    (run (step sampleCrypto) { client := sampleAllocated } sampleInTurn).answered = [0, 2] ∧
      (run (step sampleCrypto) { client := sampleAllocated } sampleInTurn).Delivered sampleCrypto :=
  ⟨by decide +kernel, delivered_run sampleCrypto (show sampleAllocated.active = true from rfl)
    (show sampleAllocated.allocated = true from rfl) (by decide +kernel) (by decide +kernel)⟩

/-- The same two calls side by side: the second one begins before the response to the first one comes. -/
def sampleOverlap : List TurnEvent :=
  sampleRequest 0 sampleIPv4 (List.replicate 12 1) ++ sampleRequest 1 sampleOtherPeer (List.replicate 12 2)
    ++ sampleArrival 2 (sampleResponse 0x0308 (List.replicate 12 1)) ++ [.performs 0 { timedOut := true }]

/-- One call, with the CreatePermission success response that a server sends. -/
def sampleCreatePermission : List TurnEvent :=
  sampleRequest 0 sampleIPv4 (List.replicate 12 1) ++ sampleArrival 1 (sampleResponse 0x0108 (List.replicate 12 1))
    ++ [.performs 0 { timedOut := true }]

theorem not_delivered_of_timeout (error : VoipError) (hanswered : 0 ∈ r.answered)
    (hpoint : r.threads[0]?.map Thread.point = some (.returned (.error error))) : ¬ r.Delivered C := by
  intro h
  obtain ⟨t, ht, hpoint⟩ := Option.map_eq_some_iff.1 hpoint
  have hok := (h.returned 0 hanswered t ht _ hpoint).1
  cases hok

/-- **A response that arrives behind the next request is lost**, and so is every CreatePermission response: its type has
bit 9 clear.  Both calls time out. -/
theorem overlapped_response_lost :
    (Guarded (step sampleCrypto) Expects { client := sampleAllocated } sampleOverlap ∧
        ¬ (run (step sampleCrypto) { client := sampleAllocated } sampleOverlap).Delivered sampleCrypto) ∧
      Guarded (step sampleCrypto) Expects { client := sampleAllocated } sampleCreatePermission ∧
        ¬ (run (step sampleCrypto) { client := sampleAllocated } sampleCreatePermission).Delivered sampleCrypto := by
  refine ⟨⟨by decide +kernel, ?_⟩, by decide +kernel, ?_⟩
  · exact not_delivered_of_timeout (handshakeTimeout "CreatePermission timed out") (by decide +kernel) (by decide +kernel)
  · exact not_delivered_of_timeout (handshakeTimeout "CreatePermission timed out") (by decide +kernel) (by decide +kernel)

end PermissionRun

end VianiumVoip.Turn
