import VianiumVoip.Ice.Integrity
import VianiumVoip.Ice.Encoding
import VianiumVoip.Lib.Run

/-!
# Two agents and the pair they select

Two `IceAgent`s in opposite roles, with crossed credentials, exchange the datagrams they emit.  The network loses,
duplicates and reorders them: a datagram that has been sent arrives any number of times, at any later moment.

The header of the agent has the controlling side put USE-CANDIDATE on its selected pair.  `GetBindingRequestsToSend`
puts it on every pair that has succeeded, and a request of the peer is enough for that.  `agrees_of_nominatesSelected`
says when the two sides still agree on the path.
-/

namespace VianiumVoip.Ice

open VianiumVoip.Lib VianiumVoip.Lib.Run StunMessageCodec

/-- A datagram, with the address it is sent to. -/
abbrev Datagram := IceCheckTarget × Bytes

/-- The payload that UDP over IPv4 carries. -/
def kMaxUdpPayload : ℕ := 65507

/-- What one side announces to the other. -/
structure Credentials where
  ufrag : Bytes
  pwd : Bytes

/-- The two agents, and the datagrams that each has sent to the other. -/
structure Endpoints where
  controlling : IceAgent
  controlled : IceAgent
  toControlled : List Datagram := []
  toControlling : List Datagram := []

inductive Event
  | candidateForControlling (c : ParsedIceCandidate)
  | candidateForControlled (c : ParsedIceCandidate)
  /-- `GetBindingRequestsToSend`, with the transaction ids that are drawn. -/
  | controllingChecks (transactionId : ℕ → Vector UInt8 12)
  | controlledChecks (transactionId : ℕ → Vector UInt8 12)
  /-- The `k`-th datagram sent to the controlled side arrives there from `src`. -/
  | arrivesAtControlled (k : ℕ) (src : IceCheckTarget)
  | arrivesAtControlling (k : ℕ) (src : IceCheckTarget)

namespace Endpoints

/-- Both sides at the start, before they know a candidate. -/
def start (a b : Credentials) (tieBreakA tieBreakB : UInt64) : Endpoints where
  controlling :=
    { role := .controlling, localUfrag := a.ufrag, localPwd := a.pwd, remoteUfrag := b.ufrag, remotePwd := b.pwd
      tieBreak := tieBreakA }
  controlled :=
    { role := .controlled, localUfrag := b.ufrag, localPwd := b.pwd, remoteUfrag := a.ufrag, remotePwd := a.pwd
      tieBreak := tieBreakB }

/-- What of the datagrams the network takes. -/
def carried (datagrams : List Datagram) : List Datagram := datagrams.filter fun d => d.2.length ≤ kMaxUdpPayload

/-- The response, to where the request came from. -/
def answer (src : IceCheckTarget) (response : Bytes) : List Datagram := if response = [] then [] else [(src, response)]

variable (hmacSha1 : Bytes → Bytes → Vector UInt8 20) (path : IceCheckTarget → IceCheckTarget → Bool)

/-- HMAC-SHA1, as the agents call it. -/
def mac (key msg : Bytes) : Bytes := (hmacSha1 key msg).toList

/-- One event.  `path t u` says that `t`, at the controlling side, and `u`, at the controlled side, are the two ends of
one path: what is sent to one of them arrives from the other. -/
def step (e : Endpoints) : Event → Endpoints
  | .candidateForControlling c => { e with controlling := e.controlling.addRemoteCandidate c }
  | .candidateForControlled c => { e with controlled := e.controlled.addRemoteCandidate c }
  | .controllingChecks ids =>
    let (controlling, requests) := e.controlling.getBindingRequestsToSend (mac hmacSha1) fun i => (ids i).toList
    { e with controlling := controlling, toControlled := e.toControlled ++ carried requests }
  | .controlledChecks ids =>
    let (controlled, requests) := e.controlled.getBindingRequestsToSend (mac hmacSha1) fun i => (ids i).toList
    { e with controlled := controlled, toControlling := e.toControlling ++ carried requests }
  | .arrivesAtControlled k src =>
    match e.toControlled[k]? with
    | none => e
    | some (target, bytes) =>
      if path target src then
        let (controlled, _, response) := e.controlled.processIncoming (mac hmacSha1) src.ip src.port bytes
        { e with controlled := controlled, toControlling := e.toControlling ++ carried (answer src response) }
      else e
  | .arrivesAtControlling k src =>
    match e.toControlling[k]? with
    | none => e
    | some (target, bytes) =>
      if path src target then
        let (controlling, _, response) := e.controlling.processIncoming (mac hmacSha1) src.ip src.port bytes
        { e with controlling := controlling, toControlled := e.toControlled ++ carried (answer src response) }
      else e

end Endpoints

/-- A binding request with USE-CANDIDATE. -/
def Nominates (bytes : Bytes) : Prop :=
  ∃ msg, decode bytes = some msg ∧ msg.messageType = kStunBindingRequest ∧ msg.useCandidate = true

/-- **Nomination agreement.**  The selected pairs are the two ends of one path, and every request with USE-CANDIDATE is
sent to the selected pair. -/
structure Agrees (path : IceCheckTarget → IceCheckTarget → Bool) (e : Endpoints) : Prop where
  samePath : e.controlling.connected = true → e.controlled.connected = true →
    path e.controlling.selected e.controlled.selected = true
  nominated : ∀ d ∈ e.toControlled, Nominates d.2 → e.controlling.connected = true ∧ d.1 = e.controlling.selected

/-- When the controlling side checks its pairs, a pair that has succeeded since the last check is the selected one. -/
def NominatesSelected (e : Endpoints) : Event → Prop
  | .controllingChecks _ => ∀ p ∈ e.controlling.pairs, p.succeeded = true → p.useCandidateSent = false →
      e.controlling.connected = true ∧ p.target = e.controlling.selected
  | _ => True

/-! ### What an agent sends -/

namespace IceAgent

variable {hmacSha1 : Bytes → Bytes → Bytes} {s : IceAgent} {srcIp : String} {srcPort : ℤ} {bytes : Bytes}

theorem mem_getBindingRequestsToSend {ids : ℕ → Bytes} {d : Datagram} :
    d ∈ (s.getBindingRequestsToSend hmacSha1 ids).2 ↔
      ∃ i p, s.pairs[i]? = some p ∧ d = (p.target, s.buildBindingRequest hmacSha1 (s.nominates p) (ids i)) := by
  simp only [getBindingRequestsToSend, List.mem_mapIdx, List.getElem?_eq_some_iff]
  constructor
  · rintro ⟨i, hi, rfl⟩
    exact ⟨i, s.pairs[i], ⟨hi, rfl⟩, rfl⟩
  · rintro ⟨i, p, ⟨hi, rfl⟩, rfl⟩
    exact ⟨i, hi, rfl⟩

/-- A request that fits a datagram nominates where it was built to. -/
theorem nominates_buildBindingRequest {useCandidate : Bool} {id : Bytes} (hid : id.length = 12)
    (hfit : (s.buildBindingRequest hmacSha1 useCandidate id).length < 2 ^ 16) :
    Nominates (s.buildBindingRequest hmacSha1 useCandidate id) ↔ useCandidate = true := by
  obtain ⟨read, hread, htype, hcandidate⟩ := of_decode_encode hid hfit
  unfold Nominates buildBindingRequest
  rw [hread]
  constructor
  · rintro ⟨msg, hmsg, -, hasked⟩
    cases hmsg
    exact hcandidate.symm.trans hasked
  · intro hasked
    exact ⟨read, rfl, htype, hcandidate.trans hasked⟩

theorem not_nominates_buildBindingResponse {req : StunMessage} (hid : req.transactionId.length = 12) :
    ¬ Nominates (s.buildBindingResponse hmacSha1 req srcIp srcPort) := by
  rintro ⟨msg, hmsg, htype, -⟩
  have hresponse : loadBE16 (s.buildBindingResponse hmacSha1 req srcIp srcPort) = kStunBindingResponse := by
    unfold buildBindingResponse
    cases scanDottedQuad srcIp <;>
      · rw [encode_eq (by exact hid)]
        simp only [frame, List.append_assoc, loadBE16_store]
  rw [(of_decode hmsg).2, hresponse] at htype
  exact absurd htype (by decide)

/-! ### What a datagram does to an agent -/

theorem markSucceeded_target (s : IceAgent) (i : ℕ) :
    ((s.markSucceeded i).pairs.getD i {}).target = (s.pairs.getD i {}).target := by
  simp only [markSucceeded, List.getD_eq_getElem?_getD, List.getElem?_modify_eq]
  cases s.pairs[i]? <;> rfl

/-- The selection is the one before; or the agent was not connected and has selected the pair of the source: the
controlling side on a response, the controlled side on a request with USE-CANDIDATE. -/
def SelectionStep (s s' : IceAgent) (srcIp : String) (srcPort : ℤ) (bytes : Bytes) : Prop :=
  s'.connected = s.connected ∧ s'.selected = s.selected ∨
    s.connected = false ∧ s'.connected = true ∧ s'.selected = { ip := srcIp, port := srcPort } ∧
      (s.role = .controlling ∨ Nominates bytes)

variable {s' : IceAgent} {result : ProcessResult} {response : Bytes}

theorem Processed.selectionStep (h : s.Processed hmacSha1 srcIp srcPort bytes s' result response) :
    s.SelectionStep s' srcIp srcPort bytes := by
  have hselect : ∀ i, s.findPair srcIp srcPort = some i →
      ((s.markSucceeded i).select i).selected = { ip := srcIp, port := srcPort } := by
    intro i hi
    rw [select, markSucceeded_target, findPair_target hi]
  cases h with
  | ignored | unknownRequest | request | response => exact .inl ⟨rfl, rfl⟩
  | nomination msg i hmsg htype hverify hpair hasked hrole hfresh =>
    exact .inr ⟨hfresh, rfl, hselect i hpair, .inr ⟨msg, hmsg, htype, hasked⟩⟩
  | selection msg i hmsg htype hverify hpair hrole hfresh => exact .inr ⟨hfresh, rfl, hselect i hpair, .inl hrole⟩

/-- The role and the user fragments stay. -/
def SameIdentity (s s' : IceAgent) : Prop :=
  s'.role = s.role ∧ s'.localUfrag = s.localUfrag ∧ s'.remoteUfrag = s.remoteUfrag

theorem Processed.sameIdentity (h : s.Processed hmacSha1 srcIp srcPort bytes s' result response) :
    s.SameIdentity s' := by
  cases h <;> exact ⟨rfl, rfl, rfl⟩

theorem Processed.not_nominates (h : s.Processed hmacSha1 srcIp srcPort bytes s' result response) :
    ¬ Nominates response := by
  have hnil : ¬ Nominates [] := by
    rintro ⟨msg, hmsg, -⟩
    cases hmsg
  cases h with
  | ignored | response | selection => exact hnil
  | unknownRequest msg hmsg | request msg i hmsg | nomination msg i hmsg =>
    exact not_nominates_buildBindingResponse (length_transactionId_of_decode hmsg)

theorem addRemoteCandidate_selection (s : IceAgent) (c : ParsedIceCandidate) :
    s.SameIdentity (s.addRemoteCandidate c) ∧ (s.addRemoteCandidate c).connected = s.connected ∧
      (s.addRemoteCandidate c).selected = s.selected := by
  simp only [addRemoteCandidate]
  split_ifs <;> exact ⟨⟨rfl, rfl, rfl⟩, rfl, rfl⟩

end IceAgent

/-! ### The invariant -/

/-- The two agreements, and that the controlled side is never connected alone. -/
structure Nominating (path : IceCheckTarget → IceCheckTarget → Bool) (e : Endpoints) : Prop where
  roles : e.controlling.role = .controlling ∧ e.controlled.role = .controlled
  nominated : ∀ d ∈ e.toControlled, Nominates d.2 → e.controlling.connected = true ∧ d.1 = e.controlling.selected
  samePath : e.controlled.connected = true →
    e.controlling.connected = true ∧ path e.controlling.selected e.controlled.selected = true

variable {hmacSha1 : Bytes → Bytes → Vector UInt8 20} {path : IceCheckTarget → IceCheckTarget → Bool} {e : Endpoints}

open Endpoints

theorem mem_carried {d : Datagram} {datagrams : List Datagram} (h : d ∈ carried datagrams) :
    d ∈ datagrams ∧ d.2.length < 2 ^ 16 := by
  obtain ⟨hmem, hfit⟩ := List.mem_filter.1 h
  have hle : d.2.length ≤ 65507 := of_decide_eq_true hfit
  exact ⟨hmem, by omega⟩

theorem mem_answer {d : Datagram} {src : IceCheckTarget} {response : Bytes} (h : d ∈ carried (answer src response)) :
    d = (src, response) := by
  obtain ⟨hmem, -⟩ := mem_carried h
  unfold answer at hmem
  split_ifs at hmem with hnil
  · cases hmem
  · exact List.mem_singleton.1 hmem

theorem Nominating.agrees (h : Nominating path e) : Agrees path e where
  samePath := fun _ hcontrolled => (h.samePath hcontrolled).2
  nominated := h.nominated

/-- What does not touch a selection, and sends the controlled side no new nomination, keeps the invariant. -/
theorem Nominating.of_same {e' : Endpoints} (h : Nominating path e)
    (hroles : e'.controlling.role = e.controlling.role ∧ e'.controlled.role = e.controlled.role)
    (hcontrolling : e'.controlling.connected = e.controlling.connected ∧
      e'.controlling.selected = e.controlling.selected)
    (hcontrolled : e'.controlled.connected = e.controlled.connected ∧ e'.controlled.selected = e.controlled.selected)
    (hsent : ∀ d ∈ e'.toControlled, Nominates d.2 →
      d ∈ e.toControlled ∨ e.controlling.connected = true ∧ d.1 = e.controlling.selected) : Nominating path e' where
  roles := by rw [hroles.1, hroles.2]; exact h.roles
  nominated := by
    intro d hd hnominates
    rw [hcontrolling.1, hcontrolling.2]
    rcases hsent d hd hnominates with hold | hnew
    · exact h.nominated d hold hnominates
    · exact hnew
  samePath := by
    rw [hcontrolled.1, hcontrolled.2, hcontrolling.1, hcontrolling.2]
    exact h.samePath

/-- The checks of the controlling side nominate its selected pair where the condition holds. -/
theorem nominated_of_checks {ids : ℕ → Vector UInt8 12} {d : Datagram}
    (hg : NominatesSelected e (.controllingChecks ids))
    (hd : d ∈ carried (e.controlling.getBindingRequestsToSend (mac hmacSha1) fun i => (ids i).toList).2)
    (hnominates : Nominates d.2) : e.controlling.connected = true ∧ d.1 = e.controlling.selected := by
  obtain ⟨hmem, hfit⟩ := mem_carried hd
  obtain ⟨i, p, hp, rfl⟩ := IceAgent.mem_getBindingRequestsToSend.1 hmem
  have hasked := (IceAgent.nominates_buildBindingRequest (Vector.length_toList ..) hfit).1 hnominates
  obtain ⟨-, hsucceeded, hfresh⟩ := of_decide_eq_true hasked
  exact hg p (List.mem_of_getElem? hp) hsucceeded (eq_false_of_ne_true hfresh)

/-- The controlled side selects the source of a nomination, and that was sent to the selected pair. -/
theorem nominating_arrivesAtControlled (h : Nominating path e) (k : ℕ) (src : IceCheckTarget) :
    Nominating path (step hmacSha1 path e (.arrivesAtControlled k src)) := by
  simp only [step]
  cases hsent : e.toControlled[k]? with
  | none => exact h
  | some d =>
    obtain ⟨target, bytes⟩ := d
    simp only
    by_cases hpath : path target src = true
    · rw [if_pos hpath]
      have hprocessed := e.controlled.processIncoming_processed (mac hmacSha1) src.ip src.port bytes
      obtain ⟨hrole, -⟩ := hprocessed.sameIdentity
      rcases hprocessed.selectionStep with hsame | ⟨-, hconnected, hselected, hcause⟩
      · exact h.of_same ⟨rfl, hrole⟩ ⟨rfl, rfl⟩ hsame fun d hd _ => .inl hd
      · -- the controlled side selects the source of a nomination, which was sent to the selected pair
        have hnominates : Nominates bytes := by
          rcases hcause with hcontrolling | hnominates
          · rw [h.roles.2] at hcontrolling
            cases hcontrolling
          · exact hnominates
        obtain ⟨hselection, htarget⟩ := h.nominated _ (List.mem_of_getElem? hsent) hnominates
        refine ⟨⟨h.roles.1, hrole.trans h.roles.2⟩, h.nominated, ?_⟩
        intro _
        refine ⟨hselection, ?_⟩
        simp only [hselected, ← htarget]
        exact hpath
    · rw [if_neg hpath]
      exact h

/-- The controlling side sends no nomination here, and has sent none before it has selected a pair. -/
theorem nominating_arrivesAtControlling (h : Nominating path e) (k : ℕ) (src : IceCheckTarget) :
    Nominating path (step hmacSha1 path e (.arrivesAtControlling k src)) := by
  simp only [step]
  cases hsent : e.toControlling[k]? with
  | none => exact h
  | some d =>
    obtain ⟨target, bytes⟩ := d
    simp only
    by_cases hpath : path src target = true
    · rw [if_pos hpath]
      have hprocessed := e.controlling.processIncoming_processed (mac hmacSha1) src.ip src.port bytes
      obtain ⟨hrole, -⟩ := hprocessed.sameIdentity
      have hanswer : ∀ d ∈ e.toControlled ++ carried (answer src
          (e.controlling.processIncoming (mac hmacSha1) src.ip src.port bytes).2.2), Nominates d.2 →
            d ∈ e.toControlled := by
        intro d hd hnominates
        rcases List.mem_append.1 hd with hold | hnew
        · exact hold
        · rw [mem_answer hnew] at hnominates
          exact absurd hnominates hprocessed.not_nominates
      rcases hprocessed.selectionStep with hsame | ⟨hfresh, hconnected, hselected, -⟩
      · exact h.of_same ⟨hrole, rfl⟩ hsame ⟨rfl, rfl⟩ fun d hd hnominates => .inl (hanswer d hd hnominates)
      · -- nothing has been nominated before the controlling side has selected a pair
        refine ⟨⟨hrole.trans h.roles.1, h.roles.2⟩, ?_, ?_⟩
        · intro d hd hnominates
          have hbefore := (h.nominated d (hanswer d hd hnominates) hnominates).1
          rw [hfresh] at hbefore
          cases hbefore
        · intro hcontrolled
          have hbefore := (h.samePath hcontrolled).1
          rw [hfresh] at hbefore
          cases hbefore
    · rw [if_neg hpath]
      exact h

/-- **A step keeps the invariant**, when a check of the controlling side meets the condition. -/
theorem nominating_step {ev : Event} (h : Nominating path e) (hg : NominatesSelected e ev) :
    Nominating path (step hmacSha1 path e ev) := by
  cases ev with
  | candidateForControlling c =>
    obtain ⟨⟨hrole, -⟩, hselection⟩ := e.controlling.addRemoteCandidate_selection c
    exact h.of_same ⟨hrole, rfl⟩ hselection ⟨rfl, rfl⟩ fun d hd _ => .inl hd
  | candidateForControlled c =>
    obtain ⟨⟨hrole, -⟩, hselection⟩ := e.controlled.addRemoteCandidate_selection c
    exact h.of_same ⟨rfl, hrole⟩ ⟨rfl, rfl⟩ hselection fun d hd _ => .inl hd
  | controllingChecks ids =>
    refine h.of_same ⟨rfl, rfl⟩ ⟨rfl, rfl⟩ ⟨rfl, rfl⟩ ?_
    intro d hd hnominates
    rcases List.mem_append.1 hd with hold | hnew
    · exact .inl hold
    · exact .inr (nominated_of_checks hg hnew hnominates)
  | controlledChecks ids => exact h.of_same ⟨rfl, rfl⟩ ⟨rfl, rfl⟩ ⟨rfl, rfl⟩ fun d hd _ => .inl hd
  | arrivesAtControlled k src => exact nominating_arrivesAtControlled h k src
  | arrivesAtControlling k src => exact nominating_arrivesAtControlling h k src

theorem nominating_start (path : IceCheckTarget → IceCheckTarget → Bool) (a b : Credentials)
    (tieBreakA tieBreakB : UInt64) : Nominating path (start a b tieBreakA tieBreakB) where
  roles := ⟨rfl, rfl⟩
  nominated := by
    intro d hd
    cases hd
  samePath := by
    intro hconnected
    cases hconnected

/-! ### A check that nominates another pair -/

theorem IceAgent.length_buildBindingRequest_le {s : IceAgent} {useCandidate : Bool} {id : Bytes}
    (hid : id.length = 12) : (s.buildBindingRequest (mac hmacSha1) useCandidate id).length
      ≤ s.remoteUfrag.length + s.localUfrag.length + 108 := by
  unfold buildBindingRequest
  have hmac : ∀ key data, (mac hmacSha1 key data).length = 20 := fun key data => Vector.length_toList ..
  refine (length_encode_le hmac hid).trans ?_
  have hcolon : (ascii ":").length = 1 := rfl
  simp only [List.length_append, hcolon]
  omega

/-- The identity of the controlling side, in any run. -/
structure Identified (a b : Credentials) (e : Endpoints) : Prop where
  role : e.controlling.role = .controlling
  localUfrag : e.controlling.localUfrag = a.ufrag
  remoteUfrag : e.controlling.remoteUfrag = b.ufrag

theorem Identified.of_same {a b : Credentials} {e' : Endpoints} (h : Identified a b e)
    (hsame : e.controlling.SameIdentity e'.controlling) : Identified a b e' where
  role := hsame.1.trans h.role
  localUfrag := hsame.2.1.trans h.localUfrag
  remoteUfrag := hsame.2.2.trans h.remoteUfrag

theorem identified_step {a b : Credentials} {ev : Event} (h : Identified a b e) :
    Identified a b (step hmacSha1 path e ev) := by
  cases ev with
  | candidateForControlling c => exact h.of_same (e.controlling.addRemoteCandidate_selection c).1
  | candidateForControlled | controllingChecks | controlledChecks => exact h.of_same ⟨rfl, rfl, rfl⟩
  | arrivesAtControlled k src =>
    simp only [step]
    split
    · exact h
    · split_ifs
      · exact h.of_same ⟨rfl, rfl, rfl⟩
      · exact h
  | arrivesAtControlling k src =>
    simp only [step]
    split
    · exact h
    · split_ifs
      · exact h.of_same (e.controlling.processIncoming_processed (mac hmacSha1) src.ip src.port _).sameIdentity
      · exact h

/-- **A check that nominates a pair other than the selected one breaks the agreement.** -/
theorem nominatesSelected_of_agrees {a b : Credentials} {ev : Event} (h : Identified a b e)
    (ha : a.ufrag.length ≤ 256) (hb : b.ufrag.length ≤ 256) (hagrees : Agrees path (step hmacSha1 path e ev)) :
    NominatesSelected e ev := by
  cases ev with
  | controllingChecks ids =>
    intro p hp hsucceeded hfresh
    obtain ⟨i, hi⟩ := List.mem_iff_getElem?.1 hp
    have hid : (ids i).toList.length = 12 := Vector.length_toList ..
    have hasked : e.controlling.nominates p = true := decide_eq_true ⟨h.role, hsucceeded, by simp [hfresh]⟩
    obtain ⟨request, hrequest⟩ : ∃ request, request
        = e.controlling.buildBindingRequest (mac hmacSha1) (e.controlling.nominates p) (ids i).toList := ⟨_, rfl⟩
    have hfit : request.length ≤ 620 := by
      have hle : request.length ≤ e.controlling.remoteUfrag.length + e.controlling.localUfrag.length + 108 := by
        rw [hrequest]
        exact IceAgent.length_buildBindingRequest_le hid
      rw [h.localUfrag, h.remoteUfrag] at hle
      omega
    have hnominates : Nominates request := by
      rw [hrequest] at hfit ⊢
      exact (IceAgent.nominates_buildBindingRequest hid (by omega)).2 hasked
    have hsent : (p.target, request) ∈ (step hmacSha1 path e (.controllingChecks ids)).toControlled := by
      refine List.mem_append_right _ (List.mem_filter.2 ⟨?_, ?_⟩)
      · exact IceAgent.mem_getBindingRequestsToSend.2 ⟨i, p, hi, by rw [hrequest]⟩
      · have hmax : request.length ≤ 65507 := by omega
        exact decide_eq_true hmax
    exact hagrees.nominated _ hsent hnominates
  | candidateForControlling | candidateForControlled | controlledChecks | arrivesAtControlled | arrivesAtControlling =>
    trivial

/-- **When the two sides agree.**  In a run whose checks by the controlling side find no newly succeeded pair but the
selected one, the sides agree in every state reached; and in no other run do they, for user fragments of at most 256
bytes. -/
theorem agrees_of_nominatesSelected (hmacSha1 : Bytes → Bytes → Vector UInt8 20)
    (path : IceCheckTarget → IceCheckTarget → Bool) (a b : Credentials) (tieBreakA tieBreakB : UInt64)
    (events : List Event) :
    (Guarded (step hmacSha1 path) NominatesSelected (start a b tieBreakA tieBreakB) events →
        ∀ pre, pre <+: events → Agrees path (run (step hmacSha1 path) (start a b tieBreakA tieBreakB) pre)) ∧
      (a.ufrag.length ≤ 256 → b.ufrag.length ≤ 256 →
        (∀ pre, pre <+: events → Agrees path (run (step hmacSha1 path) (start a b tieBreakA tieBreakB) pre)) →
          Guarded (step hmacSha1 path) NominatesSelected (start a b tieBreakA tieBreakB) events) := by
  constructor
  · rintro hg pre ⟨post, rfl⟩
    have hpre := (guarded_append.1 hg).1
    exact (invariant_run (fun _ _ h hcond => nominating_step h hcond) (nominating_start path a b _ _) hpre).agrees
  · intro ha hb hagrees
    rw [guarded_iff]
    intro pre ev post heq
    have hidentity : Identified a b (run (step hmacSha1 path) (start a b tieBreakA tieBreakB) pre) :=
      invariant_run_of_step (fun _ _ h => identified_step h) pre ⟨rfl, rfl, rfl⟩
    have hreached := hagrees (pre ++ [ev]) ⟨post, by rw [heq, List.append_assoc, List.singleton_append]⟩
    rw [run_concat] at hreached
    exact nominatesSelected_of_agrees hidentity ha hb hreached

/-! ### Two paths, and a request of the peer on the second -/

/-- HMAC-SHA1 of the messages below. -/
def sampleMac (key msg : Bytes) : Vector UInt8 20 :=
  let tag : ℕ := ((([
    ((ascii "left password",
      0x0001003c2112a4420101010101010101010101010006000a6c6566743a72696768740000002400046effffff802900080000000000000002),
      0x87fd5d22e085a79ba6df822e8f1b47ce24ece39d),
    ((ascii "left password", 0x010100242112a4420101010101010101010101010020000800012c842b12a440),
      0xc2d724a68c8c198235600333b450382260a80522),
    ((ascii "right password",
      0x0001003c2112a4420202020202020202020202020006000a72696768743a6c6566740000002400046effffff802a00080000000000000001),
      0x5e97ca57355616e2b75a34a53143b65b415fd903),
    ((ascii "right password",
      0x000100402112a4420303030303030303030303030006000a72696768743a6c6566740000002400046effffff802a0008000000000000000100250000),
      0xfc5d18e7e5e1ea895001bd8688ead0491fcf0ff1),
    ((ascii "right password", 0x010100242112a4420303030303030303030303030020000800012c842b12a440),
      0x6e58698c4a525e71b9f9af574a2149e10bff174f),
    ((ascii "right password", 0x010100242112a4420202020202020202020202020020000800012c842b12a443),
      0x6568e9e947f5e88228adc74c06bf65bec81db82d)] : List ((Bytes × ℕ) × ℕ)).lookup (key, ofBE msg)).getD 0)
  ⟨(toBE 20 tag).toArray, by simp⟩

/-- Both sides reach each other over two reflectors, at the same addresses. -/
def sameReflector (t u : IceCheckTarget) : Bool := t = u

def sampleTarget (ip : String) : IceCheckTarget := { ip := ip, port := 3478 }

/-- The request of the controlled side arrives first, on the second path.  The controlling side nominates this path,
and selects the first one when its own check is answered there. -/
def sampleEvents : List Event :=
  [.candidateForControlling { ip := "10.0.0.1", port := 3478 }, .candidateForControlling { ip := "10.0.0.2", port := 3478 },
    .candidateForControlled { ip := "10.0.0.2", port := 3478 },
    .controlledChecks fun _ => Vector.replicate 12 1, .arrivesAtControlling 0 (sampleTarget "10.0.0.2"),
    .controllingChecks fun i => Vector.replicate 12 (UInt8.ofNat (i + 2)),
    .arrivesAtControlled 2 (sampleTarget "10.0.0.2"), .arrivesAtControlled 1 (sampleTarget "10.0.0.1"),
    .arrivesAtControlling 2 (sampleTarget "10.0.0.1")]

/-- Where the run ends. -/
def sampleEnd : Endpoints :=
  run (step sampleMac sameReflector)
    (start ⟨ascii "left", ascii "left password"⟩ ⟨ascii "right", ascii "right password"⟩ 1 2) sampleEvents

/-- **The sides end up with different paths.** -/
theorem sides_select_differently :
    sampleEnd.controlling.selected = sampleTarget "10.0.0.1" ∧ sampleEnd.controlled.selected = sampleTarget "10.0.0.2" ∧
      ¬ Agrees sameReflector sampleEnd := by
  have hends : sampleEnd.controlling.selected = sampleTarget "10.0.0.1" ∧
      sampleEnd.controlled.selected = sampleTarget "10.0.0.2" ∧ sampleEnd.controlling.connected = true ∧
        sampleEnd.controlled.connected = true := by
    decide +kernel
  obtain ⟨hleft, hright, hconnected, hconnected'⟩ := hends
  refine ⟨hleft, hright, ?_⟩
  intro hagrees
  have hpath := hagrees.samePath hconnected hconnected'
  rw [hleft, hright] at hpath
  exact absurd hpath (by decide)

end VianiumVoip.Ice
