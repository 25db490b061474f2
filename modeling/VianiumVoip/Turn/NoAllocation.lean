import VianiumVoip.Turn.Threads

/-!
# No allocation

The methods of STUN and TURN are all below 0x80, so bit 9 is clear in every type a server sends, and `TurnClassOf` takes
none of them for a response.  The challenge to the first Allocate never reaches the thread that waits for it.

`never_allocated`: whatever the threads of a client do, and whatever such datagrams come in, the client is never
allocated; every call of `OpenAllocation`, `AddPeerPermission` and `Send` fails, once its wait is over; and nothing goes
out but Allocate requests without credentials.
-/

namespace VianiumVoip.Turn

open VianiumVoip.Lib VianiumVoip.Lib.Run VianiumVoip.Engine AllocationClient

/-! ### What a server sends -/

/-- The type of a message with a method of STUN or TURN. -/
def RfcType (type : UInt16) : Prop := ∃ method < 0x80, ∃ cls : MessageClass, type = rfcMessageType method cls

/-- Such a message, or something that does not decode. -/
def FromServer (bytes : Bytes) : Prop := ∀ msg, decodeMessage bytes = some msg → RfcType msg.type

/-- Bit 9 of a type is bit 7 of its method. -/
theorem RfcType.bit_clear {type : UInt16} (h : RfcType type) : type &&& 0x0200 = 0 := by
  obtain ⟨method, hmethod, cls, rfl⟩ := h
  have hseven : method.toBitVec[7] = false := high_bit (n := 7) hmethod (by omega) (by omega)
  apply UInt16.toBitVec_inj.1
  ext i hi
  interval_cases i <;> cases cls <;> simp [rfcMessageType, MessageClass.value, kClassRequest, kClassIndication,
    kClassSuccess, kClassError, hseven]

theorem onInboundUdp_fromServer (s : TurnClient) {bytes : Bytes} (h : FromServer bytes) :
    (s.onInboundUdp bytes).1 = s := by
  cases hmsg : decodeMessage bytes with
  | none => rw [TurnClient.onInboundUdp_of_undecoded hmsg]
  | some msg => exact (TurnClient.onInboundUdp_unchanged hmsg (.inl (h msg hmsg).bit_clear)).1

/-! ### Where a thread may stand -/

/-- The calls that do nothing without an allocation. -/
def Call.needsServer : Call → Bool
  | .openAllocation _ _ | .addPeerPermission _ | .send _ _ => true
  | _ => false

/-- A call that needs the server fails. -/
def Fails (call : Call) (result : Result) : Prop := call.needsServer = true → ∃ error, result = .error error

/-- The first Allocate request, without authentication. -/
def firstAllocate (C : Crypto) (txnId : Bytes) : Bytes := encodeAllocate C.hmacSha1 txnId 600 [] [] [] []

/-- **The points of a thread that has taken no response.** -/
def Unanswered (C : Crypto) (call : Call) : Point → Prop
  | .openAllocation _ | .reset _ | .bind | .installSocket _ | .activate | .addPeerPermission _ | .send _ _ => True
  | .beginRequest request | .waitForResponse request _ | .waiting request _ => request = .allocate
  | .takeSocket bytes request | .store _ bytes request =>
    ∃ txnId, bytes = firstAllocate C txnId ∧ request = some (.allocate, txnId)
  | .messageReceived _ bytes | .onInboundUdp bytes => FromServer bytes ∧ call.needsServer = false
  | .close result | .closeSection result | .releaseSocket _ result | .closeReturn result | .returned result =>
    Fails call result
  | _ => False

/-- **A client that no response has reached.** -/
structure Unallocated (c : AllocationClient) : Prop where
  allocated : c.allocated = false
  pendingComplete : c.pendingComplete = false
  permittedPeers : c.permittedPeers = []
  relayed : c.relayed = {}
  challenge : c.realm = [] ∧ c.nonce = [] ∧ c.key = []

/-- The accesses that a thread has still to make if its waits time out. -/
def Point.rank : Point → ℕ
  | .openAllocation _ => 15
  | .reset _ => 14
  | .bind => 13
  | .installSocket _ => 12
  | .activate => 11
  | .beginRequest _ => 10
  | .takeSocket _ _ => 9
  | .store _ _ _ => 8
  | .waitForResponse _ _ => 7
  | .waiting _ _ => 6
  | .close _ => 5
  | .closeSection _ => 4
  | .releaseSocket _ _ => 3
  | .closeReturn _ | .messageReceived _ _ => 2
  | .onInboundUdp _ | .addPeerPermission _ | .send _ _ => 1
  | _ => 0

section Perform

variable {C : Crypto} {c : AllocationClient} {call : Call} {point : Point}

theorem fails_error (call : Call) (error : VoipError) : Fails call (.error error) := fun _ => ⟨error, rfl⟩

theorem unanswered_requestFailed (error : VoipError) :
    Unanswered C call (requestFailed call .allocate error) ∧ (requestFailed call .allocate error).rank = 5 :=
  ⟨fails_error call error, rfl⟩

theorem waitForResponse_of_incomplete {s : TurnClient} (h : s.pendingComplete = false) (txnId : Bytes) :
    s.waitForResponse txnId = none := by
  rw [TurnClient.waitForResponse, if_neg (by simp [h])]

theorem unanswered_checkReflector (C : Crypto) (call : Call) (reflector : Reflector) :
    Unanswered C call (checkReflector reflector) ∧ (checkReflector reflector).rank ≤ 14 := by
  unfold checkReflector
  split_ifs
  case pos => exact ⟨fails_error call _, Nat.zero_le _⟩
  all_goals first
    | exact ⟨fails_error call _, Nat.zero_le _⟩
    | exact ⟨trivial, le_rfl⟩

/-- **One access** takes no response either. -/
theorem unanswered_perform (answers : Answers) (hc : Unallocated c) (h : Unanswered C call point) :
    Unallocated (c.perform C answers call point).1 ∧ Unanswered C call (c.perform C answers call point).2 := by
  cases point with
  | openAllocation reflector =>
    refine ⟨hc, ?_⟩
    simp only [perform]
    split_ifs
    · exact fails_error call _
    · exact (unanswered_checkReflector C call reflector).1
  | reset reflector =>
    exact ⟨⟨hc.allocated, rfl, rfl, rfl, rfl, rfl, rfl⟩, trivial⟩
  | bind =>
    simp only [perform]
    cases answers.bindFault with
    | some fault => exact ⟨hc, fails_error call _⟩
    | none => exact ⟨⟨hc.allocated, hc.pendingComplete, hc.permittedPeers, hc.relayed, hc.challenge⟩, trivial⟩
  | installSocket socket =>
    exact ⟨⟨hc.allocated, hc.pendingComplete, hc.permittedPeers, hc.relayed, hc.challenge⟩, trivial⟩
  | activate => exact ⟨⟨hc.allocated, hc.pendingComplete, hc.permittedPeers, hc.relayed, hc.challenge⟩, rfl⟩
  | addPeerPermission peer =>
    simp only [perform, hc.allocated]
    exact ⟨hc, fails_error call _⟩
  | send peer bytes =>
    simp only [perform, hc.allocated]
    exact ⟨hc, fails_error call _⟩
  | beginRequest request =>
    obtain rfl : request = .allocate := h
    exact ⟨⟨hc.allocated, rfl, hc.permittedPeers, hc.relayed, hc.challenge⟩, answers.txnId, rfl, rfl⟩
  | takeSocket bytes request => exact ⟨hc, h⟩
  | store socket bytes request =>
    obtain ⟨txnId, -, rfl⟩ := h
    simp only [perform]
    refine ⟨hc, ?_⟩
    split_ifs
    · exact (unanswered_requestFailed _).1
    · exact (unanswered_requestFailed _).1
    · cases answers.storeFault with
      | some hr => exact (unanswered_requestFailed _).1
      | none => rfl
  | waitForResponse request txnId =>
    obtain rfl : request = .allocate := h
    simp only [perform]
    split_ifs
    · exact ⟨hc, (unanswered_requestFailed _).1⟩
    · rw [waitForResponse_of_incomplete hc.pendingComplete]
      exact ⟨hc, rfl⟩
  | waiting request txnId =>
    obtain rfl : request = .allocate := h
    simp only [perform]
    refine ⟨hc, ?_⟩
    split_ifs
    · exact (unanswered_requestFailed _).1
    · rfl
  | messageReceived socket bytes =>
    simp only [perform]
    refine ⟨hc, ?_⟩
    split_ifs
    · exact h
    · exact fun hneeds => absurd (h.2.symm.trans hneeds) Bool.false_ne_true
  | onInboundUdp bytes =>
    have hsame : (c.perform C answers call (.onInboundUdp bytes)).1 = c := by
      simp only [perform, onInboundUdp_fromServer c.toTurnClient h.1]
    rw [hsame]
    exact ⟨hc, fun hneeds => absurd (h.2.symm.trans hneeds) Bool.false_ne_true⟩
  | close result =>
    refine ⟨⟨hc.allocated, hc.pendingComplete, hc.permittedPeers, hc.relayed, hc.challenge⟩, ?_⟩
    simp only [perform]
    split_ifs <;> exact h
  | closeSection result =>
    refine ⟨⟨rfl, hc.pendingComplete, hc.permittedPeers, hc.relayed, hc.challenge⟩, ?_⟩
    simp only [perform]
    split <;> exact h
  | releaseSocket socket result =>
    exact ⟨⟨hc.allocated, hc.pendingComplete, hc.permittedPeers, hc.relayed, hc.challenge⟩, h⟩
  | closeReturn result => exact ⟨hc, h⟩
  | returned result => exact ⟨hc, h⟩
  | storeChallenge _ _ | recordAllocation _ | deduplicate _ | createPermission _ | permit _ | encodeAuthed _ =>
    exact h.elim

/-- **An access brings a thread nearer to its end**, if it is told that the time is over. -/
theorem rank_perform {answers : Answers} (htimeout : answers.timedOut = true) (hc : Unallocated c)
    (h : Unanswered C call point) (hnot : ∀ result, point ≠ .returned result) :
    (c.perform C answers call point).2.rank < point.rank := by
  have hfailed (error : VoipError) : (requestFailed call .allocate error).rank = 5 :=
    (unanswered_requestFailed (C := C) error).2
  cases point with
  | openAllocation reflector =>
    have hcheck := (unanswered_checkReflector C call reflector).2
    simp only [perform]
    split_ifs
    · exact Nat.zero_lt_succ _
    · exact Nat.lt_succ_of_le hcheck
  | bind =>
    simp only [perform]
    cases answers.bindFault with
    | some fault => exact Nat.zero_lt_succ _
    | none => exact Nat.lt_succ_self _
  | addPeerPermission peer =>
    simp only [perform, hc.allocated]
    exact Nat.zero_lt_one
  | send peer bytes =>
    simp only [perform, hc.allocated]
    exact Nat.zero_lt_one
  | beginRequest request =>
    obtain rfl : request = .allocate := h
    exact Nat.lt_succ_self _
  | store socket bytes request =>
    obtain ⟨txnId, -, rfl⟩ := h
    simp only [perform]
    have hlt (error : VoipError) : (sendFailed call (some (.allocate, txnId)) error).rank < 8 := by
      rw [sendFailed, hfailed]
      omega
    split_ifs
    · exact hlt _
    · exact hlt _
    · cases answers.storeFault with
      | some hr => exact hlt _
      | none => exact Nat.lt_succ_self _
  | waitForResponse request txnId =>
    obtain rfl : request = .allocate := h
    simp only [perform]
    split_ifs
    · rw [noResponse, hfailed]
      simp [Point.rank]
    · rw [waitForResponse_of_incomplete hc.pendingComplete]
      exact Nat.lt_succ_self _
  | waiting request txnId =>
    obtain rfl : request = .allocate := h
    simp only [perform, htimeout, if_true, noResponse, hfailed]
    simp [Point.rank]
  | messageReceived socket bytes =>
    simp only [perform]
    split_ifs <;> simp [Point.rank]
  | close result =>
    simp only [perform]
    split_ifs <;> simp [Point.rank]
  | closeSection result =>
    simp only [perform]
    split <;> simp [Point.rank]
  | closeReturn result => exact Nat.zero_lt_two
  | returned result => exact absurd rfl (hnot result)
  | storeChallenge _ _ | recordAllocation _ | deduplicate _ | createPermission _ | permit _ | encodeAuthed _ =>
    exact h.elim
  | _ => exact Nat.lt_succ_self _

end Perform

/-! ### Runs -/

/-- What comes in over the sockets is a server's. -/
def TurnEvent.FromServer : TurnEvent → Prop
  | .calls (.messageReceived _ bytes) => Turn.FromServer bytes
  | _ => True

/-- No response has reached the client or a thread. -/
structure NoResponse (C : Crypto) (s : TurnSystem) : Prop where
  client : Unallocated s.client
  threads : ∀ t ∈ s.threads, Unanswered C t.call t.point

/-- The datagram that an access hands over to the socket. -/
def transmitted (s : TurnSystem) : TurnEvent → Option Bytes
  | .calls _ => none
  | .performs k answers =>
    match (s.threads[k]?).map Thread.point with
    | some (.store socket bytes _) =>
      if s.client.isActive socket ∧ bytes ≠ [] ∧ answers.storeFault = none then some bytes else none
    | _ => none

section Runs

variable {C : Crypto} {s : TurnSystem}

theorem unanswered_entry {call : Call} (h : (TurnEvent.calls call).FromServer) : Unanswered C call call.entry := by
  cases call with
  | messageReceived socket bytes => exact ⟨h, rfl⟩
  | close => exact fun hneeds => absurd hneeds Bool.false_ne_true
  | _ => trivial

/-- **A step** keeps it. -/
theorem noResponse_step (h : NoResponse C s) {ev : TurnEvent} (hev : ev.FromServer) : NoResponse C (s.step C ev) := by
  cases ev with
  | calls call =>
    refine ⟨h.client, fun t ht => ?_⟩
    rcases List.mem_append.1 ht with ht | ht
    · exact h.threads t ht
    · obtain rfl := List.mem_singleton.1 ht
      exact unanswered_entry hev
  | performs k answers =>
    cases hk : s.threads[k]? with
    | none => simpa only [TurnSystem.step, hk] using h
    | some t =>
      obtain ⟨hclient, hpoint⟩ := unanswered_perform answers h.client (h.threads t (List.mem_of_getElem? hk))
      rw [TurnSystem.step_performs C answers hk]
      refine ⟨hclient, fun other hother => ?_⟩
      rcases List.mem_or_eq_of_mem_set hother with hother | rfl
      · exact h.threads other hother
      · exact hpoint

theorem transmitted_of_noResponse (h : NoResponse C s) {ev : TurnEvent} {bytes : Bytes}
    (hsent : transmitted s ev = some bytes) : ∃ txnId, bytes = firstAllocate C txnId := by
  cases ev with
  | calls call => cases hsent
  | performs k answers =>
    cases hk : s.threads[k]? with
    | none =>
      simp only [transmitted, hk] at hsent
      cases hsent
    | some t =>
      simp only [transmitted, hk, Option.map_some] at hsent
      have hpoint := h.threads t (List.mem_of_getElem? hk)
      obtain ⟨call, point⟩ := t
      cases point with
      | store socket payload request =>
        obtain ⟨txnId, hpayload, -⟩ := hpoint
        dsimp only at hsent
        split_ifs at hsent
        exact ⟨txnId, (Option.some.inj hsent).symm.trans hpayload⟩
      | _ => cases hsent

/-- The thread ends if nothing but its own waits stands in its way, and then its call has failed. -/
def EndsFailed (C : Crypto) (s : TurnSystem) (k : ℕ) (call : Call) : Prop :=
  ∃ n result,
    (run (TurnSystem.step C) s (List.replicate n (.performs k { timedOut := true }))).threads[k]?
        = some { call := call, point := .returned result } ∧
      Fails call result

theorem endsFailed (h : NoResponse C s) {k : ℕ} {t : Thread} (hk : s.threads[k]? = some t) :
    EndsFailed C s k t.call := by
  let rank (s : TurnSystem) : ℕ := (s.threads[k]?).elim 0 fun t => t.point.rank
  have hstep : ∀ s : TurnSystem, (NoResponse C s ∧ ∃ point, s.threads[k]? = some ⟨t.call, point⟩) →
      (¬ ∃ result, s.threads[k]? = some ⟨t.call, .returned result⟩) →
      (NoResponse C (s.step C (.performs k { timedOut := true })) ∧
          ∃ point, (s.step C (.performs k { timedOut := true })).threads[k]? = some ⟨t.call, point⟩) ∧
        rank (s.step C (.performs k { timedOut := true })) < rank s := by
    rintro s ⟨h, point, hk⟩ hnot
    have hpoint : ∀ result, point ≠ .returned result := fun result heq => hnot ⟨result, heq ▸ hk⟩
    have hlt : k < s.threads.length := (List.getElem?_eq_some_iff.1 hk).1
    have hthread : (s.step C (.performs k { timedOut := true })).threads[k]? =
        some ⟨t.call, (s.client.perform C { timedOut := true } t.call point).2⟩ := by
      rw [TurnSystem.step_performs C _ hk, List.getElem?_set_self hlt]
    refine ⟨⟨noResponse_step h trivial, _, hthread⟩, ?_⟩
    simp only [rank, hthread, hk, Option.elim_some]
    exact rank_perform rfl h.client (h.threads _ (List.mem_of_getElem? hk)) hpoint
  obtain ⟨n, ⟨hend, -⟩, result, hresult⟩ := exists_run_replicate hstep ⟨h, t.point, hk⟩
  exact ⟨n, result, hresult, hend.threads _ (List.mem_of_getElem? hresult)⟩

/-- **What becomes of a client whose server answers.** -/
structure NeverAllocated (C : Crypto) (s : TurnSystem) (sent : List Bytes) : Prop where
  allocated : s.client.allocated = false
  relayed : s.client.relayed = {}
  permittedPeers : s.client.permittedPeers = []
  sent : ∀ bytes ∈ sent, ∃ txnId, bytes = firstAllocate C txnId
  returned : ∀ t ∈ s.threads, ∀ result, t.point = .returned result → Fails t.call result
  ends : ∀ k t, s.threads[k]? = some t → EndsFailed C s k t.call

end Runs

/-- **A client is never allocated.**  Whatever its threads do and in whatever order, as long as the datagrams that decode
have the types that STUN and TURN give them: there is no allocation and no permission, nothing goes out but Allocate
requests without credentials, and every `OpenAllocation`, `AddPeerPermission` and `Send` fails or is on its way there. -/
theorem never_allocated (C : Crypto) (events : List TurnEvent) (h : ∀ ev ∈ events, ev.FromServer) :
    NeverAllocated C (run (TurnSystem.step C) { client := {} } events)
      (history (TurnSystem.step C) transmitted { client := {} } events) := by
  have hstart : NoResponse C { client := {} } :=
    ⟨⟨rfl, rfl, rfl, rfl, rfl, rfl, rfl⟩, fun t ht => absurd ht List.not_mem_nil⟩
  have hguard : Guarded (TurnSystem.step C) (fun _ ev => ev.FromServer) { client := {} } events :=
    guarded_of_forall_mem fun ev hev _ => h ev hev
  have hinv : ∀ (s : TurnSystem) (sent : List Bytes) (ev : TurnEvent),
      (NoResponse C s ∧ ∀ bytes ∈ sent, ∃ txnId, bytes = firstAllocate C txnId) → ev.FromServer → NoResponse C (s.step C ev) ∧
        ∀ bytes ∈ sent ++ (transmitted s ev).toList, ∃ txnId, bytes = firstAllocate C txnId := by
    rintro s sent ev ⟨hs, hsent⟩ hev
    refine ⟨noResponse_step hs hev, fun bytes hbytes => ?_⟩
    rcases List.mem_append.1 hbytes with hbytes | hbytes
    · exact hsent bytes hbytes
    · exact transmitted_of_noResponse hs (Option.mem_toList.1 hbytes)
  obtain ⟨hend, hsent⟩ := invariant_history hinv ⟨hstart, fun bytes hb => absurd hb List.not_mem_nil⟩ hguard
  exact {
    allocated := hend.client.allocated
    relayed := hend.client.relayed
    permittedPeers := hend.client.permittedPeers
    sent := hsent
    returned := fun t ht result hpoint => by
      have hthread := hend.threads t ht
      rw [hpoint] at hthread
      exact hthread
    ends := fun k t hk => endsFailed hend hk }

/-! ### A client and its challenge -/

def sampleReflector : Reflector where
  reflectorIp := [0x31]
  reflectorPort := 1400
  username := [0x75]
  password := [0x70]

/-- `OpenAllocation` up to its wait, the challenge of the reflector, and the end of the wait. -/
def sampleEvents : List TurnEvent :=
  .calls (.openAllocation sampleReflector []) ::
    (List.replicate 9 (.performs 0 { txnId := [1, 2, 3, 4, 5, 6, 7, 8, 9, 10, 11, 12] }) ++
      [.calls (.messageReceived 0 TurnClient.sampleChallenge), .performs 1 {}, .performs 1 {},
        .performs 0 { timedOut := true }])

theorem fromServer_sampleChallenge : FromServer TurnClient.sampleChallenge := by
  intro msg hmsg
  have hdecode : decodeMessage TurnClient.sampleChallenge = some TurnClient.sampleChallengeMessage := by decide +kernel
  obtain rfl := Option.some.inj (hdecode.symm.trans hmsg)
  exact ⟨kMethodAllocate, by decide, .error, by decide⟩

theorem never_allocated_sample :
    NeverAllocated sampleCrypto (run (TurnSystem.step sampleCrypto) { client := {} } sampleEvents)
      (history (TurnSystem.step sampleCrypto) transmitted { client := {} } sampleEvents) :=
  never_allocated sampleCrypto sampleEvents fun ev hev => by
    simp only [sampleEvents, List.mem_cons, List.mem_append, List.mem_replicate, List.not_mem_nil, or_false] at hev
    rcases hev with rfl | ⟨-, rfl⟩ | rfl | rfl | rfl | rfl
    case inr.inr.inl => exact fromServer_sampleChallenge
    all_goals trivial

end VianiumVoip.Turn
