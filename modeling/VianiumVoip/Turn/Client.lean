import VianiumVoip.Turn.Message

/-!
# The pending request of a TURN client

`OnInboundUdp` matches a datagram of the reflector with the request that `DoAllocateHandshake` or
`SendCreatePermission` is waiting on, and `WaitForResponse` hands the match to the waiting thread.

A response is known by its class and its transaction id.  The class comes from `TurnClassOf`, hence from bit 9 of the
type in the place of bit 8: a success or error response to a method below 0x80, which has bit 9 clear, never reaches
the thread that waits for it (`waitForResponse_of_dropped`).
-/

namespace VianiumVoip.Turn

open VianiumVoip.Lib

structure TurnClient where
  /-- `m_onData` is set. -/
  onData : Bool := true
  havePending : Bool := false
  pendingTxnId : Bytes := List.replicate 12 0
  pendingComplete : Bool := false
  pendingResponse : TurnMessage := {}
  deriving DecidableEq

/-- What `OnInboundUdp` does besides changing the client: the call of the data callback, and `notify_all`. -/
structure Inbound where
  delivered : Option (String × ℕ × Bytes) := none
  notified : Bool := false
  deriving DecidableEq

def looksLikeStunOrTurn (bytes : Bytes) : Bool := 20 ≤ bytes.length ∧ bytes.getD 0 0 ≤ 0x03

/-- The source that the callback of a Data Indication is given: the first peer address, if it is an IPv4 one. -/
def peerSource (peers : List TurnAddress) : String × ℕ :=
  match peers.head? with
  | some src =>
    if src.family = kFamilyIPv4 ∧ src.address.length = 4 then
      (".".intercalate (src.address.map fun b => toString b.toNat), src.port.toNat)
    else ("", 0)
  | none => ("", 0)

namespace TurnClient

/-- The slot of a client that is about to send a request. -/
def beginRequest (s : TurnClient) (txnId : Bytes) : TurnClient :=
  { s with havePending := true, pendingComplete := false, pendingTxnId := txnId, pendingResponse := {} }

/-- The slot of a client whose request is answered. -/
def complete (s : TurnClient) (msg : TurnMessage) : TurnClient :=
  { s with pendingResponse := msg, pendingComplete := true }

/-- `OnInboundUdp` -/
def onInboundUdp (s : TurnClient) (bytes : Bytes) : TurnClient × Inbound :=
  if looksLikeStunOrTurn bytes then
    match decodeMessage bytes with
    | none => (s, {})
    | some msg =>
      let method := turnMethodOf msg.type
      let cls := turnClassOf msg.type
      if cls = kClassIndication ∧ method = kMethodData then
        match msg.data with
        | none => (s, {})
        | some data =>
          if data = [] then (s, {})
          else
            let (srcIp, srcPort) := peerSource msg.xorPeers
            (s, { delivered := if s.onData then some (srcIp, srcPort, data) else none })
      else if cls ≠ kClassSuccess ∧ cls ≠ kClassError then (s, {})
      else if ¬ s.havePending then (s, {})
      else if msg.transactionId ≠ s.pendingTxnId then (s, {})
      else (s.complete msg, { notified := true })
  else (s, {})

/-- The test of `WaitForResponse` under the lock: the response it hands out, and the slot it frees. -/
def waitForResponse (s : TurnClient) (txnId : Bytes) : Option (TurnMessage × TurnClient) :=
  if s.pendingComplete ∧ s.havePending ∧ s.pendingTxnId = txnId then
    some (s.pendingResponse, { s with havePending := false, pendingComplete := false })
  else none

/-! ### Matching a response -/

/-- The message answers the pending request: its class is success or error, and it carries the transaction id. -/
def Answers (s : TurnClient) (msg : TurnMessage) : Prop :=
  msg.transactionId = s.pendingTxnId ∧ (rfcClassOf msg.type = .success ∨ rfcClassOf msg.type = .error)

/-- An answer completes the pending request, and anything else leaves the slot as it is. -/
def MatchesResponse (s : TurnClient) (bytes : Bytes) (msg : TurnMessage) : Prop :=
  (s.Answers msg → s.onInboundUdp bytes = (s.complete msg, { notified := true })) ∧
    (¬ s.Answers msg → (s.onInboundUdp bytes).1 = s ∧ (s.onInboundUdp bytes).2.notified = false)

variable {s : TurnClient} {bytes : Bytes} {msg : TurnMessage}

theorem looksLikeStunOrTurn_of_decodeMessage (h : decodeMessage bytes = some msg) : looksLikeStunOrTurn bytes = true := by
  obtain ⟨hlen, hfirst, -⟩ := of_decodeMessage h
  exact decide_eq_true ⟨hlen, hfirst⟩

/-- **What a decoded datagram does to the slot.**  It completes the pending request when bit 9 of its type is set and
it carries the transaction id. -/
theorem onInboundUdp_eq_complete (hpending : s.havePending = true) (hmsg : decodeMessage bytes = some msg)
    (hbit : msg.type &&& 0x0200 ≠ 0) (htxn : msg.transactionId = s.pendingTxnId) :
    s.onInboundUdp bytes = (s.complete msg, { notified := true }) := by
  have hclass := (turnClassOf_response_iff msg.type).2 hbit
  have hindication : turnClassOf msg.type ≠ kClassIndication := by
    rcases hclass with h | h <;> rw [h] <;> decide
  unfold onInboundUdp
  rw [if_pos (looksLikeStunOrTurn_of_decodeMessage hmsg), hmsg]
  simp only
  rw [if_neg (fun h => hindication h.1), if_neg (by tauto), if_neg (by simp [hpending]), if_neg (by simp [htxn])]

theorem onInboundUdp_unchanged (hmsg : decodeMessage bytes = some msg)
    (h : msg.type &&& 0x0200 = 0 ∨ msg.transactionId ≠ s.pendingTxnId) :
    (s.onInboundUdp bytes).1 = s ∧ (s.onInboundUdp bytes).2.notified = false := by
  have hclass := turnClassOf_response_iff msg.type
  unfold onInboundUdp
  rw [if_pos (looksLikeStunOrTurn_of_decodeMessage hmsg), hmsg]
  simp only
  by_cases hindication : turnClassOf msg.type = kClassIndication ∧ turnMethodOf msg.type = kMethodData
  · rw [if_pos hindication]
    cases msg.data with
    | none => exact ⟨rfl, rfl⟩
    | some data =>
      by_cases hdata : data = []
      · simp [hdata]
      · simp [hdata]
  rw [if_neg hindication]
  by_cases hbit : msg.type &&& 0x0200 = 0
  · rw [if_pos (by tauto)]
    exact ⟨rfl, rfl⟩
  · rw [if_neg (by tauto)]
    by_cases hpending : s.havePending = true
    · rw [if_neg (not_not_intro hpending), if_pos (h.resolve_left hbit)]
      exact ⟨rfl, rfl⟩
    · rw [if_pos hpending]
      exact ⟨rfl, rfl⟩

theorem onInboundUdp_of_idle (hpending : s.havePending = false) (bytes : Bytes) : (s.onInboundUdp bytes).1 = s := by
  unfold onInboundUdp
  by_cases hlooks : looksLikeStunOrTurn bytes = true
  · rw [if_pos hlooks]
    cases decodeMessage bytes with
    | none => rfl
    | some msg =>
      simp only
      by_cases hindication : turnClassOf msg.type = kClassIndication ∧ turnMethodOf msg.type = kMethodData
      · rw [if_pos hindication]
        cases msg.data with
        | none => rfl
        | some data =>
          by_cases hdata : data = []
          · simp [hdata]
          · simp [hdata]
      rw [if_neg hindication]
      by_cases hresponse : turnClassOf msg.type ≠ kClassSuccess ∧ turnClassOf msg.type ≠ kClassError
      · rw [if_pos hresponse]
      · rw [if_neg hresponse, if_pos (by simp [hpending])]
  · rw [if_neg hlooks]

/-- A datagram completes the pending request exactly when bit 9 of its type is set and it carries the transaction id. -/
theorem onInboundUdp_complete_iff (hpending : s.havePending = true) (hmsg : decodeMessage bytes = some msg) :
    s.onInboundUdp bytes = (s.complete msg, { notified := true }) ↔
      msg.type &&& 0x0200 ≠ 0 ∧ msg.transactionId = s.pendingTxnId := by
  constructor
  · intro h
    by_contra hnot
    have hkeep := onInboundUdp_unchanged (s := s) hmsg (by tauto)
    rw [h] at hkeep
    exact Bool.noConfusion hkeep.2
  · rintro ⟨hbit, htxn⟩
    exact onInboundUdp_eq_complete hpending hmsg hbit htxn

/-- The helpers invert the packing of a message type: whatever method and class it packs, they are extracted. -/
def InvertsPacking (type : UInt16) : Prop :=
  ∀ method < 0x1000, ∀ cls : MessageClass, rfcMessageType method cls = type →
    turnMethodOf type = method ∧ turnClassOf type = cls.value

/-- **The helpers invert the packing of exactly those types in which bits 8 and 9 agree.** -/
theorem invertsPacking_iff {type : UInt16} (h : type < 0x4000) :
    InvertsPacking type ↔ (type &&& 0x0100 = 0 ↔ type &&& 0x0200 = 0) := by
  rw [← turnClassOf_eq_iff]
  constructor
  · intro hinv
    exact (hinv _ (turnMethodOf_lt type) _ (rfcMessageType_turnMethodOf h)).2
  · rintro hclass method hmethod cls rfl
    refine ⟨turnMethodOf_rfcMessageType hmethod cls, ?_⟩
    rw [hclass, rfcClassOf_rfcMessageType]

/-- **A pending request is matched with its response exactly when bits 8 and 9 of the type agree**, for every datagram
that carries its transaction id, and the helpers invert the packing of exactly those types. -/
theorem matchesResponse_iff (hpending : s.havePending = true) (hmsg : decodeMessage bytes = some msg) :
    (s.MatchesResponse bytes msg ↔
        (msg.transactionId = s.pendingTxnId → (msg.type &&& 0x0100 = 0 ↔ msg.type &&& 0x0200 = 0))) ∧
      ∀ type < 0x4000, InvertsPacking type ↔ (type &&& 0x0100 = 0 ↔ type &&& 0x0200 = 0) := by
  refine ⟨?_, fun type h => invertsPacking_iff h⟩
  have hcomplete := onInboundUdp_complete_iff hpending hmsg
  have hkeep := onInboundUdp_unchanged (s := s) hmsg
  unfold MatchesResponse Answers
  rw [rfcClassOf_response_iff]
  by_cases htxn : msg.transactionId = s.pendingTxnId
  · by_cases h8 : msg.type &&& 0x0100 = 0 <;> by_cases h9 : msg.type &&& 0x0200 = 0
    · have := hkeep (.inl h9)
      tauto
    · have hdone := hcomplete.2 ⟨h9, htxn⟩
      have hwoken : (s.onInboundUdp bytes).2.notified = true := by rw [hdone]
      simp_all
    · simp_all
    · have := hcomplete.2 ⟨h9, htxn⟩
      tauto
  · have := hkeep (.inr htxn)
    tauto

/-- A client that waits for the response to its first Allocate request. -/
def sampleClient : TurnClient := ({} : TurnClient).beginRequest [1, 2, 3, 4, 5, 6, 7, 8, 9, 10, 11, 12]

/-- The 401 challenge of the reflector: an Allocate error response (0x0113) with an ERROR-CODE. -/
def sampleChallenge : Bytes :=
  [0x01, 0x13, 0x00, 0x08, 0x21, 0x12, 0xA4, 0x42, 1, 2, 3, 4, 5, 6, 7, 8, 9, 10, 11, 12,
    0x00, 0x09, 0x00, 0x04, 0x00, 0x00, 0x04, 0x01]

def sampleChallengeMessage : TurnMessage :=
  { type := 0x0113, transactionId := [1, 2, 3, 4, 5, 6, 7, 8, 9, 10, 11, 12], errorCode := some 401
    raw := sampleChallenge }

theorem matchesResponse_challenge :
    sampleClient.MatchesResponse sampleChallenge sampleChallengeMessage ↔
      (sampleChallengeMessage.transactionId = sampleClient.pendingTxnId →
        ((0x0113 : UInt16) &&& 0x0100 = 0 ↔ (0x0113 : UInt16) &&& 0x0200 = 0)) :=
  (matchesResponse_iff (show sampleClient.havePending = true from rfl)
    (show decodeMessage sampleChallenge = some sampleChallengeMessage by decide +kernel)).1

/-- **The challenge is dropped.**  It answers the pending request and the client neither stores it nor wakes the
thread that waits for it. -/
theorem challenge_dropped :
    decodeMessage sampleChallenge = some sampleChallengeMessage ∧
      sampleClient.Answers sampleChallengeMessage ∧
      sampleClient.onInboundUdp sampleChallenge = (sampleClient, {}) ∧
      ¬ sampleClient.MatchesResponse sampleChallenge sampleChallengeMessage := by
  have hmsg : decodeMessage sampleChallenge = some sampleChallengeMessage := by decide +kernel
  have hanswers : sampleClient.Answers sampleChallengeMessage := ⟨rfl, .inr (by decide)⟩
  have hdropped : sampleClient.onInboundUdp sampleChallenge = (sampleClient, {}) := by decide +kernel
  refine ⟨hmsg, hanswers, hdropped, ?_⟩
  intro h
  have hdone := h.1 hanswers
  rw [hdropped] at hdone
  exact absurd (congrArg (fun r => r.2.notified) hdone) (by decide)

/-! ### A whole wait -/

/-- The datagrams that arrive while a thread waits. -/
def onInbound (s : TurnClient) (datagrams : List Bytes) : TurnClient :=
  datagrams.foldl (fun s bytes => (s.onInboundUdp bytes).1) s

theorem onInboundUdp_of_undecoded (h : decodeMessage bytes = none) : s.onInboundUdp bytes = (s, {}) := by
  unfold onInboundUdp
  rw [h]
  simp

/-- **A request is not answered by responses of the wrong bit.**  As long as every datagram that carries the
transaction id of a request has bit 9 of its type clear, as it is in the responses to all methods below 0x80, the
thread that waits for the response is not handed one. -/
theorem waitForResponse_of_dropped {txnId : Bytes} {datagrams : List Bytes}
    (h : ∀ bytes ∈ datagrams, ∀ msg, decodeMessage bytes = some msg → msg.transactionId = txnId →
      msg.type &&& 0x0200 = 0) :
    ((s.beginRequest txnId).onInbound datagrams).waitForResponse txnId = none := by
  have hkeep : (s.beginRequest txnId).onInbound datagrams = s.beginRequest txnId := by
    unfold onInbound
    induction datagrams with
    | nil => rfl
    | cons bytes datagrams ih =>
      have hstep : ((s.beginRequest txnId).onInboundUdp bytes).1 = s.beginRequest txnId := by
        cases hmsg : decodeMessage bytes with
        | none => rw [onInboundUdp_of_undecoded hmsg]
        | some msg =>
          refine (onInboundUdp_unchanged hmsg ?_).1
          by_cases htxn : msg.transactionId = txnId
          · exact .inl (h bytes (by simp) msg hmsg htxn)
          · exact .inr htxn
      rw [List.foldl_cons, hstep]
      exact ih fun bytes' hmem => h bytes' (List.mem_cons_of_mem _ hmem)
  rw [hkeep, waitForResponse, if_neg (by simp [beginRequest])]

end TurnClient

end VianiumVoip.Turn
