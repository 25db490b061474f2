import VianiumVoip.Ice.Agent

/-!
# What stands behind MESSAGE-INTEGRITY

Two datagrams that agree up to and including MESSAGE-INTEGRITY verify alike, but the decoder reads on: USE-CANDIDATE
behind MESSAGE-INTEGRITY nominates a pair, and a malformed attribute behind it has the datagram ignored.  Whoever
relays a binding request of the peer can do both.

`processIncoming_eq_iff` says exactly when the new state of the agent does not depend on the unauthenticated rest.
-/

namespace VianiumVoip.Ice

open VianiumVoip.Lib StunMessageCodec

namespace IceAgent

variable (hmacSha1 : Bytes → Bytes → Bytes) (s : IceAgent) (srcIp : String) (srcPort : ℤ)

/-- A datagram that decodes makes the agent act on a pair. -/
def Reaches (bytes : Bytes) : Prop :=
  loadBE32 (bytes.drop 4) = kStunMagicCookie ∧ (s.findPair srcIp srcPort).isSome ∧
    (loadBE16 bytes = kStunBindingRequest ∨
      loadBE16 bytes = kStunBindingResponse ∧ verifyMessageIntegrity hmacSha1 bytes s.remotePwd = true)

/-- USE-CANDIDATE is among the authenticated attributes. -/
def protectedCandidate (bytes : Bytes) : Bool :=
  ((Tlv.attributes (protectedArea bytes)).getD []).any isUseCandidate

/-- Only USE-CANDIDATE is missing for a request to nominate its pair. -/
def AwaitsCandidate (bytes : Bytes) : Prop :=
  loadBE16 bytes = kStunBindingRequest ∧ s.role = .controlled ∧ s.connected = false ∧ protectedCandidate bytes = false

/-- The agent selects the pair, given the attributes behind MESSAGE-INTEGRITY. -/
def Selects (bytes : Bytes) (after : List Tlv.Attribute) : Prop :=
  s.connected = false ∧
    (loadBE16 bytes = kStunBindingRequest ∧ s.role = .controlled ∧
        (protectedCandidate bytes || after.any isUseCandidate) = true ∨
      loadBE16 bytes = kStunBindingResponse ∧ s.role = .controlling)

def PairSucceeded : Prop := ∀ i, s.findPair srcIp srcPort = some i → (s.pairs.getD i {}).succeeded = true

/-- The attributes behind MESSAGE-INTEGRITY make no difference in this state: nothing is reached; or both are malformed;
or both are read and agree on USE-CANDIDATE, where it counts; or one is read and leaves everything as it is. -/
def TailsAgree (a b : Bytes) : Prop :=
  s.Reaches hmacSha1 srcIp srcPort a →
    match Tlv.attributes (unprotectedArea a), Tlv.attributes (unprotectedArea b) with
    | none, none => True
    | some x, some y => s.AwaitsCandidate a → x.any isUseCandidate = y.any isUseCandidate
    | some x, none => s.PairSucceeded srcIp srcPort ∧ ¬ s.Selects a x
    | none, some y => s.PairSucceeded srcIp srcPort ∧ ¬ s.Selects b y

variable {hmacSha1 s srcIp srcPort} {a b bytes : Bytes} {after : List Tlv.Attribute} {i : ℕ}

/-! ### The new state -/

theorem length_of_findPair (h : s.findPair srcIp srcPort = some i) : i < s.pairs.length := by
  obtain ⟨hi, -⟩ := List.findIdx?_eq_some_iff_getElem.1 h
  exact hi

theorem findPair_target {i : ℕ} (h : s.findPair srcIp srcPort = some i) :
    (s.pairs.getD i {}).target = { ip := srcIp, port := srcPort } := by
  obtain ⟨hi, htarget, -⟩ := List.findIdx?_eq_some_iff_getElem.1 h
  rw [List.getD_eq_getElem?_getD, List.getElem?_eq_getElem hi, Option.getD_some]
  obtain ⟨hip, hport⟩ := of_decide_eq_true htarget
  rw [← hip, ← hport]

theorem succeeded_of_succeeded {p : Pair} (h : p.succeeded = true) : { p with succeeded := true } = p := by
  rw [← h]

theorem markSucceeded_eq_self_iff (hi : i < s.pairs.length) :
    s.markSucceeded i = s ↔ (s.pairs.getD i {}).succeeded = true := by
  have hpairs : s.markSucceeded i = s ↔ s.pairs.modify i (fun p => { p with succeeded := true }) = s.pairs := by
    constructor
    · intro h
      exact congrArg IceAgent.pairs h
    · intro h
      rw [markSucceeded, h]
  have hget : s.pairs.getD i {} = s.pairs[i] := by
    rw [List.getD_eq_getElem?_getD, List.getElem?_eq_getElem hi, Option.getD_some]
  rw [hpairs, hget]
  constructor
  · intro h
    have hmod := List.getElem_modify_eq (fun p : Pair => { p with succeeded := true }) i s.pairs (by simpa using hi)
    simp only [h] at hmod
    rw [hmod]
  · intro h
    apply List.ext_getElem (by simp)
    intro j hj hj'
    rw [List.getElem_modify]
    by_cases hij : i = j
    · subst hij
      rw [if_pos rfl]
      exact succeeded_of_succeeded h
    · rw [if_neg hij]

theorem select_connected (s : IceAgent) (i : ℕ) : (s.select i).connected = true := rfl

theorem markSucceeded_connected (s : IceAgent) (i : ℕ) : (s.markSucceeded i).connected = s.connected := rfl

theorem decode_of_verify (hverify : verifyMessageIntegrity hmacSha1 bytes s.localPwd = true)
    (hcookie : loadBE32 (bytes.drop 4) = kStunMagicCookie) :
    (Tlv.attributes (unprotectedArea bytes) = none → decode bytes = none) ∧
      ∀ after, Tlv.attributes (unprotectedArea bytes) = some after → ∃ msg, decode bytes = some msg ∧
        msg.messageType = loadBE16 bytes ∧
        msg.useCandidate = (protectedCandidate bytes || after.any isUseCandidate) := by
  obtain ⟨hsize, offset, mi, hfind, -, -⟩ := of_verifyMessageIntegrity hverify
  obtain ⟨front, hfront, hdecode⟩ := decode_eq_of_findIntegrity hsize hcookie hfind
  refine ⟨?_, ?_⟩
  · intro hnone
    rw [hdecode, hnone]
    rfl
  · intro after hafter
    rw [hafter] at hdecode
    refine ⟨_, hdecode, ?_, ?_⟩
    · rw [foldl_readAttribute_messageType]
    · rw [foldl_readAttribute_useCandidate, List.any_append, protectedCandidate, hfront]
      simp

/-- Without the cookie, a pair or a message type that it acts on, the agent stays as it is. -/
theorem processIncoming_of_not_reaches (h : ¬ s.Reaches hmacSha1 srcIp srcPort bytes) :
    (s.processIncoming hmacSha1 srcIp srcPort bytes).1 = s := by
  unfold processIncoming
  cases hmsg : decode bytes with
  | none => rfl
  | some msg =>
    obtain ⟨hcookie, htype⟩ := of_decode hmsg
    simp only [Reaches, hcookie, ← htype, true_and, not_and_or, not_or] at h
    simp only
    by_cases hrequest : msg.messageType = kStunBindingRequest
    · have hpair : s.findPair srcIp srcPort = none := by
        rcases h with h | h
        · simpa using h
        · exact absurd hrequest h.1
      rw [if_pos hrequest, hpair]
      split_ifs <;> rfl
    rw [if_neg hrequest]
    by_cases hresponse : msg.messageType = kStunBindingResponse
    · rw [if_pos hresponse]
      rcases h with h | h
      · have hpair : s.findPair srcIp srcPort = none := by simpa using h
        rw [hpair]
        split_ifs <;> rfl
      · have hverify := h.2.resolve_left (not_not_intro hresponse)
        rw [if_neg hverify]
    · rw [if_neg hresponse]

theorem processIncoming_of_malformed (hverify : verifyMessageIntegrity hmacSha1 bytes s.localPwd = true)
    (hcookie : loadBE32 (bytes.drop 4) = kStunMagicCookie) (h : Tlv.attributes (unprotectedArea bytes) = none) :
    (s.processIncoming hmacSha1 srcIp srcPort bytes).1 = s := by
  unfold processIncoming
  rw [(decode_of_verify hverify hcookie).1 h]

/-- A datagram that is read: its pair has succeeded, and is selected where `Selects` says so. -/
theorem processIncoming_of_reaches (hverify : verifyMessageIntegrity hmacSha1 bytes s.localPwd = true)
    (h : s.Reaches hmacSha1 srcIp srcPort bytes) (hpair : s.findPair srcIp srcPort = some i)
    (hafter : Tlv.attributes (unprotectedArea bytes) = some after) :
    (s.Selects bytes after → (s.processIncoming hmacSha1 srcIp srcPort bytes).1 = (s.markSucceeded i).select i) ∧
      (¬ s.Selects bytes after → (s.processIncoming hmacSha1 srcIp srcPort bytes).1 = s.markSucceeded i) := by
  obtain ⟨hcookie, -, htype⟩ := h
  obtain ⟨msg, hmsg, hmessage, hcandidate⟩ := (decode_of_verify hverify hcookie).2 after hafter
  have hne : kStunBindingRequest ≠ kStunBindingResponse := by decide
  unfold processIncoming Selects
  rw [hmsg]
  simp only [hmessage, hcandidate, hpair]
  rcases htype with hrequest | ⟨hresponse, hremote⟩
  · rw [if_pos hrequest, if_pos hverify]
    refine ⟨?_, ?_⟩
    · rintro ⟨hfresh, ⟨-, hrole, hasked⟩ | ⟨hother, -⟩⟩
      · rw [if_pos ⟨hasked, hrole, by simp [markSucceeded_connected, hfresh]⟩]
      · exact absurd (hrequest.symm.trans hother) hne
    · intro hnot
      rw [if_neg]
      rintro ⟨hasked, hrole, hfresh⟩
      exact hnot ⟨by simpa [markSucceeded_connected] using hfresh, .inl ⟨hrequest, hrole, hasked⟩⟩
  · rw [if_neg (by rw [hresponse]; exact hne.symm), if_pos hresponse, if_pos hremote]
    refine ⟨?_, ?_⟩
    · rintro ⟨hfresh, ⟨hother, -⟩ | ⟨-, hrole⟩⟩
      · exact absurd (hother.symm.trans hresponse) hne
      · rw [if_pos ⟨hrole, by simp [markSucceeded_connected, hfresh]⟩]
    · intro hnot
      rw [if_neg]
      rintro ⟨hrole, hfresh⟩
      exact hnot ⟨by simpa [markSucceeded_connected] using hfresh, .inr ⟨hresponse, hrole⟩⟩

/-! ### Two datagrams -/

theorem reaches_congr (ha : verifyMessageIntegrity hmacSha1 a s.localPwd = true)
    (hb : verifyMessageIntegrity hmacSha1 b s.localPwd = true) (h : SameProtected a b) :
    s.Reaches hmacSha1 srcIp srcPort b ↔ s.Reaches hmacSha1 srcIp srcPort a := by
  obtain ⟨htype, hcookie, -⟩ := sameProtected_header ha h
  unfold Reaches
  rw [htype, hcookie, sameProtected_verify ha hb h]

/-- Given the attributes behind MESSAGE-INTEGRITY, the protected part decides the selection up to USE-CANDIDATE. -/
theorem selects_congr_iff (ha : verifyMessageIntegrity hmacSha1 a s.localPwd = true)
    (hb : verifyMessageIntegrity hmacSha1 b s.localPwd = true) (h : SameProtected a b) (x y : List Tlv.Attribute) :
    (s.Selects a x ↔ s.Selects b y) ↔
      (s.AwaitsCandidate a → x.any isUseCandidate = y.any isUseCandidate) := by
  obtain ⟨htype, -, -⟩ := sameProtected_header ha h
  have hcandidate : protectedCandidate b = protectedCandidate a := by
    rw [protectedCandidate, (sameProtected_area ha hb h).2, protectedCandidate]
  have hne : kStunBindingRequest ≠ kStunBindingResponse := by decide
  unfold Selects AwaitsCandidate
  rw [htype, hcandidate]
  by_cases hrequest : loadBE16 a = kStunBindingRequest
  · cases protectedCandidate a <;> cases x.any isUseCandidate <;> cases y.any isUseCandidate <;>
      cases s.connected <;> simp [hrequest, hne]
  · simp [hrequest]

theorem pairSucceeded_iff (hpair : s.findPair srcIp srcPort = some i) :
    s.PairSucceeded srcIp srcPort ↔ (s.pairs.getD i {}).succeeded = true := by
  unfold PairSucceeded
  rw [hpair]
  simp

theorem processIncoming_eq_self_iff (hverify : verifyMessageIntegrity hmacSha1 bytes s.localPwd = true)
    (h : s.Reaches hmacSha1 srcIp srcPort bytes) (hafter : Tlv.attributes (unprotectedArea bytes) = some after) :
    (s.processIncoming hmacSha1 srcIp srcPort bytes).1 = s ↔
      s.PairSucceeded srcIp srcPort ∧ ¬ s.Selects bytes after := by
  obtain ⟨i, hpair⟩ := Option.isSome_iff_exists.1 h.2.1
  obtain ⟨hselect, hmark⟩ := processIncoming_of_reaches hverify h hpair hafter
  rw [pairSucceeded_iff hpair, ← markSucceeded_eq_self_iff (length_of_findPair hpair)]
  by_cases hsel : s.Selects bytes after
  · rw [hselect hsel]
    refine ⟨?_, fun hnot => absurd hsel hnot.2⟩
    intro heq
    have hconnected := congrArg IceAgent.connected heq
    rw [select_connected, hsel.1] at hconnected
    cases hconnected
  · rw [hmark hsel]
    exact ⟨fun heq => ⟨heq, hsel⟩, fun hboth => hboth.1⟩

/-- Two datagrams that are read and reach the same pair leave the same state when both select it, or neither. -/
theorem processIncoming_eq_of_read (ha : verifyMessageIntegrity hmacSha1 a s.localPwd = true)
    (hb : verifyMessageIntegrity hmacSha1 b s.localPwd = true) (hreachA : s.Reaches hmacSha1 srcIp srcPort a)
    (hreachB : s.Reaches hmacSha1 srcIp srcPort b) {x y : List Tlv.Attribute}
    (hx : Tlv.attributes (unprotectedArea a) = some x) (hy : Tlv.attributes (unprotectedArea b) = some y) :
    (s.processIncoming hmacSha1 srcIp srcPort a).1 = (s.processIncoming hmacSha1 srcIp srcPort b).1 ↔
      (s.Selects a x ↔ s.Selects b y) := by
  obtain ⟨i, hpair⟩ := Option.isSome_iff_exists.1 hreachA.2.1
  obtain ⟨hselectA, hmarkA⟩ := processIncoming_of_reaches ha hreachA hpair hx
  obtain ⟨hselectB, hmarkB⟩ := processIncoming_of_reaches hb hreachB hpair hy
  have hdiffer : s.connected = false → (s.markSucceeded i).select i ≠ s.markSucceeded i := by
    intro hfresh heq
    have hconnected := congrArg IceAgent.connected heq
    rw [select_connected, markSucceeded_connected, hfresh] at hconnected
    cases hconnected
  by_cases hselA : s.Selects a x <;> by_cases hselB : s.Selects b y
  · simp [hselectA hselA, hselectB hselB, hselA, hselB]
  · simp [hselectA hselA, hmarkB hselB, hselA, hselB, hdiffer hselA.1]
  · simp [hmarkA hselA, hselectB hselB, hselA, hselB, (hdiffer hselB.1).symm]
  · simp [hmarkA hselA, hmarkB hselB, hselA, hselB]

/-- **The new state does not depend on what stands behind MESSAGE-INTEGRITY exactly when `TailsAgree` says so**, for
every state, every source and every two datagrams that verify and agree up to MESSAGE-INTEGRITY. -/
theorem processIncoming_eq_iff (ha : verifyMessageIntegrity hmacSha1 a s.localPwd = true)
    (hb : verifyMessageIntegrity hmacSha1 b s.localPwd = true) (h : SameProtected a b) :
    (s.processIncoming hmacSha1 srcIp srcPort a).1 = (s.processIncoming hmacSha1 srcIp srcPort b).1 ↔
      s.TailsAgree hmacSha1 srcIp srcPort a b := by
  unfold TailsAgree
  have hreach : s.Reaches hmacSha1 srcIp srcPort b ↔ s.Reaches hmacSha1 srcIp srcPort a := reaches_congr ha hb h
  by_cases hreachA : s.Reaches hmacSha1 srcIp srcPort a
  · have hreachB := hreach.2 hreachA
    rw [forall_prop_of_true hreachA]
    cases hx : Tlv.attributes (unprotectedArea a) with
    | none =>
      rw [processIncoming_of_malformed ha hreachA.1 hx]
      cases hy : Tlv.attributes (unprotectedArea b) with
      | none =>
        rw [processIncoming_of_malformed hb hreachB.1 hy]
        simp
      | some y =>
        rw [eq_comm]
        exact processIncoming_eq_self_iff hb hreachB hy
    | some x =>
      cases hy : Tlv.attributes (unprotectedArea b) with
      | none =>
        rw [processIncoming_of_malformed hb hreachB.1 hy]
        exact processIncoming_eq_self_iff ha hreachA hx
      | some y => exact (processIncoming_eq_of_read ha hb hreachA hreachB hx hy).trans (selects_congr_iff ha hb h x y)
  · rw [processIncoming_of_not_reaches hreachA, processIncoming_of_not_reaches (mt hreach.1 hreachA)]
    simp [hreachA]

/-! ### A nomination added in flight -/

/-- HMAC-SHA1 under the password of the agent below, at the request and at the response to it. -/
def sampleHmacSha1 (key msg : Bytes) : Bytes := toBE 20 <|
  if key = ascii "password" then
    ((([(0x000100182112a4420102030405060708090a0b0c, 0x3552c258679b89197e89bf3eb2786c271eb4eeba),
      (0x010100242112a4420102030405060708090a0b0c0020000800012c842b12a443,
        0xbee6f8b57fd2ec59f9010f33b2e728988c9c199a)] : List (ℕ × ℕ)).lookup (ofBE msg)).getD 0)
  else 0

def sampleAgent : IceAgent :=
  { role := .controlled, localUfrag := ascii "left", localPwd := ascii "password", remoteUfrag := ascii "right"
    remotePwd := ascii "other password", tieBreak := 1, pairs := [{ target := { ip := "10.0.0.1", port := 3478 } }] }

/-- A binding request of the peer, signed by it, with what is added behind MESSAGE-INTEGRITY. -/
def sampleRequest (added : Bytes) : Bytes :=
  storeBE16 kStunBindingRequest ++ storeBE16 (UInt16.ofNat (24 + added.length)) ++ storeBE32 kStunMagicCookie
    ++ [1, 2, 3, 4, 5, 6, 7, 8, 9, 10, 11, 12] ++ storeBE16 kStunAttrMessageIntegrity ++ storeBE16 20
    ++ toBE 20 0x3552c258679b89197e89bf3eb2786c271eb4eeba ++ added

/-- USE-CANDIDATE. -/
def sampleCandidate : Bytes := storeBE16 kStunAttrUseCandidate ++ storeBE16 0

theorem processIncoming_eq_sample :
    (sampleAgent.processIncoming sampleHmacSha1 "10.0.0.1" 3478 (sampleRequest [])).1
        = (sampleAgent.processIncoming sampleHmacSha1 "10.0.0.1" 3478 (sampleRequest sampleCandidate)).1 ↔
      sampleAgent.TailsAgree sampleHmacSha1 "10.0.0.1" 3478 (sampleRequest []) (sampleRequest sampleCandidate) :=
  processIncoming_eq_iff (by decide +kernel) (by decide +kernel) (by decide +kernel)

/-- **The added USE-CANDIDATE nominates the pair**, and the request still verifies. -/
theorem added_candidate_nominates :
    verifyMessageIntegrity sampleHmacSha1 (sampleRequest []) sampleAgent.localPwd = true ∧
      verifyMessageIntegrity sampleHmacSha1 (sampleRequest sampleCandidate) sampleAgent.localPwd = true ∧
      SameProtected (sampleRequest []) (sampleRequest sampleCandidate) ∧
      (sampleAgent.processIncoming sampleHmacSha1 "10.0.0.1" 3478 (sampleRequest [])).1
        ≠ (sampleAgent.processIncoming sampleHmacSha1 "10.0.0.1" 3478 (sampleRequest sampleCandidate)).1 := by
  refine ⟨by decide +kernel, by decide +kernel, by decide +kernel, ?_⟩
  intro h
  have hconnected := congrArg IceAgent.connected h
  revert hconnected
  decide +kernel

end IceAgent

end VianiumVoip.Ice
