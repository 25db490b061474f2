import VianiumVoip.Ice.Nomination

/-!
# A run of one agent

Whoever can send datagrams to an agent chooses their bytes and their sources, and the peer chooses the candidates.  What
holds of the agent in every run of its three calls is collected here: it has one pair for an address, and once it is
connected it stays so, with the pair it has selected.  The upper layer starts DTLS on the one call that returns
`ConnectivityEstablished`.
-/

namespace VianiumVoip.Ice

open VianiumVoip.Lib VianiumVoip.Lib.Run StunMessageCodec

/-- The calls of the upper layer. -/
inductive AgentCall
  | addRemoteCandidate (c : ParsedIceCandidate)
  /-- With the transaction ids that are drawn. -/
  | getBindingRequestsToSend (transactionId : ℕ → Vector UInt8 12)
  | processIncoming (srcIp : String) (srcPort : ℤ) (bytes : Bytes)

/-- The candidates that are handed over. -/
def AgentCall.candidate : AgentCall → Option ParsedIceCandidate
  | addRemoteCandidate c => some c
  | _ => none

namespace IceAgent

/-- The constructor, with the tie-breaker that is drawn. -/
def create (role : IceAgentRole) (localUfrag localPwd remoteUfrag remotePwd : Bytes) (tieBreak : UInt64) : IceAgent :=
  { role := role
    localUfrag := localUfrag
    localPwd := localPwd
    remoteUfrag := remoteUfrag
    remotePwd := remotePwd
    tieBreak := tieBreak }

variable (hmacSha1 : Bytes → Bytes → Bytes)

def call (s : IceAgent) : AgentCall → IceAgent
  | .addRemoteCandidate c => s.addRemoteCandidate c
  | .getBindingRequestsToSend ids => (s.getBindingRequestsToSend hmacSha1 fun i => (ids i).toList).1
  | .processIncoming srcIp srcPort bytes => (s.processIncoming hmacSha1 srcIp srcPort bytes).1

/-- What `ProcessIncoming` returns. -/
def returned (s : IceAgent) : AgentCall → Option ProcessResult
  | .processIncoming srcIp srcPort bytes => some (s.processIncoming hmacSha1 srcIp srcPort bytes).2.1
  | _ => none

/-- The datagram does not decode, or is a request or a response that fails MESSAGE-INTEGRITY. -/
def Unverified (s : IceAgent) (bytes : Bytes) : Prop :=
  decode bytes = none ∨ ∃ msg, decode bytes = some msg ∧
    (msg.messageType = kStunBindingRequest ∧ verifyMessageIntegrity hmacSha1 bytes s.localPwd = false ∨
      msg.messageType = kStunBindingResponse ∧ verifyMessageIntegrity hmacSha1 bytes s.remotePwd = false)

/-- The address that a candidate announces. -/
def addressOf (c : ParsedIceCandidate) : IceCheckTarget := { ip := c.ip, port := c.port }

/-- **The invariant.**  There is one pair for an address, which a candidate has announced, and a selected pair is one of
them and has succeeded. -/
structure Sound (s : IceAgent) : Prop where
  unique : (s.pairs.map Pair.target).Nodup
  announced : ∀ p ∈ s.pairs, ∃ c ∈ s.remoteCandidates, p.target = addressOf c
  selectedPair : s.connected = true → ∃ p ∈ s.pairs, p.target = s.selected ∧ p.succeeded = true

variable {hmacSha1} {s s' : IceAgent} {srcIp : String} {srcPort : ℤ} {bytes response : Bytes} {result : ProcessResult}

theorem sound_create (role : IceAgentRole) (localUfrag localPwd remoteUfrag remotePwd : Bytes) (tieBreak : UInt64) :
    (create role localUfrag localPwd remoteUfrag remotePwd tieBreak).Sound where
  unique := List.nodup_nil
  announced := by
    intro p hp
    cases hp
  selectedPair := by
    intro hconnected
    cases hconnected

/-! ### What stays of the pairs -/

/-- The same addresses in the same order, and what has succeeded stays so. -/
structure KeepsPairs (s s' : IceAgent) : Prop where
  targets : s'.pairs.map Pair.target = s.pairs.map Pair.target
  remoteCandidates : s'.remoteCandidates = s.remoteCandidates
  succeeded : ∀ p ∈ s.pairs, p.succeeded = true → ∃ p' ∈ s'.pairs, p'.target = p.target ∧ p'.succeeded = true

theorem KeepsPairs.refl (s : IceAgent) : s.KeepsPairs s := ⟨rfl, rfl, fun p hp h => ⟨p, hp, rfl, h⟩⟩

theorem keepsPairs_markSucceeded (s : IceAgent) (i : ℕ) : s.KeepsPairs (s.markSucceeded i) where
  targets := by
    apply List.ext_getElem (by simp [markSucceeded])
    intro j hj hj'
    simp only [markSucceeded, List.getElem_map, List.getElem_modify]
    split_ifs <;> rfl
  remoteCandidates := rfl
  succeeded := by
    intro p hp hsucceeded
    obtain ⟨j, hj, rfl⟩ := List.getElem_of_mem hp
    refine ⟨(s.markSucceeded i).pairs.get ⟨j, by simpa [markSucceeded] using hj⟩, List.get_mem _ _, ?_, ?_⟩
    · simp only [markSucceeded, List.get_eq_getElem, List.getElem_modify]
      split_ifs <;> rfl
    · simp only [markSucceeded, List.get_eq_getElem, List.getElem_modify]
      split_ifs
      · rfl
      · exact hsucceeded

theorem succeeded_markSucceeded {i : ℕ} (h : s.findPair srcIp srcPort = some i) :
    ∃ p ∈ (s.markSucceeded i).pairs, p.target = { ip := srcIp, port := srcPort } ∧ p.succeeded = true := by
  have hi := length_of_findPair h
  have htarget := findPair_target h
  rw [List.getD_eq_getElem?_getD, List.getElem?_eq_getElem hi, Option.getD_some] at htarget
  refine ⟨{ s.pairs[i] with succeeded := true }, ?_, htarget, rfl⟩
  rw [markSucceeded]
  refine List.mem_iff_getElem.2 ⟨i, by simpa using hi, ?_⟩
  rw [List.getElem_modify, if_pos rfl]

theorem Processed.keepsPairs (h : s.Processed hmacSha1 srcIp srcPort bytes s' result response) : s.KeepsPairs s' := by
  cases h with
  | ignored | unknownRequest => exact .refl s
  | request msg i | response msg i => exact s.keepsPairs_markSucceeded i
  | nomination msg i | selection msg i =>
    have hkeeps := s.keepsPairs_markSucceeded i
    exact ⟨hkeeps.targets, hkeeps.remoteCandidates, hkeeps.succeeded⟩

theorem keepsPairs_getBindingRequestsToSend (s : IceAgent) (ids : ℕ → Bytes) :
    s.KeepsPairs (s.getBindingRequestsToSend hmacSha1 ids).1 where
  targets := by
    simp only [getBindingRequestsToSend, List.map_map]
    rfl
  remoteCandidates := rfl
  succeeded := by
    intro p hp hsucceeded
    exact ⟨_, List.mem_map_of_mem hp, rfl, hsucceeded⟩

theorem Sound.of_keepsPairs (h : s.Sound) (hpairs : s.KeepsPairs s')
    (hselected : s'.connected = true → ∃ p ∈ s'.pairs, p.target = s'.selected ∧ p.succeeded = true) : s'.Sound where
  unique := by
    rw [hpairs.targets]
    exact h.unique
  announced := by
    intro p hp
    have htarget : p.target ∈ s.pairs.map Pair.target := by
      rw [← hpairs.targets]
      exact List.mem_map_of_mem hp
    obtain ⟨q, hq, heq⟩ := List.mem_map.1 htarget
    obtain ⟨c, hc, hannounced⟩ := h.announced q hq
    refine ⟨c, ?_, heq.symm.trans hannounced⟩
    rw [hpairs.remoteCandidates]
    exact hc
  selectedPair := hselected

theorem Sound.selected_of_keepsPairs (h : s.Sound) (hpairs : s.KeepsPairs s') (hconnected : s'.connected = s.connected)
    (hselected : s'.selected = s.selected) :
    s'.connected = true → ∃ p ∈ s'.pairs, p.target = s'.selected ∧ p.succeeded = true := by
  intro hafter
  obtain ⟨p, hp, htarget, hsucceeded⟩ := h.selectedPair (hconnected.symm.trans hafter)
  obtain ⟨p', hp', htarget', hsucceeded'⟩ := hpairs.succeeded p hp hsucceeded
  exact ⟨p', hp', by rw [htarget', htarget, hselected], hsucceeded'⟩

/-! ### One call -/

theorem sound_addRemoteCandidate (h : s.Sound) (c : ParsedIceCandidate) : (s.addRemoteCandidate c).Sound := by
  have hfind : ∀ s' : IceAgent, s'.pairs = s.pairs → s'.findPair c.ip c.port = s.findPair c.ip c.port := by
    intro s' hpairs
    unfold findPair
    rw [hpairs]
  have hmore : ∀ p ∈ s.pairs, ∃ d ∈ s.remoteCandidates ++ [c], p.target = addressOf d := by
    intro p hp
    obtain ⟨d, hd, htarget⟩ := h.announced p hp
    exact ⟨d, List.mem_append_left _ hd, htarget⟩
  simp only [addRemoteCandidate]
  rw [hfind _ (by rfl)]
  split_ifs with hnew
  · have hfresh : ∀ p ∈ s.pairs, p.target ≠ addressOf c := by
      intro p hp htarget
      have hnone := List.findIdx?_eq_none_iff.1 (Option.isNone_iff_eq_none.1 hnew) p hp
      have hmatch : decide (p.target.ip = c.ip ∧ p.target.port = c.port) = true := by
        rw [htarget]
        exact decide_eq_true ⟨rfl, rfl⟩
      exact absurd (hmatch.symm.trans hnone) (by decide)
    refine ⟨?_, ?_, ?_⟩
    · simp only [List.map_append, List.map_cons, List.map_nil]
      refine List.nodup_append.2 ⟨h.unique, by simp, ?_⟩
      rintro t ht t' ht' rfl
      obtain ⟨p, hp, rfl⟩ := List.mem_map.1 ht
      exact hfresh p hp (List.mem_singleton.1 ht')
    · intro p hp
      rcases List.mem_append.1 hp with hold | hlast
      · exact hmore p hold
      · rw [List.mem_singleton.1 hlast]
        exact ⟨c, List.mem_append_right _ (List.mem_singleton.2 rfl), rfl⟩
    · intro hconnected
      obtain ⟨p, hp, hselected⟩ := h.selectedPair hconnected
      exact ⟨p, List.mem_append_left _ hp, hselected⟩
  · exact ⟨h.unique, hmore, h.selectedPair⟩

theorem Processed.sound (h : s.Sound) (hprocessed : s.Processed hmacSha1 srcIp srcPort bytes s' result response) :
    s'.Sound := by
  have hpairs := hprocessed.keepsPairs
  refine h.of_keepsPairs hpairs ?_
  cases hprocessed with
  | ignored | unknownRequest | request | response => exact h.selected_of_keepsPairs hpairs rfl rfl
  | nomination msg i hmsg htype hverify hpair | selection msg i hmsg htype hverify hpair =>
    intro _
    rw [select, markSucceeded_target, findPair_target hpair]
    exact succeeded_markSucceeded hpair

/-- **A call keeps the invariant.** -/
theorem sound_call (h : s.Sound) (c : AgentCall) : (s.call hmacSha1 c).Sound := by
  cases c with
  | addRemoteCandidate c => exact sound_addRemoteCandidate h c
  | getBindingRequestsToSend ids =>
    have hpairs : s.KeepsPairs (s.getBindingRequestsToSend hmacSha1 fun i => (ids i).toList).1 :=
      s.keepsPairs_getBindingRequestsToSend _
    exact h.of_keepsPairs hpairs (h.selected_of_keepsPairs hpairs rfl rfl)
  | processIncoming srcIp srcPort bytes => exact (s.processIncoming_processed hmacSha1 srcIp srcPort bytes).sound h

/-- **A selection is final.** -/
theorem call_of_connected (h : s.connected = true) (c : AgentCall) :
    (s.call hmacSha1 c).connected = true ∧ (s.call hmacSha1 c).selected = s.selected := by
  cases c with
  | addRemoteCandidate c =>
    obtain ⟨-, hconnected, hselected⟩ := s.addRemoteCandidate_selection c
    exact ⟨hconnected.trans h, hselected⟩
  | getBindingRequestsToSend ids => exact ⟨h, rfl⟩
  | processIncoming srcIp srcPort bytes =>
    rcases (s.processIncoming_processed hmacSha1 srcIp srcPort bytes).selectionStep with ⟨hc, hs⟩ | ⟨hfresh, -⟩
    · exact ⟨hc.trans h, hs⟩
    · rw [h] at hfresh
      cases hfresh

theorem call_remoteCandidates (s : IceAgent) (c : AgentCall) :
    (s.call hmacSha1 c).remoteCandidates = s.remoteCandidates ++ c.candidate.toList := by
  cases c with
  | addRemoteCandidate c =>
    simp only [call, addRemoteCandidate, AgentCall.candidate, Option.toList_some]
    split_ifs <;> rfl
  | getBindingRequestsToSend ids => simp [call, getBindingRequestsToSend, AgentCall.candidate]
  | processIncoming srcIp srcPort bytes =>
    rw [call, (s.processIncoming_processed hmacSha1 srcIp srcPort bytes).keepsPairs.remoteCandidates]
    simp [AgentCall.candidate]

/-- `ConnectivityEstablished` is the result of the call that connects the agent. -/
theorem Processed.established_iff (h : s.Processed hmacSha1 srcIp srcPort bytes s' result response) :
    result = .connectivityEstablished ↔ s.connected = false ∧ s'.connected = true := by
  have hnot : ∀ b : Bool, ¬ (b = false ∧ b = true) := by decide
  cases h with
  | ignored | unknownRequest | request => exact iff_of_false (by decide) (hnot _)
  | response =>
    refine iff_of_false ?_ (hnot _)
    split_ifs <;> decide
  | nomination msg i hmsg htype hverify hpair hasked hrole hfresh => exact iff_of_true rfl ⟨hfresh, rfl⟩
  | selection msg i hmsg htype hverify hpair hrole hfresh => exact iff_of_true rfl ⟨hfresh, rfl⟩

/-- The results that are `ConnectivityEstablished`, and the connection. -/
def CountsConnection (s : IceAgent) (results : List ProcessResult) : Prop :=
  results.count .connectivityEstablished = if s.connected then 1 else 0

theorem countsConnection_call {results : List ProcessResult} (h : s.CountsConnection results) (c : AgentCall) :
    (s.call hmacSha1 c).CountsConnection (results ++ (s.returned hmacSha1 c).toList) := by
  unfold CountsConnection at h ⊢
  rw [List.count_append, h]
  cases c with
  | addRemoteCandidate c => simp [call, returned, (s.addRemoteCandidate_selection c).2.1]
  | getBindingRequestsToSend ids => rfl
  | processIncoming srcIp srcPort bytes =>
    have hestablished := (s.processIncoming_processed hmacSha1 srcIp srcPort bytes).established_iff
    have hstays : s.connected = true →
        (s.call hmacSha1 (.processIncoming srcIp srcPort bytes)).connected = true ∧
          (s.call hmacSha1 (.processIncoming srcIp srcPort bytes)).selected = s.selected :=
      fun hbefore => call_of_connected hbefore _
    simp only [call, returned, Option.toList_some, List.count_singleton, beq_iff_eq, hestablished] at hstays ⊢
    by_cases hbefore : s.connected = true
    · simp [hbefore, (hstays hbefore).1]
    · by_cases hafter : (s.processIncoming hmacSha1 srcIp srcPort bytes).1.connected = true <;>
        simp [eq_false_of_ne_true hbefore, hafter]

/-- **A datagram that is not verified does nothing.** -/
theorem processIncoming_unverified (h : s.Unverified hmacSha1 bytes) :
    s.processIncoming hmacSha1 srcIp srcPort bytes = (s, .other, []) := by
  unfold processIncoming
  rcases h with hnone | ⟨msg, hmsg, ⟨hrequest, hverify⟩ | ⟨hresponse, hverify⟩⟩
  · rw [hnone]
  · rw [hmsg]
    simp only [hrequest, if_true, hverify, Bool.false_eq_true, if_false]
  · have hne : kStunBindingResponse ≠ kStunBindingRequest := by decide
    rw [hmsg]
    simp only [hresponse, if_neg hne, if_true, hverify, Bool.false_eq_true, if_false]

/-! ### Runs -/

theorem run_remoteCandidates (s : IceAgent) (calls : List AgentCall) :
    (run (call hmacSha1) s calls).remoteCandidates = s.remoteCandidates ++ calls.filterMap AgentCall.candidate := by
  induction calls generalizing s with
  | nil => simp
  | cons c calls ih =>
    rw [run_cons, ih, call_remoteCandidates, List.append_assoc]
    congr 1
    cases hcandidate : c.candidate <;> simp [hcandidate]

variable (hmacSha1) in
/-- **What holds in every run**: the pairs are unique by address; a selected pair has been added and has succeeded, and
stays selected; at most one call returns `ConnectivityEstablished`; and a datagram that is not verified does nothing. -/
theorem run_sound (role : IceAgentRole) (localUfrag localPwd remoteUfrag remotePwd : Bytes) (tieBreak : UInt64)
    (calls : List AgentCall) :
    let start := create role localUfrag localPwd remoteUfrag remotePwd tieBreak
    let s := run (call hmacSha1) start calls
    (s.pairs.map Pair.target).Nodup ∧
      (s.connected = true →
        (∃ p ∈ s.pairs, p.target = s.selected ∧ p.succeeded = true) ∧
        (∃ c, .addRemoteCandidate c ∈ calls ∧ s.selected = addressOf c) ∧
        ∀ later, (run (call hmacSha1) s later).connected = true ∧ (run (call hmacSha1) s later).selected = s.selected) ∧
      (history (call hmacSha1) (returned hmacSha1) start calls).count .connectivityEstablished ≤ 1 ∧
      ∀ srcIp srcPort bytes, s.Unverified hmacSha1 bytes →
        s.processIncoming hmacSha1 srcIp srcPort bytes = (s, .other, []) := by
  intro start s
  have hsound : s.Sound :=
    invariant_run_of_step (I := Sound) (fun _ c h => sound_call h c) calls (sound_create ..)
  refine ⟨hsound.unique, ?_, ?_, fun _ _ _ => processIncoming_unverified⟩
  · intro hconnected
    obtain ⟨p, hp, htarget, hsucceeded⟩ := hsound.selectedPair hconnected
    refine ⟨⟨p, hp, htarget, hsucceeded⟩, ?_, ?_⟩
    · obtain ⟨c, hc, hannounced⟩ := hsound.announced p hp
      rw [run_remoteCandidates] at hc
      obtain ⟨ev, hev, hcandidate⟩ := List.mem_filterMap.1 hc
      refine ⟨c, ?_, htarget.symm.trans hannounced⟩
      cases ev <;> cases hcandidate
      exact hev
    · intro later
      have hstep : ∀ (s' : IceAgent) (c : AgentCall), s'.connected = true ∧ s'.selected = s.selected →
          (s'.call hmacSha1 c).connected = true ∧ (s'.call hmacSha1 c).selected = s.selected := by
        rintro s' c ⟨hc, hs⟩
        have hstays : (s'.call hmacSha1 c).connected = true ∧ (s'.call hmacSha1 c).selected = s'.selected :=
          call_of_connected hc c
        exact ⟨hstays.1, hstays.2.trans hs⟩
      exact invariant_run_of_step hstep later ⟨hconnected, rfl⟩
  · have hstep : ∀ (s' : IceAgent) results (c : AgentCall), s'.CountsConnection results → True →
        (s'.call hmacSha1 c).CountsConnection (results ++ (s'.returned hmacSha1 c).toList) :=
      fun _ _ c h _ => countsConnection_call h c
    have hfree : Guarded (call hmacSha1) (fun _ _ => True) start calls := guarded_iff.2 fun _ _ _ _ => trivial
    have hcount := invariant_history hstep (show start.CountsConnection [] from rfl) hfree
    rw [List.nil_append] at hcount
    rw [hcount]
    split_ifs <;> decide

end IceAgent

end VianiumVoip.Ice
