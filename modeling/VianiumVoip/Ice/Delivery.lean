import VianiumVoip.Ice.Interoperability

/-!
# When two agents connect

Two agents with crossed credentials and a network that loses, duplicates and reorders what they send, as in `Nomination`.
Everything that they send verifies at the other side.  So the controlling side is connected once an answer has arrived
from one of its pairs, and the controlled side once a nomination has arrived from one of its pairs, and not before
(`connected_iff_arrived`).

And neither is ever stuck: in every state in which both know the ends of a path, some further events connect both
(`can_connect`), though a pair is nominated only once.
-/

namespace VianiumVoip.Ice

open VianiumVoip.Lib VianiumVoip.Lib.Run StunMessageCodec Endpoints

/-! ### What a datagram is -/

/-- A binding response. -/
def isAnswer (bytes : Bytes) : Bool := (decode bytes).any fun msg => msg.messageType = kStunBindingResponse

/-- A binding request with USE-CANDIDATE. -/
def isNomination (bytes : Bytes) : Bool :=
  (decode bytes).any fun msg => msg.messageType = kStunBindingRequest ∧ msg.useCandidate

theorem isNomination_iff {bytes : Bytes} : isNomination bytes = true ↔ Nominates bytes := by
  rw [isNomination, Option.any_eq_true]
  simp only [decide_eq_true_eq]
  rfl

theorem isAnswer_iff {bytes : Bytes} :
    isAnswer bytes = true ↔ ∃ msg, decode bytes = some msg ∧ msg.messageType = kStunBindingResponse := by
  rw [isAnswer, Option.any_eq_true]
  simp only [decide_eq_true_eq]

/-- A request that verifies under one password, or a response that verifies under the other. -/
def Trusted (hmacSha1 : Bytes → Bytes → Bytes) (requestPwd responsePwd bytes : Bytes) : Prop :=
  ∃ msg, decode bytes = some msg ∧
    (msg.messageType = kStunBindingRequest ∧ verifyMessageIntegrity hmacSha1 bytes requestPwd = true ∨
      msg.messageType = kStunBindingResponse ∧ verifyMessageIntegrity hmacSha1 bytes responsePwd = true)

section

variable {hmacSha1 : Bytes → Bytes → Vector UInt8 20} {s s' : IceAgent} {srcIp : String} {srcPort : ℤ}
  {bytes response : Bytes} {result : ProcessResult}

/-- What an agent asks verifies under the password of its peer. -/
theorem request_buildBindingRequest (hpwd : s.remotePwd ≠ []) {useCandidate : Bool} {id : Bytes} (hid : id.length = 12)
    (hfit : (s.buildBindingRequest (mac hmacSha1) useCandidate id).length < 2 ^ 16) :
    ∃ msg, decode (s.buildBindingRequest (mac hmacSha1) useCandidate id) = some msg ∧
      msg.messageType = kStunBindingRequest ∧
      verifyMessageIntegrity (mac hmacSha1) (s.buildBindingRequest (mac hmacSha1) useCandidate id) s.remotePwd = true := by
  obtain ⟨read, hread, htype, -⟩ := of_decode_encode hid hfit
  have harea : FitsLength (s.buildBindingRequest (mac hmacSha1) useCandidate id) := by
    unfold FitsLength
    omega
  exact ⟨read, hread, htype, verifyMessageIntegrity_encode (length_mac hmacSha1) hid hpwd
    (areaLength_of_fitsLength hid harea)⟩

/-- What an agent answers is trusted under its own password. -/
theorem trusted_buildBindingResponse {req : StunMessage} (hid : req.transactionId.length = 12) (hpwd : s.localPwd ≠ [])
    (requestPwd : Bytes) :
    Trusted (mac hmacSha1) requestPwd s.localPwd (s.buildBindingResponse (mac hmacSha1) req srcIp srcPort) := by
  obtain ⟨read, hread, htype, -⟩ : ∃ read,
      decode (s.buildBindingResponse (mac hmacSha1) req srcIp srcPort) = some read ∧ _ := decode_buildBindingResponse hid
  exact ⟨read, hread, .inr ⟨htype, verify_buildBindingResponse hid hpwd⟩⟩

theorem trusted_response (h : s.Processed (mac hmacSha1) srcIp srcPort bytes s' result response) (hpwd : s.localPwd ≠ [])
    (requestPwd : Bytes) (hresponse : response ≠ []) : Trusted (mac hmacSha1) requestPwd s.localPwd response := by
  cases h with
  | ignored | response | selection => exact absurd rfl hresponse
  | unknownRequest msg hmsg | request msg i hmsg | nomination msg i hmsg =>
    exact trusted_buildBindingResponse (length_transactionId_of_decode hmsg) hpwd requestPwd

end

namespace IceAgent

/-- **What connects an agent**: at the controlling side an answer from one of its pairs, at the controlled side a
nomination. -/
def isConnectedBy (s : IceAgent) (src : IceCheckTarget) (bytes : Bytes) : Bool :=
  (s.findPair src.ip src.port).isSome && (if s.role = .controlling then isAnswer bytes else isNomination bytes)

/-- The role and the credentials. -/
def identity (s : IceAgent) : IceAgentRole × Bytes × Bytes × Bytes × Bytes :=
  (s.role, s.localUfrag, s.localPwd, s.remoteUfrag, s.remotePwd)

variable {hmacSha1 : Bytes → Bytes → Bytes} {s s' : IceAgent} {srcIp : String} {srcPort : ℤ} {bytes response : Bytes}
  {result : ProcessResult}

theorem Processed.identity (h : s.Processed hmacSha1 srcIp srcPort bytes s' result response) :
    s'.identity = s.identity := by
  cases h <;> rfl

theorem identity_call (hmacSha1 : Bytes → Bytes → Bytes) (s : IceAgent) (c : AgentCall) :
    (s.call hmacSha1 c).identity = s.identity := by
  cases c with
  | addRemoteCandidate c =>
    simp only [call, addRemoteCandidate]
    split_ifs <;> rfl
  | getBindingRequestsToSend ids => rfl
  | processIncoming srcIp srcPort bytes => exact (s.processIncoming_processed hmacSha1 srcIp srcPort bytes).identity

/-- **A trusted datagram connects the agent that it should.** -/
theorem connected_processIncoming (src : IceCheckTarget) (h : Trusted hmacSha1 s.localPwd s.remotePwd bytes) :
    (s.processIncoming hmacSha1 src.ip src.port bytes).1.connected = (s.connected || s.isConnectedBy src bytes) := by
  obtain ⟨msg, hmsg, hkind⟩ := h
  have hanswer : isAnswer bytes = decide (msg.messageType = kStunBindingResponse) := by rw [isAnswer, hmsg, Option.any_some]
  have hnomination : isNomination bytes = decide (msg.messageType = kStunBindingRequest ∧ msg.useCandidate = true) := by
    rw [isNomination, hmsg, Option.any_some]
  unfold processIncoming isConnectedBy
  rw [hmsg, hanswer, hnomination]
  dsimp only
  rcases hkind with ⟨htype, hverify⟩ | ⟨htype, hverify⟩
  · rw [if_pos htype, if_pos hverify]
    cases hpair : s.findPair src.ip src.port with
    | none => simp
    | some i =>
      have hother : kStunBindingRequest ≠ kStunBindingResponse := by decide
      rcases hrole : s.role <;> cases hconnected : s.connected <;> cases hasked : msg.useCandidate <;>
        simp [hrole, hconnected, htype, hother, markSucceeded, select]
  · have hother : kStunBindingResponse ≠ kStunBindingRequest := by decide
    rw [htype, if_neg hother, if_pos rfl, if_pos hverify]
    cases hpair : s.findPair src.ip src.port with
    | none => simp
    | some i =>
      rcases hrole : s.role <;> cases hconnected : s.connected <;>
        simp [hrole, hconnected, hother, markSucceeded, select]

end IceAgent

/-! ### Everything on its way is trusted -/

/-- The credentials that each side has, and that what is on its way can be trusted. -/
structure Genuine (hmacSha1 : Bytes → Bytes → Bytes) (a b : Credentials) (e : Endpoints) : Prop where
  controlling : e.controlling.identity = (.controlling, a.ufrag, a.pwd, b.ufrag, b.pwd)
  controlled : e.controlled.identity = (.controlled, b.ufrag, b.pwd, a.ufrag, a.pwd)
  toControlled : ∀ d ∈ e.toControlled, Trusted hmacSha1 b.pwd a.pwd d.2
  toControlling : ∀ d ∈ e.toControlling, Trusted hmacSha1 a.pwd b.pwd d.2

section

variable {hmacSha1 : Bytes → Bytes → Vector UInt8 20} {path : IceCheckTarget → IceCheckTarget → Bool}
  {a b : Credentials} {e : Endpoints}

theorem pwd_of_identity {s : IceAgent} {role : IceAgentRole} {localUfrag localPwd remoteUfrag remotePwd : Bytes}
    (h : s.identity = (role, localUfrag, localPwd, remoteUfrag, remotePwd)) :
    s.role = role ∧ s.localPwd = localPwd ∧ s.remotePwd = remotePwd := by
  simp only [IceAgent.identity, Prod.mk.injEq] at h
  obtain ⟨hrole, -, hlocal, -, hremote⟩ := h
  exact ⟨hrole, hlocal, hremote⟩

theorem trusted_checks {s : IceAgent} (hpwd : s.remotePwd ≠ []) {ids : ℕ → Vector UInt8 12} (responsePwd : Bytes) :
    ∀ d ∈ carried (s.getBindingRequestsToSend (mac hmacSha1) fun i => (ids i).toList).2,
      Trusted (mac hmacSha1) s.remotePwd responsePwd d.2 := by
  intro d hd
  obtain ⟨hmem, hfit⟩ := mem_carried hd
  obtain ⟨i, p, -, rfl⟩ := IceAgent.mem_getBindingRequestsToSend.1 hmem
  obtain ⟨msg, hmsg, htype, hverify⟩ := request_buildBindingRequest hpwd (Vector.length_toList ..) hfit
  exact ⟨msg, hmsg, .inl ⟨htype, hverify⟩⟩

theorem trusted_answer {s s' : IceAgent} {srcIp : String} {srcPort : ℤ} {bytes response : Bytes} {result : ProcessResult}
    (h : s.Processed (mac hmacSha1) srcIp srcPort bytes s' result response) (hpwd : s.localPwd ≠ [])
    (requestPwd : Bytes) (src : IceCheckTarget) :
    ∀ d ∈ carried (answer src response), Trusted (mac hmacSha1) requestPwd s.localPwd d.2 := by
  intro d hd
  have hne : response ≠ [] := by
    rintro rfl
    cases (mem_carried hd).1
  rw [mem_answer hd]
  exact trusted_response h hpwd requestPwd hne

/-- **What is sent can be trusted.** -/
theorem genuine_step (h : Genuine (mac hmacSha1) a b e) (ha : a.pwd ≠ []) (hb : b.pwd ≠ []) (ev : Event) :
    Genuine (mac hmacSha1) a b (step hmacSha1 path e ev) := by
  obtain ⟨-, hlocal, hremote⟩ := pwd_of_identity h.controlling
  obtain ⟨-, hlocal', hremote'⟩ := pwd_of_identity h.controlled
  have hmore : ∀ {requestPwd responsePwd : Bytes} {old new : List Datagram},
      (∀ d ∈ old, Trusted (mac hmacSha1) requestPwd responsePwd d.2) →
      (∀ d ∈ new, Trusted (mac hmacSha1) requestPwd responsePwd d.2) →
      ∀ d ∈ old ++ new, Trusted (mac hmacSha1) requestPwd responsePwd d.2 := by
    intro requestPwd responsePwd old new hold hnew d hd
    exact (List.mem_append.1 hd).elim (hold d) (hnew d)
  cases ev with
  | candidateForControlling c =>
    exact ⟨(IceAgent.identity_call (mac hmacSha1) e.controlling (.addRemoteCandidate c)).trans h.controlling,
      h.controlled, h.toControlled, h.toControlling⟩
  | candidateForControlled c =>
    exact ⟨h.controlling,
      (IceAgent.identity_call (mac hmacSha1) e.controlled (.addRemoteCandidate c)).trans h.controlled,
      h.toControlled, h.toControlling⟩
  | controllingChecks ids =>
    have hnew : ∀ d ∈ carried (e.controlling.getBindingRequestsToSend (mac hmacSha1) fun i => (ids i).toList).2,
        Trusted (mac hmacSha1) e.controlling.remotePwd a.pwd d.2 := trusted_checks (by rwa [hremote]) a.pwd
    rw [hremote] at hnew
    exact ⟨h.controlling, h.controlled, hmore h.toControlled hnew, h.toControlling⟩
  | controlledChecks ids =>
    have hnew : ∀ d ∈ carried (e.controlled.getBindingRequestsToSend (mac hmacSha1) fun i => (ids i).toList).2,
        Trusted (mac hmacSha1) e.controlled.remotePwd b.pwd d.2 := trusted_checks (by rwa [hremote']) b.pwd
    rw [hremote'] at hnew
    exact ⟨h.controlling, h.controlled, h.toControlled, hmore h.toControlling hnew⟩
  | arrivesAtControlled k src =>
    simp only [step]
    split
    · exact h
    · next target bytes _ =>
      split_ifs
      · have hprocessed := e.controlled.processIncoming_processed (mac hmacSha1) src.ip src.port bytes
        have hnew := trusted_answer hprocessed (by rwa [hlocal']) a.pwd src
        rw [hlocal'] at hnew
        exact ⟨h.controlling, hprocessed.identity.trans h.controlled, h.toControlled, hmore h.toControlling hnew⟩
      · exact h
  | arrivesAtControlling k src =>
    simp only [step]
    split
    · exact h
    · next target bytes _ =>
      split_ifs
      · have hprocessed := e.controlling.processIncoming_processed (mac hmacSha1) src.ip src.port bytes
        have hnew := trusted_answer hprocessed (by rwa [hlocal]) b.pwd src
        rw [hlocal] at hnew
        exact ⟨hprocessed.identity.trans h.controlling, h.controlled, hmore h.toControlled hnew, h.toControlling⟩
      · exact h

theorem genuine_start (a b : Credentials) (tieBreakA tieBreakB : UInt64) :
    Genuine (mac hmacSha1) a b (start a b tieBreakA tieBreakB) := by
  refine ⟨rfl, rfl, fun d hd => ?_, fun d hd => ?_⟩
  · cases hd
  · cases hd

/-! ### Connected, and why -/

/-- What is seen of an event: something arrives that connects a side. -/
inductive Arrived
  | answer
  | nomination
  deriving DecidableEq, Repr

/-- The datagram of an event that arrives where the path leads. -/
def arrived (path : IceCheckTarget → IceCheckTarget → Bool) (e : Endpoints) : Event → Option Arrived
  | .arrivesAtControlled k src =>
    match e.toControlled[k]? with
    | none => none
    | some (target, bytes) =>
      if path target src && e.controlled.isConnectedBy src bytes then some .nomination else none
  | .arrivesAtControlling k src =>
    match e.toControlling[k]? with
    | none => none
    | some (target, bytes) =>
      if path src target && e.controlling.isConnectedBy src bytes then some .answer else none
  | _ => none

/-- Each side is connected exactly when what connects it has arrived. -/
structure ConnectedBy (e : Endpoints) (seen : List Arrived) : Prop where
  controlling : e.controlling.connected = true ↔ .answer ∈ seen
  controlled : e.controlled.connected = true ↔ .nomination ∈ seen

theorem ConnectedBy.of_same {e' : Endpoints} {seen : List Arrived} (h : ConnectedBy e seen)
    (hcontrolling : e'.controlling.connected = e.controlling.connected)
    (hcontrolled : e'.controlled.connected = e.controlled.connected) : ConnectedBy e' seen := by
  refine ⟨?_, ?_⟩
  · rw [hcontrolling]
    exact h.controlling
  · rw [hcontrolled]
    exact h.controlled

/-- **A step connects a side exactly when the right datagram arrives.** -/
theorem connectedBy_step {seen : List Arrived} (h : ConnectedBy e seen) (hgenuine : Genuine (mac hmacSha1) a b e)
    (ev : Event) : ConnectedBy (step hmacSha1 path e ev) (seen ++ (arrived path e ev).toList) := by
  obtain ⟨-, hlocal, hremote⟩ := pwd_of_identity hgenuine.controlling
  obtain ⟨-, hlocal', hremote'⟩ := pwd_of_identity hgenuine.controlled
  cases ev with
  | candidateForControlling c =>
    simp only [arrived, Option.toList_none, List.append_nil]
    exact h.of_same (e.controlling.addRemoteCandidate_selection c).2.1 rfl
  | candidateForControlled c =>
    simp only [arrived, Option.toList_none, List.append_nil]
    exact h.of_same rfl (e.controlled.addRemoteCandidate_selection c).2.1
  | controllingChecks ids | controlledChecks ids =>
    simp only [arrived, Option.toList_none, List.append_nil]
    exact h.of_same rfl rfl
  | arrivesAtControlled k src =>
    simp only [step, arrived]
    cases hsent : e.toControlled[k]? with
    | none => simpa using h
    | some d =>
      obtain ⟨target, bytes⟩ := d
      have htrusted := hgenuine.toControlled _ (List.mem_of_getElem? hsent)
      rw [← hlocal', ← hremote'] at htrusted
      have hconnected := IceAgent.connected_processIncoming src htrusted
      by_cases hpath : path target src = true
      · by_cases hconnects : e.controlled.isConnectedBy src bytes = true
        · simp only [hpath, hconnects, Bool.or_true] at hconnected ⊢
          refine ⟨?_, ?_⟩
          · simpa using h.controlling
          · simp [hconnected]
        · simp only [hpath, hconnects, Bool.or_false] at hconnected ⊢
          have hsame : ConnectedBy
              { e with controlled := (e.controlled.processIncoming (mac hmacSha1) src.ip src.port bytes).1 } seen :=
            h.of_same rfl hconnected
          exact ⟨by simpa using hsame.controlling, by simpa using hsame.controlled⟩
      · simpa [hpath] using h
  | arrivesAtControlling k src =>
    simp only [step, arrived]
    cases hsent : e.toControlling[k]? with
    | none => simpa using h
    | some d =>
      obtain ⟨target, bytes⟩ := d
      have htrusted := hgenuine.toControlling _ (List.mem_of_getElem? hsent)
      rw [← hlocal, ← hremote] at htrusted
      have hconnected := IceAgent.connected_processIncoming src htrusted
      by_cases hpath : path src target = true
      · by_cases hconnects : e.controlling.isConnectedBy src bytes = true
        · simp only [hpath, hconnects, Bool.or_true] at hconnected ⊢
          refine ⟨?_, ?_⟩
          · simp [hconnected]
          · simpa using h.controlled
        · simp only [hpath, hconnects, Bool.or_false] at hconnected ⊢
          have hsame : ConnectedBy
              { e with controlling := (e.controlling.processIncoming (mac hmacSha1) src.ip src.port bytes).1 } seen :=
            h.of_same hconnected rfl
          exact ⟨by simpa using hsame.controlling, by simpa using hsame.controlled⟩
      · simpa [hpath] using h

/-- **A side is connected when the right datagram has arrived, and not before.**  In every run the controlling side is
connected exactly when an answer has arrived from one of its pairs, and the controlled side exactly when a nomination has
arrived from one of its pairs. -/
theorem connected_iff_arrived (hmacSha1 : Bytes → Bytes → Vector UInt8 20)
    (path : IceCheckTarget → IceCheckTarget → Bool) (a b : Credentials) (tieBreakA tieBreakB : UInt64)
    (events : List Event) (ha : a.pwd ≠ []) (hb : b.pwd ≠ []) :
    ConnectedBy (run (step hmacSha1 path) (start a b tieBreakA tieBreakB) events)
      (history (step hmacSha1 path) (arrived path) (start a b tieBreakA tieBreakB) events) := by
  have hstep : ∀ e seen ev, Genuine (mac hmacSha1) a b e ∧ ConnectedBy e seen → True →
      Genuine (mac hmacSha1) a b (step hmacSha1 path e ev) ∧
        ConnectedBy (step hmacSha1 path e ev) (seen ++ (arrived path e ev).toList) :=
    fun e seen ev h _ => ⟨genuine_step h.1 ha hb ev, connectedBy_step h.2 h.1 ev⟩
  have hstart : ConnectedBy (start a b tieBreakA tieBreakB) [] := by
    refine ⟨?_, ?_⟩ <;> simp [start]
  have hall : Guarded (step hmacSha1 path) (fun _ _ => True) (start a b tieBreakA tieBreakB) events :=
    guarded_of_forall_mem fun _ _ _ => trivial
  have hrun := invariant_history hstep ⟨genuine_start a b tieBreakA tieBreakB, hstart⟩ hall
  exact hrun.2

/-! ### Never stuck -/

/-- The agent has a pair with this address. -/
def HasPair (s : IceAgent) (target : IceCheckTarget) : Prop := ∃ p ∈ s.pairs, p.target = target

theorem isSome_findPair {s : IceAgent} {target : IceCheckTarget} (h : HasPair s target) :
    ∃ i, s.findPair target.ip target.port = some i := by
  obtain ⟨p, hp, rfl⟩ := h
  rw [← Option.isSome_iff_exists, IceAgent.findPair, List.findIdx?_isSome, List.any_eq_true]
  exact ⟨p, hp, by simp⟩

theorem hasPair_of_keepsPairs {s s' : IceAgent} {target : IceCheckTarget} (h : HasPair s target)
    (hkeeps : s.KeepsPairs s') : HasPair s' target := by
  obtain ⟨p, hp, rfl⟩ := h
  have hmem : p.target ∈ s'.pairs.map Pair.target := by
    rw [hkeeps.targets]
    exact List.mem_map_of_mem hp
  exact List.mem_map.1 hmem

theorem hasPair_step (hmacSha1 : Bytes → Bytes → Vector UInt8 20) (path : IceCheckTarget → IceCheckTarget → Bool)
    {t u : IceCheckTarget} (hfirst : HasPair e.controlling t) (hsecond : HasPair e.controlled u) (ev : Event) :
    HasPair (step hmacSha1 path e ev).controlling t ∧ HasPair (step hmacSha1 path e ev).controlled u := by
  have hadded : ∀ {s : IceAgent} {target : IceCheckTarget} (c : ParsedIceCandidate), HasPair s target →
      HasPair (s.addRemoteCandidate c) target := by
    intro s target c h
    obtain ⟨p, hp, htarget⟩ := h
    simp only [IceAgent.addRemoteCandidate]
    split_ifs
    · exact ⟨p, List.mem_append_left _ hp, htarget⟩
    · exact ⟨p, hp, htarget⟩
  cases ev with
  | candidateForControlling c => exact ⟨hadded c hfirst, hsecond⟩
  | candidateForControlled c => exact ⟨hfirst, hadded c hsecond⟩
  | controllingChecks ids =>
    have hkeeps : e.controlling.KeepsPairs
        (e.controlling.getBindingRequestsToSend (mac hmacSha1) fun i => (ids i).toList).1 :=
      e.controlling.keepsPairs_getBindingRequestsToSend _
    exact ⟨hasPair_of_keepsPairs hfirst hkeeps, hsecond⟩
  | controlledChecks ids =>
    have hkeeps : e.controlled.KeepsPairs
        (e.controlled.getBindingRequestsToSend (mac hmacSha1) fun i => (ids i).toList).1 :=
      e.controlled.keepsPairs_getBindingRequestsToSend _
    exact ⟨hfirst, hasPair_of_keepsPairs hsecond hkeeps⟩
  | arrivesAtControlled k src =>
    simp only [step]
    split
    · exact ⟨hfirst, hsecond⟩
    · next target bytes _ =>
      have hkeeps := (e.controlled.processIncoming_processed (mac hmacSha1) src.ip src.port bytes).keepsPairs
      split_ifs
      · exact ⟨hfirst, hasPair_of_keepsPairs hsecond hkeeps⟩
      · exact ⟨hfirst, hsecond⟩
  | arrivesAtControlling k src =>
    simp only [step]
    split
    · exact ⟨hfirst, hsecond⟩
    · next target bytes _ =>
      have hkeeps := (e.controlling.processIncoming_processed (mac hmacSha1) src.ip src.port bytes).keepsPairs
      split_ifs
      · exact ⟨hasPair_of_keepsPairs hfirst hkeeps, hsecond⟩
      · exact ⟨hfirst, hsecond⟩

/-- A pair that has been nominated has a nomination on its way. -/
def NominationsSent (e : Endpoints) : Prop :=
  ∀ p ∈ e.controlling.pairs, p.useCandidateSent = true → ∃ d ∈ e.toControlled, d.1 = p.target ∧ Nominates d.2

/-- The user fragments are short enough for a datagram. -/
structure ShortUfrags (a b : Credentials) : Prop where
  first : a.ufrag.length ≤ 256
  second : b.ufrag.length ≤ 256

theorem mem_controllingChecks (path : IceCheckTarget → IceCheckTarget → Bool) (h : Genuine (mac hmacSha1) a b e)
    (hshort : ShortUfrags a b) {p : Pair} (hp : p ∈ e.controlling.pairs) (ids : ℕ → Vector UInt8 12) :
    ∃ bytes, (p.target, bytes) ∈ (step hmacSha1 path e (.controllingChecks ids)).toControlled ∧
      bytes.length < 2 ^ 16 ∧ ∃ id : Bytes, id.length = 12 ∧
        bytes = e.controlling.buildBindingRequest (mac hmacSha1) (e.controlling.nominates p) id := by
  obtain ⟨i, hi⟩ := List.mem_iff_getElem?.1 hp
  have hid : (ids i).toList.length = 12 := Vector.length_toList ..
  have hlength : (e.controlling.buildBindingRequest (mac hmacSha1) (e.controlling.nominates p) (ids i).toList).length
      ≤ e.controlling.remoteUfrag.length + e.controlling.localUfrag.length + 108 :=
    IceAgent.length_buildBindingRequest_le hid
  have hidentity := h.controlling
  simp only [IceAgent.identity, Prod.mk.injEq] at hidentity
  rw [hidentity.2.1, hidentity.2.2.2.1] at hlength
  have hfirst := hshort.first
  have hsecond := hshort.second
  refine ⟨_, List.mem_append_right _ (List.mem_filter.2 ⟨?_, ?_⟩), ?_, (ids i).toList, hid, rfl⟩
  · exact IceAgent.mem_getBindingRequestsToSend.2 ⟨i, p, hi, rfl⟩
  · have hmax : (e.controlling.buildBindingRequest (mac hmacSha1) (e.controlling.nominates p) (ids i).toList).length
        ≤ 65507 := by omega
    exact decide_eq_true hmax
  · omega

/-- What a datagram leaves of the pairs: an address, and whether it has been nominated. -/
theorem pair_of_processed {s s' : IceAgent} {srcIp : String} {srcPort : ℤ} {bytes response : Bytes}
    {result : ProcessResult} (h : s.Processed (mac hmacSha1) srcIp srcPort bytes s' result response) :
    ∀ p' ∈ s'.pairs, ∃ p ∈ s.pairs, p.target = p'.target ∧ p.useCandidateSent = p'.useCandidateSent := by
  have hmark : ∀ i, ∀ p' ∈ (s.markSucceeded i).pairs,
      ∃ p ∈ s.pairs, p.target = p'.target ∧ p.useCandidateSent = p'.useCandidateSent := by
    intro i p' hp'
    obtain ⟨j, hj, rfl⟩ := List.getElem_of_mem hp'
    have hlt : j < s.pairs.length := by simpa [IceAgent.markSucceeded] using hj
    refine ⟨s.pairs[j], List.getElem_mem hlt, ?_⟩
    simp only [IceAgent.markSucceeded, List.getElem_modify]
    split_ifs <;> exact ⟨rfl, rfl⟩
  cases h with
  | ignored | unknownRequest => exact fun p' hp' => ⟨p', hp', rfl, rfl⟩
  | request msg i | response msg i | nomination msg i | selection msg i => exact hmark i

theorem NominationsSent.of_more {e' : Endpoints} (h : NominationsSent e)
    (hpairs : ∀ p' ∈ e'.controlling.pairs, p'.useCandidateSent = true →
      ∃ p ∈ e.controlling.pairs, p.target = p'.target ∧ p.useCandidateSent = true)
    (hmore : e.toControlled ⊆ e'.toControlled) : NominationsSent e' := by
  intro p' hp' hsent
  obtain ⟨p, hp, htarget, hsent⟩ := hpairs p' hp' hsent
  obtain ⟨d, hd, hd', hnominates⟩ := h p hp hsent
  exact ⟨d, hmore hd, hd'.trans htarget, hnominates⟩

theorem nominationsSent_step (path : IceCheckTarget → IceCheckTarget → Bool) (h : NominationsSent e)
    (hgenuine : Genuine (mac hmacSha1) a b e) (hshort : ShortUfrags a b) (ev : Event) :
    NominationsSent (step hmacSha1 path e ev) := by
  have hsame : ∀ e' : Endpoints, e'.controlling = e.controlling → e.toControlled ⊆ e'.toControlled →
      NominationsSent e' := fun e' hcontrolling hmore =>
    h.of_more (fun p' hp' hsent => ⟨p', by rwa [← hcontrolling], rfl, hsent⟩) hmore
  cases ev with
  | candidateForControlling c =>
    refine h.of_more (fun p' hp' hsent => ?_) (List.Subset.refl _)
    simp only [step, IceAgent.addRemoteCandidate] at hp'
    split_ifs at hp'
    · rcases List.mem_append.1 hp' with hold | hnew
      · exact ⟨p', hold, rfl, hsent⟩
      · rw [List.mem_singleton.1 hnew] at hsent
        cases hsent
    · exact ⟨p', hp', rfl, hsent⟩
  | candidateForControlled c => exact hsame _ rfl (List.Subset.refl _)
  | controlledChecks ids => exact hsame _ rfl (List.Subset.refl _)
  | controllingChecks ids =>
    intro p' hp' hsent
    obtain ⟨p, hp, rfl⟩ := List.mem_map.1 hp'
    cases hbefore : p.useCandidateSent with
    | true =>
      obtain ⟨d, hd, htarget, hnominates⟩ := h p hp hbefore
      exact ⟨d, List.mem_append_left _ hd, htarget, hnominates⟩
    | false =>
      have hnow : e.controlling.nominates p = true := by simpa [hbefore] using hsent
      obtain ⟨bytes, hmem, hfit, id, hid, rfl⟩ := mem_controllingChecks path hgenuine hshort hp ids
      exact ⟨_, hmem, rfl, (IceAgent.nominates_buildBindingRequest hid hfit).2 hnow⟩
  | arrivesAtControlled k src =>
    simp only [step]
    split
    · exact h
    · split_ifs
      · exact hsame _ rfl (List.Subset.refl _)
      · exact h
  | arrivesAtControlling k src =>
    simp only [step]
    split
    · exact h
    · next target bytes _ =>
      split_ifs
      · have hprocessed := e.controlling.processIncoming_processed (mac hmacSha1) src.ip src.port bytes
        refine h.of_more (fun p' hp' hsent => ?_) (List.subset_append_left _ _)
        obtain ⟨p, hp, htarget, hsame'⟩ := pair_of_processed hprocessed p' hp'
        exact ⟨p, hp, htarget, hsame'.trans hsent⟩
      · exact h

/-! The five events that connect two sides: a check, its arrival, the arrival of the answer, another check, and the arrival
of the nomination. -/

theorem answered_of_request (h : Genuine (mac hmacSha1) a b e) {t u : IceCheckTarget} (hpath : path t u = true)
    {bytes : Bytes} {msg : StunMessage} (hmem : (t, bytes) ∈ e.toControlled) (hmsg : decode bytes = some msg)
    (htype : msg.messageType = kStunBindingRequest) (hverify : verifyMessageIntegrity (mac hmacSha1) bytes b.pwd = true) :
    ∃ k response, (u, response) ∈ (step hmacSha1 path e (.arrivesAtControlled k u)).toControlling ∧
      isAnswer response = true := by
  obtain ⟨k, hk⟩ := List.mem_iff_getElem?.1 hmem
  obtain ⟨-, hlocal, -⟩ := pwd_of_identity h.controlled
  rw [← hlocal] at hverify
  have hid := length_transactionId_of_decode hmsg
  obtain ⟨-, hresponse⟩ : _ ∧ (e.controlled.processIncoming (mac hmacSha1) u.ip u.port bytes).2.2 = _ :=
    processIncoming_request hmsg htype hverify
  set response := e.controlled.buildBindingResponse (mac hmacSha1) msg u.ip u.port with hbuilt
  obtain ⟨read, hread, hanswer, -⟩ : ∃ read,
      decode (e.controlled.buildBindingResponse (mac hmacSha1) msg u.ip u.port) = some read ∧ _ :=
    decode_buildBindingResponse hid
  have hne : response ≠ [] := by
    intro hnil
    rw [← hbuilt, hnil] at hread
    cases hread
  have hlength : response.length ≤ 65507 := by
    have hle : (encode (mac hmacSha1) (bindingResponse msg u.ip u.port) e.controlled.localPwd).length
        ≤ (bindingResponse msg u.ip u.port).username.length + 107 :=
      length_encode_le (length_mac hmacSha1) (length_bindingResponse_transactionId hid)
    rw [(bindingResponse_fields msg u.ip u.port).2.2, List.length_nil] at hle
    rw [hbuilt, buildBindingResponse_eq]
    omega
  refine ⟨k, response, ?_, isAnswer_iff.2 ⟨read, hread, hanswer⟩⟩
  simp only [step, hk, hpath, if_true, hresponse]
  refine List.mem_append_right _ (List.mem_filter.2 ⟨?_, decide_eq_true hlength⟩)
  rw [answer, if_neg hne]
  exact List.mem_singleton.2 rfl

/-- An answer that arrives connects the controlling side, and its pair has succeeded. -/
theorem connected_of_answer (h : Genuine (mac hmacSha1) a b e) {t u : IceCheckTarget} (hpath : path t u = true)
    (hpair : HasPair e.controlling t) {response : Bytes} (hmem : (u, response) ∈ e.toControlling)
    (hanswer : isAnswer response = true) :
    ∃ k, (step hmacSha1 path e (.arrivesAtControlling k t)).controlling.connected = true ∧
      ∃ p ∈ (step hmacSha1 path e (.arrivesAtControlling k t)).controlling.pairs, p.target = t ∧ p.succeeded = true := by
  obtain ⟨k, hk⟩ := List.mem_iff_getElem?.1 hmem
  obtain ⟨hrole, hlocal, hremote⟩ := pwd_of_identity h.controlling
  have htrusted := h.toControlling _ hmem
  rw [← hlocal, ← hremote] at htrusted
  obtain ⟨i, hi⟩ := isSome_findPair hpair
  have hconnects : e.controlling.isConnectedBy t response = true := by
    rw [IceAgent.isConnectedBy, hi, if_pos hrole, hanswer]
    rfl
  refine ⟨k, ?_⟩
  simp only [step, hk, hpath, if_true]
  refine ⟨by rw [IceAgent.connected_processIncoming t htrusted, hconnects, Bool.or_true], ?_⟩
  -- the pair is marked, whether or not the side is connected by it
  obtain ⟨msg, hmsg, htype⟩ := isAnswer_iff.1 hanswer
  obtain ⟨msg', hmsg', hkind⟩ := htrusted
  rw [hmsg, Option.some.injEq] at hmsg'
  subst hmsg'
  have hother : kStunBindingResponse ≠ kStunBindingRequest := by decide
  have hverify : verifyMessageIntegrity (mac hmacSha1) response e.controlling.remotePwd = true := by
    rcases hkind with ⟨hrequest, -⟩ | ⟨-, hverify⟩
    · exact absurd (htype.symm.trans hrequest) hother
    · exact hverify
  have hmarked : (e.controlling.processIncoming (mac hmacSha1) t.ip t.port response).1.pairs
      = (e.controlling.markSucceeded i).pairs := by
    unfold IceAgent.processIncoming
    rw [hmsg]
    dsimp only
    rw [htype, if_neg hother, if_pos rfl, if_pos hverify, hi]
    dsimp only
    split_ifs <;> rfl
  rw [hmarked]
  exact IceAgent.succeeded_markSucceeded hi

/-- A check after the pair has succeeded: its nomination is on its way. -/
theorem nomination_of_succeeded (path : IceCheckTarget → IceCheckTarget → Bool) (h : Genuine (mac hmacSha1) a b e)
    (hsent : NominationsSent e) (hshort : ShortUfrags a b) {p : Pair} (hp : p ∈ e.controlling.pairs)
    (hsucceeded : p.succeeded = true) (ids : ℕ → Vector UInt8 12) :
    ∃ d ∈ (step hmacSha1 path e (.controllingChecks ids)).toControlled, d.1 = p.target ∧ Nominates d.2 := by
  have hafter := nominationsSent_step path hsent h hshort (.controllingChecks ids)
  obtain ⟨hrole, -⟩ := pwd_of_identity h.controlling
  have hasked : p.useCandidateSent = true ∨ e.controlling.nominates p = true := by
    cases hbefore : p.useCandidateSent with
    | true => exact .inl rfl
    | false => exact .inr (by simp [IceAgent.nominates, hrole, hsucceeded, hbefore])
  refine hafter { p with useCandidateSent := p.useCandidateSent || e.controlling.nominates p } ?_ (by simpa using hasked)
  exact List.mem_map_of_mem hp

/-- A nomination that arrives connects the controlled side. -/
theorem connected_of_nomination (h : Genuine (mac hmacSha1) a b e) {t u : IceCheckTarget} (hpath : path t u = true)
    (hpair : HasPair e.controlled u) {d : Datagram} (hmem : d ∈ e.toControlled) (htarget : d.1 = t)
    (hnominates : Nominates d.2) :
    ∃ k, (step hmacSha1 path e (.arrivesAtControlled k u)).controlled.connected = true ∧
      (step hmacSha1 path e (.arrivesAtControlled k u)).controlling = e.controlling := by
  obtain ⟨target, bytes⟩ := d
  obtain rfl : target = t := htarget
  obtain ⟨k, hk⟩ := List.mem_iff_getElem?.1 hmem
  obtain ⟨hrole, hlocal, hremote⟩ := pwd_of_identity h.controlled
  have htrusted := h.toControlled _ hmem
  rw [← hlocal, ← hremote] at htrusted
  obtain ⟨i, hi⟩ := isSome_findPair hpair
  have hcontrolled : e.controlled.role ≠ .controlling := by
    rw [hrole]
    decide
  have hconnects : e.controlled.isConnectedBy u bytes = true := by
    rw [IceAgent.isConnectedBy, hi, if_neg hcontrolled, isNomination_iff.2 hnominates]
    rfl
  refine ⟨k, ?_, ?_⟩
  · simp only [step, hk, hpath, if_true]
    rw [IceAgent.connected_processIncoming u htrusted, hconnects, Bool.or_true]
  · simp only [step, hk, hpath, if_true]

theorem connects_in_five (h : Genuine (mac hmacSha1) a b e) (hsent : NominationsSent e) (ha : a.pwd ≠ []) (hb : b.pwd ≠ [])
    (hshort : ShortUfrags a b) {t u : IceCheckTarget} (hpath : path t u = true) (hfirst : HasPair e.controlling t)
    (hsecond : HasPair e.controlled u) (ids ids' : ℕ → Vector UInt8 12) :
    ∃ k k' k'', let e' := run (step hmacSha1 path) e [.controllingChecks ids, .arrivesAtControlled k u,
        .arrivesAtControlling k' t, .controllingChecks ids', .arrivesAtControlled k'' u]
      e'.controlling.connected = true ∧ e'.controlled.connected = true := by
  have hkeep : ∀ {e : Endpoints} (ev : Event), Genuine (mac hmacSha1) a b e →
      Genuine (mac hmacSha1) a b (step hmacSha1 path e ev) := fun ev h => genuine_step h ha hb ev
  have hsend : ∀ {e : Endpoints} (ev : Event), Genuine (mac hmacSha1) a b e → NominationsSent e →
      NominationsSent (step hmacSha1 path e ev) := fun ev h hsent => nominationsSent_step path hsent h hshort ev
  -- the check
  obtain ⟨p, hp, rfl⟩ := hfirst
  obtain ⟨request, hrequest, hfit, id, hid, hbuilt⟩ := mem_controllingChecks path h hshort hp ids
  obtain ⟨-, -, hremote⟩ := pwd_of_identity h.controlling
  obtain ⟨msg, hmsg, htype, hverify⟩ : ∃ msg, decode request = some msg ∧ msg.messageType = kStunBindingRequest ∧
      verifyMessageIntegrity (mac hmacSha1) request b.pwd = true := by
    rw [hbuilt] at hfit ⊢
    rw [← hremote]
    exact request_buildBindingRequest (by rwa [hremote]) hid hfit
  have h1 := hkeep (.controllingChecks ids) h
  have hsent1 := hsend (.controllingChecks ids) h hsent
  obtain ⟨hfirst1, hsecond1⟩ := hasPair_step hmacSha1 path ⟨p, hp, rfl⟩ hsecond
    (.controllingChecks ids)
  -- its arrival, and the answer
  obtain ⟨k, response, hresponse, hanswer⟩ := answered_of_request h1 hpath hrequest hmsg htype hverify
  have h2 := hkeep (.arrivesAtControlled k u) h1
  have hsent2 := hsend (.arrivesAtControlled k u) h1 hsent1
  obtain ⟨hfirst2, hsecond2⟩ := hasPair_step hmacSha1 path hfirst1 hsecond1
    (.arrivesAtControlled k u)
  obtain ⟨k', hconnected, q, hq, htarget, hsucceeded⟩ := connected_of_answer h2 hpath hfirst2 hresponse hanswer
  have h3 := hkeep (.arrivesAtControlling k' p.target) h2
  have hsent3 := hsend (.arrivesAtControlling k' p.target) h2 hsent2
  obtain ⟨hfirst3, hsecond3⟩ := hasPair_step hmacSha1 path hfirst2 hsecond2
    (.arrivesAtControlling k' p.target)
  -- the nomination
  obtain ⟨d, hd, hdtarget, hnominates⟩ := nomination_of_succeeded path h3 hsent3 hshort hq hsucceeded ids'
  have h4 := hkeep (.controllingChecks ids') h3
  obtain ⟨-, hsecond4⟩ := hasPair_step hmacSha1 path hfirst3 hsecond3 (.controllingChecks ids')
  obtain ⟨k'', hcontrolled, hsame⟩ := connected_of_nomination h4 hpath hsecond4 hd (hdtarget.trans htarget) hnominates
  refine ⟨k, k', k'', ?_, hcontrolled⟩
  simp only [run_cons, run_nil]
  rw [hsame]
  exact hconnected

/-- **Never stuck.**  In every state of every run in which the two sides know the two ends of a path, five more events
connect both: a check, its arrival, the arrival of its answer, another check, and the arrival of the nomination. -/
theorem can_connect (hmacSha1 : Bytes → Bytes → Vector UInt8 20) (path : IceCheckTarget → IceCheckTarget → Bool)
    (a b : Credentials) (tieBreakA tieBreakB : UInt64) (events : List Event) (ha : a.pwd ≠ []) (hb : b.pwd ≠ [])
    (hshort : ShortUfrags a b) {t u : IceCheckTarget} (hpath : path t u = true)
    (hfirst : HasPair (run (step hmacSha1 path) (start a b tieBreakA tieBreakB) events).controlling t)
    (hsecond : HasPair (run (step hmacSha1 path) (start a b tieBreakA tieBreakB) events).controlled u)
    (ids ids' : ℕ → Vector UInt8 12) :
    ∃ k k' k'', let e := run (step hmacSha1 path) (start a b tieBreakA tieBreakB) (events ++
        [.controllingChecks ids, .arrivesAtControlled k u, .arrivesAtControlling k' t, .controllingChecks ids',
          .arrivesAtControlled k'' u])
      e.controlling.connected = true ∧ e.controlled.connected = true := by
  have hstep : ∀ e ev, Genuine (mac hmacSha1) a b e ∧ NominationsSent e →
      Genuine (mac hmacSha1) a b (step hmacSha1 path e ev) ∧ NominationsSent (step hmacSha1 path e ev) :=
    fun e ev h => ⟨genuine_step h.1 ha hb ev, nominationsSent_step path h.2 h.1 hshort ev⟩
  have hstart : NominationsSent (start a b tieBreakA tieBreakB) := fun p hp => by cases hp
  have hrun : Genuine (mac hmacSha1) a b (run (step hmacSha1 path) (start a b tieBreakA tieBreakB) events) ∧
      NominationsSent (run (step hmacSha1 path) (start a b tieBreakA tieBreakB) events) :=
    invariant_run_of_step hstep events ⟨genuine_start a b tieBreakA tieBreakB, hstart⟩
  simp only [run_append]
  exact connects_in_five hrun.1 hrun.2 ha hb hshort hpath hfirst hsecond ids ids'

end

/-! ### The two paths again -/

def sampleLeft : Credentials := ⟨ascii "left", ascii "left password"⟩

def sampleRight : Credentials := ⟨ascii "right", ascii "right password"⟩

theorem connected_iff_arrived_two :
    ConnectedBy (run (step sampleMac sameReflector) (start sampleLeft sampleRight 1 2) sampleEvents)
      (history (step sampleMac sameReflector) (arrived sameReflector) (start sampleLeft sampleRight 1 2) sampleEvents) :=
  connected_iff_arrived sampleMac sameReflector sampleLeft sampleRight 1 2 sampleEvents (by decide) (by decide)

instance (s : IceAgent) (target : IceCheckTarget) : Decidable (HasPair s target) :=
  inferInstanceAs (Decidable (∃ p ∈ s.pairs, p.target = target))

theorem can_connect_two :
    ∃ k k' k'', let e := run (step sampleMac sameReflector) (start sampleLeft sampleRight 1 2) (sampleEvents.take 4 ++
        [.controllingChecks fun _ => Vector.replicate 12 2, .arrivesAtControlled k (sampleTarget "10.0.0.2"),
          .arrivesAtControlling k' (sampleTarget "10.0.0.2"), .controllingChecks fun _ => Vector.replicate 12 3,
          .arrivesAtControlled k'' (sampleTarget "10.0.0.2")])
      e.controlling.connected = true ∧ e.controlled.connected = true :=
  can_connect sampleMac sameReflector sampleLeft sampleRight 1 2 (sampleEvents.take 4) (by decide) (by decide)
    ⟨by decide, by decide⟩ (by decide) (by decide +kernel) (by decide +kernel) _ _

end VianiumVoip.Ice
