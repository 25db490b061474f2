import VianiumVoip.Ice.AgentRun
import Mathlib.Data.List.Nodup

/-!
# The requests of an agent and their responses

An agent draws a transaction id for each request, and its peer copies the id into the response.  The agent keeps none of
them: a response counts for the pair at its source, whatever it answers.  `attributed_iff` says which runs mark and
select only pairs whose requests have been answered.

USE-CANDIDATE is likewise settled when a request is built.  `nominated_once` says that every pair has it on one request,
and that nothing repeats this request when it is lost.
-/

namespace VianiumVoip.Ice

open VianiumVoip.Lib VianiumVoip.Lib.Run StunMessageCodec

/-- A pair, and the id of a request to it. -/
abbrev Transaction := IceCheckTarget × Bytes

/-- The transaction of a request that is sent. -/
def transactionOf (d : Datagram) : Transaction := (d.1, (d.2.drop 8).take 12)

/-- An agent with the transactions of its run, which it does not keep. -/
structure AgentRun where
  agent : IceAgent
  /-- The requests that no response has answered. -/
  outstanding : List Transaction := []
  /-- The requests with USE-CANDIDATE. -/
  nominations : List Transaction := []
  /-- One of these has been answered. -/
  nominationAnswered : Bool := false

namespace IceAgent

variable (hmacSha1 : Bytes → Bytes → Bytes)

/-- The transaction id of a binding response that the agent takes for one of its peer. -/
def responseId (s : IceAgent) (bytes : Bytes) : Option Bytes :=
  match decode bytes with
  | some msg =>
    if msg.messageType = kStunBindingResponse ∧ verifyMessageIntegrity hmacSha1 bytes s.remotePwd then
      some msg.transactionId
    else none
  | none => none

/-- Of the requests to the pairs, those that are built with USE-CANDIDATE. -/
def nominationsOf (s : IceAgent) (requests : List Datagram) : List Transaction :=
  ((s.pairs.zip requests).filter fun request => s.nominates request.1).map fun request => transactionOf request.2

end IceAgent

namespace AgentRun

variable (hmacSha1 : Bytes → Bytes → Bytes)

/-- A response consumes the request it answers. -/
def step (r : AgentRun) : AgentCall → AgentRun
  | .addRemoteCandidate c => { r with agent := r.agent.addRemoteCandidate c }
  | .getBindingRequestsToSend ids =>
    let (agent, requests) := r.agent.getBindingRequestsToSend hmacSha1 fun i => (ids i).toList
    { r with
      agent := agent
      outstanding := r.outstanding ++ requests.map transactionOf
      nominations := r.nominations ++ r.agent.nominationsOf requests }
  | .processIncoming srcIp srcPort bytes =>
    let r' := { r with agent := (r.agent.processIncoming hmacSha1 srcIp srcPort bytes).1 }
    match r.agent.responseId hmacSha1 bytes with
    | some id =>
      { r' with
        outstanding := r.outstanding.erase ({ ip := srcIp, port := srcPort }, id)
        nominationAnswered :=
          r.nominationAnswered || decide (({ ip := srcIp, port := srcPort }, id) ∈ r.nominations) }
    | none => r'

/-- **Responses are matched.**  A response that answers no outstanding request of the pair at its source leaves the agent
as it is. -/
def Attributed (r : AgentRun) : AgentCall → Prop
  | .processIncoming srcIp srcPort bytes => ∀ id, r.agent.responseId hmacSha1 bytes = some id →
      (({ ip := srcIp, port := srcPort } : IceCheckTarget), id) ∉ r.outstanding →
        (r.agent.processIncoming hmacSha1 srcIp srcPort bytes).1 = r.agent
  | _ => True

/-- A response that answers no outstanding request of the pair at its source comes from no pair; or from one that has
succeeded, and the agent is not about to select one. -/
def UnmatchedLate (r : AgentRun) : AgentCall → Prop
  | .processIncoming srcIp srcPort bytes => ∀ id, r.agent.responseId hmacSha1 bytes = some id →
      (({ ip := srcIp, port := srcPort } : IceCheckTarget), id) ∉ r.outstanding →
        ∀ i, r.agent.findPair srcIp srcPort = some i →
          (r.agent.pairs.getD i {}).succeeded = true ∧ (r.agent.role = .controlled ∨ r.agent.connected = true)
  | _ => True

/-- **Nomination survives loss.**  As long as no request with USE-CANDIDATE has been answered, every further batch has
one for the selected pair. -/
def SurvivesLoss (r : AgentRun) : Prop :=
  r.agent.connected = true → r.nominationAnswered = false → ∀ ids : ℕ → Vector UInt8 12,
    ∃ d ∈ (r.agent.getBindingRequestsToSend hmacSha1 fun i => (ids i).toList).2,
      d.1 = r.agent.selected ∧ Nominates d.2

variable {hmacSha1} {r : AgentRun} {srcIp : String} {srcPort : ℤ} {bytes : Bytes}

@[simp] theorem step_agent (r : AgentRun) (c : AgentCall) : (r.step hmacSha1 c).agent = r.agent.call hmacSha1 c := by
  cases c with
  | addRemoteCandidate c => rfl
  | getBindingRequestsToSend ids => rfl
  | processIncoming srcIp srcPort bytes =>
    simp only [step]
    split <;> rfl

/-! ### Responses -/

theorem role_controlled_iff {s : IceAgent} : ¬ s.role = .controlling ↔ s.role = .controlled := by
  cases s.role <;> decide

/-- A response that is taken marks the pair at its source, and selects it where nothing is selected yet. -/
theorem processIncoming_response {s : IceAgent} {id : Bytes} {i : ℕ} (h : s.responseId hmacSha1 bytes = some id)
    (hpair : s.findPair srcIp srcPort = some i) :
    (s.processIncoming hmacSha1 srcIp srcPort bytes).1 =
      if s.role = .controlling ∧ ¬ s.connected = true then (s.markSucceeded i).select i else s.markSucceeded i := by
  have hne : kStunBindingResponse ≠ kStunBindingRequest := by decide
  unfold IceAgent.responseId at h
  unfold IceAgent.processIncoming
  cases hmsg : decode bytes with
  | none =>
    rw [hmsg] at h
    cases h
  | some msg =>
    rw [hmsg] at h
    simp only at h ⊢
    split_ifs at h with htaken
    rw [if_neg (by rw [htaken.1]; exact hne), if_pos htaken.1, if_pos htaken.2, hpair]
    exact apply_ite Prod.fst _ _ _

theorem processIncoming_of_findPair_none {s : IceAgent} (hpair : s.findPair srcIp srcPort = none) :
    (s.processIncoming hmacSha1 srcIp srcPort bytes).1 = s := by
  have hnot : ¬ s.Reaches hmacSha1 srcIp srcPort bytes := by
    rintro ⟨-, hsome, -⟩
    rw [hpair] at hsome
    cases hsome
  exact IceAgent.processIncoming_of_not_reaches hnot

theorem processIncoming_response_eq_self_iff {s : IceAgent} {id : Bytes} (h : s.responseId hmacSha1 bytes = some id) :
    (s.processIncoming hmacSha1 srcIp srcPort bytes).1 = s ↔ ∀ i, s.findPair srcIp srcPort = some i →
      (s.pairs.getD i {}).succeeded = true ∧ (s.role = .controlled ∨ s.connected = true) := by
  cases hpair : s.findPair srcIp srcPort with
  | none => simp [processIncoming_of_findPair_none hpair]
  | some i =>
    have hi := IceAgent.length_of_findPair hpair
    rw [processIncoming_response h hpair]
    simp only [Option.some.injEq, forall_eq']
    by_cases hselects : s.role = .controlling ∧ ¬ s.connected = true
    · rw [if_pos hselects]
      refine iff_of_false ?_ ?_
      · intro heq
        have hconnected := congrArg IceAgent.connected heq
        rw [IceAgent.select_connected] at hconnected
        exact hselects.2 hconnected.symm
      · rintro ⟨-, hrole | hconnected⟩
        · rw [hselects.1] at hrole
          cases hrole
        · exact hselects.2 hconnected
    · have hlate : s.role = .controlled ∨ s.connected = true := by
        rw [not_and_or, not_not, role_controlled_iff] at hselects
        exact hselects
      rw [if_neg hselects, IceAgent.markSucceeded_eq_self_iff hi]
      exact ⟨fun hsucceeded => ⟨hsucceeded, hlate⟩, fun hboth => hboth.1⟩

theorem attributed_call_iff (r : AgentRun) (c : AgentCall) : r.Attributed hmacSha1 c ↔ r.UnmatchedLate hmacSha1 c := by
  cases c with
  | addRemoteCandidate c => exact Iff.rfl
  | getBindingRequestsToSend ids => exact Iff.rfl
  | processIncoming srcIp srcPort bytes =>
    refine forall_congr' fun id => forall_congr' fun hid => forall_congr' fun _ => ?_
    exact processIncoming_response_eq_self_iff hid

variable (hmacSha1) in
/-- **The responses of a run are matched exactly when every unmatched one comes late**, for every agent and every sequence
of calls. -/
theorem attributed_iff (role : IceAgentRole) (localUfrag localPwd remoteUfrag remotePwd : Bytes) (tieBreak : UInt64)
    (calls : List AgentCall) :
    let start : AgentRun := { agent := .create role localUfrag localPwd remoteUfrag remotePwd tieBreak }
    (∀ pre c post, calls = pre ++ c :: post → (run (step hmacSha1) start pre).Attributed hmacSha1 c) ↔
      Guarded (step hmacSha1) (UnmatchedLate hmacSha1) start calls := by
  intro start
  rw [guarded_iff]
  simp only [attributed_call_iff]

/-! ### Nominations -/

theorem nominationsOf_fst (s : IceAgent) (ids : ℕ → Bytes) :
    (s.nominationsOf (s.getBindingRequestsToSend hmacSha1 ids).2).map (·.1)
      = (s.pairs.filter s.nominates).map Pair.target := by
  have hzip : ∀ (pairs : List Pair) (f : ℕ → Pair → Datagram), (∀ i p, (f i p).1 = p.target) →
      (((pairs.zip (pairs.mapIdx f)).filter fun request => s.nominates request.1).map fun request =>
        (transactionOf request.2).1) = (pairs.filter s.nominates).map Pair.target := by
    intro pairs
    have hskip : ∀ (q : Pair × Datagram) (l : List (Pair × Datagram)),
        (q :: l).filter (fun request => s.nominates request.1)
          = if s.nominates q.1 then q :: l.filter fun request => s.nominates request.1
            else l.filter fun request => s.nominates request.1 := fun _ _ => List.filter_cons
    induction pairs with
    | nil => exact fun _ _ => rfl
    | cons p pairs ih =>
      intro f hf
      rw [List.mapIdx_cons, List.zip_cons_cons]
      have htail := ih (fun i => f (i + 1)) fun i => hf (i + 1)
      rw [hskip, List.filter_cons]
      by_cases hp : s.nominates p = true
      · rw [if_pos hp, if_pos hp, List.map_cons, List.map_cons, htail]
        exact congrArg (· :: _) (hf 0 p)
      · rw [if_neg hp, if_neg hp, htail]
  rw [IceAgent.nominationsOf, List.map_map]
  exact hzip s.pairs _ fun _ _ => rfl

/-- **The invariant.**  The pairs with the flag are those that have been nominated, each once. -/
structure Tracks (r : AgentRun) : Prop where
  sound : r.agent.Sound
  role : r.agent.role = .controlling
  sent : ∀ p ∈ r.agent.pairs, p.useCandidateSent = true ↔ p.target ∈ r.nominations.map (·.1)
  known : ∀ t ∈ r.nominations.map (·.1), t ∈ r.agent.pairs.map Pair.target
  once : (r.nominations.map (·.1)).Nodup

theorem pair_eq_of_target {s : IceAgent} (h : s.Sound) {p q : Pair} (hp : p ∈ s.pairs) (hq : q ∈ s.pairs)
    (heq : p.target = q.target) : p = q :=
  List.inj_on_of_nodup_map h.unique hp hq heq

theorem processed_sent {s s' : IceAgent} {result : ProcessResult} {response : Bytes}
    (h : s.Processed hmacSha1 srcIp srcPort bytes s' result response) :
    ∀ p' ∈ s'.pairs, ∃ p ∈ s.pairs, p.target = p'.target ∧ p.useCandidateSent = p'.useCandidateSent := by
  have hmark : ∀ i, ∀ p' ∈ (s.markSucceeded i).pairs, ∃ p ∈ s.pairs, p.target = p'.target ∧
      p.useCandidateSent = p'.useCandidateSent := by
    intro i p' hp'
    obtain ⟨j, hj, rfl⟩ := List.getElem_of_mem hp'
    have hj' : j < s.pairs.length := by simpa [IceAgent.markSucceeded] using hj
    refine ⟨s.pairs[j], List.getElem_mem _, ?_⟩
    simp only [IceAgent.markSucceeded, List.getElem_modify]
    split_ifs <;> exact ⟨rfl, rfl⟩
  cases h with
  | ignored | unknownRequest => exact fun p hp => ⟨p, hp, rfl, rfl⟩
  | request msg i | response msg i | nomination msg i | selection msg i => exact hmark i

theorem tracks_addRemoteCandidate (h : r.Tracks) (c : ParsedIceCandidate) :
    (r.step hmacSha1 (.addRemoteCandidate c)).Tracks := by
  have hsound := IceAgent.sound_addRemoteCandidate h.sound c
  have hrole := (r.agent.addRemoteCandidate_selection c).1.1
  have hpairs : (r.agent.addRemoteCandidate c).pairs = r.agent.pairs ∨
      (r.agent.addRemoteCandidate c).pairs = r.agent.pairs ++ [{ target := IceAgent.addressOf c }] := by
    simp only [IceAgent.addRemoteCandidate]
    split_ifs
    · exact .inr rfl
    · exact .inl rfl
  refine ⟨hsound, hrole.trans h.role, ?_, ?_, h.once⟩
  · intro p hp
    rcases hpairs with hsame | hmore
    · simp only [step, hsame] at hp
      exact h.sent p hp
    · simp only [step, hmore] at hp
      rcases List.mem_append.1 hp with hold | hnew
      · exact h.sent p hold
      · rw [List.mem_singleton.1 hnew]
        refine iff_of_false Bool.false_ne_true ?_
        intro hnominated
        have hunique := hsound.unique
        rw [hmore, List.map_append] at hunique
        exact (List.nodup_append.1 hunique).2.2 _ (h.known _ hnominated) _ (by simp) rfl
  · intro t ht
    have hold := h.known t ht
    rcases hpairs with hsame | hmore
    · simp only [step, hsame]
      exact hold
    · simp only [step, hmore, List.map_append]
      exact List.mem_append_left _ hold

theorem tracks_getBindingRequestsToSend (h : r.Tracks) (ids : ℕ → Vector UInt8 12) :
    (r.step hmacSha1 (.getBindingRequestsToSend ids)).Tracks := by
  have hnew : (r.step hmacSha1 (.getBindingRequestsToSend ids)).nominations.map (·.1)
      = r.nominations.map (·.1) ++ (r.agent.pairs.filter r.agent.nominates).map Pair.target := by
    simp only [step, List.map_append, nominationsOf_fst]
  have hfresh : ∀ p ∈ r.agent.pairs, r.agent.nominates p = true → p.target ∉ r.nominations.map (·.1) := by
    intro p hp hnominates
    rw [← h.sent p hp]
    exact (of_decide_eq_true hnominates).2.2
  have hmem : ∀ p ∈ r.agent.pairs,
      p.target ∈ (r.agent.pairs.filter r.agent.nominates).map Pair.target ↔ r.agent.nominates p = true := by
    intro p hp
    constructor
    · intro hin
      obtain ⟨q, hq, htarget⟩ := List.mem_map.1 hin
      obtain ⟨hq, hnominates⟩ := List.mem_filter.1 hq
      rwa [pair_eq_of_target h.sound hp hq htarget.symm]
    · intro hnominates
      exact List.mem_map_of_mem (List.mem_filter.2 ⟨hp, hnominates⟩)
  refine ⟨?_, h.role, ?_, ?_, ?_⟩
  · rw [step_agent]
    exact IceAgent.sound_call h.sound _
  · intro p' hp'
    obtain ⟨p, hp, rfl⟩ := List.mem_map.1 hp'
    rw [hnew, List.mem_append]
    simp only [Bool.or_eq_true]
    exact or_congr (h.sent p hp) (hmem p hp).symm
  · intro t ht
    rw [step_agent, IceAgent.call, (r.agent.keepsPairs_getBindingRequestsToSend _).targets]
    rw [hnew] at ht
    rcases List.mem_append.1 ht with hold | hlast
    · exact h.known t hold
    · obtain ⟨p, hp, rfl⟩ := List.mem_map.1 hlast
      exact List.mem_map_of_mem (List.mem_filter.1 hp).1
  · rw [hnew]
    refine List.nodup_append.2 ⟨h.once, h.sound.unique.sublist (List.filter_sublist.map _), ?_⟩
    rintro t ht t' ht' rfl
    obtain ⟨p, hp, rfl⟩ := List.mem_map.1 ht'
    obtain ⟨hp, hnominates⟩ := List.mem_filter.1 hp
    exact hfresh p hp hnominates ht

theorem tracks_processIncoming (h : r.Tracks) (srcIp : String) (srcPort : ℤ) (bytes : Bytes) :
    (r.step hmacSha1 (.processIncoming srcIp srcPort bytes)).Tracks := by
  have hprocessed := r.agent.processIncoming_processed hmacSha1 srcIp srcPort bytes
  have hnominations : (r.step hmacSha1 (.processIncoming srcIp srcPort bytes)).nominations = r.nominations := by
    simp only [step]
    split <;> rfl
  refine ⟨?_, ?_, ?_, ?_, ?_⟩
  · rw [step_agent]
    exact IceAgent.sound_call h.sound _
  · rw [step_agent]
    exact hprocessed.sameIdentity.1.trans h.role
  · intro p' hp'
    rw [step_agent] at hp'
    obtain ⟨p, hp, htarget, hsent⟩ := processed_sent hprocessed p' hp'
    rw [hnominations, ← htarget, ← hsent]
    exact h.sent p hp
  · rw [hnominations, step_agent, IceAgent.call, hprocessed.keepsPairs.targets]
    exact h.known
  · rw [hnominations]
    exact h.once

theorem tracks_step (h : r.Tracks) (c : AgentCall) : (r.step hmacSha1 c).Tracks := by
  cases c with
  | addRemoteCandidate c => exact tracks_addRemoteCandidate h c
  | getBindingRequestsToSend ids => exact tracks_getBindingRequestsToSend h ids
  | processIncoming srcIp srcPort bytes => exact tracks_processIncoming h srcIp srcPort bytes

theorem tracks_create (localUfrag localPwd remoteUfrag remotePwd : Bytes) (tieBreak : UInt64) :
    Tracks { agent := .create .controlling localUfrag localPwd remoteUfrag remotePwd tieBreak } where
  sound := IceAgent.sound_create ..
  role := rfl
  sent := by
    intro p hp
    cases hp
  known := by
    intro t ht
    cases ht
  once := List.nodup_nil

theorem Tracks.request_to_selected (h : r.Tracks) (hconnected : r.agent.connected = true) (ids : ℕ → Bytes) :
    ∃ i, ∀ d, (d ∈ (r.agent.getBindingRequestsToSend hmacSha1 ids).2 ∧ d.1 = r.agent.selected) ↔
      d = (r.agent.selected,
        r.agent.buildBindingRequest hmacSha1 (r.agent.selected ∉ r.nominations.map (·.1)) (ids i)) := by
  obtain ⟨p, hp, htarget, hsucceeded⟩ := h.sound.selectedPair hconnected
  obtain ⟨i, hi⟩ := List.mem_iff_getElem?.1 hp
  have hnominates : r.agent.nominates p = decide (r.agent.selected ∉ r.nominations.map (·.1)) := by
    have hsent := h.sent p hp
    rw [htarget] at hsent
    rw [IceAgent.nominates, decide_eq_decide, ← hsent]
    exact ⟨fun hall => hall.2.2, fun hnot => ⟨h.role, hsucceeded, hnot⟩⟩
  refine ⟨i, fun d => ?_⟩
  rw [IceAgent.mem_getBindingRequestsToSend]
  constructor
  · rintro ⟨⟨j, q, hj, rfl⟩, hselected⟩
    have hq : q = p := pair_eq_of_target h.sound (List.mem_of_getElem? hj) hp (hselected.trans htarget.symm)
    have hij : j = i := by
      have hlt : j < (r.agent.pairs.map Pair.target).length := by
        obtain ⟨hlt, -⟩ := List.getElem?_eq_some_iff.1 hj
        simpa using hlt
      refine (List.getElem?_inj hlt h.sound.unique).1 ?_
      rw [List.getElem?_map, List.getElem?_map, hj, hi, hq]
    rw [hij, hq, htarget, hnominates]
  · rintro rfl
    exact ⟨⟨i, p, hi, by rw [htarget, hnominates]⟩, rfl⟩

variable (hmacSha1) in
/-- **Every pair is nominated once.**  In every run of a controlling agent, a batch has one request for the selected
pair, and it carries USE-CANDIDATE exactly when no request for this pair has carried it before. -/
theorem nominated_once (localUfrag localPwd remoteUfrag remotePwd : Bytes) (tieBreak : UInt64)
    (calls : List AgentCall) :
    let start : AgentRun := { agent := .create .controlling localUfrag localPwd remoteUfrag remotePwd tieBreak }
    let r := run (step hmacSha1) start calls
    (r.nominations.map (·.1)).Nodup ∧
      (r.agent.connected = true → ∀ ids : ℕ → Vector UInt8 12, ∃ i, ∀ d,
        (d ∈ (r.agent.getBindingRequestsToSend hmacSha1 fun j => (ids j).toList).2 ∧ d.1 = r.agent.selected) ↔
          d = (r.agent.selected, r.agent.buildBindingRequest hmacSha1 (r.agent.selected ∉ r.nominations.map (·.1))
            (ids i).toList)) := by
  intro start r
  have htracks : r.Tracks := invariant_run_of_step (I := Tracks) (fun _ c h => tracks_step h c) calls (tracks_create ..)
  exact ⟨htracks.once, fun hconnected ids => htracks.request_to_selected hconnected fun j => (ids j).toList⟩

/-! ### Two runs -/

open Endpoints

def sampleController : AgentRun where
  agent := .create .controlling (ascii "left") (ascii "left password") (ascii "right") (ascii "right password") 1

/-- The peer's response to the request with the id `02 .. 02`, which came from 10.0.0.1. -/
def sampleResponse : Bytes :=
  (IceAgent.create .controlled (ascii "right") (ascii "right password") (ascii "left") (ascii "left password")
    2).buildBindingResponse (mac sampleMac) { transactionId := List.replicate 12 2 } "10.0.0.1" 3478

/-- The selected pair is nominated in the second batch. -/
def nominatedCalls : List AgentCall :=
  [.addRemoteCandidate { ip := "10.0.0.1", port := 3478 },
    .getBindingRequestsToSend fun _ => Vector.replicate 12 2,
    .processIncoming "10.0.0.1" 3478 sampleResponse,
    .getBindingRequestsToSend fun _ => Vector.replicate 12 3]

/-- **A lost nomination is not repeated**: no response has come since, and the next batch has no USE-CANDIDATE. -/
theorem lost_nomination_not_repeated :
    ¬ (run (step (mac sampleMac)) sampleController nominatedCalls).SurvivesLoss (mac sampleMac) := by
  set r := run (step (mac sampleMac)) sampleController nominatedCalls with hr
  have hconnected : r.agent.connected = true := by decide +kernel
  have hanswered : r.nominationAnswered = false := by decide +kernel
  have hbatch : ∀ d ∈ (r.agent.getBindingRequestsToSend (mac sampleMac) fun _ => List.replicate 12 2).2,
      (decode d.2).map StunMessage.useCandidate = some false := by decide +kernel
  intro hsurvives
  obtain ⟨d, hd, -, msg, hmsg, -, hasked⟩ := hsurvives hconnected hanswered fun _ => Vector.replicate 12 2
  have hplain := hbatch d hd
  rw [hmsg, Option.map_some, hasked] at hplain
  cases hplain

/-- The response to the request on the first path arrives on the second one. -/
def misattributedCalls : List AgentCall :=
  [.addRemoteCandidate { ip := "10.0.0.1", port := 3478 }, .addRemoteCandidate { ip := "10.0.0.2", port := 3478 },
    .getBindingRequestsToSend fun i => Vector.replicate 12 (UInt8.ofNat (i + 2))]

/-- **A response selects a pair whose request it does not answer.** -/
theorem response_misattributed :
    ¬ (run (step (mac sampleMac)) sampleController misattributedCalls).Attributed (mac sampleMac)
      (.processIncoming "10.0.0.2" 3478 sampleResponse) := by
  set r := run (step (mac sampleMac)) sampleController misattributedCalls with hr
  have hid : r.agent.responseId (mac sampleMac) sampleResponse = some (List.replicate 12 2) := by decide +kernel
  have hother : (({ ip := "10.0.0.2", port := 3478 } : IceCheckTarget), List.replicate 12 2) ∉ r.outstanding := by
    decide +kernel
  have hfresh : r.agent.connected = false := by decide +kernel
  have hconnected : (r.agent.processIncoming (mac sampleMac) "10.0.0.2" 3478 sampleResponse).1.connected = true := by
    decide +kernel
  intro hattributed
  rw [hattributed _ hid hother, hfresh] at hconnected
  cases hconnected

end AgentRun

end VianiumVoip.Ice
