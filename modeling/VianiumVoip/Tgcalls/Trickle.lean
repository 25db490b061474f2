import VianiumVoip.Tgcalls.IcePhase
import VianiumVoip.Srtp.SenderRun
import VianiumVoip.Lib.Run

/-!
# Candidates that trickle in

The peer's `InitialSetup` and its `Candidates` messages arrive in any order and in any batches.  What has arrived when
the ICE phase starts is handed to the agent.  What arrives later is parked, and never handed over: `StartIcePhase`
returns at its latch.

`complete_iff` says which runs leave the agent with every candidate it should know.
-/

namespace VianiumVoip.Tgcalls

open VianiumVoip.Lib VianiumVoip.Lib.Run VianiumVoip.Dtls VianiumVoip.Ice

namespace IceConnection

/-- What happens to a connection before it is stopped. -/
inductive Input
  | initialSetup (msg : InitialSetupMsg) (draws : IceDraws)
  | candidates (lines : List String) (draws : IceDraws)
  | datagram (srcIp : String) (srcPort : ℤ) (payload : Bytes) (draws : InitiateDraws)
      (audio : TgcallsConnection.AudioInput)
  | retryTimer (transactionId : ℕ → Vector UInt8 12)

/-- The candidate lines of a message. -/
def Input.lines : Input → List String
  | candidates lines _ => lines
  | _ => []

variable (C : Crypto)

def step (c : IceConnection) : Input → IceConnection
  | .initialSetup msg draws => (c.onPeerInitialSetup C msg draws).1
  | .candidates lines draws => (c.onPeerCandidates C lines draws).1
  | .datagram srcIp srcPort payload draws audio => (c.onReflectorDatagramFrom C srcIp srcPort payload draws audio).1
  | .retryTimer transactionId => (c.onIceRetryTimer C transactionId).1

/-- The lines that have been received. -/
def received (inputs : List Input) : List String := inputs.flatMap Input.lines

/-- The parseable candidates of the accepted types. -/
def acceptedCandidates (lines : List String) : List ParsedIceCandidate :=
  (lines.filterMap IceCandidateParser.parse).filter fun c => acceptsType c.type

/-- **Completeness.**  Once the ICE phase has started, the agent knows the accepted candidates of `lines`, and no
others. -/
def Complete (lines : List String) (c : IceConnection) : Prop :=
  c.iceStarted = true → ∃ agent, c.iceAgent = some agent ∧
    ∀ candidate, candidate ∈ agent.remoteCandidates ↔ candidate ∈ acceptedCandidates lines

/-- A batch that arrives when the ICE phase has started holds no accepted candidate that is new. -/
def LateBatchKnown (c : IceConnection) : Input → Prop
  | .candidates lines _ => c.iceStarted = true →
      ∀ candidate ∈ acceptedCandidates lines, candidate ∈ acceptedCandidates c.peerCandidates
  | _ => True

variable {C} {c : IceConnection}

/-! ### What the agent is handed -/

theorem addRemoteCandidate_remoteCandidates (agent : IceAgent) (parsed : ParsedIceCandidate) :
    (agent.addRemoteCandidate parsed).remoteCandidates = agent.remoteCandidates ++ [parsed] := by
  simp only [IceAgent.addRemoteCandidate]
  split_ifs <;> rfl

theorem feedCandidates_remoteCandidates (agent : IceAgent) (lines : List String) :
    (feedCandidates agent lines).remoteCandidates = agent.remoteCandidates ++ acceptedCandidates lines := by
  induction lines generalizing agent with
  | nil => simp [feedCandidates, acceptedCandidates]
  | cons line lines ih =>
    simp only [feedCandidates, List.foldl_cons] at ih ⊢
    rw [ih]
    cases hparse : IceCandidateParser.parse line with
    | none => simp [acceptedCandidates, hparse]
    | some parsed =>
      by_cases htype : acceptsType parsed.type = true
      · simp [acceptedCandidates, hparse, htype, addRemoteCandidate_remoteCandidates]
      · simp [acceptedCandidates, hparse, htype]

theorem processed_remoteCandidates {hmacSha1 : Bytes → Bytes → Bytes} {s s' : IceAgent} {srcIp : String} {srcPort : ℤ}
    {bytes response : Bytes} {result : ProcessResult}
    (h : s.Processed hmacSha1 srcIp srcPort bytes s' result response) : s'.remoteCandidates = s.remoteCandidates := by
  cases h <;> rfl

/-! ### The steps -/

/-- What a step that starts nothing leaves alone. -/
structure SameKnown (c c' : IceConnection) : Prop where
  started : c'.iceStarted = c.iceStarted
  parked : c'.peerCandidates = c.peerCandidates
  known : c'.iceAgent.map IceAgent.remoteCandidates = c.iceAgent.map IceAgent.remoteCandidates

theorem SameKnown.refl (c : IceConnection) : SameKnown c c := ⟨rfl, rfl, rfl⟩

theorem sameKnown_sendIceBindingRequests (ids : ℕ → Vector UInt8 12) :
    SameKnown c (c.sendIceBindingRequests C ids).1 := by
  unfold sendIceBindingRequests
  cases hagent : c.iceAgent with
  | none => exact .refl c
  | some agent => exact ⟨rfl, rfl, by rw [hagent]; rfl⟩

theorem sameKnown_retryTimer (ids : ℕ → Vector UInt8 12) : SameKnown c (step C c (.retryTimer ids)) := by
  simp only [step, onIceRetryTimer]
  split_ifs
  · exact .refl c
  · exact ⟨rfl, rfl, rfl⟩
  · have h := sameKnown_sendIceBindingRequests (C := C) (c := c) ids
    exact ⟨h.started, h.parked, h.known⟩

theorem sameKnown_datagram (srcIp : String) (srcPort : ℤ) (payload : Bytes) (draws : InitiateDraws)
    (audio : TgcallsConnection.AudioInput) : SameKnown c (step C c (.datagram srcIp srcPort payload draws audio)) := by
  simp only [step, onReflectorDatagramFrom, onReflectorDatagram]
  split_ifs
  · exact .refl c
  split
  · exact .refl c
  split
  · exact .refl c
  split_ifs
  · unfold onStunDatagram
    cases hagent : c.iceAgent with
    | none => exact .refl c
    | some agent =>
      refine ⟨rfl, rfl, ?_⟩
      rw [hagent]
      exact congrArg some (processed_remoteCandidates (agent.processIncoming_processed ..))
  · exact ⟨rfl, rfl, rfl⟩

/-- **What `StartIcePhase` does.**  It starts nothing; or it starts the phase, which had not started, with an agent that
knows what is parked. -/
theorem startIcePhase_cases (draws : IceDraws) :
    (c.startIcePhase C draws).1 = c ∨
      c.iceStarted = false ∧ (c.startIcePhase C draws).1.iceStarted = true ∧
        (c.startIcePhase C draws).1.peerCandidates = c.peerCandidates ∧
        ∃ agent, (c.startIcePhase C draws).1.iceAgent = some agent ∧
          agent.remoteCandidates = acceptedCandidates c.peerCandidates := by
  simp only [startIcePhase]
  split_ifs with hready hempty hstarted
  · exact .inl rfl
  · exact .inl rfl
  · exact .inl rfl
  · refine .inr ⟨eq_false_of_ne_true hstarted, rfl, rfl, _, rfl, ?_⟩
    exact feedCandidates_remoteCandidates _ _

/-! ### A step and its guard -/

theorem acceptedCandidates_append (lines lines' : List String) :
    acceptedCandidates (lines ++ lines') = acceptedCandidates lines ++ acceptedCandidates lines' := by
  simp [acceptedCandidates]

theorem complete_of_sameKnown {c' : IceConnection} (h : Complete c.peerCandidates c) (hsame : SameKnown c c') :
    Complete c'.peerCandidates c' := by
  intro hstarted
  rw [hsame.started] at hstarted
  obtain ⟨agent, hagent, hknown⟩ := h hstarted
  have hmap := hsame.known
  rw [hagent, Option.map_some, Option.map_eq_some_iff] at hmap
  obtain ⟨agent', hagent', hremote⟩ := hmap
  refine ⟨agent', hagent', ?_⟩
  rw [hremote, hsame.parked]
  exact hknown

theorem complete_of_started {lines : List String} {c' : IceConnection} {agent : IceAgent}
    (hagent : c'.iceAgent = some agent) (hknown : agent.remoteCandidates = acceptedCandidates lines) :
    Complete lines c' := by
  intro _
  refine ⟨agent, hagent, ?_⟩
  intro candidate
  rw [hknown]

/-- A batch that is only parked leaves the agent complete when it holds nothing new. -/
theorem complete_parked_iff {lines : List String} (h : Complete c.peerCandidates c) :
    Complete (c.peerCandidates ++ lines) { c with peerCandidates := c.peerCandidates ++ lines } ↔
      (c.iceStarted = true →
        ∀ candidate ∈ acceptedCandidates lines, candidate ∈ acceptedCandidates c.peerCandidates) := by
  constructor
  · intro hparked hstarted candidate hcandidate
    obtain ⟨agent, hagent, hknown⟩ := h hstarted
    obtain ⟨agent', hagent', hknown'⟩ := hparked hstarted
    cases hagent.symm.trans hagent'
    refine (hknown candidate).1 ((hknown' candidate).2 ?_)
    rw [acceptedCandidates_append]
    exact List.mem_append_right _ hcandidate
  · intro hlate hstarted
    obtain ⟨agent, hagent, hknown⟩ := h hstarted
    refine ⟨agent, hagent, ?_⟩
    intro candidate
    rw [hknown, acceptedCandidates_append, List.mem_append]
    constructor
    · exact .inl
    · rintro (hold | hnew)
      · exact hold
      · exact hlate hstarted candidate hnew

theorem step_peerCandidates (i : Input) : (step C c i).peerCandidates = c.peerCandidates ++ i.lines := by
  cases i with
  | initialSetup msg draws =>
    simp only [step, onPeerInitialSetup, Input.lines, List.append_nil]
    rcases startIcePhase_cases (C := C) draws with h | ⟨-, -, h, -⟩ <;> rw [h]
  | candidates lines draws =>
    simp only [step, onPeerCandidates, Input.lines]
    rcases startIcePhase_cases (C := C) draws with h | ⟨-, -, h, -⟩ <;> rw [h]
  | datagram srcIp srcPort payload draws audio =>
    simp [(sameKnown_datagram (C := C) (c := c) srcIp srcPort payload draws audio).parked, Input.lines]
  | retryTimer ids => simp [(sameKnown_retryTimer (C := C) (c := c) ids).parked, Input.lines]

/-- **A step keeps the agent complete exactly when a late batch is known.** -/
theorem complete_step_iff (h : Complete c.peerCandidates c) (i : Input) :
    Complete (step C c i).peerCandidates (step C c i) ↔ LateBatchKnown c i := by
  rw [step_peerCandidates]
  cases i with
  | initialSetup msg draws =>
    simp only [LateBatchKnown, iff_true, Input.lines, List.append_nil, step, onPeerInitialSetup]
    rcases startIcePhase_cases (C := C) draws with hnothing | ⟨-, -, -, agent, hagent, hknown⟩
    · rw [hnothing]
      exact complete_of_sameKnown h ⟨rfl, rfl, rfl⟩
    · exact complete_of_started hagent hknown
  | candidates lines draws =>
    simp only [LateBatchKnown, Input.lines, step, onPeerCandidates]
    rcases startIcePhase_cases (C := C) draws with hnothing | ⟨hfresh, -, -, agent, hagent, hknown⟩
    · rw [hnothing]
      exact complete_parked_iff h
    · refine iff_of_true (complete_of_started hagent hknown) ?_
      intro hstarted
      exact absurd (hstarted.symm.trans hfresh) (by decide)
  | datagram srcIp srcPort payload draws audio =>
    have hsame := sameKnown_datagram (C := C) (c := c) srcIp srcPort payload draws audio
    simp only [LateBatchKnown, iff_true, Input.lines, List.append_nil]
    rw [← hsame.parked]
    exact complete_of_sameKnown h hsame
  | retryTimer ids =>
    have hsame := sameKnown_retryTimer (C := C) (c := c) ids
    simp only [LateBatchKnown, iff_true, Input.lines, List.append_nil]
    rw [← hsame.parked]
    exact complete_of_sameKnown h hsame

/-! ### Runs -/

theorem run_peerCandidates (c : IceConnection) (inputs : List Input) :
    (run (step C) c inputs).peerCandidates = c.peerCandidates ++ received inputs := by
  induction inputs generalizing c with
  | nil => simp [received]
  | cons i inputs ih =>
    rw [run_cons, ih, step_peerCandidates, List.append_assoc]
    rfl

/-- A connection whose ICE phase has not begun. -/
def ofConnection (base : TgcallsConnection) : IceConnection := { toTgcallsConnection := base }

/-- **When no candidate is lost.**  In every state of a run the agent knows what has been received exactly when every
batch that arrives after the ICE phase has started holds only candidates that have been received before. -/
theorem complete_iff (C : Crypto) (base : TgcallsConnection) (inputs : List Input) :
    (∀ pre, pre <+: inputs → Complete (received pre) (run (step C) (ofConnection base) pre)) ↔
      Guarded (step C) LateBatchKnown (ofConnection base) inputs := by
  have hreceived : ∀ pre, (run (step C) (ofConnection base) pre).peerCandidates = received pre := by
    intro pre
    rw [run_peerCandidates, ofConnection, List.nil_append]
  have hstart : Complete (ofConnection base).peerCandidates (ofConnection base) := by
    intro hstarted
    cases hstarted
  have hexact := reached_iff_guarded_of_step (P := fun c => Complete c.peerCandidates c)
    (fun c i h => complete_step_iff (C := C) h i) inputs hstart
  simp only [hreceived] at hexact
  exact hexact

/-! ### A late batch -/

def sampleBase : TgcallsConnection :=
  { isOutgoing := true, sharedKey := [], reflectors := [], hasSignalingOut := true }

def sampleDraws : IceDraws := { tieBreak := 1, transactionId := fun _ => Vector.replicate 12 1 }

/-- The peer's relay candidate on a second reflector follows in a message of its own. -/
def lateInputs : List Input :=
  [.initialSetup
      { ufrag := "abcd", pwd := "0123456789abcdef012345", supportsRenomination := false, hash := "sha-256"
        setup := "active", fingerprint := [] } sampleDraws,
    .candidates ["candidate:rl1 1 udp 16776959 10.0.0.1 1400 typ relay generation 0 ufrag abcd"] sampleDraws,
    .candidates ["candidate:rl2 1 udp 16514815 10.0.0.2 1400 typ relay generation 0 ufrag abcd"] sampleDraws]

/-- **The late candidate is lost.** -/
theorem late_candidate_lost :
    ¬ Complete (received lateInputs) (run (step ⟨nullCrypto, Srtp.sampleCrypto⟩) (ofConnection sampleBase) lateInputs) := by
  set c := run (step ⟨nullCrypto, Srtp.sampleCrypto⟩) (ofConnection sampleBase) lateInputs with hc
  have hstarted : c.iceStarted = true := by decide +kernel
  have hknown : c.iceAgent.map (fun agent => agent.remoteCandidates.map fun p => p.ip) = some ["10.0.0.1"] := by
    decide +kernel
  have haccepted : (acceptedCandidates (received lateInputs)).map (fun p => p.ip) = ["10.0.0.1", "10.0.0.2"] := by
    decide +kernel
  intro hcomplete
  obtain ⟨agent, hagent, hiff⟩ := hcomplete hstarted
  have hlate : "10.0.0.2" ∈ (acceptedCandidates (received lateInputs)).map fun p => p.ip := by
    rw [haccepted]
    decide
  obtain ⟨candidate, hcandidate, hip⟩ := List.mem_map.1 hlate
  rw [hagent, Option.map_some, Option.some.injEq] at hknown
  have hmem : candidate.ip ∈ agent.remoteCandidates.map fun p => p.ip :=
    List.mem_map_of_mem ((hiff candidate).2 hcandidate)
  rw [hknown, hip] at hmem
  exact absurd hmem (by decide)

end IceConnection

end VianiumVoip.Tgcalls
