import VianiumVoip.Relay.CallMedia

/-!
# The sequence numbers of a call

Every handshake of a call that comes so far starts again with the number of the session.  `sequences_fresh_iff` says which
runs give no number twice: those in which the first Init packet of a handshake goes out only while nothing of the call is
on the wire.

The invariant is `Used`: the numbers that are on the wire are some of the first `m` that a counter gives out, and there
is at most one counter, which stands at the `m`-th.
-/

namespace VianiumVoip.Relay

open VianiumVoip.Lib VianiumVoip.Lib.Run VianiumVoip.Domain VoipControlPacketCodec VoipPacketCrypto
open VianiumVoip.Engine (AudioAnswers CallSession CallStartDescriptor CountedSession VoipEndpoint)

namespace CallMedia

variable {D : Smoothing} {C : BlockCrypto} {s : CallMedia D} {descriptor : CallStartDescriptor} {endpoint : VoipEndpoint}
  {rest : List VoipEndpoint}

variable (C) in
/-- The first Init packet for an endpoint goes out only while nothing of the call is on the wire. -/
def Meets (s : CallMedia D) : CallEvent → Prop
  | .tryEndpoint input => ∀ descriptor endpoint rest, s.phase = .trying descriptor (endpoint :: rest) →
      s.InitGoesOut C descriptor endpoint input → s.sequences C = []
  | _ => True

/-! ### The numbers that have been used -/

/-- The counter that waits for its context. -/
def waiting : StartPhase → List UInt32
  | .selected _ handshake => [handshake.nextLocalSequence]
  | _ => []

/-- The counters that are in use. -/
def counters (s : CallMedia D) : List UInt32 := s.contexts.map (fun c => c.ctx.nextLocalSequence) ++ waiting s.phase

variable (C) in
/-- **The numbers up to the `m`-th have been used**: those on the wire are among them, the first one is if there is any;
and there is at most one counter, which stands at the `m`-th. -/
structure Used (m : ℕ) (s : CallMedia D) : Prop where
  le_numbered : m ≤ s.numbered
  sequences_eq : ∃ js, List.Sublist js (List.range m) ∧
    s.sequences C = js.map (sequenceAt s.session.nextLocalSequence)
  first_mem : s.sequences C ≠ [] → sequenceAt s.session.nextLocalSequence 0 ∈ s.sequences C
  counters_eq : ∀ counter ∈ s.counters, sequenceAt counter 0 = sequenceAt s.session.nextLocalSequence m
  one_counter : s.counters.length ≤ 1
  started : s.counters ≠ [] → s.sequences C ≠ []
  keys : ∀ c ∈ s.contexts, c.keys.sharedKey = s.session.sharedKey ∧ c.localIsOutgoing = !s.session.incoming

/-- **No number twice**, within one cycle. -/
theorem Used.nodup {m : ℕ} (h : Used C m s) (hfew : s.numbered < 2 ^ 32 - 1) : (s.sequences C).Nodup := by
  obtain ⟨js, hsublist, hsequences⟩ := h.sequences_eq
  have hlt : ∀ j ∈ js, j < 2 ^ 32 - 1 := fun j hj => by
    have hm := List.mem_range.1 (hsublist.subset hj)
    have hle := h.le_numbered
    omega
  rw [hsequences]
  refine List.Nodup.map_on (fun j hj k hk heq => ?_) (hsublist.nodup List.nodup_range)
  exact sequenceAt_inj (hlt j hj) (hlt k hk) heq

theorem sequences_putOnWire (s : CallMedia D) (descriptor : CallStartDescriptor) (endpoint : VoipEndpoint)
    (handshake : HandshakeState) :
    (s.putOnWire C (s.handshakeParams descriptor endpoint) handshake).sequences C
      = s.sequences C ++ acceptedSequences C (s.handshakeParams descriptor endpoint) handshake.socket := by
  unfold sequences putOnWire acceptedSequences
  rw [List.filterMap_append, List.filterMap_map]
  rfl

theorem Used.congr {m : ℕ} {s' : CallMedia D} (h : Used C m s) (hsession : s'.session = s.session)
    (hwire : s'.wire = s.wire) (hnumbered : s.numbered ≤ s'.numbered) (hcontexts : s'.contexts = s.contexts)
    (hcounters : s'.counters.Sublist s.counters) : Used C m s' := by
  have hsequences : s'.sequences C = s.sequences C := by
    unfold sequences
    rw [hsession, hwire]
  refine ⟨h.le_numbered.trans hnumbered, ?_, ?_, ?_, hcounters.length_le.trans h.one_counter, ?_, ?_⟩
  · rw [hsequences, hsession]
    exact h.sequences_eq
  · rw [hsequences, hsession]
    exact h.first_mem
  · rw [hsession]
    exact fun counter hmem => h.counters_eq counter (hcounters.subset hmem)
  · rw [hsequences]
    refine fun hne => h.started fun hempty => hne ?_
    rw [hempty] at hcounters
    exact List.sublist_nil.1 hcounters
  · rw [hsession, hcontexts]
    exact h.keys

theorem counters_endpointFailed_sublist (s : CallMedia D) (m : CountedSession) (descriptor : CallStartDescriptor)
    (rest : List VoipEndpoint) :
    (s.endpointFailed m descriptor rest).counters.Sublist s.counters := by
  unfold counters endpointFailed
  cases rest with
  | nil => exact List.Sublist.append (List.Sublist.refl _) (List.nil_sublist _)
  | cons next rest => exact List.Sublist.append (List.Sublist.refl _) (List.nil_sublist _)

theorem Used.endpointFailed {m : ℕ} (h : Used C m s) (mediaSession : CountedSession) :
    Used C m (s.endpointFailed mediaSession descriptor rest) := by
  have hcounters := counters_endpointFailed_sublist s mediaSession descriptor rest
  cases rest with
  | nil => exact h.congr rfl rfl le_rfl rfl hcounters
  | cons next rest => exact h.congr rfl rfl le_rfl rfl hcounters

theorem sequences_endpointFailed (m : CountedSession) :
    (s.endpointFailed m descriptor rest).sequences C = s.sequences C := by
  cases rest <;> rfl

theorem Used.putOnWire_quiet {m : ℕ} {handshake : HandshakeState} (h : Used C m s)
    (hquiet : acceptedSequences C (s.handshakeParams descriptor endpoint) handshake.socket = []) :
    Used C m (s.putOnWire C (s.handshakeParams descriptor endpoint) handshake) := by
  have hsequences := sequences_putOnWire (C := C) s descriptor endpoint handshake
  rw [hquiet, List.append_nil] at hsequences
  refine ⟨h.le_numbered.trans (Nat.le_add_right _ _), ?_, ?_, h.counters_eq, h.one_counter, ?_, h.keys⟩
  · rw [hsequences]
    exact h.sequences_eq
  · rw [hsequences]
    exact h.first_mem
  · rw [hsequences]
    exact h.started

theorem Used.putOnWire_first {m : ℕ} {handshake : HandshakeState} (h : Used C m s) (hempty : s.sequences C = [])
    (hfacts : HandshakeFacts C s (s.handshakeParams descriptor endpoint) True handshake) :
    Used C (controlPackets C (s.handshakeParams descriptor endpoint) handshake.socket).length
      (s.putOnWire C (s.handshakeParams descriptor endpoint) handshake) := by
  have hsequences := sequences_putOnWire (C := C) s descriptor endpoint handshake
  rw [hempty, List.nil_append] at hsequences
  have hcounters : s.counters = [] := by
    by_contra hne
    exact h.started hne hempty
  refine ⟨Nat.le_add_left _ _, ?_, fun _ => ?_, ?_, h.one_counter, fun hne => absurd hcounters hne, h.keys⟩
  · rw [hsequences]
    exact hfacts.sequences_eq
  · rw [hsequences]
    exact hfacts.first_mem trivial
  · intro counter hmem
    have hmem : counter ∈ s.counters := hmem
    rw [hcounters] at hmem
    cases hmem

theorem Used.select {m : ℕ} {handshake : HandshakeState} (h : Used C m s) (hcounters : s.counters = [])
    (hsequences : s.sequences C ≠ [])
    (hcounter : sequenceAt handshake.nextLocalSequence 0 = sequenceAt s.session.nextLocalSequence m)
    (mediaSession : CountedSession) :
    Used C m { s with mediaSession := mediaSession, phase := .selected endpoint handshake } := by
  have hnone : s.contexts.map (fun c => c.ctx.nextLocalSequence) = [] := (List.append_eq_nil_iff.1 hcounters).1
  have hone : counters { s with mediaSession := mediaSession, phase := .selected endpoint handshake }
      = [handshake.nextLocalSequence] := by
    unfold counters
    dsimp only
    rw [hnone, List.nil_append]
    rfl
  refine ⟨h.le_numbered, h.sequences_eq, h.first_mem, ?_, ?_, fun _ => hsequences, h.keys⟩
  · rw [hone]
    intro counter hmem
    rw [List.mem_singleton.1 hmem]
    exact hcounter
  · rw [hone]
    exact le_rfl

/-- **An endpoint that meets its condition.** -/
theorem Used.tryEndpoint {m : ℕ} (h : Used C m s) {input : EndpointInput} (hmeets : s.Meets C (.tryEndpoint input)) :
    ∃ m, Used C m (s.tryEndpoint C input) := by
  cases hphase : s.phase with
  | idle =>
    unfold CallMedia.tryEndpoint
    rw [hphase]
    exact ⟨m, h⟩
  | selected endpoint handshake =>
    unfold CallMedia.tryEndpoint
    rw [hphase]
    exact ⟨m, h⟩
  | trying descriptor untried =>
    rcases untried with _ | ⟨endpoint, rest⟩
    · unfold CallMedia.tryEndpoint
      rw [hphase]
      exact ⟨m, h⟩
    rcases tryEndpoint_cases (C := C) hphase input with ⟨mediaSession, htried, -⟩ | ⟨hfacts, mediaSession, hjudged⟩
    · rw [htried]
      exact ⟨m, h.endpointFailed mediaSession⟩
    by_cases hout : s.InitGoesOut C descriptor endpoint input
    · -- nothing was on the wire, so there was no counter either
      have hempty := hmeets descriptor endpoint rest hphase hout
      have hfacts : HandshakeFacts C s (s.handshakeParams descriptor endpoint) True
          (s.handshake C descriptor endpoint input) :=
        ⟨hfacts.sequences_eq, fun _ => hfacts.first_mem hout, fun hnot => absurd trivial hnot, hfacts.counter_eq⟩
      have hfirst := h.putOnWire_first hempty hfacts
      rcases hjudged with ⟨-, htried⟩ | ⟨hok, htried⟩
      · rw [htried]
        exact ⟨_, hfirst.endpointFailed mediaSession⟩
      · rw [htried]
        refine ⟨_, hfirst.select ?_ ?_ (hfacts.counter_eq hok) mediaSession⟩
        · by_contra hne
          exact h.started hne hempty
        · rw [sequences_putOnWire]
          exact List.ne_nil_of_mem (List.mem_append_right _ (hfacts.first_mem trivial))
    · obtain ⟨hquiet, herror⟩ := hfacts.quiet hout
      rcases hjudged with ⟨-, htried⟩ | ⟨hok, -⟩
      · rw [htried]
        exact ⟨m, (h.putOnWire_quiet hquiet).endpointFailed mediaSession⟩
      · exact absurd hok herror

/-- **An endpoint that does not** puts the first number on the wire once more. -/
theorem Used.not_nodup {m : ℕ} (h : Used C m s) {event : CallEvent} (hnot : ¬ s.Meets C event) :
    ¬ ((s.step C event).sequences C).Nodup := by
  cases event with
  | tryEndpoint input =>
    simp only [Meets, not_forall] at hnot
    obtain ⟨descriptor, endpoint, rest, hphase, hout, hne⟩ := hnot
    rcases tryEndpoint_cases (C := C) hphase input with ⟨mediaSession, -, hnotOut⟩ | ⟨hfacts, mediaSession, hjudged⟩
    · exact absurd hout hnotOut
    have hsequences : (s.step C (.tryEndpoint input)).sequences C = s.sequences C
        ++ acceptedSequences C (s.handshakeParams descriptor endpoint)
          (s.handshake C descriptor endpoint input).socket := by
      rw [← sequences_putOnWire]
      unfold step
      dsimp only
      rcases hjudged with ⟨-, htried⟩ | ⟨-, htried⟩
      · rw [htried, sequences_endpointFailed]
      · rw [htried]
        rfl
    rw [hsequences, List.nodup_append]
    rintro ⟨-, -, hdisjoint⟩
    exact hdisjoint _ (h.first_mem hne) _ (hfacts.first_mem hout) rfl
  | _ => exact absurd trivial hnot

/-! ### The other events -/

theorem Used.startMedia {m : ℕ} (h : Used C m s) (descriptor : CallStartDescriptor) :
    Used C m (s.startMedia descriptor) := by
  unfold CallMedia.startMedia
  cases hphase : s.phase with
  | idle =>
    dsimp only
    split_ifs
    · refine h.congr rfl rfl le_rfl rfl ?_
      unfold counters
      exact List.Sublist.append (List.Sublist.refl _) (List.nil_sublist _)
    · exact h
  | _ => exact h

theorem Used.stopMedia {m : ℕ} (h : Used C m s) : Used C m { s with mediaSession := s.mediaSession.stop } :=
  h.congr rfl rfl le_rfl rfl (List.Sublist.refl _)

theorem relayKeys?_sharedKey {sharedKey peerTag : Bytes} {keys : RelayKeys}
    (h : relayKeys? sharedKey peerTag = some keys) :
    keys.sharedKey = sharedKey := by
  unfold relayKeys? at h
  split_ifs at h
  cases h
  rfl

theorem Used.openContext {m : ℕ} {handshake : HandshakeState} {c : CallContext D} (h : Used C m s)
    (hphase : s.phase = .selected endpoint handshake) (hcounter : c.ctx.nextLocalSequence = handshake.nextLocalSequence)
    (hkeys : c.keys.sharedKey = s.session.sharedKey) (hdirection : c.localIsOutgoing = !s.session.incoming) :
    Used C m { s with phase := .idle, contexts := s.contexts ++ [c] } := by
  have hcounters : counters { s with phase := .idle, contexts := s.contexts ++ [c] } = s.counters := by
    unfold counters
    rw [hphase]
    simp [waiting, hcounter]
  refine ⟨h.le_numbered, h.sequences_eq, h.first_mem, ?_, ?_, ?_, ?_⟩
  · rw [hcounters]
    exact h.counters_eq
  · rw [hcounters]
    exact h.one_counter
  · rw [hcounters]
    exact h.started
  · intro c' hmem
    rcases List.mem_append.1 hmem with hmem | hmem
    · exact h.keys c' hmem
    · rw [List.mem_singleton.1 hmem]
      exact ⟨hkeys, hdirection⟩

/-- The counter of the endpoint goes into a context, or is given up. -/
theorem Used.openAudio {m : ℕ} (h : Used C m s) (answers : AudioAnswers) : Used C m (s.openAudio answers) := by
  unfold CallMedia.openAudio
  cases hphase : s.phase with
  | selected endpoint handshake =>
    have hgivenUp : Used C m { s with mediaSession := s.mediaSession.stop, phase := .idle } := by
      refine h.congr rfl rfl le_rfl rfl ?_
      unfold counters
      exact List.Sublist.append (List.Sublist.refl _) (List.nil_sublist _)
    dsimp only
    cases answers.error with
    | some error => exact hgivenUp
    | none =>
      cases hkeys : relayKeys? s.session.sharedKey endpoint.peerTag with
      | none => exact hgivenUp
      | some keys => exact h.openContext hphase rfl (relayKeys?_sharedKey hkeys) rfl
  | _ => exact h

/-- A context is the only one, and its counter the only counter. -/
theorem Used.only_context {m i : ℕ} {c : CallContext D} (h : Used C m s) (hcontext : s.contexts[i]? = some c) :
    i = 0 ∧ s.contexts = [c] ∧ waiting s.phase = [] := by
  obtain ⟨hi, -⟩ := List.getElem?_eq_some_iff.1 hcontext
  have hlen := h.one_counter
  unfold counters at hlen
  rw [List.length_append, List.length_map] at hlen
  obtain ⟨c', hcontexts⟩ := List.length_eq_one_iff.1 (show s.contexts.length = 1 by omega)
  obtain rfl : i = 0 := by omega
  rw [hcontexts] at hcontext
  obtain rfl : c' = c := Option.some.inj hcontext
  exact ⟨rfl, hcontexts, List.length_eq_zero_iff.1 (by omega)⟩

/-- **Behind a turn in the only context.**  The numbers at the places `js` have gone out. -/
theorem Used.context {m m' : ℕ} {s' : CallMedia D} {c : CallContext D} (c' : CallContext D) (js : List ℕ)
    (h : Used C m s) (hcontexts : s.contexts = [c]) (hwaiting : waiting s.phase = []) (hsession : s'.session = s.session)
    (hphase : s'.phase = s.phase) (hcontexts' : s'.contexts = [c']) (hkeys : c'.keys = c.keys)
    (hdirection : c'.localIsOutgoing = c.localIsOutgoing) (hnumbered : m' ≤ s'.numbered)
    (hsequences : s'.sequences C = s.sequences C ++ js.map (sequenceAt s.session.nextLocalSequence))
    (hrange : (List.range m ++ js).Sublist (List.range m'))
    (hcounter : sequenceAt c'.ctx.nextLocalSequence 0 = sequenceAt s.session.nextLocalSequence m') : Used C m' s' := by
  have hcounters' : s'.counters = [c'.ctx.nextLocalSequence] := by
    unfold counters
    rw [hcontexts', hphase, hwaiting, List.map_singleton, List.append_nil]
  have hstarted : s.sequences C ≠ [] := by
    refine h.started ?_
    unfold counters
    rw [hcontexts]
    exact List.cons_ne_nil _ _
  obtain ⟨is, hsublist, hbefore⟩ := h.sequences_eq
  refine ⟨hnumbered, ⟨is ++ js, (hsublist.append (List.Sublist.refl js)).trans hrange, ?_⟩, fun _ => ?_, ?_, ?_,
    fun _ => ?_, ?_⟩
  · rw [hsequences, hbefore, hsession, List.map_append]
  · rw [hsequences, hsession]
    exact List.mem_append_left _ (h.first_mem hstarted)
  · intro counter hmem
    rw [hcounters', List.mem_singleton] at hmem
    rw [hmem, hsession, hcounter]
  · rw [hcounters']
    exact le_rfl
  · rw [hsequences]
    exact fun hempty => hstarted (List.append_eq_nil_iff.1 hempty).1
  · intro c'' hmem
    rw [hcontexts', List.mem_singleton] at hmem
    rw [hmem, hkeys, hdirection, hsession]
    exact h.keys c (by rw [hcontexts]; exact List.mem_singleton.2 rfl)

theorem sequences_afterTurn (s : CallMedia D) (i : ℕ) (c : CallContext D) (given : Option Bytes)
    (accepted : Bytes → Bool) (ctx : VoipActiveMediaContext D) :
    (s.afterTurn i c given accepted ctx).sequences C = s.sequences C ++
      ((given.filter accepted).toList.map (WirePacket.mk c.keys.peerTag)).filterMap (sequenceOf C s.session) :=
  List.filterMap_append ..

theorem sequences_given {session : CallSession} {peerTag : Bytes} {seq : UInt32} {given : Option Bytes}
    (h : ∀ bytes, given = some bytes → ∃ packet,
      openPacket C session.sharedKey (!!session.incoming) peerTag bytes = some packet ∧ packet.sequence = seq)
    (accepted : Bytes → Bool) :
    ((given.filter accepted).toList.map (WirePacket.mk peerTag)).filterMap (sequenceOf C session) = [] ∨
      ((given.filter accepted).toList.map (WirePacket.mk peerTag)).filterMap (sequenceOf C session) = [seq] := by
  cases given with
  | none => exact .inl rfl
  | some bytes =>
    obtain ⟨packet, hopened, hseq⟩ := h bytes rfl
    have hsequence : sequenceOf C session { peerTag := peerTag, bytes := bytes } = some seq := by
      unfold sequenceOf
      rw [hopened, Option.map_some, hseq]
    by_cases haccepted : accepted bytes = true
    · right
      rw [Option.filter_some, if_pos haccepted]
      exact List.filterMap_cons_some hsequence
    · left
      rw [Option.filter_some, if_neg haccepted]
      rfl

theorem Used.afterTurn_idle {m : ℕ} {c : CallContext D} {ctx : VoipActiveMediaContext D} (h : Used C m s)
    (hcontexts : s.contexts = [c]) (hwaiting : waiting s.phase = [])
    (hcounter : sequenceAt c.ctx.nextLocalSequence 0 = sequenceAt s.session.nextLocalSequence m)
    (hsame : ctx.nextLocalSequence = c.ctx.nextLocalSequence) (accepted : Bytes → Bool) :
    Used C m (s.afterTurn 0 c none accepted ctx) := by
  refine h.context { c with ctx := ctx } [] hcontexts hwaiting rfl rfl ?_ rfl rfl ?_ ?_ ?_ ?_
  · unfold afterTurn
    rw [hcontexts]
    rfl
  · exact h.le_numbered.trans (Nat.le_add_right _ _)
  · rw [sequences_afterTurn]
    rfl
  · rw [List.append_nil]
  · rw [← hcounter, ← hsame]

theorem Used.afterTurn_taken {m : ℕ} {c : CallContext D} {ctx : VoipActiveMediaContext D} {given : Option Bytes}
    (h : Used C m s) (hcontexts : s.contexts = [c]) (hwaiting : waiting s.phase = [])
    (hcounter : sequenceAt c.ctx.nextLocalSequence 0 = sequenceAt s.session.nextLocalSequence m)
    (hnext : ctx.nextLocalSequence = (takeNextSequence c.ctx.nextLocalSequence).2)
    (hopened : ∀ bytes, given = some bytes → ∃ packet,
      openPacket C s.session.sharedKey (!!s.session.incoming) c.keys.peerTag bytes = some packet ∧
        packet.sequence = sequenceAt s.session.nextLocalSequence m) (accepted : Bytes → Bool) :
    Used C (m + 1) (s.afterTurn 0 c given accepted ctx) := by
  have hmoved : ctx.nextLocalSequence ≠ c.ctx.nextLocalSequence := by
    rw [hnext]
    exact takeNextSequence_snd_ne _
  have hbehind : sequenceAt ctx.nextLocalSequence 0 = sequenceAt s.session.nextLocalSequence (m + 1) := by
    rw [hnext, takeNextSequence_snd, sequenceAt_sequenceAt, ← sequenceAt_zero_sequenceAt, hcounter,
      sequenceAt_sequenceAt]
  obtain ⟨js, hsent, hrange⟩ : ∃ js, ((given.filter accepted).toList.map (WirePacket.mk c.keys.peerTag)).filterMap
        (sequenceOf C s.session) = js.map (sequenceAt s.session.nextLocalSequence) ∧
      (List.range m ++ js).Sublist (List.range (m + 1)) := by
    rw [List.range_succ]
    rcases sequences_given hopened accepted with hnothing | hsent
    · exact ⟨[], hnothing, List.Sublist.append (List.Sublist.refl _) (List.nil_sublist _)⟩
    · exact ⟨[m], hsent, List.Sublist.refl _⟩
  refine h.context { c with ctx := ctx } js hcontexts hwaiting rfl rfl ?_ rfl rfl ?_ ?_ hrange hbehind
  · unfold afterTurn
    rw [hcontexts]
    rfl
  · unfold afterTurn
    rw [if_neg hmoved]
    exact Nat.succ_le_succ h.le_numbered
  · rw [sequences_afterTurn, hsent]

/-- A turn in a context takes the next number, or none. -/
theorem Used.mediaTurn {m : ℕ} (h : Used C m s) (i : ℕ) (turn : MediaTurn) (input : SendInput) :
    ∃ m, Used C m (s.mediaTurn C i turn input) := by
  unfold CallMedia.mediaTurn
  cases hcontext : s.contexts[i]? with
  | none => exact ⟨m, h⟩
  | some c =>
    obtain ⟨rfl, hcontexts, hwaiting⟩ := h.only_context hcontext
    obtain ⟨hkey, hdirection⟩ := h.keys c (by rw [hcontexts]; exact List.mem_singleton.2 rfl)
    have hcounter := h.counters_eq c.ctx.nextLocalSequence (by
      unfold counters
      rw [hcontexts]
      exact List.mem_cons_self)
    have htakes := takesNumber_turn (C := C) c input turn
    dsimp only
    generalize c.turn C input turn = result at htakes ⊢
    obtain ⟨given, ctx⟩ := result
    rcases htakes with ⟨hnone, hsame⟩ | ⟨hnext, hopened⟩
    · obtain rfl : given = none := hnone
      exact ⟨m, h.afterTurn_idle hcontexts hwaiting hcounter hsame _⟩
    · rw [hkey, hdirection, takeNextSequence_fst, hcounter] at hopened
      exact ⟨m + 1, h.afterTurn_taken hcontexts hwaiting hcounter hnext hopened _⟩

/-! ### A run -/

/-- **A step that meets its condition.** -/
theorem Used.step {m : ℕ} (h : Used C m s) {event : CallEvent} (hmeets : s.Meets C event) :
    ∃ m, Used C m (s.step C event) := by
  cases event with
  | startMedia descriptor => exact ⟨m, h.startMedia descriptor⟩
  | tryEndpoint input => exact h.tryEndpoint hmeets
  | openAudio answers => exact ⟨m, h.openAudio answers⟩
  | stopMedia => exact ⟨m, h.stopMedia⟩
  | turn i turn input => exact h.mediaTurn i turn input

theorem numbered_endpointFailed (m : CountedSession) :
    (s.endpointFailed m descriptor rest).numbered = s.numbered := by
  cases rest <;> rfl

theorem numbered_le_tryEndpoint (s : CallMedia D) (input : EndpointInput) :
    s.numbered ≤ (s.tryEndpoint C input).numbered := by
  cases hphase : s.phase with
  | trying descriptor untried =>
    rcases untried with _ | ⟨endpoint, rest⟩
    · unfold CallMedia.tryEndpoint
      rw [hphase]
    rcases tryEndpoint_cases (C := C) hphase input with ⟨m, htried, -⟩ | ⟨-, m, ⟨-, htried⟩ | ⟨-, htried⟩⟩
    · rw [htried, numbered_endpointFailed]
    · rw [htried, numbered_endpointFailed]
      exact Nat.le_add_right _ _
    · rw [htried]
      exact Nat.le_add_right _ _
  | _ =>
    unfold CallMedia.tryEndpoint
    rw [hphase]

theorem numbered_le_step (s : CallMedia D) (event : CallEvent) : s.numbered ≤ (s.step C event).numbered := by
  cases event with
  | startMedia descriptor =>
    unfold CallMedia.step CallMedia.startMedia
    dsimp only
    split
    · split_ifs <;> exact le_rfl
    · exact le_rfl
  | tryEndpoint input => exact numbered_le_tryEndpoint s input
  | openAudio answers =>
    unfold CallMedia.step CallMedia.openAudio
    dsimp only
    split
    · split <;> exact le_rfl
    · exact le_rfl
  | stopMedia => exact le_rfl
  | turn i turn input =>
    unfold CallMedia.step CallMedia.mediaTurn
    dsimp only
    split
    · exact le_rfl
    · exact Nat.le_add_right _ _

theorem numbered_le_run (s : CallMedia D) (events : List CallEvent) :
    s.numbered ≤ (run (step C) s events).numbered := by
  induction events generalizing s with
  | nil => exact le_rfl
  | cons event events ih => exact (numbered_le_step s event).trans (ih _)

theorem used_start (session : CallSession) : Used C 0 ({ session := session } : CallMedia D) where
  le_numbered := le_rfl
  sequences_eq := ⟨[], List.Sublist.refl _, rfl⟩
  first_mem := fun hne => absurd rfl hne
  counters_eq := fun _ hmem => nomatch hmem
  one_counter := Nat.zero_le _
  started := fun hne => absurd rfl hne
  keys := fun _ hmem => nomatch hmem

variable (C D) in
/-- **When no number is used twice.**  While fewer than `2 ^ 32 - 1` numbers are taken, no two packets under the key of
the call have the same number, in any state that the run reaches, exactly when the first Init packet for an endpoint goes
out only while nothing of the call is on the wire. -/
theorem sequences_fresh_iff (session : CallSession) (events : List CallEvent)
    (hfew : (run (step C) ({ session := session } : CallMedia D) events).numbered < 2 ^ 32 - 1) :
    (∀ pre, pre <+: events → ((run (step C) ({ session := session } : CallMedia D) pre).sequences C).Nodup) ↔
      Guarded (step C) (Meets C) ({ session := session } : CallMedia D) events := by
  have hstart : ∃ m, Used C m ({ session := session } : CallMedia D) := ⟨0, used_start session⟩
  have hkeeps : ∀ (s : CallMedia D) event, (∃ m, Used C m s) → s.Meets C event → ∃ m, Used C m (s.step C event) :=
    fun s event h hmeets => h.elim fun m h => h.step hmeets
  constructor
  · refine guarded_of_reached (P := fun s => (s.sequences C).Nodup) hkeeps (fun s event h hnot => ?_) hstart
    exact h.elim fun m h => h.not_nodup hnot
  · intro hguarded pre hpre
    obtain ⟨m, hused⟩ := invariant_run hkeeps hstart (hguarded.of_prefix hpre)
    obtain ⟨post, rfl⟩ := hpre
    refine hused.nodup (lt_of_le_of_lt ?_ hfew)
    rw [run_append]
    exact numbered_le_run _ post

/-! ### A call with two endpoints -/

/-- An outgoing call whose key is ready. -/
def sampleSession : CallSession where
  callId := 1
  sharedReady := true
  sharedKey := List.replicate 256 1

def sampleEndpoint (ip : String) : VoipEndpoint where
  ip := ip
  port := 443
  peerTag := List.replicate 16 0x30

def sampleDescriptor : CallStartDescriptor where
  callId := 1
  keyHandle := "voip-call:1"
  libraryVersions := ["2.4.4"]
  endpoints := [sampleEndpoint "10.0.0.1", sampleEndpoint "10.0.0.2"]

/-- The endpoint is silent: two Init packets go out. -/
def silentEndpoint : EndpointInput where
  handshake := silentPeer
  deadline_comes := ⟨silentTurn 13000, by simp [silentPeer], by decide⟩

/-- The socket refuses the first warm-up. -/
def refusedEndpoint : EndpointInput where
  handshake := { silentPeer with firstWarmup := fun _ => { error := "send failed" } }
  deadline_comes := ⟨silentTurn 13000, by simp [silentPeer], by decide⟩

def sampleCall (events : List CallEvent) : CallMedia System.sampleSmoothing :=
  run (step sampleBlockCrypto) { session := sampleSession } events

/-- The socket of the first endpoint refuses, and the second one is silent: the numbers are those of one handshake. -/
theorem fresh_behind_refused :
    (sampleCall [.startMedia sampleDescriptor, .tryEndpoint refusedEndpoint, .tryEndpoint silentEndpoint]).sequences
        sampleBlockCrypto = [1, 2] ∧
      ((sampleCall [.startMedia sampleDescriptor, .tryEndpoint refusedEndpoint, .tryEndpoint silentEndpoint]).sequences
        sampleBlockCrypto).Nodup := by
  refine ⟨by decide +kernel,
    (sequences_fresh_iff System.sampleSmoothing sampleBlockCrypto sampleSession _ ?_).2 ?_ _ (List.prefix_refl _)⟩
  · decide +kernel
  · exact ⟨trivial, fun _ _ _ _ _ => by decide +kernel, fun _ _ _ _ _ => by decide +kernel, trivial⟩

/-- **The second endpoint begins again.**  Both are silent; the Init packets for each have the numbers 1 and 2. -/
theorem second_endpoint_repeats :
    (sampleCall [.startMedia sampleDescriptor, .tryEndpoint silentEndpoint, .tryEndpoint silentEndpoint]).sequences
        sampleBlockCrypto = [1, 2, 1, 2] ∧
      (sampleCall [.startMedia sampleDescriptor, .tryEndpoint silentEndpoint, .tryEndpoint silentEndpoint]).numbered
        < 2 ^ 32 - 1 ∧
      ¬ ((sampleCall [.startMedia sampleDescriptor, .tryEndpoint silentEndpoint, .tryEndpoint silentEndpoint]).sequences
        sampleBlockCrypto).Nodup := by
  have hsequences : (sampleCall [.startMedia sampleDescriptor, .tryEndpoint silentEndpoint,
      .tryEndpoint silentEndpoint]).sequences sampleBlockCrypto = [1, 2, 1, 2] := by decide +kernel
  refine ⟨hsequences, by decide +kernel, ?_⟩
  rw [hsequences]
  decide

end CallMedia

end VianiumVoip.Relay
