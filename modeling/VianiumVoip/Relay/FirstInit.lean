import VianiumVoip.Relay.HandshakeSound

/-!
# The first Init packet of a handshake

A handshake puts nothing under the key on the wire until `Send` has accepted its first Init packet, which has the number
that the handshake was started with.

* `FirstInitGoesOut` — when that packet goes out, told by the answers of the platform;
* `exists_sublist_range` — the numbers on the wire are some of the numbers that the counter gives out, in their order;
* `quiet_of_not_firstInitGoesOut` — without that packet there is no number on the wire, and the handshake fails;
* `first_mem_acceptedSequences` — with it, the first number of the counter is on the wire.
-/

namespace VianiumVoip.Relay

open VianiumVoip.Lib VoipControlPacketCodec VoipPacketCrypto
open VianiumVoip.Domain (kSharedKeyBytes)
open VianiumVoip.Engine (VoipErrorKind)
open VoipReflectorPacketCodec (buildSelfInfoRequest)

section

variable (C : BlockCrypto) (params : HandshakeParams)

/-- The numbers of the packets under the key that `Send` has accepted. -/
def acceptedSequences (socket : List SocketEvent) : List UInt32 :=
  (acceptedSends socket).filterMap fun bytes =>
    (openPacket C params.sharedKey (!params.localIsOutgoing) params.peerTag bytes).map VoipControlPacket.sequence

/-- The first Init packet. -/
def firstInitPacket (next last : UInt32) (random : ℕ → UInt8) : Bytes :=
  (encryptRelayPacketMtProto2Short C params.sharedKey params.localIsOutgoing params.peerTag random
    (buildControlPacket .init (takeNextSequence next).1 last (buildInitPayload false).bytes).bytes).bytes

/-- The first Init packet is accepted in a turn: the key has its length, and `Send` accepts the packet. -/
def InitAccepted (next last : UInt32) (turn : HandshakeTurn) : Prop :=
  params.sharedKey.length = kSharedKeyBytes ∧
    (turn.init.answer (firstInitPacket C params next last turn.init.random)).success = true

/-- **The first Init packet of the handshake goes out**: the peer tag has its length, `Send` accepts the two warm-ups, the
deadline has not passed at the first turn of the loop, and its Init packet is accepted. -/
structure FirstInitGoesOut (next last : UInt32) (input : HandshakeInput) : Prop where
  tag : params.peerTag.length = kPeerTagBytes
  firstWarmup : (input.firstWarmup (buildSelfInfoRequest params.peerTag params.queryId).bytes).success = true
  secondWarmup : (input.secondWarmup (buildSelfInfoRequest params.peerTag params.queryId).bytes).success = true
  firstTurn : ∃ turn rest, input.turns = turn :: rest ∧
    turn.checkedAt < input.startedAt + kControlHandshakeTimeoutMs * ticksPerMs ∧ InitAccepted C params next last turn

end

variable {C : BlockCrypto} {params : HandshakeParams} {next last : UInt32} {s : HandshakeState}
  {input : HandshakeInput}

/-! ### The numbers on the wire -/

theorem acceptedSequences_append (front back : List SocketEvent) :
    acceptedSequences C params (front ++ back)
      = acceptedSequences C params front ++ acceptedSequences C params back := by
  unfold acceptedSequences
  rw [acceptedSends_append, List.filterMap_append]

theorem acceptedSequences_refused (bytes : Bytes) : acceptedSequences C params [.sent bytes false] = [] := rfl

theorem acceptedSequences_closed {bytes : Bytes} (accepted : Bool)
    (h : openPacket C params.sharedKey (!params.localIsOutgoing) params.peerTag bytes = none) :
    acceptedSequences C params [.sent bytes accepted] = [] := by
  cases accepted with
  | false => rfl
  | true =>
    unfold acceptedSequences acceptedSends
    simp [h]

theorem acceptedSequences_opened {bytes : Bytes} {packet : VoipControlPacket}
    (h : openPacket C params.sharedKey (!params.localIsOutgoing) params.peerTag bytes = some packet) :
    acceptedSequences C params [.sent bytes true] = [packet.sequence] := by
  unfold acceptedSequences acceptedSends
  simp [h]

variable (C params) in
theorem acceptedSequences_sublist (socket : List SocketEvent) :
    (acceptedSequences C params socket).Sublist
      ((controlPackets C params socket).map VoipControlPacket.sequence) := by
  induction socket with
  | nil => exact List.Sublist.refl _
  | cons event rest ih =>
    have hsplit : event :: rest = [event] ++ rest := rfl
    rw [hsplit, acceptedSequences_append, controlPackets_append, List.map_append]
    refine List.Sublist.append ?_ ih
    cases event with
    | received bytes => exact List.Sublist.refl _
    | sent bytes accepted =>
      rw [controlPackets_sent]
      cases hpacket : openPacket C params.sharedKey (!params.localIsOutgoing) params.peerTag bytes with
      | none =>
        rw [acceptedSequences_closed accepted hpacket]
        exact List.nil_sublist _
      | some packet =>
        cases accepted with
        | false => exact List.nil_sublist _
        | true =>
          rw [acceptedSequences_opened hpacket]
          exact List.Sublist.refl _

/-- **The numbers on the wire are some of those that the counter gives out**, in their order. -/
theorem Consistent.exists_sublist_range (h : Consistent C params next last s) :
    ∃ js, List.Sublist js (List.range (controlPackets C params s.socket).length) ∧
      acceptedSequences C params s.socket = js.map (sequenceAt next) := by
  have hsublist := acceptedSequences_sublist C params s.socket
  rw [h.sequences_eq] at hsublist
  exact List.sublist_map_iff.1 hsublist

/-! ### What is on the socket stays there -/

namespace HandshakeState

variable (C params s)

theorem socket_prefix_sendControlPacket (type : VoipControlPacketType) (payload : Bytes) (send : SendInput) :
    s.socket <+: (s.sendControlPacket C params type payload send).1.socket := by
  unfold sendControlPacket encryptAndSendControlPacket
  dsimp only
  split_ifs
  · exact List.prefix_refl _
  · exact List.prefix_refl _
  · rw [socket_send]
    exact List.prefix_append _ _

theorem socket_prefix_answerPeer (type : VoipControlPacketType) (payload : Bytes) (send : SendInput) :
    s.socket <+: (s.answerPeer C params type payload send).state.socket := by
  have hsent := socket_prefix_sendControlPacket C params s type payload send
  unfold answerPeer
  generalize s.sendControlPacket C params type payload send = sent at hsent ⊢
  obtain ⟨s', _ | error⟩ := sent
  · exact hsent
  · exact hsent

theorem socket_prefix_handlePacket (packet : VoipControlPacket) (send : SendInput) :
    s.socket <+: (s.handlePacket C params packet send).state.socket := by
  unfold handlePacket
  cases packet.type with
  | initAck =>
    dsimp only
    split_ifs <;> exact List.prefix_refl _
  | init => exact socket_prefix_answerPeer ..
  | ping => exact socket_prefix_answerPeer ..
  | _ => exact List.prefix_refl _

theorem socket_prefix_handleDatagram (received : VoipReflectorDatagramResult) (send : SendInput) :
    s.socket <+: (s.handleDatagram C params received send).state.socket := by
  have hreceived : s.socket <+: (s.countReceived received).socket := List.prefix_append _ _
  unfold handleDatagram
  dsimp only
  split_ifs
  · exact hreceived
  · exact hreceived
  · exact hreceived
  · exact hreceived
  · refine List.IsPrefix.trans ?_ (socket_prefix_handlePacket ..)
    unfold noteRemoteSequence
    split_ifs <;> exact hreceived

theorem socket_prefix_sendInitIfDue (turn : HandshakeTurn) :
    s.socket <+: (s.sendInitIfDue C params turn).1.socket := by
  have hsent := socket_prefix_sendControlPacket C params s .init (buildInitPayload false).bytes
    turn.init
  unfold sendInitIfDue sendInitPacket
  split_ifs
  · generalize s.sendControlPacket C params .init (buildInitPayload false).bytes turn.init = sent at hsent ⊢
    obtain ⟨s', _ | error⟩ := sent
    · exact hsent
    · exact hsent
  · exact List.prefix_refl _

theorem socket_prefix_turn_of_sendInitIfDue {deadline : ℤ} {turn : HandshakeTurn}
    (h : 0 < remainingMs deadline turn.checkedAt ∧ s.initAttempts < kMaxInitAttempts) :
    (s.sendInitIfDue C params turn).1.socket <+: (s.turn C params deadline turn).state.socket := by
  unfold HandshakeState.turn
  rw [if_neg (not_not_intro h)]
  generalize s.sendInitIfDue C params turn = sent
  obtain ⟨s', _ | error⟩ := sent
  · dsimp only
    generalize turn.receive _ = received
    split_ifs
    · exact List.prefix_refl _
    · exact List.prefix_refl _
    · exact socket_prefix_handleDatagram ..
  · exact List.prefix_refl _

theorem socket_prefix_turn (deadline : ℤ) (turn : HandshakeTurn) :
    s.socket <+: (s.turn C params deadline turn).state.socket := by
  by_cases h : 0 < remainingMs deadline turn.checkedAt ∧ s.initAttempts < kMaxInitAttempts
  · exact (socket_prefix_sendInitIfDue C params s turn).trans (socket_prefix_turn_of_sendInitIfDue C params s h)
  · unfold HandshakeState.turn
    rw [if_pos h]
    exact List.prefix_refl _

theorem socket_prefix_loop (deadline : ℤ) (turns : List HandshakeTurn) :
    s.socket <+: (s.loop C params deadline turns).state.socket := by
  induction turns generalizing s with
  | nil => exact List.prefix_refl _
  | cons turn turns ih =>
    have hturn := socket_prefix_turn C params s deadline turn
    unfold HandshakeState.loop
    generalize s.turn C params deadline turn = progress at hturn ⊢
    cases progress with
    | returns s => exact hturn
    | goesOn s => exact hturn.trans (ih s)

end HandshakeState

/-! ### Up to the loop -/

variable (C params next last) in
/-- The handshake has not come to its first Init packet. -/
structure BeforeInit (s : HandshakeState) : Prop where
  nextLocalSequence_eq : s.nextLocalSequence = next
  lastRemoteSequence_eq : s.lastRemoteSequence = last
  initAttempts_eq : s.initAttempts = 0
  acceptedSequences_eq : acceptedSequences C params s.socket = []

theorem openPacket_selfInfo (htag : params.peerTag.length = kPeerTagBytes) :
    openPacket C params.sharedKey (!params.localIsOutgoing) params.peerTag
      (buildSelfInfoRequest params.peerTag params.queryId).bytes = none := by
  refine openPacket_short C params ?_ _
  rw [VoipReflectorPacketCodec.length_buildSelfInfoRequest htag]
  decide

theorem BeforeInit.warmup (h : BeforeInit C params next last s) (htag : params.peerTag.length = kPeerTagBytes)
    (answer : Bytes → VoipReflectorDatagramResult) :
    BeforeInit C params next last (s.send (buildSelfInfoRequest params.peerTag params.queryId).bytes answer).1 ∧
      ((s.send (buildSelfInfoRequest params.peerTag params.queryId).bytes answer).2 = none ↔
        (answer (buildSelfInfoRequest params.peerTag params.queryId).bytes).success = true) := by
  have hclosed := acceptedSequences_closed (C := C)
    (answer (buildSelfInfoRequest params.peerTag params.queryId).bytes).success (openPacket_selfInfo htag)
  have hquiet : acceptedSequences C params
      (s.send (buildSelfInfoRequest params.peerTag params.queryId).bytes answer).1.socket = [] := by
    rw [HandshakeState.socket_send, acceptedSequences_append, h.acceptedSequences_eq, hclosed, List.nil_append]
  obtain ⟨hnext, hlast, -⟩ := HandshakeState.send_frame (s := s)
    (buildSelfInfoRequest params.peerTag params.queryId).bytes answer
  refine ⟨⟨hnext.trans h.nextLocalSequence_eq, hlast.trans h.lastRemoteSequence_eq, ?_, hquiet⟩, ?_⟩
  · rw [← h.initAttempts_eq]
    unfold HandshakeState.send
    dsimp only
    split_ifs <;> rfl
  · unfold HandshakeState.send
    dsimp only
    split_ifs with hrefused
    · simp [hrefused]
    · simp [hrefused]

variable (C params) in
/-- Either a warm-up cannot be built or is refused, and the handshake fails; or it comes to its loop. -/
theorem runControlHandshake_cases (next last : UInt32) (input : HandshakeInput) :
    (∃ s, runControlHandshake C params true next last input = .returns s ∧ acceptedSequences C params s.socket = [] ∧
      s.outcome.error.kind ≠ .none ∧ ¬ FirstInitGoesOut C params next last input) ∨
    ∃ s, runControlHandshake C params true next last input
        = HandshakeState.loop C params (input.startedAt + kControlHandshakeTimeoutMs * ticksPerMs) s input.turns ∧
      BeforeInit C params next last s ∧ params.peerTag.length = kPeerTagBytes ∧
      (input.firstWarmup (buildSelfInfoRequest params.peerTag params.queryId).bytes).success = true ∧
      (input.secondWarmup (buildSelfInfoRequest params.peerTag params.queryId).bytes).success = true := by
  have hstart : BeforeInit C params next last
      { nextInitAt := input.firstInitAt, nextLocalSequence := next, lastRemoteSequence := last } := ⟨rfl, rfl, rfl, rfl⟩
  unfold runControlHandshake
  dsimp only
  rw [if_neg (by decide)]
  by_cases hbuilt : (buildSelfInfoRequest params.peerTag params.queryId).success = false
  · rw [if_pos hbuilt]
    refine .inl ⟨_, rfl, rfl, VoipErrorKind.noConfusion, fun h => ?_⟩
    rw [VoipReflectorPacketCodec.buildSelfInfoRequest_success_iff.2 h.tag] at hbuilt
    cases hbuilt
  rw [if_neg hbuilt]
  have htag : params.peerTag.length = kPeerTagBytes :=
    VoipReflectorPacketCodec.buildSelfInfoRequest_success_iff.1 (Bool.eq_true_of_not_eq_false hbuilt)
  have hfirst := hstart.warmup htag input.firstWarmup
  generalize HandshakeState.send _ (buildSelfInfoRequest params.peerTag params.queryId).bytes input.firstWarmup = sent
    at hfirst ⊢
  obtain ⟨s₁, _ | error⟩ := sent
  · have hsecond := hfirst.1.warmup htag input.secondWarmup
    dsimp only at hsecond ⊢
    generalize s₁.send (buildSelfInfoRequest params.peerTag params.queryId).bytes input.secondWarmup = sent at hsecond ⊢
    obtain ⟨s₂, _ | error⟩ := sent
    · exact .inr ⟨s₂, rfl, hsecond.1, htag, hfirst.2.1 rfl, hsecond.2.1 rfl⟩
    · refine .inl ⟨_, rfl, hsecond.1.acceptedSequences_eq, VoipErrorKind.noConfusion, fun h => ?_⟩
      exact Option.some_ne_none _ (hsecond.2.2 h.secondWarmup)
  · refine .inl ⟨_, rfl, hfirst.1.acceptedSequences_eq, VoipErrorKind.noConfusion, fun h => ?_⟩
    exact Option.some_ne_none _ (hfirst.2.2 h.firstWarmup)

/-! ### The first turn -/

theorem initPacket_success (seq ackSeq : UInt32) :
    (buildControlPacket .init seq ackSeq (buildInitPayload false).bytes).success = true := by
  have hfits : (buildInitPayload false).bytes.length ≤ maxPayloadBytes := by decide
  exact encodeShort_success_iff.2 hfits

theorem encrypt_initPacket_success (hkey : params.sharedKey.length = kSharedKeyBytes)
    (htag : params.peerTag.length = kPeerTagBytes) (seq ackSeq : UInt32) (random : ℕ → UInt8) :
    (encryptRelayPacketMtProto2Short C params.sharedKey params.localIsOutgoing params.peerTag random
      (buildControlPacket .init seq ackSeq (buildInitPayload false).bytes).bytes).success = true := by
  obtain ⟨wire, hsealed, -⟩ := openPacket_sealPacket C params.localIsOutgoing random hkey htag _
    (encodeShort_success_iff.1 (initPacket_success seq ackSeq))
  unfold sealPacket at hsealed
  dsimp only at hsealed
  split_ifs at hsealed with hbuilt hencrypted
  exact Bool.eq_true_of_not_eq_false hencrypted

/-- **The first Init packet.**  It is accepted, with the number that the handshake was started with; or nothing is
accepted and there is an error. -/
theorem BeforeInit.sendInitIfDue (h : BeforeInit C params next last s) (htag : params.peerTag.length = kPeerTagBytes)
    (turn : HandshakeTurn) :
    (InitAccepted C params next last turn ∧
      sequenceAt next 0 ∈ acceptedSequences C params (s.sendInitIfDue C params turn).1.socket) ∨
    ¬ InitAccepted C params next last turn ∧
      acceptedSequences C params (s.sendInitIfDue C params turn).1.socket = [] ∧
      (s.sendInitIfDue C params turn).2 ≠ none := by
  have hbuilt := initPacket_success (takeNextSequence next).1 last
  unfold HandshakeState.sendInitIfDue HandshakeState.sendInitPacket HandshakeState.sendControlPacket
    HandshakeState.encryptAndSendControlPacket InitAccepted firstInitPacket
  dsimp only
  rw [if_pos (.inl h.initAttempts_eq), h.nextLocalSequence_eq, h.lastRemoteSequence_eq, if_neg (by rw [hbuilt]; decide)]
  by_cases hencrypted : (encryptRelayPacketMtProto2Short C params.sharedKey params.localIsOutgoing params.peerTag
      turn.init.random
      (buildControlPacket .init (takeNextSequence next).1 last (buildInitPayload false).bytes).bytes).success = false
  · rw [if_pos hencrypted]
    refine .inr ⟨fun hout => ?_, h.acceptedSequences_eq, Option.some_ne_none _⟩
    rw [encrypt_initPacket_success hout.1 htag] at hencrypted
    cases hencrypted
  rw [if_neg hencrypted]
  have hkey := (lengths_of_encrypt (Bool.eq_true_of_not_eq_false hencrypted)).1
  have hopened := openPacket_encrypted hbuilt (Bool.eq_true_of_not_eq_false hencrypted)
  generalize (encryptRelayPacketMtProto2Short C params.sharedKey params.localIsOutgoing params.peerTag turn.init.random
    (buildControlPacket .init (takeNextSequence next).1 last (buildInitPayload false).bytes).bytes).bytes = bytes
    at hopened ⊢
  unfold HandshakeState.send
  by_cases haccepted : (turn.init.answer bytes).success = true
  · refine .inl ⟨⟨hkey, haccepted⟩, ?_⟩
    simp only [haccepted, Bool.true_eq_false, if_false]
    rw [acceptedSequences_append, acceptedSequences_opened hopened, takeNextSequence_fst]
    exact List.mem_append_right _ (List.mem_singleton.2 rfl)
  · have hrefused := Bool.eq_false_of_not_eq_true haccepted
    refine .inr ⟨fun hout => haccepted hout.2, ?_, ?_⟩
    · simp only [hrefused, if_true]
      rw [acceptedSequences_append, h.acceptedSequences_eq, acceptedSequences_refused, List.append_nil]
    · simp only [hrefused, if_true]
      exact Option.some_ne_none _

theorem remainingMs_pos_iff (deadline now : ℤ) : 0 < remainingMs deadline now ↔ now < deadline := by
  unfold remainingMs
  dsimp only
  split_ifs <;> omega

theorem BeforeInit.turn (h : BeforeInit C params next last s) (htag : params.peerTag.length = kPeerTagBytes)
    (deadline : ℤ) (turn : HandshakeTurn) :
    ((turn.checkedAt < deadline ∧ InitAccepted C params next last turn) ∧
      sequenceAt next 0 ∈ acceptedSequences C params (s.turn C params deadline turn).state.socket) ∨
    ¬ (turn.checkedAt < deadline ∧ InitAccepted C params next last turn) ∧
      ∃ s', s.turn C params deadline turn = .returns s' ∧ acceptedSequences C params s'.socket = [] ∧
        s'.outcome.error.kind ≠ .none := by
  by_cases hcheck : turn.checkedAt < deadline
  · have hgo : 0 < remainingMs deadline turn.checkedAt ∧ s.initAttempts < kMaxInitAttempts :=
      ⟨(remainingMs_pos_iff ..).2 hcheck, by rw [h.initAttempts_eq]; decide⟩
    rcases h.sendInitIfDue htag turn with ⟨haccepted, hmem⟩ | ⟨hnot, hquiet, herror⟩
    · obtain ⟨back, hback⟩ := HandshakeState.socket_prefix_turn_of_sendInitIfDue C params s hgo
      refine .inl ⟨⟨hcheck, haccepted⟩, ?_⟩
      rw [← hback, acceptedSequences_append]
      exact List.mem_append_left _ hmem
    · refine .inr ⟨fun hout => hnot hout.2, ?_⟩
      unfold HandshakeState.turn
      rw [if_neg (not_not_intro hgo)]
      generalize s.sendInitIfDue C params turn = sent at hquiet herror ⊢
      obtain ⟨s', _ | error⟩ := sent
      · exact absurd rfl herror
      · exact ⟨_, rfl, hquiet, VoipErrorKind.noConfusion⟩
  · refine .inr ⟨fun hout => hcheck hout.1, s.timedOut, ?_, h.acceptedSequences_eq, VoipErrorKind.noConfusion⟩
    unfold HandshakeState.turn
    exact if_pos fun hthis => hcheck ((remainingMs_pos_iff ..).1 hthis.1)

theorem BeforeInit.loop (h : BeforeInit C params next last s) (htag : params.peerTag.length = kPeerTagBytes)
    (deadline : ℤ) (turn : HandshakeTurn) (rest : List HandshakeTurn) :
    ((turn.checkedAt < deadline ∧ InitAccepted C params next last turn) ∧
      sequenceAt next 0 ∈ acceptedSequences C params (s.loop C params deadline (turn :: rest)).state.socket) ∨
    ¬ (turn.checkedAt < deadline ∧ InitAccepted C params next last turn) ∧
      ∃ s', s.loop C params deadline (turn :: rest) = .returns s' ∧ acceptedSequences C params s'.socket = [] ∧
        s'.outcome.error.kind ≠ .none := by
  unfold HandshakeState.loop
  rcases h.turn htag deadline turn with ⟨hout, hmem⟩ | ⟨hnot, s', hreturns, hquiet⟩
  · refine .inl ⟨hout, ?_⟩
    generalize s.turn C params deadline turn = progress at hmem ⊢
    cases progress with
    | returns s' => exact hmem
    | goesOn s' =>
      obtain ⟨back, hback⟩ := HandshakeState.socket_prefix_loop C params s' deadline rest
      dsimp only
      rw [← hback, acceptedSequences_append]
      exact List.mem_append_left _ hmem
  · rw [hreturns]
    exact .inr ⟨hnot, s', rfl, hquiet⟩

/-! ### The handshake -/

variable (C params) in
/-- **The first Init packet goes out**, and its number is on the wire; or nothing of the call is, and the handshake does
not return well. -/
theorem firstInit_cases (next last : UInt32) (input : HandshakeInput) :
    (FirstInitGoesOut C params next last input ∧
      sequenceAt next 0 ∈ acceptedSequences C params
        (runControlHandshake C params true next last input).state.socket) ∨
    ¬ FirstInitGoesOut C params next last input ∧
      acceptedSequences C params (runControlHandshake C params true next last input).state.socket = [] ∧
      ∀ s, runControlHandshake C params true next last input = .returns s → s.outcome.error.kind ≠ .none := by
  rcases runControlHandshake_cases C params next last input with
    ⟨s, heq, hquiet, herror, hnot⟩ | ⟨s, heq, hbefore, htag, hfirst, hsecond⟩
  · rw [heq]
    refine .inr ⟨hnot, hquiet, fun s' hreturns => ?_⟩
    cases hreturns
    exact herror
  rw [heq]
  cases hturns : input.turns with
  | nil =>
    refine .inr ⟨fun hout => ?_, hbefore.acceptedSequences_eq, fun s' hreturns => HandshakeProgress.noConfusion hreturns⟩
    obtain ⟨turn, rest, hcons, -⟩ := hout.firstTurn
    rw [hturns] at hcons
    cases hcons
  | cons turn rest =>
    have hiff : FirstInitGoesOut C params next last input ↔
        turn.checkedAt < input.startedAt + kControlHandshakeTimeoutMs * ticksPerMs ∧
          InitAccepted C params next last turn := by
      refine ⟨fun hout => ?_, fun hout => ⟨htag, hfirst, hsecond, turn, rest, hturns, hout⟩⟩
      obtain ⟨turn', rest', hcons, hsent⟩ := hout.firstTurn
      rw [hturns] at hcons
      cases hcons
      exact hsent
    rw [hiff]
    rcases hbefore.loop htag (input.startedAt + kControlHandshakeTimeoutMs * ticksPerMs) turn rest with
      hsent | ⟨hnot, s', hreturns, hquiet, herror⟩
    · exact .inl hsent
    · rw [hreturns]
      refine .inr ⟨hnot, hquiet, fun s'' heq => ?_⟩
      cases heq
      exact herror

theorem exists_sublist_range (C : BlockCrypto) (params : HandshakeParams) (next last : UInt32)
    (input : HandshakeInput) :
    ∃ js, List.Sublist js (List.range (controlPackets C params
        (runControlHandshake C params true next last input).state.socket).length) ∧
      acceptedSequences C params (runControlHandshake C params true next last input).state.socket
        = js.map (sequenceAt next) := by
  have hgood := good_runControlHandshake C params true next last input
  cases hprogress : runControlHandshake C params true next last input with
  | goesOn s =>
    rw [hprogress] at hgood
    exact hgood.1.exists_sublist_range
  | returns s =>
    rw [hprogress] at hgood
    exact hgood.1.exists_sublist_range

end VianiumVoip.Relay
