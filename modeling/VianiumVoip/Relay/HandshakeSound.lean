import VianiumVoip.Relay.ControlHandshake
import VianiumVoip.Relay.InitAckReads

/-!
# What the control handshake guarantees

* `sequenceAt` — the numbers that `TakeNextSequence` gives out, one after the other: a cycle of `2 ^ 32 - 1` numbers,
  without the 0;
* `accepts_iff` — the InitAck that is accepted: a version that fits, and an Opus stream that is enabled;
* `Consistent` — what the counters have to do with the socket, kept by every piece of a turn;
* `handshake_sound` — the handshake over all inputs.
-/

namespace VianiumVoip.Relay

open VianiumVoip.Lib VoipControlPacketCodec VoipPacketCrypto
open VianiumVoip.Domain (kSharedKeyBytes)
open VianiumVoip.Engine (VoipError VoipErrorKind)
open VoipReflectorPacketCodec (buildSelfInfoRequest parseSelfInfoResponse)

/-! ### The numbers -/

/-- The `n`-th number that is taken from a counter at `next`. -/
def sequenceAt (next : UInt32) (n : ℕ) : UInt32 := UInt32.ofNat ((next.toNat - 1 + n) % (2 ^ 32 - 1) + 1)

theorem toNat_sequenceAt (next : UInt32) (n : ℕ) :
    (sequenceAt next n).toNat = (next.toNat - 1 + n) % (2 ^ 32 - 1) + 1 := by
  have hlt := Nat.mod_lt (next.toNat - 1 + n) (show 0 < 2 ^ 32 - 1 by decide)
  rw [sequenceAt, UInt32.toNat_ofNat', Nat.mod_eq_of_lt (by omega)]

theorem sequenceAt_ne_zero (next : UInt32) (n : ℕ) : sequenceAt next n ≠ 0 := by
  intro h
  have := congrArg UInt32.toNat h
  rw [toNat_sequenceAt] at this
  exact absurd this (Nat.succ_ne_zero _)

theorem sequenceAt_sequenceAt (next : UInt32) (n m : ℕ) :
    sequenceAt (sequenceAt next n) m = sequenceAt next (n + m) := by
  apply UInt32.toNat_inj.1
  rw [toNat_sequenceAt, toNat_sequenceAt, toNat_sequenceAt, Nat.add_sub_cancel, Nat.mod_add_mod, Nat.add_assoc]

theorem sequenceAt_zero_sequenceAt (next : UInt32) (n : ℕ) :
    sequenceAt (sequenceAt next 0) n = sequenceAt next n := by rw [sequenceAt_sequenceAt, Nat.zero_add]

theorem takeNextSequence_fst (next : UInt32) : (takeNextSequence next).1 = sequenceAt next 0 := by
  apply UInt32.toNat_inj.1
  have hlt := next.toNat_lt
  rw [toNat_sequenceAt]
  unfold takeNextSequence
  by_cases hzero : next = 0
  · subst hzero
    rfl
  · have hpos : next.toNat ≠ 0 := fun h => hzero (UInt32.toNat_inj.1 h)
    simp only [if_neg hzero]
    omega

theorem takeNextSequence_snd (next : UInt32) : (takeNextSequence next).2 = sequenceAt next 1 := by
  rw [← sequenceAt_zero_sequenceAt, ← takeNextSequence_fst]
  have hne : (takeNextSequence next).1 ≠ 0 := takeNextSequence_fst next ▸ sequenceAt_ne_zero next 0
  have hsnd : (takeNextSequence next).2 = if (takeNextSequence next).1 + 1 = 0 then 1 else (takeNextSequence next).1 + 1 :=
    rfl
  rw [hsnd]
  generalize (takeNextSequence next).1 = seq at hne ⊢
  apply UInt32.toNat_inj.1
  have hlt := seq.toNat_lt
  have hpos : seq.toNat ≠ 0 := fun h => hne (UInt32.toNat_inj.1 h)
  have hsucc : (seq + 1).toNat = (seq.toNat + 1) % 2 ^ 32 := UInt32.toNat_add ..
  rw [toNat_sequenceAt]
  by_cases hwrap : seq + 1 = 0
  · rw [if_pos hwrap]
    have hwrapNat : (seq.toNat + 1) % 2 ^ 32 = 0 := by rw [← hsucc, hwrap]; rfl
    have hone : (1 : UInt32).toNat = 1 := rfl
    omega
  · rw [if_neg hwrap, hsucc]
    have hne : (seq.toNat + 1) % 2 ^ 32 ≠ 0 := fun h => hwrap (UInt32.toNat_inj.1 (hsucc.trans h))
    omega

/-- No number comes twice within a cycle. -/
theorem sequenceAt_inj {next : UInt32} {n m : ℕ} (hn : n < 2 ^ 32 - 1) (hm : m < 2 ^ 32 - 1)
    (h : sequenceAt next n = sequenceAt next m) : n = m := by
  have hnat := congrArg UInt32.toNat h
  rw [toNat_sequenceAt, toNat_sequenceAt] at hnat
  omega

theorem takeNextSequence_snd_ne (next : UInt32) : (takeNextSequence next).2 ≠ next := by
  intro heq
  have hzero : sequenceAt next 0 = sequenceAt next 1 := by
    rw [takeNextSequence_snd] at heq
    calc
      sequenceAt next 0 = sequenceAt (sequenceAt next 1) 0 := by rw [heq]
      _ = sequenceAt next 1 := sequenceAt_sequenceAt next 1 0
  exact absurd (sequenceAt_inj (by decide) (by decide) hzero) (by decide)

/-! ### The InitAck that is accepted -/

/-- The payload of an InitAck says that its sender speaks our version and has an Opus stream that is enabled. -/
structure AnnouncesOpus (payload : Bytes) : Prop extends Announces payload where
  opus : ∃ stream ∈ streams payload, stream.isAudioOpus = true

/-- **The InitAck that ends the handshake well.** -/
theorem accepts_iff {payload : Bytes} :
    (parseInitAckPayload payload).success = true ∧ (parseInitAckPayload payload).initAck.hasAudioOpusStream = true ↔
      AnnouncesOpus payload := by
  have hopus : (reported payload ((streams payload).filter (·.isAudioOpus)).getLast?).hasAudioOpusStream = true ↔
      ∃ stream ∈ streams payload, stream.isAudioOpus = true := by
    rw [← Bool.not_eq_false, reported_hasAudioOpusStream]
    simp only [not_forall, Bool.not_eq_false, exists_prop]
  rw [parseInitAckPayload_success_iff]
  constructor
  · rintro ⟨hannounces, hreported⟩
    rw [initAck_eq hannounces] at hreported
    exact ⟨hannounces, hopus.1 hreported⟩
  · rintro ⟨hannounces, hstream⟩
    rw [initAck_eq hannounces]
    exact ⟨hannounces, hopus.2 hstream⟩

/-! ### What has gone through the socket -/

/-- The datagrams that `Send` has accepted. -/
def acceptedSends (socket : List SocketEvent) : List Bytes :=
  socket.filterMap fun event =>
    match event with
    | .sent bytes true => some bytes
    | _ => none

section

variable (C : BlockCrypto) (params : HandshakeParams)

/-- The packet of the peer in a datagram that is not a response of the reflector. -/
def peerPacket (bytes : Bytes) : Option VoipControlPacket :=
  if (parseSelfInfoResponse bytes params.peerTag).success then none
  else openPacket C params.sharedKey params.localIsOutgoing params.peerTag bytes

/-- The packets of the peer that have come. -/
def peerPackets (socket : List SocketEvent) : List VoipControlPacket :=
  socket.filterMap fun event =>
    match event with
    | .received bytes => peerPacket C params bytes
    | _ => none

/-- The control packets that `Send` has been given: what the peer can open. -/
def controlPackets (socket : List SocketEvent) : List VoipControlPacket :=
  socket.filterMap fun event =>
    match event with
    | .sent bytes _ => openPacket C params.sharedKey (!params.localIsOutgoing) params.peerTag bytes
    | _ => none

/-- The counters and the socket agree: what was sent is counted, the largest number of the peer is kept, and the control
packets have the numbers of the sequence. -/
structure Consistent (next last : UInt32) (s : HandshakeState) : Prop where
  packetsSent_eq : s.outcome.packetsSent = UInt32.ofNat (acceptedSends s.socket).length
  bytesSent_eq : s.outcome.bytesSent = UInt32.ofNat ((acceptedSends s.socket).map List.length).sum
  lastRemote_eq : s.lastRemoteSequence = ((peerPackets C params s.socket).map VoipControlPacket.sequence).foldl max last
  sequences_eq : (controlPackets C params s.socket).map VoipControlPacket.sequence =
    (List.range (controlPackets C params s.socket).length).map (sequenceAt next)

/-- The number for the next control packet is the next one of the sequence. -/
def Aligned (next : UInt32) (s : HandshakeState) : Prop :=
  sequenceAt s.nextLocalSequence 0 = sequenceAt next (controlPackets C params s.socket).length

/-- The peer has sent an InitAck that is accepted. -/
def Acknowledged (s : HandshakeState) : Prop :=
  ∃ bytes packet, SocketEvent.received bytes ∈ s.socket ∧ (parseSelfInfoResponse bytes params.peerTag).success = false ∧
    openPacket C params.sharedKey params.localIsOutgoing params.peerTag bytes = some packet ∧ packet.type = .initAck ∧
    AnnouncesOpus packet.payload

end

variable {C : BlockCrypto} {params : HandshakeParams} {next last : UInt32} {s s' : HandshakeState}

theorem acceptedSends_append (front back : List SocketEvent) :
    acceptedSends (front ++ back) = acceptedSends front ++ acceptedSends back := List.filterMap_append ..

theorem peerPackets_append (front back : List SocketEvent) :
    peerPackets C params (front ++ back) = peerPackets C params front ++ peerPackets C params back :=
  List.filterMap_append ..

theorem controlPackets_append (front back : List SocketEvent) :
    controlPackets C params (front ++ back) = controlPackets C params front ++ controlPackets C params back :=
  List.filterMap_append ..

theorem controlPackets_sent (bytes : Bytes) (accepted : Bool) :
    controlPackets C params [.sent bytes accepted]
      = (openPacket C params.sharedKey (!params.localIsOutgoing) params.peerTag bytes).toList := by
  unfold controlPackets
  cases hpacket : openPacket C params.sharedKey (!params.localIsOutgoing) params.peerTag bytes <;> simp [hpacket]

theorem Consistent.congr (h : Consistent C params next last s) (hsocket : s'.socket = s.socket)
    (hpackets : s'.outcome.packetsSent = s.outcome.packetsSent) (hbytes : s'.outcome.bytesSent = s.outcome.bytesSent)
    (hlast : s'.lastRemoteSequence = s.lastRemoteSequence) : Consistent C params next last s' where
  packetsSent_eq := by rw [hpackets, hsocket, h.packetsSent_eq]
  bytesSent_eq := by rw [hbytes, hsocket, h.bytesSent_eq]
  lastRemote_eq := by rw [hlast, hsocket, h.lastRemote_eq]
  sequences_eq := by rw [hsocket, h.sequences_eq]

/-! ### Sending -/

namespace HandshakeState

theorem socket_send (bytes : Bytes) (answer : Bytes → VoipReflectorDatagramResult) :
    (s.send bytes answer).1.socket = s.socket ++ [.sent bytes (answer bytes).success] := by
  unfold send
  dsimp only
  split_ifs <;> rfl

theorem send_frame (bytes : Bytes) (answer : Bytes → VoipReflectorDatagramResult) :
    (s.send bytes answer).1.nextLocalSequence = s.nextLocalSequence ∧
      (s.send bytes answer).1.lastRemoteSequence = s.lastRemoteSequence ∧
      (s.send bytes answer).1.outcome.error = s.outcome.error := by
  unfold send
  dsimp only
  split_ifs <;> exact ⟨rfl, rfl, rfl⟩

theorem send_counts (bytes : Bytes) (answer : Bytes → VoipReflectorDatagramResult) :
    (s.send bytes answer).1.outcome.packetsSent
        = s.outcome.packetsSent + UInt32.ofNat (acceptedSends [.sent bytes (answer bytes).success]).length ∧
      (s.send bytes answer).1.outcome.bytesSent = s.outcome.bytesSent
        + UInt32.ofNat ((acceptedSends [.sent bytes (answer bytes).success]).map List.length).sum := by
  unfold send acceptedSends
  by_cases hsuccess : (answer bytes).success = true
  · simp [hsuccess]
  · simp [hsuccess]

end HandshakeState

/-- A datagram goes out; if it is a control packet, it has the next number. -/
theorem Consistent.send (h : Consistent C params next last s) {bytes : Bytes}
    (answer : Bytes → VoipReflectorDatagramResult)
    (hopen : ∀ packet, openPacket C params.sharedKey (!params.localIsOutgoing) params.peerTag bytes = some packet →
      packet.sequence = sequenceAt next (controlPackets C params s.socket).length) :
    Consistent C params next last (s.send bytes answer).1 := by
  obtain ⟨hpackets, hbytes⟩ := HandshakeState.send_counts (s := s) bytes answer
  refine ⟨?_, ?_, ?_, ?_⟩
  · rw [hpackets, HandshakeState.socket_send, acceptedSends_append, List.length_append, UInt32.ofNat_add,
      h.packetsSent_eq]
  · rw [hbytes, HandshakeState.socket_send, acceptedSends_append, List.map_append, List.sum_append, UInt32.ofNat_add,
      h.bytesSent_eq]
  · rw [(HandshakeState.send_frame bytes answer).2.1, HandshakeState.socket_send, peerPackets_append, h.lastRemote_eq]
    exact congrArg (fun packets => (packets.map VoipControlPacket.sequence).foldl max last) (List.append_nil _).symm
  · rw [HandshakeState.socket_send, controlPackets_append, controlPackets_sent]
    cases hpacket : openPacket C params.sharedKey (!params.localIsOutgoing) params.peerTag bytes with
    | none => rw [Option.toList_none, List.append_nil, h.sequences_eq]
    | some packet =>
      rw [Option.toList_some, List.map_append, h.sequences_eq, List.length_append, List.length_singleton,
        List.range_succ, List.map_append, List.map_singleton, List.map_singleton, hopen packet hpacket]

theorem lengths_of_encrypt {random : ℕ → UInt8} {plain : Bytes}
    (h : (encryptRelayPacketMtProto2Short C params.sharedKey params.localIsOutgoing params.peerTag random plain).success
      = true) : params.sharedKey.length = kSharedKeyBytes ∧ params.peerTag.length = kPeerTagBytes := by
  unfold encryptRelayPacketMtProto2Short at h
  split_ifs at h with hkey htag hplain
  · cases h
  · cases h
  · cases h
  · exact ⟨not_not.1 hkey, not_not.1 htag⟩

theorem openPacket_encrypted {type : VoipControlPacketType} {seq ackSeq : UInt32} {payload : Bytes} {input : SendInput}
    (hbuilt : (buildControlPacket type seq ackSeq payload).success = true)
    (h : (encryptRelayPacketMtProto2Short C params.sharedKey params.localIsOutgoing params.peerTag input.random
      (buildControlPacket type seq ackSeq payload).bytes).success = true) :
    openPacket C params.sharedKey (!params.localIsOutgoing) params.peerTag
        (encryptRelayPacketMtProto2Short C params.sharedKey params.localIsOutgoing params.peerTag input.random
          (buildControlPacket type seq ackSeq payload).bytes).bytes
      = some { type := type, ackSequence := ackSeq, sequence := seq, payload := payload } := by
  obtain ⟨hkey, htag⟩ := lengths_of_encrypt h
  have hsealed : sealPacket C params.sharedKey params.localIsOutgoing params.peerTag input.random
      (buildControlPacket type seq ackSeq payload)
        = some (encryptRelayPacketMtProto2Short C params.sharedKey params.localIsOutgoing params.peerTag input.random
          (buildControlPacket type seq ackSeq payload).bytes).bytes := by
    rw [sealPacket, if_neg (by rw [hbuilt]; decide)]
    dsimp only
    rw [if_neg (by rw [h]; decide)]
  exact openPacket_of_sealPacket hkey htag hsealed

/-- **A control packet.**  It is counted and has the next number; behind one that was sent the numbers go on. -/
theorem Consistent.sendControlPacket (h : Consistent C params next last s) (ha : Aligned C params next s)
    (type : VoipControlPacketType) (payload : Bytes) (input : SendInput) :
    Consistent C params next last (s.sendControlPacket C params type payload input).1 ∧
      ((s.sendControlPacket C params type payload input).2 = none →
        Aligned C params next (s.sendControlPacket C params type payload input).1) ∧
      (s.sendControlPacket C params type payload input).1.outcome.error = s.outcome.error := by
  have hseq : (takeNextSequence s.nextLocalSequence).1 = sequenceAt next (controlPackets C params s.socket).length := by
    rw [takeNextSequence_fst, ha]
  have hnext : (takeNextSequence s.nextLocalSequence).2
      = sequenceAt next ((controlPackets C params s.socket).length + 1) := by
    rw [takeNextSequence_snd, ← sequenceAt_zero_sequenceAt, ha, sequenceAt_sequenceAt]
  unfold HandshakeState.sendControlPacket HandshakeState.encryptAndSendControlPacket
  dsimp only
  have htaken : Consistent C params next last { s with nextLocalSequence := (takeNextSequence s.nextLocalSequence).2 } :=
    h.congr rfl rfl rfl rfl
  split_ifs with hbuilt hencrypted
  · exact ⟨htaken, fun hnone => hnone.elim, rfl⟩
  · exact ⟨htaken, fun hnone => hnone.elim, rfl⟩
  · have hopen := openPacket_encrypted (Bool.eq_true_of_not_eq_false hbuilt) (Bool.eq_true_of_not_eq_false hencrypted)
    refine ⟨htaken.send _ fun packet hpacket => ?_, fun _ => ?_, (HandshakeState.send_frame _ _).2.2⟩
    · rw [hopen] at hpacket
      cases hpacket
      exact hseq
    · unfold Aligned
      rw [(HandshakeState.send_frame _ _).1, HandshakeState.socket_send, controlPackets_append, List.length_append]
      rw [controlPackets_sent, hopen, Option.toList_some, List.length_singleton, hnext, sequenceAt_sequenceAt]

/-! ### Receiving -/

theorem peerPackets_received (bytes : Bytes) :
    peerPackets C params [.received bytes] = (peerPacket C params bytes).toList := by
  unfold peerPackets
  cases hpacket : peerPacket C params bytes <;> simp [hpacket]

theorem noteRemoteSequence_eq (s : HandshakeState) (sequence : UInt32) :
    (s.noteRemoteSequence sequence).lastRemoteSequence = max s.lastRemoteSequence sequence := by
  have hmax : max s.lastRemoteSequence sequence
      = if s.lastRemoteSequence ≤ sequence then sequence else s.lastRemoteSequence := rfl
  unfold HandshakeState.noteRemoteSequence
  rw [hmax]
  by_cases hlarger : sequence ≠ 0 ∧ (s.lastRemoteSequence = 0 ∨ s.lastRemoteSequence < sequence)
  · have hle : s.lastRemoteSequence ≤ sequence := by
      rcases hlarger.2 with hzero | hlt
      · rw [hzero]
        exact UInt32.le_iff_toNat_le.2 (Nat.zero_le _)
      · exact UInt32.le_of_lt hlt
    rw [if_pos hlarger, if_pos hle]
  · rw [if_neg hlarger]
    by_cases hle : s.lastRemoteSequence ≤ sequence
    · rw [if_pos hle]
      by_cases hzero : sequence = 0
      · rw [hzero] at hle ⊢
        exact UInt32.toNat_inj.1 (Nat.le_zero.1 (UInt32.le_iff_toNat_le.1 hle))
      · exact UInt32.le_antisymm hle (UInt32.not_lt.1 fun hlt => hlarger ⟨hzero, .inr hlt⟩)
    · rw [if_neg hle]

theorem Consistent.received (h : Consistent C params next last s) {received : VoipReflectorDatagramResult}
    (hlast : s'.lastRemoteSequence
      = ((peerPacket C params received.bytes).toList.map VoipControlPacket.sequence).foldl max s.lastRemoteSequence)
    (hsocket : s'.socket = s.socket ++ [.received received.bytes])
    (hpackets : s'.outcome.packetsSent = s.outcome.packetsSent) (hbytes : s'.outcome.bytesSent = s.outcome.bytesSent) :
    Consistent C params next last s' where
  packetsSent_eq := by
    rw [hpackets, hsocket, acceptedSends_append, h.packetsSent_eq]
    exact congrArg (fun sends => UInt32.ofNat (List.length sends)) (List.append_nil _).symm
  bytesSent_eq := by
    rw [hbytes, hsocket, acceptedSends_append, h.bytesSent_eq]
    exact congrArg (fun sends => UInt32.ofNat (List.map List.length sends).sum) (List.append_nil _).symm
  lastRemote_eq := by
    rw [hlast, hsocket, peerPackets_append, peerPackets_received, List.map_append, List.foldl_append, h.lastRemote_eq]
  sequences_eq := by
    have hcontrol : controlPackets C params s'.socket = controlPackets C params s.socket := by
      rw [hsocket, controlPackets_append]
      exact List.append_nil _
    rw [hcontrol, h.sequences_eq]

theorem Aligned.received (h : Aligned C params next s) {bytes : Bytes} (hsocket : s'.socket = s.socket ++ [.received bytes])
    (hnext : s'.nextLocalSequence = s.nextLocalSequence) : Aligned C params next s' := by
  have hcontrol : controlPackets C params s'.socket = controlPackets C params s.socket := by
    rw [hsocket, controlPackets_append]
    exact List.append_nil _
  rw [Aligned, hnext, hcontrol]
  exact h

/-! ### A turn -/

variable (C params next last) in
/-- What holds when a turn ends: without an error the loop goes on, and it returns none only behind an InitAck. -/
def HandshakeProgress.Good : HandshakeProgress → Prop
  | .goesOn s => Consistent C params next last s ∧ Aligned C params next s ∧ s.outcome.error = {}
  | .returns s => Consistent C params next last s ∧
      (s.outcome.error.kind = .none → Acknowledged C params s ∧ Aligned C params next s)

theorem good_fail (h : Consistent C params next last s) {error : VoipError} (herror : error.kind ≠ .none) :
    (HandshakeProgress.returns (s.fail error)).Good C params next last :=
  ⟨h.congr rfl rfl rfl rfl, fun hnone => absurd hnone herror⟩

theorem good_transportError (h : Consistent C params next last s) (message : String) :
    (HandshakeProgress.returns (s.fail (transportError message))).Good C params next last :=
  good_fail h VoipErrorKind.noConfusion

theorem good_answerPeer (h : Consistent C params next last s) (ha : Aligned C params next s)
    (hok : s.outcome.error = {}) (type : VoipControlPacketType) (payload : Bytes) (input : SendInput) :
    (s.answerPeer C params type payload input).Good C params next last := by
  obtain ⟨hsent, haligned, herror⟩ := h.sendControlPacket ha type payload input
  unfold HandshakeState.answerPeer
  generalize s.sendControlPacket C params type payload input = sent at hsent haligned herror ⊢
  obtain ⟨s', _ | error⟩ := sent
  · exact ⟨hsent, haligned rfl, herror.trans hok⟩
  · exact good_transportError hsent error

theorem good_handlePacket (h : Consistent C params next last s) (ha : Aligned C params next s)
    (hok : s.outcome.error = {}) {received : VoipReflectorDatagramResult} {packet : VoipControlPacket}
    (hmem : SocketEvent.received received.bytes ∈ s.socket)
    (hselfInfo : (parseSelfInfoResponse received.bytes params.peerTag).success = false)
    (hopen : openPacket C params.sharedKey params.localIsOutgoing params.peerTag received.bytes = some packet)
    (input : SendInput) : (s.handlePacket C params packet input).Good C params next last := by
  unfold HandshakeState.handlePacket
  cases htype : packet.type with
  | initAck =>
    dsimp only
    split_ifs with hparsed hopus
    · exact good_transportError h _
    · exact good_fail h VoipErrorKind.noConfusion
    · refine ⟨h.congr rfl rfl rfl rfl, fun _ => ⟨⟨received.bytes, packet, hmem, hselfInfo, hopen, htype, ?_⟩, ha⟩⟩
      exact accepts_iff.1 ⟨Bool.eq_true_of_not_eq_false hparsed, Bool.eq_true_of_not_eq_false hopus⟩
  | init => exact good_answerPeer h ha hok .initAck _ input
  | ping => exact good_answerPeer h ha hok .pong _ input
  | _ => exact ⟨h, ha, hok⟩

theorem good_received (h : Consistent C params next last s) (ha : Aligned C params next s)
    (hok : s.outcome.error = {}) {received : VoipReflectorDatagramResult}
    (hpeer : peerPacket C params received.bytes = none)
    (hsocket : s'.socket = s.socket ++ [.received received.bytes])
    (hcounters : s'.nextLocalSequence = s.nextLocalSequence ∧ s'.lastRemoteSequence = s.lastRemoteSequence)
    (hpackets : s'.outcome.packetsSent = s.outcome.packetsSent) (hbytes : s'.outcome.bytesSent = s.outcome.bytesSent)
    (herror : s'.outcome.error = s.outcome.error) : (HandshakeProgress.goesOn s').Good C params next last := by
  refine ⟨h.received ?_ hsocket hpackets hbytes, ha.received hsocket hcounters.1, herror.trans hok⟩
  rw [hcounters.2, hpeer]
  rfl

theorem good_handleDatagram (h : Consistent C params next last s) (ha : Aligned C params next s)
    (hok : s.outcome.error = {}) (received : VoipReflectorDatagramResult) (input : SendInput) :
    (s.handleDatagram C params received input).Good C params next last := by
  unfold HandshakeState.handleDatagram
  dsimp only
  by_cases hselfInfo : (parseSelfInfoResponse received.bytes params.peerTag).success = true
  · have hpeer : peerPacket C params received.bytes = none := if_pos hselfInfo
    rw [if_pos hselfInfo]
    split_ifs
    · exact good_received h ha hok hpeer rfl ⟨rfl, rfl⟩ rfl rfl rfl
    · exact good_received h ha hok hpeer rfl ⟨rfl, rfl⟩ rfl rfl rfl
  have hpeer : peerPacket C params received.bytes
      = openPacket C params.sharedKey params.localIsOutgoing params.peerTag received.bytes := if_neg hselfInfo
  rw [if_neg hselfInfo]
  by_cases hdecrypted : (decryptRelayPacketMtProto2Short C params.sharedKey params.localIsOutgoing params.peerTag
      received.bytes).success = false
  · rw [if_pos hdecrypted]
    exact good_received h ha hok (hpeer.trans (if_pos hdecrypted)) rfl ⟨rfl, rfl⟩ rfl rfl rfl
  rw [if_neg hdecrypted]
  by_cases hdecoded : (decodeShort (decryptRelayPacketMtProto2Short C params.sharedKey params.localIsOutgoing
      params.peerTag received.bytes).plain).success = false
  · rw [if_pos hdecoded]
    have hopen : openPacket C params.sharedKey params.localIsOutgoing params.peerTag received.bytes = none := by
      rw [openPacket, if_neg hdecrypted]
      exact if_pos hdecoded
    exact good_received h ha hok (hpeer.trans hopen) rfl ⟨rfl, rfl⟩ rfl rfl rfl
  rw [if_neg hdecoded]
  have hopen : openPacket C params.sharedKey params.localIsOutgoing params.peerTag received.bytes
      = some (decodeShort (decryptRelayPacketMtProto2Short C params.sharedKey params.localIsOutgoing params.peerTag
          received.bytes).plain).packet := by
    rw [openPacket, if_neg hdecrypted]
    exact if_neg hdecoded
  generalize (decodeShort (decryptRelayPacketMtProto2Short C params.sharedKey params.localIsOutgoing params.peerTag
    received.bytes).plain).packet = packet at hopen ⊢
  have hframe : ((s.countReceived received).noteRemoteSequence packet.sequence).socket
        = s.socket ++ [.received received.bytes] ∧
      ((s.countReceived received).noteRemoteSequence packet.sequence).nextLocalSequence = s.nextLocalSequence ∧
      ((s.countReceived received).noteRemoteSequence packet.sequence).outcome = (s.countReceived received).outcome := by
    unfold HandshakeState.noteRemoteSequence
    split_ifs <;> exact ⟨rfl, rfl, rfl⟩
  obtain ⟨hsocket, hnext, houtcome⟩ := hframe
  refine good_handlePacket (h.received ?_ hsocket ?_ ?_) (ha.received hsocket hnext) ?_ ?_
    (Bool.eq_false_of_not_eq_true hselfInfo) hopen input
  · rw [noteRemoteSequence_eq, hpeer, hopen]
    rfl
  · rw [houtcome]
    rfl
  · rw [houtcome]
    rfl
  · rw [houtcome]
    exact hok
  · rw [hsocket]
    exact List.mem_append_right _ (List.mem_singleton.2 rfl)

theorem Consistent.sendInitIfDue (h : Consistent C params next last s) (ha : Aligned C params next s)
    (turn : HandshakeTurn) :
    Consistent C params next last (s.sendInitIfDue C params turn).1 ∧
      ((s.sendInitIfDue C params turn).2 = none → Aligned C params next (s.sendInitIfDue C params turn).1) ∧
      (s.sendInitIfDue C params turn).1.outcome.error = s.outcome.error := by
  have hsent := h.sendControlPacket ha .init (buildInitPayload false).bytes turn.init
  unfold HandshakeState.sendInitIfDue HandshakeState.sendInitPacket
  split_ifs with hdue
  · generalize s.sendControlPacket C params .init (buildInitPayload false).bytes turn.init = sent at hsent ⊢
    obtain ⟨s', _ | error⟩ := sent
    · exact ⟨hsent.1.congr rfl rfl rfl rfl, fun _ => hsent.2.1 rfl, hsent.2.2⟩
    · exact ⟨hsent.1, fun hnone => (Option.some_ne_none _ hnone).elim, hsent.2.2⟩
  · exact ⟨h, fun _ => ha, rfl⟩

/-- **One turn of the loop.** -/
theorem good_turn (h : Consistent C params next last s) (ha : Aligned C params next s) (hok : s.outcome.error = {})
    (deadline : ℤ) (turn : HandshakeTurn) : (s.turn C params deadline turn).Good C params next last := by
  obtain ⟨hsent, haligned, herror⟩ := h.sendInitIfDue ha turn
  unfold HandshakeState.turn
  by_cases hover : ¬ (0 < remainingMs deadline turn.checkedAt ∧ s.initAttempts < kMaxInitAttempts)
  · rw [if_pos hover]
    exact ⟨h.congr rfl rfl rfl rfl, fun hnone => VoipErrorKind.noConfusion hnone⟩
  rw [if_neg hover]
  generalize s.sendInitIfDue C params turn = sent at hsent haligned herror ⊢
  obtain ⟨s', _ | error⟩ := sent
  · dsimp only
    generalize turn.receive _ = received
    split_ifs with hreceived htimeout
    · exact ⟨hsent, haligned rfl, herror.trans hok⟩
    · exact good_transportError hsent _
    · exact good_handleDatagram hsent (haligned rfl) (herror.trans hok) _ _
  · exact good_transportError hsent error

/-- **The whole loop.** -/
theorem good_loop (deadline : ℤ) (turns : List HandshakeTurn) (h : Consistent C params next last s)
    (ha : Aligned C params next s) (hok : s.outcome.error = {}) :
    (s.loop C params deadline turns).Good C params next last := by
  induction turns generalizing s with
  | nil => exact ⟨h, ha, hok⟩
  | cons turn turns ih =>
    have hturn := good_turn h ha hok deadline turn
    unfold HandshakeState.loop
    generalize s.turn C params deadline turn = progress at hturn ⊢
    cases progress with
    | returns s => exact hturn
    | goesOn s => exact ih hturn.1 hturn.2.1 hturn.2.2

/-! ### The handshake -/

/-- A request to the reflector is too short for a packet of the relay. -/
theorem openPacket_short (C : BlockCrypto) (params : HandshakeParams) {bytes : Bytes} (h : bytes.length < 48)
    (localIsOutgoing : Bool) :
    openPacket C params.sharedKey localIsOutgoing params.peerTag bytes = none := by
  unfold openPacket decryptRelayPacketMtProto2Short
  by_cases hkey : params.sharedKey.length = kSharedKeyBytes
  · rw [if_neg (not_not_intro hkey), if_pos (show bytes.length < kPeerTagBytes + Domain.kMsgKeyBytes +
      Domain.kAesBlockBytes from h)]
    rfl
  · rw [if_pos hkey]
    rfl

theorem good_warmup (h : Consistent C params next last s) (ha : Aligned C params next s) (hok : s.outcome.error = {})
    {bytes : Bytes} (hshort : bytes.length < 48) (answer : Bytes → VoipReflectorDatagramResult) :
    Consistent C params next last (s.send bytes answer).1 ∧ Aligned C params next (s.send bytes answer).1 ∧
      (s.send bytes answer).1.outcome.error = {} := by
  have hclosed := openPacket_short C params hshort (!params.localIsOutgoing)
  refine ⟨h.send answer fun packet hpacket => ?_, ?_, (HandshakeState.send_frame bytes answer).2.2.trans hok⟩
  · rw [hclosed] at hpacket
    cases hpacket
  · unfold Aligned
    rw [(HandshakeState.send_frame bytes answer).1, HandshakeState.socket_send, controlPackets_append,
      controlPackets_sent, hclosed, Option.toList_none, List.append_nil]
    exact ha

/-- **The handshake, as far as it has come.** -/
theorem good_runControlHandshake (C : BlockCrypto) (params : HandshakeParams) (hasSocket : Bool) (next last : UInt32)
    (input : HandshakeInput) :
    (runControlHandshake C params hasSocket next last input).Good C params next last := by
  have hempty : Consistent C params next last
      { nextInitAt := input.firstInitAt, nextLocalSequence := next, lastRemoteSequence := last } := ⟨rfl, rfl, rfl, rfl⟩
  have haligned : Aligned C params next
      { nextInitAt := input.firstInitAt, nextLocalSequence := next, lastRemoteSequence := last } := rfl
  unfold runControlHandshake
  generalize hstart : ({ nextInitAt := input.firstInitAt, nextLocalSequence := next, lastRemoteSequence := last } :
    HandshakeState) = start at hempty haligned ⊢
  have hok : start.outcome.error = {} := by rw [← hstart]
  dsimp only
  split_ifs with hsocket hselfInfo
  · exact good_transportError hempty _
  · exact good_transportError hempty _
  have hshort : (buildSelfInfoRequest params.peerTag params.queryId).bytes.length < 48 := by
    rw [VoipReflectorPacketCodec.length_buildSelfInfoRequest
      (VoipReflectorPacketCodec.buildSelfInfoRequest_success_iff.1 (Bool.eq_true_of_not_eq_false hselfInfo))]
    decide
  have hfirst := good_warmup hempty haligned hok hshort input.firstWarmup
  generalize start.send (buildSelfInfoRequest params.peerTag params.queryId).bytes input.firstWarmup = sent at hfirst ⊢
  obtain ⟨s₁, _ | error⟩ := sent
  · have hsecond := good_warmup hfirst.1 hfirst.2.1 hfirst.2.2 hshort input.secondWarmup
    dsimp only at hsecond ⊢
    generalize s₁.send (buildSelfInfoRequest params.peerTag params.queryId).bytes input.secondWarmup = sent at hsecond ⊢
    obtain ⟨s₂, _ | error⟩ := sent
    · exact good_loop _ _ hsecond.1 hsecond.2.1 hsecond.2.2
    · exact good_transportError hsecond.1 error
  · exact good_transportError hfirst.1 error

/-- The numbers of the control packets follow each other in the cycle from 1 to `2 ^ 32 - 1`. -/
def InSequence (next : UInt32) (packets : List VoipControlPacket) : Prop :=
  ∀ n (hn : n < packets.length), (packets.get ⟨n, hn⟩).sequence.toNat = (next.toNat - 1 + n) % (2 ^ 32 - 1) + 1

/-- What holds when the handshake returns. -/
structure HandshakeSound (C : BlockCrypto) (params : HandshakeParams) (next last : UInt32) (s : HandshakeState) : Prop
    where
  acknowledged : s.outcome.error.kind = .none → Acknowledged C params s
  lastRemote : s.lastRemoteSequence = ((peerPackets C params s.socket).map VoipControlPacket.sequence).foldl max last
  packetsSent : s.outcome.packetsSent = UInt32.ofNat (acceptedSends s.socket).length
  bytesSent : s.outcome.bytesSent = UInt32.ofNat ((acceptedSends s.socket).map List.length).sum
  inSequence : InSequence next (controlPackets C params s.socket)

theorem Consistent.inSequence (h : Consistent C params next last s) :
    InSequence next (controlPackets C params s.socket) := by
  intro n hn
  have hget := congrArg (fun sequences => sequences[n]?) h.sequences_eq
  simp only [List.getElem?_map, List.getElem?_range hn, List.getElem?_eq_getElem hn, Option.map_some,
    Option.some.injEq] at hget
  rw [List.get_eq_getElem, hget, toNat_sequenceAt]

/-- **The control handshake is sound, whatever comes in and however long it takes.**  It returns no error only if the peer
has sent an InitAck that is accepted, as a packet under the call's key that is no response of the reflector; the last
number of the peer is the largest one; the packets and bytes that were sent are counted; the control packets are numbered
one after the other, without the 0; and a datagram that is neither a response of the reflector nor a packet under the key
changes nothing but the counters of what was received and what failed, the round trip time and the text of the last error. -/
theorem control_handshake_sound (C : BlockCrypto) (params : HandshakeParams) (next last : UInt32) :
    (∀ hasSocket input s, runControlHandshake C params hasSocket next last input = .returns s →
      HandshakeSound C params next last s) ∧
    ∀ (s : HandshakeState) (received : VoipReflectorDatagramResult) (input : SendInput),
      (parseSelfInfoResponse received.bytes params.peerTag).success = false →
      (decryptRelayPacketMtProto2Short C params.sharedKey params.localIsOutgoing params.peerTag received.bytes).success
        = false →
      s.handleDatagram C params received input = .goesOn
        { s with
          socket := s.socket ++ [.received received.bytes]
          outcome :=
            { s.outcome with
              packetsReceived := s.outcome.packetsReceived + 1
              bytesReceived := s.outcome.bytesReceived + UInt32.ofNat received.bytes.length
              rttMs := if 0 < received.rttMs then received.rttMs else s.outcome.rttMs }
          decryptFailures := s.decryptFailures + 1
          lastPacketError := (decryptRelayPacketMtProto2Short C params.sharedKey params.localIsOutgoing params.peerTag
            received.bytes).error } := by
  refine ⟨fun hasSocket input s h => ?_, fun s received input hselfInfo hdecrypted => ?_⟩
  · have hgood := good_runControlHandshake C params hasSocket next last input
    rw [h] at hgood
    obtain ⟨hcounts, hacknowledged⟩ := hgood
    exact ⟨fun hnone => (hacknowledged hnone).1, hcounts.lastRemote_eq, hcounts.packetsSent_eq, hcounts.bytesSent_eq,
      hcounts.inSequence⟩
  · unfold HandshakeState.handleDatagram
    dsimp only
    rw [if_neg (by rw [hselfInfo]; decide), if_pos hdecrypted]
    rfl

/-! ### The handshake comes to an end -/

theorem loop_returns (deadline : ℤ) (turns : List HandshakeTurn) (s : HandshakeState)
    (h : ∃ turn ∈ turns, deadline ≤ turn.checkedAt) : ∃ s', s.loop C params deadline turns = .returns s' := by
  induction turns generalizing s with
  | nil =>
    obtain ⟨turn, hmem, -⟩ := h
    cases hmem
  | cons turn turns ih =>
    unfold HandshakeState.loop
    by_cases hover : deadline ≤ turn.checkedAt
    · have hreturns : s.turn C params deadline turn = .returns s.timedOut := by
        unfold HandshakeState.turn
        rw [remainingMs, if_pos hover]
        exact if_pos fun hthis => absurd hthis.1 (Nat.lt_irrefl 0)
      rw [hreturns]
      exact ⟨_, rfl⟩
    · cases s.turn C params deadline turn with
      | returns s => exact ⟨s, rfl⟩
      | goesOn s =>
        refine ih s ?_
        obtain ⟨late, hmem, hlate⟩ := h
        rcases List.mem_cons.1 hmem with rfl | hmem
        · exact absurd hlate hover
        · exact ⟨late, hmem, hlate⟩

/-- **The handshake returns**, once the clock has passed its deadline. -/
theorem runControlHandshake_returns (C : BlockCrypto) (params : HandshakeParams) (hasSocket : Bool) (next last : UInt32)
    (input : HandshakeInput)
    (h : ∃ turn ∈ input.turns, input.startedAt + kControlHandshakeTimeoutMs * ticksPerMs ≤ turn.checkedAt) :
    ∃ s, runControlHandshake C params hasSocket next last input = .returns s := by
  unfold runControlHandshake
  dsimp only
  split_ifs
  · exact ⟨_, rfl⟩
  · exact ⟨_, rfl⟩
  split
  · exact ⟨_, rfl⟩
  · split
    · exact ⟨_, rfl⟩
    · exact loop_returns _ _ _ h

/-! ### Around the cycle -/

def sampleParams : HandshakeParams where
  peerTag := List.replicate 16 0x30
  queryId := 0
  sharedKey := List.replicate 256 1
  localIsOutgoing := true

def acceptedSend : SendInput where
  random := fun n => UInt8.ofNat n
  answer := fun _ => { success := true }

/-- A turn at a time, in milliseconds, in which nothing comes in. -/
def silentTurn (ms : ℤ) : HandshakeTurn where
  checkedAt := ms * ticksPerMs
  now := ms * ticksPerMs
  waitsFrom := ms * ticksPerMs
  init := acceptedSend
  receive := fun _ => { error := "receive timed out" }
  answer := acceptedSend

/-- The peer is silent; the second Init is due after 250 ms. -/
def silentPeer : HandshakeInput where
  firstWarmup := fun _ => { success := true }
  secondWarmup := fun _ => { success := true }
  startedAt := 0
  firstInitAt := 0
  turns := [silentTurn 0, silentTurn 300, silentTurn 13000]

/-- **The 0 is left out.**  Behind the number `2 ^ 32 - 1` comes 1, which is not the next number. -/
theorem numbers_leave_out_zero :
    (∃ s, runControlHandshake sampleBlockCrypto sampleParams true 0xFFFFFFFF 0 silentPeer = .returns s ∧
      (controlPackets sampleBlockCrypto sampleParams s.socket).map VoipControlPacket.sequence = [0xFFFFFFFF, 1]) ∧
      (1 : UInt32) ≠ 0xFFFFFFFF + 1 := by
  refine ⟨?_, by decide⟩
  obtain ⟨s, hs⟩ := runControlHandshake_returns sampleBlockCrypto sampleParams true 0xFFFFFFFF 0 silentPeer
    ⟨silentTurn 13000, by simp [silentPeer], by decide⟩
  have hnumbers : (controlPackets sampleBlockCrypto sampleParams
      (runControlHandshake sampleBlockCrypto sampleParams true 0xFFFFFFFF 0 silentPeer).state.socket).map
        VoipControlPacket.sequence = [0xFFFFFFFF, 1] := by decide +kernel
  rw [hs] at hnumbers
  exact ⟨s, hs, hnumbers⟩

end VianiumVoip.Relay
