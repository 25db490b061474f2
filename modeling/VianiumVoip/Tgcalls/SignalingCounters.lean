import VianiumVoip.Engine.Dh
import VianiumVoip.Signaling.Envelope
import VianiumVoip.Signaling.FrameReads
import VianiumVoip.Tgcalls.Connection

/-!
# The counters of the signaling messages

`EmitMessages` of `application/tgcalls_connection` over `TgcallsSignalingEnvelope`.  The connection counts its packets,
and the envelope numbers the messages of a packet from that count on, so the second message of a packet has the number
of the next packet.

* `counters_emitAll`: the counters of a run are `numbers` of the sizes of its batches;
* `pairwise_numbers`, `eq_one_of_nodup_numbers`: they increase where all batches but the last are of
  one message, and repeat otherwise;
* `counters_increasing_iff`: that of the code, where it can send at all.
-/

namespace VianiumVoip.Tgcalls

open VianiumVoip.Lib VianiumVoip.Domain VianiumVoip.Engine VianiumVoip.Signaling ChannelFrameCodec
open TgcallsSignalingEnvelope TgcallsSignalingMessages
open VianiumVoip.Signaling (TgcallsMessage)

structure SignalingConnection extends TgcallsConnection where
  outgoingSignalingSeq : UInt32 := 0

/-- What the signaling callback gets, with the frames that are in it. -/
structure Packet where
  frames : List ChannelFrame
  bytes : Bytes

/-- The frames that `Encrypt` puts into one packet. -/
def packetFrames (outgoingSeq : UInt32) : List TgcallsMessage → List ChannelFrame
  | [] => []
  | first :: rest =>
    let outerSeq := outerSequence outgoingSeq (decide ((first :: rest).length = 1))
    messageFrame outerSeq first :: framesFrom outgoingSeq 1 rest

namespace SignalingConnection

variable (C : Domain.Crypto)

/-- `EmitMessages`: the connection, the packet that the callback gets, and the error. -/
def emitMessages (c : SignalingConnection) (messages : List TgcallsMessage) :
    SignalingConnection × Option Packet × Except VoipError Unit :=
  if !c.hasSignalingOut then (c, none, .error (invalid "no signaling callback"))
  else if messages = [] then (c, none, .ok ())
  else
    let c := { c with outgoingSignalingSeq := c.outgoingSignalingSeq + 1 }
    let seq := c.outgoingSignalingSeq
    let encrypted := TgcallsSignalingEnvelope.encrypt C c.sharedKey c.isOutgoing seq messages
    if encrypted = [] then
      (c, none, .error
        { kind := .cryptoUnavailable, message := "tgcalls signaling envelope encrypt produced empty output" })
    else (c, some { frames := packetFrames seq messages, bytes := encrypted }, .ok ())

/-- A run of calls: the connection behind it, and the packets that the callback has got. -/
def emitAll (c : SignalingConnection) : List (List TgcallsMessage) → SignalingConnection × List Packet
  | [] => (c, [])
  | messages :: batches =>
    let sent := c.emitMessages C messages
    let rest := sent.1.emitAll batches
    (rest.1, sent.2.1.toList ++ rest.2)

/-- The counters in the order of the frames. -/
def counters (packets : List Packet) : List UInt32 :=
  packets.flatMap fun packet => packet.frames.map ChannelFrame.counter

/-- Packets go out: there is a callback, and the key is good for an envelope. -/
def CanSend (c : SignalingConnection) : Prop := c.hasSignalingOut = true ∧ c.sharedKey.length = kSharedKeyBytes

variable {C} {c : SignalingConnection} {messages : List TgcallsMessage} {batches : List (List TgcallsMessage)}

/-! ### One call -/

theorem encrypt_ne_nil (hkey : c.sharedKey.length = kSharedKeyBytes) (hne : messages ≠ []) (seq : UInt32) :
    TgcallsSignalingEnvelope.encrypt C c.sharedKey c.isOutgoing seq messages ≠ [] := by
  obtain ⟨first, rest, rfl⟩ := List.exists_cons_of_ne_nil hne
  intro hempty
  have hlen := congrArg List.length hempty
  rw [TgcallsSignalingEnvelope.encrypt, TgcallsSignalingCodec.length_encrypt hkey, List.length_nil] at hlen
  omega

/-- A call that can send takes the next number of the connection for its packet. -/
theorem emitMessages_of_canSend (h : c.CanSend) (hne : messages ≠ []) :
    c.emitMessages C messages
      = ({ c with outgoingSignalingSeq := c.outgoingSignalingSeq + 1 },
        some { frames := packetFrames (c.outgoingSignalingSeq + 1) messages
               bytes := TgcallsSignalingEnvelope.encrypt C c.sharedKey c.isOutgoing (c.outgoingSignalingSeq + 1)
                 messages },
        .ok ()) := by
  rw [emitMessages, if_neg (by simp [h.1]), if_neg hne]
  exact if_neg (encrypt_ne_nil h.2 hne _)

theorem canSend_emitMessages : (c.emitMessages C messages).1.CanSend ↔ c.CanSend := by
  unfold emitMessages
  dsimp only
  split_ifs <;> rfl

theorem emitMessages_of_not_canSend (h : ¬ c.CanSend) : (c.emitMessages C messages).2.1 = none := by
  unfold emitMessages
  split
  · rfl
  next hout =>
  split
  · rfl
  next hne =>
  have hkey : c.sharedKey.length ≠ kSharedKeyBytes := fun hkey => h ⟨by simpa using hout, hkey⟩
  obtain ⟨first, rest, rfl⟩ := List.exists_cons_of_ne_nil hne
  have hempty : TgcallsSignalingEnvelope.encrypt C c.sharedKey c.isOutgoing (c.outgoingSignalingSeq + 1) (first :: rest)
      = [] := if_pos hkey
  dsimp only
  rw [if_pos hempty]

/-! ### The counters of a packet -/

theorem and_counterMask {n : ℕ} (h : n < 2 ^ 30) :
    UInt32.ofNat n &&& ~~~(kSeqBitSinglePacket ||| kSeqBitRequiresAck) = UInt32.ofNat n := by
  have hmask : (~~~(kSeqBitSinglePacket ||| kSeqBitRequiresAck)).toNat = 2 ^ 30 - 1 := by decide
  have hn : (UInt32.ofNat n).toNat = n := UInt32.toNat_ofNat_of_lt' (h.trans (by decide))
  apply UInt32.toNat_inj.1
  rw [UInt32.toNat_and, hmask, Nat.and_two_pow_sub_one_eq_mod, hn, Nat.mod_eq_of_lt h]

theorem or_and_eq (n flags mask : UInt32) : (n ||| flags) &&& mask = (n &&& mask) ||| (flags &&& mask) :=
  UInt32.toBitVec_inj.1 BitVec.and_or_distrib_right

theorem or_and_of_and_eq_zero {n flags mask : UInt32} (h : flags &&& mask = 0) :
    (n ||| flags) &&& mask = n &&& mask := by
  rw [or_and_eq, h, UInt32.or_zero]

theorem counter_messageFrame {n : ℕ} (h : n < 2 ^ 30) (message : TgcallsMessage) :
    (messageFrame (UInt32.ofNat n ||| kSeqBitRequiresAck) message).counter = UInt32.ofNat n :=
  (or_and_of_and_eq_zero (by decide)).trans (and_counterMask h)

theorem counter_outerFrame {n : ℕ} (h : n < 2 ^ 30) (single : Bool) (message : TgcallsMessage) :
    (messageFrame (outerSequence (UInt32.ofNat n) single) message).counter = UInt32.ofNat n := by
  have hsingle : (if single = true then kSeqBitSinglePacket else 0) &&&
      ~~~(kSeqBitSinglePacket ||| kSeqBitRequiresAck) = 0 := by
    cases single <;> decide
  show outerSequence (UInt32.ofNat n) single &&& ~~~(kSeqBitSinglePacket ||| kSeqBitRequiresAck) = UInt32.ofNat n
  rw [outerSequence, or_and_of_and_eq_zero (by decide), or_and_of_and_eq_zero hsingle, and_counterMask h]

theorem counters_framesFrom {n i : ℕ} (h : n + i + messages.length ≤ 2 ^ 30) :
    (framesFrom (UInt32.ofNat n) i messages).map ChannelFrame.counter
      = (List.range' (n + i) messages.length).map UInt32.ofNat := by
  induction messages generalizing i with
  | nil => rfl
  | cons message messages ih =>
    rw [List.length_cons] at h
    rw [framesFrom, List.map_cons, List.length_cons, List.range'_succ, List.map_cons, ← UInt32.ofNat_add,
      counter_messageFrame (by omega), ih (by omega), Nat.add_assoc n i 1]

/-- The messages of a packet are numbered from the packet's own number on. -/
theorem counters_packetFrames {n : ℕ} (h : n + messages.length ≤ 2 ^ 30) :
    (packetFrames (UInt32.ofNat n) messages).map ChannelFrame.counter
      = (List.range' n messages.length).map UInt32.ofNat := by
  rcases messages with _ | ⟨first, rest⟩
  · rfl
  rw [List.length_cons] at h
  rw [packetFrames, List.map_cons, counter_outerFrame (by omega), counters_framesFrom (by omega), List.length_cons,
    List.range'_succ, List.map_cons]

/-! ### The frames on the other side -/

theorem consistent_messageFrame (seq : UInt32) (message : TgcallsMessage) :
    FrameReads.Consistent (messageFrame (seq ||| kSeqBitRequiresAck) message) := by
  have hflag : (seq ||| kSeqBitRequiresAck) &&& kSeqBitRequiresAck ≠ 0 := by
    rw [or_and_eq]
    intro hzero
    exact absurd (UInt32.or_eq_zero_iff.1 hzero).2 (by decide)
  have hack : decide ((seq ||| kSeqBitRequiresAck) &&& kSeqBitRequiresAck ≠ 0) = true := decide_eq_true hflag
  unfold FrameReads.Consistent messageFrame frame
  simp only [hack]

theorem consistent_framesFrom (outgoingSeq : UInt32) (i : ℕ) (messages : List TgcallsMessage) :
    ∀ f ∈ framesFrom outgoingSeq i messages, FrameReads.Consistent f := by
  induction messages generalizing i with
  | nil =>
    intro f hf
    cases hf
  | cons message messages ih =>
    intro f hf
    rcases List.mem_cons.1 hf with rfl | hf
    · exact consistent_messageFrame _ message
    · exact ih (i + 1) f hf

/-- **The frames of a packet are those that the other side splits off**, where its messages are good for a packet. -/
theorem splitFrames_packet (C : Domain.Crypto) {sharedKey : Bytes} (hkey : sharedKey.length = kSharedKeyBytes)
    (isOutgoing : Bool) (outgoingSeq : UInt32) (hne : messages ≠ [])
    (hsendable : ∀ message ∈ messages, Sendable message) :
    let dec := TgcallsSignalingCodec.decrypt C sharedKey (!isOutgoing)
      (TgcallsSignalingEnvelope.encrypt C sharedKey isOutgoing outgoingSeq messages)
    splitFrames dec.seq dec.plain = packetFrames outgoingSeq messages := by
  obtain ⟨first, rest, rfl⟩ := List.exists_cons_of_ne_nil hne
  have hfirst := hsendable first List.mem_cons_self
  have hrest : ∀ message ∈ rest, Sendable message := fun m hm => hsendable m (List.mem_cons_of_mem _ hm)
  have hframes : ∀ f ∈ packetFrames outgoingSeq (first :: rest), WellFormed f ∧ FrameReads.Consistent f := by
    intro f hf
    rcases List.mem_cons.1 hf with rfl | hf
    · exact ⟨wellFormed_messageFrame hfirst _, consistent_messageFrame _ first⟩
    · exact ⟨wellFormed_framesFrom hrest outgoingSeq 1 f hf, consistent_framesFrom outgoingSeq 1 rest f hf⟩
  dsimp only
  rw [TgcallsSignalingEnvelope.encrypt,
    TgcallsSignalingCodec.decrypt_encrypt_of_le hkey (le_length_packet hfirst.1 _ _)]
  exact FrameReads.splitFrames_whole hframes (by rintro f ⟨⟩; rfl)

/-! ### The counters of a run -/

/-- The numbers of batches of given sizes: each batch begins one behind the beginning of the last one. -/
def numbers : (seq : ℕ) → (sizes : List ℕ) → List ℕ
  | _, [] => []
  | seq, size :: sizes => List.range' seq size ++ numbers (seq + 1) sizes

/-- **The counters of a run**, from any number of the connection that leaves room. -/
theorem counters_emitAll (h : c.CanSend) (hne : ∀ messages ∈ batches, messages ≠ []) {n : ℕ}
    (hseq : c.outgoingSignalingSeq = UInt32.ofNat n) (hroom : n + (batches.map List.length).sum < 2 ^ 30) :
    counters (c.emitAll C batches).2 = (numbers (n + 1) (batches.map List.length)).map UInt32.ofNat := by
  induction batches generalizing c n with
  | nil => rfl
  | cons messages batches ih =>
    have hmessages := hne messages List.mem_cons_self
    have hpos : 0 < messages.length := List.length_pos_iff.2 hmessages
    rw [List.map_cons, List.sum_cons] at hroom
    have hnext : c.outgoingSignalingSeq + 1 = UInt32.ofNat (n + 1) := by
      rw [hseq, UInt32.ofNat_add]
      rfl
    have hrest := @ih { c with outgoingSignalingSeq := c.outgoingSignalingSeq + 1 } h
      (fun m hm => hne m (List.mem_cons_of_mem _ hm)) (n + 1) hnext (by omega)
    rw [emitAll, emitMessages_of_canSend h hmessages, List.map_cons, numbers, List.map_append, ← hrest,
      ← counters_packetFrames (by omega), ← hnext]
    rfl

theorem emitAll_of_not_canSend (h : ¬ c.CanSend) : (c.emitAll C batches).2 = [] := by
  induction batches generalizing c with
  | nil => rfl
  | cons messages batches ih =>
    rw [emitAll, emitMessages_of_not_canSend h]
    exact ih (mt canSend_emitMessages.1 h)

/-! ### Which numbers increase -/

theorem le_of_mem_numbers {seq x : ℕ} {sizes : List ℕ} (hx : x ∈ numbers seq sizes) : seq ≤ x := by
  induction sizes generalizing seq with
  | nil => cases hx
  | cons size sizes ih =>
    rcases List.mem_append.1 hx with hx | hx
    · exact (List.mem_range'_1.1 hx).1
    · have := ih hx
      omega

theorem lt_of_mem_numbers {seq x : ℕ} {sizes : List ℕ} (hpos : ∀ size ∈ sizes, 0 < size) (hx : x ∈ numbers seq sizes) :
    x < seq + sizes.sum := by
  induction sizes generalizing seq with
  | nil => cases hx
  | cons size sizes ih =>
    have hsize := hpos size List.mem_cons_self
    rw [List.sum_cons]
    rcases List.mem_append.1 hx with hx | hx
    · have := (List.mem_range'_1.1 hx).2
      omega
    · have := ih (fun s hs => hpos s (List.mem_cons_of_mem _ hs)) hx
      omega

/-- Single numbers increase, and those of the last batch behind them. -/
theorem pairwise_numbers {seq : ℕ} {sizes : List ℕ} (h : ∀ size ∈ sizes.dropLast, size = 1) :
    (numbers seq sizes).Pairwise (· < ·) := by
  induction sizes generalizing seq with
  | nil => exact .nil
  | cons size sizes ih =>
    rcases sizes with _ | ⟨next, sizes⟩
    · rw [numbers, numbers, List.append_nil]
      exact List.pairwise_lt_range' 1
    · rw [List.dropLast_cons_cons] at h
      obtain rfl : size = 1 := h size List.mem_cons_self
      rw [numbers, List.range'_one, List.singleton_append, List.pairwise_cons]
      refine ⟨?_, ih fun s hs => h s (List.mem_cons_of_mem _ hs)⟩
      intro x hx
      have := le_of_mem_numbers hx
      omega

/-- The second number of a batch is the first one of the next. -/
theorem eq_one_of_nodup_numbers {seq : ℕ} {sizes : List ℕ} (hpos : ∀ size ∈ sizes, 0 < size)
    (h : (numbers seq sizes).Nodup) : ∀ size ∈ sizes.dropLast, size = 1 := by
  induction sizes generalizing seq with
  | nil =>
    intro size hsize
    cases hsize
  | cons first sizes ih =>
    rcases sizes with _ | ⟨next, sizes⟩
    · intro size hsize
      cases hsize
    · have hfirst := hpos first List.mem_cons_self
      have hnext := hpos next (List.mem_cons_of_mem _ List.mem_cons_self)
      rw [numbers, List.nodup_append] at h
      obtain ⟨-, htail, hapart⟩ := h
      have hone : first = 1 := by
        by_contra hlong
        have hmem : seq + 1 ∈ List.range' seq first := List.mem_range'_1.2 (by omega)
        have hmem' : seq + 1 ∈ numbers (seq + 1) (next :: sizes) :=
          List.mem_append_left _ (List.mem_range'_1.2 (by omega))
        exact hapart _ hmem _ hmem' rfl
      rw [List.dropLast_cons_cons]
      intro size hsize
      rcases List.mem_cons.1 hsize with rfl | hsize
      · exact hone
      · exact ih (fun s hs => hpos s (List.mem_cons_of_mem _ hs)) htail size hsize

theorem pairwise_map_ofNat {xs : List ℕ} (hxs : ∀ x ∈ xs, x < 2 ^ 32) (h : xs.Pairwise (· < ·)) :
    (xs.map UInt32.ofNat).Pairwise (· < ·) := by
  refine List.pairwise_map.2 (h.imp_of_mem ?_)
  intro x y hx hy hlt
  exact (UInt32.ofNat_lt_iff_lt (hxs x hx) (hxs y hy)).2 hlt

/-- **The counters of a run are distinct and increase** from a fresh connection exactly where nothing goes out at all,
or all packets but the last have a single message. -/
theorem counters_increasing_iff (C : Domain.Crypto) (c : SignalingConnection) (hfresh : c.outgoingSignalingSeq = 0)
    (batches : List (List TgcallsMessage)) (hne : ∀ messages ∈ batches, messages ≠ [])
    (htotal : (batches.map List.length).sum < 2 ^ 30) :
    ((counters (c.emitAll C batches).2).Nodup ∧ (counters (c.emitAll C batches).2).Pairwise (· < ·)) ↔
      (¬ c.CanSend ∨ ∀ messages ∈ batches.dropLast, messages.length = 1) := by
  by_cases hsend : c.CanSend
  · have hcounters := counters_emitAll (C := C) (n := 0) hsend hne hfresh (by omega)
    have hpos : ∀ size ∈ batches.map List.length, 0 < size := by
      intro size hsize
      obtain ⟨messages, hmessages, rfl⟩ := List.mem_map.1 hsize
      exact List.length_pos_iff.2 (hne messages hmessages)
    rw [hcounters]
    constructor
    · rintro ⟨hnodup, -⟩
      refine .inr fun messages hmessages => ?_
      refine eq_one_of_nodup_numbers hpos hnodup.of_map _ ?_
      rw [← List.map_dropLast]
      exact List.mem_map_of_mem hmessages
    · intro hsingle
      have hsizes : ∀ size ∈ (batches.map List.length).dropLast, size = 1 := by
        intro size hsize
        rw [← List.map_dropLast] at hsize
        obtain ⟨messages, hmessages, rfl⟩ := List.mem_map.1 hsize
        exact hsingle.resolve_left (not_not_intro hsend) messages hmessages
      have hsmall : ∀ x ∈ numbers (0 + 1) (batches.map List.length), x < 2 ^ 32 := by
        intro x hx
        have := lt_of_mem_numbers hpos hx
        omega
      have hincreasing := pairwise_map_ofNat hsmall (pairwise_numbers hsizes)
      exact ⟨hincreasing.imp fun hlt => UInt32.ne_of_lt hlt, hincreasing⟩
  · rw [emitAll_of_not_canSend hsend]
    exact ⟨fun _ => .inl hsend, fun _ => ⟨List.nodup_nil, .nil⟩⟩

/-- A connection before its first message. -/
def sample : SignalingConnection :=
  { isOutgoing := true, sharedKey := TgcallsSignalingCodec.sampleKey, reflectors := [], hasSignalingOut := true }

/-- A message of its own for each number. -/
def ping (pingId : UInt32) : TgcallsMessage := { type := .ping, ping := { pingId := pingId } }

theorem canSend_sample : sample.CanSend := ⟨rfl, TgcallsSignalingCodec.length_sampleKey⟩

/-- Two packets of a message each, and a last one of two. -/
theorem counters_increasing_sample :
    (counters (sample.emitAll sampleCrypto [[ping 1], [ping 2], [ping 3, ping 4]]).2).Nodup ∧
      (counters (sample.emitAll sampleCrypto [[ping 1], [ping 2], [ping 3, ping 4]]).2).Pairwise (· < ·) :=
  (counters_increasing_iff sampleCrypto sample rfl [[ping 1], [ping 2], [ping 3, ping 4]] (by decide) (by decide)).2
    (.inr (by decide))

/-- A packet of two messages and one behind it: the number 2 goes out twice. -/
theorem counter_repeated :
    ¬ ∀ (C : Domain.Crypto) (c : SignalingConnection) (batches : List (List TgcallsMessage)),
      c.outgoingSignalingSeq = 0 → (∀ messages ∈ batches, messages ≠ []) → (batches.map List.length).sum < 2 ^ 30 →
        (counters (c.emitAll C batches).2).Nodup ∧ (counters (c.emitAll C batches).2).Pairwise (· < ·) := by
  intro h
  have hcounters : counters (sample.emitAll sampleCrypto [[ping 1, ping 2], [ping 3]]).2 = [1, 2, 2] :=
    counters_emitAll (n := 0) canSend_sample (by decide) rfl (by decide)
  have hnodup := (h sampleCrypto sample [[ping 1, ping 2], [ping 3]] rfl (by decide) (by decide)).1
  rw [hcounters] at hnodup
  exact absurd hnodup (by decide)

end SignalingConnection

end VianiumVoip.Tgcalls
