import VianiumVoip.Relay.PacketCrypto
import VianiumVoip.Relay.ControlPacket

/-!
# The audio frame on its way

`VoipStreamDataPacketCodec` of `domain/voip_stream_data_packet`, and the two chains of codecs of the engine:
`EncodeAndSendAudioFrame` makes a stream packet of the Opus bytes, a control packet of that, and a relay packet of that;
`MediaReceiveLoop` takes the three off again.

The stream packet of `n` Opus bytes has `6 + n` bytes, or `7 + n` where the length needs two (`length_stream`).  The
stream codec accepts 1100 Opus bytes and the control codec a payload of 1100: the frames from 1094 bytes on are encoded
by the one and refused by the other (`delivered_iff`).
-/

namespace VianiumVoip.Relay

open VianiumVoip.Lib VianiumVoip.Domain VoipControlPacketCodec VoipPacketCrypto

structure VoipStreamDataPacket where
  streamId : UInt8 := 1
  timestamp : UInt32 := 0
  opusPayload : Bytes := []
  deriving DecidableEq

structure VoipStreamDataCodecResult where
  success : Bool := false
  error : String := ""
  packet : VoipStreamDataPacket := {}
  bytes : Bytes := []
  deriving DecidableEq

namespace VoipStreamDataPacketCodec

def streamDataFlagLen16 : UInt8 := 0x40
def streamDataFlagHasMoreFlags : UInt8 := 0x80
def streamDataXFlagFragmented : UInt16 := 0x4000
def streamDataXFlagExtraFec : UInt16 := 0x2000
def streamDataLengthMask : UInt16 := 0x07FF
def maxOpusPayloadBytes : ℕ := 1100

def fail (message : String) : VoipStreamDataCodecResult := { error := message }

/-- The stream id with its flags, and the length in one byte or in two. -/
def streamHeader (streamId : UInt8) (opusLength : ℕ) : Bytes :=
  if 255 < opusLength then
    ((streamId &&& 0x3F) ||| streamDataFlagLen16) :: storeLE16 (UInt16.ofNat opusLength)
  else [streamId &&& 0x3F, UInt8.ofNat opusLength]

/-- The bytes of a stream packet. -/
def stream (streamId : UInt8) (timestamp : UInt32) (opus : Bytes) : Bytes :=
  streamHeader streamId opus.length ++ (storeLE32 timestamp ++ opus)

/-- `EncodeAudio` -/
def encodeAudio (streamId : UInt8) (timestamp : UInt32) (opus : Bytes) : VoipStreamDataCodecResult :=
  if streamId = 0 ∨ 0x3F < streamId then fail "VoIP stream id must fit in 6 bits"
  else if opus = [] then fail "VoIP stream payload is empty"
  else if maxOpusPayloadBytes < opus.length then fail "VoIP stream payload exceeds relay MTU budget"
  else
    { success := true
      packet := { streamId := streamId, timestamp := timestamp, opusPayload := opus }
      bytes := stream streamId timestamp opus }

/-- The length field of `DecodeOne`, and where it ends. -/
def decodeLength (bytes : Bytes) (flags : UInt8) : Except String (UInt16 × ℕ) :=
  if flags &&& streamDataFlagLen16 ≠ 0 then
    if bytes.length < 1 + 2 + 4 then .error "VoIP stream data packet is truncated before length16"
    else
      let payloadLength := loadLE16 (bytes.drop 1)
      if payloadLength &&& streamDataXFlagFragmented ≠ 0 then
        .error "VoIP fragmented stream data is not supported yet"
      else if payloadLength &&& streamDataXFlagExtraFec ≠ 0 then
        .error "VoIP extra FEC stream data is not supported yet"
      else .ok (payloadLength &&& streamDataLengthMask, 3)
  else .ok (((bytes.drop 1).headD 0).toUInt16, 2)

/-- `DecodeOne` -/
def decodeOne (bytes : Bytes) : VoipStreamDataCodecResult :=
  if bytes.length < 6 then fail "VoIP stream data packet is too short"
  else
    let streamAndFlags := bytes.headD 0
    let streamId := streamAndFlags &&& 0x3F
    let flags := streamAndFlags &&& 0xC0
    if streamId = 0 then fail "VoIP stream id is zero"
    else if flags &&& streamDataFlagHasMoreFlags ≠ 0 then fail "VoIP extended stream flags are not supported yet"
    else
      match decodeLength bytes flags with
      | .error message => fail message
      | .ok (payloadLength, offset) =>
        if payloadLength = 0 then fail "VoIP stream payload is empty"
        else if maxOpusPayloadBytes < payloadLength.toNat then fail "VoIP stream payload exceeds relay MTU budget"
        else if bytes.length < offset + 4 + payloadLength.toNat then fail "VoIP stream payload is truncated"
        else
          { success := true
            bytes := bytes.take (offset + 4 + payloadLength.toNat)
            packet :=
              { streamId := streamId
                timestamp := loadLE32 (bytes.drop offset)
                opusPayload := slice bytes (offset + 4) payloadLength.toNat } }

/-! ### The stream packet comes back -/

variable {streamId : UInt8} {timestamp : UInt32} {opus : Bytes}

theorem encodeAudio_success_iff :
    (encodeAudio streamId timestamp opus).success = true ↔
      (streamId ≠ 0 ∧ streamId ≤ 0x3F) ∧ opus ≠ [] ∧ opus.length ≤ maxOpusPayloadBytes := by
  unfold encodeAudio
  split
  · next h =>
    refine ⟨fun hsuccess => Bool.noConfusion hsuccess, ?_⟩
    rintro ⟨⟨hzero, hle⟩, _⟩
    exact absurd (h.resolve_left hzero) (UInt8.not_lt.2 hle)
  · next hid =>
    have hid' : streamId ≠ 0 ∧ streamId ≤ 0x3F := ⟨fun h => hid (.inl h), UInt8.not_lt.1 fun h => hid (.inr h)⟩
    split
    · next h => exact ⟨fun hsuccess => Bool.noConfusion hsuccess, fun ⟨_, hne, _⟩ => absurd h hne⟩
    · next hne =>
      split
      · next h => exact ⟨fun hsuccess => Bool.noConfusion hsuccess, fun ⟨_, _, hle⟩ => absurd h (Nat.not_lt.2 hle)⟩
      · next h => exact ⟨fun _ => ⟨hid', hne, Nat.not_lt.1 h⟩, fun _ => rfl⟩

theorem bytes_encodeAudio (h : (encodeAudio streamId timestamp opus).success = true) :
    (encodeAudio streamId timestamp opus).bytes = stream streamId timestamp opus := by
  obtain ⟨⟨hzero, hle⟩, hne, hmax⟩ := encodeAudio_success_iff.1 h
  have hid : ¬ (streamId = 0 ∨ 0x3F < streamId) := fun h => h.elim hzero (UInt8.not_lt.2 hle)
  unfold encodeAudio
  rw [if_neg hid, if_neg hne, if_neg (Nat.not_lt.2 hmax)]

theorem length_streamHeader (streamId : UInt8) (opusLength : ℕ) :
    (streamHeader streamId opusLength).length = if 255 < opusLength then 3 else 2 := by
  unfold streamHeader
  split
  · rw [List.length_cons, length_storeLE16]
  · rfl

theorem length_stream (streamId : UInt8) (timestamp : UInt32) (opus : Bytes) :
    (stream streamId timestamp opus).length = (if 255 < opus.length then 7 else 6) + opus.length := by
  rw [stream, List.length_append, List.length_append, length_streamHeader, length_storeLE32]
  split <;> omega

section Flags

theorem flags_of_le (hle : streamId ≤ 0x3F) :
    ((streamId &&& 0x3F) ||| streamDataFlagLen16) &&& 0x3F = streamId ∧
      ((streamId &&& 0x3F) ||| streamDataFlagLen16) &&& 0xC0 = streamDataFlagLen16 ∧
      (streamId &&& 0x3F) &&& 0x3F = streamId ∧ (streamId &&& 0x3F) &&& 0xC0 = 0 := by
  have hall : ∀ n : Fin 64,
      ((UInt8.ofNat n &&& 0x3F) ||| streamDataFlagLen16) &&& 0x3F = UInt8.ofNat n ∧
        ((UInt8.ofNat n &&& 0x3F) ||| streamDataFlagLen16) &&& 0xC0 = streamDataFlagLen16 ∧
        (UInt8.ofNat n &&& 0x3F) &&& 0x3F = UInt8.ofNat n ∧ (UInt8.ofNat n &&& 0x3F) &&& 0xC0 = 0 := by
    decide
  have hlt : streamId.toNat < 64 := Nat.lt_succ_of_le (UInt8.le_iff_toNat_le.1 hle)
  have hid : UInt8.ofNat (⟨streamId.toNat, hlt⟩ : Fin 64) = streamId := UInt8.ofNat_toNat
  have := hall ⟨streamId.toNat, hlt⟩
  rwa [hid] at this

theorem length_flags {n : ℕ} (h : n < 2048) :
    UInt16.ofNat n &&& streamDataXFlagFragmented = 0 ∧ UInt16.ofNat n &&& streamDataXFlagExtraFec = 0 ∧
      UInt16.ofNat n &&& streamDataLengthMask = UInt16.ofNat n := by
  have hn : (UInt16.ofNat n).toNat = n := UInt16.toNat_ofNat_of_lt' (lt_trans h (by decide))
  have hbit (k : ℕ) (hk : 11 ≤ k) : n &&& 2 ^ k = 0 := by
    have hlow : n < 2 ^ k := lt_of_lt_of_le h (Nat.pow_le_pow_right Nat.two_pos hk)
    rw [Nat.and_two_pow, Nat.testBit_lt_two_pow hlow, Bool.toNat_false, Nat.zero_mul]
  refine ⟨?_, ?_, ?_⟩ <;> apply UInt16.toNat.inj <;> rw [UInt16.toNat_and, hn]
  · exact hbit 14 (by decide)
  · exact hbit 13 (by decide)
  · exact (Nat.and_two_pow_sub_one_eq_mod n 11).trans (Nat.mod_eq_of_lt h)

end Flags

theorem decodeLength_stream (hle : streamId ≤ 0x3F) (hmax : opus.length ≤ maxOpusPayloadBytes) :
    decodeLength (stream streamId timestamp opus) ((stream streamId timestamp opus).headD 0 &&& 0xC0)
      = .ok (UInt16.ofNat opus.length, (streamHeader streamId opus.length).length) := by
  obtain ⟨_, hflag, _, hnoflag⟩ := flags_of_le hle
  obtain ⟨hfragmented, hfec, hmask⟩ := length_flags (lt_of_le_of_lt hmax (by decide : maxOpusPayloadBytes < 2048))
  have hlen := length_stream streamId timestamp opus
  rw [length_streamHeader]
  by_cases hlong : 255 < opus.length
  · rw [if_pos hlong] at hlen ⊢
    have hstream : stream streamId timestamp opus
        = ((streamId &&& 0x3F) ||| streamDataFlagLen16) ::
          (storeLE16 (UInt16.ofNat opus.length) ++ (storeLE32 timestamp ++ opus)) := by
      rw [stream, streamHeader, if_pos hlong, List.cons_append]
    have hhead : (stream streamId timestamp opus).headD 0 &&& 0xC0 = streamDataFlagLen16 := by
      rw [hstream]
      exact hflag
    have hfield : loadLE16 ((stream streamId timestamp opus).drop 1) = UInt16.ofNat opus.length := by
      rw [hstream, List.drop_one, List.tail_cons, loadLE16_store]
    unfold decodeLength
    rw [hhead, if_pos (by decide), if_neg (by omega), hfield]
    simp only [hfragmented, hfec, hmask]
    rw [if_neg (by decide), if_neg (by decide)]
  · rw [if_neg hlong]
    have hstream : stream streamId timestamp opus
        = (streamId &&& 0x3F) :: UInt8.ofNat opus.length :: (storeLE32 timestamp ++ opus) := by
      rw [stream, streamHeader, if_neg hlong]
      rfl
    have hhead : (stream streamId timestamp opus).headD 0 &&& 0xC0 = 0 := by
      rw [hstream]
      exact hnoflag
    have hfield : ((stream streamId timestamp opus).drop 1).headD 0 = UInt8.ofNat opus.length := by
      rw [hstream]
      rfl
    have hwide : (UInt8.ofNat opus.length).toUInt16 = UInt16.ofNat opus.length := by
      apply UInt16.toNat.inj
      rw [UInt8.toNat_toUInt16, UInt8.toNat_ofNat', UInt16.toNat_ofNat']
      omega
    unfold decodeLength
    rw [hhead, if_neg (by decide), hfield, hwide]

/-- **A stream packet comes back.** -/
theorem decodeOne_encodeAudio (h : (encodeAudio streamId timestamp opus).success = true) :
    decodeOne (stream streamId timestamp opus)
      = { success := true
          bytes := stream streamId timestamp opus
          packet := { streamId := streamId, timestamp := timestamp, opusPayload := opus } } := by
  obtain ⟨⟨hzero, hle⟩, hne, hmax⟩ := encodeAudio_success_iff.1 h
  obtain ⟨hid, hflag, hid', hnoflag⟩ := flags_of_le hle
  have hpos : 0 < opus.length := List.length_pos_iff.2 hne
  have hlen := length_stream streamId timestamp opus
  have hmax' : opus.length ≤ 1100 := hmax
  have hn : (UInt16.ofNat opus.length).toNat = opus.length := UInt16.toNat_ofNat_of_lt' (lt_of_le_of_lt hmax (by decide))
  have hnonzero : UInt16.ofNat opus.length ≠ 0 := by
    intro hzero
    rw [hzero] at hn
    exact hpos.ne hn
  have hstreamId : (stream streamId timestamp opus).headD 0 &&& 0x3F = streamId := by
    unfold stream streamHeader
    split
    · exact hid
    · exact hid'
  have hflags : ((stream streamId timestamp opus).headD 0 &&& 0xC0) &&& streamDataFlagHasMoreFlags = 0 := by
    unfold stream streamHeader
    split
    · show (((streamId &&& 0x3F) ||| streamDataFlagLen16) &&& 0xC0) &&& streamDataFlagHasMoreFlags = 0
      rw [hflag]
      decide
    · show ((streamId &&& 0x3F) &&& 0xC0) &&& streamDataFlagHasMoreFlags = 0
      rw [hnoflag]
      decide
  set offset := (streamHeader streamId opus.length).length with hoffset
  have hwhole : (stream streamId timestamp opus).length = offset + 4 + opus.length := by
    rw [stream, List.length_append, List.length_append, length_storeLE32]
    omega
  have htimestamp : (stream streamId timestamp opus).drop offset = storeLE32 timestamp ++ opus := List.drop_left' rfl
  have hopus : (stream streamId timestamp opus).drop (offset + 4) = opus := by
    rw [← List.drop_drop, htimestamp, List.drop_left' (length_storeLE32 _)]
  unfold decodeOne
  rw [if_neg (by rw [hlen]; split <;> omega)]
  simp only [hstreamId, hflags, decodeLength_stream hle hmax, ← hoffset, hn, hwhole, htimestamp, loadLE32_store]
  rw [if_neg hzero, if_neg (not_not_intro rfl), if_neg hnonzero, if_neg (Nat.not_lt.2 hmax), if_neg (lt_irrefl _),
    slice, hopus, List.take_of_length_le le_rfl, List.take_of_length_le hwhole.le]

end VoipStreamDataPacketCodec

open VoipStreamDataPacketCodec

/-! ### The control packet in the relay packet -/

variable (C : BlockCrypto) (sharedKey : Bytes) (localIsOutgoing : Bool) (peerTag : Bytes) (random : ℕ → UInt8)

/-- The datagram of a packet that has been built; the engine gives up where the packet or its encryption failed. -/
def sealPacket (packet : VoipControlCodecResult) : Option Bytes :=
  if packet.success = false then none
  else
    let encrypted := encryptRelayPacketMtProto2Short C sharedKey localIsOutgoing peerTag random packet.bytes
    if encrypted.success = false then none else some encrypted.bytes

/-- The packet in a datagram that has been received. -/
def openPacket (bytes : Bytes) : Option VoipControlPacket :=
  let decrypted := decryptRelayPacketMtProto2Short C sharedKey localIsOutgoing peerTag bytes
  if decrypted.success = false then none
  else
    let decoded := decodeShort decrypted.plain
    if decoded.success = false then none else some decoded.packet

variable {C sharedKey localIsOutgoing peerTag random} {packet : VoipControlPacket} {wire : Bytes}

theorem sealPacket_of_long (h : maxPayloadBytes < packet.payload.length) :
    sealPacket C sharedKey localIsOutgoing peerTag random (encodeShort packet) = none := by
  rw [sealPacket, encodeShort_eq, if_pos h]
  rfl

/-- **A packet with a payload that fits is sent, and opened by the other side.** -/
theorem openPacket_sealPacket (C : BlockCrypto) (localIsOutgoing : Bool) (random : ℕ → UInt8)
    (hkey : sharedKey.length = kSharedKeyBytes) (htag : peerTag.length = kPeerTagBytes) (packet : VoipControlPacket)
    (hpayload : packet.payload.length ≤ maxPayloadBytes) :
    ∃ wire, sealPacket C sharedKey localIsOutgoing peerTag random (encodeShort packet) = some wire ∧
      openPacket C sharedKey (!localIsOutgoing) peerTag wire = some packet := by
  have hencoded : (encodeShort packet).success = true := encodeShort_success_iff.2 hpayload
  have hlen : (encodeShort packet).bytes.length = headerBytes + packet.payload.length := by
    rw [bytes_encodeShort hpayload, List.length_append, length_header]
  have hpos : 1 ≤ (encodeShort packet).bytes.length := by
    rw [hlen, headerBytes]
    omega
  have hmax : (encodeShort packet).bytes.length ≤ kMaxPlainBytes := by
    have : packet.payload.length ≤ 1100 := hpayload
    rw [hlen, headerBytes, kMaxPlainBytes]
    omega
  obtain ⟨hsent, hback⟩ := decrypt_encrypt C hkey htag localIsOutgoing random hpos hmax
  refine ⟨(encryptRelayPacketMtProto2Short C sharedKey localIsOutgoing peerTag random (encodeShort packet).bytes).bytes,
    ?_, ?_⟩
  · unfold sealPacket
    simp only [hencoded, hsent]
    rfl
  · unfold openPacket
    simp only [hback, decodeShort_encodeShort hpayload]
    rfl

/-- What is sent is what the other side opens. -/
theorem openPacket_of_sealPacket (hkey : sharedKey.length = kSharedKeyBytes) (htag : peerTag.length = kPeerTagBytes)
    (h : sealPacket C sharedKey localIsOutgoing peerTag random (encodeShort packet) = some wire) :
    openPacket C sharedKey (!localIsOutgoing) peerTag wire = some packet := by
  rcases Nat.lt_or_ge maxPayloadBytes packet.payload.length with hlong | hfits
  · rw [sealPacket_of_long hlong] at h
    cases h
  · obtain ⟨sent, hsent, hopen⟩ := openPacket_sealPacket C localIsOutgoing random hkey htag packet hfits
    rw [h] at hsent
    rw [Option.some.inj hsent]
    exact hopen

namespace VoipStreamDataPacketCodec

/-! ### The two chains -/

variable (C : BlockCrypto) (sharedKey : Bytes) (localIsOutgoing : Bool) (peerTag : Bytes) (random : ℕ → UInt8)

/-- The packets that `EncodeAndSendAudioFrame` makes of the Opus bytes. -/
def sendAudioFrame (streamId : UInt8) (timestamp localSeq ackSeq : UInt32) (opus : Bytes) : Option Bytes :=
  let payload := encodeAudio streamId timestamp opus
  if payload.success = false then none
  else
    sealPacket C sharedKey localIsOutgoing peerTag random
      (buildControlPacket .streamData localSeq ackSeq payload.bytes)

/-- What `MediaReceiveLoop` takes out of a datagram, in front of the jitter buffer. -/
def receiveAudioFrame (bytes : Bytes) : Option (VoipControlPacket × VoipStreamDataPacket) :=
  match openPacket C sharedKey localIsOutgoing peerTag bytes with
  | none => none
  | some packet =>
    if packet.type ≠ .streamData then none
    else
      let stream := decodeOne packet.payload
      if stream.success = false then none else some (packet, stream.packet)

/-- **The frame is delivered**: the sender sends, and the receiver finds what was handed to the sender. -/
def Delivered (streamId : UInt8) (timestamp localSeq ackSeq : UInt32) (opus : Bytes) : Prop :=
  ∃ wire packet,
    sendAudioFrame C sharedKey localIsOutgoing peerTag random streamId timestamp localSeq ackSeq opus = some wire ∧
    receiveAudioFrame C sharedKey (!localIsOutgoing) peerTag wire
      = some (packet, { streamId := streamId, timestamp := timestamp, opusPayload := opus }) ∧
    packet.sequence = localSeq ∧ packet.ackSequence = ackSeq

variable {C sharedKey localIsOutgoing peerTag random} {streamId : UInt8} {timestamp localSeq ackSeq : UInt32}
  {opus : Bytes}

/-- The control packet of an audio frame. -/
def audioPacket (streamId : UInt8) (timestamp localSeq ackSeq : UInt32) (opus : Bytes) : VoipControlPacket :=
  { type := .streamData, ackSequence := ackSeq, sequence := localSeq, payload := stream streamId timestamp opus }

theorem sendAudioFrame_eq (h : (encodeAudio streamId timestamp opus).success = true) :
    sendAudioFrame C sharedKey localIsOutgoing peerTag random streamId timestamp localSeq ackSeq opus
      = sealPacket C sharedKey localIsOutgoing peerTag random
          (encodeShort (audioPacket streamId timestamp localSeq ackSeq opus)) := by
  unfold sendAudioFrame
  simp only [h, bytes_encodeAudio h]
  rfl

/-- A stream packet that is longer than the payload of a control packet ends the chain. -/
theorem sendAudioFrame_of_long (h : (encodeAudio streamId timestamp opus).success = true)
    (hlong : maxPayloadBytes < (stream streamId timestamp opus).length) :
    sendAudioFrame C sharedKey localIsOutgoing peerTag random streamId timestamp localSeq ackSeq opus = none :=
  (sendAudioFrame_eq h).trans (sealPacket_of_long hlong)

/-- **A stream packet that fits is delivered.** -/
theorem delivered_of_fits (hkey : sharedKey.length = kSharedKeyBytes) (htag : peerTag.length = kPeerTagBytes)
    (h : (encodeAudio streamId timestamp opus).success = true)
    (hfits : (stream streamId timestamp opus).length ≤ maxPayloadBytes) :
    Delivered C sharedKey localIsOutgoing peerTag random streamId timestamp localSeq ackSeq opus := by
  obtain ⟨wire, hsent, hopen⟩ := openPacket_sealPacket C localIsOutgoing random hkey htag
    (audioPacket streamId timestamp localSeq ackSeq opus) hfits
  refine ⟨wire, audioPacket streamId timestamp localSeq ackSeq opus, (sendAudioFrame_eq h).trans hsent, ?_, rfl, rfl⟩
  have htype : (audioPacket streamId timestamp localSeq ackSeq opus).type = .streamData := rfl
  have hpayload : (audioPacket streamId timestamp localSeq ackSeq opus).payload = stream streamId timestamp opus := rfl
  unfold receiveAudioFrame
  rw [hopen]
  simp only [htype, hpayload, decodeOne_encodeAudio h]
  rfl

/-- **The chains are lossless exactly below 1094 bytes**, for every frame that `EncodeAudio` accepts. -/
theorem delivered_iff (C : BlockCrypto) (hkey : sharedKey.length = kSharedKeyBytes)
    (htag : peerTag.length = kPeerTagBytes) (localIsOutgoing : Bool) (random : ℕ → UInt8) (localSeq ackSeq : UInt32)
    (h : (encodeAudio streamId timestamp opus).success = true) :
    Delivered C sharedKey localIsOutgoing peerTag random streamId timestamp localSeq ackSeq opus ↔
      opus.length ≤ 1093 := by
  have hlen := length_stream streamId timestamp opus
  constructor
  · rintro ⟨wire, packet, hsend, _⟩
    by_contra hlong
    have hexceeds : maxPayloadBytes < (stream streamId timestamp opus).length := by
      rw [hlen, if_pos (by omega), maxPayloadBytes]
      omega
    rw [sendAudioFrame_of_long h hexceeds] at hsend
    cases hsend
  · intro hshort
    refine delivered_of_fits hkey htag h ?_
    rw [hlen, maxPayloadBytes]
    split <;> omega

/-- A frame of 60 bytes. -/
theorem delivered_sample :
    Delivered sampleBlockCrypto (List.replicate 256 1) true (List.replicate 16 0x30) (fun n => UInt8.ofNat n) 1 960 7 3
        (List.replicate 60 0x55) ↔
      (List.replicate 60 (0x55 : UInt8)).length ≤ 1093 :=
  delivered_iff sampleBlockCrypto List.length_replicate List.length_replicate true (fun n => UInt8.ofNat n) 7 3
    (by decide)

/-- **A frame of 1094 bytes is accepted and lost.** -/
theorem long_frame_lost :
    (encodeAudio 1 960 (List.replicate 1094 0x55)).success = true ∧
      sendAudioFrame sampleBlockCrypto (List.replicate 256 1) true (List.replicate 16 0x30) (fun n => UInt8.ofNat n) 1
        960 7 3 (List.replicate 1094 0x55) = none ∧
      ¬ Delivered sampleBlockCrypto (List.replicate 256 1) true (List.replicate 16 0x30) (fun n => UInt8.ofNat n) 1 960
        7 3 (List.replicate 1094 0x55) := by
  have haccepted : (encodeAudio 1 960 (List.replicate 1094 0x55)).success = true := by
    rw [encodeAudio_success_iff, List.length_replicate]
    exact ⟨⟨by decide, by decide⟩, List.cons_ne_nil _ _, by decide⟩
  have hlost : sendAudioFrame sampleBlockCrypto (List.replicate 256 1) true (List.replicate 16 0x30)
      (fun n => UInt8.ofNat n) 1 960 7 3 (List.replicate 1094 0x55) = none := by
    refine sendAudioFrame_of_long haccepted ?_
    rw [length_stream, List.length_replicate]
    decide
  refine ⟨haccepted, hlost, ?_⟩
  rintro ⟨wire, packet, hsend, _⟩
  rw [hlost] at hsend
  cases hsend

end VoipStreamDataPacketCodec

end VianiumVoip.Relay
