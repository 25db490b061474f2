import VianiumVoip.Lib.TracedReads
import VianiumVoip.Relay.StreamDataPacket

/-!
# Reading a stream packet

`DecodeOne` of `domain/voip_stream_data_packet` with its reads in a trace, and with bytes behind the packet.  It reads
inside of its buffer (`reads_decodeOne`), looks at nothing behind the packet that it finds (`decodeOne_append`), and
finds only packets that the encoder takes (`encodeAudio_decodeOne`).
-/

namespace VianiumVoip.Relay.VoipStreamDataPacketCodec

open VianiumVoip.Lib

namespace StreamDataReads

open Traced

/-- `decodeLength` with its reads. -/
def decodeLength (bytes : Bytes) (flags : UInt8) : Traced (Except String (UInt16 × ℕ)) :=
  if flags &&& streamDataFlagLen16 ≠ 0 then
    if bytes.length < 1 + 2 + 4 then pure (.error "VoIP stream data packet is truncated before length16")
    else do
      let payloadLength ← loadLE16At bytes 1
      if payloadLength &&& streamDataXFlagFragmented ≠ 0 then
        return .error "VoIP fragmented stream data is not supported yet"
      else if payloadLength &&& streamDataXFlagExtraFec ≠ 0 then
        return .error "VoIP extra FEC stream data is not supported yet"
      else return .ok (payloadLength &&& streamDataLengthMask, 3)
  else do
    let payloadLength ← byteAt bytes 1
    return .ok (payloadLength.toUInt16, 2)

/-- The packet behind its length field. -/
def decodePayload (bytes : Bytes) (streamId : UInt8) (payloadLength : UInt16) (offset : ℕ) :
    Traced VoipStreamDataCodecResult :=
  if payloadLength = 0 then pure (fail "VoIP stream payload is empty")
  else if maxOpusPayloadBytes < payloadLength.toNat then pure (fail "VoIP stream payload exceeds relay MTU budget")
  else if bytes.length < offset + 4 + payloadLength.toNat then pure (fail "VoIP stream payload is truncated")
  else do
    let timestamp ← loadLE32At bytes offset
    let opusPayload ← slice bytes (offset + 4) payloadLength.toNat
    let consumed ← slice bytes 0 (offset + 4 + payloadLength.toNat)
    return {
      success := true
      bytes := consumed
      packet := { streamId := streamId, timestamp := timestamp, opusPayload := opusPayload } }

/-- `DecodeOne` -/
def decodeOne (bytes : Bytes) : Traced VoipStreamDataCodecResult :=
  if bytes.length < 6 then pure (fail "VoIP stream data packet is too short")
  else do
    let streamAndFlags ← byteAt bytes 0
    let streamId := streamAndFlags &&& 0x3F
    let flags := streamAndFlags &&& 0xC0
    if streamId = 0 then pure (fail "VoIP stream id is zero")
    else if flags &&& streamDataFlagHasMoreFlags ≠ 0 then pure (fail "VoIP extended stream flags are not supported yet")
    else do
      match ← decodeLength bytes flags with
      | .error message => pure (fail message)
      | .ok (payloadLength, offset) => decodePayload bytes streamId payloadLength offset

theorem getD_one (bytes : Bytes) : bytes.getD 1 0 = (bytes.drop 1).headD 0 := by
  rcases bytes with _ | ⟨x, _ | ⟨y, rest⟩⟩ <;> rfl

theorem value_decodeLength (bytes : Bytes) (flags : UInt8) :
    (decodeLength bytes flags).value = VoipStreamDataPacketCodec.decodeLength bytes flags := by
  unfold decodeLength VoipStreamDataPacketCodec.decodeLength
  refine value_ite_eq (fun _ => value_ite_eq (fun _ => rfl) fun _ => ?_) fun _ => ?_
  · simp only [value_bind, value_loadLE16At]
    exact value_ite_eq (fun _ => rfl) fun _ => value_ite_eq (fun _ => rfl) fun _ => rfl
  · simp only [value_bind, value_byteAt, value_pure, getD_one]

/-- **The trace is one of `DecodeOne`**: its value is what the function returns. -/
theorem value_decodeOne (bytes : Bytes) :
    (decodeOne bytes).value = VoipStreamDataPacketCodec.decodeOne bytes := by
  have hhead : bytes.getD 0 0 = bytes.headD 0 := by cases bytes <;> rfl
  unfold decodeOne VoipStreamDataPacketCodec.decodeOne
  refine value_ite_eq (fun _ => rfl) fun _ => ?_
  simp only [value_bind, value_byteAt, hhead]
  refine value_ite_eq (fun _ => rfl) fun _ => value_ite_eq (fun _ => rfl) fun _ => ?_
  rw [value_bind, value_decodeLength]
  cases VoipStreamDataPacketCodec.decodeLength bytes (bytes.headD 0 &&& 0xC0) with
  | error message => rfl
  | ok field =>
    obtain ⟨payloadLength, offset⟩ := field
    unfold decodePayload
    refine value_ite_eq (fun _ => rfl) fun _ => value_ite_eq (fun _ => rfl) fun _ => ?_
    refine value_ite_eq (fun _ => rfl) fun _ => ?_
    simp [Domain.slice]

section Below

variable {P : Access → Prop} {bytes : Bytes} (hP : Covers P bytes.length)
include hP

theorem reads_decodeLength (hlength : 6 ≤ bytes.length) (flags : UInt8) : Reads P (decodeLength bytes flags) := by
  unfold decodeLength
  refine reads_ite (fun _ => reads_ite (fun _ => reads_pure _) fun hlong => ?_) fun _ => ?_
  · refine (reads_loadLE16At hP (by omega)).bind ?_
    exact reads_ite (fun _ => reads_pure _) fun _ => reads_ite (fun _ => reads_pure _) fun _ => reads_pure _
  · exact (reads_byteAt hP (by omega)).bind (reads_pure _)

theorem reads_decodePayload (streamId : UInt8) (payloadLength : UInt16) (offset : ℕ) :
    Reads P (decodePayload bytes streamId payloadLength offset) := by
  unfold decodePayload
  refine reads_ite (fun _ => reads_pure _) fun _ => reads_ite (fun _ => reads_pure _) fun _ =>
    reads_ite (fun _ => reads_pure _) fun hfits => ?_
  refine (reads_loadLE32At hP (by omega)).bind ((reads_slice hP (by omega)).bind ?_)
  exact (reads_slice hP (by omega)).bind (reads_pure _)

/-- **`DecodeOne` reads inside of its buffer.** -/
theorem reads_decodeOne : Reads P (decodeOne bytes) := by
  unfold decodeOne
  refine reads_ite (fun _ => reads_pure _) fun hlength => (reads_byteAt hP (by omega)).bind ?_
  refine reads_ite (fun _ => reads_pure _) fun _ => reads_ite (fun _ => reads_pure _) fun _ => ?_
  refine (reads_decodeLength hP (by omega) _).bind ?_
  split
  · exact reads_pure _
  · exact reads_decodePayload hP _ _ _

end Below

end StreamDataReads

/-! ### What is found -/

/-- A packet is found: the length field that is read, and where it ends. -/
structure Decodes (bytes : Bytes) (payloadLength : UInt16) (offset : ℕ) : Prop where
  length : 6 ≤ bytes.length
  streamId : bytes.headD 0 &&& 0x3F ≠ 0
  flags : (bytes.headD 0 &&& 0xC0) &&& streamDataFlagHasMoreFlags = 0
  field : decodeLength bytes (bytes.headD 0 &&& 0xC0) = .ok (payloadLength, offset)
  pos : payloadLength ≠ 0
  le_max : payloadLength.toNat ≤ maxOpusPayloadBytes
  fits : offset + 4 + payloadLength.toNat ≤ bytes.length

variable {bytes : Bytes} {payloadLength : UInt16} {offset : ℕ}

theorem Decodes.decodeOne_eq (h : Decodes bytes payloadLength offset) :
    decodeOne bytes =
      { success := true
        bytes := bytes.take (offset + 4 + payloadLength.toNat)
        packet :=
          { streamId := bytes.headD 0 &&& 0x3F
            timestamp := loadLE32 (bytes.drop offset)
            opusPayload := Domain.slice bytes (offset + 4) payloadLength.toNat } } := by
  unfold decodeOne
  rw [if_neg (Nat.not_lt.2 h.length)]
  simp only [h.field]
  rw [if_neg h.streamId, if_neg (not_not_intro h.flags), if_neg h.pos, if_neg (Nat.not_lt.2 h.le_max),
    if_neg (Nat.not_lt.2 h.fits)]

theorem decodes_of_success (h : (decodeOne bytes).success = true) :
    ∃ payloadLength offset, Decodes bytes payloadLength offset := by
  unfold decodeOne at h
  cases hfield : decodeLength bytes (bytes.headD 0 &&& 0xC0) with
  | error message =>
    simp only [hfield] at h
    split_ifs at h <;> cases h
  | ok field =>
    obtain ⟨payloadLength, offset⟩ := field
    simp only [hfield] at h
    split_ifs at h with hlength hid hflags hzero hmax hfits <;> try cases h
    exact ⟨payloadLength, offset, Nat.le_of_not_lt hlength, hid, not_not.1 hflags, hfield, hzero, Nat.le_of_not_lt hmax,
      Nat.le_of_not_lt hfits⟩

theorem headD_append (h : 0 < bytes.length) (suffix : Bytes) : (bytes ++ suffix).headD 0 = bytes.headD 0 := by
  cases bytes with
  | nil => cases h
  | cons x rest => rfl

theorem loadLE32_append (suffix : Bytes) (h : offset + 4 ≤ bytes.length) :
    loadLE32 ((bytes ++ suffix).drop offset) = loadLE32 (bytes.drop offset) := by
  have hlength : 4 ≤ (bytes.drop offset).length := by
    rw [List.length_drop]
    omega
  rw [List.drop_append_of_le_length (by omega), loadLE32, List.take_append_of_le_length hlength, loadLE32]

theorem decodeLength_append {flags : UInt8} (hlength : 6 ≤ bytes.length)
    (h : decodeLength bytes flags = .ok (payloadLength, offset)) (suffix : Bytes) :
    decodeLength (bytes ++ suffix) flags = .ok (payloadLength, offset) := by
  have hdrop : (bytes ++ suffix).drop 1 = bytes.drop 1 ++ suffix := List.drop_append_of_le_length (by omega)
  have htail : 2 ≤ (bytes.drop 1).length := by
    rw [List.length_drop]
    omega
  have hfield : loadLE16 ((bytes ++ suffix).drop 1) = loadLE16 (bytes.drop 1) := by
    rw [hdrop, loadLE16, List.take_append_of_le_length htail, loadLE16]
  have hbyte : ((bytes ++ suffix).drop 1).headD 0 = (bytes.drop 1).headD 0 := by
    rw [hdrop, headD_append (by omega)]
  unfold decodeLength at h ⊢
  rw [hfield, hbyte, List.length_append]
  split_ifs at h ⊢ <;> first | exact h | omega

theorem Decodes.append (h : Decodes bytes payloadLength offset) (suffix : Bytes) :
    Decodes (bytes ++ suffix) payloadLength offset := by
  have hlength := h.length
  have hfits := h.fits
  have hhead : (bytes ++ suffix).headD 0 = bytes.headD 0 := headD_append (by omega) suffix
  refine ⟨?_, ?_, ?_, ?_, h.pos, h.le_max, ?_⟩
  · rw [List.length_append]
    omega
  · rw [hhead]
    exact h.streamId
  · rw [hhead]
    exact h.flags
  · rw [hhead]
    exact decodeLength_append hlength h.field suffix
  · rw [List.length_append]
    omega

/-- **A packet that is found** is found with anything behind it. -/
theorem decodeOne_append (h : (decodeOne bytes).success = true) (suffix : Bytes) :
    decodeOne (bytes ++ suffix) = decodeOne bytes := by
  obtain ⟨payloadLength, offset, hdecodes⟩ := decodes_of_success h
  have hlength := hdecodes.length
  have hfits := hdecodes.fits
  have hhead : (bytes ++ suffix).headD 0 = bytes.headD 0 := headD_append (by omega) suffix
  have hopus : Domain.slice (bytes ++ suffix) (offset + 4) payloadLength.toNat
      = Domain.slice bytes (offset + 4) payloadLength.toNat := by
    have hrest : payloadLength.toNat ≤ (bytes.drop (offset + 4)).length := by
      rw [List.length_drop]
      omega
    rw [Domain.slice, List.drop_append_of_le_length (by omega), List.take_append_of_le_length hrest, Domain.slice]
  rw [(hdecodes.append suffix).decodeOne_eq, hdecodes.decodeOne_eq, hhead, hopus,
    List.take_append_of_le_length hfits, loadLE32_append suffix (by omega)]

/-- **The encoder takes every packet that is found.** -/
theorem encodeAudio_decodeOne (h : (decodeOne bytes).success = true) :
    (encodeAudio (decodeOne bytes).packet.streamId (decodeOne bytes).packet.timestamp
      (decodeOne bytes).packet.opusPayload).success = true := by
  obtain ⟨payloadLength, offset, hdecodes⟩ := decodes_of_success h
  have hfits := hdecodes.fits
  have hlength : (Domain.slice bytes (offset + 4) payloadLength.toNat).length = payloadLength.toNat := by
    rw [Domain.slice, List.length_take, List.length_drop]
    omega
  have hpos : 0 < payloadLength.toNat := by
    have hne : payloadLength.toNat ≠ 0 := fun hzero => hdecodes.pos (UInt16.toNat_inj.1 hzero)
    omega
  rw [encodeAudio_success_iff, hdecodes.decodeOne_eq]
  refine ⟨⟨hdecodes.streamId, ?_⟩, List.ne_nil_of_length_pos (by rwa [hlength]), by rw [hlength]; exact hdecodes.le_max⟩
  rw [UInt8.le_iff_toNat_le, UInt8.toNat_and]
  exact Nat.and_le_right

/-- **Stream packets**: one that is encoded comes back from in front of any bytes, with exactly its own bytes consumed;
and the decoder, which reads inside of its buffer, finds only packets that come back when they are encoded again. -/
theorem stream_packets :
    (∀ (streamId : UInt8) (timestamp : UInt32) (opus suffix : Bytes), streamId ≠ 0 → streamId ≤ 0x3F → opus ≠ [] →
      opus.length ≤ maxOpusPayloadBytes →
        (encodeAudio streamId timestamp opus).success = true ∧
          decodeOne ((encodeAudio streamId timestamp opus).bytes ++ suffix)
            = { success := true
                bytes := (encodeAudio streamId timestamp opus).bytes
                packet := { streamId := streamId, timestamp := timestamp, opusPayload := opus } }) ∧
      ∀ bytes : Bytes,
        (StreamDataReads.decodeOne bytes).value = decodeOne bytes ∧
          (StreamDataReads.decodeOne bytes).Reads (Access.Below bytes.length) ∧
          ((decodeOne bytes).success = true →
            (encodeAudio (decodeOne bytes).packet.streamId (decodeOne bytes).packet.timestamp
                (decodeOne bytes).packet.opusPayload).success = true ∧
              (decodeOne (encodeAudio (decodeOne bytes).packet.streamId (decodeOne bytes).packet.timestamp
                (decodeOne bytes).packet.opusPayload).bytes).packet = (decodeOne bytes).packet) := by
  refine ⟨?_, fun bytes => ⟨StreamDataReads.value_decodeOne bytes, ?_, ?_⟩⟩
  · intro streamId timestamp opus suffix hzero hle hne hmax
    have h : (encodeAudio streamId timestamp opus).success = true := encodeAudio_success_iff.2 ⟨⟨hzero, hle⟩, hne, hmax⟩
    have hback := decodeOne_encodeAudio h
    refine ⟨h, ?_⟩
    rw [bytes_encodeAudio h, decodeOne_append (by rw [hback]) suffix, hback]
  · exact StreamDataReads.reads_decodeOne fun _ hi => hi
  · intro h
    have hencoded := encodeAudio_decodeOne h
    exact ⟨hencoded, by rw [bytes_encodeAudio hencoded, decodeOne_encodeAudio hencoded]⟩

/-- A packet of one byte, with a byte behind it. -/
theorem stream_packets_one :
    decodeOne [1, 1, 60, 0, 0, 0, 7, 9]
      = { success := true
          bytes := [1, 1, 60, 0, 0, 0, 7]
          packet := { streamId := 1, timestamp := 60, opusPayload := [7] } } :=
  (stream_packets.1 1 60 [7] [9] (by decide) (by decide) (by decide) (by decide)).2

end VianiumVoip.Relay.VoipStreamDataPacketCodec
