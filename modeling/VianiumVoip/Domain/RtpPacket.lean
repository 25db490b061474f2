import VianiumVoip.Lib.Bytes
import Mathlib.Tactic.SplitIfs

/-!
# The RTP packets of the self-test

`VoipRtpCodec` of `domain/voip_rtp_packet`.  A packet that is encoded comes back (`decode_encode`).  The other way round
the decoder looks at neither the padding bit nor the extension bit nor the marker, so that a packet with one of them is
taken for one without: what the padding or the extension holds counts as payload (`encode_decode`, `exact_iff`).
-/

namespace VianiumVoip.Domain

open VianiumVoip.Lib

structure VoipRtpPacket where
  payloadType : UInt8 := 96
  sequenceNumber : UInt16 := 0
  timestamp : UInt32 := 0
  ssrc : UInt32 := 0
  telegramFlags : UInt8 := 0
  telegramSequenceOrAck : UInt32 := 0
  payload : Bytes := []
  deriving DecidableEq

structure VoipRtpCodecResult where
  success : Bool := false
  error : String := ""
  packet : VoipRtpPacket := {}
  bytes : Bytes := []
  deriving DecidableEq

namespace VoipRtpCodec

def headerBytes : ℕ := 16
def maxPayloadBytes : ℕ := 1200

def fail (message : String) : VoipRtpCodecResult := { error := message }

/-- The fields behind the first two bytes, and the payload. -/
def fields (packet : VoipRtpPacket) : Bytes :=
  storeBE16 packet.sequenceNumber ++ (storeBE32 packet.timestamp ++ (storeBE32 packet.ssrc
    ++ (packet.telegramFlags :: (storeBE24 packet.telegramSequenceOrAck ++ packet.payload))))

/-- `Encode` -/
def encode (packet : VoipRtpPacket) : VoipRtpCodecResult :=
  if packet.payload = [] then fail "RTP payload is empty"
  else if maxPayloadBytes < packet.payload.length then fail "RTP payload exceeds conservative UDP MTU budget"
  else if 127 < packet.payloadType then fail "RTP payload type must fit in 7 bits"
  else if 0xFFFFFF < packet.telegramSequenceOrAck then
    fail "Telegram RTP extension sequence/ack must fit in 24 bits"
  else
    { success := true
      packet := packet
      -- no padding, no extension and no CSRC
      bytes := 0x80 :: (packet.payloadType &&& 0x7F) :: fields packet }

/-- The packet in the bytes behind the checks of `Decode`. -/
def packetOf (bytes : Bytes) : VoipRtpPacket where
  payloadType := (bytes.drop 1).headD 0 &&& 0x7F
  sequenceNumber := loadBE16 (bytes.drop 2)
  timestamp := loadBE32 (bytes.drop 4)
  ssrc := loadBE32 (bytes.drop 8)
  telegramFlags := (bytes.drop 12).headD 0
  telegramSequenceOrAck := loadBE24 (bytes.drop 13)
  payload := bytes.drop headerBytes

/-- `Decode` -/
def decode (bytes : Bytes) : VoipRtpCodecResult :=
  if bytes.length < headerBytes then fail "RTP packet is too short"
  else if (bytes.headD 0 >>> 6) &&& 0x03 ≠ 2 then fail "RTP version must be 2"
  else if bytes.headD 0 &&& 0x0F ≠ 0 then fail "RTP CSRC lists are not supported for Telegram calls"
  else if (packetOf bytes).payload = [] then fail "RTP payload is empty"
  else if maxPayloadBytes < (packetOf bytes).payload.length then
    fail "RTP payload exceeds conservative UDP MTU budget"
  else { success := true, packet := packetOf bytes, bytes := bytes }

/-! ### From the packet to the bytes and back -/

variable {packet : VoipRtpPacket} {bytes : Bytes}

/-- A packet that the format can hold. -/
structure Encodable (packet : VoipRtpPacket) : Prop where
  payload_ne : packet.payload ≠ []
  payload_le : packet.payload.length ≤ maxPayloadBytes
  payloadType_le : packet.payloadType ≤ 127
  sequenceOrAck_le : packet.telegramSequenceOrAck ≤ 0xFFFFFF

theorem encode_success_iff : (encode packet).success = true ↔ Encodable packet := by
  unfold encode
  constructor
  · intro h
    split_ifs at h with hempty hlong htype hsequence <;> try cases h
    exact ⟨hempty, Nat.le_of_not_lt hlong, UInt8.not_lt.1 htype, UInt32.not_lt.1 hsequence⟩
  · rintro ⟨hempty, hlong, htype, hsequence⟩
    rw [if_neg hempty, if_neg (Nat.not_lt.2 hlong), if_neg (UInt8.not_lt.2 htype), if_neg (UInt32.not_lt.2 hsequence)]

theorem bytes_encode (h : Encodable packet) :
    (encode packet).bytes = 0x80 :: (packet.payloadType &&& 0x7F) :: fields packet := by
  rw [encode, if_neg h.payload_ne, if_neg (Nat.not_lt.2 h.payload_le), if_neg (UInt8.not_lt.2 h.payloadType_le),
    if_neg (UInt32.not_lt.2 h.sequenceOrAck_le)]

theorem and_of_le {x : UInt8} (h : x ≤ 127) : x &&& 0x7F = x := by
  apply UInt8.toNat.inj
  have hle : x.toNat ≤ 127 := UInt8.le_iff_toNat_le.1 h
  have hmask : (0x7F : UInt8).toNat = 2 ^ 7 - 1 := rfl
  rw [UInt8.toNat_and, hmask, Nat.and_two_pow_sub_one_eq_mod]
  exact Nat.mod_eq_of_lt (by omega)

theorem packetOf_encode (h : Encodable packet) :
    packetOf (0x80 :: (packet.payloadType &&& 0x7F) :: fields packet) = packet := by
  set bytes := 0x80 :: (packet.payloadType &&& 0x7F) :: fields packet with hbytes
  have htype : (bytes.drop 1).headD 0 &&& 0x7F = packet.payloadType := by
    rw [hbytes, List.drop_one, List.tail_cons, List.headD_cons, and_of_le h.payloadType_le, and_of_le h.payloadType_le]
  have htimestamp : bytes.drop 4 = storeBE32 packet.timestamp ++ (storeBE32 packet.ssrc
      ++ (packet.telegramFlags :: (storeBE24 packet.telegramSequenceOrAck ++ packet.payload))) :=
    List.drop_left' (length_storeBE16 _)
  have hssrc : bytes.drop 8 = storeBE32 packet.ssrc
      ++ (packet.telegramFlags :: (storeBE24 packet.telegramSequenceOrAck ++ packet.payload)) := by
    rw [← List.drop_drop (i := 4) (j := 4), htimestamp, List.drop_left' (length_storeBE32 _)]
  have hflags : bytes.drop 12
      = packet.telegramFlags :: (storeBE24 packet.telegramSequenceOrAck ++ packet.payload) := by
    rw [← List.drop_drop (i := 4) (j := 8), hssrc, List.drop_left' (length_storeBE32 _)]
  have hsequence : bytes.drop 13 = storeBE24 packet.telegramSequenceOrAck ++ packet.payload := by
    rw [← List.drop_drop (i := 1) (j := 12), hflags, List.drop_one, List.tail_cons]
  have hpayload : bytes.drop headerBytes = packet.payload := by
    rw [headerBytes, ← List.drop_drop (i := 3) (j := 13), hsequence, List.drop_left' (length_storeBE24 _)]
  have hack : loadBE24 (bytes.drop 13) = packet.telegramSequenceOrAck := by
    have hle : packet.telegramSequenceOrAck.toNat ≤ 0xFFFFFF := UInt32.le_iff_toNat_le.1 h.sequenceOrAck_le
    apply UInt32.toNat.inj
    rw [hsequence, loadBE24_store]
    exact Nat.mod_eq_of_lt (by omega)
  rw [packetOf, htype, hack, hpayload, hflags, hssrc, htimestamp]
  simp only [loadBE32_store, List.headD_cons]
  rw [hbytes, List.drop_succ_cons, List.drop_succ_cons, List.drop_zero, fields, loadBE16_store]

theorem length_fields (packet : VoipRtpPacket) : (fields packet).length = 14 + packet.payload.length := by
  simp only [fields, List.length_append, List.length_cons, length_storeBE16, length_storeBE24, length_storeBE32]
  omega

/-- **A packet that is encoded comes back.** -/
theorem decode_encode (h : (encode packet).success = true) :
    decode (encode packet).bytes = { success := true, packet := packet, bytes := (encode packet).bytes } := by
  have hencodable := encode_success_iff.1 h
  have hlong : ¬ (0x80 :: (packet.payloadType &&& 0x7F) :: fields packet).length < headerBytes := by
    rw [List.length_cons, List.length_cons, length_fields, headerBytes]
    omega
  rw [bytes_encode hencodable, decode, if_neg hlong, packetOf_encode hencodable, List.headD_cons, if_neg (by decide),
    if_neg (by decide), if_neg hencodable.payload_ne, if_neg (Nat.not_lt.2 hencodable.payload_le)]

/-! ### From the bytes to the packet and back -/

/-- `Decode` takes the bytes. -/
structure Accepted (bytes : Bytes) : Prop where
  header : headerBytes < bytes.length
  payload : bytes.length ≤ headerBytes + maxPayloadBytes
  version : (bytes.headD 0 >>> 6) &&& 0x03 = 2
  csrcCount : bytes.headD 0 &&& 0x0F = 0

theorem decode_success_iff : (decode bytes).success = true ↔ Accepted bytes := by
  have hlength : (packetOf bytes).payload.length = bytes.length - headerBytes := List.length_drop ..
  have hempty : (packetOf bytes).payload = [] ↔ bytes.length ≤ headerBytes := List.drop_eq_nil_iff
  unfold decode
  constructor
  · intro h
    split_ifs at h with hheader hversion hcsrc hpayload hlong <;> try cases h
    exact ⟨Nat.lt_of_not_le (hempty.not.1 hpayload), by omega, not_not.1 hversion, not_not.1 hcsrc⟩
  · rintro ⟨hheader, hpayload, hversion, hcsrc⟩
    rw [if_neg (by omega), if_neg (not_not_intro hversion), if_neg (not_not_intro hcsrc),
      if_neg (by rw [hempty]; omega), if_neg (by omega)]

theorem decode_of_accepted (h : Accepted bytes) :
    decode bytes = { success := true, packet := packetOf bytes, bytes := bytes } := by
  have hsuccess := decode_success_iff.2 h
  unfold decode at hsuccess ⊢
  split_ifs at hsuccess ⊢ <;> first | rfl | cases hsuccess

theorem cons_drop {n : ℕ} (h : n < bytes.length) : (bytes.drop n).headD 0 :: bytes.drop (n + 1) = bytes.drop n := by
  rw [List.drop_eq_getElem_cons h]
  rfl

theorem take_drop_append (bytes : Bytes) (i n : ℕ) : (bytes.drop i).take n ++ bytes.drop (i + n) = bytes.drop i := by
  rw [← List.drop_drop, List.take_append_drop]

theorem fields_packetOf (h : headerBytes ≤ bytes.length) : fields (packetOf bytes) = bytes.drop 2 := by
  rw [headerBytes] at h
  have hlength (i : ℕ) : (bytes.drop i).length = bytes.length - i := List.length_drop
  simp only [fields, packetOf]
  rw [storeBE16_load (by rw [hlength]; omega), storeBE32_load (by rw [hlength]; omega),
    storeBE32_load (by rw [hlength]; omega), storeBE24_load (by rw [hlength]; omega), headerBytes,
    take_drop_append bytes 13 3, cons_drop (by omega), take_drop_append bytes 8 4, take_drop_append bytes 4 4,
    take_drop_append bytes 2 2]

theorem encodable_packetOf (h : Accepted bytes) : Encodable (packetOf bytes) := by
  have hlength : (packetOf bytes).payload.length = bytes.length - headerBytes := List.length_drop ..
  have hheader := h.header
  have hpayload := h.payload
  refine ⟨List.ne_nil_of_length_pos (by omega), by omega, ?_, ?_⟩
  · rw [UInt8.le_iff_toNat_le, packetOf, UInt8.toNat_and]
    exact Nat.and_le_right
  · have hlt : ofBE ((bytes.drop 13).take 3) < 256 ^ 3 :=
      ofBE_take_lt (by rw [List.length_drop, headerBytes] at *; omega)
    rw [UInt32.le_iff_toNat_le, packetOf, loadBE24, UInt32.toNat_ofNat', Nat.mod_eq_of_lt (by omega)]
    exact Nat.le_of_lt_succ hlt

/-- **A packet that is decoded** is encoded with neither padding nor extension nor marker; all other bytes are the
same. -/
theorem encode_decode (h : (decode bytes).success = true) :
    (encode (decode bytes).packet).success = true ∧
      (encode (decode bytes).packet).bytes = 0x80 :: ((bytes.drop 1).headD 0 &&& 0x7F) :: bytes.drop 2 := by
  have haccepted := decode_success_iff.1 h
  have hencodable := encodable_packetOf haccepted
  have htype : (packetOf bytes).payloadType &&& 0x7F = (bytes.drop 1).headD 0 &&& 0x7F :=
    and_of_le hencodable.payloadType_le
  rw [decode_of_accepted haccepted]
  exact ⟨encode_success_iff.2 hencodable, by rw [bytes_encode hencodable, htype, fields_packetOf haccepted.header.le]⟩

/-! ### The bits that are not looked at -/

/-- None of the bits that a packet has no field for is set. -/
structure Plain (bytes : Bytes) : Prop where
  padding : bytes.headD 0 &&& 0x20 = 0
  extension : bytes.headD 0 &&& 0x10 = 0
  marker : (bytes.drop 1).headD 0 &&& 0x80 = 0

/-- A packet that is encoded comes back, and bytes that are decoded come back. -/
structure Exact (bytes : Bytes) : Prop where
  encoded : ∀ packet, (encode packet).success = true →
    decode (encode packet).bytes = { success := true, packet := packet, bytes := (encode packet).bytes }
  decoded : (decode bytes).success = true →
    (encode (decode bytes).packet).success = true ∧ (encode (decode bytes).packet).bytes = bytes

/-- A first byte that is accepted is the one of the encoder where two of its bits are not set. -/
theorem first_byte {x : UInt8} (hversion : (x >>> 6) &&& 0x03 = 2) (hcsrc : x &&& 0x0F = 0) :
    0x80 = x ↔ x &&& 0x20 = 0 ∧ x &&& 0x10 = 0 := by
  revert hversion hcsrc
  exact forall_byte (by decide +kernel) x

theorem second_byte {x : UInt8} : x &&& 0x7F = x ↔ x &&& 0x80 = 0 := forall_byte (by decide +kernel) x

theorem plain_iff (h : Accepted bytes) :
    0x80 :: ((bytes.drop 1).headD 0 &&& 0x7F) :: bytes.drop 2 = bytes ↔ Plain bytes := by
  obtain ⟨x, y, rest, rfl⟩ : ∃ x y rest, bytes = x :: y :: rest := by
    have hheader := h.header
    rcases bytes with _ | ⟨x, _ | ⟨y, rest⟩⟩
    · exact absurd hheader (by decide)
    · exact absurd hheader (by simp [headerBytes])
    · exact ⟨x, y, rest, rfl⟩
  have hfirst : 0x80 = x ↔ x &&& 0x20 = 0 ∧ x &&& 0x10 = 0 := first_byte h.version h.csrcCount
  have hsecond : y &&& 0x7F = y ↔ y &&& 0x80 = 0 := second_byte
  have hbytes : 0x80 :: (y &&& 0x7F) :: rest = x :: y :: rest ↔ 0x80 = x ∧ y &&& 0x7F = y := by
    simp only [List.cons.injEq, and_true]
  constructor
  · intro heq
    obtain ⟨hx, hy⟩ := hbytes.1 heq
    obtain ⟨hpadding, hextension⟩ := hfirst.1 hx
    exact ⟨hpadding, hextension, hsecond.1 hy⟩
  · rintro ⟨hpadding, hextension, hmarker⟩
    exact hbytes.2 ⟨hfirst.2 ⟨hpadding, hextension⟩, hsecond.2 hmarker⟩

/-- **The codec is exact** on the bytes that it refuses, and on those without padding, extension and marker: on all
others it is not. -/
theorem exact_iff (bytes : Bytes) : Exact bytes ↔ (Accepted bytes → Plain bytes) := by
  constructor
  · rintro ⟨-, hdecoded⟩ haccepted
    have hsuccess := decode_success_iff.2 haccepted
    rw [← plain_iff haccepted, ← (encode_decode hsuccess).2]
    exact (hdecoded hsuccess).2
  · intro hplain
    refine ⟨fun _ => decode_encode, fun hsuccess => ?_⟩
    obtain ⟨hencoded, hbytes⟩ := encode_decode hsuccess
    have haccepted := decode_success_iff.1 hsuccess
    exact ⟨hencoded, hbytes.trans ((plain_iff haccepted).2 (hplain haccepted))⟩

/-- A packet with two bytes of padding, which end in their count: they are taken for payload. -/
theorem padding_is_payload :
    (decode [0xA0, 96, 0, 1, 0, 0, 0, 2, 0, 0, 0, 3, 0, 0, 0, 4, 0xDE, 0, 2]).packet.payload = [0xDE, 0, 2] ∧
      ¬ Exact [0xA0, 96, 0, 1, 0, 0, 0, 2, 0, 0, 0, 3, 0, 0, 0, 4, 0xDE, 0, 2] := by
  refine ⟨by decide, ?_⟩
  rintro ⟨-, hdecoded⟩
  exact absurd (hdecoded (by decide)).2 (by decide)

end VoipRtpCodec

end VianiumVoip.Domain
