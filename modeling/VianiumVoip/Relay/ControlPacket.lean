import VianiumVoip.Lib.Bytes

/-!
# Control packets

`VoipControlPacketCodec` of `domain/voip_control_packet`: fourteen bytes of header with the two sequence numbers, and a
payload of at most 1100 bytes.  The type of a packet is one of fifteen; the codec refuses every other byte.

The payloads of the Init and the InitAck come with their parser: what one side announces is what the other one reads
(`parseInitAckPayload_buildInitAckPayload`).
-/

namespace VianiumVoip.Relay

open VianiumVoip.Lib

inductive VoipControlPacketType
  | init
  | initAck
  | streamState
  | streamData
  | updateStreams
  | ping
  | pong
  | streamDataX2
  | streamDataX3
  | lanEndpoint
  | networkChanged
  | switchPreferredRelay
  | switchToP2p
  | nop
  | streamEc
  deriving DecidableEq

namespace VoipControlPacketType

def toByte : VoipControlPacketType → UInt8
  | init => 1
  | initAck => 2
  | streamState => 3
  | streamData => 4
  | updateStreams => 5
  | ping => 6
  | pong => 7
  | streamDataX2 => 8
  | streamDataX3 => 9
  | lanEndpoint => 10
  | networkChanged => 11
  | switchPreferredRelay => 12
  | switchToP2p => 13
  | nop => 14
  | streamEc => 17

def ofByte? (type : UInt8) : Option VoipControlPacketType :=
  match type with
  | 1 => some init
  | 2 => some initAck
  | 3 => some streamState
  | 4 => some streamData
  | 5 => some updateStreams
  | 6 => some ping
  | 7 => some pong
  | 8 => some streamDataX2
  | 9 => some streamDataX3
  | 10 => some lanEndpoint
  | 11 => some networkChanged
  | 12 => some switchPreferredRelay
  | 13 => some switchToP2p
  | 14 => some nop
  | 17 => some streamEc
  | _ => none

@[simp] theorem ofByte?_toByte (type : VoipControlPacketType) : ofByte? type.toByte = some type := by
  cases type <;> rfl

end VoipControlPacketType

/-- `IsKnownType` -/
def isKnownType (type : UInt8) : Bool := (VoipControlPacketType.ofByte? type).isSome

structure VoipControlPacket where
  type : VoipControlPacketType := .nop
  ackSequence : UInt32 := 0
  sequence : UInt32 := 0
  ackMask : UInt32 := 0
  extraFlags : UInt8 := 0
  payload : Bytes := []
  deriving DecidableEq

structure VoipInitAckInfo where
  peerVersion : UInt32 := 0
  peerMinVersion : UInt32 := 0
  hasAudioOpusStream : Bool := false
  audioStreamId : UInt8 := 0
  frameDurationMs : UInt16 := 0
  audioEnabled : Bool := false
  deriving DecidableEq

structure VoipControlCodecResult where
  success : Bool := false
  error : String := ""
  packet : VoipControlPacket := {}
  initAck : VoipInitAckInfo := {}
  bytes : Bytes := []
  deriving DecidableEq

namespace VoipControlPacketCodec

def protocolVersion : UInt32 := 9
def minProtocolVersion : UInt32 := 3
def streamTypeAudio : UInt8 := 1
def defaultAudioStreamId : UInt8 := 1
def defaultAudioFrameDurationMs : UInt16 := 60
def headerBytes : ℕ := 14
def codecOpus : UInt32 := 0x4F505553
def kInitFlagDataSavingEnabled : UInt32 := 1

/-- The largest payload. -/
def maxPayloadBytes : ℕ := 1100

def fail (message : String) : VoipControlCodecResult := { error := message }

/-- The fourteen bytes in front of the payload. -/
def header (packet : VoipControlPacket) : Bytes :=
  packet.type.toByte :: (storeLE32 packet.ackSequence ++ (storeLE32 packet.sequence
    ++ (storeLE32 packet.ackMask ++ [packet.extraFlags])))

/-- `EncodeShort` -/
def encodeShort (packet : VoipControlPacket) : VoipControlCodecResult :=
  if isKnownType packet.type.toByte = false then fail "VoIP control packet type is unknown"
  else if maxPayloadBytes < packet.payload.length then fail "VoIP control packet payload exceeds relay MTU budget"
  else { success := true, packet := packet, bytes := header packet ++ packet.payload }

/-- `DecodeShort` -/
def decodeShort (bytes : Bytes) : VoipControlCodecResult :=
  if bytes.length < headerBytes then fail "VoIP control packet is too short"
  else
    match VoipControlPacketType.ofByte? (bytes.headD 0) with
    | none => fail "VoIP control packet type is unknown"
    | some type =>
      { success := true
        bytes := bytes
        packet :=
          { type := type
            ackSequence := loadLE32 (bytes.drop 1)
            sequence := loadLE32 (bytes.drop 5)
            ackMask := loadLE32 (bytes.drop 9)
            extraFlags := (bytes.drop 13).headD 0
            payload := bytes.drop headerBytes } }

/-- `BuildInitPayload` -/
def buildInitPayload (dataSavingEnabled : Bool) : VoipControlCodecResult :=
  { success := true
    bytes :=
      storeLE32 protocolVersion ++ storeLE32 minProtocolVersion
        ++ storeLE32 (if dataSavingEnabled then kInitFlagDataSavingEnabled else 0)
        ++ [1] ++ storeLE32 codecOpus ++ [0, 0] }

/-- `BuildInitAckPayload` -/
def buildInitAckPayload : VoipControlCodecResult :=
  { success := true
    bytes :=
      storeLE32 protocolVersion ++ storeLE32 minProtocolVersion
        ++ [1, defaultAudioStreamId, streamTypeAudio] ++ storeLE32 codecOpus
        ++ storeLE16 defaultAudioFrameDurationMs ++ [1] }

/-- The stream descriptors of `ParseInitAckPayload`, of nine bytes each; the last Opus stream that is enabled counts. -/
def parseStreams : (streamCount : ℕ) → (rest : Bytes) → VoipInitAckInfo → Option VoipInitAckInfo
  | 0, _, ack => some ack
  | streamCount + 1, rest, ack =>
    if rest.length < 1 + 1 + 4 + 2 + 1 then none
    else
      let codec := loadLE32 (rest.drop 2)
      let enabled := decide ((rest.drop 8).headD 0 ≠ 0)
      parseStreams streamCount (rest.drop 9)
        (if (rest.drop 1).headD 0 = streamTypeAudio ∧ codec = codecOpus ∧ enabled = true then
          { ack with
            hasAudioOpusStream := true
            audioStreamId := rest.headD 0
            frameDurationMs := loadLE16 (rest.drop 6)
            audioEnabled := enabled }
        else ack)

/-- `ParseInitAckPayload` -/
def parseInitAckPayload (bytes : Bytes) : VoipControlCodecResult :=
  if bytes.length < 9 then fail "VoIP INIT_ACK payload is too short"
  else
    let ack : VoipInitAckInfo := { peerVersion := loadLE32 bytes, peerMinVersion := loadLE32 (bytes.drop 4) }
    if protocolVersion < ack.peerMinVersion ∨ ack.peerVersion < minProtocolVersion then
      fail "VoIP peer protocol version is incompatible"
    else
      match parseStreams ((bytes.drop 8).headD 0).toNat (bytes.drop 9) ack with
      | none => fail "VoIP INIT_ACK stream descriptor is truncated"
      | some ack => { success := true, initAck := ack, bytes := bytes }

/-- `BuildControlPacket` of the engine. -/
def buildControlPacket (type : VoipControlPacketType) (localSeq ackSeq : UInt32) (payload : Bytes) :
    VoipControlCodecResult :=
  encodeShort { type := type, ackSequence := ackSeq, sequence := localSeq, payload := payload }

/-! ### Both ways -/

variable {packet : VoipControlPacket}

@[simp] theorem isKnownType_toByte (type : VoipControlPacketType) : isKnownType type.toByte = true := by
  rw [isKnownType, VoipControlPacketType.ofByte?_toByte, Option.isSome_some]

@[simp] theorem length_header (packet : VoipControlPacket) : (header packet).length = headerBytes := by
  simp [header, headerBytes]

/-- The payload alone decides whether a packet is encoded. -/
theorem encodeShort_eq (packet : VoipControlPacket) :
    encodeShort packet =
      if maxPayloadBytes < packet.payload.length then fail "VoIP control packet payload exceeds relay MTU budget"
      else { success := true, packet := packet, bytes := header packet ++ packet.payload } := by
  unfold encodeShort
  rw [isKnownType_toByte, if_neg (by decide)]

theorem encodeShort_success_iff : (encodeShort packet).success = true ↔ packet.payload.length ≤ maxPayloadBytes := by
  rw [encodeShort_eq]
  split
  · next h => exact ⟨fun hsuccess => Bool.noConfusion hsuccess, fun hle => absurd hle (Nat.not_le.2 h)⟩
  · next h => exact ⟨fun _ => Nat.not_lt.1 h, fun _ => rfl⟩

theorem bytes_encodeShort (h : packet.payload.length ≤ maxPayloadBytes) :
    (encodeShort packet).bytes = header packet ++ packet.payload := by
  rw [encodeShort_eq, if_neg (Nat.not_lt.2 h)]

/-- **A packet comes back.** -/
theorem decodeShort_header (packet : VoipControlPacket) :
    decodeShort (header packet ++ packet.payload)
      = { success := true, bytes := header packet ++ packet.payload, packet := packet } := by
  have hlong : ¬ (header packet ++ packet.payload).length < headerBytes := by
    rw [List.length_append, length_header]
    omega
  have hpayload : (header packet ++ packet.payload).drop headerBytes = packet.payload :=
    List.drop_left' (length_header _)
  have hack : (header packet ++ packet.payload).drop 1
      = storeLE32 packet.ackSequence ++ (storeLE32 packet.sequence
        ++ (storeLE32 packet.ackMask ++ (packet.extraFlags :: packet.payload))) := by
    simp [header]
  have hseq : (header packet ++ packet.payload).drop 5
      = storeLE32 packet.sequence ++ (storeLE32 packet.ackMask ++ (packet.extraFlags :: packet.payload)) := by
    rw [← List.drop_drop (i := 4) (j := 1), hack, List.drop_left' (length_storeLE32 _)]
  have hmask : (header packet ++ packet.payload).drop 9
      = storeLE32 packet.ackMask ++ (packet.extraFlags :: packet.payload) := by
    rw [← List.drop_drop (i := 4) (j := 5), hseq, List.drop_left' (length_storeLE32 _)]
  have hflags : (header packet ++ packet.payload).drop 13 = packet.extraFlags :: packet.payload := by
    rw [← List.drop_drop (i := 4) (j := 9), hmask, List.drop_left' (length_storeLE32 _)]
  have htype : (header packet ++ packet.payload).headD 0 = packet.type.toByte := rfl
  unfold decodeShort
  rw [if_neg hlong, htype, VoipControlPacketType.ofByte?_toByte]
  simp only [hpayload, hack, hseq, hmask, hflags, loadLE32_store]
  rfl

theorem decodeShort_encodeShort (h : packet.payload.length ≤ maxPayloadBytes) :
    decodeShort (encodeShort packet).bytes
      = { success := true, bytes := (encodeShort packet).bytes, packet := packet } := by
  rw [bytes_encodeShort h]
  exact decodeShort_header packet

/-- The announcement of one side is accepted by the other: it has the one Opus stream. -/
theorem parseInitAckPayload_buildInitAckPayload :
    (parseInitAckPayload buildInitAckPayload.bytes).initAck
      = { peerVersion := protocolVersion
          peerMinVersion := minProtocolVersion
          hasAudioOpusStream := true
          audioStreamId := defaultAudioStreamId
          frameDurationMs := defaultAudioFrameDurationMs
          audioEnabled := true } := by
  decide

end VoipControlPacketCodec

end VianiumVoip.Relay
