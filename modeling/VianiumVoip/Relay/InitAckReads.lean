import VianiumVoip.Lib.TracedReads
import VianiumVoip.Relay.ControlPacket

/-!
# The announcement of the streams

`ParseInitAckPayload` of `domain/voip_control_packet` with its reads in a trace and its loop counter of eight bits.
What it finds is put in terms of the list of the announced streams: it succeeds where the versions overlap and all of
the list is there, and reports the last audio stream of the list that is enabled and has the Opus codec
(`parseInitAckPayload_success_iff`, `initAck_eq`).
-/

namespace VianiumVoip.Relay.VoipControlPacketCodec

open VianiumVoip.Lib

/-- A stream as the payload announces it. -/
structure StreamDescriptor where
  streamId : UInt8
  streamType : UInt8
  codec : UInt32
  frameDuration : UInt16
  enabled : Bool
  deriving DecidableEq

/-- The nine bytes of a descriptor. -/
def descriptorBytes : ℕ := 1 + 1 + 4 + 2 + 1

namespace StreamDescriptor

def ofBytes (rest : Bytes) : StreamDescriptor where
  streamId := rest.headD 0
  streamType := (rest.drop 1).headD 0
  codec := loadLE32 (rest.drop 2)
  frameDuration := loadLE16 (rest.drop 6)
  enabled := (rest.drop 8).headD 0 ≠ 0

/-- The stream carries audio that the engine can play. -/
def isAudioOpus (stream : StreamDescriptor) : Bool :=
  stream.streamType = streamTypeAudio ∧ stream.codec = codecOpus ∧ stream.enabled

end StreamDescriptor

/-- A stream that can be played takes the place of the one before it. -/
def noteStream (ack : VoipInitAckInfo) (stream : StreamDescriptor) : VoipInitAckInfo :=
  if stream.isAudioOpus then
    { ack with
      hasAudioOpusStream := true
      audioStreamId := stream.streamId
      frameDurationMs := stream.frameDuration
      audioEnabled := stream.enabled }
  else ack

/-! ### The list of the streams -/

/-- The streams of a list of this length. -/
def streamsOf (streamCount : ℕ) (rest : Bytes) : List StreamDescriptor :=
  (List.range streamCount).map fun i => .ofBytes (rest.drop (descriptorBytes * i))

theorem streamsOf_succ (streamCount : ℕ) (rest : Bytes) :
    streamsOf (streamCount + 1) rest = .ofBytes rest :: streamsOf streamCount (rest.drop descriptorBytes) := by
  rw [streamsOf, List.range_succ_eq_map, List.map_cons, List.map_map, Nat.mul_zero, List.drop_zero, streamsOf]
  refine congrArg _ (List.map_congr_left fun i _ => ?_)
  rw [Function.comp_apply, List.drop_drop, Nat.mul_succ, Nat.add_comm]

theorem parseStreams_succ {rest : Bytes} (h : descriptorBytes ≤ rest.length) (streamCount : ℕ) (ack : VoipInitAckInfo) :
    parseStreams (streamCount + 1) rest ack
      = parseStreams streamCount (rest.drop descriptorBytes) (noteStream ack (.ofBytes rest)) := by
  have hlength : ¬ rest.length < 1 + 1 + 4 + 2 + 1 := Nat.not_lt.2 h
  rw [parseStreams, if_neg hlength]
  simp only [noteStream, StreamDescriptor.isAudioOpus, StreamDescriptor.ofBytes, decide_eq_true_eq]
  rfl

/-- **The loop over the descriptors.** -/
theorem parseStreams_eq (streamCount : ℕ) (rest : Bytes) (ack : VoipInitAckInfo) :
    parseStreams streamCount rest ack
      = if descriptorBytes * streamCount ≤ rest.length then some ((streamsOf streamCount rest).foldl noteStream ack)
        else none := by
  induction streamCount generalizing rest ack with
  | zero => simp [parseStreams, streamsOf]
  | succ streamCount ih =>
    by_cases h : descriptorBytes ≤ rest.length
    · rw [parseStreams_succ h, ih, streamsOf_succ, List.foldl_cons, List.length_drop]
      have hiff : descriptorBytes * streamCount ≤ rest.length - descriptorBytes
          ↔ descriptorBytes * (streamCount + 1) ≤ rest.length := by
        rw [Nat.mul_succ]
        omega
      simp only [hiff]
    · have hlength : rest.length < 1 + 1 + 4 + 2 + 1 := Nat.lt_of_not_le h
      rw [parseStreams, if_pos hlength, if_neg]
      rw [Nat.mul_succ]
      omega

/-- What is left of a list: the last stream that can be played. -/
theorem foldl_note (streams : List StreamDescriptor) (ack : VoipInitAckInfo) :
    streams.foldl noteStream ack
      = ((streams.filter (·.isAudioOpus)).getLast?).elim ack (noteStream ack) := by
  induction streams using List.reverseRecOn with
  | nil => rfl
  | append_singleton streams stream ih =>
    rw [List.foldl_append, List.foldl_cons, List.foldl_nil, ih, List.filter_append]
    by_cases h : stream.isAudioOpus = true
    · rw [List.filter_cons_of_pos h, List.filter_nil, List.getLast?_concat, Option.elim_some]
      cases (streams.filter (·.isAudioOpus)).getLast? with
      | none => rfl
      | some earlier =>
        -- the fields of the earlier stream are written over
        rw [Option.elim_some, noteStream, noteStream, noteStream, if_pos h, if_pos h]
        split <;> rfl
    · rw [List.filter_cons_of_neg h, List.filter_nil, List.append_nil, noteStream, if_neg h]

/-! ### The reads -/

namespace InitAckReads

open Traced

/-- `HasBytes` -/
def hasBytes (length offset count : ℕ) : Bool := offset ≤ length ∧ count ≤ length - offset

variable {bytes : Bytes} {streamCount i : UInt8} {offset : ℕ} {ack : VoipInitAckInfo}

/-- The counter does not wrap around, for it is below a number of eight bits. -/
theorem toNat_next (h : i < streamCount) : (i + 1).toNat = i.toNat + 1 := by
  have hlt := UInt8.lt_iff_toNat_lt.1 h
  have hmax := streamCount.toNat_lt
  rw [UInt8.toNat_add, UInt8.toNat_one]
  exact Nat.mod_eq_of_lt (by omega)

theorem sub_next_lt (h : i < streamCount) : streamCount.toNat - (i + 1).toNat < streamCount.toNat - i.toNat := by
  have hnext := toNat_next h
  have hlt := UInt8.lt_iff_toNat_lt.1 h
  omega

/-- The loop over the descriptors, with its counter. -/
def parseStreams (bytes : Bytes) (streamCount i : UInt8) (offset : ℕ) (ack : VoipInitAckInfo) :
    Traced (Option VoipInitAckInfo) :=
  if _ : i < streamCount then
    if ¬ hasBytes bytes.length offset descriptorBytes then pure none
    else do
      let streamId ← byteAt bytes offset
      let streamType ← byteAt bytes (offset + 1)
      let codec ← loadLE32At bytes (offset + 2)
      let frameDuration ← loadLE16At bytes (offset + 6)
      let enabled ← byteAt bytes (offset + 8)
      parseStreams bytes streamCount (i + 1) (offset + descriptorBytes)
        (noteStream ack
          { streamId := streamId
            streamType := streamType
            codec := codec
            frameDuration := frameDuration
            enabled := enabled ≠ 0 })
  else pure (some ack)
termination_by streamCount.toNat - i.toNat
decreasing_by exact sub_next_lt ‹i < streamCount›

/-- `ParseInitAckPayload` -/
def parseInitAckPayload (bytes : Bytes) : Traced VoipControlCodecResult :=
  if bytes.length < 9 then pure (fail "VoIP INIT_ACK payload is too short")
  else do
    let peerVersion ← loadLE32At bytes 0
    let peerMinVersion ← loadLE32At bytes 4
    if protocolVersion < peerMinVersion ∨ peerVersion < minProtocolVersion then
      pure (fail "VoIP peer protocol version is incompatible")
    else do
      let streamCount ← byteAt bytes 8
      match ← parseStreams bytes streamCount 0 9 { peerVersion := peerVersion, peerMinVersion := peerMinVersion } with
      | none => pure (fail "VoIP INIT_ACK stream descriptor is truncated")
      | some ack => do
        let copied ← slice bytes 0 bytes.length
        return { success := true, initAck := ack, bytes := copied }

theorem getD_eq (bytes : Bytes) (i : ℕ) : bytes.getD i 0 = (bytes.drop i).headD 0 := by
  rw [List.headD_eq_head?_getD, List.head?_drop, List.getD_eq_getElem?_getD]

theorem hasBytes_iff {length offset count : ℕ} (hcount : 0 < count) :
    hasBytes length offset count = true ↔ count ≤ length - offset := by
  rw [hasBytes, decide_eq_true_eq]
  omega

theorem value_parseStreams (bytes : Bytes) (streamCount i : UInt8) (offset : ℕ) (ack : VoipInitAckInfo) :
    (parseStreams bytes streamCount i offset ack).value
      = VoipControlPacketCodec.parseStreams (streamCount.toNat - i.toNat) (bytes.drop offset) ack := by
  induction hn : streamCount.toNat - i.toNat generalizing i offset ack with
  | zero =>
    have hdone : ¬ i < streamCount := by
      rw [UInt8.lt_iff_toNat_lt]
      omega
    rw [parseStreams, dif_neg hdone]
    rfl
  | succ n ih =>
    have hmore : i < streamCount := by
      rw [UInt8.lt_iff_toNat_lt]
      omega
    have hnext := toNat_next hmore
    rw [parseStreams, dif_pos hmore]
    by_cases hfits : hasBytes bytes.length offset descriptorBytes = true
    · have hlength : descriptorBytes ≤ (bytes.drop offset).length := by
        rw [List.length_drop]
        exact (hasBytes_iff (by decide)).1 hfits
      rw [if_neg (not_not_intro hfits), parseStreams_succ hlength]
      simp only [value_bind, value_byteAt, value_loadLE32At, value_loadLE16At, getD_eq]
      rw [ih _ _ _ (by omega), List.drop_drop, StreamDescriptor.ofBytes]
      simp only [List.drop_drop]
    · have hlength : (bytes.drop offset).length < 1 + 1 + 4 + 2 + 1 := by
        rw [hasBytes_iff (by decide), descriptorBytes] at hfits
        rw [List.length_drop]
        omega
      rw [if_pos hfits, VoipControlPacketCodec.parseStreams, if_pos hlength]
      rfl

/-- **The trace is one of `ParseInitAckPayload`.** -/
theorem value_parseInitAckPayload (bytes : Bytes) :
    (parseInitAckPayload bytes).value = VoipControlPacketCodec.parseInitAckPayload bytes := by
  unfold parseInitAckPayload VoipControlPacketCodec.parseInitAckPayload
  refine value_ite_eq (fun _ => rfl) fun _ => ?_
  simp only [value_bind, value_loadLE32At, List.drop_zero]
  refine value_ite_eq (fun _ => rfl) fun _ => ?_
  rw [value_bind, value_byteAt, value_bind, value_parseStreams, getD_eq]
  simp only [UInt8.toNat_zero, Nat.sub_zero]
  cases VoipControlPacketCodec.parseStreams _ _ _ with
  | none => rfl
  | some ack => simp

section Below

variable {P : Access → Prop} (hP : Covers P bytes.length)
include hP

theorem reads_parseStreams (streamCount i : UInt8) (offset : ℕ) (ack : VoipInitAckInfo) :
    Reads P (parseStreams bytes streamCount i offset ack) := by
  induction hn : streamCount.toNat - i.toNat generalizing i offset ack with
  | zero =>
    have hdone : ¬ i < streamCount := by
      rw [UInt8.lt_iff_toNat_lt]
      omega
    rw [parseStreams, dif_neg hdone]
    exact reads_pure _
  | succ n ih =>
    have hmore : i < streamCount := by
      rw [UInt8.lt_iff_toNat_lt]
      omega
    have hnext := toNat_next hmore
    rw [parseStreams, dif_pos hmore]
    refine reads_ite (fun _ => reads_pure _) fun hfits => ?_
    rw [not_not, hasBytes_iff (by decide), descriptorBytes] at hfits
    refine (reads_byteAt hP (by omega)).bind ((reads_byteAt hP (by omega)).bind ?_)
    refine (reads_loadLE32At hP (by omega)).bind ((reads_loadLE16At hP (by omega)).bind ?_)
    exact (reads_byteAt hP (by omega)).bind (ih _ _ _ (by omega))

/-- **`ParseInitAckPayload` reads inside of its buffer.** -/
theorem reads_parseInitAckPayload : Reads P (parseInitAckPayload bytes) := by
  unfold parseInitAckPayload
  refine reads_ite (fun _ => reads_pure _) fun hlength => ?_
  refine (reads_loadLE32At hP (by omega)).bind ((reads_loadLE32At hP (by omega)).bind ?_)
  refine reads_ite (fun _ => reads_pure _) fun _ => (reads_byteAt hP (by omega)).bind ?_
  refine (reads_parseStreams hP _ _ _ _).bind ?_
  split
  · exact reads_pure _
  · exact (reads_slice hP (by omega)).bind (reads_pure _)

end Below

end InitAckReads

/-! ### What is accepted -/

/-- The versions that the peer speaks, from its minimum on, overlap with the own ones. -/
def VersionsOverlap (bytes : Bytes) : Prop :=
  loadLE32 (bytes.drop 4) ≤ protocolVersion ∧ minProtocolVersion ≤ loadLE32 bytes

instance (bytes : Bytes) : Decidable (VersionsOverlap bytes) := inferInstanceAs (Decidable (_ ∧ _))

/-- All streams that are announced. -/
def streams (bytes : Bytes) : List StreamDescriptor := streamsOf ((bytes.drop 8).headD 0).toNat (bytes.drop 9)

/-- The payload has all that it announces. -/
structure Announces (bytes : Bytes) : Prop where
  header : 9 ≤ bytes.length
  versions : VersionsOverlap bytes
  all : 9 + descriptorBytes * ((bytes.drop 8).headD 0).toNat ≤ bytes.length

/-- With a stream to play, or without. -/
def reported (bytes : Bytes) (stream : Option StreamDescriptor) : VoipInitAckInfo :=
  match stream with
  | none => { peerVersion := loadLE32 bytes, peerMinVersion := loadLE32 (bytes.drop 4) }
  | some stream =>
    { peerVersion := loadLE32 bytes
      peerMinVersion := loadLE32 (bytes.drop 4)
      hasAudioOpusStream := true
      audioStreamId := stream.streamId
      frameDurationMs := stream.frameDuration
      audioEnabled := true }

variable {bytes : Bytes}

theorem versionsOverlap_iff (h : loadLE32 (bytes.drop 4) ≤ loadLE32 bytes) :
    VersionsOverlap bytes ↔
      ∃ version, (loadLE32 (bytes.drop 4) ≤ version ∧ version ≤ loadLE32 bytes) ∧
        minProtocolVersion ≤ version ∧ version ≤ protocolVersion := by
  constructor
  · rintro ⟨hmin, hversion⟩
    rcases UInt32.le_total (loadLE32 (bytes.drop 4)) minProtocolVersion with hlow | hhigh
    · exact ⟨minProtocolVersion, ⟨hlow, hversion⟩, UInt32.le_refl _, by decide⟩
    · exact ⟨loadLE32 (bytes.drop 4), ⟨UInt32.le_refl _, h⟩, hhigh, hmin⟩
  · rintro ⟨version, ⟨hlow, hhigh⟩, hmin, hmax⟩
    exact ⟨UInt32.le_trans hlow hmax, UInt32.le_trans hmin hhigh⟩

theorem elim_noteStream (bytes : Bytes) :
    (((streams bytes).filter (·.isAudioOpus)).getLast?).elim
        { peerVersion := loadLE32 bytes, peerMinVersion := loadLE32 (bytes.drop 4) }
        (noteStream { peerVersion := loadLE32 bytes, peerMinVersion := loadLE32 (bytes.drop 4) })
      = reported bytes ((streams bytes).filter (·.isAudioOpus)).getLast? := by
  cases hlast : ((streams bytes).filter (·.isAudioOpus)).getLast? with
  | none => rfl
  | some stream =>
    have hplayable : stream.isAudioOpus = true := (List.mem_filter.1 (List.mem_of_getLast? hlast)).2
    have henabled : stream.enabled = true := by
      rw [StreamDescriptor.isAudioOpus, decide_eq_true_eq] at hplayable
      exact hplayable.2.2
    rw [Option.elim_some, noteStream, if_pos hplayable, henabled]
    rfl

/-- **What the parser returns**, in terms of the list of the streams. -/
theorem parseInitAckPayload_eq (bytes : Bytes) :
    parseInitAckPayload bytes =
      if bytes.length < 9 then fail "VoIP INIT_ACK payload is too short"
      else if ¬ VersionsOverlap bytes then fail "VoIP peer protocol version is incompatible"
      else if bytes.length < 9 + descriptorBytes * ((bytes.drop 8).headD 0).toNat then
        fail "VoIP INIT_ACK stream descriptor is truncated"
      else
        { success := true
          initAck := reported bytes ((streams bytes).filter (·.isAudioOpus)).getLast?
          bytes := bytes } := by
  have hversions : (protocolVersion < loadLE32 (bytes.drop 4) ∨ loadLE32 bytes < minProtocolVersion)
      ↔ ¬ VersionsOverlap bytes := by
    rw [VersionsOverlap, not_and_or, UInt32.not_le, UInt32.not_le]
  unfold parseInitAckPayload
  by_cases hlength : bytes.length < 9
  · rw [if_pos hlength, if_pos hlength]
  · have hall : descriptorBytes * ((bytes.drop 8).headD 0).toNat ≤ (bytes.drop 9).length
        ↔ ¬ bytes.length < 9 + descriptorBytes * ((bytes.drop 8).headD 0).toNat := by
      rw [List.length_drop]
      omega
    rw [if_neg hlength, if_neg hlength]
    simp only [hversions, parseStreams_eq, hall, foldl_note]
    by_cases htruncated : bytes.length < 9 + descriptorBytes * ((bytes.drop 8).headD 0).toNat
    · rw [if_neg (not_not_intro htruncated), if_pos htruncated]
    · rw [if_pos htruncated, if_neg htruncated, ← elim_noteStream]
      rfl

theorem parseInitAckPayload_success_iff : (parseInitAckPayload bytes).success = true ↔ Announces bytes := by
  rw [parseInitAckPayload_eq]
  constructor
  · intro h
    split_ifs at h with hlength hversions htruncated <;> try cases h
    exact ⟨Nat.le_of_not_lt hlength, hversions, Nat.le_of_not_lt htruncated⟩
  · rintro ⟨hlength, hversions, hall⟩
    rw [if_neg (Nat.not_lt.2 hlength), if_neg (not_not_intro hversions), if_neg (Nat.not_lt.2 hall)]

theorem initAck_eq (h : Announces bytes) :
    (parseInitAckPayload bytes).initAck = reported bytes ((streams bytes).filter (·.isAudioOpus)).getLast? := by
  rw [parseInitAckPayload_eq, if_neg (Nat.not_lt.2 h.header), if_neg (not_not_intro h.versions),
    if_neg (Nat.not_lt.2 h.all)]

theorem reported_hasAudioOpusStream (bytes : Bytes) :
    (reported bytes ((streams bytes).filter (·.isAudioOpus)).getLast?).hasAudioOpusStream = false
      ↔ ∀ stream ∈ streams bytes, stream.isAudioOpus = false := by
  cases hlast : ((streams bytes).filter (·.isAudioOpus)).getLast? with
  | none =>
    rw [List.getLast?_eq_none_iff, List.filter_eq_nil_iff] at hlast
    simpa [reported] using hlast
  | some stream =>
    have hmem := List.mem_filter.1 (List.mem_of_getLast? hlast)
    simp only [reported, Bool.true_eq_false, false_iff]
    intro hnone
    rw [hnone stream hmem.1] at hmem
    cases hmem.2

theorem build_append (suffix : Bytes) :
    Announces (buildInitAckPayload.bytes ++ suffix) ∧
      streams (buildInitAckPayload.bytes ++ suffix)
        = [{ streamId := defaultAudioStreamId
             streamType := streamTypeAudio
             codec := codecOpus
             frameDuration := defaultAudioFrameDurationMs
             enabled := true }] := by
  have hlength : buildInitAckPayload.bytes.length = 18 := by decide
  have hcount : ((buildInitAckPayload.bytes ++ suffix).drop 8).headD 0 = 1 := rfl
  have hversion : loadLE32 (buildInitAckPayload.bytes ++ suffix) = protocolVersion := rfl
  have hmin : loadLE32 ((buildInitAckPayload.bytes ++ suffix).drop 4) = minProtocolVersion := rfl
  refine ⟨⟨?_, ?_, ?_⟩, ?_⟩
  · rw [List.length_append, hlength]
    omega
  · rw [VersionsOverlap, hversion, hmin]
    decide
  · rw [hcount, List.length_append, hlength, descriptorBytes, UInt8.toNat_one]
    omega
  · rw [streams, hcount, UInt8.toNat_one, streamsOf_succ]
    rfl

/-- **The announcement of the streams**: the parser reads inside of its buffer; it succeeds where the versions overlap
and all of the list is there; it reports the last audio stream of the list that is enabled and has the Opus codec, if
there is one; and it takes the own announcement, with anything behind it. -/
theorem init_ack_payload (bytes : Bytes) :
    (InitAckReads.parseInitAckPayload bytes).value = parseInitAckPayload bytes ∧
      (InitAckReads.parseInitAckPayload bytes).Reads (Access.Below bytes.length) ∧
      ((parseInitAckPayload bytes).success = true ↔ Announces bytes) ∧
      (loadLE32 (bytes.drop 4) ≤ loadLE32 bytes →
        (VersionsOverlap bytes ↔ ∃ version, (loadLE32 (bytes.drop 4) ≤ version ∧ version ≤ loadLE32 bytes) ∧
          minProtocolVersion ≤ version ∧ version ≤ protocolVersion)) ∧
      ((parseInitAckPayload bytes).success = true →
        (parseInitAckPayload bytes).initAck = reported bytes ((streams bytes).filter (·.isAudioOpus)).getLast? ∧
          ((parseInitAckPayload bytes).initAck.hasAudioOpusStream = false ↔
            ∀ stream ∈ streams bytes, stream.isAudioOpus = false)) ∧
      ∀ suffix : Bytes,
        (parseInitAckPayload (buildInitAckPayload.bytes ++ suffix)).success = true ∧
          (parseInitAckPayload (buildInitAckPayload.bytes ++ suffix)).initAck
            = { peerVersion := protocolVersion
                peerMinVersion := minProtocolVersion
                hasAudioOpusStream := true
                audioStreamId := defaultAudioStreamId
                frameDurationMs := defaultAudioFrameDurationMs
                audioEnabled := true } := by
  refine ⟨InitAckReads.value_parseInitAckPayload bytes, InitAckReads.reads_parseInitAckPayload fun _ hi => hi,
    parseInitAckPayload_success_iff, versionsOverlap_iff, ?_, ?_⟩
  · intro h
    have hinitAck := initAck_eq (parseInitAckPayload_success_iff.1 h)
    exact ⟨hinitAck, by rw [hinitAck, reported_hasAudioOpusStream]⟩
  · intro suffix
    obtain ⟨hannounces, hstreams⟩ := build_append suffix
    exact ⟨parseInitAckPayload_success_iff.2 hannounces, by rw [initAck_eq hannounces, hstreams]; rfl⟩

/-- Two audio streams, the second one with a frame of 20 ms: it is the one that is reported. -/
theorem init_ack_payload_two :
    (parseInitAckPayload
      [9, 0, 0, 0, 3, 0, 0, 0, 2,
        1, 1, 0x53, 0x55, 0x50, 0x4F, 60, 0, 1,
        5, 1, 0x53, 0x55, 0x50, 0x4F, 20, 0, 1]).initAck
      = { peerVersion := 9
          peerMinVersion := 3
          hasAudioOpusStream := true
          audioStreamId := 5
          frameDurationMs := 20
          audioEnabled := true } :=
  ((init_ack_payload _).2.2.2.2.1 (by decide)).1.trans (by decide)

end VianiumVoip.Relay.VoipControlPacketCodec
