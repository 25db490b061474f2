import VianiumVoip.Lib.TracedReads
import VianiumVoip.Srtp.SenderRun

/-!
# The RTP packet that is played

`OnRtpPacket` of `application/tgcalls_connection` looks for the payload a second time: `Decrypt` has found it in the
packet as it was received, with sizes that have no sign, and this parser finds it in the packet that was decrypted, with
integers.  Both find the same place (`onRtpPacket_value`), and what goes to the audio decoder is what was decrypted
(`rtp_payload_decrypted`).
-/

namespace VianiumVoip.Tgcalls.RtpReceive

open VianiumVoip.Lib VianiumVoip.Srtp Traced

/-- `static_cast<int>` of a size. -/
def intOfSize (size : ℕ) : ℤ :=
  if size % 2 ^ 32 < 2 ^ 31 then (size % 2 ^ 32 : ℕ) else (size % 2 ^ 32 : ℕ) - 2 ^ 32

/-- The header with its extension, where there is one and the packet is long enough to have its length. -/
def skipExtension (rtpBytes : Bytes) (hasExt : Bool) (headerLen : ℕ) : Traced (Option ℕ) :=
  if hasExt then
    if intOfSize rtpBytes.length < headerLen + 4 then pure none
    else do
      let extLen ← loadBE16At rtpBytes (headerLen + 2)
      return some (headerLen + (4 + extLen.toNat * 4))
  else pure (some headerLen)

/-- `OnRtpPacket`: the place of the payload and the payload, where they go to the decoder.  The connection has a codec
and an audio device, or not. -/
def onRtpPacket (rtpBytes : Bytes) (hasCodec hasAudio : Bool) : Traced (Option (ℕ × Bytes)) :=
  if rtpBytes.length < 12 then pure none
  else do
    let firstByte ← byteAt rtpBytes 0
    let csrcCount := (firstByte &&& 0x0F).toNat
    let hasExt := firstByte &&& 0x10 ≠ 0
    match ← skipExtension rtpBytes hasExt (12 + csrcCount * 4) with
    | none => return none
    | some headerLen =>
      if intOfSize rtpBytes.length ≤ headerLen then pure none
      else if !hasCodec || !hasAudio then pure none
      else do
        -- the decoder reads all of its input
        let opusPayload ← slice rtpBytes headerLen (intOfSize rtpBytes.length - headerLen).toNat
        return some (headerLen, opusPayload)

/-! ### Sizes -/

theorem intOfSize_of_lt {size : ℕ} (h : size < 2 ^ 31) : intOfSize size = size := by
  unfold intOfSize
  split <;> omega

theorem intOfSize_le (size : ℕ) : intOfSize size ≤ size := by
  unfold intOfSize
  split <;> omega

theorem intOfSize_neg {size : ℕ} (h : 2 ^ 31 ≤ size) (h' : size < 2 ^ 32) : intOfSize size < 0 := by
  unfold intOfSize
  split <;> omega

/-! ### The reads -/

variable {P : Access → Prop} {rtpBytes : Bytes}

theorem reads_skipExtension (hP : Covers P rtpBytes.length) (hasExt : Bool) (headerLen : ℕ) :
    Reads P (skipExtension rtpBytes hasExt headerLen) := by
  have hsize := intOfSize_le rtpBytes.length
  unfold skipExtension
  refine reads_ite (fun _ => reads_ite (fun _ => reads_pure _) fun hlong => ?_) fun _ => reads_pure _
  exact (reads_loadBE16At hP (by omega)).bind (reads_pure _)

/-- **No read is outside of the packet**, whatever it is. -/
theorem reads_onRtpPacket (hP : Covers P rtpBytes.length) (hasCodec hasAudio : Bool) :
    Reads P (onRtpPacket rtpBytes hasCodec hasAudio) := by
  have hsize := intOfSize_le rtpBytes.length
  unfold onRtpPacket
  refine reads_ite (fun _ => reads_pure _) fun hlength => (reads_byteAt hP (by omega)).bind ?_
  refine (reads_skipExtension hP _ _).bind ?_
  split
  · exact reads_pure _
  · next headerLen _ =>
    refine reads_ite (fun _ => reads_pure _) fun hlong => reads_ite (fun _ => reads_pure _) fun _ => ?_
    exact (reads_slice hP (by omega)).bind (reads_pure _)

/-! ### The place of the payload -/

theorem locatePayloadStart_plain (hne : locatePayloadStart rtpBytes ≠ 0) (hext : rtpBytes.getD 0 0 &&& 0x10 = 0) :
    locatePayloadStart rtpBytes = 12 + (rtpBytes.getD 0 0 &&& 0x0F).toNat * 4 := by
  have hfixed : kRtpFixedHeaderSize = 12 := rfl
  unfold locatePayloadStart at hne ⊢
  simp only at hne ⊢
  rw [if_neg (not_not_intro hext)] at hne ⊢
  split_ifs at hne ⊢ <;> omega

theorem locatePayloadStart_extended (hne : locatePayloadStart rtpBytes ≠ 0) (hext : rtpBytes.getD 0 0 &&& 0x10 ≠ 0) :
    12 + (rtpBytes.getD 0 0 &&& 0x0F).toNat * 4 + 4 ≤ rtpBytes.length ∧
      locatePayloadStart rtpBytes
        = 12 + (rtpBytes.getD 0 0 &&& 0x0F).toNat * 4
          + (4 + (loadBE16 (rtpBytes.drop (12 + (rtpBytes.getD 0 0 &&& 0x0F).toNat * 4 + 2))).toNat * 4) := by
  have hfixed : kRtpFixedHeaderSize = 12 := rfl
  unfold locatePayloadStart at hne ⊢
  simp only [hfixed] at hne ⊢
  rw [if_pos hext] at hne ⊢
  split_ifs at hne ⊢ <;> omega

theorem skipExtension_value (hne : locatePayloadStart rtpBytes ≠ 0) (hlt : rtpBytes.length < 2 ^ 31) :
    (skipExtension rtpBytes (rtpBytes.getD 0 0 &&& 0x10 ≠ 0) (12 + (rtpBytes.getD 0 0 &&& 0x0F).toNat * 4)).value
      = some (locatePayloadStart rtpBytes) := by
  have hsize := intOfSize_of_lt hlt
  unfold skipExtension
  by_cases hext : rtpBytes.getD 0 0 &&& 0x10 = 0
  · rw [if_neg (by simpa using hext), value_pure, locatePayloadStart_plain hne hext]
  · obtain ⟨hlong, hstart⟩ := locatePayloadStart_extended hne hext
    rw [if_pos (by simpa using hext), if_neg (by omega), value_bind, value_loadBE16At, value_pure, hstart]

/-- **Both parsers find the same place**: a payload that is not empty goes to the decoder as a whole. -/
theorem onRtpPacket_value (hne : locatePayloadStart rtpBytes ≠ 0) (hlt : rtpBytes.length < 2 ^ 31) :
    (onRtpPacket rtpBytes true true).value
      = if rtpBytes.length ≤ locatePayloadStart rtpBytes then none
        else some (locatePayloadStart rtpBytes, rtpBytes.drop (locatePayloadStart rtpBytes)) := by
  have hheader := le_trans (header_le_locatePayloadStart hne) (locatePayloadStart_le rtpBytes)
  rw [kRtpFixedHeaderSize] at hheader
  rw [onRtpPacket, if_neg (by omega), value_bind, value_byteAt, value_bind, skipExtension_value hne hlt]
  simp only [intOfSize_of_lt hlt, Nat.cast_le]
  split
  · rfl
  · have hrest : ((rtpBytes.length : ℤ) - locatePayloadStart rtpBytes).toNat
        = (rtpBytes.drop (locatePayloadStart rtpBytes)).length := by
      rw [List.length_drop]
      omega
    simp only [Bool.not_true, Bool.or_false, Bool.false_eq_true, if_false, value_bind, value_slice, value_pure, hrest,
      List.take_length]

/-- A size that has no integer is taken for a negative one: nothing goes to the decoder. -/
theorem onRtpPacket_value_large (hle : 2 ^ 31 ≤ rtpBytes.length) (hlt : rtpBytes.length < 2 ^ 32) :
    (onRtpPacket rtpBytes true true).value = none := by
  have hneg := intOfSize_neg hle hlt
  rw [onRtpPacket, if_neg (by omega), value_bind, value_bind]
  split
  · rfl
  · rw [if_pos (by omega)]
    rfl

/-! ### The decrypted payload -/

variable (C : Srtp.Crypto) {params : SrtpEncryptParams} {srtp rtp : Bytes}

theorem decrypt_parts (h : decrypt C params srtp = some rtp) :
    let body := srtp.take (srtp.length - kAuthTagSize)
    let start := locatePayloadStart body
    start ≠ 0 ∧ locatePayloadStart rtp = start ∧ rtp.take start = body.take start ∧
      rtp.drop start = SrtpAesCtr.encrypt C params.sessionEncrKey
        (buildPacketIv params.sessionSalt params.ssrc
          (packetIndex48 params.rolloverCounter (headerSequenceNumber body))) (body.drop start) := by
  intro body start
  unfold decrypt at h
  simp only at h
  split_ifs at h with hshort hbad htag
  cases h
  have hne : start ≠ 0 := fun hzero => hbad (.inl hzero)
  have hlength : (body.take start).length = start := by
    rw [List.length_take, min_eq_left (locatePayloadStart_le body)]
  refine ⟨hne, (cryptPayload_header C params (headerSequenceNumber body) hne).1, ?_, ?_⟩
  · exact List.take_left' hlength
  · exact List.drop_left' hlength

/-- **The two parsers of a packet agree**: on a packet that `Decrypt` has accepted, `OnRtpPacket` reads inside of its
buffer, and gives to the decoder what was decrypted, from the place on that `Decrypt` has found. -/
theorem rtp_payload_decrypted (params : SrtpEncryptParams) (srtp rtp : Bytes) (h : decrypt C params srtp = some rtp) :
    let body := srtp.take (srtp.length - kAuthTagSize)
    let start := locatePayloadStart body
    (∀ hasCodec hasAudio, (onRtpPacket rtp hasCodec hasAudio).Reads (Access.Below rtp.length)) ∧
      (rtp.length < 2 ^ 31 →
        (onRtpPacket rtp true true).value = if rtp.length ≤ start then none else some (start, rtp.drop start)) ∧
      (2 ^ 31 ≤ rtp.length → rtp.length < 2 ^ 32 → (onRtpPacket rtp true true).value = none) ∧
      rtp.drop start = SrtpAesCtr.encrypt C params.sessionEncrKey
        (buildPacketIv params.sessionSalt params.ssrc
          (packetIndex48 params.rolloverCounter (headerSequenceNumber body))) (body.drop start) := by
  intro body start
  obtain ⟨hne, hstart, -, hdecrypted⟩ := decrypt_parts C h
  refine ⟨fun _ _ => reads_onRtpPacket (fun _ hi => hi) _ _, ?_, onRtpPacket_value_large, hdecrypted⟩
  intro hlt
  rw [onRtpPacket_value (by rwa [hstart]) hlt, hstart]

/-- A packet with one CSRC and an extension of one word, and with two bytes of payload. -/
def extendedRtp : Bytes :=
  [0x91, 111] ++ storeBE16 1 ++ [0, 0, 0, 0] ++ storeBE32 1 ++ storeBE32 7
    ++ ([0xBE, 0xDE] ++ storeBE16 1 ++ [0x10, 0xFF, 0, 0]) ++ [0x55, 0x66]

/-- The payload goes to the decoder of the other side; the CSRC and the extension do not. -/
theorem rtp_payload_decrypted_sample :
    (onRtpPacket extendedRtp true true).value = some (24, [0x55, 0x66]) := by
  have hdecrypt : decrypt sampleCrypto (sampleParams 1)
      (protect sampleCrypto (sampleParams 1) extendedRtp (headerSequenceNumber extendedRtp)) = some extendedRtp :=
    (decrypt_eq_some_iff sampleCrypto).2 ⟨by decide, rfl⟩
  have h := (rtp_payload_decrypted sampleCrypto (sampleParams 1) _ extendedRtp hdecrypt).2.1 (by decide)
  exact h.trans (by decide +kernel)

end VianiumVoip.Tgcalls.RtpReceive
