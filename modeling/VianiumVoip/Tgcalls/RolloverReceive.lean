import VianiumVoip.Tgcalls.SrtpReceive

/-!
# Following a sender across the roll-over

A sender that follows RFC 3711 counts its packets in 48 bits: packet `i` carries the sequence number
`i mod 2 ^ 16` and is protected under the roll-over counter `i / 2 ^ 16`.  The receiver has to find the upper
part of the index by itself.

`OnSrtpDatagram` writes the SSRC of the incoming parameters and nothing else, so `Decrypt` works under roll-over
counter 0 for the whole call.  A packet goes through exactly when protection under its own counter
and under counter 0 give the same bytes, which before the first wrap they do, and behind it only by a
collision of the tags and the keystreams.
-/

namespace VianiumVoip.Tgcalls

open VianiumVoip.Lib VianiumVoip.Lib.Run VianiumVoip.Srtp

variable (C : Srtp.Crypto)

/-! ### The sender -/

/-- The parameters under which a sender that follows RFC 3711 protects its packet `i`. -/
def conformingParams (keys : SrtpEncryptParams) (i : ℕ) : SrtpEncryptParams :=
  { keys with rolloverCounter := UInt32.ofNat (i / 65536) }

/-- What such a sender sends for RTP packets with their indices. -/
def conformingStream (keys : SrtpEncryptParams) (packets : List (Bytes × ℕ)) : List Bytes :=
  packets.map fun (rtp, i) => protect C (conformingParams keys i) rtp (UInt16.ofNat i)

/-- An RTP packet of the sender: well-formed, with the sender's SSRC and the low bits of its index. -/
def Conforming (ssrc : UInt32) (packet : Bytes × ℕ) : Prop :=
  locatePayloadStart packet.1 ≠ 0 ∧ headerSsrc packet.1 = ssrc ∧
    headerSequenceNumber packet.1 = UInt16.ofNat packet.2

instance (ssrc : UInt32) (packet : Bytes × ℕ) : Decidable (Conforming ssrc packet) :=
  inferInstanceAs (Decidable (_ ∧ _ ∧ _))

/-- The ciphertext and the tag that `params` give to an RTP packet. -/
def ciphertextAndTag (params : SrtpEncryptParams) (rtp : Bytes) : Bytes × Bytes :=
  let srtp := cryptPayload C params (headerSequenceNumber rtp) rtp (locatePayloadStart rtp)
  (srtp, computeAuthTag C params.sessionAuthKey srtp params.rolloverCounter)

/-- The roll-over counter of the packet makes no difference: its ciphertext and its tag are those under counter
zero. -/
def SameWithoutRollover (keys : SrtpEncryptParams) (packet : Bytes × ℕ) : Prop :=
  ciphertextAndTag C (conformingParams keys packet.2) packet.1 = ciphertextAndTag C (conformingParams keys 0) packet.1

namespace TgcallsConnection

/-- What becomes of each datagram of a run: the RTP packet it carried, or nothing. -/
def results (c : TgcallsConnection) (datagrams : List Bytes) : List (Option Bytes) :=
  history (srtpStep C) (fun c d => some (c.onSrtpDatagram C d).2) c datagrams

end TgcallsConnection

variable {C} {keys : SrtpEncryptParams}

/-! ### One packet -/

theorem protect_eq_iff {params params' : SrtpEncryptParams} {rtp : Bytes} :
    protect C params rtp (headerSequenceNumber rtp) = protect C params' rtp (headerSequenceNumber rtp) ↔
      ciphertextAndTag C params rtp = ciphertextAndTag C params' rtp := by
  constructor
  · intro h
    obtain ⟨hcipher, htag⟩ := List.append_inj' h (by rw [length_computeAuthTag, length_computeAuthTag])
    exact Prod.ext hcipher htag
  · intro h
    rw [Prod.ext_iff] at h
    rw [protect, protect]
    exact congrArg₂ (· ++ ·) h.1 h.2

theorem conformingParams_of_lt {i : ℕ} (h : i < 65536) : conformingParams keys i = conformingParams keys 0 := by
  rw [conformingParams, conformingParams, Nat.div_eq_of_lt h]

/-- **When a packet of the sender goes through.** -/
theorem decrypt_conforming_iff {packet : Bytes × ℕ} (hroc : keys.rolloverCounter = 0)
    (h : Conforming keys.ssrc packet) :
    decrypt C keys (protect C (conformingParams keys packet.2) packet.1 (UInt16.ofNat packet.2)) = some packet.1 ↔
      packet.2 < 65536 ∨ SameWithoutRollover C keys packet := by
  obtain ⟨hstart, -, hseq⟩ := h
  have hkeys : conformingParams keys 0 = keys := by
    rw [conformingParams, Nat.zero_div, show UInt32.ofNat 0 = keys.rolloverCounter from hroc.symm]
  have hsame : SameWithoutRollover C keys packet ↔
      decrypt C keys (protect C (conformingParams keys packet.2) packet.1 (UInt16.ofNat packet.2))
        = some packet.1 := by
    rw [SameWithoutRollover, hkeys, decrypt_eq_some_iff, ← hseq, protect_eq_iff]
    simp only [hstart, ne_eq, not_false_eq_true, true_and]
  constructor
  · intro h
    exact .inr (hsame.2 h)
  · rintro (hlt | h)
    · exact hsame.1 (by rw [SameWithoutRollover, conformingParams_of_lt hlt])
    · exact hsame.1 h

namespace TgcallsConnection

variable {c : TgcallsConnection}

theorem length_le_protect {params : SrtpEncryptParams} {rtp : Bytes} {seq : UInt16} (h : locatePayloadStart rtp ≠ 0) :
    12 + kAuthTagSize ≤ (protect C params rtp seq).length := by
  have hheader : 12 ≤ locatePayloadStart rtp := header_le_locatePayloadStart h
  have := locatePayloadStart_le rtp
  rw [length_protect]
  omega

/-- A packet of the sender's SSRC is decrypted under the sender's SSRC, which from then on is latched. -/
theorem onSrtpDatagram_latched {inParams : SrtpEncryptParams} {datagram : Bytes}
    (hlen : 12 + kAuthTagSize ≤ datagram.length) (hready : c.srtpReady = true)
    (hin : c.srtpIncoming = some inParams)
    (hssrc : inParams.ssrc = 0 ∨ inParams.ssrc = headerSsrc datagram) :
    c.onSrtpDatagram C datagram =
      ({ c with srtpIncoming := some { inParams with ssrc := headerSsrc datagram } },
        decrypt C { inParams with ssrc := headerSsrc datagram } datagram) := by
  rw [onSrtpDatagram_eq hlen hready hin]
  rcases hssrc with hzero | hsame
  · rw [if_pos hzero]
  · have hparams : { inParams with ssrc := headerSsrc datagram } = inParams := by rw [← hsame]
    rw [hparams, if_pos hsame, ite_eq_right_iff.2]
    · rw [← hin]
    · intro _
      rw [← hin]

/-- **The run of a stream.**  Every packet is decrypted under the keys the run started with. -/
theorem results_conformingStream {inParams : SrtpEncryptParams} {packets : List (Bytes × ℕ)}
    (hready : c.srtpReady = true) (hin : c.srtpIncoming = some inParams)
    (hssrc : inParams.ssrc = 0 ∨ inParams.ssrc = keys.ssrc) (hkeys : { inParams with ssrc := keys.ssrc } = keys)
    (hconf : ∀ packet ∈ packets, Conforming keys.ssrc packet) :
    c.results C (conformingStream C keys packets) = (conformingStream C keys packets).map fun d => decrypt C keys d := by
  induction packets generalizing c inParams with
  | nil => rfl
  | cons packet packets ih =>
    obtain ⟨hpacket, hrest⟩ := List.forall_mem_cons.1 hconf
    obtain ⟨hstart, hheader, hseq⟩ := hpacket
    set d := protect C (conformingParams keys packet.2) packet.1 (UInt16.ofNat packet.2) with hd
    have hd_ssrc : headerSsrc d = keys.ssrc := by rw [hd, headerSsrc_protect C _ _ hstart, hheader]
    have hstep := onSrtpDatagram_latched (C := C) (length_le_protect hstart) hready hin
      (by rw [← hd, hd_ssrc]; exact hssrc)
    rw [← hd, hd_ssrc, hkeys] at hstep
    have htail := ih (c := (c.onSrtpDatagram C d).1) (by rw [hstep]; exact hready) (by rw [hstep]) (.inr rfl) rfl
      hrest
    have hcons : conformingStream C keys (packet :: packets) = d :: conformingStream C keys packets := rfl
    rw [hcons, results, history_cons, List.map_cons, ← htail, srtpStep, hstep]
    rfl

theorem startAudioPhase_fresh (C : Srtp.Crypto) (c : TgcallsConnection) (keys : Bytes) (audio : AudioInput) :
    (c.startAudioPhase C keys audio).srtpReady = true ∧
      ∃ inParams, (c.startAudioPhase C keys audio).srtpIncoming = some inParams ∧ inParams.ssrc = 0 ∧
        inParams.rolloverCounter = 0 := by
  unfold startAudioPhase transitionTo
  dsimp only
  split_ifs <;> exact ⟨rfl, _, rfl, rfl, rfl⟩

/-! ### The run -/

/-- **When the receiver follows the sender.**  For every library, every connection at the start of its SRTP
session and every stream of a sender that holds the same keys: each packet is accepted with the bytes that were
sent exactly when each packet comes before the first wrap, or is the same without the roll-over. -/
theorem follows_sender_iff (C : Srtp.Crypto) (c : TgcallsConnection) (inParams : SrtpEncryptParams)
    (hready : c.srtpReady = true) (hin : c.srtpIncoming = some inParams) (hfresh : inParams.ssrc = 0)
    (hroc : inParams.rolloverCounter = 0) (ssrc : UInt32) (start : UInt16) (rtps : List Bytes)
    (hconf : ∀ packet ∈ rtps.zipIdx start.toNat, Conforming ssrc packet) :
    c.results C (conformingStream C { inParams with ssrc := ssrc } (rtps.zipIdx start.toNat)) = rtps.map some ↔
      ∀ packet ∈ rtps.zipIdx start.toNat,
        packet.2 < 65536 ∨ SameWithoutRollover C { inParams with ssrc := ssrc } packet := by
  have hrtps : rtps.map some = (rtps.zipIdx start.toNat).map fun packet => some packet.1 := by
    have hfst : (rtps.zipIdx start.toNat).map Prod.fst = rtps := List.zipIdx_map_fst ..
    conv_lhs => rw [← hfst]
    rw [List.map_map]
    rfl
  set keys := { inParams with ssrc := ssrc } with hkeys
  have hpacket : ∀ packet ∈ rtps.zipIdx start.toNat, (decrypt C keys
      (protect C (conformingParams keys packet.2) packet.1 (UInt16.ofNat packet.2)) = some packet.1 ↔
        packet.2 < 65536 ∨ SameWithoutRollover C keys packet) := by
    intro packet hmem
    exact decrypt_conforming_iff hroc (hconf packet hmem)
  rw [results_conformingStream hready hin (.inl hfresh) hkeys.symm hconf, hrtps, conformingStream, List.map_map,
    List.map_inj_left]
  exact forall₂_congr hpacket

theorem follows_sender_two :
    sampleReady.results sampleCrypto
        (conformingStream sampleCrypto (sampleParams 1) ([sampleRtp 1, sampleRtp 2].zipIdx (1 : UInt16).toNat))
      = [sampleRtp 1, sampleRtp 2].map some := by
  apply (follows_sender_iff sampleCrypto sampleReady (sampleParams 0) rfl rfl rfl rfl 1 1
    [sampleRtp 1, sampleRtp 2] (by decide)).2
  intro packet hmem
  left
  revert packet
  decide

/-- The packet behind the wrap is sent under roll-over counter 1, and rejected. -/
theorem wrap_loses_sender :
    sampleReady.results sampleCrypto
        (conformingStream sampleCrypto (sampleParams 1) ([sampleRtp 0xFFFF, sampleRtp 0].zipIdx (0xFFFF : UInt16).toNat))
      = [some (sampleRtp 0xFFFF), none] := by
  decide +kernel

end TgcallsConnection

end VianiumVoip.Tgcalls
