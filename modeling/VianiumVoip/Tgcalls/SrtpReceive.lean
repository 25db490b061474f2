import VianiumVoip.Lib.Run
import VianiumVoip.Srtp.SenderRun
import VianiumVoip.Tgcalls.Connection

/-!
# Forged packets on the receive path

`OnSrtpDatagram` learns the SSRC of the peer from the first packet that arrives, and it does so *before*
`Decrypt` has checked the tag.  A forged packet leaves the receive path alone exactly when there is nothing
left to learn: the SSRC is set already, or the packet carries SSRC 0, or the packet is too short or too early to
be looked at (`forged_unchanged_iff`).  Where every forged packet of a run is of that kind, the genuine ones
fare as they would without it.
-/

namespace VianiumVoip.Tgcalls

open VianiumVoip.Lib VianiumVoip.Lib.Run VianiumVoip.Srtp

namespace TgcallsConnection

variable (C : Srtp.Crypto)

/-- One inbound SRTP datagram, as a step of the connection. -/
def srtpStep (c : TgcallsConnection) (datagram : Bytes) : TgcallsConnection := (c.onSrtpDatagram C datagram).1

/-- An accepted datagram, with the RTP packet it carried. -/
def srtpAccepted (c : TgcallsConnection) (datagram : Bytes) : Option (Bytes × Bytes) :=
  (c.onSrtpDatagram C datagram).2.map fun rtp => (datagram, rtp)

/-- The datagrams of a run that were accepted, each with its RTP packet. -/
def accepted (c : TgcallsConnection) (datagrams : List Bytes) : List (Bytes × Bytes) :=
  history (srtpStep C) (srtpAccepted C) c datagrams

/-- What a forged packet must not touch: the incoming parameters, and the sequence number and timestamp of the
audio stream. -/
def receiveState (c : TgcallsConnection) : Option SrtpEncryptParams × UInt16 × UInt32 :=
  (c.srtpIncoming, c.outgoingSeq, c.outgoingTimestamp)

/-- `Decrypt` rejects the datagram under the keys of the connection. -/
def Rejects (c : TgcallsConnection) (datagram : Bytes) : Prop :=
  ∀ inParams ∈ c.srtpIncoming, decrypt C inParams datagram = none

/-- The datagram is looked at while the SSRC of the peer is unknown, and names one. -/
def Latches (c : TgcallsConnection) (datagram : Bytes) : Prop :=
  12 + kAuthTagSize ≤ datagram.length ∧ c.srtpReady = true ∧ (∃ inParams ∈ c.srtpIncoming, inParams.ssrc = 0) ∧
    headerSsrc datagram ≠ 0

variable {C} {c : TgcallsConnection} {datagram : Bytes}

/-! ### One datagram -/

/-- Acceptance does not depend on the SSRC: the tag covers the packet, and the packet its SSRC. -/
theorem decrypt_ssrc_eq_none_iff (inParams : SrtpEncryptParams) (ssrc : UInt32) :
    decrypt C { inParams with ssrc := ssrc } datagram = none ↔ decrypt C inParams datagram = none := by
  unfold decrypt
  simp only
  split_ifs <;> simp

/-- **What `OnSrtpDatagram` does.**  The SSRC is latched if it is unknown, and nothing else changes; a packet of
another SSRC is dropped, and any other is up to `Decrypt`. -/
theorem onSrtpDatagram_eq {inParams : SrtpEncryptParams} (hlen : 12 + kAuthTagSize ≤ datagram.length)
    (hready : c.srtpReady = true) (hin : c.srtpIncoming = some inParams) :
    c.onSrtpDatagram C datagram =
      if inParams.ssrc = 0 then
        ({ c with srtpIncoming := some { inParams with ssrc := headerSsrc datagram } },
          decrypt C { inParams with ssrc := headerSsrc datagram } datagram)
      else if inParams.ssrc = headerSsrc datagram then (c, decrypt C inParams datagram)
      else (c, none) := by
  have hsame : { c with srtpIncoming := some inParams } = c := by rw [← hin]
  unfold onSrtpDatagram
  rw [if_neg (by omega)]
  split
  · next inParams' _ hin' =>
    obtain rfl : inParams' = inParams := Option.some.inj (hin'.symm.trans hin)
    simp only
    by_cases hzero : inParams'.ssrc = 0
    · rw [if_pos hzero, if_pos hzero, if_neg (by simp)]
    · rw [if_neg hzero, if_neg hzero, hsame]
      by_cases hssrc : inParams'.ssrc = headerSsrc datagram
      · rw [if_pos hssrc, if_neg (by simpa using hssrc)]
      · rw [if_neg hssrc, if_pos hssrc]
  · next hnot => exact (hnot inParams hready hin).elim

theorem onSrtpDatagram_short (h : datagram.length < 12 + kAuthTagSize) :
    c.onSrtpDatagram C datagram = (c, none) := by
  rw [onSrtpDatagram, if_pos h]

theorem onSrtpDatagram_not_ready (h : ¬ (c.srtpReady = true ∧ c.srtpIncoming.isSome)) :
    c.onSrtpDatagram C datagram = (c, none) := by
  unfold onSrtpDatagram
  split_ifs
  · rfl
  · split
    · next inParams hready hin =>
      rw [hready, hin] at h
      simp at h
    · rfl

theorem srtpAccepted_eq_none (h : c.Rejects C datagram) : c.srtpAccepted C datagram = none := by
  rw [srtpAccepted, Option.map_eq_none_iff]
  by_cases hlen : datagram.length < 12 + kAuthTagSize
  · rw [onSrtpDatagram_short hlen]
  · by_cases hready : c.srtpReady = true ∧ c.srtpIncoming.isSome
    · obtain ⟨inParams, hin⟩ := Option.isSome_iff_exists.1 hready.2
      have hnone : decrypt C inParams datagram = none := h inParams hin
      rw [onSrtpDatagram_eq (not_lt.1 hlen) hready.1 hin]
      split_ifs
      · exact (decrypt_ssrc_eq_none_iff _ _).2 hnone
      · exact hnone
      · rfl
    · rw [onSrtpDatagram_not_ready hready]

/-- **Where there is nothing to learn, the connection stays as it is.** -/
theorem srtpStep_eq_self (h : ¬ c.Latches datagram) : c.srtpStep C datagram = c := by
  rw [srtpStep]
  by_cases hlen : datagram.length < 12 + kAuthTagSize
  · rw [onSrtpDatagram_short hlen]
  · by_cases hready : c.srtpReady = true ∧ c.srtpIncoming.isSome
    · obtain ⟨inParams, hin⟩ := Option.isSome_iff_exists.1 hready.2
      rw [onSrtpDatagram_eq (not_lt.1 hlen) hready.1 hin]
      split_ifs with hzero hsame
      · -- the packet carries SSRC 0 itself
        have hssrc : headerSsrc datagram = 0 := by
          by_contra hne
          exact h ⟨not_lt.1 hlen, hready.1, ⟨inParams, hin, hzero⟩, hne⟩
        have hparams : { inParams with ssrc := headerSsrc datagram } = inParams := by rw [hssrc, ← hzero]
        simp only [hparams, ← hin]
      · rfl
      · rfl
    · rw [onSrtpDatagram_not_ready hready]

theorem receiveState_ne_of_latches (h : c.Latches datagram) :
    (c.srtpStep C datagram).receiveState ≠ c.receiveState := by
  obtain ⟨hlen, hready, ⟨inParams, hin, hzero⟩, hne⟩ := h
  have hin' : c.srtpIncoming = some inParams := hin
  rw [srtpStep, onSrtpDatagram_eq hlen hready hin', if_pos hzero]
  intro heq
  have hparams : some { inParams with ssrc := headerSsrc datagram } = c.srtpIncoming := congrArg Prod.fst heq
  rw [hin', Option.some.injEq] at hparams
  have hssrc : headerSsrc datagram = inParams.ssrc := congrArg SrtpEncryptParams.ssrc hparams
  rw [hzero] at hssrc
  exact hne hssrc

/-- **When a datagram leaves the receive path alone.** -/
theorem receiveState_eq_iff : (c.srtpStep C datagram).receiveState = c.receiveState ↔ ¬ c.Latches datagram := by
  constructor
  · intro h hlatches
    exact receiveState_ne_of_latches hlatches h
  · intro h
    rw [srtpStep_eq_self h]

/-! ### Runs with forged packets among the genuine ones -/

/-- **Immunity to forged packets.**  For every state of the connection and every run in which the datagrams
that are not `genuine` are rejected: the forged ones leave the receive path alone exactly when none of them
arrives while the SSRC is unknown and names one; and then the accepted datagrams are those of the run without
the forged ones. -/
theorem forged_unchanged_iff (C : Srtp.Crypto) (c : TgcallsConnection) (genuine : Bytes → Bool)
    (datagrams : List Bytes)
    (hforged : Guarded (srtpStep C) (fun c d => genuine d = false → c.Rejects C d) c datagrams) :
    ((∀ pre d post, datagrams = pre ++ d :: post → genuine d = false →
        ((run (srtpStep C) c pre).srtpStep C d).receiveState = (run (srtpStep C) c pre).receiveState) ↔
      Guarded (srtpStep C) (fun c d => genuine d = false → ¬ c.Latches d) c datagrams) ∧
    (Guarded (srtpStep C) (fun c d => genuine d = false → ¬ c.Latches d) c datagrams →
      c.accepted C datagrams = c.accepted C (datagrams.filter genuine)) := by
  constructor
  · rw [guarded_iff]
    simp only [receiveState_eq_iff]
  · intro hguard
    apply history_erase
    refine (hforged.and hguard).mono ?_
    rintro c d ⟨hrejects, hquiet⟩ hd
    exact ⟨srtpStep_eq_self (hquiet hd), srtpAccepted_eq_none (hrejects hd)⟩

/-! ### A session under all-zero keys -/

/-- A connection whose SRTP session has just been set up. -/
def sampleReady : TgcallsConnection where
  isOutgoing := true
  sharedKey := List.replicate 256 0
  reflectors := []
  hasSignalingOut := true
  state := .connected
  srtpReady := true
  srtpOutgoing := some (sampleParams 1)
  srtpIncoming := some (sampleParams 0)

/-- The header of a packet of SSRC 7, under a tag of zeros. -/
def forgedPacket : Bytes := [0x80, 111, 0, 1, 0, 0, 0, 0, 0, 0, 0, 7] ++ List.replicate kAuthTagSize 0

/-- The first packet of a peer with SSRC 1. -/
def genuinePacket : Bytes := protect sampleCrypto (sampleParams 1) (sampleRtp 1) 1

/-- **One forged packet silences the peer.**  `Decrypt` rejects the forged packet, but its SSRC stays, and the
genuine packet that would have been accepted is dropped. -/
theorem forged_packet_latches :
    sampleReady.Rejects sampleCrypto forgedPacket ∧
      (sampleReady.srtpStep sampleCrypto forgedPacket).receiveState ≠ sampleReady.receiveState ∧
      sampleReady.accepted sampleCrypto [genuinePacket] = [(genuinePacket, sampleRtp 1)] ∧
      sampleReady.accepted sampleCrypto [forgedPacket, genuinePacket] = [] := by
  refine ⟨?_, ?_, ?_, ?_⟩
  · intro inParams hin
    cases hin
    decide +kernel
  · intro h
    have hin := congrArg (fun r => r.1.map SrtpEncryptParams.ssrc) h
    revert hin
    decide +kernel
  · decide +kernel
  · decide +kernel

/-- After the first genuine packet the forged one does no harm. -/
theorem forged_unchanged_sample :
    sampleReady.accepted sampleCrypto [genuinePacket, forgedPacket] = sampleReady.accepted sampleCrypto
      ([genuinePacket, forgedPacket].filter fun d => d == genuinePacket) := by
  have hlatched : (sampleReady.srtpStep sampleCrypto genuinePacket).srtpIncoming = some (sampleParams 1) := by
    decide +kernel
  apply (forged_unchanged_iff sampleCrypto sampleReady (fun d => d == genuinePacket)
    [genuinePacket, forgedPacket] ?_).2 ?_
  · refine ⟨fun h => absurd h (by decide +kernel), fun _ => ?_, trivial⟩
    intro inParams hin
    rw [hlatched] at hin
    cases hin
    decide +kernel
  · refine ⟨fun h => absurd h (by decide +kernel), fun _ => ?_, trivial⟩
    rintro ⟨-, -, ⟨inParams, hin, hzero⟩, -⟩
    rw [hlatched] at hin
    cases hin
    exact absurd hzero (by decide)

end TgcallsConnection

end VianiumVoip.Tgcalls
