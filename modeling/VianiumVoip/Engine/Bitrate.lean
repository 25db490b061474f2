import VianiumVoip.Engine.SessionStates
import VianiumVoip.Relay.AudioRun

/-!
# The bitrate of the snapshot

`GetMediaSnapshot` with its counters.  On the classic path the bitrate is a quotient of two products of 32-bit
counters, which are 32-bit numbers themselves: `bitrate_exact_iff` says for which counters it is what the formula means.
Beyond 536870 bytes, a few minutes of audio, what is shown is too small (`bitrate_too_small`).

The counters are those of the datagrams that were sent (`sendAll_counters`).
-/

namespace VianiumVoip.Engine

open VianiumVoip.Lib VianiumVoip.Tgcalls

/-! ### The snapshot -/

/-- The counters of the media, but for those of lost packets, which the engine leaves at 0.  The levels are in permille;
the source shows them divided by 1000. -/
structure SnapshotStats extends VoipMediaStats where
  outboundLevelPermille : ℤ := 0
  inboundLevelPermille : ℤ := 0
  bitrateBps : Int32 := 0
  underruns : Int32 := 0

structure MediaSnapshot extends VoipMediaSnapshot where
  stats : SnapshotStats := {}

/-- What the snapshot reads of the active context. -/
structure ActiveCounters where
  mediaReady : Bool := false
  mediaPacketsSent : UInt32 := 0
  mediaPacketsReceived : UInt32 := 0
  mediaBytesSent : UInt32 := 0
  mediaBytesReceived : UInt32 := 0
  audioUnderruns : UInt32 := 0
  outboundLevelPermille : ℤ := 0
  inboundLevelPermille : ℤ := 0

/-- `TgcallsConnection::StatsSnapshot` -/
structure StatsSnapshot where
  txPackets : UInt64
  rxPackets : UInt64
  txBytes : UInt64
  rxBytes : UInt64
  currentState : State

/-- The engine, as far as `GetMediaSnapshot` looks at it. -/
structure ObservedEngine where
  session : CountedSession := {}
  activeMedia : Option ActiveCounters := none
  tgcallsCallId : ℤ := 0
  tgcallsConnection : Option StatsSnapshot := none
  /-- `m_tgcallsGraph->Snapshot` -/
  tgcallsGraph : Option (ℤ → MediaSnapshot) := none

/-- The divisor of the bitrate: the milliseconds of audio that were sent. -/
def audioDuration (packets : UInt32) : UInt32 :=
  if packets = 0 then 1000 else packets * Relay.VoipControlPacketCodec.defaultAudioFrameDurationMs.toUInt32

/-- The expression for `BitrateBps`.  There is no value where it divides by zero. -/
def bitrateBps (bytes packets : UInt32) : Option Int32 :=
  if audioDuration packets = 0 then none else some (bytes * 8 * 1000 / audioDuration packets).toInt32

namespace CountedSession

/-- `m_mediaSession.Snapshot()` -/
def countedSnapshot (s : CountedSession) : MediaSnapshot where
  toVoipMediaSnapshot := s.toVoipMediaSession.snapshot
  stats := { s.stats with }

end CountedSession

/-- The state that a connection is shown in. -/
def shownState : State → VoipMediaState
  | .connected => .active
  | .failed | .stopped => .stopped
  | _ => .connecting

/-- The path over a connection. -/
def MediaSnapshot.ofConnection (snapshot : MediaSnapshot) (ts : StatsSnapshot) : MediaSnapshot :=
  { snapshot with
    state := shownState ts.currentState
    stats := { snapshot.stats with
      packetsSent := ts.txPackets.toUInt32
      packetsReceived := ts.rxPackets.toUInt32
      bytesSent := ts.txBytes.toUInt32
      bytesReceived := ts.rxBytes.toUInt32 } }

/-- The classic path. -/
def MediaSnapshot.ofActive (snapshot : MediaSnapshot) (active : ActiveCounters) : Option MediaSnapshot :=
  (bitrateBps active.mediaBytesSent active.mediaPacketsSent).map fun bitrate =>
    { snapshot with
      state := if active.mediaReady then .active else .connecting
      stats := { snapshot.stats with
        packetsSent := snapshot.stats.packetsSent + active.mediaPacketsSent
        packetsReceived := snapshot.stats.packetsReceived + active.mediaPacketsReceived
        bytesSent := snapshot.stats.bytesSent + active.mediaBytesSent
        bytesReceived := snapshot.stats.bytesReceived + active.mediaBytesReceived
        underruns := snapshot.stats.underruns + active.audioUnderruns.toInt32
        outboundLevelPermille := active.outboundLevelPermille
        inboundLevelPermille := active.inboundLevelPermille
        bitrateBps := bitrate } }

namespace ObservedEngine

/-- `GetMediaSnapshot`, where it does not divide by zero. -/
def getMediaSnapshot (e : ObservedEngine) : Option MediaSnapshot :=
  let snapshot := e.session.countedSnapshot
  match (if 0 < e.tgcallsCallId then e.tgcallsConnection else none) with
  | some ts => some (snapshot.ofConnection ts)
  | none =>
    match e.activeMedia with
    | some active => snapshot.ofActive active
    | none =>
      match e.tgcallsGraph with
      | some graph => some (if 0 < e.tgcallsCallId then graph e.tgcallsCallId else snapshot)
      | none => some snapshot

/-- The snapshot shows the classic path. -/
structure ShowsActive (e : ObservedEngine) (active : ActiveCounters) : Prop where
  activeMedia : e.activeMedia = some active
  tgcallsConnection : 0 < e.tgcallsCallId → e.tgcallsConnection = none

theorem getMediaSnapshot_of_active {e : ObservedEngine} {active : ActiveCounters} (h : e.ShowsActive active) :
    e.getMediaSnapshot = e.session.countedSnapshot.ofActive active := by
  have hnone : (if 0 < e.tgcallsCallId then e.tgcallsConnection else none) = none := by
    split
    · next hcall => exact h.tgcallsConnection hcall
    · rfl
  rw [getMediaSnapshot, hnone]
  simp only [h.activeMedia]

end ObservedEngine

/-! ### What the bitrate is meant to be -/

/-- The formula in unbounded integers. -/
def exactBitrate (bytes packets : UInt32) : ℕ :=
  if packets = 0 then bytes.toNat * 8 else bytes.toNat * 8000 / (packets.toNat * 60)

/-- No product in the expression wraps around. -/
structure NoWrap (bytes packets : UInt32) : Prop where
  bits : (bytes * 8).toNat = bytes.toNat * 8
  scaled : (bytes * 8 * 1000).toNat = bytes.toNat * 8 * 1000
  duration : (packets * 60).toNat = packets.toNat * 60

/-- There is a snapshot, its bitrate is exact where that is a number of 32 bits, and no product wraps around. -/
structure ExactSnapshot (snapshot : Option MediaSnapshot) (bytes packets : UInt32) : Prop where
  shown : ∃ shown, snapshot = some shown ∧
    (exactBitrate bytes packets < 2 ^ 31 → shown.stats.bitrateBps.toInt = exactBitrate bytes packets)
  noWrap : NoWrap bytes packets

theorem noWrap_iff {bytes packets : UInt32} :
    NoWrap bytes packets ↔ bytes.toNat ≤ 536870 ∧ packets.toNat ≤ 71582788 := by
  have hbytes := bytes.toNat_lt
  have hpackets := packets.toNat_lt
  constructor
  · rintro ⟨hbits, hscaled, hduration⟩
    simp only [UInt32.toNat_mul, UInt32.reduceToNat] at hbits hscaled hduration
    omega
  · rintro ⟨hsmall, hfew⟩
    refine ⟨?_, ?_, ?_⟩ <;> simp only [UInt32.toNat_mul, UInt32.reduceToNat] <;> omega

theorem toNat_audioDuration {packets : UInt32} (h : packets.toNat ≤ 71582788) :
    (audioDuration packets).toNat = if packets = 0 then 1000 else packets.toNat * 60 := by
  rw [audioDuration]
  split
  · rfl
  · have hframe : Relay.VoipControlPacketCodec.defaultAudioFrameDurationMs.toUInt32 = 60 := rfl
    simp only [hframe, UInt32.toNat_mul, UInt32.reduceToNat]
    omega

theorem audioDuration_pos {packets : UInt32} (h : packets.toNat ≤ 71582788) : 0 < (audioDuration packets).toNat := by
  rw [toNat_audioDuration h]
  split
  · decide
  · next hne =>
    have hpos : packets.toNat ≠ 0 := fun hzero => hne (UInt32.toNat_inj.1 hzero)
    omega

theorem bitrateBps_eq {bytes packets : UInt32} (h : packets.toNat ≤ 71582788) :
    bitrateBps bytes packets = some (bytes * 8 * 1000 / audioDuration packets).toInt32 := by
  have hne : audioDuration packets ≠ 0 := by
    intro hzero
    have hpos := audioDuration_pos h
    rw [hzero] at hpos
    exact absurd hpos (by decide)
  rw [bitrateBps, if_neg hne]

theorem exactBitrate_eq (bytes : UInt32) {packets : UInt32} (h : packets.toNat ≤ 71582788) :
    exactBitrate bytes packets = bytes.toNat * 8 * 1000 / (audioDuration packets).toNat := by
  rw [toNat_audioDuration h, exactBitrate]
  split
  · omega
  · rw [mul_assoc bytes.toNat 8 1000, show 8 * 1000 = 8000 from rfl]

theorem toInt_toInt32 {value : UInt32} (h : value.toNat < 2 ^ 31) : value.toInt32.toInt = value.toNat :=
  BitVec.toInt_eq_toNat_of_lt (x := value.toBitVec) (by rw [UInt32.toNat_toBitVec]; omega)

theorem bitrateBps_exact {bytes packets : UInt32} (hbytes : bytes.toNat ≤ 536870)
    (hpackets : packets.toNat ≤ 71582788) :
    ∃ bitrate, bitrateBps bytes packets = some bitrate ∧
      (exactBitrate bytes packets < 2 ^ 31 → bitrate.toInt = exactBitrate bytes packets) := by
  have hwrap := noWrap_iff.2 ⟨hbytes, hpackets⟩
  have hquotient : (bytes * 8 * 1000 / audioDuration packets).toNat = exactBitrate bytes packets := by
    rw [UInt32.toNat_div, hwrap.scaled, exactBitrate_eq bytes hpackets]
  refine ⟨_, bitrateBps_eq hpackets, fun hfits => ?_⟩
  rw [toInt_toInt32 (by rwa [hquotient]), hquotient]

/-- **Beyond 536870 bytes the bitrate that is shown is too small**, where the durations do not wrap around. -/
theorem bitrate_too_small {bytes packets : UInt32} (hbytes : 536870 < bytes.toNat)
    (hpackets : packets.toNat ≤ 71582788) (hfits : exactBitrate bytes packets < 2 ^ 31) :
    ∃ bitrate, bitrateBps bytes packets = some bitrate ∧ bitrate.toInt < exactBitrate bytes packets := by
  set duration := (audioDuration packets).toNat with hduration
  have hpos : 0 < duration := audioDuration_pos hpackets
  have hlt : duration < 2 ^ 32 := (audioDuration packets).toNat_lt
  -- the numerator has lost 2 ^ 32 at least, which is more than the divisor
  have hlost : (bytes * 8 * 1000).toNat + duration ≤ bytes.toNat * 8 * 1000 := by
    simp only [UInt32.toNat_mul, UInt32.reduceToNat]
    omega
  have hquotient : (bytes * 8 * 1000 / audioDuration packets).toNat < exactBitrate bytes packets := by
    rw [UInt32.toNat_div, exactBitrate_eq bytes hpackets, ← hduration]
    calc (bytes * 8 * 1000).toNat / duration < (bytes * 8 * 1000).toNat / duration + 1 := Nat.lt_succ_self _
      _ = ((bytes * 8 * 1000).toNat + duration) / duration := (Nat.add_div_right _ hpos).symm
      _ ≤ bytes.toNat * 8 * 1000 / duration := Nat.div_le_div_right hlost
  refine ⟨_, bitrateBps_eq hpackets, ?_⟩
  rw [toInt_toInt32 (hquotient.trans hfits)]
  exact_mod_cast hquotient

/-- The division is by zero for every multiple of 2 ^ 30 packets. -/
theorem bitrateBps_eq_none_iff {bytes packets : UInt32} :
    bitrateBps bytes packets = none ↔ packets ≠ 0 ∧ 2 ^ 30 ∣ packets.toNat := by
  have hnone : bitrateBps bytes packets = none ↔ (audioDuration packets).toNat = 0 := by
    rw [bitrateBps]
    split
    · next hzero => simp [hzero]
    · next hne => simpa [← UInt32.toNat_inj] using hne
  have hframe : Relay.VoipControlPacketCodec.defaultAudioFrameDurationMs.toUInt32 = 60 := rfl
  rw [hnone, audioDuration]
  split
  · next hzero => simp [hzero]
  · next hne =>
    simp only [hframe, UInt32.toNat_mul, UInt32.reduceToNat, ne_eq, hne, not_false_eq_true, true_and]
    omega

theorem exactSnapshot_of_small {e : ObservedEngine} {active : ActiveCounters} (h : e.ShowsActive active)
    (hbytes : active.mediaBytesSent.toNat ≤ 536870) (hpackets : active.mediaPacketsSent.toNat ≤ 71582788) :
    ExactSnapshot e.getMediaSnapshot active.mediaBytesSent active.mediaPacketsSent := by
  obtain ⟨bitrate, hbitrate, hexact⟩ := bitrateBps_exact hbytes hpackets
  have hshown : ∃ shown, e.getMediaSnapshot = some shown ∧ shown.stats.bitrateBps = bitrate := by
    rw [ObservedEngine.getMediaSnapshot_of_active h, MediaSnapshot.ofActive, hbitrate]
    exact ⟨_, rfl, rfl⟩
  obtain ⟨shown, hsnapshot, rfl⟩ := hshown
  exact ⟨⟨shown, hsnapshot, hexact⟩, noWrap_iff.2 ⟨hbytes, hpackets⟩⟩

/-- **The bitrate of the snapshot** is exact, and computed without a product that wraps around, for these counters and
for no others. -/
theorem bitrate_exact_iff (e : ObservedEngine) (active : ActiveCounters) (h : e.ShowsActive active) :
    ExactSnapshot e.getMediaSnapshot active.mediaBytesSent active.mediaPacketsSent ↔
      active.mediaBytesSent.toNat ≤ 536870 ∧ active.mediaPacketsSent.toNat ≤ 71582788 := by
  constructor
  · rintro ⟨-, hwrap⟩
    exact noWrap_iff.1 hwrap
  · rintro ⟨hbytes, hpackets⟩
    exact exactSnapshot_of_small h hbytes hpackets

/-- A minute of audio. -/
theorem bitrate_exact_iff_minute :
    ExactSnapshot
      (ObservedEngine.getMediaSnapshot
        { activeMedia := some { mediaBytesSent := 180000, mediaPacketsSent := 1000 } }) 180000 1000 :=
  (bitrate_exact_iff { activeMedia := some { mediaBytesSent := 180000, mediaPacketsSent := 1000 } }
    { mediaBytesSent := 180000, mediaPacketsSent := 1000 } ⟨rfl, fun _ => rfl⟩).2 ⟨by decide, by decide⟩

/-- Three minutes of audio, with 536871 bytes: the bitrate is 23860, and 0 is shown. -/
theorem bitrate_after_three_minutes :
    exactBitrate 536871 3000 = 23860 ∧ bitrateBps 536871 3000 = some 0 ∧
      ¬ ExactSnapshot
        (ObservedEngine.getMediaSnapshot
          { activeMedia := some { mediaBytesSent := 536871, mediaPacketsSent := 3000 } }) 536871 3000 := by
  refine ⟨by decide, by decide, ?_⟩
  rintro ⟨⟨shown, hshown, hexact⟩, -⟩
  cases hshown
  exact absurd (hexact (by decide)) (by decide)

/-! ### The counters of a sender -/

section Sender

open Relay

variable {D : Smoothing} (C : BlockCrypto) (keys : RelayKeys) (localIsOutgoing : Bool)

/-- Audio frames that are sent one after another, each with its random bytes: the datagrams, and the context. -/
def sendAll (ctx : Relay.VoipActiveMediaContext D) :
    List (Bytes × (ℕ → UInt8)) → List Bytes × Relay.VoipActiveMediaContext D
  | [] => ([], ctx)
  | (opus, random) :: frames =>
    let (wire, ctx) := ctx.encodeAndSendAudioFrame C keys localIsOutgoing random opus
    let (wires, ctx) := sendAll ctx frames
    (wire.toList ++ wires, ctx)

/-- What `GetMediaSnapshot` reads of a context that a loop runs with. -/
def countersOf (ctx : Relay.VoipActiveMediaContext D) : ActiveCounters where
  mediaReady := ctx.mediaReady
  mediaPacketsSent := ctx.mediaPacketsSent
  mediaPacketsReceived := ctx.mediaPacketsReceived
  mediaBytesSent := ctx.mediaBytesSent
  mediaBytesReceived := ctx.mediaBytesReceived

theorem encodeAndSend_counters (ctx : Relay.VoipActiveMediaContext D) (random : ℕ → UInt8) (opus : Bytes) :
    (ctx.encodeAndSendAudioFrame C keys localIsOutgoing random opus).2.mediaPacketsSent
        = ctx.mediaPacketsSent
          + UInt32.ofNat (ctx.encodeAndSendAudioFrame C keys localIsOutgoing random opus).1.toList.length ∧
      (ctx.encodeAndSendAudioFrame C keys localIsOutgoing random opus).2.mediaBytesSent
        = ctx.mediaBytesSent
          + UInt32.ofNat (ctx.encodeAndSendAudioFrame C keys localIsOutgoing random opus).1.toList.flatten.length := by
  unfold Relay.VoipActiveMediaContext.encodeAndSendAudioFrame
  split
  · simp
  · dsimp only
    split
    · simp
    · simp

/-- **The counters of a sender** are those of its datagrams, as numbers of 32 bits. -/
theorem sendAll_counters (ctx : Relay.VoipActiveMediaContext D) (frames : List (Bytes × (ℕ → UInt8))) :
    (sendAll C keys localIsOutgoing ctx frames).2.mediaPacketsSent
        = ctx.mediaPacketsSent + UInt32.ofNat (sendAll C keys localIsOutgoing ctx frames).1.length ∧
      (sendAll C keys localIsOutgoing ctx frames).2.mediaBytesSent
        = ctx.mediaBytesSent + UInt32.ofNat (sendAll C keys localIsOutgoing ctx frames).1.flatten.length := by
  induction frames generalizing ctx with
  | nil => simp [sendAll]
  | cons frame frames ih =>
    obtain ⟨opus, random⟩ := frame
    obtain ⟨hpackets, hbytes⟩ := encodeAndSend_counters C keys localIsOutgoing ctx random opus
    obtain ⟨hpackets', hbytes'⟩ := ih (ctx.encodeAndSendAudioFrame C keys localIsOutgoing random opus).2
    simp only [sendAll, List.length_append, List.flatten_append]
    rw [hpackets', hbytes', hpackets, hbytes, UInt32.ofNat_add, UInt32.ofNat_add, UInt32.add_assoc, UInt32.add_assoc]
    exact ⟨rfl, rfl⟩

/-- A new context shows an exact bitrate as long as its datagrams have 536870 bytes together. -/
theorem bitrate_of_sender (e : ObservedEngine) (frames : List (Bytes × (ℕ → UInt8)))
    (h : e.ShowsActive (countersOf (sendAll (D := D) C keys localIsOutgoing {} frames).2))
    (hbytes : (sendAll (D := D) C keys localIsOutgoing {} frames).1.flatten.length ≤ 536870)
    (hpackets : (sendAll (D := D) C keys localIsOutgoing {} frames).1.length ≤ 71582788) :
    ExactSnapshot e.getMediaSnapshot
      (UInt32.ofNat (sendAll (D := D) C keys localIsOutgoing {} frames).1.flatten.length)
      (UInt32.ofNat (sendAll (D := D) C keys localIsOutgoing {} frames).1.length) := by
  set sent := sendAll (D := D) C keys localIsOutgoing {} frames with hsent
  obtain ⟨hcount, hsum⟩ := sendAll_counters C keys localIsOutgoing ({} : Relay.VoipActiveMediaContext D) frames
  rw [← hsent, UInt32.zero_add] at hcount hsum
  have htoNat : ∀ n, n ≤ 71582788 → (UInt32.ofNat n).toNat = n :=
    fun n hn => UInt32.toNat_ofNat_of_lt (hn.trans_lt (by decide))
  have hexact := exactSnapshot_of_small h (by rw [countersOf, hsum, htoNat _ (by omega)]; exact hbytes)
    (by rw [countersOf, hcount, htoNat _ hpackets]; exact hpackets)
  rwa [countersOf, hsum, hcount] at hexact

end Sender

end VianiumVoip.Engine
