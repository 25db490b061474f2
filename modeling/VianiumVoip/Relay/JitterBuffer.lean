import VianiumVoip.Engine.Dh

/-!
# The jitter buffer

`VoipJitterBuffer` of `domain/voip_jitter_buffer`.  The playout takes one sequence number after the other; a number
with no packet under it is concealed and counted as lost.

`Consecutive`: the packets that wait have the numbers from the next one to be played on.  While that is so the buffer is
a queue: a packet with the number behind the last one is put at the end (`insert_of_consecutive`), and the playout takes
the packet in front (`nextPlayoutFrame_of_consecutive`).
-/

namespace VianiumVoip.Relay

open VianiumVoip.Lib VianiumVoip.Engine

structure VoipJitterFrame where
  ready : Bool := false
  hasPacket : Bool := false
  plc : Bool := false
  sequenceNumber : UInt16 := 0
  timestamp : UInt32 := 0
  payload : Bytes := []
  deriving DecidableEq

structure VoipJitterStats where
  packetsInserted : UInt32 := 0
  packetsPlayed : UInt32 := 0
  packetsLost : UInt32 := 0
  lateDrops : UInt32 := 0
  targetMs : ℤ := 60
  depthPackets : ℤ := 0
  deriving DecidableEq

/-- The arithmetic of doubles by which `RecalculateTarget` smoothes the jitter. -/
structure Smoothing where
  Value : Type
  zero : Value
  /-- The double of an integer. -/
  ofInt : ℤ → Value
  /-- `smoothed == 0.0 ? jitter : smoothed * 0.95 + jitter * 0.05` -/
  smooth : Value → Value → Value
  /-- `static_cast<int>(smoothed * 4.0)` -/
  fourfold : Value → ℤ

structure Slot where
  sequenceNumber : UInt16 := 0
  timestamp : UInt32 := 0
  payload : Bytes := []
  deriving DecidableEq

def kMinTargetMs : ℤ := 60
def kMaxTargetMs : ℤ := 180
def kMaxBufferedPackets : ℕ := 64

/-- The slots are kept in the order in which they came; the map of the code finds them by their sequence number. -/
structure VoipJitterBuffer (D : Smoothing) where
  frameMs : ℤ := 20
  started : Bool := false
  nextSequence : UInt16 := 0
  nextTimestamp : UInt32 := 0
  firstPlayoutMs : ℤ := 0
  playoutIndex : ℕ := 0
  lastArrivalMs : ℤ := -1
  smoothedJitterMs : D.Value := D.zero
  targetMs : ℤ := kMinTargetMs
  slots : List Slot := []
  stats : VoipJitterStats := {}

/-- `ClampInt` -/
def clampInt (value lo hi : ℤ) : ℤ := if value < lo then lo else if hi < value then hi else value

/-- `SequenceBefore` -/
def sequenceBefore (a b : UInt16) : Bool := decide ((a - b).toInt16 < 0)

/-- `slots.erase(sequenceNumber)` -/
def eraseSlot (slots : List Slot) (sequenceNumber : UInt16) : List Slot :=
  slots.filter fun slot => slot.sequenceNumber ≠ sequenceNumber

/-- `slots[slot.SequenceNumber] = slot` -/
def assignSlot (slots : List Slot) (slot : Slot) : List Slot := eraseSlot slots slot.sequenceNumber ++ [slot]

/-- `slots.erase(slots.begin())`: the slot with the smallest key. -/
def eraseBegin (slots : List Slot) : List Slot :=
  match (slots.map Slot.sequenceNumber).min? with
  | none => slots
  | some first => eraseSlot slots first

namespace VoipJitterBuffer

variable {D : Smoothing}

/-- The buffer of an engine (`frameMs <= 0 ? 20 : frameMs`, then `Reset`). -/
def new (D : Smoothing) (frameMs : ℤ) : VoipJitterBuffer D := { frameMs := if frameMs ≤ 0 then 20 else frameMs }

/-- `Reset` -/
def reset (b : VoipJitterBuffer D) : VoipJitterBuffer D := { frameMs := b.frameMs }

/-- `Stats` -/
def statsCopy (b : VoipJitterBuffer D) : VoipJitterStats :=
  { b.stats with targetMs := b.targetMs, depthPackets := b.slots.length }

/-- `IsLate` -/
def isLate (b : VoipJitterBuffer D) (sequenceNumber : UInt16) : Bool := sequenceBefore sequenceNumber b.nextSequence

/-- `RecalculateTarget` -/
def recalculateTarget (b : VoipJitterBuffer D) (arrivalMonotonicMs : ℤ) : VoipJitterBuffer D :=
  if 0 ≤ b.lastArrivalMs then
    let delta := max 0 (arrivalMonotonicMs - b.lastArrivalMs)
    let smoothed := D.smooth b.smoothedJitterMs (D.ofInt |delta - b.frameMs|)
    { b with
      smoothedJitterMs := smoothed
      targetMs := clampInt (kMinTargetMs + D.fourfold smoothed) kMinTargetMs kMaxTargetMs
      lastArrivalMs := arrivalMonotonicMs }
  else { b with lastArrivalMs := arrivalMonotonicMs }

/-- `TrimOverflow`: the loop runs once for every slot too many. -/
def trimOverflow (b : VoipJitterBuffer D) : VoipJitterBuffer D :=
  let excess := b.slots.length - kMaxBufferedPackets
  { b with
    slots := eraseBegin^[excess] b.slots
    stats := { b.stats with lateDrops := b.stats.lateDrops + UInt32.ofNat excess } }

/-- The first packet sets the clock of the playout. -/
def start (b : VoipJitterBuffer D) (sequenceNumber : UInt16) (timestamp : UInt32) (arrivalMonotonicMs : ℤ) :
    VoipJitterBuffer D :=
  if b.started then b
  else
    { b with
      started := true
      nextSequence := sequenceNumber
      nextTimestamp := timestamp
      firstPlayoutMs := arrivalMonotonicMs + b.targetMs
      playoutIndex := 0 }

/-- The part of `Insert` that stores the packet. -/
def store (b : VoipJitterBuffer D) (slot : Slot) (arrivalMonotonicMs : ℤ) : VoipJitterBuffer D :=
  let b := b.recalculateTarget arrivalMonotonicMs
  let b := { b with slots := assignSlot b.slots slot }
  let b := b.start slot.sequenceNumber slot.timestamp arrivalMonotonicMs
  { b with stats := { b.stats with packetsInserted := b.stats.packetsInserted + 1 } }

/-- `Insert` -/
def insert (b : VoipJitterBuffer D) (sequenceNumber : UInt16) (timestamp : UInt32) (payload : Bytes)
    (arrivalMonotonicMs : ℤ) : Except VoipError (VoipJitterBuffer D) :=
  if payload = [] then .error (invalid "jitter buffer payload is empty")
  else if b.started && b.isLate sequenceNumber then
    .ok { b with
          stats := { b.stats with lateDrops := b.stats.lateDrops + 1, depthPackets := b.slots.length } }
  else
    let slot : Slot := { sequenceNumber := sequenceNumber, timestamp := timestamp, payload := payload }
    let b := (b.store slot arrivalMonotonicMs).trimOverflow
    .ok { b with stats := { b.stats with targetMs := b.targetMs, depthPackets := b.slots.length } }

/-- When the next slot is played. -/
def due (b : VoipJitterBuffer D) : ℤ := b.firstPlayoutMs + b.playoutIndex * b.frameMs

/-- The playout goes to the next slot. -/
def advance (b : VoipJitterBuffer D) : VoipJitterBuffer D :=
  { b with
    nextSequence := b.nextSequence + 1
    nextTimestamp := b.nextTimestamp + UInt32.ofNat b.frameMs.toNat
    playoutIndex := b.playoutIndex + 1
    stats := { b.stats with targetMs := b.targetMs, depthPackets := b.slots.length } }

/-- `NextPlayoutFrame` -/
def nextPlayoutFrame (b : VoipJitterBuffer D) (nowMonotonicMs : ℤ) : VoipJitterFrame × VoipJitterBuffer D :=
  if b.started = false then ({}, b)
  else if nowMonotonicMs < b.due then ({}, b)
  else
    match b.slots.find? fun slot => slot.sequenceNumber = b.nextSequence with
    | some slot =>
      ({ ready := true
         hasPacket := true
         sequenceNumber := b.nextSequence
         timestamp := slot.timestamp
         payload := slot.payload },
        advance
          { b with
            slots := eraseSlot b.slots b.nextSequence
            stats := { b.stats with packetsPlayed := b.stats.packetsPlayed + 1 } })
    | none =>
      ({ ready := true, plc := true, sequenceNumber := b.nextSequence, timestamp := b.nextTimestamp },
        advance { b with stats := { b.stats with packetsLost := b.stats.packetsLost + 1 } })

end VoipJitterBuffer

/-! ### Consecutive numbers -/

/-- The slots have the sequence numbers from `next` on. -/
def Consecutive (next : UInt16) : List Slot → Prop
  | [] => True
  | slot :: rest => slot.sequenceNumber = next ∧ Consecutive (next + 1) rest

variable {next : UInt16} {slots : List Slot} {slot : Slot}

theorem consecutive_append_singleton :
    Consecutive next (slots ++ [slot]) ↔
      Consecutive next slots ∧ slot.sequenceNumber = next + UInt16.ofNat slots.length := by
  induction slots generalizing next with
  | nil => simp [Consecutive]
  | cons first rest ih =>
    have hstep : next + 1 + UInt16.ofNat rest.length = next + UInt16.ofNat (rest.length + 1) := by
      rw [UInt16.ofNat_add, UInt16.add_assoc, UInt16.add_comm 1]
      rfl
    simp only [List.cons_append, Consecutive, ih, List.length_cons, hstep, and_assoc]

theorem exists_distance (h : Consecutive next slots) (hmem : slot ∈ slots) :
    ∃ i < slots.length, slot.sequenceNumber = next + UInt16.ofNat i := by
  induction slots generalizing next with
  | nil => cases hmem
  | cons first rest ih =>
    rcases List.mem_cons.1 hmem with rfl | hrest
    · exact ⟨0, Nat.succ_pos _, by rw [h.1]; simp⟩
    · obtain ⟨i, hi, hnumber⟩ := ih h.2 hrest
      refine ⟨i + 1, Nat.succ_lt_succ hi, ?_⟩
      rw [hnumber, UInt16.ofNat_add, UInt16.add_assoc, UInt16.add_comm 1]
      rfl

theorem add_ofNat_inj {i k : ℕ} (hi : i < 65536) (hk : k < 65536)
    (h : next + UInt16.ofNat i = next + UInt16.ofNat k) : i = k := by
  have hcancel : UInt16.ofNat i = UInt16.ofNat k := (UInt16.add_right_inj next).1 h
  have := congrArg UInt16.toNat hcancel
  rwa [UInt16.toNat_ofNat_of_lt' hi, UInt16.toNat_ofNat_of_lt' hk] at this

/-- A number that is further from the next one than every waiting packet is not in the buffer. -/
theorem eraseSlot_of_consecutive {k : ℕ} (h : Consecutive next slots) (hlen : slots.length ≤ k) (hk : k < 65536) :
    eraseSlot slots (next + UInt16.ofNat k) = slots := by
  refine List.filter_eq_self.2 fun slot hmem => ?_
  obtain ⟨i, hi, hnumber⟩ := exists_distance h hmem
  have hne : slot.sequenceNumber ≠ next + UInt16.ofNat k := by
    intro heq
    have := add_ofNat_inj (lt_trans (lt_of_lt_of_le hi hlen) hk) hk (hnumber.symm.trans heq)
    omega
  exact decide_eq_true hne

theorem eraseSlot_cons (h : Consecutive next (slot :: slots)) (hlen : slots.length < 65535) :
    eraseSlot (slot :: slots) next = slots := by
  have hfront : ¬ slot.sequenceNumber ≠ next := not_not_intro h.1
  have hnext : next = next + 1 + UInt16.ofNat 65535 := by
    rw [UInt16.add_assoc, show (1 : UInt16) + UInt16.ofNat 65535 = 0 by decide, UInt16.add_zero]
  have hrest : eraseSlot slots next = slots := by
    rw [hnext]
    exact eraseSlot_of_consecutive h.2 hlen.le (by decide)
  rw [eraseSlot, List.filter_cons_of_neg (by simpa using h.1)]
  exact hrest

/-- A number that is up to 64 ahead is not late. -/
theorem sequenceBefore_add {k : ℕ} (hk : k < 64) : sequenceBefore (next + UInt16.ofNat k) next = false := by
  have hall : ∀ k : Fin 64, ¬ (UInt16.ofNat k).toInt16 < 0 := by decide
  have hdiff : next + UInt16.ofNat k - next = UInt16.ofNat k := by
    rw [UInt16.add_comm, UInt16.add_sub_cancel]
  rw [sequenceBefore, hdiff]
  exact decide_eq_false (hall ⟨k, hk⟩)

namespace VoipJitterBuffer

variable {D : Smoothing} {b : VoipJitterBuffer D} {sequenceNumber : UInt16} {timestamp : UInt32} {payload : Bytes}
  {arrivalMonotonicMs nowMonotonicMs : ℤ}

theorem trimOverflow_of_le (h : b.slots.length ≤ kMaxBufferedPackets) : b.trimOverflow = b := by
  have hexcess : b.slots.length - kMaxBufferedPackets = 0 := Nat.sub_eq_zero_of_le h
  unfold trimOverflow
  simp [hexcess]

section Store

variable (b) (slot : Slot) (arrivalMonotonicMs : ℤ)

@[simp] theorem store_slots : (b.store slot arrivalMonotonicMs).slots = assignSlot b.slots slot := by
  unfold store start recalculateTarget
  split <;> dsimp only <;> split <;> rfl

@[simp] theorem store_started : (b.store slot arrivalMonotonicMs).started = true := by
  unfold store start recalculateTarget
  split <;> dsimp only <;> split
  · assumption
  · rfl
  · assumption
  · rfl

@[simp] theorem store_frameMs : (b.store slot arrivalMonotonicMs).frameMs = b.frameMs := by
  unfold store start recalculateTarget
  split <;> dsimp only <;> split <;> rfl

@[simp] theorem store_lateDrops : (b.store slot arrivalMonotonicMs).stats.lateDrops = b.stats.lateDrops := by
  unfold store start recalculateTarget
  split <;> dsimp only <;> split <;> rfl

@[simp] theorem store_packetsLost : (b.store slot arrivalMonotonicMs).stats.packetsLost = b.stats.packetsLost := by
  unfold store start recalculateTarget
  split <;> dsimp only <;> split <;> rfl

theorem store_nextSequence :
    (b.store slot arrivalMonotonicMs).nextSequence = if b.started then b.nextSequence else slot.sequenceNumber := by
  unfold store start recalculateTarget
  by_cases hstarted : b.started = true <;> split <;> simp [hstarted]

theorem store_playoutIndex :
    (b.store slot arrivalMonotonicMs).playoutIndex = if b.started then b.playoutIndex else 0 := by
  unfold store start recalculateTarget
  by_cases hstarted : b.started = true <;> split <;> simp [hstarted]

end Store

theorem insert_of_in_time (timestamp : UInt32) (arrivalMonotonicMs : ℤ) (hpayload : payload ≠ [])
    (hlate : (b.started && b.isLate sequenceNumber) = false)
    (hroom : (assignSlot b.slots ⟨sequenceNumber, timestamp, payload⟩).length ≤ kMaxBufferedPackets) :
    ∃ stats : VoipJitterStats, stats.lateDrops = b.stats.lateDrops ∧ stats.packetsLost = b.stats.packetsLost ∧
      b.insert sequenceNumber timestamp payload arrivalMonotonicMs
        = .ok { b.store ⟨sequenceNumber, timestamp, payload⟩ arrivalMonotonicMs with stats := stats } := by
  set stored := b.store ⟨sequenceNumber, timestamp, payload⟩ arrivalMonotonicMs with hstored
  have htrim : stored.trimOverflow = stored := trimOverflow_of_le (by rwa [hstored, store_slots])
  refine ⟨{ stored.stats with targetMs := stored.targetMs, depthPackets := stored.slots.length },
    store_lateDrops b _ _, store_packetsLost b _ _, ?_⟩
  unfold insert
  rw [if_neg hpayload, if_neg (by rw [hlate]; decide)]
  simp only [← hstored, htrim]

/-- The packet behind the last one that waits. -/
structure Queued (b b' : VoipJitterBuffer D) (slot : Slot) : Prop where
  slots_eq : b'.slots = b.slots ++ [slot]
  started : b'.started = true
  frameMs_eq : b'.frameMs = b.frameMs
  lateDrops_eq : b'.stats.lateDrops = b.stats.lateDrops
  packetsLost_eq : b'.stats.packetsLost = b.stats.packetsLost
  nextSequence_eq : b'.nextSequence = if b.started then b.nextSequence else slot.sequenceNumber
  playoutIndex_eq : b'.playoutIndex = if b.started then b.playoutIndex else 0

theorem insert_queued (hpayload : payload ≠ []) (hlate : (b.started && b.isLate sequenceNumber) = false)
    (herase : eraseSlot b.slots sequenceNumber = b.slots) (hlen : b.slots.length < kMaxBufferedPackets) :
    ∃ b', b.insert sequenceNumber timestamp payload arrivalMonotonicMs = .ok b' ∧
      Queued b b' ⟨sequenceNumber, timestamp, payload⟩ := by
  have hassign : assignSlot b.slots ⟨sequenceNumber, timestamp, payload⟩
      = b.slots ++ [⟨sequenceNumber, timestamp, payload⟩] := by
    rw [assignSlot, herase]
  obtain ⟨stats, hdrops, hlost, hinsert⟩ := insert_of_in_time timestamp arrivalMonotonicMs hpayload hlate (by
    rw [hassign, List.length_append]
    exact hlen)
  refine ⟨_, hinsert, ⟨?_, store_started .., store_frameMs .., hdrops, hlost, store_nextSequence ..,
    store_playoutIndex ..⟩⟩
  exact (store_slots ..).trans hassign

/-- **The next packet is put at the end of the queue.** -/
theorem insert_of_consecutive (timestamp : UInt32) (arrivalMonotonicMs : ℤ) (hpayload : payload ≠ [])
    (hconsecutive : Consecutive b.nextSequence b.slots) (hlen : b.slots.length < kMaxBufferedPackets)
    (hnumber : sequenceNumber = b.nextSequence + UInt16.ofNat b.slots.length) :
    ∃ b', b.insert sequenceNumber timestamp payload arrivalMonotonicMs = .ok b' ∧
      Queued b b' ⟨sequenceNumber, timestamp, payload⟩ := by
  refine insert_queued hpayload ?_ ?_ hlen
  · rw [isLate, hnumber, sequenceBefore_add hlen, Bool.and_false]
  · rw [hnumber]
    exact eraseSlot_of_consecutive hconsecutive le_rfl (lt_trans hlen (by decide))

/-- **The first packet starts the playout.** -/
theorem insert_of_not_started (sequenceNumber : UInt16) (timestamp : UInt32) (arrivalMonotonicMs : ℤ)
    (hpayload : payload ≠ []) (hstarted : b.started = false) (hslots : b.slots = []) :
    ∃ b', b.insert sequenceNumber timestamp payload arrivalMonotonicMs = .ok b' ∧
      Queued b b' ⟨sequenceNumber, timestamp, payload⟩ := by
  refine insert_queued hpayload ?_ ?_ ?_
  · rw [hstarted, Bool.false_and]
  · rw [hslots]
    rfl
  · rw [hslots]
    decide

/-- The frame of a packet. -/
def packetFrame (slot : Slot) : VoipJitterFrame :=
  { ready := true
    hasPacket := true
    sequenceNumber := slot.sequenceNumber
    timestamp := slot.timestamp
    payload := slot.payload }

/-- What a playout that is due leaves behind. -/
structure Advanced (b b' : VoipJitterBuffer D) : Prop where
  started : b'.started = b.started
  frameMs_eq : b'.frameMs = b.frameMs
  firstPlayoutMs_eq : b'.firstPlayoutMs = b.firstPlayoutMs
  nextSequence_eq : b'.nextSequence = b.nextSequence + 1
  playoutIndex_eq : b'.playoutIndex = b.playoutIndex + 1
  lateDrops_eq : b'.stats.lateDrops = b.stats.lateDrops

theorem nextPlayoutFrame_of_not_due (h : b.started = false ∨ nowMonotonicMs < b.due) :
    b.nextPlayoutFrame nowMonotonicMs = ({}, b) := by
  unfold nextPlayoutFrame
  by_cases hstarted : b.started = false
  · rw [if_pos hstarted]
  · rw [if_neg hstarted, if_pos (h.resolve_left hstarted)]

/-- **The packet in front is played.** -/
theorem nextPlayoutFrame_of_consecutive {slot : Slot} {rest : List Slot} (hstarted : b.started = true)
    (hdue : b.due ≤ nowMonotonicMs) (hslots : b.slots = slot :: rest)
    (hconsecutive : Consecutive b.nextSequence b.slots) (hlen : b.slots.length ≤ kMaxBufferedPackets) :
    ∃ b', b.nextPlayoutFrame nowMonotonicMs = (packetFrame slot, b') ∧ Advanced b b' ∧ b'.slots = rest ∧
      b'.stats.packetsLost = b.stats.packetsLost := by
  have hnumber : slot.sequenceNumber = b.nextSequence := by
    rw [hslots] at hconsecutive
    exact hconsecutive.1
  have hfind : b.slots.find? (fun slot => slot.sequenceNumber = b.nextSequence) = some slot := by
    rw [hslots]
    exact List.find?_cons_of_pos (decide_eq_true hnumber)
  have herase : eraseSlot b.slots b.nextSequence = rest := by
    rw [hslots] at hconsecutive hlen ⊢
    have hshort : rest.length + 1 ≤ 64 := hlen
    exact eraseSlot_cons hconsecutive (by omega)
  unfold nextPlayoutFrame
  rw [if_neg (by rw [hstarted]; decide), if_neg (not_lt.2 hdue), hfind]
  simp only [herase]
  refine ⟨_, Prod.ext ?_ rfl, ⟨rfl, rfl, rfl, rfl, rfl, rfl⟩, rfl, rfl⟩
  show _ = packetFrame slot
  rw [packetFrame, hnumber]

/-- **An empty buffer conceals.** -/
theorem nextPlayoutFrame_of_empty (hstarted : b.started = true) (hdue : b.due ≤ nowMonotonicMs)
    (hslots : b.slots = []) :
    ∃ frame b', b.nextPlayoutFrame nowMonotonicMs = (frame, b') ∧ frame.ready = true ∧ frame.plc = true ∧
      frame.hasPacket = false ∧ Advanced b b' ∧ b'.slots = [] ∧ b'.stats.packetsLost = b.stats.packetsLost + 1 := by
  have hfind : b.slots.find? (fun slot => slot.sequenceNumber = b.nextSequence) = none := by rw [hslots, List.find?_nil]
  unfold nextPlayoutFrame
  rw [if_neg (by rw [hstarted]; decide), if_neg (not_lt.2 hdue), hfind]
  exact ⟨_, _, rfl, rfl, rfl, rfl, ⟨rfl, rfl, rfl, rfl, rfl, rfl⟩, hslots, rfl⟩

end VoipJitterBuffer

end VianiumVoip.Relay
