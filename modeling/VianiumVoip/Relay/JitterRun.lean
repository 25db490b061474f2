import VianiumVoip.Lib.Run
import VianiumVoip.Relay.JitterBuffer
import Mathlib.Data.List.Chain
import Mathlib.Data.List.Nodup

/-!
# Runs of the jitter buffer

Any calls of `Insert` and `NextPlayoutFrame`, in any order, since the last `Reset`.  `outcome` is what a caller could
write down of each call, so that what the buffer hands out can be compared with what was put into it.

The numbers in the buffer are those that lie up to 32767 ahead of the next one to be played (`Windowed`); the map of the
code is ordered by the plain number, which is another order as soon as the window lies across the wrap.
-/

namespace VianiumVoip.Relay

open VianiumVoip.Lib VianiumVoip.Engine

/-! ### The slots as a map -/

/-- The keys of the map. -/
def keys (slots : List Slot) : List UInt16 := slots.map Slot.sequenceNumber

@[simp] theorem keys_nil : keys [] = [] := rfl

@[simp] theorem length_keys (slots : List Slot) : (keys slots).length = slots.length := List.length_map ..

theorem mem_keys {slots : List Slot} {q : UInt16} : q ∈ keys slots ↔ ∃ slot ∈ slots, slot.sequenceNumber = q :=
  List.mem_map

theorem keys_eraseSlot (slots : List Slot) (q : UInt16) : keys (eraseSlot slots q) = (keys slots).filter (· ≠ q) := by
  rw [keys, eraseSlot, keys, List.filter_map]
  rfl

theorem keys_assignSlot (slots : List Slot) (slot : Slot) :
    keys (assignSlot slots slot) = (keys slots).filter (· ≠ slot.sequenceNumber) ++ [slot.sequenceNumber] := by
  rw [assignSlot, keys, List.map_append, ← keys, keys_eraseSlot]
  rfl

theorem mem_eraseSlot {slots : List Slot} {slot : Slot} {q : UInt16} :
    slot ∈ eraseSlot slots q ↔ slot ∈ slots ∧ slot.sequenceNumber ≠ q := by
  rw [eraseSlot, List.mem_filter, decide_eq_true_eq]

theorem mem_assignSlot {slots : List Slot} {slot other : Slot} :
    other ∈ assignSlot slots slot ↔
      other ∈ slots ∧ other.sequenceNumber ≠ slot.sequenceNumber ∨ other = slot := by
  rw [assignSlot, List.mem_append, mem_eraseSlot, List.mem_singleton]

theorem nodup_keys_eraseSlot {slots : List Slot} (h : (keys slots).Nodup) (q : UInt16) :
    (keys (eraseSlot slots q)).Nodup := by
  rw [keys_eraseSlot]
  exact h.filter _

theorem nodup_keys_assignSlot {slots : List Slot} (h : (keys slots).Nodup) (slot : Slot) :
    (keys (assignSlot slots slot)).Nodup := by
  rw [keys_assignSlot]
  refine (h.filter _).append (List.nodup_singleton _) fun q hq hsingle => ?_
  rw [List.mem_filter, decide_eq_true_eq] at hq
  exact hq.2 (List.mem_singleton.1 hsingle)

theorem length_eraseSlot {slots : List Slot} {q : UInt16} (h : (keys slots).Nodup) (hq : q ∈ keys slots) :
    (eraseSlot slots q).length + 1 = slots.length := by
  have hone : (keys slots).countP (· = q) = 1 := by
    have hcount : (keys slots).count q = 1 := List.count_eq_one_of_mem h hq
    rw [← hcount, List.count_eq_countP]
    refine List.countP_congr fun other _ => ?_
    simp
  have hsplit := List.length_eq_countP_add_countP (· = q) (l := keys slots)
  rw [← length_keys, keys_eraseSlot, ← List.countP_eq_length_filter, ← length_keys slots, hsplit, hone, Nat.add_comm]
  congr 1
  refine List.countP_congr fun other _ => ?_
  simp

theorem eraseSlot_of_notMem {slots : List Slot} {q : UInt16} (h : q ∉ keys slots) : eraseSlot slots q = slots := by
  refine List.filter_eq_self.2 fun slot hslot => decide_eq_true fun heq => h ?_
  exact mem_keys.2 ⟨slot, hslot, heq⟩

theorem length_assignSlot {slots : List Slot} (h : (keys slots).Nodup) (slot : Slot) :
    (assignSlot slots slot).length + (if slot.sequenceNumber ∈ keys slots then 1 else 0) = slots.length + 1 := by
  rw [assignSlot, List.length_append, List.length_singleton]
  split
  · rename_i hmem
    rw [length_eraseSlot h hmem]
  · rename_i hmem
    rw [eraseSlot_of_notMem hmem]

/-- What `TrimOverflow` takes is the slot with the smallest key. -/
theorem exists_eraseBegin {slots : List Slot} (h : slots ≠ []) :
    ∃ first ∈ keys slots, (∀ q ∈ keys slots, first ≤ q) ∧ eraseBegin slots = eraseSlot slots first := by
  have hne : keys slots ≠ [] := fun hnil => h (List.map_eq_nil_iff.1 hnil)
  obtain ⟨first, hfirst⟩ := Option.isSome_iff_exists.1 (List.isSome_min?_of_ne_nil hne)
  obtain ⟨hmem, hle⟩ := List.min?_eq_some_iff.1 hfirst
  refine ⟨first, hmem, hle, ?_⟩
  unfold eraseBegin
  rw [show (slots.map Slot.sequenceNumber).min? = some first from hfirst]

/-! ### Distances -/

/-- How far `q` lies ahead of `next`, modulo 2^16. -/
def distance (next q : UInt16) : ℕ := (q - next).toNat

/-- **A number is late when it lies 2^15 or more ahead.** -/
theorem sequenceBefore_iff {q next : UInt16} : sequenceBefore q next = true ↔ 32768 ≤ distance next q := by
  have hlt : (q - next).toNat < 65536 := (q - next).toNat_lt
  have hsigned : (q - next).toInt16.toInt = (q - next).toBitVec.toInt := rfl
  rw [sequenceBefore, decide_eq_true_eq, distance, Int16.lt_iff_toInt_lt, hsigned, BitVec.toInt_eq_toNat_cond,
    show Int16.toInt 0 = 0 from rfl, UInt16.toNat_toBitVec]
  split <;> omega

theorem distance_self (next : UInt16) : distance next next = 0 := by
  rw [distance, UInt16.sub_self]
  rfl

theorem distance_eq_zero {next q : UInt16} (h : distance next q = 0) : q = next := by
  have hzero : q - next = 0 := UInt16.toNat_inj.1 h
  have hsum := congrArg (· + next) hzero
  simpa only [UInt16.sub_add_cancel, UInt16.zero_add] using hsum

theorem distance_succ {next q : UInt16} (h : q ≠ next) : distance (next + 1) q + 1 = distance next q := by
  have hpos : distance next q ≠ 0 := fun h0 => h (distance_eq_zero h0)
  have hlt : (q - next).toNat < 65536 := (q - next).toNat_lt
  have hsub : q - (next + 1) = q - next - 1 := by
    rw [UInt16.sub_eq_add_neg, UInt16.neg_add, UInt16.sub_eq_add_neg (q - next), UInt16.sub_eq_add_neg q]
    rw [UInt16.sub_eq_add_neg, UInt16.add_assoc]
  unfold distance at hpos ⊢
  rw [hsub, UInt16.toNat_sub_of_le]
  · show (q - next).toNat - 1 + 1 = _
    omega
  · rw [UInt16.le_iff_toNat_le]
    show 1 ≤ _
    omega

/-! ### Calls -/

variable {D : Smoothing}

inductive JitterCall where
  | insert (sequenceNumber : UInt16) (timestamp : UInt32) (payload : Bytes) (arrivalMonotonicMs : ℤ)
  | nextPlayoutFrame (nowMonotonicMs : ℤ)

/-- What a call did. -/
inductive Outcome where
  /-- The insert was answered with an error. -/
  | refused
  /-- The insert was answered with `Ok`, and the packet dropped as late. -/
  | late
  /-- The packet was accepted.  `overwrote`: a packet with its number waited; `evicted`: the numbers that were in the
  buffer with the new packet and are not when the call returns. -/
  | stored (slot : Slot) (overwrote : Bool) (evicted : List UInt16)
  | frame (frame : VoipJitterFrame)

namespace VoipJitterBuffer

/-- The buffer that a call leaves. -/
def step (b : VoipJitterBuffer D) : JitterCall → VoipJitterBuffer D
  | .insert sequenceNumber timestamp payload arrivalMonotonicMs =>
    match b.insert sequenceNumber timestamp payload arrivalMonotonicMs with
    | .error _ => b
    | .ok b' => b'
  | .nextPlayoutFrame nowMonotonicMs => (b.nextPlayoutFrame nowMonotonicMs).2

def outcome (b : VoipJitterBuffer D) : JitterCall → Outcome
  | .insert sequenceNumber timestamp payload arrivalMonotonicMs =>
    match b.insert sequenceNumber timestamp payload arrivalMonotonicMs with
    | .error _ => .refused
    | .ok b' =>
      if b.started && b.isLate sequenceNumber then .late
      else
        let slot : Slot := { sequenceNumber := sequenceNumber, timestamp := timestamp, payload := payload }
        .stored slot (decide (sequenceNumber ∈ keys b.slots))
          ((keys (assignSlot b.slots slot)).filter fun q => q ∉ keys b'.slots)
  | .nextPlayoutFrame nowMonotonicMs => .frame (b.nextPlayoutFrame nowMonotonicMs).1

/-- The buffer after a run of calls. -/
abbrev run (b : VoipJitterBuffer D) (calls : List JitterCall) : VoipJitterBuffer D := Run.run step b calls

/-- What the calls of a run did, one outcome for each. -/
abbrev outcomes (b : VoipJitterBuffer D) (calls : List JitterCall) : List Outcome :=
  Run.history step (fun b call => some (b.outcome call)) b calls

theorem insert_eq_step (b : VoipJitterBuffer D) (sequenceNumber : UInt16) (timestamp : UInt32) {payload : Bytes}
    (arrivalMonotonicMs : ℤ) (hpayload : payload ≠ []) :
    b.insert sequenceNumber timestamp payload arrivalMonotonicMs
      = .ok (b.step (.insert sequenceNumber timestamp payload arrivalMonotonicMs)) := by
  unfold step insert
  dsimp only
  rw [if_neg hpayload]
  split <;> rfl

/-! ### What a call can do -/

/-- The numbers lie in the window ahead of the next one to be played, each once. -/
structure Windowed (b : VoipJitterBuffer D) : Prop where
  ahead : ∀ q ∈ keys b.slots, distance b.nextSequence q ≤ 32767
  nodup : (keys b.slots).Nodup
  room : b.slots.length ≤ kMaxBufferedPackets
  not_started : b.started = false → b.slots = []

/-- The packet of the slot was accepted. -/
structure Accepted (b b' : VoipJitterBuffer D) (slot : Slot) (evicted : List UInt16) : Prop where
  in_time : b.started = true → distance b.nextSequence slot.sequenceNumber ≤ 32767
  started : b'.started = true
  frameMs_eq : b'.frameMs = b.frameMs
  nextSequence_eq : b'.nextSequence = if b.started then b.nextSequence else slot.sequenceNumber
  playoutIndex_eq : b'.playoutIndex = if b.started then b.playoutIndex else 0
  firstPlayoutMs_eq : b.started = true → b'.firstPlayoutMs = b.firstPlayoutMs
  /-- The slot with the smallest key goes when there are too many. -/
  trimmed : (assignSlot b.slots slot).length ≤ kMaxBufferedPackets ∧ evicted = [] ∧ b'.slots = assignSlot b.slots slot ∨
    kMaxBufferedPackets < (assignSlot b.slots slot).length ∧ ∃ first ∈ keys (assignSlot b.slots slot),
      (∀ q ∈ keys (assignSlot b.slots slot), first ≤ q) ∧ evicted = [first] ∧
        b'.slots = eraseSlot (assignSlot b.slots slot) first
  packetsInserted_eq : b'.stats.packetsInserted = b.stats.packetsInserted + 1
  packetsPlayed_eq : b'.stats.packetsPlayed = b.stats.packetsPlayed
  packetsLost_eq : b'.stats.packetsLost = b.stats.packetsLost
  lateDrops_eq : b'.stats.lateDrops = b.stats.lateDrops + UInt32.ofNat evicted.length

/-- What a call of a buffer in the window can do, with the state that it leaves. -/
inductive Does (b b' : VoipJitterBuffer D) : Outcome → Prop where
  | refused (same : b' = b) : Does b b' .refused
  | late (started : b.started = true)
      (drop : b' = { b with
        stats := { b.stats with lateDrops := b.stats.lateDrops + 1, depthPackets := b.slots.length } }) :
      Does b b' .late
  | stored (slot : Slot) (evicted : List UInt16) (accepted : Accepted b b' slot evicted) :
      Does b b' (.stored slot (decide (slot.sequenceNumber ∈ keys b.slots)) evicted)
  | waited (same : b' = b) : Does b b' (.frame {})
  | played (slot : Slot) (mem : slot ∈ b.slots) (number : slot.sequenceNumber = b.nextSequence)
      (started : b.started = true) (advanced : Advanced b b') (slots_eq : b'.slots = eraseSlot b.slots b.nextSequence)
      (stats : b'.stats.packetsInserted = b.stats.packetsInserted ∧
        b'.stats.packetsPlayed = b.stats.packetsPlayed + 1 ∧ b'.stats.packetsLost = b.stats.packetsLost) :
      Does b b' (.frame (packetFrame slot))
  | concealed (timestamp : UInt32) (missing : b.nextSequence ∉ keys b.slots)
      (started : b.started = true) (advanced : Advanced b b') (slots_eq : b'.slots = b.slots)
      (stats : b'.stats.packetsInserted = b.stats.packetsInserted ∧
        b'.stats.packetsPlayed = b.stats.packetsPlayed ∧ b'.stats.packetsLost = b.stats.packetsLost + 1) :
      Does b b' (.frame { ready := true, plc := true, sequenceNumber := b.nextSequence, timestamp := timestamp })

variable {b b' : VoipJitterBuffer D} {sequenceNumber : UInt16} {timestamp : UInt32} {payload : Bytes}
  {arrivalMonotonicMs nowMonotonicMs : ℤ}

@[simp] theorem store_packetsPlayed (slot : Slot) :
    (b.store slot arrivalMonotonicMs).stats.packetsPlayed = b.stats.packetsPlayed := by
  unfold store start recalculateTarget
  split <;> dsimp only <;> split <;> rfl

@[simp] theorem store_packetsInserted (slot : Slot) :
    (b.store slot arrivalMonotonicMs).stats.packetsInserted = b.stats.packetsInserted + 1 := by
  unfold store start recalculateTarget
  split <;> dsimp only <;> split <;> rfl

theorem store_firstPlayoutMs (slot : Slot) (hstarted : b.started = true) :
    (b.store slot arrivalMonotonicMs).firstPlayoutMs = b.firstPlayoutMs := by
  unfold store start recalculateTarget
  split <;> simp [hstarted]

/-- One packet too many at most: the loop of `TrimOverflow` runs once or not at all. -/
theorem trimOverflow_of_lt (h : kMaxBufferedPackets < b.slots.length) (hone : b.slots.length ≤ kMaxBufferedPackets + 1) :
    b.trimOverflow = { b with
      slots := eraseBegin b.slots
      stats := { b.stats with lateDrops := b.stats.lateDrops + 1 } } := by
  have hexcess : b.slots.length - kMaxBufferedPackets = 1 := by omega
  unfold trimOverflow
  rw [hexcess]
  rfl

theorem length_assignSlot_le (h : b.Windowed) (slot : Slot) :
    (assignSlot b.slots slot).length ≤ kMaxBufferedPackets + 1 := by
  have hlen := length_assignSlot h.nodup slot
  have := h.room
  omega

theorem evicted_eq (slots : List Slot) {first : UInt16} (h : (keys slots).Nodup) (hfirst : first ∈ keys slots) :
    (keys slots).filter (fun q => q ∉ keys (eraseSlot slots first)) = [first] := by
  have hfilter : (keys slots).filter (fun q => q ∉ keys (eraseSlot slots first)) = (keys slots).filter (· = first) := by
    refine List.filter_congr fun q hq => ?_
    simp [keys_eraseSlot, hq]
  have hone : (keys slots).count first = 1 := List.count_eq_one_of_mem h hfirst
  rw [hfilter, List.filter_eq, hone]
  rfl

/-- **An accepted packet.** -/
theorem insert_accepted (timestamp : UInt32) (arrivalMonotonicMs : ℤ) (h : b.Windowed) (hpayload : payload ≠ [])
    (hlate : (b.started && b.isLate sequenceNumber) = false) :
    ∃ b' evicted, b.insert sequenceNumber timestamp payload arrivalMonotonicMs = .ok b' ∧
      Accepted b b' ⟨sequenceNumber, timestamp, payload⟩ evicted ∧
      (keys (assignSlot b.slots ⟨sequenceNumber, timestamp, payload⟩)).filter (fun q => q ∉ keys b'.slots)
        = evicted := by
  set slot : Slot := ⟨sequenceNumber, timestamp, payload⟩ with hslot
  set stored := b.store slot arrivalMonotonicMs with hstored
  have hslots : stored.slots = assignSlot b.slots slot := store_slots ..
  have hnodup := nodup_keys_assignSlot h.nodup slot
  have hin : b.started = true → distance b.nextSequence slot.sequenceNumber ≤ 32767 := by
    intro hstarted
    rw [hstarted, Bool.true_and] at hlate
    have hnot : ¬ 32768 ≤ distance b.nextSequence sequenceNumber := fun hfar => by
      rw [isLate, sequenceBefore_iff.2 hfar] at hlate
      cases hlate
    show distance b.nextSequence sequenceNumber ≤ 32767
    omega
  have hinsert : b.insert sequenceNumber timestamp payload arrivalMonotonicMs
      = .ok { stored.trimOverflow with
          stats := { stored.trimOverflow.stats with
            targetMs := stored.trimOverflow.targetMs
            depthPackets := stored.trimOverflow.slots.length } } := by
    unfold insert
    rw [if_neg hpayload, if_neg (by rw [hlate]; decide)]
  rcases Nat.lt_or_ge kMaxBufferedPackets (assignSlot b.slots slot).length with hmany | hroom
  · have hne : assignSlot b.slots slot ≠ [] := fun hnil => by
      rw [hnil] at hmany
      cases hmany
    obtain ⟨first, hfirst, hle, herase⟩ := exists_eraseBegin hne
    have htrim := trimOverflow_of_lt (b := stored) (by rwa [hslots]) (by
      rw [hslots]
      exact length_assignSlot_le h slot)
    rw [hslots, herase] at htrim
    rw [htrim] at hinsert
    refine ⟨_, [first], hinsert, ⟨hin, store_started .., store_frameMs .., store_nextSequence .., store_playoutIndex ..,
      store_firstPlayoutMs slot, .inr ⟨hmany, first, hfirst, hle, rfl, rfl⟩, store_packetsInserted .., store_packetsPlayed ..,
      store_packetsLost .., ?_⟩, evicted_eq _ hnodup hfirst⟩
    exact congrArg (· + 1) (store_lateDrops b slot arrivalMonotonicMs)
  · have htrim : stored.trimOverflow = stored := trimOverflow_of_le (by rwa [hslots])
    rw [htrim] at hinsert
    refine ⟨_, [], hinsert, ⟨hin, store_started .., store_frameMs .., store_nextSequence .., store_playoutIndex ..,
      store_firstPlayoutMs slot, .inl ⟨hroom, rfl, hslots⟩, store_packetsInserted .., store_packetsPlayed .., store_packetsLost .., ?_⟩, ?_⟩
    · exact (store_lateDrops b slot arrivalMonotonicMs).trans (UInt32.add_zero _).symm
    · refine List.filter_eq_nil_iff.2 fun q hq => ?_
      simpa [hslots] using hq

theorem does_nextPlayoutFrame (b : VoipJitterBuffer D) (nowMonotonicMs : ℤ) :
    Does b (b.nextPlayoutFrame nowMonotonicMs).2 (.frame (b.nextPlayoutFrame nowMonotonicMs).1) := by
  by_cases hnot : b.started = false ∨ nowMonotonicMs < b.due
  · rw [nextPlayoutFrame_of_not_due hnot]
    exact .waited rfl
  have hstarted : b.started = true := Bool.eq_true_of_not_eq_false fun hf => hnot (.inl hf)
  unfold nextPlayoutFrame
  rw [if_neg (by rw [hstarted]; decide), if_neg fun hlt => hnot (.inr hlt)]
  cases hfind : b.slots.find? fun slot => slot.sequenceNumber = b.nextSequence with
  | some slot =>
    have hfound := List.find?_some hfind
    have hnumber : slot.sequenceNumber = b.nextSequence := of_decide_eq_true hfound
    set b' := advance { b with
      slots := eraseSlot b.slots b.nextSequence
      stats := { b.stats with packetsPlayed := b.stats.packetsPlayed + 1 } }
    have hplayed : Does b b' (.frame (packetFrame slot)) :=
      .played slot (List.mem_of_find?_eq_some hfind) hnumber hstarted ⟨rfl, rfl, rfl, rfl, rfl, rfl⟩ rfl ⟨rfl, rfl, rfl⟩
    rwa [packetFrame, hnumber] at hplayed
  | none =>
    refine .concealed b.nextTimestamp (fun hmem => ?_) hstarted ⟨rfl, rfl, rfl, rfl, rfl, rfl⟩ rfl ⟨rfl, rfl, rfl⟩
    obtain ⟨slot, hslot, hnumber⟩ := mem_keys.1 hmem
    exact List.find?_eq_none.1 hfind slot hslot (decide_eq_true hnumber)

/-- **What a call can do.** -/
theorem does_step (h : b.Windowed) (call : JitterCall) : Does b (b.step call) (b.outcome call) := by
  cases call with
  | insert sequenceNumber timestamp payload arrivalMonotonicMs =>
    unfold step outcome
    dsimp only
    by_cases hpayload : payload = []
    · have hrefused : b.insert sequenceNumber timestamp payload arrivalMonotonicMs
          = .error (invalid "jitter buffer payload is empty") := if_pos hpayload
      rw [hrefused]
      exact .refused rfl
    by_cases hlate : (b.started && b.isLate sequenceNumber) = true
    · have hdrop : b.insert sequenceNumber timestamp payload arrivalMonotonicMs = .ok { b with
          stats := { b.stats with lateDrops := b.stats.lateDrops + 1, depthPackets := b.slots.length } } := by
        unfold insert
        rw [if_neg hpayload, if_pos hlate]
      rw [hdrop]
      dsimp only
      rw [if_pos hlate]
      exact .late (Bool.and_eq_true_iff.1 hlate).1 rfl
    · obtain ⟨b', evicted, hinsert, haccepted, hevicted⟩ :=
        insert_accepted timestamp arrivalMonotonicMs h hpayload (Bool.eq_false_of_not_eq_true hlate)
      rw [hinsert]
      dsimp only
      rw [if_neg hlate, hevicted]
      exact .stored _ evicted haccepted
  | nextPlayoutFrame nowMonotonicMs => exact does_nextPlayoutFrame b nowMonotonicMs

/-! ### The window -/

theorem windowed_reset (b : VoipJitterBuffer D) : b.reset.Windowed where
  ahead := fun _ hq => absurd hq List.not_mem_nil
  nodup := List.nodup_nil
  room := Nat.zero_le _
  not_started := fun _ => rfl

theorem Accepted.mem_keys_of_mem {slot : Slot} {evicted : List UInt16} (h : Accepted b b' slot evicted) {other : Slot}
    (hmem : other ∈ b'.slots) : other ∈ assignSlot b.slots slot ∧ other.sequenceNumber ∉ evicted := by
  rcases h.trimmed with ⟨_, hnone, heq⟩ | ⟨_, first, _, _, hone, heq⟩
  · rw [hnone]
    exact ⟨heq ▸ hmem, List.not_mem_nil⟩
  · rw [heq, mem_eraseSlot] at hmem
    rw [hone, List.mem_singleton]
    exact hmem

theorem Accepted.length_add {slot : Slot} {evicted : List UInt16} (h : Accepted b b' slot evicted) (hw : b.Windowed) :
    b'.slots.length + evicted.length = (assignSlot b.slots slot).length := by
  rcases h.trimmed with ⟨_, hnone, heq⟩ | ⟨_, first, hmem, _, hone, heq⟩
  · rw [hnone, heq]
    rfl
  · rw [hone, heq]
    exact length_eraseSlot (nodup_keys_assignSlot hw.nodup slot) hmem

theorem Accepted.windowed {slot : Slot} {evicted : List UInt16} (h : Accepted b b' slot evicted) (hw : b.Windowed) :
    b'.Windowed where
  ahead := by
    intro q hq
    obtain ⟨other, hother, rfl⟩ := mem_keys.1 hq
    rw [h.nextSequence_eq]
    have hassign := (h.mem_keys_of_mem hother).1
    cases hstarted : b.started with
    | false =>
      -- the first packet is the next one
      rw [hw.not_started hstarted] at hassign
      have heq : other = slot := List.mem_singleton.1 hassign
      rw [heq, if_neg (by decide), distance_self]
      exact Nat.zero_le _
    | true =>
      rw [if_pos rfl]
      rcases mem_assignSlot.1 hassign with ⟨hmem, _⟩ | rfl
      · exact hw.ahead _ (mem_keys.2 ⟨other, hmem, rfl⟩)
      · exact h.in_time hstarted
  nodup := by
    have hnodup := nodup_keys_assignSlot hw.nodup slot
    rcases h.trimmed with ⟨_, _, heq⟩ | ⟨_, first, _, _, _, heq⟩
    · rwa [heq]
    · rw [heq]
      exact nodup_keys_eraseSlot hnodup first
  room := by
    have hlen := h.length_add hw
    have hassign := length_assignSlot_le hw slot
    rcases h.trimmed with ⟨hroom, _, heq⟩ | ⟨_, first, _, _, hone, _⟩
    · rwa [heq]
    · rw [hone, List.length_singleton] at hlen
      omega
  not_started := by
    intro hnot
    rw [h.started] at hnot
    cases hnot

theorem Windowed.advance (hw : b.Windowed) (hadvanced : Advanced b b') (hstarted : b.started = true)
    (hslots : ∀ slot, slot ∈ b'.slots → slot ∈ b.slots ∧ slot.sequenceNumber ≠ b.nextSequence)
    (hnodup : (keys b'.slots).Nodup) (hroom : b'.slots.length ≤ kMaxBufferedPackets) : b'.Windowed where
  ahead := by
    intro q hq
    obtain ⟨slot, hslot, rfl⟩ := mem_keys.1 hq
    obtain ⟨hmem, hne⟩ := hslots slot hslot
    have hfar := hw.ahead _ (mem_keys.2 ⟨slot, hmem, rfl⟩)
    have hnear := distance_succ hne
    rw [hadvanced.nextSequence_eq]
    omega
  nodup := hnodup
  room := hroom
  not_started := by
    intro hnot
    rw [hadvanced.started, hstarted] at hnot
    cases hnot

/-- **Every call keeps the window.** -/
theorem Does.windowed {o : Outcome} (h : Does b b' o) (hw : b.Windowed) : b'.Windowed := by
  cases h with
  | refused same => exact same ▸ hw
  | late started drop =>
    rw [drop]
    exact ⟨hw.ahead, hw.nodup, hw.room, hw.not_started⟩
  | stored slot evicted accepted => exact accepted.windowed hw
  | waited same => exact same ▸ hw
  | played slot mem number started advanced slots_eq stats =>
    refine hw.advance advanced started (fun other hother => ?_) ?_ ?_
    · rw [slots_eq] at hother
      exact mem_eraseSlot.1 hother
    · rw [slots_eq]
      exact nodup_keys_eraseSlot hw.nodup _
    · rw [slots_eq]
      exact (List.length_filter_le ..).trans hw.room
  | concealed timestamp missing started advanced slots_eq stats =>
    refine hw.advance advanced started (fun other hother => ?_) ?_ ?_
    · rw [slots_eq] at hother
      exact ⟨hother, fun heq => missing (mem_keys.2 ⟨other, hother, heq⟩)⟩
    · rw [slots_eq]
      exact hw.nodup
    · rw [slots_eq]
      exact hw.room

theorem windowed_run (b : VoipJitterBuffer D) (calls : List JitterCall) : (b.reset.run calls).Windowed :=
  Run.invariant_run_of_step (I := Windowed) (fun _ call hw => (does_step hw call).windowed hw) calls (windowed_reset b)

end VoipJitterBuffer

/-! ### Which insert a frame comes from -/

/-- The call put a packet under the number `q` or took one from it. -/
def Outcome.Touches (q : UInt16) : Outcome → Prop
  | .stored slot _ evicted => slot.sequenceNumber = q ∨ q ∈ evicted
  | .frame shown => shown.hasPacket = true ∧ shown.sequenceNumber = q
  | _ => False

/-- The call `i` is the latest accepted insert for the number of `slot`, and its packet was neither played nor evicted
since. -/
structure Waiting (log : List Outcome) (i : ℕ) (slot : Slot) : Prop where
  stored : ∃ overwrote evicted, log[i]? = some (.stored slot overwrote evicted) ∧ slot.sequenceNumber ∉ evicted
  untouched : ∀ j o, i < j → log[j]? = some o → ¬ o.Touches slot.sequenceNumber

variable {log : List Outcome} {o : Outcome} {slot : Slot} {i : ℕ}

theorem Waiting.lt_length (h : Waiting log i slot) : i < log.length := by
  obtain ⟨overwrote, evicted, hi, _⟩ := h.stored
  exact (List.getElem?_eq_some_iff.1 hi).1

theorem Waiting.concat (h : Waiting log i slot) (ho : ¬ o.Touches slot.sequenceNumber) :
    Waiting (log ++ [o]) i slot where
  stored := by
    obtain ⟨overwrote, evicted, hi, hkept⟩ := h.stored
    exact ⟨overwrote, evicted, by rw [List.getElem?_append_left h.lt_length, hi], hkept⟩
  untouched := by
    intro j p hij hj
    rcases lt_trichotomy j log.length with hlt | rfl | hgt
    · rw [List.getElem?_append_left hlt] at hj
      exact h.untouched j p hij hj
    · rw [List.getElem?_concat_length, Option.some.injEq] at hj
      rwa [← hj]
    · rw [List.getElem?_eq_none (by rw [List.length_append]; exact hgt)] at hj
      cases hj

theorem waiting_concat_stored {overwrote : Bool} {evicted : List UInt16} (hkept : slot.sequenceNumber ∉ evicted) :
    Waiting (log ++ [.stored slot overwrote evicted]) log.length slot where
  stored := ⟨overwrote, evicted, List.getElem?_concat_length .., hkept⟩
  untouched := by
    intro j p hj hp
    rw [List.getElem?_eq_none (by rw [List.length_append]; exact hj)] at hp
    cases hp

/-- **No insert is played twice.**  A frame with the packet of an insert ends the waiting of that insert. -/
theorem Waiting.le_of_played {k k' : ℕ} {frame : VoipJitterFrame} {slot' : Slot} (h : Waiting (log.take k) i slot)
    (hk : log[k]? = some (.frame frame)) (hpacket : frame.hasPacket = true)
    (hnumber : frame.sequenceNumber = slot.sequenceNumber) (h' : Waiting (log.take k') i slot') : k' ≤ k := by
  by_contra hnot
  have hlt : k < k' := Nat.lt_of_not_le hnot
  have hik : i < k := lt_of_lt_of_le h.lt_length (List.length_take_le ..)
  obtain ⟨overwrote, evicted, hi, _⟩ := h.stored
  obtain ⟨overwrote', evicted', hi', _⟩ := h'.stored
  rw [List.getElem?_take_of_lt hik] at hi
  rw [List.getElem?_take_of_lt (hik.trans hlt), hi] at hi'
  cases hi'
  refine h'.untouched k (.frame frame) hik ?_ ⟨hpacket, hnumber⟩
  rw [List.getElem?_take_of_lt hlt, hk]

/-! ### The invariant of a run -/

def Outcome.readyFrame : Outcome → Option VoipJitterFrame
  | .frame shown => if shown.ready then some shown else none
  | _ => none

/-- The frames that were handed out ready, in order. -/
def readyFrames (log : List Outcome) : List VoipJitterFrame := log.filterMap Outcome.readyFrame

theorem readyFrames_concat (log : List Outcome) (o : Outcome) :
    readyFrames (log ++ [o]) = readyFrames log ++ o.readyFrame.toList := by
  rw [readyFrames, List.filterMap_append, readyFrames]
  cases h : o.readyFrame <;> simp [h]

namespace VoipJitterBuffer

variable {D : Smoothing} {b b' : VoipJitterBuffer D}

/-- Every packet in the buffer and every frame with a packet comes from an insert, and the frames are in order. -/
structure Explained (b : VoipJitterBuffer D) (log : List Outcome) : Prop where
  windowed : b.Windowed
  waiting : ∀ slot ∈ b.slots, ∃ i, Waiting log i slot
  played : ∀ (k : ℕ) frame, log[k]? = some (.frame frame) → frame.hasPacket = true →
    ∃ i slot, Waiting (log.take k) i slot ∧ frame = packetFrame slot
  consecutive : (readyFrames log).IsChain fun f g => g.sequenceNumber = f.sequenceNumber + 1
  next : ∀ f ∈ (readyFrames log).getLast?, b.started = true ∧ b.nextSequence = f.sequenceNumber + 1

theorem explained_reset (b : VoipJitterBuffer D) : b.reset.Explained [] where
  windowed := windowed_reset b
  waiting := fun _ hslot => absurd hslot List.not_mem_nil
  played := fun _ _ hk => by cases hk
  consecutive := List.isChain_nil
  next := fun _ hf => by cases hf

theorem Does.waiting (h : Does b b' o) (hlog : ∀ slot ∈ b.slots, ∃ i, Waiting log i slot) :
    ∀ slot ∈ b'.slots, ∃ i, Waiting (log ++ [o]) i slot := by
  intro slot hslot
  cases h with
  | refused same =>
    obtain ⟨i, hi⟩ := hlog slot (same ▸ hslot)
    exact ⟨i, hi.concat fun h => h⟩
  | late started drop =>
    rw [drop] at hslot
    obtain ⟨i, hi⟩ := hlog slot hslot
    exact ⟨i, hi.concat fun h => h⟩
  | stored new evicted accepted =>
    obtain ⟨hassign, hkept⟩ := accepted.mem_keys_of_mem hslot
    rcases mem_assignSlot.1 hassign with ⟨hmem, hne⟩ | rfl
    · obtain ⟨i, hi⟩ := hlog slot hmem
      exact ⟨i, hi.concat fun h => h.elim (fun heq => hne heq.symm) hkept⟩
    · exact ⟨log.length, waiting_concat_stored hkept⟩
  | waited same =>
    obtain ⟨i, hi⟩ := hlog slot (same ▸ hslot)
    exact ⟨i, hi.concat fun h => by cases h.1⟩
  | played shown mem number started advanced slots_eq stats =>
    rw [slots_eq] at hslot
    obtain ⟨hmem, hne⟩ := mem_eraseSlot.1 hslot
    obtain ⟨i, hi⟩ := hlog slot hmem
    refine ⟨i, hi.concat fun h => hne ?_⟩
    rw [← number]
    exact h.2.symm
  | concealed timestamp missing started advanced slots_eq stats =>
    obtain ⟨i, hi⟩ := hlog slot (slots_eq ▸ hslot)
    exact ⟨i, hi.concat fun h => by cases h.1⟩

theorem Does.frame_eq {frame : VoipJitterFrame} (h : Does b b' (.frame frame)) (hpacket : frame.hasPacket = true) :
    ∃ slot ∈ b.slots, frame = packetFrame slot := by
  cases h with
  | waited same => cases hpacket
  | played slot mem number started advanced slots_eq stats => exact ⟨slot, mem, rfl⟩
  | concealed timestamp missing started advanced slots_eq stats => cases hpacket

/-- A ready frame has the next number, and the playout goes on by one. -/
theorem Does.ready_cases (h : Does b b' o) :
    o.readyFrame = none ∧ (b.started = true → b'.started = true ∧ b'.nextSequence = b.nextSequence) ∨
      ∃ f, o.readyFrame = some f ∧ b.started = true ∧ f.sequenceNumber = b.nextSequence ∧ Advanced b b' := by
  cases h with
  | refused same => exact .inl ⟨rfl, fun hs => by rw [same]; exact ⟨hs, rfl⟩⟩
  | late started drop => exact .inl ⟨rfl, fun hs => by rw [drop]; exact ⟨hs, rfl⟩⟩
  | stored slot evicted accepted =>
    exact .inl ⟨rfl, fun hs => ⟨accepted.started, by rw [accepted.nextSequence_eq, if_pos hs]⟩⟩
  | waited same => exact .inl ⟨rfl, fun hs => by rw [same]; exact ⟨hs, rfl⟩⟩
  | played slot mem number started advanced slots_eq stats => exact .inr ⟨_, rfl, started, number, advanced⟩
  | concealed timestamp missing started advanced slots_eq stats => exact .inr ⟨_, rfl, started, rfl, advanced⟩

/-- **Every call keeps what is known of the buffer and the log.** -/
theorem Does.explained (h : Does b b' o) (he : b.Explained log) : b'.Explained (log ++ [o]) where
  windowed := h.windowed he.windowed
  waiting := h.waiting he.waiting
  played := by
    intro k frame hk hpacket
    rcases lt_trichotomy k log.length with hlt | rfl | hgt
    · rw [List.getElem?_append_left hlt] at hk
      rw [List.take_append_of_le_length hlt.le]
      exact he.played k frame hk hpacket
    · rw [List.getElem?_concat_length, Option.some.injEq] at hk
      rw [hk] at h
      obtain ⟨slot, hslot, heq⟩ := h.frame_eq hpacket
      obtain ⟨i, hi⟩ := he.waiting slot hslot
      exact ⟨i, slot, by rwa [List.take_left], heq⟩
    · rw [List.getElem?_eq_none (by rw [List.length_append]; exact hgt)] at hk
      cases hk
  consecutive := by
    rw [readyFrames_concat]
    rcases h.ready_cases with ⟨hnone, _⟩ | ⟨f, hf, _, hnumber, _⟩
    · rw [hnone, Option.toList_none, List.append_nil]
      exact he.consecutive
    · rw [hf, Option.toList_some]
      refine List.isChain_append.2 ⟨he.consecutive, List.isChain_singleton f, fun g hg f' hf' => ?_⟩
      cases hf'
      rw [hnumber]
      exact (he.next g hg).2
  next := by
    intro f hf
    rw [readyFrames_concat] at hf
    rcases h.ready_cases with ⟨hnone, hkeep⟩ | ⟨g, hg, hstarted, hnumber, hadvanced⟩
    · rw [hnone, Option.toList_none, List.append_nil] at hf
      obtain ⟨hstarted, hnext⟩ := he.next f hf
      obtain ⟨hstarted', hsame⟩ := hkeep hstarted
      exact ⟨hstarted', hsame.trans hnext⟩
    · rw [hg, Option.toList_some, List.getLast?_concat] at hf
      cases hf
      refine ⟨hadvanced.started.trans hstarted, ?_⟩
      rw [hadvanced.nextSequence_eq, hnumber]

theorem explained_run (b : VoipJitterBuffer D) (calls : List JitterCall) :
    (b.reset.run calls).Explained (b.reset.outcomes calls) := by
  have hstep : ∀ (s : VoipJitterBuffer D) log call, s.Explained log → True →
      (s.step call).Explained (log ++ (some (s.outcome call)).toList) :=
    fun s log call he _ => (does_step he.windowed call).explained he
  have hguard : Run.Guarded step (fun _ _ => True) b.reset calls :=
    Run.guarded_of_forall_mem fun _ _ _ => trivial
  exact Run.invariant_history hstep (explained_reset b) hguard

theorem getElem?_outcomes (b : VoipJitterBuffer D) (calls : List JitterCall) (i : ℕ) :
    (b.outcomes calls)[i]? = calls[i]?.map (b.run (calls.take i)).outcome := by
  induction calls generalizing b i with
  | nil => rfl
  | cons call calls ih =>
    rw [outcomes, Run.history_cons, Option.toList_some, List.singleton_append]
    cases i with
    | zero => rfl
    | succ i => exact ih (b.step call) i

theorem eq_insert_of_outcome {call : JitterCall} {overwrote : Bool} {evicted : List UInt16}
    (h : b.outcome call = .stored slot overwrote evicted) :
    ∃ arrivalMonotonicMs, call = .insert slot.sequenceNumber slot.timestamp slot.payload arrivalMonotonicMs := by
  cases call with
  | nextPlayoutFrame now => cases h
  | insert sequenceNumber timestamp payload arrivalMonotonicMs =>
    unfold outcome at h
    dsimp only at h
    split at h
    · cases h
    · split at h
      · cases h
      · cases h
        exact ⟨arrivalMonotonicMs, rfl⟩

/-- **The run of a jitter buffer.**  Whatever is inserted and polled: the numbers in the buffer lie up to 32767 ahead,
64 at most; the ready frames have consecutive numbers; a frame with a packet shows the latest accepted insert for its
number, which was neither played nor evicted before; and no insert is shown by two frames. -/
theorem playout_run (b : VoipJitterBuffer D) (calls : List JitterCall) :
    (∀ slot ∈ (b.reset.run calls).slots,
      distance (b.reset.run calls).nextSequence slot.sequenceNumber ≤ 32767) ∧
    (b.reset.run calls).slots.length ≤ 64 ∧
    (readyFrames (b.reset.outcomes calls)).IsChain (fun f g => g.sequenceNumber = f.sequenceNumber + 1) ∧
    (∀ (k : ℕ) frame, (b.reset.outcomes calls)[k]? = some (.frame frame) → frame.hasPacket = true →
      ∃ i slot arrivalMonotonicMs,
        calls[i]? = some (.insert slot.sequenceNumber slot.timestamp slot.payload arrivalMonotonicMs) ∧
        Waiting ((b.reset.outcomes calls).take k) i slot ∧ frame.sequenceNumber = slot.sequenceNumber ∧
        frame.payload = slot.payload ∧ frame.timestamp = slot.timestamp) ∧
    ∀ (i k k' : ℕ) frame frame' slot slot', (b.reset.outcomes calls)[k]? = some (.frame frame) →
      frame.hasPacket = true → frame.sequenceNumber = slot.sequenceNumber →
      Waiting ((b.reset.outcomes calls).take k) i slot →
      (b.reset.outcomes calls)[k']? = some (.frame frame') → frame'.hasPacket = true →
      frame'.sequenceNumber = slot'.sequenceNumber → Waiting ((b.reset.outcomes calls).take k') i slot' → k = k' := by
  have h := explained_run b calls
  refine ⟨fun slot hslot => h.windowed.ahead _ (mem_keys.2 ⟨slot, hslot, rfl⟩), h.windowed.room, h.consecutive,
    fun k frame hk hpacket => ?_, ?_⟩
  · obtain ⟨i, slot, hi, rfl⟩ := h.played k frame hk hpacket
    obtain ⟨overwrote, evicted, hstored, _⟩ := hi.stored
    have hik : i < k := lt_of_lt_of_le hi.lt_length (List.length_take_le ..)
    rw [List.getElem?_take_of_lt hik, getElem?_outcomes, Option.map_eq_some_iff] at hstored
    obtain ⟨call, hcall, houtcome⟩ := hstored
    obtain ⟨arrivalMonotonicMs, rfl⟩ := eq_insert_of_outcome houtcome
    exact ⟨i, slot, arrivalMonotonicMs, hcall, hi, rfl, rfl, rfl⟩
  · intro i k k' frame frame' slot slot' hk hpacket hnumber hi hk' hpacket' hnumber' hi'
    exact le_antisymm (hi'.le_of_played hk' hpacket' hnumber' hi) (hi.le_of_played hk hpacket hnumber hi')

end VoipJitterBuffer

/-! ### The ledger -/

/-- The insert returned `Ok`. -/
def Outcome.isOk : Outcome → Bool
  | .late | .stored .. => true
  | _ => false

/-- The insert returned `Ok` and was not refused as late. -/
def Outcome.isStored : Outcome → Bool
  | .stored .. => true
  | _ => false

/-- The insert overwrote a packet with its number that was still in the buffer. -/
def Outcome.isOverwrite : Outcome → Bool
  | .stored _ overwrote _ => overwrote
  | _ => false

def Outcome.storedNumber : Outcome → Option UInt16
  | .stored slot _ _ => some slot.sequenceNumber
  | _ => none

/-- The numbers of the accepted inserts, in order. -/
def storedNumbers (log : List Outcome) : List UInt16 := log.filterMap Outcome.storedNumber

theorem storedNumbers_concat (log : List Outcome) (o : Outcome) :
    storedNumbers (log ++ [o]) = storedNumbers log ++ o.storedNumber.toList := by
  rw [storedNumbers, List.filterMap_append, storedNumbers]
  cases h : o.storedNumber <;> simp [h]

theorem countP_isOverwrite_le (log : List Outcome) : log.countP Outcome.isOverwrite ≤ log.countP Outcome.isOk := by
  refine List.countP_mono_left fun o _ ho => ?_
  cases o with
  | stored slot overwrote evicted => rfl
  | refused => cases ho
  | late => cases ho
  | frame shown => cases ho

namespace VoipJitterBuffer

variable {D : Smoothing} {b b' : VoipJitterBuffer D}

structure Balanced (b : VoipJitterBuffer D) (log : List Outcome) : Prop where
  windowed : b.Windowed
  ledger : UInt32.ofNat (log.countP Outcome.isOk) = UInt32.ofNat (log.countP Outcome.isOverwrite) +
    b.stats.packetsPlayed + b.stats.lateDrops + UInt32.ofNat b.slots.length
  inserted : b.stats.packetsInserted = UInt32.ofNat (log.countP Outcome.isStored)
  shown : b.stats.packetsPlayed + b.stats.packetsLost = UInt32.ofNat (readyFrames log).length
  not_started : b.started = false → storedNumbers log = [] ∧ readyFrames log = []
  clock : b.started = true → ∃ first, (storedNumbers log).head? = some first ∧
    b.nextSequence = first + UInt16.ofNat (readyFrames log).length

theorem balanced_reset (b : VoipJitterBuffer D) : b.reset.Balanced [] where
  windowed := windowed_reset b
  ledger := rfl
  inserted := rfl
  shown := rfl
  not_started := fun _ => ⟨rfl, rfl⟩
  clock := fun hstarted => by cases hstarted

/-- What each outcome does to the numbers of the ledger. -/
structure Booked (b b' : VoipJitterBuffer D) (o : Outcome) : Prop where
  ledger : UInt32.ofNat o.isOk.toNat + b.stats.packetsPlayed + b.stats.lateDrops + UInt32.ofNat b.slots.length
    = UInt32.ofNat o.isOverwrite.toNat + b'.stats.packetsPlayed + b'.stats.lateDrops + UInt32.ofNat b'.slots.length
  inserted : b'.stats.packetsInserted = b.stats.packetsInserted + UInt32.ofNat o.isStored.toNat
  shown : b'.stats.packetsPlayed + b'.stats.packetsLost
    = b.stats.packetsPlayed + b.stats.packetsLost + UInt32.ofNat o.readyFrame.toList.length

theorem Accepted.booked {evicted : List UInt16} (h : Accepted b b' slot evicted) (hw : b.Windowed) :
    Booked b b' (.stored slot (decide (slot.sequenceNumber ∈ keys b.slots)) evicted) where
  ledger := by
    have hlen : b.slots.length + 1
        = b'.slots.length + evicted.length + (decide (slot.sequenceNumber ∈ keys b.slots)).toNat := by
      rw [h.length_add hw, ← length_assignSlot hw.nodup slot]
      by_cases hmem : slot.sequenceNumber ∈ keys b.slots <;> simp [hmem]
    have hcast := congrArg UInt32.ofNat hlen
    rw [UInt32.ofNat_add, UInt32.ofNat_add, UInt32.ofNat_add] at hcast
    rw [h.packetsPlayed_eq, h.lateDrops_eq]
    show UInt32.ofNat 1 + b.stats.packetsPlayed + b.stats.lateDrops + UInt32.ofNat b.slots.length
      = UInt32.ofNat (decide (slot.sequenceNumber ∈ keys b.slots)).toNat + _ + _ + _
    grind
  inserted := h.packetsInserted_eq
  shown := by
    rw [h.packetsPlayed_eq, h.packetsLost_eq]
    exact (UInt32.add_zero _).symm

/-- **Every call is booked.** -/
theorem Does.booked (h : Does b b' o) (hw : b.Windowed) : Booked b b' o := by
  cases h with
  | refused same =>
    rw [same]
    exact ⟨rfl, (UInt32.add_zero _).symm, (UInt32.add_zero _).symm⟩
  | late started drop =>
    rw [drop]
    refine ⟨?_, (UInt32.add_zero _).symm, (UInt32.add_zero _).symm⟩
    show UInt32.ofNat 1 + b.stats.packetsPlayed + b.stats.lateDrops + UInt32.ofNat b.slots.length
      = UInt32.ofNat 0 + b.stats.packetsPlayed + (b.stats.lateDrops + 1) + UInt32.ofNat b.slots.length
    grind
  | stored slot evicted accepted => exact accepted.booked hw
  | waited same =>
    rw [same]
    exact ⟨rfl, (UInt32.add_zero _).symm, (UInt32.add_zero _).symm⟩
  | played slot mem number started advanced slots_eq stats =>
    obtain ⟨hinserted, hplayed, hlost⟩ := stats
    have hlen : b'.slots.length + 1 = b.slots.length := by
      rw [slots_eq]
      exact length_eraseSlot hw.nodup (mem_keys.2 ⟨slot, mem, number⟩)
    have hcast := congrArg UInt32.ofNat hlen
    rw [UInt32.ofNat_add] at hcast
    refine ⟨?_, hinserted.trans (UInt32.add_zero _).symm, ?_⟩
    · show UInt32.ofNat 0 + _ + _ + _ = UInt32.ofNat 0 + _ + _ + _
      rw [hplayed, advanced.lateDrops_eq]
      grind
    · show _ = _ + UInt32.ofNat 1
      rw [hplayed, hlost]
      grind
  | concealed timestamp missing started advanced slots_eq stats =>
    obtain ⟨hinserted, hplayed, hlost⟩ := stats
    refine ⟨?_, hinserted.trans (UInt32.add_zero _).symm, ?_⟩
    · show UInt32.ofNat 0 + _ + _ + _ = UInt32.ofNat 0 + _ + _ + _
      rw [hplayed, advanced.lateDrops_eq, slots_eq]
    · show _ = _ + UInt32.ofNat 1
      rw [hplayed, hlost]
      grind

theorem countP_concat (p : Outcome → Bool) (log : List Outcome) (o : Outcome) :
    (log ++ [o]).countP p = log.countP p + (p o).toNat := by
  rw [List.countP_append, List.countP_singleton]
  cases p o <;> rfl

/-- The clock of the playout counts the ready frames from the first number on. -/
theorem Balanced.clock_concat (hb : b.Balanced log) (h : Does b b' o) (hstarted' : b'.started = true) :
    ∃ first, (storedNumbers (log ++ [o])).head? = some first ∧
      b'.nextSequence = first + UInt16.ofNat (readyFrames (log ++ [o])).length := by
  rw [storedNumbers_concat, readyFrames_concat, List.length_append, UInt16.ofNat_add]
  cases hstarted : b.started with
  | true =>
    obtain ⟨first, hfirst, hnext⟩ := hb.clock hstarted
    refine ⟨first, by rw [List.head?_append, hfirst]; rfl, ?_⟩
    rcases h.ready_cases with ⟨hnone, hkeep⟩ | ⟨f, hf, _, _, hadvanced⟩
    · rw [hnone, (hkeep hstarted).2, hnext]
      exact congrArg (first + ·) (UInt16.add_zero _).symm
    · rw [hf, hadvanced.nextSequence_eq, hnext, UInt16.add_assoc]
      rfl
  | false =>
    -- only an accepted insert starts the clock
    obtain ⟨hstored, hready⟩ := hb.not_started hstarted
    rw [hstored, hready]
    cases h with
    | refused same => rw [same, hstarted] at hstarted'; cases hstarted'
    | late started drop => rw [hstarted] at started; cases started
    | stored slot evicted accepted =>
      refine ⟨slot.sequenceNumber, rfl, ?_⟩
      rw [accepted.nextSequence_eq, hstarted]
      exact (UInt16.add_zero _).symm
    | waited same => rw [same, hstarted] at hstarted'; cases hstarted'
    | played slot mem number started advanced slots_eq stats => rw [hstarted] at started; cases started
    | concealed timestamp missing started advanced slots_eq stats => rw [hstarted] at started; cases started

theorem Balanced.not_started_concat (hb : b.Balanced log) (h : Does b b' o) (hnot : b'.started = false) :
    storedNumbers (log ++ [o]) = [] ∧ readyFrames (log ++ [o]) = [] := by
  have hquiet : b.started = false → o.storedNumber = none → o.readyFrame = none →
      storedNumbers (log ++ [o]) = [] ∧ readyFrames (log ++ [o]) = [] := by
    intro hstarted hnumber hframe
    obtain ⟨hstored, hready⟩ := hb.not_started hstarted
    rw [storedNumbers_concat, readyFrames_concat, hstored, hready, hnumber, hframe]
    exact ⟨rfl, rfl⟩
  cases h with
  | refused same => exact hquiet (same ▸ hnot) rfl rfl
  | late started drop => rw [drop] at hnot; exact hquiet hnot rfl rfl
  | stored slot evicted accepted => rw [accepted.started] at hnot; cases hnot
  | waited same => exact hquiet (same ▸ hnot) rfl rfl
  | played slot mem number started advanced slots_eq stats =>
    rw [advanced.started, started] at hnot
    cases hnot
  | concealed timestamp missing started advanced slots_eq stats =>
    rw [advanced.started, started] at hnot
    cases hnot

/-- **Every call keeps the ledger.** -/
theorem Does.balanced (h : Does b b' o) (hb : b.Balanced log) : b'.Balanced (log ++ [o]) where
  windowed := h.windowed hb.windowed
  ledger := by
    have hbook := (h.booked hb.windowed).ledger
    have hledger := hb.ledger
    rw [countP_concat, countP_concat, UInt32.ofNat_add, UInt32.ofNat_add]
    grind
  inserted := by rw [(h.booked hb.windowed).inserted, hb.inserted, countP_concat, UInt32.ofNat_add]
  shown := by
    rw [(h.booked hb.windowed).shown, hb.shown, readyFrames_concat, List.length_append, UInt32.ofNat_add]
  not_started := hb.not_started_concat h
  clock := hb.clock_concat h

theorem balanced_run (b : VoipJitterBuffer D) (calls : List JitterCall) :
    (b.reset.run calls).Balanced (b.reset.outcomes calls) := by
  have hstep : ∀ (s : VoipJitterBuffer D) log call, s.Balanced log → True →
      (s.step call).Balanced (log ++ (some (s.outcome call)).toList) :=
    fun s log call hb _ => (does_step hb.windowed call).balanced hb
  have hguard : Run.Guarded step (fun _ _ => True) b.reset calls :=
    Run.guarded_of_forall_mem fun _ _ _ => trivial
  exact Run.invariant_history hstep (balanced_reset b) hguard

/-- **The statistics balance.**  Since the last `Reset`, and with the counters modulo 2^32: the inserts answered with
`Ok`, less those that overwrote a waiting packet, are the packets played, dropped and waiting; `PacketsInserted` are
those not refused as late; and the frames played and lost are the ready ones, as many (modulo 2^16) as the playout went
on from the first number. -/
theorem stats_balance (b : VoipJitterBuffer D) (calls : List JitterCall) :
    let log := b.reset.outcomes calls
    let stats := (b.reset.run calls).statsCopy
    UInt32.ofNat (log.countP Outcome.isOk - log.countP Outcome.isOverwrite)
      = stats.packetsPlayed + stats.lateDrops + UInt32.ofNat stats.depthPackets.toNat ∧
    stats.packetsInserted = UInt32.ofNat (log.countP Outcome.isStored) ∧
    stats.packetsPlayed + stats.packetsLost = UInt32.ofNat (readyFrames log).length ∧
    (∀ first, (storedNumbers log).head? = some first →
      UInt16.ofNat (readyFrames log).length = (b.reset.run calls).nextSequence - first) ∧
    (storedNumbers log = [] → readyFrames log = []) := by
  intro log stats
  have h := balanced_run b calls
  refine ⟨?_, h.inserted, h.shown, ?_, ?_⟩
  · have hle := countP_isOverwrite_le log
    have hsplit : UInt32.ofNat (log.countP Outcome.isOk)
        = UInt32.ofNat (log.countP Outcome.isOk - log.countP Outcome.isOverwrite)
          + UInt32.ofNat (log.countP Outcome.isOverwrite) := by
      rw [← UInt32.ofNat_add, Nat.sub_add_cancel hle]
    have hledger := h.ledger
    show _ = (b.reset.run calls).stats.packetsPlayed + (b.reset.run calls).stats.lateDrops
      + UInt32.ofNat (b.reset.run calls).slots.length
    grind
  · intro first hfirst
    cases hstarted : (b.reset.run calls).started with
    | true =>
      obtain ⟨first', hfirst', hnext⟩ := h.clock hstarted
      rw [hfirst, Option.some.injEq] at hfirst'
      rw [hnext, hfirst', UInt16.add_comm, UInt16.add_sub_cancel]
    | false =>
      rw [show storedNumbers log = [] from (h.not_started hstarted).1] at hfirst
      cases hfirst
  · intro hnone
    cases hstarted : (b.reset.run calls).started with
    | true =>
      obtain ⟨first, hfirst, _⟩ := h.clock hstarted
      rw [show storedNumbers (b.reset.outcomes calls) = [] from hnone] at hfirst
      cases hfirst
    | false => exact (h.not_started hstarted).2

end VoipJitterBuffer

end VianiumVoip.Relay
