import VianiumVoip.Relay.JitterRun

/-!
# What an overflow evicts

`TrimOverflow` erases `m_slots.begin()`, the smallest plain number.  That is the packet to be played first while all the
numbers lie on one side of the wrap, and the one behind the wrap, the newest audio, when they do not.
-/

namespace VianiumVoip.Relay

open VianiumVoip.Lib VianiumVoip.Engine

variable {D : Smoothing}

/-! ### Two orders -/

theorem distance_of_le {next q : UInt16} (h : next ≤ q) : distance next q = q.toNat - next.toNat :=
  UInt16.toNat_sub_of_le q next h

theorem distance_of_lt {next q : UInt16} (h : q < next) : distance next q = q.toNat + 65536 - next.toNat := by
  have hlt : q.toNat < next.toNat := h
  have hnext : next.toNat < 65536 := next.toNat_lt
  rw [distance, UInt16.toNat_sub]
  omega

/-- The numbers from `next` on come before those below it. -/
theorem distance_lt_of_le_of_lt {next q p : UInt16} (hq : next ≤ q) (hp : p < next) :
    distance next q < distance next p := by
  have hqp : next.toNat ≤ q.toNat := hq
  have hpn : p.toNat < next.toNat := hp
  have hlt : q.toNat < 65536 := q.toNat_lt
  rw [distance_of_le hq, distance_of_lt hp]
  omega

/-- Seen from `next`, the numbers do not lie on both sides of the wrap from 65535 to 0. -/
def OneSide (next : UInt16) (numbers : List UInt16) : Prop := (∀ q ∈ numbers, next ≤ q) ∨ ∀ q ∈ numbers, q < next

instance (next : UInt16) (numbers : List UInt16) : Decidable (OneSide next numbers) :=
  -- only the members of the list are looked at, not every `UInt16`
  have := List.decidableBAll (fun q => next ≤ q) numbers
  have := List.decidableBAll (fun q => q < next) numbers
  inferInstanceAs (Decidable ((∀ q ∈ numbers, next ≤ q) ∨ ∀ q ∈ numbers, q < next))

/-- **On one side of the wrap the smallest number is the nearest, and on both sides it is not.** -/
theorem smallest_nearest_iff {next first : UInt16} {numbers : List UInt16} (hmem : first ∈ numbers)
    (hfirst : ∀ q ∈ numbers, first ≤ q) :
    (∀ q ∈ numbers, distance next first ≤ distance next q) ↔ OneSide next numbers := by
  constructor
  · intro hnear
    by_cases hside : next ≤ first
    · exact .inl fun q hq => UInt16.le_trans hside (hfirst q hq)
    · refine .inr fun q hq => ?_
      by_contra hnot
      have hlt := distance_lt_of_le_of_lt (UInt16.not_lt.1 hnot) (UInt16.not_le.1 hside)
      exact absurd (hnear q hq) (not_le.2 hlt)
  · rintro (hside | hside) q hq
    · have hle : first.toNat ≤ q.toNat := hfirst q hq
      rw [distance_of_le (hside first hmem), distance_of_le (hside q hq)]
      omega
    · have hle : first.toNat ≤ q.toNat := hfirst q hq
      rw [distance_of_lt (hside first hmem), distance_of_lt (hside q hq)]
      omega

/-! ### The packet that goes -/

namespace VoipJitterBuffer

variable {b b' : VoipJitterBuffer D} {slot : Slot}

/-- The one packet that goes when `slot` comes is the next to be played of all of them. -/
def EvictsEarliest (b b' : VoipJitterBuffer D) (slot : Slot) : Prop :=
  ∃ evicted ∈ slot :: b.slots, (∀ other, other ∈ b'.slots ↔ other ∈ slot :: b.slots ∧ other ≠ evicted) ∧
    ∀ other ∈ slot :: b.slots,
      distance b.nextSequence evicted.sequenceNumber ≤ distance b.nextSequence other.sequenceNumber

/-- In a full buffer a new number costs the packet with the smallest number. -/
theorem Accepted.evicts_smallest {evicted : List UInt16} (h : Accepted b b' slot evicted) (hw : b.Windowed)
    (hfull : b.slots.length = kMaxBufferedPackets) (hnew : slot.sequenceNumber ∉ keys b.slots) :
    ∃ first ∈ slot :: b.slots, (∀ q ∈ keys (slot :: b.slots), first.sequenceNumber ≤ q) ∧
      ∀ other, other ∈ b'.slots ↔ other ∈ slot :: b.slots ∧ other ≠ first := by
  have hassign : assignSlot b.slots slot = b.slots ++ [slot] := by rw [assignSlot, eraseSlot_of_notMem hnew]
  have hsame : ∀ other, other ∈ assignSlot b.slots slot ↔ other ∈ slot :: b.slots := by
    intro other
    rw [hassign, List.mem_append, List.mem_singleton, List.mem_cons]
    exact or_comm
  have hkeys : ∀ q, q ∈ keys (assignSlot b.slots slot) ↔ q ∈ keys (slot :: b.slots) := by
    intro q
    rw [mem_keys, mem_keys]
    exact exists_congr fun other => and_congr_left fun _ => hsame other
  have hmany : kMaxBufferedPackets < (assignSlot b.slots slot).length := by
    rw [hassign, List.length_append, hfull]
    exact Nat.lt_succ_self _
  rcases h.trimmed with ⟨hroom, _⟩ | ⟨_, q, hq, hle, _, hslots⟩
  · exact absurd hmany (not_lt.2 hroom)
  · obtain ⟨first, hfirst, rfl⟩ := mem_keys.1 hq
    refine ⟨first, (hsame first).1 hfirst, fun q' hq' => hle q' ((hkeys q').2 hq'), fun other => ?_⟩
    rw [hslots, mem_eraseSlot, hsame]
    refine and_congr_right fun hother => not_congr ⟨fun heq => ?_, fun heq => by rw [heq]⟩
    -- each number stands under one slot
    have hnodup := nodup_keys_assignSlot hw.nodup slot
    exact List.inj_on_of_nodup_map hnodup ((hsame other).2 hother) hfirst heq

theorem Accepted.evictsEarliest_iff {evicted : List UInt16} (h : Accepted b b' slot evicted) (hw : b.Windowed)
    (hfull : b.slots.length = kMaxBufferedPackets) (hnew : slot.sequenceNumber ∉ keys b.slots) :
    EvictsEarliest b b' slot ↔ OneSide b.nextSequence (keys (slot :: b.slots)) := by
  obtain ⟨first, hfirst, hle, hgone⟩ := h.evicts_smallest hw hfull hnew
  have hmem : first.sequenceNumber ∈ keys (slot :: b.slots) := mem_keys.2 ⟨first, hfirst, rfl⟩
  rw [← smallest_nearest_iff hmem hle]
  constructor
  · rintro ⟨gone, hgone', hrest, hnear⟩ q hq
    -- only one packet goes
    have heq : gone = first := by
      by_contra hne
      exact ((hrest gone).1 ((hgone gone).2 ⟨hgone', hne⟩)).2 rfl
    obtain ⟨other, hother, rfl⟩ := mem_keys.1 hq
    exact heq ▸ hnear other hother
  · intro hnear
    exact ⟨first, hfirst, hgone, fun other hother => hnear _ (mem_keys.2 ⟨other, hother, rfl⟩)⟩

theorem accepted_of_insert (slot : Slot) (hw : b.Windowed) {arrivalMonotonicMs : ℤ}
    (hinsert : b.insert slot.sequenceNumber slot.timestamp slot.payload arrivalMonotonicMs = .ok b')
    (hlate : (b.started && b.isLate slot.sequenceNumber) = false) : ∃ evicted, Accepted b b' slot evicted := by
  have hpayload : slot.payload ≠ [] := by
    intro hempty
    have hrefused : b.insert slot.sequenceNumber slot.timestamp slot.payload arrivalMonotonicMs
        = .error (invalid "jitter buffer payload is empty") := if_pos hempty
    rw [hrefused] at hinsert
    cases hinsert
  obtain ⟨stored, evicted, hstored, haccepted, _⟩ :=
    insert_accepted slot.timestamp arrivalMonotonicMs hw hpayload hlate
  rw [hstored] at hinsert
  cases hinsert
  exact ⟨evicted, haccepted⟩

/-- **An overflow evicts the packet that is to be played first exactly when the numbers that wait and the new one lie on
one side of the wrap.** -/
theorem overflow_evictsEarliest_iff (start : VoipJitterBuffer D) (calls : List JitterCall) (slot : Slot)
    (arrivalMonotonicMs : ℤ) (b' : VoipJitterBuffer D) (hfull : (start.reset.run calls).slots.length = 64)
    (hnew : slot.sequenceNumber ∉ keys (start.reset.run calls).slots)
    (hinsert : (start.reset.run calls).insert slot.sequenceNumber slot.timestamp slot.payload arrivalMonotonicMs
      = .ok b')
    (hlate : (start.reset.run calls).isLate slot.sequenceNumber = false) :
    EvictsEarliest (start.reset.run calls) b' slot ↔
      OneSide (start.reset.run calls).nextSequence (keys (slot :: (start.reset.run calls).slots)) := by
  have hw := windowed_run start calls
  obtain ⟨evicted, haccepted⟩ := accepted_of_insert slot hw hinsert (by rw [hlate, Bool.and_false])
  exact haccepted.evictsEarliest_iff hw hfull hnew

/-- A smoothing in whole milliseconds. -/
def wholeMilliseconds : Smoothing where
  Value := ℤ
  zero := 0
  ofInt := id
  smooth := fun smoothed jitter => if smoothed = 0 then jitter else (19 * smoothed + jitter) / 20
  fourfold := fun smoothed => 4 * smoothed

/-- 64 packets, the first with the number `first`, one every 20 ms. -/
def fullFrom (first : UInt16) : VoipJitterBuffer wholeMilliseconds :=
  (new wholeMilliseconds 20).reset.run ((List.range 64).map fun i =>
    .insert (first + UInt16.ofNat i) (20 * UInt32.ofNat i) [1] (20 * i))

/-- A full buffer far from the wrap evicts its first packet. -/
theorem evictsEarliest_fullFrom_zero :
    EvictsEarliest (fullFrom 0) ((fullFrom 0).step (.insert 64 1280 [1] 1280)) ⟨64, 1280, [1]⟩ := by
  have hinsert := insert_eq_step (fullFrom 0) 64 1280 1280 (List.cons_ne_nil 1 [])
  refine (overflow_evictsEarliest_iff _ _ ⟨64, 1280, [1]⟩ 1280 _ ?_ ?_ hinsert ?_).2 ?_
  · decide +kernel
  · decide +kernel
  · decide +kernel
  · decide +kernel

/-- **Across the wrap the new packet goes.**  The numbers 65504 to 31 wait, the number 32 comes, and the packet 0 is
evicted instead of the packet 65504. -/
theorem not_evictsEarliest_across_wrap :
    ¬ ∀ (start : VoipJitterBuffer wholeMilliseconds) (calls : List JitterCall) (slot : Slot) (arrivalMonotonicMs : ℤ)
      (b' : VoipJitterBuffer wholeMilliseconds), (start.reset.run calls).slots.length = 64 →
      slot.sequenceNumber ∉ keys (start.reset.run calls).slots →
      (start.reset.run calls).insert slot.sequenceNumber slot.timestamp slot.payload arrivalMonotonicMs = .ok b' →
      (start.reset.run calls).isLate slot.sequenceNumber = false → EvictsEarliest (start.reset.run calls) b' slot := by
  intro h
  have hw : (fullFrom 65504).Windowed := windowed_run _ _
  have hinsert := insert_eq_step (fullFrom 65504) 32 1280 1280 (List.cons_ne_nil 1 [])
  have hfull : (fullFrom 65504).slots.length = 64 := by decide +kernel
  have hnew : 32 ∉ keys (fullFrom 65504).slots := by decide +kernel
  have hlate : (fullFrom 65504).isLate 32 = false := by decide +kernel
  have hearliest := h _ _ ⟨32, 1280, [1]⟩ 1280 _ hfull hnew hinsert hlate
  obtain ⟨evicted, haccepted⟩ :=
    accepted_of_insert ⟨32, 1280, [1]⟩ hw hinsert (by rw [hlate, Bool.and_false])
  have hside := (haccepted.evictsEarliest_iff hw hfull hnew).1 hearliest
  exact absurd hside (by decide +kernel)

end VoipJitterBuffer

end VianiumVoip.Relay
