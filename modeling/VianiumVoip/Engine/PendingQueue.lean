import VianiumVoip.Engine.Signaling
import VianiumVoip.Lib.BoundedQueue

/-!
# The queue of pending signaling

`QueuePendingSignaling` with its loop: at most 128 packets and at most 512 KiB wait for the media of a call, and the
oldest go first.  The loop does what the engine's model of it does in one piece (`queuePendingSignaling_eq`).

After any calls the queue is the longest suffix of the packets that keeps both limits, and every packet is in the queue
or counted as dropped (`pending_longest_suffix`).
-/

namespace VianiumVoip.Engine.PendingQueue

open VianiumVoip.Lib BoundedQueue

/-- The loop over the queue, with `SignalingPacketsDropped`. -/
def evictLoop : (queue : List Packet) → (dropped : UInt32) → List Packet × UInt32
  | [], dropped => ([], dropped)
  | packet :: rest, dropped =>
    if kMaxPendingSignalingPackets < (packet :: rest).length
        ∨ kMaxPendingSignalingBytes < pendingSignalingBytes (packet :: rest) then evictLoop rest (dropped + 1)
    else (packet :: rest, dropped)

/-- `QueuePendingSignaling` -/
def queuePendingSignaling (session : CallSession) (packet : Packet) : CallSession :=
  if packet.data = [] then session
  else
    let (queue, dropped) := evictLoop (session.pendingSignalingPackets ++ [packet]) session.signalingPacketsDropped
    { session with pendingSignalingPackets := queue, signalingPacketsDropped := dropped }

/-- The calls for some packets, one after another. -/
def queueAll (session : CallSession) (packets : List Packet) : CallSession :=
  packets.foldl queuePendingSignaling session

/-- The queue keeps both limits. -/
def Fits (queue : List Packet) : Prop :=
  queue.length ≤ kMaxPendingSignalingPackets ∧ pendingSignalingBytes queue ≤ kMaxPendingSignalingBytes

instance : DecidablePred Fits := fun _ => inferInstanceAs (Decidable (_ ∧ _))

theorem fits_nil : Fits [] := ⟨by decide, by decide⟩

theorem pendingSignalingBytes_append (queue queue' : List Packet) :
    pendingSignalingBytes (queue ++ queue') = pendingSignalingBytes queue + pendingSignalingBytes queue' := by
  simp [pendingSignalingBytes]

theorem fits_of_append (queue packets : List Packet) (h : Fits (queue ++ packets)) : Fits queue := by
  obtain ⟨hcount, hbytes⟩ := h
  rw [List.length_append] at hcount
  rw [pendingSignalingBytes_append] at hbytes
  exact ⟨by omega, by omega⟩

/-! ### The loop -/

theorem not_fits_iff {queue : List Packet} :
    ¬ Fits queue ↔ kMaxPendingSignalingPackets < queue.length
      ∨ kMaxPendingSignalingBytes < pendingSignalingBytes queue := by
  unfold Fits
  omega

theorem evictLoop_eq (queue : List Packet) (dropped : UInt32) :
    evictLoop queue dropped
      = (evict Fits queue, dropped + UInt32.ofNat (queue.length - (evict Fits queue).length)) := by
  induction queue generalizing dropped with
  | nil => simp [evictLoop, evict]
  | cons packet rest ih =>
    by_cases hfits : Fits (packet :: rest)
    · rw [evictLoop, if_neg (by rwa [← not_fits_iff, not_not]), evict_of_fits hfits]
      simp
    · have hle : (evict Fits rest).length ≤ rest.length := (evict_suffix rest).length_le
      have hlen : (packet :: rest).length - (evict Fits rest).length
          = 1 + (rest.length - (evict Fits rest).length) := by
        rw [List.length_cons]
        omega
      rw [evictLoop, if_pos (not_fits_iff.1 hfits), ih, evict, if_neg hfits, hlen, UInt32.ofNat_add, UInt32.add_assoc]
      rfl

theorem drop_surplus (queue : List Packet) : queue.drop (surplus queue) = evict Fits queue := by
  induction queue with
  | nil => rfl
  | cons packet rest ih =>
    by_cases hfits : Fits (packet :: rest)
    · rw [surplus, if_neg (by rwa [← not_fits_iff, not_not]), evict_of_fits hfits, List.drop_zero]
    · rw [surplus, if_pos (not_fits_iff.1 hfits), evict, if_neg hfits, List.drop_succ_cons, ih]

/-- **The engine's model of the loop** is what the loop does. -/
theorem queuePendingSignaling_eq {packet : Packet} (h : packet.data ≠ []) (session : CallSession) :
    queuePendingSignaling session packet = (session.queuePendingSignaling packet).1 := by
  set queue := session.pendingSignalingPackets ++ [packet] with hqueue
  have hsurplus : queue.length - (evict Fits queue).length = surplus queue := by
    have hle := surplus_le_length queue
    rw [← drop_surplus, List.length_drop]
    omega
  simp only [queuePendingSignaling, CallSession.queuePendingSignaling, if_neg h, ← hqueue, evictLoop_eq, hsurplus,
    drop_surplus]

/-! ### The calls of a session -/

theorem queuePendingSignaling_of_data {packet : Packet} (h : packet.data ≠ []) (session : CallSession) :
    (queuePendingSignaling session packet).pendingSignalingPackets
        = evict Fits (session.pendingSignalingPackets ++ [packet]) ∧
      (queuePendingSignaling session packet).signalingPacketsDropped
          + UInt32.ofNat (queuePendingSignaling session packet).pendingSignalingPackets.length
        = session.signalingPacketsDropped + UInt32.ofNat session.pendingSignalingPackets.length + 1 := by
  set queue := session.pendingSignalingPackets ++ [packet] with hqueue
  have hle : (evict Fits queue).length ≤ queue.length := (evict_suffix queue).length_le
  have hsum : queue.length - (evict Fits queue).length + (evict Fits queue).length
      = session.pendingSignalingPackets.length + 1 := by
    rw [Nat.sub_add_cancel hle, hqueue, List.length_append, List.length_singleton]
  simp only [queuePendingSignaling, if_neg h, ← hqueue, evictLoop_eq, true_and]
  rw [UInt32.add_assoc, ← UInt32.ofNat_add, hsum, UInt32.ofNat_add, UInt32.add_assoc]
  rfl

theorem queueAll_concat (session : CallSession) (packets : List Packet) (packet : Packet) :
    queueAll session (packets ++ [packet]) = queuePendingSignaling (queueAll session packets) packet := by
  rw [queueAll, List.foldl_append]
  rfl

theorem queueAll_spec {session : CallSession} (hempty : session.pendingSignalingPackets = []) {packets : List Packet}
    (hdata : ∀ packet ∈ packets, packet.data ≠ []) :
    (queueAll session packets).pendingSignalingPackets = evict Fits packets ∧
      (queueAll session packets).signalingPacketsDropped
          + UInt32.ofNat (queueAll session packets).pendingSignalingPackets.length
        = session.signalingPacketsDropped + UInt32.ofNat packets.length := by
  induction packets using List.reverseRecOn with
  | nil => exact ⟨hempty.trans (evict_of_fits fits_nil).symm, by rw [queueAll, List.foldl_nil, hempty]⟩
  | append_singleton packets packet ih =>
    obtain ⟨hqueue, hcount⟩ := ih fun p hp => hdata p (List.mem_append_left _ hp)
    obtain ⟨hnext, hsum⟩ := queuePendingSignaling_of_data (hdata packet (by simp)) (queueAll session packets)
    rw [queueAll_concat]
    refine ⟨by rw [hnext, hqueue, evict_evict_append fits_of_append], ?_⟩
    rw [hsum, hcount, List.length_append, List.length_singleton, UInt32.ofNat_add, UInt32.add_assoc]
    rfl

/-- **The queue of a session**: after calls with packets that are not empty it is the longest suffix of them that keeps
both limits, and the packets that are not in it have been counted as dropped. -/
theorem pending_longest_suffix (session : CallSession) (hempty : session.pendingSignalingPackets = [])
    (packets : List Packet) (hdata : ∀ packet ∈ packets, packet.data ≠ []) :
    (queueAll session packets).pendingSignalingPackets <:+ packets ∧
      Fits (queueAll session packets).pendingSignalingPackets ∧
      (∀ suffix, suffix <:+ packets → Fits suffix →
        suffix.length ≤ (queueAll session packets).pendingSignalingPackets.length) ∧
      (queueAll session packets).signalingPacketsDropped
          + UInt32.ofNat (queueAll session packets).pendingSignalingPackets.length
        = session.signalingPacketsDropped + UInt32.ofNat packets.length := by
  obtain ⟨hqueue, hcount⟩ := queueAll_spec hempty hdata
  rw [hqueue] at hcount ⊢
  refine ⟨evict_suffix packets, fits_evict fits_nil packets, ?_, hcount⟩
  intro suffix hsuffix hfits
  exact (suffix_evict hsuffix hfits).length_le

/-- A packet of 200 KiB. -/
def largePacket (number : ℕ) : Packet := { number := number, data := List.replicate 204800 0 }

/-- Three packets of 200 KiB are too many bytes: the first one is dropped. -/
theorem pending_longest_suffix_large :
    (queueAll {} [largePacket 0, largePacket 1, largePacket 2]).pendingSignalingPackets
        = [largePacket 1, largePacket 2] ∧
      (queueAll {} [largePacket 0, largePacket 1, largePacket 2]).signalingPacketsDropped = 1 := by
  have hlength (number : ℕ) : (largePacket number).data.length = 204800 := List.length_replicate
  have hne (number : ℕ) : (largePacket number).data ≠ [] := by
    apply List.ne_nil_of_length_pos
    rw [hlength]
    decide
  have hdata : ∀ packet ∈ [largePacket 0, largePacket 1, largePacket 2], packet.data ≠ [] := by simp [hne]
  obtain ⟨hsuffix, hfits, hlongest, hcount⟩ :=
    pending_longest_suffix {} rfl [largePacket 0, largePacket 1, largePacket 2] hdata
  have htwo : Fits [largePacket 1, largePacket 2] := by
    simp [Fits, pendingSignalingBytes, hlength, kMaxPendingSignalingPackets, kMaxPendingSignalingBytes]
  have hqueue : (queueAll {} [largePacket 0, largePacket 1, largePacket 2]).pendingSignalingPackets
      = [largePacket 1, largePacket 2] := by
    rcases List.suffix_cons_iff.1 hsuffix with hall | hrest
    · rw [hall] at hfits
      have hbytes := hfits.2
      simp [pendingSignalingBytes, hlength, kMaxPendingSignalingBytes] at hbytes
    · exact hrest.eq_of_length_le (hlongest _ (List.suffix_cons _ _) htwo)
  refine ⟨hqueue, ?_⟩
  rw [hqueue] at hcount
  have hsum : (queueAll {} [largePacket 0, largePacket 1, largePacket 2]).signalingPacketsDropped + 2 = 1 + 2 := hcount
  exact (UInt32.add_left_inj 2).1 hsum

end VianiumVoip.Engine.PendingQueue
