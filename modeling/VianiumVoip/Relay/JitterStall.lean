import VianiumVoip.Relay.AudioRun
import VianiumVoip.Relay.JitterOverflow

/-!
# The playout behind a stall of the sender

The clock of the playout goes on with the time, one sequence number every frame, whether packets come or not; the
numbers of the sender stand still while it stalls.  So the packets behind a stall are late, all of them, as soon as the
stall has used up the 60 ms by which the playout started late, and stay so, until the number of slots missed comes near
2^16 and they look early.
-/

namespace VianiumVoip.Relay

open VianiumVoip.Lib VianiumVoip.Engine

variable {D : Smoothing}

/-! ### The slots that are due -/

/-- How many slots are due at the time `nowMs` of a playout that starts at `firstPlayoutMs`. -/
def slotsDue (firstPlayoutMs frameMs nowMs : ℤ) : ℕ :=
  if nowMs < firstPlayoutMs then 0 else ((nowMs - firstPlayoutMs) / frameMs).toNat + 1

theorem lt_slotsDue {firstPlayoutMs frameMs nowMs : ℤ} (hframe : 0 < frameMs) (x : ℕ) :
    x < slotsDue firstPlayoutMs frameMs nowMs ↔ firstPlayoutMs + x * frameMs ≤ nowMs := by
  have hx : (0 : ℤ) ≤ x * frameMs := mul_nonneg (Int.natCast_nonneg x) hframe.le
  unfold slotsDue
  split
  · omega
  · have hdiv : 0 ≤ (nowMs - firstPlayoutMs) / frameMs := Int.ediv_nonneg (by omega) hframe.le
    have hle : (x : ℤ) ≤ (nowMs - firstPlayoutMs) / frameMs ↔ x * frameMs ≤ nowMs - firstPlayoutMs :=
      Int.le_ediv_iff_mul_le hframe
    omega

theorem slotsDue_mono (firstPlayoutMs : ℤ) {frameMs now now' : ℤ} (hframe : 0 < frameMs) (h : now ≤ now') :
    slotsDue firstPlayoutMs frameMs now ≤ slotsDue firstPlayoutMs frameMs now' := by
  by_contra hnot
  have hlt := (lt_slotsDue hframe _).1 (not_le.1 hnot)
  exact absurd ((lt_slotsDue hframe _).2 (hlt.trans h)) (lt_irrefl _)

namespace VoipJitterBuffer

variable {b b' : VoipJitterBuffer D} {first : UInt16} {firstPlayoutMs frameMs nowMs : ℤ} {p : ℕ}

/-- The playout runs since `firstPlayoutMs`, and its first `p` slots, from the number `first` on, are over. -/
structure Clock (b : VoipJitterBuffer D) (first : UInt16) (firstPlayoutMs frameMs : ℤ) (p : ℕ) : Prop where
  started : b.started = true
  frameMs_eq : b.frameMs = frameMs
  firstPlayoutMs_eq : b.firstPlayoutMs = firstPlayoutMs
  playoutIndex_eq : b.playoutIndex = p
  nextSequence_eq : b.nextSequence = first + UInt16.ofNat p

theorem Clock.due_eq (h : b.Clock first firstPlayoutMs frameMs p) : b.due = firstPlayoutMs + p * frameMs := by
  rw [due, h.firstPlayoutMs_eq, h.playoutIndex_eq, h.frameMs_eq]

theorem Clock.advance (h : b.Clock first firstPlayoutMs frameMs p) (hadvanced : Advanced b b') :
    b'.Clock first firstPlayoutMs frameMs (p + 1) where
  started := hadvanced.started.trans h.started
  frameMs_eq := hadvanced.frameMs_eq.trans h.frameMs_eq
  firstPlayoutMs_eq := hadvanced.firstPlayoutMs_eq.trans h.firstPlayoutMs_eq
  playoutIndex_eq := by rw [hadvanced.playoutIndex_eq, h.playoutIndex_eq]
  nextSequence_eq := by
    rw [hadvanced.nextSequence_eq, h.nextSequence_eq, UInt16.ofNat_add, UInt16.add_assoc]
    rfl

theorem ready_of_due (hstarted : b.started = true) (hdue : b.due ≤ nowMs) :
    (b.nextPlayoutFrame nowMs).1.ready = true := by
  unfold nextPlayoutFrame
  rw [if_neg (by rw [hstarted]; decide), if_neg (not_lt.2 hdue)]
  split <;> rfl

theorem advanced_of_due (hstarted : b.started = true) (hdue : b.due ≤ nowMs) :
    Advanced b (b.step (.nextPlayoutFrame nowMs)) := by
  have hready := ready_of_due hstarted hdue
  rcases (does_nextPlayoutFrame b nowMs).ready_cases with ⟨hnone, _⟩ | ⟨_, _, _, _, hadvanced⟩
  · rw [Outcome.readyFrame, if_pos hready] at hnone
    cases hnone
  · exact hadvanced

theorem step_of_not_due (hdue : nowMs < b.due) : b.step (.nextPlayoutFrame nowMs) = b := by
  rw [step, nextPlayoutFrame_of_not_due (.inr hdue)]

/-! ### Drains -/

/-- How many frames a drain at the time `nowMs` takes. -/
def dueFrames (b : VoipJitterBuffer D) (nowMs : ℤ) : ℕ :=
  if b.started then slotsDue b.firstPlayoutMs b.frameMs nowMs - b.playoutIndex else 0

/-- The calls of `DrainJitterToAudio` at the time `nowMs`: one for each frame that is due, and the last, which is not
ready. -/
def drainCalls (b : VoipJitterBuffer D) (nowMs : ℤ) : List JitterCall :=
  List.replicate (b.dueFrames nowMs + 1) (.nextPlayoutFrame nowMs)

theorem Clock.dueFrames_eq (h : b.Clock first firstPlayoutMs frameMs p) (nowMs : ℤ) :
    b.dueFrames nowMs = slotsDue firstPlayoutMs frameMs nowMs - p := by
  rw [dueFrames, if_pos h.started, h.firstPlayoutMs_eq, h.frameMs_eq, h.playoutIndex_eq]

theorem Clock.run_replicate (hframe : 0 < frameMs) {c : ℕ} (h : b.Clock first firstPlayoutMs frameMs p)
    (hc : p + c ≤ slotsDue firstPlayoutMs frameMs nowMs ∨ c = 0) :
    (b.run (List.replicate c (.nextPlayoutFrame nowMs))).Clock first firstPlayoutMs frameMs (p + c) := by
  induction c generalizing b p with
  | zero => exact h
  | succ c ih =>
    have hc' : p + (c + 1) ≤ slotsDue firstPlayoutMs frameMs nowMs := hc.resolve_right (Nat.succ_ne_zero c)
    have hdue : b.due ≤ nowMs := by
      rw [h.due_eq]
      exact (lt_slotsDue hframe p).1 (by omega)
    have hnext := ih (h.advance (advanced_of_due h.started hdue)) (.inl (by omega))
    rw [show p + 1 + c = p + (c + 1) by omega] at hnext
    exact hnext

/-- **A drain brings the clock to the time.** -/
theorem Clock.drain (hframe : 0 < frameMs) (h : b.Clock first firstPlayoutMs frameMs p) (nowMs : ℤ) :
    (b.run (b.drainCalls nowMs)).Clock first firstPlayoutMs frameMs (max p (slotsDue firstPlayoutMs frameMs nowMs)) := by
  set c := b.dueFrames nowMs with hc
  rw [h.dueFrames_eq] at hc
  have hafter : (b.run (List.replicate c (.nextPlayoutFrame nowMs))).Clock first firstPlayoutMs frameMs (p + c) :=
    h.run_replicate hframe (by omega)
  have hlast : nowMs < (b.run (List.replicate c (.nextPlayoutFrame nowMs))).due := by
    rw [hafter.due_eq]
    have hnot : ¬ p + c < slotsDue firstPlayoutMs frameMs nowMs := by omega
    rw [lt_slotsDue hframe] at hnot
    exact not_le.1 hnot
  have hsame := step_of_not_due hlast
  rw [show max p (slotsDue firstPlayoutMs frameMs nowMs) = p + c by omega, drainCalls, List.replicate_succ', run,
    Run.run_concat]
  exact hsame.symm ▸ hafter

/-- The drain of the receive loop, when it reads the same time again and again, makes these calls. -/
theorem drainJitterToAudio_replicate (hframe : 0 < frameMs) (h : b.Clock first firstPlayoutMs frameMs p) (nowMs : ℤ)
    {m : ℕ} (hm : b.dueFrames nowMs < m) :
    (drainJitterToAudio b (List.replicate m nowMs)).2 = b.run (b.drainCalls nowMs) := by
  induction m generalizing b p with
  | zero => exact absurd hm (Nat.not_lt_zero _)
  | succ m ih =>
    rw [List.replicate_succ]
    by_cases hdue : b.due ≤ nowMs
    · have hnext := h.advance (advanced_of_due h.started hdue)
      have hpos : p < slotsDue firstPlayoutMs frameMs nowMs := by
        rw [lt_slotsDue hframe, ← h.due_eq]
        exact hdue
      have hframes : b.dueFrames nowMs = (b.step (.nextPlayoutFrame nowMs)).dueFrames nowMs + 1 := by
        rw [h.dueFrames_eq, hnext.dueFrames_eq]
        omega
      rw [System.drainJitterToAudio_of_ready (ready_of_due h.started hdue), drainCalls, hframes, List.replicate_succ]
      rw [hframes] at hm
      exact ih hnext (Nat.lt_of_succ_lt_succ hm)
    · have hlt := not_le.1 hdue
      have hnone : b.dueFrames nowMs = 0 := by
        rw [h.dueFrames_eq, Nat.sub_eq_zero_iff_le]
        by_contra hnot
        rw [not_le, lt_slotsDue hframe, ← h.due_eq] at hnot
        exact hdue hnot
      have hwait := nextPlayoutFrame_of_not_due (.inr hlt)
      rw [System.drainJitterToAudio_of_not_ready (by rw [hwait]), drainCalls, hnone]
      rfl

/-! ### What survives a drain -/

/-- Every number in the buffer is one of those before `m`, as the playout counts them. -/
def Below (b : VoipJitterBuffer D) (m : ℕ) : Prop := ∀ q ∈ keys b.slots, distance b.nextSequence q + b.playoutIndex < m

theorem below_of_advanced {m : ℕ} (h : b.Below m) (hadvanced : Advanced b b')
    (hslots : ∀ q ∈ keys b'.slots, q ∈ keys b.slots ∧ q ≠ b.nextSequence) : b'.Below m := by
  intro q hq
  obtain ⟨hmem, hne⟩ := hslots q hq
  have hq := h q hmem
  have hnear := distance_succ hne
  rw [hadvanced.nextSequence_eq, hadvanced.playoutIndex_eq]
  omega

/-- A playout takes numbers out of the buffer, and leaves none that it has passed. -/
theorem Does.below {m : ℕ} {frame : VoipJitterFrame} (hdoes : Does b b' (.frame frame)) (h : b.Below m) :
    b'.Below m := by
  cases hdoes with
  | waited same => exact same ▸ h
  | played slot mem number started advanced slots_eq stats =>
    refine below_of_advanced h advanced fun q hq => ?_
    rw [slots_eq, keys_eraseSlot, List.mem_filter, decide_eq_true_eq] at hq
    exact hq
  | concealed timestamp missing started advanced slots_eq stats =>
    refine below_of_advanced h advanced fun q hq => ?_
    rw [slots_eq] at hq
    exact ⟨hq, fun heq => missing (heq ▸ hq)⟩

/-- Different numbers, all nearer than `c`: no more than `c` of them. -/
theorem length_le_of_distance_lt (hw : b.Windowed) {c : ℕ} (h : ∀ q ∈ keys b.slots, distance b.nextSequence q < c) :
    b.slots.length ≤ c := by
  have hinj : ((keys b.slots).map (distance b.nextSequence)).Nodup := by
    refine hw.nodup.map_on fun q _ q' _ heq => ?_
    have hsub : q - b.nextSequence = q' - b.nextSequence := UInt16.toNat_inj.1 heq
    have hadd := congrArg (· + b.nextSequence) hsub
    simpa only [UInt16.sub_add_cancel] using hadd
  have hsubset : (keys b.slots).map (distance b.nextSequence) ⊆ List.range c := by
    intro d hd
    obtain ⟨q, hq, rfl⟩ := List.mem_map.1 hd
    exact List.mem_range.2 (h q hq)
  have hle := (List.subperm_of_subset hinj hsubset).length_le
  rwa [List.length_map, length_keys, List.length_range] at hle

end VoipJitterBuffer

/-! ### A sender that stalls -/

/-- Packets with consecutive numbers, one every frame: `before` of them, then nothing for `stallMs`, then the rest. -/
structure StalledSender where
  frameMs : ℤ
  startMs : ℤ
  first : UInt16
  before : ℕ
  stallMs : ℕ
  timestamp : ℕ → UInt32
  payload : ℕ → Bytes
  frameMs_pos : 0 < frameMs
  payload_ne : ∀ i, payload i ≠ []

namespace StalledSender

variable (s : StalledSender)

/-- When the packet `i` arrives. -/
def arrivalMs (i : ℕ) : ℤ := s.startMs + i * s.frameMs + if i < s.before then 0 else (s.stallMs : ℤ)

def insert (i : ℕ) : JitterCall :=
  .insert (s.first + UInt16.ofNat i) (s.timestamp i) (s.payload i) (s.arrivalMs i)

end StalledSender

/-- The playout is polled all the time: between every two packets there is a drain, and there may be any number. -/
structure Polling (s : StalledSender) where
  /-- The times of the drains behind the packet `i`. -/
  times : ℕ → List ℤ
  times_ne : ∀ i, times i ≠ []
  sorted : ∀ i, (times i).Pairwise (· ≤ ·)
  after_arrival : ∀ i, ∀ now ∈ times i, s.arrivalMs i ≤ now
  before_next : ∀ i, ∀ now ∈ times i, now ≤ s.arrivalMs (i + 1)

namespace Polling

variable {s : StalledSender} (polling : Polling s)

/-- The last drain behind the packet `i`. -/
def lastMs (i : ℕ) : ℤ := (polling.times i).getLast (polling.times_ne i)

/-- How many slots of the playout are over when the packet `i` arrives. -/
def passed : ℕ → ℕ
  | 0 => 0
  | i + 1 => slotsDue (s.arrivalMs 0 + kMinTargetMs) s.frameMs (polling.lastMs i)

variable (D)

/-- The buffer after some calls. -/
def buffer (calls : List JitterCall) : VoipJitterBuffer D := (VoipJitterBuffer.new D s.frameMs).reset.run calls

def log (calls : List JitterCall) : List Outcome := (VoipJitterBuffer.new D s.frameMs).reset.outcomes calls

/-- The calls behind some others that drain the buffer at the time `now`. -/
def andDrain (calls : List JitterCall) (now : ℤ) : List JitterCall :=
  calls ++ (buffer D (s := s) calls).drainCalls now

/-- The calls of the first `m` packets, with the drains behind each. -/
def calls : ℕ → List JitterCall
  | 0 => []
  | i + 1 => (polling.times i).foldl (andDrain D (s := s)) (calls i ++ [s.insert i])

/-- A frame shows the packet of a call behind the first `start`. -/
def Shown (start : ℕ) (log : List Outcome) : Prop :=
  ∃ (k : ℕ) (frame : VoipJitterFrame) (i : ℕ) (slot : Slot), log[k]? = some (.frame frame) ∧ frame.hasPacket = true ∧
    start ≤ i ∧ Waiting (log.take k) i slot ∧ frame.sequenceNumber = slot.sequenceNumber

/-- One of the `after` packets behind the stall is played, when the playout is polled on. -/
def Recovers (after : ℕ) : Prop :=
  ∃ time, ∀ now, time ≤ now →
    Shown (polling.calls D s.before).length
      (log D (s := s) (andDrain D (s := s) (polling.calls D (s.before + after)) now))

/-- The packet `i` does not come late for the slots that are over when it arrives. -/
def InTime (i : ℕ) : Prop := ((i : ℤ) - polling.passed i) % 65536 ≤ 32767

instance (i : ℕ) : Decidable (polling.InTime i) := inferInstanceAs (Decidable (_ ≤ _))

end Polling

namespace VoipJitterBuffer

variable {b b' : VoipJitterBuffer D} {first : UInt16} {firstPlayoutMs frameMs : ℤ} {p m : ℕ} {o : Outcome}

theorem insert_cases (hw : b.Windowed) (s : StalledSender) (i : ℕ) :
    (b.started = true ∧ 32768 ≤ distance b.nextSequence (s.first + UInt16.ofNat i) ∧
      b.outcome (s.insert i) = .late ∧ Does b (b.step (s.insert i)) .late) ∨
    ∃ overwrote evicted,
      b.outcome (s.insert i) = .stored ⟨s.first + UInt16.ofNat i, s.timestamp i, s.payload i⟩ overwrote evicted ∧
      Accepted b (b.step (s.insert i)) ⟨s.first + UInt16.ofNat i, s.timestamp i, s.payload i⟩ evicted := by
  have hok := insert_eq_step b (s.first + UInt16.ofNat i) (s.timestamp i) (s.arrivalMs i) (s.payload_ne i)
  have hdoes := does_step hw (s.insert i)
  by_cases hlate : (b.started && b.isLate (s.first + UInt16.ofNat i)) = true
  · have houtcome : b.outcome (s.insert i) = .late := by
      rw [StalledSender.insert, outcome, hok]
      exact if_pos hlate
    obtain ⟨hstarted, hfar⟩ := Bool.and_eq_true_iff.1 hlate
    exact .inl ⟨hstarted, sequenceBefore_iff.1 hfar, houtcome, houtcome ▸ hdoes⟩
  · obtain ⟨stored, evicted, hstored, haccepted, hevicted⟩ :=
      insert_accepted (s.timestamp i) (s.arrivalMs i) hw (s.payload_ne i) (Bool.eq_false_of_not_eq_true hlate)
    rw [hok, Except.ok.injEq] at hstored
    refine .inr ⟨decide (s.first + UInt16.ofNat i ∈ keys b.slots), evicted, ?_, hstored ▸ haccepted⟩
    rw [StalledSender.insert, outcome, hok]
    dsimp only
    rw [if_neg hlate, hstored, hevicted]

theorem Accepted.clock {slot : Slot} {evicted : List UInt16} (h : Accepted b b' slot evicted)
    (hclock : b.Clock first firstPlayoutMs frameMs p) : b'.Clock first firstPlayoutMs frameMs p where
  started := h.started
  frameMs_eq := h.frameMs_eq.trans hclock.frameMs_eq
  firstPlayoutMs_eq := (h.firstPlayoutMs_eq hclock.started).trans hclock.firstPlayoutMs_eq
  playoutIndex_eq := by rw [h.playoutIndex_eq, if_pos hclock.started, hclock.playoutIndex_eq]
  nextSequence_eq := by rw [h.nextSequence_eq, if_pos hclock.started, hclock.nextSequence_eq]

theorem Clock.insert (hclock : b.Clock first firstPlayoutMs frameMs p) (hw : b.Windowed) (s : StalledSender) (i : ℕ) :
    (b.step (s.insert i)).Clock first firstPlayoutMs frameMs p := by
  rcases insert_cases hw s i with ⟨_, _, _, hlate⟩ | ⟨_, _, _, haccepted⟩
  · cases hlate with
    | late started drop =>
      rw [drop]
      exact ⟨hclock.started, hclock.frameMs_eq, hclock.firstPlayoutMs_eq, hclock.playoutIndex_eq,
        hclock.nextSequence_eq⟩
  · exact haccepted.clock hclock

theorem clock_first (s : StalledSender) :
    ((new D s.frameMs).reset.step (s.insert 0)).Clock s.first (s.arrivalMs 0 + kMinTargetMs) s.frameMs 0 := by
  have hw := windowed_reset (new D s.frameMs)
  rcases insert_cases hw s 0 with ⟨hstarted, _⟩ | ⟨_, evicted, _, haccepted⟩
  · cases hstarted
  have hframe : (new D s.frameMs).reset.frameMs = s.frameMs := if_neg (not_le.2 s.frameMs_pos)
  refine ⟨haccepted.started, haccepted.frameMs_eq.trans hframe, ?_, haccepted.playoutIndex_eq, haccepted.nextSequence_eq⟩
  have hok := insert_eq_step (new D s.frameMs).reset (s.first + UInt16.ofNat 0) (s.timestamp 0) (s.arrivalMs 0)
    (s.payload_ne 0)
  unfold VoipJitterBuffer.insert at hok
  rw [if_neg (s.payload_ne 0)] at hok
  exact (congrArg firstPlayoutMs (Except.ok.inj hok)).symm

end VoipJitterBuffer

namespace Polling

variable {s : StalledSender} (polling : Polling s)

/-! ### The clock of the run -/

theorem windowed_buffer (calls : List JitterCall) : (buffer D (s := s) calls).Windowed :=
  VoipJitterBuffer.windowed_run _ calls

theorem buffer_append (calls more : List JitterCall) :
    buffer D (s := s) (calls ++ more) = (buffer D (s := s) calls).run more := Run.run_append ..

theorem buffer_concat (calls : List JitterCall) (call : JitterCall) :
    buffer D (s := s) (calls ++ [call]) = (buffer D (s := s) calls).step call := Run.run_concat ..

theorem log_append (calls more : List JitterCall) :
    log D (s := s) (calls ++ more) = log D (s := s) calls ++ (buffer D (s := s) calls).outcomes more :=
  Run.history_append ..

theorem log_concat (calls : List JitterCall) (call : JitterCall) :
    log D (s := s) (calls ++ [call]) = log D (s := s) calls ++ [(buffer D (s := s) calls).outcome call] :=
  log_append calls [call]

theorem length_log (calls : List JitterCall) : (log D (s := s) calls).length = calls.length := by
  induction calls using List.reverseRecOn with
  | nil => rfl
  | append_singleton calls call ih => rw [log_concat, List.length_append, ih, List.length_append, List.length_singleton,
      List.length_singleton]

theorem lastMs_mem (i : ℕ) : polling.lastMs i ∈ polling.times i := List.getLast_mem _

theorem lastMs_le_lastMs (i : ℕ) : polling.lastMs i ≤ polling.lastMs (i + 1) :=
  (polling.before_next i _ (polling.lastMs_mem i)).trans (polling.after_arrival (i + 1) _ (polling.lastMs_mem (i + 1)))

/-- The last of several drains decides. -/
theorem foldl_max_slotsDue {times : List ℤ} (hne : times ≠ []) (hsorted : times.Pairwise (· ≤ ·)) (p : ℕ)
    (firstPlayoutMs : ℤ) :
    times.foldl (fun p now => max p (slotsDue firstPlayoutMs s.frameMs now)) p
      = max p (slotsDue firstPlayoutMs s.frameMs (times.getLast hne)) := by
  induction times generalizing p with
  | nil => exact absurd rfl hne
  | cons now rest ih =>
    rw [List.foldl_cons]
    rcases eq_or_ne rest [] with rfl | hrest
    · rfl
    · have hlast : now ≤ rest.getLast hrest := List.rel_of_pairwise_cons hsorted (List.getLast_mem hrest)
      have hmono := slotsDue_mono firstPlayoutMs s.frameMs_pos hlast
      rw [ih hrest (List.Pairwise.of_cons hsorted), List.getLast_cons hrest]
      omega

theorem clock_foldl (calls : List JitterCall) {p : ℕ} {firstPlayoutMs : ℤ} (times : List ℤ)
    (h : (buffer D (s := s) calls).Clock s.first firstPlayoutMs s.frameMs p) :
    (buffer D (s := s) (times.foldl (andDrain D (s := s)) calls)).Clock s.first firstPlayoutMs s.frameMs
      (times.foldl (fun p now => max p (slotsDue firstPlayoutMs s.frameMs now)) p) := by
  induction times generalizing calls p with
  | nil => exact h
  | cons now rest ih =>
    refine ih _ ?_
    rw [andDrain, buffer_append]
    exact h.drain s.frameMs_pos now

/-- **The clock when a packet arrives.** -/
theorem clock_calls (i : ℕ) :
    (buffer D (s := s) (polling.calls D (i + 1))).Clock s.first (s.arrivalMs 0 + kMinTargetMs) s.frameMs
      (polling.passed (i + 1)) := by
  induction i with
  | zero =>
    have hfold := clock_foldl [s.insert 0] (polling.times 0) (VoipJitterBuffer.clock_first (D := D) s)
    rw [foldl_max_slotsDue (polling.times_ne 0) (polling.sorted 0), Nat.zero_max] at hfold
    exact hfold
  | succ i ih =>
    have hinsert := ih.insert (windowed_buffer _) s (i + 1)
    rw [← buffer_concat] at hinsert
    have hfold := clock_foldl _ (polling.times (i + 1)) hinsert
    have hmax : max (polling.passed (i + 1)) (slotsDue (s.arrivalMs 0 + kMinTargetMs) s.frameMs
        ((polling.times (i + 1)).getLast (polling.times_ne (i + 1)))) = polling.passed (i + 2) :=
      max_eq_right (slotsDue_mono _ s.frameMs_pos (polling.lastMs_le_lastMs i))
    rw [foldl_max_slotsDue (polling.times_ne (i + 1)) (polling.sorted (i + 1)), hmax] at hfold
    exact hfold

/-! ### Before the stall -/

theorem foldl_andDrain {P : List JitterCall → Prop}
    (hstep : ∀ calls now, P calls → P (calls ++ [.nextPlayoutFrame now])) (times : List ℤ) {calls : List JitterCall}
    (h : P calls) : P (times.foldl (andDrain D (s := s)) calls) := by
  have hdrain : ∀ calls now, P calls → P (andDrain D (s := s) calls now) := by
    intro calls now hcalls
    rw [andDrain, VoipJitterBuffer.drainCalls]
    induction (buffer D (s := s) calls).dueFrames now + 1 with
    | zero => simpa using hcalls
    | succ c ih =>
      rw [List.replicate_succ', ← List.append_assoc]
      exact hstep _ now ih
  induction times generalizing calls with
  | nil => exact h
  | cons now rest ih => exact ih (hdrain calls now h)

theorem below_poll {m : ℕ} (calls : List JitterCall) (now : ℤ) (h : (buffer D (s := s) calls).Below m) :
    (buffer D (s := s) (calls ++ [.nextPlayoutFrame now])).Below m := by
  rw [buffer_concat]
  exact (VoipJitterBuffer.does_nextPlayoutFrame _ now).below h

theorem distance_add (first : UInt16) (p i : ℕ) :
    (distance (first + UInt16.ofNat p) (first + UInt16.ofNat i) : ℤ) = ((i : ℤ) - p) % 65536 := by
  rw [distance, UInt16.toNat_sub, UInt16.toNat_add, UInt16.toNat_add, UInt16.toNat_ofNat', UInt16.toNat_ofNat']
  omega

theorem arrivalMs_of_lt {i : ℕ} (h : i < s.before) : s.arrivalMs i = s.startMs + i * s.frameMs := by
  rw [StalledSender.arrivalMs, if_pos h, add_zero]

theorem passed_le {i : ℕ} (h : i < s.before) : polling.passed i ≤ i := by
  rcases i with _ | i
  · exact le_rfl
  by_contra hnot
  have hdue := (lt_slotsDue s.frameMs_pos (i + 1)).1 (not_le.1 hnot)
  have hlast := polling.before_next i _ (polling.lastMs_mem i)
  rw [arrivalMs_of_lt (lt_of_le_of_lt (Nat.zero_le _) h)] at hdue
  rw [arrivalMs_of_lt h] at hlast
  have htarget : kMinTargetMs = 60 := rfl
  push_cast at hdue hlast
  omega

theorem le_passed_add {i : ℕ} (h : i < s.before) : i + 1 ≤ polling.passed (i + 1) + 60 := by
  by_contra hnot
  have hle : polling.passed (i + 1) + 60 ≤ i := by omega
  have hnotdue : ¬ s.arrivalMs 0 + kMinTargetMs + polling.passed (i + 1) * s.frameMs ≤ polling.lastMs i :=
    fun hdue => absurd ((lt_slotsDue s.frameMs_pos _).2 hdue) (lt_irrefl _)
  have hlast := polling.after_arrival i _ (polling.lastMs_mem i)
  rw [arrivalMs_of_lt (lt_of_le_of_lt (Nat.zero_le _) h)] at hnotdue
  rw [arrivalMs_of_lt h] at hlast
  have hmul : ((polling.passed (i + 1) : ℤ) + 60) * s.frameMs ≤ i * s.frameMs :=
    mul_le_mul_of_nonneg_right (by exact_mod_cast hle) s.frameMs_pos.le
  have hsixty : 60 * 1 ≤ 60 * s.frameMs := mul_le_mul_of_nonneg_left s.frameMs_pos (by norm_num)
  have htarget : kMinTargetMs = 60 := rfl
  rw [add_mul] at hmul
  push_cast at hnotdue
  omega

theorem below_calls {i : ℕ} (h : i ≤ s.before) : (buffer D (s := s) (polling.calls D i)).Below i := by
  induction i with
  | zero => exact fun q hq => absurd hq List.not_mem_nil
  | succ i ih =>
    refine foldl_andDrain (P := fun calls => (buffer D (s := s) calls).Below (i + 1)) below_poll (polling.times i) ?_
    have hbelow := ih (by omega)
    have hw := windowed_buffer (D := D) (s := s) (polling.calls D i)
    rw [buffer_concat]
    rcases VoipJitterBuffer.insert_cases hw s i with ⟨_, _, _, hlate⟩ | ⟨_, evicted, _, haccepted⟩
    · cases hlate with
      | late started drop =>
        rw [drop]
        exact fun q hq => (hbelow q hq).trans (Nat.lt_succ_self i)
    · intro q hq
      obtain ⟨slot, hslot, rfl⟩ := mem_keys.1 hq
      rw [haccepted.nextSequence_eq, haccepted.playoutIndex_eq]
      rcases i with _ | i
      · -- the first packet is the next to be played
        have hslots : (buffer D (s := s) (polling.calls D 0)).slots = [] := rfl
        have hnot : ¬ (buffer D (s := s) (polling.calls D 0)).started = true := Bool.false_ne_true
        have hassign := (haccepted.mem_keys_of_mem hslot).1
        rw [hslots] at hassign
        rw [List.mem_singleton.1 hassign, if_neg hnot, if_neg hnot, distance_self]
        exact Nat.zero_lt_one
      · have hclock := clock_calls (D := D) polling i
        rw [if_pos hclock.started, if_pos hclock.started]
        rcases mem_assignSlot.1 (haccepted.mem_keys_of_mem hslot).1 with ⟨hmem, _⟩ | rfl
        · exact (hbelow _ (mem_keys.2 ⟨slot, hmem, rfl⟩)).trans (Nat.lt_succ_self _)
        · have hpassed := polling.passed_le (i := i + 1) h
          have hdistance := distance_add s.first (polling.passed (i + 1)) (i + 1)
          rw [hclock.nextSequence_eq, hclock.playoutIndex_eq]
          dsimp only
          omega

/-- When the stall is over, at most 60 packets from before it are left. -/
theorem length_slots_before : (buffer D (s := s) (polling.calls D s.before)).slots.length ≤ 60 := by
  rcases hbefore : s.before with _ | i
  · exact Nat.zero_le _
  · refine VoipJitterBuffer.length_le_of_distance_lt (windowed_buffer _) fun q hq => ?_
    have hbelow := polling.below_calls (D := D) (i := i + 1) hbefore.ge q hq
    have hclock := clock_calls (D := D) polling i
    have hpassed := polling.le_passed_add (i := i) (by omega)
    rw [hclock.playoutIndex_eq] at hbelow
    omega

end Polling

/-! ### A packet that was accepted comes out -/

namespace Polling

variable {b b' : VoipJitterBuffer D} {log : List Outcome} {o : Outcome} {start : ℕ}

/-- A packet of a call behind the first `start` was played, or waits. -/
def Alive (start : ℕ) (b : VoipJitterBuffer D) (log : List Outcome) : Prop :=
  Shown start log ∨ ∃ slot ∈ b.slots, ∃ i, start ≤ i ∧ Waiting log i slot

theorem Shown.concat (h : Shown start log) (o : Outcome) : Shown start (log ++ [o]) := by
  obtain ⟨k, frame, i, slot, hk, hpacket, hi, hwaiting, hnumber⟩ := h
  have hlt : k < log.length := (List.getElem?_eq_some_iff.1 hk).1
  refine ⟨k, frame, i, slot, ?_, hpacket, hi, ?_, hnumber⟩
  · rw [List.getElem?_append_left hlt, hk]
  · rwa [List.take_append_of_le_length hlt.le]

theorem alive_of_stored {slot : Slot} {overwrote : Bool} {evicted : List UInt16} (hmem : slot ∈ b'.slots)
    (hkept : slot.sequenceNumber ∉ evicted) (hstart : start ≤ log.length) :
    Alive start b' (log ++ [.stored slot overwrote evicted]) :=
  .inr ⟨slot, hmem, log.length, hstart, waiting_concat_stored hkept⟩

theorem alive_of_room {slot : Slot} {overwrote : Bool} {evicted : List UInt16}
    (h : VoipJitterBuffer.Accepted b b' slot evicted) (hw : b.Windowed) (hroom : b.slots.length < kMaxBufferedPackets)
    (hstart : start ≤ log.length) : Alive start b' (log ++ [.stored slot overwrote evicted]) := by
  have hlen := length_assignSlot hw.nodup slot
  rcases h.trimmed with ⟨_, rfl, hslots⟩ | ⟨hmany, _⟩
  · refine alive_of_stored ?_ List.not_mem_nil hstart
    rw [hslots]
    exact mem_assignSlot.2 (.inr rfl)
  · omega

/-- **An accepted packet keeps one alive.**  An overflow takes one packet, and the new one or the old one stays. -/
theorem Alive.stored {slot new : Slot} {i : ℕ} {overwrote : Bool} {evicted : List UInt16}
    (h : VoipJitterBuffer.Accepted b b' new evicted) (hw : b.Windowed) (hslot : slot ∈ b.slots) (hi : start ≤ i)
    (hwaiting : Waiting log i slot) (hstart : start ≤ log.length) :
    Alive start b' (log ++ [.stored new overwrote evicted]) := by
  rcases h.trimmed with ⟨_, rfl, hslots⟩ | ⟨hmany, first, _, _, rfl, hslots⟩
  · refine alive_of_stored ?_ List.not_mem_nil hstart
    rw [hslots]
    exact mem_assignSlot.2 (.inr rfl)
  · by_cases hnew : new.sequenceNumber = first
    · -- the new packet goes at once; nothing was overwritten, or there would have been room
      have hlen := length_assignSlot hw.nodup new
      have hroom := hw.room
      have habsent : new.sequenceNumber ∉ keys b.slots := by
        intro hmem
        rw [if_pos hmem] at hlen
        omega
      have hne : slot.sequenceNumber ≠ new.sequenceNumber := fun heq => habsent (mem_keys.2 ⟨slot, hslot, heq⟩)
      refine .inr ⟨slot, ?_, i, hi, hwaiting.concat ?_⟩
      · rw [hslots, mem_eraseSlot, mem_assignSlot]
        exact ⟨.inl ⟨hslot, hne⟩, fun heq => hne (heq.trans hnew.symm)⟩
      · rintro (heq | hmem)
        · exact hne heq.symm
        · exact hne ((List.mem_singleton.1 hmem).trans hnew.symm)
    · refine alive_of_stored ?_ (fun hmem => hnew (List.mem_singleton.1 hmem)) hstart
      rw [hslots, mem_eraseSlot]
      exact ⟨mem_assignSlot.2 (.inr rfl), hnew⟩

/-- **Once one is in, one comes out.**  No call loses the last of the packets behind `start`. -/
theorem Alive.step (h : Alive start b log) (hdoes : VoipJitterBuffer.Does b b' o) (hw : b.Windowed)
    (hstart : start ≤ log.length) : Alive start b' (log ++ [o]) := by
  rcases h with hshown | ⟨slot, hslot, i, hi, hwaiting⟩
  · exact .inl (hshown.concat o)
  cases hdoes with
  | refused same => exact .inr ⟨slot, same ▸ hslot, i, hi, hwaiting.concat fun h => h⟩
  | late started drop => exact .inr ⟨slot, drop ▸ hslot, i, hi, hwaiting.concat fun h => h⟩
  | stored new evicted accepted => exact .stored accepted hw hslot hi hwaiting hstart
  | waited same => exact .inr ⟨slot, same ▸ hslot, i, hi, hwaiting.concat fun h => by cases h.1⟩
  | played shown mem number started advanced slots_eq stats =>
    by_cases hnumber : slot.sequenceNumber = shown.sequenceNumber
    · refine .inl ⟨log.length, VoipJitterBuffer.packetFrame shown, i, slot, List.getElem?_concat_length .., rfl, hi, ?_,
        hnumber.symm⟩
      rwa [List.take_left]
    · refine .inr ⟨slot, ?_, i, hi, hwaiting.concat fun h => hnumber h.2.symm⟩
      rw [slots_eq, mem_eraseSlot, ← number]
      exact ⟨hslot, hnumber⟩
  | concealed timestamp missing started advanced slots_eq stats =>
    exact .inr ⟨slot, slots_eq ▸ hslot, i, hi, hwaiting.concat fun h => by cases h.1⟩

/-- None of the calls behind the first `start` put a packet into the buffer. -/
def NoneStored (start : ℕ) (log : List Outcome) : Prop :=
  ∀ (i : ℕ) slot overwrote evicted, start ≤ i → log[i]? ≠ some (.stored slot overwrote evicted)

theorem NoneStored.not_shown (h : NoneStored start log) : ¬ Shown start log := by
  rintro ⟨k, frame, i, slot, hk, _, hi, hwaiting, _⟩
  obtain ⟨overwrote, evicted, hstored, _⟩ := hwaiting.stored
  have hik : i < k := lt_of_lt_of_le hwaiting.lt_length (List.length_take_le ..)
  rw [List.getElem?_take_of_lt hik] at hstored
  exact h i slot overwrote evicted hi hstored

theorem NoneStored.concat (h : NoneStored start log) (ho : ∀ slot overwrote evicted, o ≠ .stored slot overwrote evicted) :
    NoneStored start (log ++ [o]) := by
  intro i slot overwrote evicted hi hstored
  rcases lt_trichotomy i log.length with hlt | rfl | hgt
  · rw [List.getElem?_append_left hlt] at hstored
    exact h i slot overwrote evicted hi hstored
  · rw [List.getElem?_concat_length, Option.some.injEq] at hstored
    exact ho slot overwrote evicted hstored
  · rw [List.getElem?_eq_none (by rw [List.length_append]; exact hgt)] at hstored
    cases hstored

/-! ### Behind the stall -/

section Stall

variable {s : StalledSender} (polling : Polling s)

/-- One of the packets behind the stall is in, or was played. -/
def Recovered (calls : List JitterCall) : Prop :=
  (polling.calls D s.before).length ≤ calls.length ∧
    Alive (polling.calls D s.before).length (buffer D (s := s) calls) (Polling.log D (s := s) calls)

/-- All the packets behind the stall were late. -/
def AllLate (calls : List JitterCall) : Prop :=
  NoneStored (polling.calls D s.before).length (Polling.log D (s := s) calls) ∧
    (buffer D (s := s) calls).slots.length ≤ 60

variable {polling} {calls : List JitterCall}

theorem Recovered.concat (h : Recovered (D := D) polling calls) (call : JitterCall) :
    Recovered (D := D) polling (calls ++ [call]) := by
  have hw := windowed_buffer (D := D) (s := s) calls
  refine ⟨h.1.trans (by rw [List.length_append]; exact Nat.le_add_right ..), ?_⟩
  rw [buffer_concat, log_concat]
  exact h.2.step (VoipJitterBuffer.does_step hw call) hw (by rw [length_log]; exact h.1)

theorem AllLate.poll (h : AllLate (D := D) polling calls) (now : ℤ) :
    AllLate (D := D) polling (calls ++ [.nextPlayoutFrame now]) := by
  have hdoes := VoipJitterBuffer.does_nextPlayoutFrame (buffer D (s := s) calls) now
  refine ⟨?_, ?_⟩
  · rw [log_concat]
    exact h.1.concat fun _ _ _ heq => by cases heq
  · rw [buffer_concat]
    have hshort : ∀ frame b', VoipJitterBuffer.Does (buffer D (s := s) calls) b' (.frame frame) →
        b'.slots.length ≤ (buffer D (s := s) calls).slots.length := by
      intro frame b' hdoes
      cases hdoes with
      | waited same => rw [same]
      | played slot mem number started advanced slots_eq stats =>
        rw [slots_eq]
        exact List.length_filter_le ..
      | concealed timestamp missing started advanced slots_eq stats => rw [slots_eq]
    exact (hshort _ _ hdoes).trans h.2

theorem inTime_iff (i : ℕ) :
    polling.InTime i ↔ (buffer D (s := s) (polling.calls D i)).started = true →
      distance (buffer D (s := s) (polling.calls D i)).nextSequence (s.first + UInt16.ofNat i) ≤ 32767 := by
  rcases i with _ | i
  · refine iff_of_true ?_ fun hstarted => absurd hstarted Bool.false_ne_true
    show ((0 : ℕ) - ((0 : ℕ) : ℤ)) % 65536 ≤ 32767
    decide
  · have hclock := clock_calls (D := D) polling i
    have hdistance := distance_add s.first (polling.passed (i + 1)) (i + 1)
    rw [hclock.nextSequence_eq, imp_iff_right hclock.started, InTime, ← hdistance]
    omega

theorem AllLate.insert {i : ℕ} (h : AllLate (D := D) polling (polling.calls D i))
    (hlen : (polling.calls D s.before).length ≤ (polling.calls D i).length) :
    polling.InTime i ∧ Recovered (D := D) polling (polling.calls D i ++ [s.insert i]) ∨
      ¬ polling.InTime i ∧ AllLate (D := D) polling (polling.calls D i ++ [s.insert i]) := by
  have hw := windowed_buffer (D := D) (s := s) (polling.calls D i)
  rw [inTime_iff (D := D), Recovered, AllLate, buffer_concat, log_concat]
  rcases VoipJitterBuffer.insert_cases hw s i with ⟨hstarted, hfar, houtcome, hlate⟩ | ⟨_, _, houtcome, haccepted⟩
  · refine .inr ⟨fun hin => by have := hin hstarted; omega, ?_, ?_⟩
    · rw [houtcome]
      exact h.1.concat fun _ _ _ heq => by cases heq
    · cases hlate with
      | late started drop =>
        rw [drop]
        exact h.2
  · refine .inl ⟨haccepted.in_time, ?_, ?_⟩
    · rw [List.length_append]
      exact hlen.trans (Nat.le_add_right ..)
    · rw [houtcome]
      refine alive_of_room haccepted hw (lt_of_le_of_lt h.2 (by decide)) ?_
      rwa [length_log]

theorem recovered_foldl (times : List ℤ) (h : Recovered (D := D) polling calls) :
    Recovered (D := D) polling (times.foldl (andDrain D (s := s)) calls) :=
  foldl_andDrain (P := Recovered (D := D) polling) (fun _ _ hcalls => hcalls.concat _) times h

theorem allLate_foldl (times : List ℤ) (h : AllLate (D := D) polling calls) :
    AllLate (D := D) polling (times.foldl (andDrain D (s := s)) calls) :=
  foldl_andDrain (P := AllLate (D := D) polling) (fun _ now hcalls => hcalls.poll now) times h

theorem length_calls_le {i k : ℕ} (h : i ≤ k) : (polling.calls D i).length ≤ (polling.calls D k).length := by
  induction k, h using Nat.le_induction with
  | base => exact le_rfl
  | succ k _ ih =>
    have hlong : ∀ calls : List JitterCall, (polling.calls D k).length ≤ calls.length →
        (polling.calls D k).length ≤ ((polling.times k).foldl (andDrain D (s := s)) calls).length := by
      intro calls hcalls
      exact foldl_andDrain (P := fun calls => (polling.calls D k).length ≤ calls.length)
        (fun _ _ hle => hle.trans (by rw [List.length_append]; exact Nat.le_add_right ..)) _ hcalls
    refine ih.trans (hlong _ ?_)
    rw [List.length_append]
    exact Nat.le_add_right ..

/-- **The packets behind the stall.** -/
theorem recovered_or_allLate (polling : Polling s) (after : ℕ) :
    (∃ j < after, polling.InTime (s.before + j)) ∧ Recovered (D := D) polling (polling.calls D (s.before + after)) ∨
      (¬ ∃ j < after, polling.InTime (s.before + j)) ∧
        AllLate (D := D) polling (polling.calls D (s.before + after)) := by
  induction after with
  | zero =>
    refine .inr ⟨fun ⟨_, hj, _⟩ => absurd hj (Nat.not_lt_zero _), fun i _ _ _ hi hstored => ?_,
      polling.length_slots_before⟩
    have hlt := (List.getElem?_eq_some_iff.1 hstored).1
    rw [length_log] at hlt
    exact absurd hlt (not_lt.2 hi)
  | succ after ih =>
    have hsplit : (∃ j < after + 1, polling.InTime (s.before + j)) ↔
        (∃ j < after, polling.InTime (s.before + j)) ∨ polling.InTime (s.before + after) := by
      rw [← Nat.exists_lt_succ_right]
    rw [hsplit]
    rcases ih with ⟨hin, hrecovered⟩ | ⟨hlate, hall⟩
    · exact .inl ⟨.inl hin, recovered_foldl _ (hrecovered.concat _)⟩
    · rcases hall.insert (length_calls_le (Nat.le_add_right ..)) with ⟨hin, hrecovered⟩ | ⟨hnot, hall'⟩
      · exact .inl ⟨.inr hin, recovered_foldl _ hrecovered⟩
      · exact .inr ⟨not_or.2 ⟨hlate, hnot⟩, allLate_foldl _ hall'⟩

/-- **What is in the buffer is played**, when the playout is polled late enough. -/
theorem Recovered.shown {i : ℕ} (h : Recovered (D := D) polling (polling.calls D (i + 1))) :
    ∃ time, ∀ now, time ≤ now → Shown (polling.calls D s.before).length
      (Polling.log D (s := s) (andDrain D (s := s) (polling.calls D (i + 1)) now)) := by
  set calls := polling.calls D (i + 1) with hcalls
  have hclock := clock_calls (D := D) polling i
  have hbelow : (buffer D (s := s) calls).Below (polling.passed (i + 1) + 32768) := by
    intro q hq
    have hahead := (windowed_buffer (D := D) (s := s) calls).ahead q hq
    rw [hclock.playoutIndex_eq]
    omega
  -- 32768 frames on, every number that the buffer can hold has been passed
  refine ⟨s.arrivalMs 0 + kMinTargetMs + (polling.passed (i + 1) + 32768 : ℕ) * s.frameMs, fun now hnow => ?_⟩
  have hpassed := (lt_slotsDue s.frameMs_pos _).2 hnow
  have hafter := hclock.drain s.frameMs_pos now
  rw [← buffer_append] at hafter
  have hbelow' : (buffer D (s := s) (andDrain D (s := s) calls now)).Below (polling.passed (i + 1) + 32768) :=
    foldl_andDrain (P := fun calls => (buffer D (s := s) calls).Below (polling.passed (i + 1) + 32768)) below_poll
      [now] hbelow
  have hempty : (buffer D (s := s) (andDrain D (s := s) calls now)).slots = [] := by
    rw [List.eq_nil_iff_forall_not_mem]
    intro slot hslot
    have hq := hbelow' _ (mem_keys.2 ⟨slot, hslot, rfl⟩)
    rw [andDrain, hafter.playoutIndex_eq] at hq
    omega
  rcases (recovered_foldl [now] h).2 with hshown | ⟨slot, hslot, _⟩
  · exact hshown
  · rw [List.foldl_cons, List.foldl_nil, hempty] at hslot
    cases hslot

variable (D polling)

theorem recovers_of_inTime {after : ℕ} (h : ∃ j < after, polling.InTime (s.before + j)) :
    polling.Recovers D after := by
  rcases recovered_or_allLate (D := D) polling after with ⟨_, hrecovered⟩ | ⟨hnone, _⟩
  · obtain ⟨j, hj, _⟩ := h
    obtain ⟨i, hi⟩ : ∃ i, s.before + after = i + 1 := Nat.exists_eq_succ_of_ne_zero (by omega)
    rw [hi] at hrecovered
    rw [Recovers, hi]
    exact hrecovered.shown
  · exact absurd h hnone

theorem not_recovers_of_late {after : ℕ} (h : ¬ ∃ j < after, polling.InTime (s.before + j)) :
    ¬ polling.Recovers D after := by
  rintro ⟨time, hshown⟩
  rcases recovered_or_allLate (D := D) polling after with ⟨hin, _⟩ | ⟨_, hall⟩
  · exact absurd hin h
  · exact (allLate_foldl [time] hall).1.not_shown (hshown time le_rfl)

/-- **The playout recovers from a stall exactly when one of the packets behind it is in time**: its number is not below
the number of slots that are over at the last poll before it, or so far below it that the 16-bit numbers have come round
to 32767 or less again. -/
theorem recovers_iff (after : ℕ) : polling.Recovers D after ↔ ∃ j < after, polling.InTime (s.before + j) := by
  by_cases h : ∃ j < after, polling.InTime (s.before + j)
  · exact iff_of_true (recovers_of_inTime D polling h) h
  · exact iff_of_false (not_recovers_of_late D polling h) h

end Stall

end Polling

theorem StalledSender.arrivalMs_le_succ (s : StalledSender) (i : ℕ) : s.arrivalMs i ≤ s.arrivalMs (i + 1) := by
  have hframe := s.frameMs_pos
  unfold arrivalMs
  push_cast
  rw [add_mul]
  split <;> split <;> omega

/-- A drain whenever a packet has come, and one when the next is about to. -/
def Polling.atArrivals (s : StalledSender) : Polling s where
  times := fun i => [s.arrivalMs i, s.arrivalMs (i + 1)]
  times_ne := fun _ => List.cons_ne_nil _ _
  sorted := fun i => List.pairwise_pair.2 (s.arrivalMs_le_succ i)
  after_arrival := by
    intro i now hnow
    rcases List.mem_pair.1 hnow with rfl | rfl
    · exact le_rfl
    · exact s.arrivalMs_le_succ i
  before_next := by
    intro i now hnow
    rcases List.mem_pair.1 hnow with rfl | rfl
    · exact s.arrivalMs_le_succ i
    · exact le_rfl

/-- Behind a stall of 60 ms or more every packet is late, if the stall is short enough for the numbers not to come
round. -/
theorem Polling.not_inTime_atArrivals (s : StalledSender) (hbefore : 0 < s.before) (hlong : 60 ≤ s.stallMs)
    (hshort : (s.stallMs : ℤ) < 60 + 32768 * s.frameMs) (j : ℕ) : ¬ (atArrivals s).InTime (s.before + j) := by
  obtain ⟨i, hi⟩ : ∃ i, s.before + j = i + 1 := Nat.exists_eq_succ_of_ne_zero (by omega)
  have hstart : s.arrivalMs 0 + kMinTargetMs = s.startMs + 60 := by
    rw [arrivalMs_of_lt hbefore, Nat.cast_zero, zero_mul, add_zero]
    rfl
  have harrival : s.arrivalMs (i + 1) = s.startMs + (i + 1 : ℕ) * s.frameMs + s.stallMs := by
    rw [StalledSender.arrivalMs, if_neg (by omega)]
  have hpassed : (atArrivals s).passed (i + 1) = slotsDue (s.startMs + 60) s.frameMs (s.arrivalMs (i + 1)) := by
    rw [← hstart]
    rfl
  -- the slots that the stall has cost are between 1 and 32768
  set missed := ((s.stallMs : ℤ) - 60) / s.frameMs with hmissed
  have hdiv : (s.arrivalMs (i + 1) - (s.startMs + 60)) / s.frameMs = missed + (i + 1 : ℕ) := by
    rw [harrival, hmissed, ← Int.add_mul_ediv_right _ _ s.frameMs_pos.ne']
    congr 1
    ring
  have hmin : 0 ≤ missed := Int.ediv_nonneg (by omega) s.frameMs_pos.le
  have hmax : missed < 32768 := Int.ediv_lt_of_lt_mul s.frameMs_pos (by omega)
  have hmul : (0 : ℤ) ≤ (i + 1 : ℕ) * s.frameMs := mul_nonneg (Int.natCast_nonneg _) s.frameMs_pos.le
  rw [slotsDue, hdiv, if_neg (by omega)] at hpassed
  rw [InTime, hi, hpassed]
  push_cast
  omega

/-- One packet of 60 ms, a second of silence, and then packets for ever. -/
def secondOfSilence : StalledSender where
  frameMs := 60
  startMs := 0
  first := 0
  before := 1
  stallMs := 1000
  timestamp := fun i => 60 * UInt32.ofNat i
  payload := fun _ => [1]
  frameMs_pos := by decide
  payload_ne := fun _ => List.cons_ne_nil _ _

/-- **A second of silence is not recovered from.** -/
theorem not_recovers_from_second :
    ¬ ∀ (s : StalledSender) (polling : Polling s) (after : ℕ), 128 ≤ after →
      polling.Recovers VoipJitterBuffer.wholeMilliseconds after := by
  intro h
  refine Polling.not_recovers_of_late _ _ ?_ (h secondOfSilence (.atArrivals _) 128 le_rfl)
  rintro ⟨j, _, hin⟩
  exact Polling.not_inTime_atArrivals secondOfSilence (by decide) (by decide) (by decide) j hin

end VianiumVoip.Relay
