import VianiumVoip.Lib.Blocks
import VianiumVoip.Lib.BoundedQueue
import VianiumVoip.Lib.Run

/-!
# The queues of the audio device

`WinrtVoipAudioDevice` cuts what the microphone brings into frames of 60 ms, of which eight wait for `ReadFrame`, and
puts the frames of `WriteFrame`, of which twelve wait, together again for the speaker.  Each direction has a lock of its
own, held by each call, but for the time that `ReadFrame` waits.

The frames that are read are blocks of the input, and the oldest ones are dropped where nobody reads
(`capture_frames`).  What the speaker gets are the samples of the frames that have not been dropped, with silence where
there is none (`render_samples`).  Both are `audio_queues`.
-/

namespace VianiumVoip.Engine.AudioQueues

open VianiumVoip.Lib BoundedQueue

abbrev Samples : Type := List Int16

/-- `FrameSamples`: 60 ms at 48 kHz. -/
def FrameSamples : ℕ := 48000 / 1000 * 60

/-- `while (frames.size() >= capacity) frames.pop_front()` -/
def makeRoom {α : Type} (capacity : ℕ) (frames : List α) : List α :=
  evict (fun frames => frames.length < capacity) frames

/-! ## Capture -/

/-- A frame of the queue, as `PushCaptureSamples` cuts it. -/
abbrev CaptureFrame : Type := { pcm : Samples // pcm.length = FrameSamples }

/-- The fields of the capture, the calls of `ReadFrame` that wait, and what the others have returned. -/
structure CaptureDevice where
  /-- `m_open` -/
  isOpen : Bool
  muted : Bool := false
  captureFrames : List CaptureFrame := []
  captureScratch : Samples := []
  waiting : ℕ := 0
  results : List (Except String Samples) := []

/-- What `PushCaptureSamples` gets: samples, or a null pointer and their number. -/
inductive Chunk
  | samples (pcm : Samples)
  | silent (sampleCount : ℕ)
  deriving DecidableEq

def Chunk.pcm : Chunk → Samples
  | .samples pcm => pcm
  | .silent sampleCount => List.replicate sampleCount 0

namespace CaptureDevice

/-- The loop of `PushCaptureSamples`. -/
def cutFrames (scratch : Samples) (frames : List CaptureFrame) : Samples × List CaptureFrame :=
  if h : FrameSamples ≤ scratch.length then
    cutFrames (scratch.drop FrameSamples)
      (makeRoom 8 frames ++ [⟨scratch.take FrameSamples, List.length_take_of_le h⟩])
  else (scratch, frames)
termination_by scratch.length
decreasing_by
  have hpos : 0 < FrameSamples := by decide
  rw [List.length_drop]
  omega

/-- `PushCaptureSamples` -/
def pushCaptureSamples (s : CaptureDevice) (chunk : Chunk) : CaptureDevice :=
  if chunk.pcm = [] then s
  else
    let (scratch, frames) := cutFrames (s.captureScratch ++ chunk.pcm) s.captureFrames
    { s with captureFrames := frames, captureScratch := scratch }

def return_ (s : CaptureDevice) (result : Except String Samples) : CaptureDevice :=
  { s with results := s.results ++ [result] }

/-- What a muted device makes of a frame. -/
def heard (frame : Samples) (muted : Bool) : Samples := if muted then List.replicate frame.length 0 else frame

/-- `ReadFrame` once it has a frame. -/
def popFrame (s : CaptureDevice) (frame : CaptureFrame) (frames : List CaptureFrame) : CaptureDevice :=
  { s with captureFrames := frames }.return_ (.ok (heard frame.1 s.muted))

/-- `ReadFrame`, up to its wait. -/
def readFrame (s : CaptureDevice) (pcmNull : Bool) : CaptureDevice :=
  if pcmNull then s.return_ (.error "audio read destination is null")
  else if !s.isOpen then s.return_ (.error "audio device is not open")
  else
    match s.captureFrames with
    | [] => { s with waiting := s.waiting + 1 }
    | frame :: frames => s.popFrame frame frames

/-- `ReadFrame` behind its wait, which ends with a notification, without one, or when it times out. -/
def endWait (s : CaptureDevice) : CaptureDevice :=
  let s := { s with waiting := s.waiting - 1 }
  match s.captureFrames with
  | [] => s.return_ (.error "audio capture timed out")
  | frame :: frames => s.popFrame frame frames

/-- The frames that have been read. -/
def framesRead (s : CaptureDevice) : List Samples := s.results.filterMap Except.toOption

end CaptureDevice

inductive CaptureEvent
  | push (chunk : Chunk)
  | readFrame (pcmNull : Bool)
  | endWait
  | setMuted (muted : Bool)
  deriving DecidableEq

def CaptureEvent.pcm : CaptureEvent → Samples
  | .push chunk => chunk.pcm
  | .readFrame _ | .endWait | .setMuted _ => []

namespace CaptureDevice

def step (s : CaptureDevice) : CaptureEvent → CaptureDevice
  | .push chunk => s.pushCaptureSamples chunk
  | .readFrame pcmNull => s.readFrame pcmNull
  | .endWait => if s.waiting = 0 then s else s.endWait
  | .setMuted muted => { s with muted := muted }

/-- A device with empty queues after some events. -/
def after (isOpen : Bool) (events : List CaptureEvent) : CaptureDevice := Run.run step { isOpen := isOpen } events

end CaptureDevice

/-- What the microphone has brought. -/
def captureInput (events : List CaptureEvent) : Samples := events.flatMap CaptureEvent.pcm

/-! ## Render -/

/-- A frame of the queue, as `WriteFrame` accepts it. -/
abbrev RenderFrame : Type := { pcm : Samples // pcm ≠ [] }

/-- What one `FillRenderSamples` writes: samples of the queue, and zeros behind them. -/
structure Filled where
  copied : Samples
  silent : ℕ
  deriving DecidableEq

def Filled.samples (filled : Filled) : Samples := filled.copied ++ List.replicate filled.silent 0

/-- The fields of the render side, what the calls of `WriteFrame` have returned and what the speaker got. -/
structure RenderDevice where
  /-- `m_open` -/
  isOpen : Bool
  renderFrames : List RenderFrame := []
  renderScratch : Samples := []
  results : List (Except String Unit) := []
  fills : List Filled := []

namespace RenderDevice

/-- The scratch of the next turn, which is not empty: its own samples, or a frame of the queue. -/
def refill : Samples → List RenderFrame → Option (RenderFrame × List RenderFrame)
  | [], [] => none
  | [], frame :: frames => some (frame, frames)
  | a :: scratch, frames => some (⟨a :: scratch, List.cons_ne_nil a scratch⟩, frames)

/-- The loop of `FillRenderSamples`, with `sampleCount - written` for what is missing. -/
def fillLoop (missing : ℕ) (scratch : Samples) (frames : List RenderFrame) :
    Filled × Samples × List RenderFrame :=
  if missing = 0 then (⟨[], 0⟩, scratch, frames)
  else
    match refill scratch frames with
    | none => (⟨[], missing⟩, scratch, frames)
    | some (scratch, frames) =>
      let toCopy := min scratch.1.length missing
      let (filled, rest) := fillLoop (missing - toCopy) (scratch.1.drop toCopy) frames
      ({ filled with copied := scratch.1.take toCopy ++ filled.copied }, rest)
termination_by missing
decreasing_by
  have hpos : 0 < scratch.1.length := List.length_pos_of_ne_nil scratch.2
  omega

/-- `FillRenderSamples` -/
def fillRenderSamples (s : RenderDevice) (samplesNull : Bool) (sampleCount : ℕ) : RenderDevice :=
  if samplesNull ∨ sampleCount = 0 then s
  else
    let (filled, scratch, frames) := fillLoop sampleCount s.renderScratch s.renderFrames
    { s with renderFrames := frames, renderScratch := scratch, fills := s.fills ++ [filled] }

def return_ (s : RenderDevice) (result : Except String Unit) : RenderDevice :=
  { s with results := s.results ++ [result] }

/-- The copy that `WriteFrame` makes, if its pointer is not null and there are samples. -/
def copyFrame : Option Samples → Option RenderFrame
  | none => none
  | some [] => none
  | some (a :: pcm) => some ⟨a :: pcm, List.cons_ne_nil a pcm⟩

/-- `WriteFrame` -/
def writeFrame (s : RenderDevice) (pcm : Option Samples) : RenderDevice :=
  if !s.isOpen then s.return_ (.error "audio device is not open")
  else
    match copyFrame pcm with
    | none => s.return_ (.error "audio render frame is empty")
    | some frame => { s with renderFrames := makeRoom 12 s.renderFrames ++ [frame] }.return_ (.ok ())

end RenderDevice

inductive RenderEvent
  | writeFrame (pcm : Option Samples)
  | fill (samplesNull : Bool) (sampleCount : ℕ)
  deriving DecidableEq

namespace RenderDevice

def step (s : RenderDevice) : RenderEvent → RenderDevice
  | .writeFrame pcm => s.writeFrame pcm
  | .fill samplesNull sampleCount => s.fillRenderSamples samplesNull sampleCount

/-- A device with empty queues after some events. -/
def after (isOpen : Bool) (events : List RenderEvent) : RenderDevice := Run.run step { isOpen := isOpen } events

/-- The samples that wait for the speaker. -/
def pending (s : RenderDevice) : Samples := s.renderScratch ++ (s.renderFrames.map Subtype.val).flatten

end RenderDevice

def RenderEvent.frame : RenderEvent → Option RenderFrame
  | .writeFrame pcm => RenderDevice.copyFrame pcm
  | .fill _ _ => none

/-- The frames that have been accepted. -/
def framesWritten (isOpen : Bool) (events : List RenderEvent) : List RenderFrame :=
  if isOpen then events.filterMap RenderEvent.frame else []

/-! ## What one call does to the capture -/

theorem makeRoom_append {α : Type} {capacity : ℕ} (h : 0 < capacity) (frames : List α) (frame : α) :
    makeRoom capacity frames ++ [frame] = evict (fun frames => frames.length ≤ capacity) (frames ++ [frame]) :=
  evict_lt_append h frames frame

theorem blocks_frames (frames : List CaptureFrame) {rest : Samples} (hrest : rest.length < FrameSamples) :
    blocks FrameSamples ((frames.map Subtype.val).flatten ++ rest) = frames.map Subtype.val := by
  refine blocks_flatten_append (by decide) ?_ hrest
  intro block hblock
  obtain ⟨frame, -, rfl⟩ := List.mem_map.1 hblock
  exact frame.2

namespace CaptureDevice

/-- **What the loop cuts**: all of the scratch but a rest that is no frame, and the last frames stay. -/
theorem cutFrames_spec (scratch : Samples) (frames : List CaptureFrame) (h : frames.length ≤ 8) :
    ∃ cut : List CaptureFrame,
      (cut.map Subtype.val).flatten ++ (cutFrames scratch frames).1 = scratch ∧
      (cutFrames scratch frames).1.length < FrameSamples ∧
      (cutFrames scratch frames).2 = evict (fun frames => frames.length ≤ 8) (frames ++ cut) := by
  fun_induction cutFrames scratch frames with
  | case1 scratch frames hlong ih =>
    have hroom := makeRoom_append (by decide : 0 < 8) frames
      (⟨scratch.take FrameSamples, List.length_take_of_le hlong⟩ : CaptureFrame)
    rw [hroom] at ih ⊢
    obtain ⟨cut, hflatten, hrest, hframes⟩ := ih (length_evict_le _)
    refine ⟨⟨scratch.take FrameSamples, List.length_take_of_le hlong⟩ :: cut, ?_, hrest, ?_⟩
    · rw [List.map_cons, List.flatten_cons, List.append_assoc, hflatten, List.take_append_drop]
    · rw [hframes, evict_evict_append length_le_of_append, List.append_assoc, List.singleton_append]
  | case2 scratch frames hshort =>
    refine ⟨[], rfl, Nat.lt_of_not_le hshort, ?_⟩
    rw [List.append_nil, evict_of_fits h]

theorem framesRead_return_ok (s : CaptureDevice) (pcm : Samples) :
    (s.return_ (.ok pcm)).framesRead = s.framesRead ++ [pcm] := by
  rw [framesRead, return_, List.filterMap_append]
  rfl

theorem framesRead_return_error (s : CaptureDevice) (error : String) :
    (s.return_ (.error error)).framesRead = s.framesRead := by
  rw [framesRead, return_, List.filterMap_append]
  exact List.append_nil _

/-- The queue, the scratch and what has been read, told by the samples that have come. -/
structure Inv (input : Samples) (s : CaptureDevice) : Prop where
  queued : s.captureFrames.length ≤ 8
  scratch : s.captureScratch.length < FrameSamples
  frames : ∃ (arrivals : List CaptureFrame) (left : List (CaptureFrame × Option Bool)),
    (arrivals.map Subtype.val).flatten ++ s.captureScratch = input ∧ Accounts left s.captureFrames arrivals ∧
    s.framesRead = (taken left).map fun entry => heard entry.1.1 entry.2

variable {input : Samples} {s : CaptureDevice}

theorem inv_new (isOpen : Bool) : Inv [] { isOpen := isOpen } := by
  have hpos : 0 < FrameSamples := by decide
  exact ⟨Nat.zero_le 8, hpos, [], [], rfl, rfl, rfl⟩

theorem Inv.congr {s' : CaptureDevice} (h : Inv input s) (hframes : s'.captureFrames = s.captureFrames)
    (hscratch : s'.captureScratch = s.captureScratch) (hread : s'.framesRead = s.framesRead) : Inv input s' := by
  obtain ⟨hqueued, hrest, hall⟩ := h
  refine ⟨?_, ?_, ?_⟩
  · rwa [hframes]
  · rwa [hscratch]
  · rwa [hframes, hscratch, hread]

theorem Inv.popFrame (h : Inv input s) {frame : CaptureFrame} {frames : List CaptureFrame}
    (hframes : s.captureFrames = frame :: frames) : Inv input (s.popFrame frame frames) := by
  obtain ⟨hqueued, hscratch, arrivals, left, hinput, haccounts, hread⟩ := h
  rw [hframes] at hqueued haccounts
  refine ⟨Nat.le_of_succ_le hqueued, hscratch, arrivals, left ++ [(frame, some s.muted)], hinput,
    haccounts.take s.muted, ?_⟩
  rw [taken_append_taken, List.map_append, ← hread]
  exact framesRead_return_ok _ _

theorem pushCaptureSamples_eq (s : CaptureDevice) {chunk : Chunk} (h : chunk.pcm ≠ []) :
    s.pushCaptureSamples chunk
      = { s with
          captureFrames := (cutFrames (s.captureScratch ++ chunk.pcm) s.captureFrames).2
          captureScratch := (cutFrames (s.captureScratch ++ chunk.pcm) s.captureFrames).1 } := if_neg h

theorem Inv.push (h : Inv input s) (chunk : Chunk) : Inv (input ++ chunk.pcm) (s.pushCaptureSamples chunk) := by
  by_cases hempty : chunk.pcm = []
  · rw [pushCaptureSamples, if_pos hempty, hempty, List.append_nil]
    exact h
  · obtain ⟨hqueued, hscratch, arrivals, left, hinput, haccounts, hread⟩ := h
    obtain ⟨cut, hflatten, hrest, hframes⟩ := cutFrames_spec (s.captureScratch ++ chunk.pcm) s.captureFrames hqueued
    obtain ⟨dropped, hdropped⟩ := haccounts.arrive (fun frames => frames.length ≤ 8) cut
    rw [pushCaptureSamples_eq s hempty]
    refine ⟨?_, hrest, arrivals ++ cut, left ++ dropped.map (·, none), ?_, ?_, ?_⟩
    · rw [hframes]
      exact length_evict_le _
    · rw [List.map_append, List.flatten_append, List.append_assoc, hflatten, ← List.append_assoc, hinput]
    · rw [hframes]
      exact hdropped
    · rw [taken_append_dropped]
      exact hread

/-- **An event** adds what it brings. -/
theorem Inv.step (h : Inv input s) (event : CaptureEvent) : Inv (input ++ event.pcm) (s.step event) := by
  cases event with
  | push chunk => exact h.push chunk
  | readFrame pcmNull =>
    rw [CaptureEvent.pcm, List.append_nil, CaptureDevice.step, readFrame]
    split
    · exact h.congr rfl rfl (framesRead_return_error ..)
    split
    · exact h.congr rfl rfl (framesRead_return_error ..)
    split
    · exact h.congr rfl rfl rfl
    · next hframes => exact h.popFrame hframes
  | endWait =>
    rw [CaptureEvent.pcm, List.append_nil, CaptureDevice.step]
    split
    · exact h
    · have hwaiting : Inv input { s with waiting := s.waiting - 1 } := h.congr rfl rfl rfl
      rw [endWait]
      split
      · exact hwaiting.congr rfl rfl (framesRead_return_error ..)
      · next hframes => exact hwaiting.popFrame hframes
  | setMuted muted =>
    rw [CaptureEvent.pcm, List.append_nil]
    exact h.congr rfl rfl rfl

theorem Inv.run (h : Inv input s) (events : List CaptureEvent) :
    Inv (input ++ captureInput events) (Run.run CaptureDevice.step s events) := by
  induction events generalizing input s with
  | nil => exact (List.append_nil input).symm ▸ h
  | cons event events ih =>
    rw [Run.run_cons, captureInput, List.flatMap_cons, ← List.append_assoc]
    exact ih (h.step event)

/-- **The blocks that a push adds**: the last eight of them and the frames that wait stay. -/
theorem captureFrames_push (h : Inv input s) (chunk : Chunk) :
    (s.pushCaptureSamples chunk).captureFrames.map Subtype.val
      = (s.captureFrames.map Subtype.val ++ blocks FrameSamples (s.captureScratch ++ chunk.pcm)).drop
          ((s.captureFrames.map Subtype.val ++ blocks FrameSamples (s.captureScratch ++ chunk.pcm)).length - 8) := by
  by_cases hempty : chunk.pcm = []
  · have hqueued : (s.captureFrames.map Subtype.val).length - 8 = 0 := by
      rw [List.length_map]
      exact Nat.sub_eq_zero_of_le h.queued
    rw [pushCaptureSamples, if_pos hempty, hempty, List.append_nil, blocks_of_lt h.scratch, List.append_nil, hqueued,
      List.drop_zero]
  · obtain ⟨cut, hflatten, hrest, hframes⟩ := cutFrames_spec (s.captureScratch ++ chunk.pcm) s.captureFrames h.queued
    have hblocks : blocks FrameSamples (s.captureScratch ++ chunk.pcm) = cut.map Subtype.val := by
      rw [← hflatten, blocks_frames cut hrest]
    rw [pushCaptureSamples_eq s hempty, hblocks, ← List.map_append, List.length_map, ← List.map_drop,
      ← evict_length_le, hframes]

/-- A call of `ReadFrame` that looks into the queue. -/
def Looks (s : CaptureDevice) : CaptureEvent → Prop
  | .readFrame pcmNull => s.isOpen = true ∧ pcmNull = false
  | .endWait => 0 < s.waiting
  | _ => False

theorem step_looks {event : CaptureEvent} (h : s.Looks event) {frame : CaptureFrame} {frames : List CaptureFrame}
    (hframes : s.captureFrames = frame :: frames) :
    (s.step event).captureFrames = frames ∧
      (s.step event).framesRead = s.framesRead ++ [heard frame.1 s.muted] := by
  cases event with
  | push chunk => exact h.elim
  | readFrame pcmNull =>
    obtain ⟨hopen, rfl⟩ := h
    have hpop : s.step (.readFrame false) = s.popFrame frame frames := by
      simp [CaptureDevice.step, readFrame, hopen, hframes]
    rw [hpop]
    exact ⟨rfl, framesRead_return_ok _ _⟩
  | endWait =>
    have hpop : s.step .endWait = { s with waiting := s.waiting - 1 }.popFrame frame frames := by
      simp [CaptureDevice.step, Nat.pos_iff_ne_zero.1 h, endWait, hframes]
    rw [hpop]
    exact ⟨rfl, framesRead_return_ok _ _⟩
  | setMuted muted => exact h.elim

end CaptureDevice

/-! ## What one call does to the render side -/

namespace RenderDevice

theorem refill_none {scratch : Samples} {frames : List RenderFrame} (h : refill scratch frames = none) :
    scratch = [] ∧ frames = [] := by
  cases scratch with
  | nil =>
    cases frames with
    | nil => exact ⟨rfl, rfl⟩
    | cons frame frames => cases h
  | cons a scratch => cases h

theorem refill_some {scratch : Samples} {frames frames' : List RenderFrame} {scratch' : RenderFrame}
    (h : refill scratch frames = some (scratch', frames')) :
    ∃ popped : List RenderFrame, popped ++ frames' = frames ∧
      scratch'.1 = scratch ++ (popped.map Subtype.val).flatten := by
  cases scratch with
  | nil =>
    cases frames with
    | nil => cases h
    | cons frame frames =>
      cases h
      exact ⟨[scratch'], rfl, (List.append_nil _).symm⟩
  | cons a scratch =>
    cases h
    exact ⟨[], rfl, (List.append_nil _).symm⟩

/-- **What the loop copies**: samples of the scratch and of the first frames, and zeros only when all are gone. -/
theorem fillLoop_spec (missing : ℕ) (scratch : Samples) (frames : List RenderFrame) :
    ∃ popped : List RenderFrame,
      popped ++ (fillLoop missing scratch frames).2.2 = frames ∧
      (fillLoop missing scratch frames).1.copied ++ (fillLoop missing scratch frames).2.1
        = scratch ++ (popped.map Subtype.val).flatten ∧
      (fillLoop missing scratch frames).1.copied.length + (fillLoop missing scratch frames).1.silent = missing ∧
      ((fillLoop missing scratch frames).1.silent = 0 ∨
        (fillLoop missing scratch frames).2.1 = [] ∧ (fillLoop missing scratch frames).2.2 = []) := by
  fun_induction fillLoop missing scratch frames with
  | case1 scratch frames => exact ⟨[], rfl, (List.append_nil _).symm, rfl, .inl rfl⟩
  | case2 missing scratch frames hmissing hnone =>
    obtain ⟨rfl, rfl⟩ := refill_none hnone
    exact ⟨[], rfl, rfl, Nat.zero_add missing, .inr ⟨rfl, rfl⟩⟩
  | case3 missing scratch frames hmissing scratch' frames' hsome toCopy filled rest hloop ih =>
    obtain ⟨first, hfirst, hscratch⟩ := refill_some hsome
    rw [hloop] at ih
    obtain ⟨popped, hpopped, hcopied, hlength, hzeros⟩ := ih
    refine ⟨first ++ popped, ?_, ?_, ?_, hzeros⟩
    · rw [List.append_assoc, hpopped, hfirst]
    · rw [List.append_assoc, hcopied, ← List.append_assoc, List.take_append_drop, hscratch, List.map_append,
        List.flatten_append, List.append_assoc]
    · have htake : (scratch'.1.take toCopy).length = toCopy := List.length_take_of_le (Nat.min_le_left _ _)
      have hle : toCopy ≤ missing := Nat.min_le_right _ _
      have hrest : filled.copied.length + filled.silent = missing - toCopy := hlength
      change (scratch'.1.take toCopy ++ filled.copied).length + filled.silent = missing
      rw [List.length_append, htake, Nat.add_assoc, hrest, Nat.add_sub_cancel' hle]

/-- The queue, the scratch and what the speaker got, told by the frames that have been written. -/
structure Inv (written : List RenderFrame) (s : RenderDevice) : Prop where
  queued : s.renderFrames.length ≤ 12
  frames : ∃ left : List (RenderFrame × Option Unit), Accounts left s.renderFrames written ∧
    (s.fills.map Filled.copied).flatten ++ s.renderScratch = ((taken left).map fun entry => entry.1.1).flatten

variable {written : List RenderFrame} {s : RenderDevice}

theorem inv_new (isOpen : Bool) : Inv [] { isOpen := isOpen } := ⟨Nat.zero_le 12, [], rfl, rfl⟩

theorem exists_taken {left : List (RenderFrame × Option Unit)} {popped frames : List RenderFrame}
    (h : Accounts left (popped ++ frames) written) :
    ∃ left' : List (RenderFrame × Option Unit), Accounts left' frames written ∧
      ((taken left').map fun entry => entry.1.1).flatten
        = ((taken left).map fun entry => entry.1.1).flatten ++ (popped.map Subtype.val).flatten := by
  induction popped generalizing left with
  | nil => exact ⟨left, h, (List.append_nil _).symm⟩
  | cons frame popped ih =>
    obtain ⟨left', haccounts, hflatten⟩ := ih (h.take ())
    refine ⟨left', haccounts, ?_⟩
    rw [hflatten, taken_append_taken, List.map_append, List.flatten_append, List.append_assoc, List.map_singleton,
      List.flatten_singleton, List.map_cons, List.flatten_cons]

theorem fillRenderSamples_eq (s : RenderDevice) {sampleCount : ℕ} (h : sampleCount ≠ 0) :
    s.fillRenderSamples false sampleCount
      = { s with
          renderFrames := (fillLoop sampleCount s.renderScratch s.renderFrames).2.2
          renderScratch := (fillLoop sampleCount s.renderScratch s.renderFrames).2.1
          fills := s.fills ++ [(fillLoop sampleCount s.renderScratch s.renderFrames).1] } :=
  if_neg (not_or_intro Bool.false_ne_true h)

theorem Inv.fill (h : Inv written s) (samplesNull : Bool) (sampleCount : ℕ) :
    Inv written (s.fillRenderSamples samplesNull sampleCount) := by
  by_cases hnothing : samplesNull ∨ sampleCount = 0
  · rw [fillRenderSamples, if_pos hnothing]
    exact h
  · obtain ⟨hnull, hcount⟩ := not_or.1 hnothing
    obtain ⟨hqueued, left, haccounts, hcopied⟩ := h
    obtain ⟨popped, hpopped, hloop, -, -⟩ := fillLoop_spec sampleCount s.renderScratch s.renderFrames
    rw [← hpopped] at haccounts
    obtain ⟨left', haccounts', hflatten⟩ := exists_taken haccounts
    rw [eq_false_of_ne_true hnull, fillRenderSamples_eq s hcount]
    refine ⟨?_, left', haccounts', ?_⟩
    · have hlength := congrArg List.length hpopped
      rw [List.length_append] at hlength
      exact (Nat.le_of_add_left_le hlength.le).trans hqueued
    · rw [List.map_append, List.flatten_append, List.append_assoc, hflatten, ← hcopied, List.append_assoc, ← hloop]
      simp

theorem Inv.write (h : Inv written s) (frame : RenderFrame) :
    Inv (written ++ [frame]) { s with renderFrames := makeRoom 12 s.renderFrames ++ [frame] } := by
  obtain ⟨hqueued, left, haccounts, hcopied⟩ := h
  obtain ⟨dropped, hdropped⟩ := haccounts.arrive (fun frames => frames.length ≤ 12) [frame]
  rw [makeRoom_append (by decide)]
  refine ⟨length_evict_le _, left ++ dropped.map (·, none), hdropped, ?_⟩
  rw [taken_append_dropped]
  exact hcopied

/-- **An event** writes the frame that it brings, on an open device. -/
theorem Inv.step (h : Inv written s) (event : RenderEvent) :
    Inv (written ++ framesWritten s.isOpen [event]) (s.step event) := by
  cases event with
  | writeFrame pcm =>
    rw [RenderDevice.step, writeFrame, framesWritten]
    cases hopen : s.isOpen with
    | false => exact (List.append_nil written).symm ▸ ⟨h.queued, h.frames⟩
    | true =>
      have hframe : [RenderEvent.writeFrame pcm].filterMap RenderEvent.frame = (copyFrame pcm).toList := by
        rw [List.filterMap_cons, RenderEvent.frame]
        cases copyFrame pcm <;> rfl
      rw [if_pos rfl, hframe]
      cases hcopy : copyFrame pcm with
      | none => exact (List.append_nil written).symm ▸ ⟨h.queued, h.frames⟩
      | some frame =>
        have hwrite := h.write frame
        exact ⟨hwrite.queued, hwrite.frames⟩
  | fill samplesNull sampleCount =>
    have hnone : framesWritten s.isOpen [.fill samplesNull sampleCount] = [] := ite_self _
    rw [hnone, List.append_nil]
    exact h.fill samplesNull sampleCount

theorem isOpen_step (s : RenderDevice) (event : RenderEvent) : (s.step event).isOpen = s.isOpen := by
  cases event with
  | writeFrame pcm =>
    rw [RenderDevice.step, writeFrame]
    split
    · rfl
    split <;> rfl
  | fill samplesNull sampleCount =>
    rw [RenderDevice.step, fillRenderSamples]
    split <;> rfl

theorem isOpen_after (isOpen : Bool) (events : List RenderEvent) : (after isOpen events).isOpen = isOpen := by
  have hstep : ∀ (s : RenderDevice) (event : RenderEvent), s.isOpen = isOpen → (s.step event).isOpen = isOpen :=
    fun s event hs => (isOpen_step s event).trans hs
  exact Run.invariant_run_of_step hstep events rfl

theorem renderFrames_write (hopen : s.isOpen = true) (frame : RenderFrame) :
    (s.step (.writeFrame (some frame.1))).renderFrames
      = (s.renderFrames ++ [frame]).drop ((s.renderFrames ++ [frame]).length - 12) := by
  have hcopy : copyFrame (some frame.1) = some frame := by
    obtain ⟨pcm, hpcm⟩ := frame
    obtain ⟨a, pcm, rfl⟩ := List.exists_cons_of_ne_nil hpcm
    rfl
  rw [← evict_length_le, ← makeRoom_append (by decide), RenderDevice.step, writeFrame, hopen, hcopy]
  rfl

theorem framesWritten_cons (isOpen : Bool) (event : RenderEvent) (events : List RenderEvent) :
    framesWritten isOpen (event :: events) = framesWritten isOpen [event] ++ framesWritten isOpen events := by
  cases isOpen with
  | false => rfl
  | true => exact List.filterMap_append (l := [event])

theorem Inv.run (h : Inv written s) (events : List RenderEvent) :
    Inv (written ++ framesWritten s.isOpen events) (Run.run RenderDevice.step s events) := by
  induction events generalizing written s with
  | nil =>
    have hnone : framesWritten s.isOpen [] = [] := ite_self _
    rw [hnone, List.append_nil]
    exact h
  | cons event events ih =>
    have hstep := ih (h.step event)
    rw [isOpen_step, List.append_assoc, ← framesWritten_cons] at hstep
    exact hstep

/-- **One fill** takes the first samples that wait, and puts zeros behind them where they are too few. -/
theorem fillRenderSamples_spec (s : RenderDevice) {sampleCount : ℕ} (h : 0 < sampleCount) :
    ∃ filled : Filled, (s.fillRenderSamples false sampleCount).fills = s.fills ++ [filled] ∧
      filled.samples.length = sampleCount ∧ filled.copied = s.pending.take sampleCount ∧
      filled.silent = sampleCount - s.pending.length ∧
      (s.fillRenderSamples false sampleCount).pending = s.pending.drop sampleCount := by
  obtain ⟨popped, hpopped, hloop, hlength, hzeros⟩ := fillLoop_spec sampleCount s.renderScratch s.renderFrames
  rw [fillRenderSamples_eq s (Nat.pos_iff_ne_zero.1 h)]
  generalize fillLoop sampleCount s.renderScratch s.renderFrames = loop at hpopped hloop hlength hzeros ⊢
  obtain ⟨filled, scratch, frames⟩ := loop
  dsimp only at hpopped hloop hlength hzeros ⊢
  have hpending : s.pending = filled.copied ++ (scratch ++ (frames.map Subtype.val).flatten) := by
    rw [pending, ← hpopped, List.map_append, List.flatten_append, ← List.append_assoc, ← hloop, List.append_assoc]
  have hsamples : filled.samples.length = sampleCount := by
    rw [Filled.samples, List.length_append, List.length_replicate, hlength]
  refine ⟨filled, rfl, hsamples, ?_⟩
  rcases hzeros with hnone | ⟨rfl, rfl⟩
  · have hcopied : filled.copied.length = sampleCount := by rw [← hlength, hnone, Nat.add_zero]
    rw [hpending, ← hcopied, List.take_left, List.drop_left, hnone, List.length_append]
    exact ⟨rfl, by omega, rfl⟩
  · have hall : s.pending = filled.copied := hpending.trans (List.append_nil _)
    have hle : filled.copied.length ≤ sampleCount := by omega
    rw [hall, List.take_of_length_le hle, List.drop_of_length_le hle]
    exact ⟨rfl, by omega, rfl⟩

end RenderDevice

/-! ## All calls -/

/-- **The capture of a device in order**, after some events. -/
structure CaptureInOrder (isOpen : Bool) (events : List CaptureEvent) : Prop where
  /-- At most eight frames are queued. -/
  queued : (CaptureDevice.after isOpen events).captureFrames.length ≤ 8
  /-- The blocks of the input have been read, in order, or dropped, or they are in the queue. -/
  frames : ∃ (arrivals : List CaptureFrame) (left : List (CaptureFrame × Option Bool)),
    arrivals.map Subtype.val = blocks FrameSamples (captureInput events) ∧
    Accounts left (CaptureDevice.after isOpen events).captureFrames arrivals ∧
    ((taken left).map Prod.fst).Sublist arrivals ∧
    (CaptureDevice.after isOpen events).framesRead
      = (taken left).map fun entry => CaptureDevice.heard entry.1.1 entry.2
  /-- A push adds the blocks that it completes, and the oldest ones beyond eight are dropped. -/
  push : ∀ chunk,
    let s := CaptureDevice.after isOpen events
    let waiting := s.captureFrames.map Subtype.val ++ blocks FrameSamples (s.captureScratch ++ chunk.pcm)
    (s.step (.push chunk)).captureFrames.map Subtype.val = waiting.drop (waiting.length - 8)
  /-- A read takes the oldest block, and returns zeros while muted. -/
  read : ∀ event frame frames,
    let s := CaptureDevice.after isOpen events
    s.Looks event → s.captureFrames = frame :: frames →
      (s.step event).captureFrames = frames ∧
      (s.step event).framesRead = s.framesRead ++ [CaptureDevice.heard frame.1 s.muted]

/-- **The render side of a device in order**, after some events. -/
structure RenderInOrder (isOpen : Bool) (events : List RenderEvent) : Prop where
  /-- At most twelve frames are queued. -/
  queued : (RenderDevice.after isOpen events).renderFrames.length ≤ 12
  /-- The frames that have been written were taken, in order, or dropped, or they are in the queue.  The samples of
  those taken are what the fills have copied, and the scratch. -/
  samples : ∃ left : List (RenderFrame × Option Unit),
    Accounts left (RenderDevice.after isOpen events).renderFrames (framesWritten isOpen events) ∧
    ((taken left).map Prod.fst).Sublist (framesWritten isOpen events) ∧
    ((RenderDevice.after isOpen events).fills.map Filled.copied).flatten
        ++ (RenderDevice.after isOpen events).renderScratch
      = ((taken left).map fun entry => entry.1.1).flatten
  /-- A frame that is written is the last one, and the oldest ones beyond twelve are dropped. -/
  write : ∀ frame : RenderFrame,
    let s := RenderDevice.after isOpen events
    isOpen = true → (s.step (.writeFrame (some frame.1))).renderFrames
      = (s.renderFrames ++ [frame]).drop ((s.renderFrames ++ [frame]).length - 12)
  /-- A fill ends with as many samples as it has been asked for: those that wait, and zeros when they are all gone. -/
  fill : ∀ sampleCount, 0 < sampleCount →
    let s := RenderDevice.after isOpen events
    ∃ filled : Filled, (s.step (.fill false sampleCount)).fills = s.fills ++ [filled] ∧
      filled.samples.length = sampleCount ∧ filled.copied = s.pending.take sampleCount ∧
      filled.silent = sampleCount - s.pending.length ∧
      (s.step (.fill false sampleCount)).pending = s.pending.drop sampleCount

theorem capture_frames (isOpen : Bool) (events : List CaptureEvent) : CaptureInOrder isOpen events := by
  have hinv : CaptureDevice.Inv (captureInput events) (CaptureDevice.after isOpen events) :=
    (CaptureDevice.inv_new isOpen).run events
  refine ⟨hinv.queued, ?_, fun chunk => CaptureDevice.captureFrames_push hinv chunk,
    fun event frame frames hlooks hframes => CaptureDevice.step_looks hlooks hframes⟩
  obtain ⟨arrivals, left, hinput, haccounts, hread⟩ := hinv.frames
  refine ⟨arrivals, left, ?_, haccounts, haccounts.taken_sublist, hread⟩
  rw [← hinput, blocks_frames arrivals hinv.scratch]

theorem render_samples (isOpen : Bool) (events : List RenderEvent) : RenderInOrder isOpen events := by
  have hinv : RenderDevice.Inv (framesWritten isOpen events) (RenderDevice.after isOpen events) :=
    (RenderDevice.inv_new isOpen).run events
  obtain ⟨left, haccounts, hcopied⟩ := hinv.frames
  refine ⟨hinv.queued, ⟨left, haccounts, haccounts.taken_sublist, hcopied⟩, ?_, ?_⟩
  · intro frame s hopen
    exact RenderDevice.renderFrames_write ((RenderDevice.isOpen_after isOpen events).trans hopen) frame
  · intro sampleCount hpos s
    exact RenderDevice.fillRenderSamples_spec s hpos

/-- **The queues of the audio device** lose no order and copy no sample twice. -/
theorem audio_queues (isOpen : Bool) (captures : List CaptureEvent) (renders : List RenderEvent) :
    CaptureInOrder isOpen captures ∧ RenderInOrder isOpen renders :=
  ⟨capture_frames isOpen captures, render_samples isOpen renders⟩

end VianiumVoip.Engine.AudioQueues
