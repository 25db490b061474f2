import VianiumVoip.Lib.TracedReads
import VianiumVoip.Signaling.Frames

/-!
# What the frame splitter reads

`SplitFrames` of `domain/tgcalls_signaling_frames` with its position and every read of the body in a trace.

* `value_splitFrames`: it finds what the splitter of `Signaling/Frames` finds that hands the rest of the body on;
* `reads_splitFrames`: it reads inside the body, whatever the body is;
* `splitFrames_append`: bytes behind a body take none of its frames away, so a body that is cut off has the first frames
  of the whole one.

`splitFrames_cut` puts them together for a body of joined frames.
-/

namespace VianiumVoip.Signaling.FrameReads

open VianiumVoip.Lib Traced ChannelFrameCodec

/-! ### The splitter -/

variable (body : Bytes)

/-- The sequence number of a frame, and where the rest of the frame begins.  The first frame has none in front. -/
def readSeq (first : Bool) (currentSeq : UInt32) (pos : ℕ) : Traced (Option (UInt32 × {start : ℕ // pos ≤ start})) :=
  if first then pure (some (currentSeq, ⟨pos, le_rfl⟩))
  else if body.length < pos + 4 then pure none
  else do
    let seq ← loadBE32At body pos
    pure (some (seq, ⟨pos + 4, Nat.le_add_right _ _⟩))

/-- A frame behind its sequence number, and where the next one begins; the loop ends with a frame of an unknown tag. -/
def readFrame (seq : UInt32) (pos : ℕ) : Traced (Option (ChannelFrame × Option {next : ℕ // pos < next})) :=
  if body.length < pos + 1 then pure none
  else do
    let type ← byteAt body pos
    if type = kContentTagAck then pure (some (frame seq type [], some ⟨pos + 1, Nat.lt_succ_self _⟩))
    else if type = kContentTagEmpty then pure (some (frame seq type [], some ⟨pos + 1, Nat.lt_succ_self _⟩))
    else if type ≠ kContentTagCustom then pure (some (frame seq type [], none))
    else if body.length < pos + 1 + 4 then pure none
    else do
      let len ← loadBE32At body (pos + 1)
      if maxPayload < len.toNat then pure none
      else if body.length < pos + 1 + 4 + len.toNat then pure none
      else do
        let payload ← slice body (pos + 1 + 4) len.toNat
        pure (some (frame seq type payload, some ⟨pos + 1 + 4 + len.toNat, by omega⟩))

/-- The frames from one that is read on, with the loop for the ones behind it. -/
def collect {pos : ℕ} (loop : {next : ℕ // pos < next} → Traced (List ChannelFrame)) :
    Option (ChannelFrame × Option {next : ℕ // pos < next}) → Traced (List ChannelFrame)
  | none => pure []
  | some (f, none) => pure [f]
  | some (f, some next) => do
    let rest ← loop next
    pure (f :: rest)

/-- The loop from a position on. -/
def splitFrom (first : Bool) (currentSeq : UInt32) (pos : ℕ) : Traced (List ChannelFrame) :=
  if pos < body.length then do
    match ← readSeq body first currentSeq pos with
    | none => pure []
    | some (seq, start) => do
      let read ← readFrame body seq start
      collect (fun next => splitFrom false seq next) read
  else pure []
termination_by body.length - pos
decreasing_by
  have := start.2
  have := next.2
  omega

/-- `SplitFrames` -/
def splitFrames (outerSeq : UInt32) : Traced (List ChannelFrame) := splitFrom body true outerSeq 0

variable {body} {P : Access → Prop}

/-! ### Where it reads -/

theorem reads_readSeq (hP : Covers P body.length) (first : Bool) (currentSeq : UInt32) (pos : ℕ) :
    Reads P (readSeq body first currentSeq pos) := by
  refine reads_ite (fun _ => reads_pure _) fun _ => reads_ite (fun _ => reads_pure _) ?_
  intro hsize
  exact (reads_loadBE32At hP (by omega)).bind (reads_pure _)

theorem reads_readFrame (hP : Covers P body.length) (seq : UInt32) (pos : ℕ) : Reads P (readFrame body seq pos) := by
  refine reads_ite (fun _ => reads_pure _) ?_
  intro htag
  refine (reads_byteAt hP (by omega)).bind ?_
  refine reads_ite (fun _ => reads_pure _) fun _ => reads_ite (fun _ => reads_pure _) fun _ => ?_
  refine reads_ite (fun _ => reads_pure _) fun _ => reads_ite (fun _ => reads_pure _) ?_
  intro hfield
  refine (reads_loadBE32At hP (by omega)).bind ?_
  refine reads_ite (fun _ => reads_pure _) fun _ => reads_ite (fun _ => reads_pure _) ?_
  intro hpayload
  exact (reads_slice hP (by omega)).bind (reads_pure _)

theorem reads_splitFrom (hP : Covers P body.length) (first : Bool) (currentSeq : UInt32) (pos : ℕ) :
    Reads P (splitFrom body first currentSeq pos) := by
  induction hn : body.length - pos using Nat.strong_induction_on generalizing first currentSeq pos with
  | _ n ih =>
    rw [splitFrom]
    refine reads_ite ?_ fun _ => reads_pure _
    intro hpos
    refine (reads_readSeq hP first currentSeq pos).bind ?_
    rcases (readSeq body first currentSeq pos).value with _ | ⟨seq, start, hstart⟩
    · exact reads_pure _
    refine (reads_readFrame hP seq start).bind ?_
    rcases (readFrame body seq start).value with _ | ⟨f, _ | ⟨next, hnext⟩⟩
    · exact reads_pure _
    · exact reads_pure _
    · exact (ih _ (by omega) false seq next rfl).bind (reads_pure _)

/-- **The splitter reads inside the body**, of any body. -/
theorem reads_splitFrames (body : Bytes) (outerSeq : UInt32) :
    Reads (Access.Below body.length) (splitFrames body outerSeq) :=
  reads_splitFrom (fun _ hi => hi) true outerSeq 0

/-! ### What it finds -/

/-- The frames from one that is read on. -/
def follow : Option (ChannelFrame × Option Bytes) → List ChannelFrame
  | none => []
  | some (f, none) => [f]
  | some (f, some rest) => f :: splitRest rest

theorem splitRest_eq (body : Bytes) :
    splitRest body = if body.length < 4 then []
      else follow (ChannelFrameCodec.readFrame (loadBE32 body) (body.drop 4)) := by
  rw [splitRest]
  by_cases hsize : body.length < 4
  · rw [if_pos hsize, if_pos hsize]
  · rw [if_neg hsize, if_neg hsize]
    split
    · next hnone => rw [hnone, follow]
    · next f hlast => rw [hlast, follow]
    · next f rest hsome => rw [hsome, follow]

theorem splitFrames_eq (outerSeq : UInt32) (body : Bytes) :
    ChannelFrameCodec.splitFrames outerSeq body = follow (ChannelFrameCodec.readFrame outerSeq body) := by
  rw [ChannelFrameCodec.splitFrames]
  rcases ChannelFrameCodec.readFrame outerSeq body with _ | ⟨f, _ | rest⟩ <;> rfl

/-- The body behind the position that comes with a frame. -/
def behind (body : Bytes) {pos : ℕ} (r : ChannelFrame × Option {next : ℕ // pos < next}) :
    ChannelFrame × Option Bytes :=
  (r.1, r.2.map fun next => body.drop next)

theorem value_readFrame (body : Bytes) (seq : UInt32) (pos : ℕ) :
    (readFrame body seq pos).value.map (behind body) = ChannelFrameCodec.readFrame seq (body.drop pos) := by
  by_cases htag : body.length < pos + 1
  · rw [readFrame, if_pos htag, List.drop_eq_nil_of_le (by omega)]
    rfl
  · have htail : body.drop pos = body.getD pos 0 :: body.drop (pos + 1) := drop_eq_getD_cons (by omega)
    rw [readFrame, if_neg htag, htail, ChannelFrameCodec.readFrame, value_bind, value_byteAt]
    generalize body.getD pos 0 = type
    by_cases hack : type = kContentTagAck
    · rw [if_pos hack, if_pos hack]
      rfl
    by_cases hempty : type = kContentTagEmpty
    · rw [if_neg hack, if_pos hempty, if_neg hack, if_pos hempty]
      rfl
    by_cases hcustom : type = kContentTagCustom
    · have hlength : (body.drop (pos + 1)).length = body.length - (pos + 1) := List.length_drop
      rw [if_neg hack, if_neg hempty, if_neg (not_not.2 hcustom), if_neg hack, if_neg hempty,
        if_neg (not_not.2 hcustom)]
      by_cases hfield : body.length < pos + 1 + 4
      · rw [if_pos hfield, if_pos (by omega)]
        rfl
      · have hrest : ((body.drop (pos + 1)).drop 4).length = body.length - (pos + 1 + 4) := by
          rw [List.drop_drop, List.length_drop]
        rw [if_neg hfield, if_neg (by omega), value_bind, value_loadBE32At]
        generalize loadBE32 (body.drop (pos + 1)) = len
        dsimp only
        by_cases hmax : maxPayload < len.toNat
        · rw [if_pos hmax, if_pos hmax]
          rfl
        by_cases hpayload : body.length < pos + 1 + 4 + len.toNat
        · rw [if_neg hmax, if_pos hpayload, if_neg hmax, if_pos (by omega)]
          rfl
        · rw [if_neg hmax, if_neg hpayload, if_neg hmax, if_neg (by omega), List.drop_drop, List.drop_drop]
          rfl
    · rw [if_neg hack, if_neg hempty, if_pos hcustom, if_neg hack, if_neg hempty, if_pos hcustom]
      rfl

theorem value_collect {seq : UInt32} {start : ℕ}
    (ih : ∀ next, start < next → (splitFrom body false seq next).value = splitRest (body.drop next)) :
    (collect (fun next => splitFrom body false seq next) (readFrame body seq start).value).value
      = follow (ChannelFrameCodec.readFrame seq (body.drop start)) := by
  rw [← value_readFrame body seq start]
  rcases (readFrame body seq start).value with _ | ⟨f, _ | ⟨next, hnext⟩⟩
  · rfl
  · rfl
  · show f :: (splitFrom body false seq next).value = f :: splitRest (body.drop next)
    rw [ih next hnext]

theorem value_splitFrom (body : Bytes) (currentSeq : UInt32) (pos : ℕ) :
    (splitFrom body false currentSeq pos).value = splitRest (body.drop pos) := by
  induction hn : body.length - pos using Nat.strong_induction_on generalizing currentSeq pos with
  | _ n ih =>
    have hlength : (body.drop pos).length = body.length - pos := List.length_drop
    rw [splitFrom, splitRest_eq]
    by_cases hpos : pos < body.length
    · rw [if_pos hpos, value_bind, readSeq, if_neg (by decide)]
      by_cases hsize : body.length < pos + 4
      · rw [if_pos hsize, if_pos (by omega)]
        rfl
      · rw [if_neg hsize, if_neg (by omega), value_bind, value_loadBE32At, List.drop_drop]
        have hrest : ∀ next, pos + 4 < next →
            (splitFrom body false (loadBE32 (body.drop pos)) next).value = splitRest (body.drop next) :=
          fun next hnext => ih _ (by omega) _ next rfl
        exact value_collect hrest
    · rw [if_neg hpos, if_pos (by omega)]
      rfl

/-- **The splitter with a position finds what the one without finds.** -/
theorem value_splitFrames (body : Bytes) (outerSeq : UInt32) :
    (splitFrames body outerSeq).value = ChannelFrameCodec.splitFrames outerSeq body := by
  rw [splitFrames, splitFrom, splitFrames_eq]
  by_cases hpos : 0 < body.length
  · rw [if_pos hpos, value_bind, readSeq, if_pos rfl]
    have hrest : ∀ next, 0 < next → (splitFrom body false outerSeq next).value = splitRest (body.drop next) :=
      fun next _ => value_splitFrom body outerSeq next
    exact value_collect hrest
  · obtain rfl : body = [] := List.eq_nil_of_length_eq_zero (by omega)
    rfl

/-! ### A body that is cut off -/

/-- What is read of a body is read of a longer one. -/
theorem readFrame_append {seq : UInt32} {body : Bytes} {f : ChannelFrame} {rest : Option Bytes}
    (h : ChannelFrameCodec.readFrame seq body = some (f, rest)) (tail : Bytes) :
    ChannelFrameCodec.readFrame seq (body ++ tail) = some (f, rest.map (· ++ tail)) := by
  rcases body with _ | ⟨type, body⟩
  · cases h
  rw [ChannelFrameCodec.readFrame] at h
  rw [List.cons_append, ChannelFrameCodec.readFrame]
  by_cases hack : type = kContentTagAck
  · rw [if_pos hack] at h ⊢
    cases h
    rfl
  by_cases hempty : type = kContentTagEmpty
  · rw [if_neg hack, if_pos hempty] at h ⊢
    cases h
    rfl
  by_cases hcustom : type = kContentTagCustom
  · rw [if_neg hack, if_neg hempty, if_neg (not_not.2 hcustom)] at h ⊢
    have hfield : 4 ≤ body.length := by
      by_contra hshort
      rw [if_pos (by omega)] at h
      cases h
    have hload : loadBE32 (body ++ tail) = loadBE32 body := by
      rw [loadBE32, loadBE32, List.take_append_of_le_length hfield]
    have hlength : (body ++ tail).length = body.length + tail.length := List.length_append
    rw [if_neg (by omega)] at h ⊢
    rw [hload, List.drop_append_of_le_length hfield]
    generalize (loadBE32 body).toNat = len at h ⊢
    dsimp only at h ⊢
    by_cases hmax : maxPayload < len
    · rw [if_pos hmax] at h
      cases h
    rw [if_neg hmax] at h ⊢
    have hpayload : len ≤ (body.drop 4).length := by
      by_contra hshort
      rw [if_pos (by omega)] at h
      cases h
    rw [if_neg (by omega)] at h
    rw [if_neg (by rw [List.length_append]; omega), List.take_append_of_le_length hpayload,
      List.drop_append_of_le_length hpayload]
    cases h
    rfl
  · rw [if_neg hack, if_neg hempty, if_pos hcustom] at h ⊢
    cases h
    rfl

theorem follow_append {seq : UInt32} {body tail : Bytes}
    (ih : ∀ rest : Bytes, rest.length < body.length → splitRest rest <+: splitRest (rest ++ tail)) :
    follow (ChannelFrameCodec.readFrame seq body) <+: follow (ChannelFrameCodec.readFrame seq (body ++ tail)) := by
  rcases hread : ChannelFrameCodec.readFrame seq body with _ | ⟨f, _ | rest⟩
  · exact List.nil_prefix
  · rw [readFrame_append hread]
    exact List.prefix_refl _
  · rw [readFrame_append hread]
    exact (List.prefix_cons_inj f).2 (ih rest (length_readFrame hread))

theorem splitRest_append (body tail : Bytes) : splitRest body <+: splitRest (body ++ tail) := by
  induction hn : body.length using Nat.strong_induction_on generalizing body with
  | _ n ih =>
    rw [splitRest_eq body]
    by_cases hsize : body.length < 4
    · rw [if_pos hsize]
      exact List.nil_prefix
    · have hload : loadBE32 (body ++ tail) = loadBE32 body := by
        rw [loadBE32, loadBE32, List.take_append_of_le_length (by omega)]
      rw [if_neg hsize, splitRest_eq (body ++ tail), if_neg (by rw [List.length_append]; omega), hload,
        List.drop_append_of_le_length (by omega)]
      refine follow_append fun rest hrest => ih rest.length ?_ rest rfl
      rw [List.length_drop] at hrest
      omega

/-- **Bytes behind a body take none of its frames away.** -/
theorem splitFrames_append (outerSeq : UInt32) (body tail : Bytes) :
    ChannelFrameCodec.splitFrames outerSeq body <+: ChannelFrameCodec.splitFrames outerSeq (body ++ tail) := by
  rw [splitFrames_eq, splitFrames_eq]
  exact follow_append fun rest _ => splitRest_append rest tail

/-! ### Joined frames -/

/-- The flags and the counter are those of the sequence number. -/
def Consistent (f : ChannelFrame) : Prop := f = frame f.seq f.contentTag f.payload

instance (f : ChannelFrame) : Decidable (WellFormed f) := by
  unfold WellFormed
  infer_instance

instance (f : ChannelFrame) : Decidable (Consistent f) := by
  unfold Consistent
  infer_instance

theorem splitFrames_whole {frames : List ChannelFrame} (hframes : ∀ f ∈ frames, WellFormed f ∧ Consistent f)
    {outerSeq : UInt32} (hseq : ∀ f ∈ frames.head?, f.seq = outerSeq) :
    ChannelFrameCodec.splitFrames outerSeq (joinFrames frames) = frames := by
  rcases frames with _ | ⟨first, rest⟩
  · rfl
  obtain rfl : first.seq = outerSeq := hseq first rfl
  have hrest : ∀ f ∈ rest, WellFormed f ∧ Consistent f := fun f hf => hframes f (List.mem_cons_of_mem _ hf)
  have hfirst : WellFormed first ∧ Consistent first := hframes first List.mem_cons_self
  have hmap : rest.map (fun f => frame f.seq f.contentTag f.payload) = rest.map id :=
    List.map_congr_left fun f hf => ((hrest f hf).2).symm
  rw [splitFrames_joinFrames hfirst.1 (fun f hf => (hrest f hf).1), hmap, List.map_id, ← hfirst.2]

/-- **Frames that are joined and split**: they come back as they were under the sequence number of the first one, a body
that is cut off anywhere has the first of them, and nothing behind the end of it is read. -/
theorem splitFrames_cut {frames : List ChannelFrame} (hframes : ∀ f ∈ frames, WellFormed f ∧ Consistent f)
    {outerSeq : UInt32} (hseq : ∀ f ∈ frames.head?, f.seq = outerSeq) :
    (splitFrames (joinFrames frames) outerSeq).value = frames ∧
      ∀ k, (splitFrames ((joinFrames frames).take k) outerSeq).value <+: frames ∧
        Reads (Access.Below ((joinFrames frames).take k).length)
          (splitFrames ((joinFrames frames).take k) outerSeq) := by
  have hwhole := splitFrames_whole hframes hseq
  refine ⟨(value_splitFrames _ _).trans hwhole, fun k => ⟨?_, reads_splitFrames _ _⟩⟩
  have happend := splitFrames_append outerSeq ((joinFrames frames).take k) ((joinFrames frames).drop k)
  rwa [List.take_append_drop, hwhole, ← value_splitFrames] at happend

/-- An ack, two bytes and a keep-alive. -/
theorem splitFrames_cut_mixed :
    (splitFrames (joinFrames [frame 0xC0000001 0xFF [], frame 2 0x7F [1, 2], frame 0x80000003 0xFE []])
      0xC0000001).value
      = [frame 0xC0000001 0xFF [], frame 2 0x7F [1, 2], frame 0x80000003 0xFE []] :=
  (splitFrames_cut (by decide) (by simp [frame])).1

end VianiumVoip.Signaling.FrameReads
