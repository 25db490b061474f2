import VianiumVoip.Lib.Bytes

/-!
# The frames of a signaling packet

`ChannelFrameCodec` of `domain/tgcalls_signaling_frames`: a packet is a list of frames, each with its sequence number, a
content tag and a payload behind its length; the number of the first one stands in front of the packet and not here.
An ack and a keep-alive are their tag alone.

`splitFrames_joinFrames`: what is joined is split again, for frames of the three known tags with payloads up to 1 MiB.
-/

namespace VianiumVoip.Signaling

open VianiumVoip.Lib

structure ChannelFrame where
  seq : UInt32 := 0
  contentTag : UInt8 := 0
  singleMessagePacket : Bool := false
  requiresAck : Bool := false
  counter : UInt32 := 0
  payload : Bytes := []
  deriving DecidableEq

namespace ChannelFrameCodec

def kContentTagCustom : UInt8 := 0x7F
def kContentTagEmpty : UInt8 := 0xFE
def kContentTagAck : UInt8 := 0xFF
def kSeqBitSinglePacket : UInt32 := 0x80000000
def kSeqBitRequiresAck : UInt32 := 0x40000000

/-- The largest payload that is split off. -/
def maxPayload : ℕ := 1024 * 1024

/-- A frame with the flags of its sequence number (`FillSeqFlags`). -/
def frame (seq : UInt32) (contentTag : UInt8) (payload : Bytes) : ChannelFrame :=
  { seq := seq
    contentTag := contentTag
    singleMessagePacket := decide (seq &&& kSeqBitSinglePacket ≠ 0)
    requiresAck := decide (seq &&& kSeqBitRequiresAck ≠ 0)
    counter := seq &&& ~~~(kSeqBitSinglePacket ||| kSeqBitRequiresAck)
    payload := payload }

/-- A frame behind its sequence number, and what comes behind it; without a rest the loop ends with this frame. -/
def readFrame (seq : UInt32) (body : Bytes) : Option (ChannelFrame × Option Bytes) :=
  match body with
  | [] => none
  | type :: rest =>
    if type = kContentTagAck then some (frame seq type [], some rest)
    else if type = kContentTagEmpty then some (frame seq type [], some rest)
    else if type ≠ kContentTagCustom then some (frame seq type [], none)
    else if rest.length < 4 then none
    else
      let len := (loadBE32 rest).toNat
      if maxPayload < len then none
      else if (rest.drop 4).length < len then none
      else some (frame seq type ((rest.drop 4).take len), some ((rest.drop 4).drop len))

theorem length_readFrame {seq : UInt32} {body : Bytes} {f : ChannelFrame} {rest : Bytes}
    (h : readFrame seq body = some (f, some rest)) : rest.length < body.length := by
  unfold readFrame at h
  split at h
  · cases h
  · next type tail =>
    have htail (n : ℕ) : (tail.drop n).length < (type :: tail).length := by
      rw [List.length_drop, List.length_cons]
      omega
    dsimp only at h
    split_ifs at h
    · cases h
      exact htail 0
    · cases h
      exact htail 0
    · cases h
    · cases h
      rw [List.drop_drop]
      exact htail _

/-- The frames behind the first one: each has its sequence number in front. -/
def splitRest (body : Bytes) : List ChannelFrame :=
  if body.length < 4 then []
  else
    match _hread : readFrame (loadBE32 body) (body.drop 4) with
    | none => []
    | some (f, none) => [f]
    | some (f, some rest) => f :: splitRest rest
termination_by body.length
decreasing_by
  have hlen := length_readFrame _hread
  rw [List.length_drop] at hlen
  omega

/-- `SplitFrames` -/
def splitFrames (outerSeq : UInt32) (body : Bytes) : List ChannelFrame :=
  match readFrame outerSeq body with
  | none => []
  | some (f, none) => [f]
  | some (f, some rest) => f :: splitRest rest

/-- A frame without its sequence number. -/
def frameBytes (f : ChannelFrame) : Bytes :=
  if f.contentTag = kContentTagEmpty ∨ f.contentTag = kContentTagAck then [f.contentTag]
  else f.contentTag :: (storeBE32 (UInt32.ofNat f.payload.length) ++ f.payload)

/-- `JoinFrames` -/
def joinFrames : List ChannelFrame → Bytes
  | [] => []
  | first :: rest => frameBytes first ++ rest.flatMap fun f => storeBE32 f.seq ++ frameBytes f

/-! ### Joined frames are split -/

/-- A frame that comes back: of a known tag, with a payload only where the tag has one, and not too long. -/
def WellFormed (f : ChannelFrame) : Prop :=
  (f.contentTag = kContentTagCustom ∧ f.payload.length ≤ maxPayload) ∨
    ((f.contentTag = kContentTagEmpty ∨ f.contentTag = kContentTagAck) ∧ f.payload = [])

/-- **A frame is read back**, with the flags of the sequence number that stands in front of it. -/
theorem readFrame_frameBytes {f : ChannelFrame} (h : WellFormed f) (seq : UInt32) (rest : Bytes) :
    readFrame seq (frameBytes f ++ rest) = some (frame seq f.contentTag f.payload, some rest) := by
  obtain ⟨fseq, tag, single, ack, counter, payload⟩ := f
  rcases h with ⟨htag, hlen⟩ | ⟨htag | htag, hpayload⟩
  · obtain rfl : tag = kContentTagCustom := htag
    have hlen' : payload.length ≤ 1024 * 1024 := hlen
    have hbytes : frameBytes ⟨fseq, kContentTagCustom, single, ack, counter, payload⟩ ++ rest
        = kContentTagCustom :: (storeBE32 (UInt32.ofNat payload.length) ++ (payload ++ rest)) := by
      have hcustom : ¬ (kContentTagCustom = kContentTagEmpty ∨ kContentTagCustom = kContentTagAck) := by decide
      rw [frameBytes, if_neg hcustom, List.cons_append, List.append_assoc]
    have hcount : (UInt32.ofNat payload.length).toNat = payload.length := by
      rw [UInt32.toNat_ofNat']
      omega
    have hfield : ¬ (storeBE32 (UInt32.ofNat payload.length) ++ (payload ++ rest)).length < 4 := by
      rw [List.length_append, length_storeBE32]
      omega
    have hdrop : (storeBE32 (UInt32.ofNat payload.length) ++ (payload ++ rest)).drop 4 = payload ++ rest :=
      List.drop_left' (length_storeBE32 _)
    have hfits : ¬ (payload ++ rest).length < payload.length := by
      rw [List.length_append]
      omega
    rw [hbytes, readFrame, if_neg (by decide), if_neg (by decide), if_neg (by decide), if_neg hfield]
    simp only [loadBE32_store, hcount, hdrop]
    rw [if_neg (Nat.not_lt.2 hlen), if_neg hfits, List.take_left' rfl, List.drop_left' rfl]
  · obtain rfl : tag = kContentTagEmpty := htag
    obtain rfl : payload = [] := hpayload
    rfl
  · obtain rfl : tag = kContentTagAck := htag
    obtain rfl : payload = [] := hpayload
    rfl

theorem splitRest_nil : splitRest [] = [] := by
  rw [splitRest]
  rfl

theorem splitRest_joined {frames : List ChannelFrame} (h : ∀ f ∈ frames, WellFormed f) :
    splitRest (frames.flatMap fun f => storeBE32 f.seq ++ frameBytes f)
      = frames.map fun f => frame f.seq f.contentTag f.payload := by
  induction frames with
  | nil => exact splitRest_nil
  | cons f frames ih =>
    have hread := readFrame_frameBytes (h f List.mem_cons_self) f.seq
      (frames.flatMap fun f => storeBE32 f.seq ++ frameBytes f)
    have hrest := ih fun g hg => h g (List.mem_cons_of_mem _ hg)
    rw [List.flatMap_cons, List.append_assoc, splitRest, if_neg (by rw [List.length_append, length_storeBE32]; omega)]
    split
    · next hnone =>
      rw [loadBE32_store, List.drop_left' (length_storeBE32 _), hread] at hnone
      cases hnone
    · next g hlast =>
      rw [loadBE32_store, List.drop_left' (length_storeBE32 _), hread] at hlast
      cases hlast
    · next g rest hsome =>
      rw [loadBE32_store, List.drop_left' (length_storeBE32 _), hread] at hsome
      cases hsome
      rw [hrest]
      rfl

/-- **What is joined is split again**, the first frame under the sequence number of the packet. -/
theorem splitFrames_joinFrames {first : ChannelFrame} {rest : List ChannelFrame} (hfirst : WellFormed first)
    (hrest : ∀ f ∈ rest, WellFormed f) (outerSeq : UInt32) :
    splitFrames outerSeq (joinFrames (first :: rest))
      = frame outerSeq first.contentTag first.payload :: rest.map fun f => frame f.seq f.contentTag f.payload := by
  unfold splitFrames joinFrames
  rw [readFrame_frameBytes hfirst]
  simp only [splitRest_joined hrest]

end ChannelFrameCodec

end VianiumVoip.Signaling
