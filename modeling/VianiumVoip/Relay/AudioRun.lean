import VianiumVoip.Relay.StreamDataPacket
import VianiumVoip.Relay.JitterBuffer
import VianiumVoip.Lib.Run

/-!
# Audio and control packets between two engines

The media part of `application/voip_engine`: one side sends audio frames, and Pong, Init and InitAck packets between
them, all of them numbered by the one counter `NextLocalSequence`; the other runs `MediaReceiveLoop`, whose jitter buffer
is given the audio frames alone but takes one sequence number after the other for the next frame.

A control packet between two audio frames therefore leaves a number without a frame, which the playout conceals and
counts as lost although nothing was (`pong_conceals`).  `lossless_run` says what does work: where two audio frames that
follow each other have numbers that do, and every frame comes before the playout has passed its place and finds room,
every frame is played once and in order, and nothing is concealed between two of them.
-/

namespace VianiumVoip.Relay

open VianiumVoip.Lib VianiumVoip.Domain VoipControlPacketCodec VoipStreamDataPacketCodec

/-- What the two sides share. -/
structure RelayKeys where
  sharedKey : Bytes
  peerTag : Bytes
  length_sharedKey : sharedKey.length = kSharedKeyBytes
  length_peerTag : peerTag.length = kPeerTagBytes

structure VoipActiveMediaContext (D : Smoothing) where
  nextLocalSequence : UInt32 := 1
  lastRemoteSequence : UInt32 := 0
  audioTimestampOut : UInt32 := 0
  initAckReceived : Bool := false
  mediaReady : Bool := false
  mediaPacketsSent : UInt32 := 0
  mediaPacketsReceived : UInt32 := 0
  mediaBytesSent : UInt32 := 0
  mediaBytesReceived : UInt32 := 0
  jitter : VoipJitterBuffer D := .new D defaultAudioFrameDurationMs.toNat

/-- `TakeNextSequence`: the number taken, and the next one. -/
def takeNextSequence (nextSequence : UInt32) : UInt32 × UInt32 :=
  let seq := if nextSequence = 0 then 1 else nextSequence
  (seq, if seq + 1 = 0 then 1 else seq + 1)

/-- `static_cast<uint16_t>(sequence & 0xFFFF)` -/
def lowSequence (sequence : UInt32) : UInt16 := sequence.toUInt16

variable {D : Smoothing} (C : BlockCrypto) (keys : RelayKeys) (localIsOutgoing : Bool) (random : ℕ → UInt8)

namespace VoipActiveMediaContext

/-- What the senders of control packets share. -/
def sendControl (ctx : VoipActiveMediaContext D) (type : VoipControlPacketType) (ackSeq : UInt32) (payload : Bytes) :
    Option Bytes × VoipActiveMediaContext D :=
  let (seq, next) := takeNextSequence ctx.nextLocalSequence
  (sealPacket C keys.sharedKey localIsOutgoing keys.peerTag random (buildControlPacket type seq ackSeq payload),
    { ctx with nextLocalSequence := next })

/-- `SendPong` -/
def sendPong (ctx : VoipActiveMediaContext D) (ping : VoipControlPacket) :
    Option Bytes × VoipActiveMediaContext D :=
  ctx.sendControl C keys localIsOutgoing random .pong
    (if ctx.lastRemoteSequence = 0 then ping.sequence else ctx.lastRemoteSequence) ping.payload

/-- `SendInit` -/
def sendInit (ctx : VoipActiveMediaContext D) : Option Bytes × VoipActiveMediaContext D :=
  ctx.sendControl C keys localIsOutgoing random .init ctx.lastRemoteSequence (buildInitPayload false).bytes

/-- `SendInitAck` -/
def sendInitAck (ctx : VoipActiveMediaContext D) (init : VoipControlPacket) :
    Option Bytes × VoipActiveMediaContext D :=
  ctx.sendControl C keys localIsOutgoing random .initAck
    (if ctx.lastRemoteSequence = 0 then init.sequence else ctx.lastRemoteSequence) buildInitAckPayload.bytes

/-- `EncodeAndSendAudioFrame`, behind the audio codec (which has encoded nothing where `opus` is empty). -/
def encodeAndSendAudioFrame (ctx : VoipActiveMediaContext D) (opus : Bytes) :
    Option Bytes × VoipActiveMediaContext D :=
  if (encodeAudio defaultAudioStreamId ctx.audioTimestampOut opus).success = false then (none, ctx)
  else
    -- the number is taken before the control packet is built
    let (seq, next) := takeNextSequence ctx.nextLocalSequence
    match sendAudioFrame C keys.sharedKey localIsOutgoing keys.peerTag random defaultAudioStreamId
        ctx.audioTimestampOut seq ctx.lastRemoteSequence opus with
    | none => (none, { ctx with nextLocalSequence := next })
    | some wire =>
      (some wire,
        { ctx with
          nextLocalSequence := next
          mediaPacketsSent := ctx.mediaPacketsSent + 1
          mediaBytesSent := ctx.mediaBytesSent + UInt32.ofNat wire.length
          audioTimestampOut := ctx.audioTimestampOut + defaultAudioFrameDurationMs.toUInt32 })

/-- The largest number of the other side so far. -/
def noteRemoteSequence (ctx : VoipActiveMediaContext D) (sequence : UInt32) : VoipActiveMediaContext D :=
  if sequence ≠ 0 ∧ (ctx.lastRemoteSequence = 0 ∨ ctx.lastRemoteSequence < sequence) then
    { ctx with lastRemoteSequence := sequence }
  else ctx

/-- The audio frame of a packet goes to the jitter buffer. -/
def insertAudio (ctx : VoipActiveMediaContext D) (packet : VoipControlPacket) (size : ℕ) (now : ℤ) :
    VoipActiveMediaContext D :=
  let stream := decodeOne packet.payload
  if stream.success = false then ctx
  else
    { ctx with
      mediaReady := true
      mediaPacketsReceived := ctx.mediaPacketsReceived + 1
      mediaBytesReceived := ctx.mediaBytesReceived + UInt32.ofNat size
      jitter :=
        match ctx.jitter.insert (lowSequence packet.sequence) stream.packet.timestamp stream.packet.opusPayload now with
        | .error _ => ctx.jitter
        | .ok jitter => jitter }

/-- What `MediaReceiveLoop` does with a packet of each type; the answer, if there is one, goes out at once. -/
def handlePacket (ctx : VoipActiveMediaContext D) (packet : VoipControlPacket) (size : ℕ) (now : ℤ) :
    Option Bytes × VoipActiveMediaContext D :=
  let ctx := ctx.noteRemoteSequence packet.sequence
  match packet.type with
  | .initAck =>
    let parsedAck := parseInitAckPayload packet.payload
    (none, if parsedAck.success && parsedAck.initAck.hasAudioOpusStream then { ctx with initAckReceived := true } else ctx)
  | .init => ctx.sendInitAck C keys localIsOutgoing random packet
  | .streamData => (none, ctx.insertAudio packet size now)
  | .ping => ctx.sendPong C keys localIsOutgoing random packet
  | _ => (none, ctx)

/-- A datagram in `MediaReceiveLoop`. -/
def receiveDatagram (ctx : VoipActiveMediaContext D) (received : Bytes) (now : ℤ) :
    Option Bytes × VoipActiveMediaContext D :=
  match openPacket C keys.sharedKey localIsOutgoing keys.peerTag received with
  | none => (none, ctx)
  | some packet => ctx.handlePacket C keys localIsOutgoing random packet received.length now

end VoipActiveMediaContext

/-- `DrainJitterToAudio`, as far as it comes: it asks for a frame at the times of `calls`, and goes home with the first
one that is not ready. -/
def drainJitterToAudio (jitter : VoipJitterBuffer D) : List ℤ → List VoipJitterFrame × VoipJitterBuffer D
  | [] => ([], jitter)
  | now :: calls =>
    let (frame, jitter) := jitter.nextPlayoutFrame now
    if frame.ready = false then ([], jitter)
    else
      let (frames, jitter) := drainJitterToAudio jitter calls
      (frame :: frames, jitter)

/-! ### The two sides -/

/-- An audio frame as the sender has it. -/
structure AudioFrame where
  timestamp : UInt32
  opus : Bytes
  deriving DecidableEq

/-- A datagram on its way, and the audio frame it was made of. -/
structure Datagram where
  bytes : Bytes
  audio : Option AudioFrame := none

/-- The sender, the receiver and the way between them, which neither loses nor reorders; the number of the last audio
frame sent, the audio frames that have been delivered, and the frames that the playout has reported as ready. -/
structure System (D : Smoothing) where
  sender : VoipActiveMediaContext D := {}
  receiver : VoipActiveMediaContext D := {}
  inFlight : List Datagram := []
  lastAudio : Option UInt32 := none
  delivered : List AudioFrame := []
  record : List VoipJitterFrame := []

inductive Event
  /-- `EncodeAndSendAudioFrame` -/
  | audio (opus : Bytes) (random : ℕ → UInt8)
  /-- `SendPong` -/
  | pong (ping : VoipControlPacket) (random : ℕ → UInt8)
  /-- `SendInit` -/
  | init (random : ℕ → UInt8)
  /-- `SendInitAck` -/
  | initAck (init : VoipControlPacket) (random : ℕ → UInt8)
  /-- The sender hears a packet of the other side. -/
  | heard (sequence : UInt32)
  /-- `MediaReceiveLoop` takes the first datagram, at the time `now`, and drains at the times of `calls`. -/
  | receive (now : ℤ) (random : ℕ → UInt8) (calls : List ℤ)
  /-- `MediaReceiveLoop` waits in vain, and drains. -/
  | timeout (calls : List ℤ)

namespace System

/-- The datagram, if there is one, is on its way. -/
def send (s : System D) (sent : Option Bytes × VoipActiveMediaContext D) (audio : Option AudioFrame) : System D :=
  match sent.1 with
  | none => { s with sender := sent.2 }
  | some bytes => { s with sender := sent.2, inFlight := s.inFlight ++ [{ bytes := bytes, audio := audio }] }

def drain (s : System D) (calls : List ℤ) : System D :=
  let (frames, jitter) := drainJitterToAudio s.receiver.jitter calls
  { s with receiver := { s.receiver with jitter := jitter }, record := s.record ++ frames }

/-- The sender has the direction `localIsOutgoing`, and the receiver the other one. -/
def step (s : System D) : Event → System D
  | .audio opus random =>
    let sent := s.sender.encodeAndSendAudioFrame C keys localIsOutgoing random opus
    let s' := s.send sent (some { timestamp := s.sender.audioTimestampOut, opus := opus })
    if sent.1.isSome then { s' with lastAudio := some (takeNextSequence s.sender.nextLocalSequence).1 } else s'
  | .pong ping random => s.send (s.sender.sendPong C keys localIsOutgoing random ping) none
  | .init random => s.send (s.sender.sendInit C keys localIsOutgoing random) none
  | .initAck init random => s.send (s.sender.sendInitAck C keys localIsOutgoing random init) none
  | .heard sequence => { s with sender := s.sender.noteRemoteSequence sequence }
  | .receive now random calls =>
    match s.inFlight with
    | [] => s.drain calls
    | datagram :: rest =>
      let received := s.receiver.receiveDatagram C keys (!localIsOutgoing) random datagram.bytes now
      drain
        { s with
          receiver := received.2
          inFlight := rest
          delivered := s.delivered ++ datagram.audio.toList }
        calls
  | .timeout calls => s.drain calls

/-- The audio frame of a slot. -/
def slotAudio (slot : Slot) : AudioFrame := { timestamp := slot.timestamp, opus := slot.payload }

/-- The audio frames that have been played. -/
def playedAudio (record : List VoipJitterFrame) : List AudioFrame :=
  (record.filter VoipJitterFrame.hasPacket).map fun frame => { timestamp := frame.timestamp, opus := frame.payload }

/-- **No audio is lost.**  What has been played, and then what waits, is what has been delivered; a frame was concealed
only where nothing has been played since and nothing waits; no packet was dropped, and only concealed frames count as
lost. -/
structure Lossless (s : System D) : Prop where
  in_order : playedAudio s.record ++ s.receiver.jitter.slots.map slotAudio = s.delivered
  no_concealment : ∀ front frame back, s.record = front ++ frame :: back → frame.plc = true →
    playedAudio back = [] ∧ s.receiver.jitter.slots = []
  none_dropped : s.receiver.jitter.stats.lateDrops = 0
  lost_eq : s.receiver.jitter.stats.packetsLost = UInt32.ofNat (s.record.countP VoipJitterFrame.plc)

/-- **From some time on a drain plays what waits.** -/
def Drains (s : System D) : Prop :=
  ∃ time, ∀ calls : List ℤ, calls.length = s.receiver.jitter.slots.length → (∀ now ∈ calls, time ≤ now) →
    playedAudio (s.drain calls).record = s.delivered ∧ (s.drain calls).receiver.jitter.slots = []

/-- When an audio frame is sent, its number follows that of the last one (in the sixteen bits that the receiver looks
at); when one is delivered, no more places have been played than frames were delivered, and there is room. -/
def Meets (s : System D) : Event → Prop
  | .audio opus _ =>
    opus ≠ [] → opus.length ≤ 1093 → ∀ last ∈ s.lastAudio,
      lowSequence (takeNextSequence s.sender.nextLocalSequence).1 = lowSequence last + 1
  | .receive _ _ _ =>
    (s.inFlight.head?.bind Datagram.audio).isSome = true →
      s.receiver.jitter.playoutIndex ≤ s.delivered.length ∧ s.receiver.jitter.slots.length < kMaxBufferedPackets
  | _ => True

/-- Nothing has been sent yet, and the receiver has a new jitter buffer. -/
structure Fresh (s : System D) : Prop where
  jitter_eq : s.receiver.jitter = .new D defaultAudioFrameDurationMs.toNat
  inFlight_eq : s.inFlight = []
  lastAudio_eq : s.lastAudio = none
  delivered_eq : s.delivered = []
  record_eq : s.record = []

end System

/-! ### The sender -/

variable {C keys localIsOutgoing random}

namespace VoipActiveMediaContext

variable {ctx : VoipActiveMediaContext D} {type : VoipControlPacketType} {ackSeq : UInt32} {payload opus wire : Bytes}

theorem openPacket_sendControl (h : (ctx.sendControl C keys localIsOutgoing random type ackSeq payload).1 = some wire) :
    ∃ packet, openPacket C keys.sharedKey (!localIsOutgoing) keys.peerTag wire = some packet ∧ packet.type = type :=
  ⟨_, openPacket_of_sealPacket keys.length_sharedKey keys.length_peerTag h, rfl⟩

/-- **An audio frame on the wire.**  It has the timestamp of the sender and the number that the sender took. -/
theorem encodeAndSendAudioFrame_some
    (h : (ctx.encodeAndSendAudioFrame C keys localIsOutgoing random opus).1 = some wire) :
    (encodeAudio defaultAudioStreamId ctx.audioTimestampOut opus).success = true ∧ opus.length ≤ 1093 ∧
      openPacket C keys.sharedKey (!localIsOutgoing) keys.peerTag wire
        = some (audioPacket defaultAudioStreamId ctx.audioTimestampOut (takeNextSequence ctx.nextLocalSequence).1
            ctx.lastRemoteSequence opus) := by
  by_cases hsuccess : (encodeAudio defaultAudioStreamId ctx.audioTimestampOut opus).success = false
  · rw [encodeAndSendAudioFrame, if_pos hsuccess] at h
    cases h
  have hencoded : (encodeAudio defaultAudioStreamId ctx.audioTimestampOut opus).success = true :=
    Bool.eq_true_of_not_eq_false hsuccess
  have hsent : sendAudioFrame C keys.sharedKey localIsOutgoing keys.peerTag random defaultAudioStreamId
      ctx.audioTimestampOut (takeNextSequence ctx.nextLocalSequence).1 ctx.lastRemoteSequence opus = some wire := by
    rw [encodeAndSendAudioFrame, if_neg hsuccess] at h
    simp only at h
    split at h
    · cases h
    · next sent hsent => exact hsent.trans h
  have hlen := length_stream defaultAudioStreamId ctx.audioTimestampOut opus
  have hshort : opus.length ≤ 1093 := by
    by_contra hlong
    rw [sendAudioFrame_of_long hencoded (by rw [hlen, if_pos (by omega), maxPayloadBytes]; omega)] at hsent
    cases hsent
  rw [sendAudioFrame_eq hencoded] at hsent
  exact ⟨hencoded, hshort, openPacket_of_sealPacket keys.length_sharedKey keys.length_peerTag hsent⟩

end VoipActiveMediaContext

namespace System

/-! ### The datagrams on their way -/

variable (C keys localIsOutgoing) in
/-- What the receiver finds in a datagram: the audio frame under the sequence number `next`, or no audio at all. -/
def Opens (datagram : Datagram) (next : UInt16) : Prop :=
  match datagram.audio with
  | none => ∃ packet, openPacket C keys.sharedKey (!localIsOutgoing) keys.peerTag datagram.bytes = some packet ∧
      packet.type ≠ .streamData
  | some frame => ∃ seq ack, openPacket C keys.sharedKey (!localIsOutgoing) keys.peerTag datagram.bytes
      = some (audioPacket defaultAudioStreamId frame.timestamp seq ack frame.opus) ∧ lowSequence seq = next ∧
      (encodeAudio defaultAudioStreamId frame.timestamp frame.opus).success = true

/-- The number for the next audio frame, behind a datagram. -/
def after (next : UInt16) (datagram : Datagram) : UInt16 := if datagram.audio.isSome then next + 1 else next

variable (C keys localIsOutgoing) in
/-- The audio frames on their way have the numbers from `next` to `last`. -/
def Numbered : UInt16 → List Datagram → UInt16 → Prop
  | next, [], last => next = last
  | next, datagram :: rest, last =>
    Opens C keys localIsOutgoing datagram next ∧ Numbered (after next datagram) rest last

variable {next last : UInt16} {inFlight : List Datagram} {datagram : Datagram}

theorem numbered_append (h : Numbered C keys localIsOutgoing next inFlight last)
    (hopens : Opens C keys localIsOutgoing datagram last) :
    Numbered C keys localIsOutgoing next (inFlight ++ [datagram]) (after last datagram) := by
  induction inFlight generalizing next with
  | nil =>
    obtain rfl : next = last := h
    exact ⟨hopens, rfl⟩
  | cons first rest ih => exact ⟨h.1, ih h.2⟩

/-- Without audio on its way every number may be the next one. -/
theorem numbered_of_no_audio (h : Numbered C keys localIsOutgoing next inFlight last)
    (hnone : ∀ datagram ∈ inFlight, datagram.audio = none) (number : UInt16) :
    Numbered C keys localIsOutgoing number inFlight number := by
  induction inFlight generalizing next with
  | nil => rfl
  | cons first rest ih =>
    have hfirst : first.audio = none := hnone first List.mem_cons_self
    have hafter : after number first = number := by rw [after, hfirst]; rfl
    refine ⟨?_, ?_⟩
    · have hopens := h.1
      unfold Opens at hopens ⊢
      rw [hfirst] at hopens ⊢
      exact hopens
    · rw [hafter]
      exact ih h.2 fun datagram hmem => hnone datagram (List.mem_cons_of_mem _ hmem)

/-! ### The playout -/

variable {jitter jitter' : VoipJitterBuffer D} {record : List VoipJitterFrame} {delivered : List AudioFrame}

/-- **The state of the playout**: the record is the packets that were played, and behind them what was concealed while
nothing waited; and while no more places were played than frames were delivered, `next` is the number behind the last
packet that waits. -/
structure Playing (jitter : VoipJitterBuffer D) (record : List VoipJitterFrame) (delivered : List AudioFrame)
    (next : UInt16) : Prop where
  not_started : jitter.started = false → delivered = [] ∧ jitter.slots = []
  index_eq : jitter.playoutIndex = record.length
  consecutive : Consecutive jitter.nextSequence jitter.slots
  room : jitter.slots.length ≤ kMaxBufferedPackets
  frameMs_nonneg : 0 ≤ jitter.frameMs
  none_dropped : jitter.stats.lateDrops = 0
  split : ∃ played concealed, record = played.map VoipJitterBuffer.packetFrame ++ concealed ∧
    (∀ frame ∈ concealed, frame.plc = true ∧ frame.hasPacket = false) ∧ (concealed ≠ [] → jitter.slots = []) ∧
    (played ++ jitter.slots).map slotAudio = delivered ∧ jitter.stats.packetsLost = UInt32.ofNat concealed.length
  in_time : jitter.started = true → record.length ≤ delivered.length →
    next = jitter.nextSequence + UInt16.ofNat jitter.slots.length

theorem Playing.nextPlayoutFrame (h : Playing jitter record delivered next) (now : ℤ) :
    (jitter.nextPlayoutFrame now).1.ready = false ∧ (jitter.nextPlayoutFrame now).2 = jitter ∨
      (jitter.nextPlayoutFrame now).1.ready = true ∧
        Playing (jitter.nextPlayoutFrame now).2 (record ++ [(jitter.nextPlayoutFrame now).1]) delivered next := by
  by_cases hnot : jitter.started = false ∨ now < jitter.due
  · exact .inl (by rw [VoipJitterBuffer.nextPlayoutFrame_of_not_due hnot]; exact ⟨rfl, rfl⟩)
  have hstarted : jitter.started = true := Bool.eq_true_of_not_eq_false fun hf => hnot (.inl hf)
  have hdue : jitter.due ≤ now := not_lt.1 fun hlt => hnot (.inr hlt)
  obtain ⟨played, concealed, hrecord, hconcealed, hempty, hdelivered, hlost⟩ := h.split
  right
  rcases hslots : jitter.slots with _ | ⟨slot, rest⟩
  · -- nothing waits: the place is concealed
    obtain ⟨frame, jitter', hnext, hready, hplc, hhas, hadvanced, hslots', hlost'⟩ :=
      VoipJitterBuffer.nextPlayoutFrame_of_empty hstarted hdue hslots
    rw [hnext]
    have hcount : delivered.length = played.length := by
      rw [← hdelivered, hslots, List.append_nil, List.length_map]
    have hlong : ¬ (record ++ [frame]).length ≤ delivered.length := by
      rw [hcount, hrecord, List.length_append, List.length_append, List.length_map, List.length_singleton]
      omega
    refine ⟨hready, ⟨?_, ?_, ?_, ?_, ?_, ?_, ⟨played, concealed ++ [frame], ?_, ?_, fun _ => hslots', ?_, ?_⟩, ?_⟩⟩
    · intro hfalse
      rw [hadvanced.started, hstarted] at hfalse
      cases hfalse
    · rw [hadvanced.playoutIndex_eq, h.index_eq, List.length_append, List.length_singleton]
    · rw [hslots']
      trivial
    · rw [hslots']
      exact Nat.zero_le _
    · rw [hadvanced.frameMs_eq]
      exact h.frameMs_nonneg
    · rw [hadvanced.lateDrops_eq, h.none_dropped]
    · rw [hrecord, List.append_assoc]
    · intro f hf
      rcases List.mem_append.1 hf with hf | hf
      · exact hconcealed f hf
      · rw [List.mem_singleton.1 hf]
        exact ⟨hplc, hhas⟩
    · rw [hslots', ← hdelivered, hslots]
    · rw [hlost', hlost, List.length_append, List.length_singleton, UInt32.ofNat_add]
      rfl
    · exact fun _ hle => absurd hle hlong
  · -- the packet in front is played
    have hnone : concealed = [] := by
      by_contra hne
      rw [hempty hne] at hslots
      cases hslots
    obtain ⟨jitter', hnext, hadvanced, hrest, hlost'⟩ :=
      VoipJitterBuffer.nextPlayoutFrame_of_consecutive hstarted hdue hslots h.consecutive h.room
    have hcons := h.consecutive
    have hroom := h.room
    rw [hslots] at hcons hroom
    rw [hnext]
    refine ⟨rfl, ⟨?_, ?_, ?_, ?_, ?_, ?_, ⟨played ++ [slot], [], ?_, ?_, fun hne => absurd rfl hne, ?_, ?_⟩, ?_⟩⟩
    · intro hfalse
      rw [hadvanced.started, hstarted] at hfalse
      cases hfalse
    · rw [hadvanced.playoutIndex_eq, h.index_eq, List.length_append, List.length_singleton]
    · rw [hadvanced.nextSequence_eq, hrest]
      exact hcons.2
    · rw [hrest]
      exact Nat.le_of_succ_le hroom
    · rw [hadvanced.frameMs_eq]
      exact h.frameMs_nonneg
    · rw [hadvanced.lateDrops_eq, h.none_dropped]
    · rw [hrecord, hnone, List.append_nil, List.append_nil, List.map_append]
      rfl
    · exact fun f hf => absurd hf List.not_mem_nil
    · rw [hrest, ← hdelivered, hslots, List.append_assoc]
      rfl
    · rw [hlost', hlost, hnone]
    · intro _ hle
      have hbefore : record.length ≤ delivered.length := by
        rw [List.length_append, List.length_singleton] at hle
        omega
      rw [h.in_time hstarted hbefore, hadvanced.nextSequence_eq, hrest, hslots, List.length_cons, UInt16.ofNat_add,
        UInt16.add_assoc, UInt16.add_comm 1]
      rfl

theorem drainJitterToAudio_of_not_ready {now : ℤ} {calls : List ℤ}
    (hready : (jitter.nextPlayoutFrame now).1.ready = false) :
    drainJitterToAudio jitter (now :: calls) = ([], (jitter.nextPlayoutFrame now).2) := by
  rw [drainJitterToAudio]
  exact if_pos hready

theorem drainJitterToAudio_of_ready {now : ℤ} {calls : List ℤ}
    (hready : (jitter.nextPlayoutFrame now).1.ready = true) :
    drainJitterToAudio jitter (now :: calls)
      = ((jitter.nextPlayoutFrame now).1 :: (drainJitterToAudio (jitter.nextPlayoutFrame now).2 calls).1,
        (drainJitterToAudio (jitter.nextPlayoutFrame now).2 calls).2) := by
  have hnot : ¬ (jitter.nextPlayoutFrame now).1.ready = false := by
    rw [hready]
    decide
  rw [drainJitterToAudio]
  exact if_neg hnot

theorem Playing.drain (h : Playing jitter record delivered next) (calls : List ℤ) :
    Playing (drainJitterToAudio jitter calls).2 (record ++ (drainJitterToAudio jitter calls).1) delivered next := by
  induction calls generalizing jitter record with
  | nil => rwa [drainJitterToAudio, List.append_nil]
  | cons now calls ih =>
    rcases h.nextPlayoutFrame now with ⟨hready, hsame⟩ | ⟨hready, hplayed⟩
    · rw [drainJitterToAudio_of_not_ready hready, hsame, List.append_nil]
      exact h
    · rw [drainJitterToAudio_of_ready hready, List.append_cons]
      exact ih hplayed

/-- While no more places were played than frames delivered, nothing was concealed. -/
theorem Playing.exists_played (h : Playing jitter record delivered next) (hle : record.length ≤ delivered.length) :
    ∃ played, record = played.map VoipJitterBuffer.packetFrame ∧ (played ++ jitter.slots).map slotAudio = delivered ∧
      jitter.stats.packetsLost = 0 := by
  obtain ⟨played, concealed, hrecord, _, hempty, hdelivered, hlost⟩ := h.split
  have hnone : concealed = [] := by
    by_contra hne
    have hpos := List.length_pos_iff.2 hne
    rw [← hdelivered, hempty hne, hrecord, List.append_nil, List.length_append, List.length_map, List.length_map] at hle
    omega
  rw [hnone] at hrecord hlost
  exact ⟨played, hrecord.trans (List.append_nil _), hdelivered, hlost⟩

/-- **A frame that comes in time waits behind the others.** -/
theorem Playing.insert (h : Playing jitter record delivered next) {frame : AudioFrame} (hopus : frame.opus ≠ [])
    (hindex : jitter.playoutIndex ≤ delivered.length) (hroom : jitter.slots.length < kMaxBufferedPackets) (now : ℤ) :
    ∃ jitter', jitter.insert next frame.timestamp frame.opus now = .ok jitter' ∧
      Playing jitter' record (delivered ++ [frame]) (next + 1) := by
  have hle : record.length ≤ delivered.length := h.index_eq ▸ hindex
  obtain ⟨played, hrecord, hdelivered, hlost⟩ := h.exists_played hle
  have hsplit {jitter' : VoipJitterBuffer D}
      (hqueued : VoipJitterBuffer.Queued jitter jitter' ⟨next, frame.timestamp, frame.opus⟩) :
      ∃ played concealed, record = played.map VoipJitterBuffer.packetFrame ++ concealed ∧
        (∀ frame ∈ concealed, frame.plc = true ∧ frame.hasPacket = false) ∧
        (concealed ≠ [] → jitter'.slots = []) ∧ (played ++ jitter'.slots).map slotAudio = delivered ++ [frame] ∧
        jitter'.stats.packetsLost = UInt32.ofNat concealed.length := by
    refine ⟨played, [], by rw [hrecord, List.append_nil], fun f hf => absurd hf List.not_mem_nil,
      fun hne => absurd rfl hne, ?_, by rw [hqueued.packetsLost_eq, hlost]; rfl⟩
    rw [hqueued.slots_eq, ← List.append_assoc, List.map_append, hdelivered]
    rfl
  have hlength {jitter' : VoipJitterBuffer D}
      (hqueued : VoipJitterBuffer.Queued jitter jitter' ⟨next, frame.timestamp, frame.opus⟩) :
      jitter'.slots.length = jitter.slots.length + 1 := by
    rw [hqueued.slots_eq, List.length_append, List.length_singleton]
  have hnext (number : UInt16) (n : ℕ) : number + UInt16.ofNat n + 1 = number + UInt16.ofNat (n + 1) := by
    rw [UInt16.ofNat_add, UInt16.add_assoc]
    rfl
  by_cases hstarted : jitter.started = true
  · have hnumber := h.in_time hstarted hle
    obtain ⟨jitter', hinsert, hqueued⟩ :=
      VoipJitterBuffer.insert_of_consecutive frame.timestamp now hopus h.consecutive hroom hnumber
    have hsequence : jitter'.nextSequence = jitter.nextSequence := by rw [hqueued.nextSequence_eq, if_pos hstarted]
    refine ⟨jitter', hinsert, ⟨?_, ?_, ?_, ?_, ?_, ?_, hsplit hqueued, ?_⟩⟩
    · intro hfalse
      rw [hqueued.started] at hfalse
      cases hfalse
    · rw [hqueued.playoutIndex_eq, if_pos hstarted, h.index_eq]
    · rw [hsequence, hqueued.slots_eq]
      exact consecutive_append_singleton.2 ⟨h.consecutive, hnumber⟩
    · rw [hlength hqueued]
      exact hroom
    · rw [hqueued.frameMs_eq]
      exact h.frameMs_nonneg
    · rw [hqueued.lateDrops_eq, h.none_dropped]
    · intro _ _
      rw [hsequence, hlength hqueued, hnumber, hnext]
  · have hfalse : jitter.started = false := Bool.eq_false_of_not_eq_true hstarted
    obtain ⟨hdelivered, hslots⟩ := h.not_started hfalse
    obtain ⟨jitter', hinsert, hqueued⟩ :=
      VoipJitterBuffer.insert_of_not_started next frame.timestamp now hopus hfalse hslots
    have hsequence : jitter'.nextSequence = next := by rw [hqueued.nextSequence_eq, if_neg hstarted]
    have hone : jitter'.slots = [⟨next, frame.timestamp, frame.opus⟩] := by
      rw [hqueued.slots_eq, hslots, List.nil_append]
    refine ⟨jitter', hinsert, ⟨?_, ?_, ?_, ?_, ?_, ?_, hsplit hqueued, ?_⟩⟩
    · intro hnot
      rw [hqueued.started] at hnot
      cases hnot
    · rw [hdelivered] at hle
      rw [hqueued.playoutIndex_eq, if_neg hstarted]
      exact (Nat.le_zero.1 hle).symm
    · rw [hsequence, hone]
      exact ⟨rfl, trivial⟩
    · rw [hone, List.length_singleton]
      decide
    · rw [hqueued.frameMs_eq]
      exact h.frameMs_nonneg
    · rw [hqueued.lateDrops_eq, h.none_dropped]
    · intro _ _
      rw [hsequence, hone]
      rfl

/-! ### Runs -/

variable {s : System D}

variable (C keys localIsOutgoing) in
/-- The invariant of the run: the datagrams on their way are numbered up to the last audio frame sent, and the playout
is where the first of them has to come next. -/
structure Inv (s : System D) : Prop where
  numbered : ∃ next last, Numbered C keys localIsOutgoing next s.inFlight last ∧
    (∀ sequence ∈ s.lastAudio, last = lowSequence sequence + 1) ∧
    Playing s.receiver.jitter s.record s.delivered next
  no_audio : s.lastAudio = none → (∀ datagram ∈ s.inFlight, datagram.audio = none) ∧ s.receiver.jitter.started = false

/-- What `Playing` says does not depend on the next number before the playout has started. -/
theorem Playing.of_not_started (h : Playing jitter record delivered next) (hstarted : jitter.started = false)
    (number : UInt16) : Playing jitter record delivered number :=
  { h with in_time := fun htrue => Bool.noConfusion (hstarted.symm.trans htrue) }

theorem Inv.of_fresh (h : Fresh s) : Inv C keys localIsOutgoing s := by
  refine ⟨⟨0, 0, ?_, ?_, ?_⟩, fun _ => ⟨?_, ?_⟩⟩
  · rw [h.inFlight_eq]
    rfl
  · rw [h.lastAudio_eq]
    exact fun _ hmem => absurd hmem (Option.not_mem_none _)
  · have hframe : 0 ≤ (VoipJitterBuffer.new D defaultAudioFrameDurationMs.toNat).frameMs :=
      show (0 : ℤ) ≤ if (defaultAudioFrameDurationMs.toNat : ℤ) ≤ 0 then 20 else defaultAudioFrameDurationMs.toNat by
        decide
    rw [h.jitter_eq, h.record_eq, h.delivered_eq]
    refine ⟨fun _ => ⟨rfl, rfl⟩, rfl, trivial, Nat.zero_le _, hframe, rfl,
      ⟨[], [], rfl, fun f hf => absurd hf List.not_mem_nil, fun hne => absurd rfl hne, rfl, rfl⟩, ?_⟩
    intro hfalse
    cases hfalse
  · rw [h.inFlight_eq]
    exact fun _ hmem => absurd hmem List.not_mem_nil
  · rw [h.jitter_eq]
    rfl

theorem step_audio_of_none {opus : Bytes}
    (hsent : (s.sender.encodeAndSendAudioFrame C keys localIsOutgoing random opus).1 = none) :
    s.step C keys localIsOutgoing (.audio opus random)
      = { s with sender := (s.sender.encodeAndSendAudioFrame C keys localIsOutgoing random opus).2 } := by
  unfold step send
  simp only [hsent]
  rfl

theorem step_audio_of_some {opus wire : Bytes}
    (hsent : (s.sender.encodeAndSendAudioFrame C keys localIsOutgoing random opus).1 = some wire) :
    s.step C keys localIsOutgoing (.audio opus random)
      = { s with
          sender := (s.sender.encodeAndSendAudioFrame C keys localIsOutgoing random opus).2
          inFlight := s.inFlight ++ [⟨wire, some ⟨s.sender.audioTimestampOut, opus⟩⟩]
          lastAudio := some (takeNextSequence s.sender.nextLocalSequence).1 } := by
  unfold step send
  simp only [hsent]
  rfl

theorem step_receive_nil {now : ℤ} {calls : List ℤ} (hin : s.inFlight = []) :
    s.step C keys localIsOutgoing (.receive now random calls) = s.drain calls := by
  unfold step
  rw [hin]

theorem step_receive_cons {now : ℤ} {calls : List ℤ} {rest : List Datagram} (hin : s.inFlight = datagram :: rest) :
    s.step C keys localIsOutgoing (.receive now random calls)
      = drain
          { s with
            receiver := (s.receiver.receiveDatagram C keys (!localIsOutgoing) random datagram.bytes now).2
            inFlight := rest
            delivered := s.delivered ++ datagram.audio.toList }
          calls := by
  unfold step
  rw [hin]

theorem Inv.send_control (h : Inv C keys localIsOutgoing s) {sent : Option Bytes × VoipActiveMediaContext D}
    {type : VoipControlPacketType} (htype : type ≠ .streamData)
    (hopen : ∀ wire, sent.1 = some wire →
      ∃ packet, openPacket C keys.sharedKey (!localIsOutgoing) keys.peerTag wire = some packet ∧ packet.type = type) :
    Inv C keys localIsOutgoing (s.send sent none) := by
  obtain ⟨wire?, ctx⟩ := sent
  obtain ⟨next, last, hnumbered, hlast, hplaying⟩ := h.numbered
  rcases wire? with _ | wire
  · exact ⟨⟨next, last, hnumbered, hlast, hplaying⟩, h.no_audio⟩
  · obtain ⟨packet, hpacket, rfl⟩ := hopen wire rfl
    refine ⟨⟨next, last, numbered_append hnumbered ⟨packet, hpacket, htype⟩, hlast, hplaying⟩, fun hnone => ?_⟩
    obtain ⟨hcontrol, hstarted⟩ := h.no_audio hnone
    refine ⟨fun datagram hmem => ?_, hstarted⟩
    rcases List.mem_append.1 hmem with hold | hnew
    · exact hcontrol datagram hold
    · rw [List.mem_singleton.1 hnew]

theorem Inv.send_audio (h : Inv C keys localIsOutgoing s) {opus : Bytes} (hmeets : s.Meets (.audio opus random)) :
    Inv C keys localIsOutgoing (s.step C keys localIsOutgoing (.audio opus random)) := by
  obtain ⟨next, last, hnumbered, hlast, hplaying⟩ := h.numbered
  rcases hout : (s.sender.encodeAndSendAudioFrame C keys localIsOutgoing random opus).1 with _ | wire
  · rw [step_audio_of_none hout]
    exact ⟨⟨next, last, hnumbered, hlast, hplaying⟩, h.no_audio⟩
  obtain ⟨hencoded, hshort, hopen⟩ := VoipActiveMediaContext.encodeAndSendAudioFrame_some hout
  have hne : opus ≠ [] := (encodeAudio_success_iff.1 hencoded).2.1
  rw [step_audio_of_some hout]
  set seq := (takeNextSequence s.sender.nextLocalSequence).1 with hseq
  have hopens : Opens C keys localIsOutgoing ⟨wire, some ⟨s.sender.audioTimestampOut, opus⟩⟩ (lowSequence seq) :=
    ⟨seq, s.sender.lastRemoteSequence, hopen, rfl, hencoded⟩
  have hafter {sequence : UInt32} (hmem : sequence ∈ some seq) : lowSequence seq + 1 = lowSequence sequence + 1 := by
    rw [Option.some.inj hmem]
  refine ⟨?_, fun hnone => absurd hnone (Option.some_ne_none _)⟩
  rcases hold : s.lastAudio with _ | before
  · -- the first audio frame: its number is the next one for everybody
    obtain ⟨hcontrol, hstarted⟩ := h.no_audio hold
    exact ⟨lowSequence seq, lowSequence seq + 1,
      numbered_append (numbered_of_no_audio hnumbered hcontrol (lowSequence seq)) hopens, fun _ hmem => hafter hmem,
      hplaying.of_not_started hstarted _⟩
  · have hfollows : lowSequence seq = last := (hmeets hne hshort before hold).trans (hlast before hold).symm
    rw [hfollows] at hopens
    refine ⟨next, lowSequence seq + 1, ?_, fun _ hmem => hafter hmem, hplaying⟩
    rw [hfollows]
    exact numbered_append hnumbered hopens

theorem Inv.drain (h : Inv C keys localIsOutgoing s) (calls : List ℤ) : Inv C keys localIsOutgoing (s.drain calls) := by
  obtain ⟨next, last, hnumbered, hlast, hplaying⟩ := h.numbered
  refine ⟨⟨next, last, hnumbered, hlast, hplaying.drain calls⟩, fun hnone => ⟨(h.no_audio hnone).1, ?_⟩⟩
  have hstarted := (h.no_audio hnone).2
  show (drainJitterToAudio s.receiver.jitter calls).2.started = false
  cases calls with
  | nil => exact hstarted
  | cons now calls =>
    have hnext : s.receiver.jitter.nextPlayoutFrame now = ({}, s.receiver.jitter) :=
      VoipJitterBuffer.nextPlayoutFrame_of_not_due (.inl hstarted)
    rw [drainJitterToAudio_of_not_ready (by rw [hnext]), hnext]
    exact hstarted

theorem jitter_receiveDatagram_of_control (ctx : VoipActiveMediaContext D) (random : ℕ → UInt8) (now : ℤ)
    {packet : VoipControlPacket} {wire : Bytes} {incoming : Bool}
    (hopen : openPacket C keys.sharedKey incoming keys.peerTag wire = some packet)
    (htype : packet.type ≠ .streamData) :
    (ctx.receiveDatagram C keys incoming random wire now).2.jitter = ctx.jitter := by
  have hnote : (ctx.noteRemoteSequence packet.sequence).jitter = ctx.jitter := by
    unfold VoipActiveMediaContext.noteRemoteSequence
    split <;> rfl
  unfold VoipActiveMediaContext.receiveDatagram
  rw [hopen]
  show (ctx.handlePacket C keys incoming random packet wire.length now).2.jitter = ctx.jitter
  unfold VoipActiveMediaContext.handlePacket
  rw [← hnote]
  cases hcase : packet.type <;> simp only [hcase, ne_eq, not_true_eq_false] at htype ⊢
  case initAck => split <;> rfl
  all_goals rfl

theorem jitter_receiveDatagram_of_audio {ctx : VoipActiveMediaContext D} (random : ℕ → UInt8) {now : ℤ} {wire : Bytes}
    {incoming : Bool} {frame : AudioFrame} {seq ack : UInt32} {jitter' : VoipJitterBuffer D}
    (hopen : openPacket C keys.sharedKey incoming keys.peerTag wire
      = some (audioPacket defaultAudioStreamId frame.timestamp seq ack frame.opus))
    (hencoded : (encodeAudio defaultAudioStreamId frame.timestamp frame.opus).success = true)
    (hinsert : ctx.jitter.insert (lowSequence seq) frame.timestamp frame.opus now = .ok jitter') :
    (ctx.receiveDatagram C keys incoming random wire now).2.jitter = jitter' := by
  have hnote : (ctx.noteRemoteSequence seq).jitter = ctx.jitter := by
    unfold VoipActiveMediaContext.noteRemoteSequence
    split <;> rfl
  unfold VoipActiveMediaContext.receiveDatagram
  rw [hopen]
  show ((ctx.noteRemoteSequence seq).insertAudio
    (audioPacket defaultAudioStreamId frame.timestamp seq ack frame.opus) wire.length now).jitter = jitter'
  unfold VoipActiveMediaContext.insertAudio
  have hstream : decodeOne (audioPacket defaultAudioStreamId frame.timestamp seq ack frame.opus).payload
      = { success := true
          bytes := stream defaultAudioStreamId frame.timestamp frame.opus
          packet := { streamId := defaultAudioStreamId, timestamp := frame.timestamp, opusPayload := frame.opus } } :=
    decodeOne_encodeAudio hencoded
  have hsequence : (audioPacket defaultAudioStreamId frame.timestamp seq ack frame.opus).sequence = seq := rfl
  simp only [hstream, hsequence, hnote, hinsert]
  rfl

theorem Inv.receive (h : Inv C keys localIsOutgoing s) {now : ℤ} {calls : List ℤ}
    (hmeets : s.Meets (.receive now random calls)) :
    Inv C keys localIsOutgoing (s.step C keys localIsOutgoing (.receive now random calls)) := by
  obtain ⟨next, last, hnumbered, hlast, hplaying⟩ := h.numbered
  rcases hin : s.inFlight with _ | ⟨datagram, rest⟩
  · rw [step_receive_nil hin]
    exact h.drain calls
  rw [step_receive_cons hin]
  rw [hin] at hnumbered
  obtain ⟨hopens, hrest⟩ := hnumbered
  refine Inv.drain ?_ calls
  rcases haudio : datagram.audio with _ | frame
  · -- a control packet
    unfold Opens at hopens
    rw [haudio] at hopens
    obtain ⟨packet, hopen, htype⟩ := hopens
    have hjitter := jitter_receiveDatagram_of_control s.receiver random now hopen htype
    have hafter : after next datagram = next := by rw [after, haudio]; rfl
    rw [hafter] at hrest
    refine ⟨⟨next, last, hrest, hlast, ?_⟩, fun hnone => ⟨fun d hd => ?_, ?_⟩⟩
    · show Playing (s.receiver.receiveDatagram C keys (!localIsOutgoing) random datagram.bytes now).2.jitter s.record
        (s.delivered ++ []) next
      rwa [hjitter, List.append_nil]
    · exact (h.no_audio hnone).1 d (hin ▸ List.mem_cons_of_mem _ hd)
    · show (s.receiver.receiveDatagram C keys (!localIsOutgoing) random datagram.bytes now).2.jitter.started = false
      rw [hjitter]
      exact (h.no_audio hnone).2
  · -- an audio frame
    unfold Opens at hopens
    rw [haudio] at hopens
    obtain ⟨seq, ack, hopen, rfl, hencoded⟩ := hopens
    have hhead : (s.inFlight.head?.bind Datagram.audio).isSome = true := by
      rw [hin, List.head?_cons, Option.bind_some, haudio]
      rfl
    obtain ⟨hindex, hroom⟩ := hmeets hhead
    obtain ⟨jitter', hinsert, hplaying'⟩ :=
      hplaying.insert (encodeAudio_success_iff.1 hencoded).2.1 hindex hroom now
    have hjitter := jitter_receiveDatagram_of_audio random hopen hencoded hinsert
    have hafter : after (lowSequence seq) datagram = lowSequence seq + 1 := by rw [after, haudio]; rfl
    rw [hafter] at hrest
    refine ⟨⟨lowSequence seq + 1, last, hrest, hlast, ?_⟩, fun hnone => ?_⟩
    · show Playing (s.receiver.receiveDatagram C keys (!localIsOutgoing) random datagram.bytes now).2.jitter s.record
        (s.delivered ++ [frame]) (lowSequence seq + 1)
      rwa [hjitter]
    · have hnoaudio := (h.no_audio hnone).1 datagram (hin ▸ List.mem_cons_self)
      rw [haudio] at hnoaudio
      cases hnoaudio

/-- **A step that meets its condition keeps the invariant.** -/
theorem Inv.step (h : Inv C keys localIsOutgoing s) {event : Event} (hmeets : s.Meets event) :
    Inv C keys localIsOutgoing (s.step C keys localIsOutgoing event) := by
  cases event with
  | audio opus random => exact h.send_audio hmeets
  | pong ping random => exact h.send_control (by decide) fun wire => VoipActiveMediaContext.openPacket_sendControl
  | init random => exact h.send_control (by decide) fun wire => VoipActiveMediaContext.openPacket_sendControl
  | initAck init random => exact h.send_control (by decide) fun wire => VoipActiveMediaContext.openPacket_sendControl
  | heard sequence => exact ⟨h.numbered, h.no_audio⟩
  | receive now random calls => exact h.receive hmeets
  | timeout calls => exact h.drain calls

/-! ### What is played -/

theorem playedAudio_append (front back : List VoipJitterFrame) :
    playedAudio (front ++ back) = playedAudio front ++ playedAudio back := by
  rw [playedAudio, List.filter_append, List.map_append]
  rfl

theorem playedAudio_packets (played : List Slot) :
    playedAudio (played.map VoipJitterBuffer.packetFrame) = played.map slotAudio := by
  induction played with
  | nil => rfl
  | cons slot rest ih =>
    have hhead : playedAudio [VoipJitterBuffer.packetFrame slot] = [slotAudio slot] := rfl
    rw [List.map_cons, List.map_cons, ← List.singleton_append, playedAudio_append, hhead, ih]
    rfl

theorem playedAudio_concealed (h : ∀ frame ∈ record, frame.plc = true ∧ frame.hasPacket = false) :
    playedAudio record = [] := by
  have hnone : record.filter VoipJitterFrame.hasPacket = [] :=
    List.filter_eq_nil_iff.2 fun frame hmem => by rw [(h frame hmem).2]; decide
  rw [playedAudio, hnone, List.map_nil]

theorem countP_plc_packets (played : List Slot) :
    (played.map VoipJitterBuffer.packetFrame).countP VoipJitterFrame.plc = 0 := by
  rw [List.countP_eq_zero]
  intro frame hmem
  obtain ⟨slot, _, rfl⟩ := List.mem_map.1 hmem
  exact Bool.false_ne_true

theorem Playing.in_order (h : Playing jitter record delivered next) :
    playedAudio record ++ jitter.slots.map slotAudio = delivered := by
  obtain ⟨played, concealed, hrecord, hconcealed, _, hdelivered, _⟩ := h.split
  rw [hrecord, playedAudio_append, playedAudio_packets, playedAudio_concealed hconcealed, List.append_nil,
    ← List.map_append, hdelivered]

/-- Behind a concealed frame nothing was played, and nothing waits. -/
theorem Playing.no_concealment (h : Playing jitter record delivered next) {front back : List VoipJitterFrame}
    {frame : VoipJitterFrame} (heq : record = front ++ frame :: back) (hplc : frame.plc = true) :
    playedAudio back = [] ∧ jitter.slots = [] := by
  obtain ⟨played, concealed, hrecord, hconcealed, hempty, _, _⟩ := h.split
  have hpacket : ∀ f ∈ played.map VoipJitterBuffer.packetFrame, f.plc = false := by
    intro f hmem
    obtain ⟨slot, _, rfl⟩ := List.mem_map.1 hmem
    rfl
  rcases List.append_eq_append_iff.1 (hrecord.symm.trans heq) with ⟨rest, rfl, hrest⟩ | ⟨rest, hrest, hback⟩
  · -- the frame is one of the concealed ones
    have hne : concealed ≠ [] := by
      rw [hrest]
      simp
    refine ⟨playedAudio_concealed fun f hmem => hconcealed f ?_, hempty hne⟩
    rw [hrest]
    exact List.mem_append_right _ (List.mem_cons_of_mem _ hmem)
  · rcases rest with _ | ⟨first, rest⟩
    · rw [List.nil_append] at hback
      refine ⟨playedAudio_concealed fun f hmem => hconcealed f ?_, hempty (by rw [← hback]; simp)⟩
      rw [← hback]
      exact List.mem_cons_of_mem _ hmem
    · -- the frame would be one of the packets
      have hfirst : frame = first := (List.cons.inj hback).1
      have hmem : frame ∈ played.map VoipJitterBuffer.packetFrame := by
        rw [hrest, hfirst]
        exact List.mem_append_right _ List.mem_cons_self
      rw [hpacket frame hmem] at hplc
      cases hplc

theorem Playing.lost_eq (h : Playing jitter record delivered next) :
    jitter.stats.packetsLost = UInt32.ofNat (record.countP VoipJitterFrame.plc) := by
  obtain ⟨played, concealed, hrecord, hconcealed, _, _, hlost⟩ := h.split
  have hall : concealed.countP VoipJitterFrame.plc = concealed.length :=
    List.countP_eq_length.2 fun frame hmem => (hconcealed frame hmem).1
  rw [hrecord, List.countP_append, countP_plc_packets, hall, Nat.zero_add, hlost]

/-- **Calls that come late enough empty the buffer.** -/
theorem Playing.slots_drain (h : Playing jitter record delivered next) {calls : List ℤ}
    (hlen : calls.length = jitter.slots.length)
    (hlate : ∀ now ∈ calls, jitter.firstPlayoutMs + (jitter.playoutIndex + jitter.slots.length) * jitter.frameMs ≤ now) :
    (drainJitterToAudio jitter calls).2.slots = [] := by
  induction calls generalizing jitter record with
  | nil => exact List.length_eq_zero_iff.1 hlen.symm
  | cons now calls ih =>
    rcases hslots : jitter.slots with _ | ⟨slot, rest⟩
    · rw [hslots] at hlen
      cases hlen
    have hstarted : jitter.started = true := by
      by_contra hnot
      have := (h.not_started (Bool.eq_false_of_not_eq_true hnot)).2
      rw [hslots] at this
      cases this
    have hdue : jitter.due ≤ now := by
      have hnow := hlate now List.mem_cons_self
      have := mul_nonneg (Int.natCast_nonneg jitter.slots.length) h.frameMs_nonneg
      rw [add_mul] at hnow
      unfold VoipJitterBuffer.due
      omega
    obtain ⟨jitter', hnext, hadvanced, hrest, -⟩ :=
      VoipJitterBuffer.nextPlayoutFrame_of_consecutive hstarted hdue hslots h.consecutive h.room
    have hready : (jitter.nextPlayoutFrame now).1.ready = true := by
      rw [hnext]
      rfl
    obtain ⟨hfalse, _⟩ | ⟨_, hplaying⟩ := h.nextPlayoutFrame now
    · rw [hready] at hfalse
      cases hfalse
    rw [drainJitterToAudio_of_ready hready]
    rw [hnext] at hplaying ⊢
    refine ih hplaying ?_ fun later hmem => ?_
    · rw [hslots, List.length_cons, List.length_cons] at hlen
      rw [hrest]
      omega
    · have hlater := hlate later (List.mem_cons_of_mem _ hmem)
      have hcount : ((jitter.playoutIndex + 1 : ℕ) : ℤ) + (rest.length : ℤ)
          = jitter.playoutIndex + (jitter.slots.length : ℤ) := by
        rw [hslots, List.length_cons]
        push_cast
        ring
      rw [hadvanced.firstPlayoutMs_eq, hadvanced.playoutIndex_eq, hadvanced.frameMs_eq, hrest, hcount]
      exact hlater

theorem Inv.lossless (h : Inv C keys localIsOutgoing s) : Lossless s := by
  obtain ⟨next, last, _, _, hplaying⟩ := h.numbered
  exact ⟨hplaying.in_order, fun _ _ _ => hplaying.no_concealment, hplaying.none_dropped, hplaying.lost_eq⟩

theorem Inv.drains (h : Inv C keys localIsOutgoing s) : Drains s := by
  obtain ⟨next, last, _, _, hplaying⟩ := h.numbered
  refine ⟨s.receiver.jitter.firstPlayoutMs
    + (s.receiver.jitter.playoutIndex + s.receiver.jitter.slots.length) * s.receiver.jitter.frameMs, ?_⟩
  intro calls hlen hlate
  have hslots : (s.drain calls).receiver.jitter.slots = [] := hplaying.slots_drain hlen hlate
  have hin_order := (h.drain calls).lossless.in_order
  rw [hslots, List.map_nil, List.append_nil] at hin_order
  exact ⟨hin_order, hslots⟩

variable (C keys localIsOutgoing) in
/-- **No audio is lost in a run that meets its condition**, and the frames that wait at its end are played by the drains
to come. -/
theorem lossless_run (hfresh : Fresh s) (events : List Event)
    (hguarded : Run.Guarded (fun s event => s.step C keys localIsOutgoing event) Meets s events) :
    Lossless (Run.run (fun s event => s.step C keys localIsOutgoing event) s events) ∧
      Drains (Run.run (fun s event => s.step C keys localIsOutgoing event) s events) := by
  have hinv : Inv C keys localIsOutgoing (Run.run (fun s event => s.step C keys localIsOutgoing event) s events) :=
    Run.invariant_run (fun _ _ hinv hmeets => hinv.step hmeets) (Inv.of_fresh hfresh) hguarded
  exact ⟨hinv.lossless, hinv.drains⟩

/-! ### A packet between two frames -/

instance (s : System D) (event : Event) : Decidable (s.Meets event) :=
  match event with
  | .audio opus _ =>
    -- only the member of the option is looked at, not every `UInt32`
    have := Option.decidableForallMem
      (p := fun last => lowSequence (takeNextSequence s.sender.nextLocalSequence).1 = lowSequence last + 1)
      (o := s.lastAudio)
    inferInstanceAs (Decidable (opus ≠ [] → opus.length ≤ 1093 → ∀ last ∈ s.lastAudio,
      lowSequence (takeNextSequence s.sender.nextLocalSequence).1 = lowSequence last + 1))
  | .receive _ _ _ =>
    inferInstanceAs (Decidable ((s.inFlight.head?.bind Datagram.audio).isSome = true →
      s.receiver.jitter.playoutIndex ≤ s.delivered.length ∧ s.receiver.jitter.slots.length < kMaxBufferedPackets))
  | .pong _ _ | .init _ | .initAck _ _ | .heard _ | .timeout _ => inferInstanceAs (Decidable True)

/-- A smoothing in whole milliseconds. -/
def sampleSmoothing : Smoothing where
  Value := ℤ
  zero := 0
  ofInt := id
  smooth := fun smoothed jitter => (19 * smoothed + jitter) / 20
  fourfold := fun smoothed => 4 * smoothed

def sampleKeys : RelayKeys where
  sharedKey := List.replicate 256 1
  peerTag := List.replicate 16 0x30
  length_sharedKey := List.length_replicate
  length_peerTag := List.length_replicate

def sampleRandom : ℕ → UInt8 := fun n => UInt8.ofNat n

/-- The run of the sample keys. -/
def sampleRun (events : List Event) : System sampleSmoothing :=
  Run.run (fun s event => s.step VoipPacketCrypto.sampleBlockCrypto sampleKeys true event) {} events

/-- An Init, and two frames behind each other. -/
def inSequence : List Event :=
  [.init sampleRandom, .audio [0x55] sampleRandom, .audio [0x66] sampleRandom, .receive 0 sampleRandom [0],
    .receive 1 sampleRandom [1], .receive 2 sampleRandom [2]]

theorem lossless_sample : Lossless (sampleRun inSequence) ∧ Drains (sampleRun inSequence) :=
  lossless_run VoipPacketCrypto.sampleBlockCrypto sampleKeys true ⟨rfl, rfl, rfl, rfl, rfl⟩ inSequence
    (by decide +kernel)

/-- A Pong between two frames, which are delivered in time. -/
def pongBetween : List Event :=
  [.audio [0x55] sampleRandom, .receive 0 sampleRandom [0], .pong {} sampleRandom, .receive 60 sampleRandom [60, 60],
    .audio [0x66] sampleRandom, .receive 61 sampleRandom [61], .timeout [120, 120], .timeout [180, 180]]

/-- **A Pong is concealed.**  Both frames are delivered and played, with a concealed frame between them that counts as a
lost packet. -/
theorem pong_conceals :
    (sampleRun pongBetween).record.map (fun frame => (frame.sequenceNumber, frame.plc, frame.payload))
        = [(1, false, [0x55]), (2, true, []), (3, false, [0x66])] ∧
      (sampleRun pongBetween).receiver.jitter.stats.packetsLost = 1 ∧
      (sampleRun pongBetween).delivered = [⟨0, [0x55]⟩, ⟨60, [0x66]⟩] ∧ ¬ Lossless (sampleRun pongBetween) := by
  have hrecord : (sampleRun pongBetween).record
      = [{ ready := true, hasPacket := true, sequenceNumber := 1, payload := [0x55] }]
        ++ { ready := true, plc := true, sequenceNumber := 2, timestamp := 60 }
        :: [{ ready := true, hasPacket := true, sequenceNumber := 3, timestamp := 60, payload := [0x66] }] := by
    decide +kernel
  refine ⟨by rw [hrecord]; rfl, by decide +kernel, by decide +kernel, fun hlossless => ?_⟩
  have hplayed := (hlossless.no_concealment _ _ _ hrecord rfl).1
  cases hplayed

end System

end VianiumVoip.Relay
