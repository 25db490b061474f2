import VianiumVoip.Srtp.RoundTrip
import VianiumVoip.Srtp.SessionKeys
import VianiumVoip.Tgcalls.RolloverReceive
import VianiumVoip.Tgcalls.RtpReceive
import VianiumVoip.Tgcalls.SetupRoles

/-!
# The audio of two connections

Two connections whose SRTP sessions are up, each under the keys of the other, send each other what they capture:
`RunAudioCaptureLoop` turn by turn on one side, `OnReflectorDatagram` down to the decoder on the other.  The network
between them loses, duplicates, delays and reorders the datagrams, and others may send what the keys reject.

The sender never raises its roll-over counter and the receiver never looks for another one.  So between two connections of
this program every datagram that arrives is played, in a call of any length (`audio_delivered`).
-/

namespace VianiumVoip.Tgcalls

open VianiumVoip.Lib VianiumVoip.Lib.Run VianiumVoip.Srtp VianiumVoip.Dtls

/-! ### Capture -/

/-- `OpusVoipCodec::SamplesPerFrame` -/
def kFrameSamples : UInt32 := 2880

/-- `OpusVoipCodec::MaxPacketBytes` -/
def kMaxPacketBytes : ℕ := 400

def kOpusPayloadType : UInt8 := 111

/-- What a turn of the loop gets from the platform. -/
structure CaptureTurn where
  /-- The device and the codec are there. -/
  opened : Bool
  /-- The frame that was read and encoded; empty where the read timed out or nothing was encoded. -/
  opusFrame : Bytes
  length_opusFrame : opusFrame.length ≤ kMaxPacketBytes

/-- The header of twelve bytes, and the frame. -/
def rtpPacket (seq : UInt16) (ts ssrc : UInt32) (opusFrame : Bytes) : Bytes :=
  [0x80, kOpusPayloadType &&& 0x7F] ++ storeBE16 seq ++ storeBE32 ts ++ storeBE32 ssrc ++ opusFrame

namespace TgcallsConnection

/-- A turn of `RunAudioCaptureLoop`, and what it gives to `SendViaReflector`. -/
def captureTurn (C : Srtp.Crypto) (c : TgcallsConnection) (turn : CaptureTurn) : TgcallsConnection × Option Bytes :=
  match c.srtpOutgoing with
  | none => (c, none)
  | some outParams =>
    if !turn.opened || !c.srtpReady then (c, none)
    else if turn.opusFrame = [] then (c, none)
    else
      let packet := rtpPacket c.outgoingSeq c.outgoingTimestamp c.localSsrc turn.opusFrame
      let (outParams, srtpPacket) := encrypt C outParams packet c.outgoingSeq
      ({ c with
          srtpOutgoing := some outParams
          outgoingSeq := c.outgoingSeq + 1
          outgoingTimestamp := c.outgoingTimestamp + kFrameSamples },
        if srtpPacket = [] then none else some srtpPacket)

/-- What is read of a connection where a datagram of the media arrives. -/
def receivingHalf (c : TgcallsConnection) : State × Bool × Option SrtpEncryptParams :=
  (c.state, c.srtpReady, c.srtpIncoming)

end TgcallsConnection

/-! ### The two sides -/

/-- A side of the call: the datagrams it has sent and the frames they were made of, the numbers of the other side's
datagrams that have arrived, and the frames that its decoder was given. -/
structure AudioSide where
  conn : TgcallsConnection
  sent : List Bytes := []
  encoded : List Bytes := []
  arrived : List ℕ := []
  played : List Bytes := []

inductive AudioEvent
  | capture (side : Side) (turn : CaptureTurn)
  /-- The `k`-th datagram of the other side arrives. -/
  | arrives (side : Side) (k : ℕ) (draws : InitiateDraws) (audio : TgcallsConnection.AudioInput)
  /-- A datagram of somebody else. -/
  | forged (side : Side) (bytes : Bytes) (draws : InitiateDraws) (audio : TgcallsConnection.AudioInput)

namespace AudioSide

variable (C : Crypto)

def capture (p : AudioSide) (turn : CaptureTurn) : AudioSide :=
  match p.conn.captureTurn C.srtp turn with
  | (conn, none) => { p with conn := conn }
  | (conn, some packet) =>
    { p with conn := conn, sent := p.sent ++ [packet], encoded := p.encoded ++ [turn.opusFrame] }

/-- What goes to the decoder of an RTP packet. -/
def decoderInput (rtp : Option Bytes) : List Bytes :=
  ((rtp.bind fun rtp => (RtpReceive.onRtpPacket rtp true true).value).map Prod.snd).toList

def receive (p : AudioSide) (datagram : Bytes) (draws : InitiateDraws) (audio : TgcallsConnection.AudioInput) :
    AudioSide :=
  let (conn, _, rtp) := p.conn.onReflectorDatagram C
    { inner := datagram, connectivityEstablished := false, draws := draws, audio := audio }
  { p with conn := conn, played := p.played ++ decoderInput rtp }

end AudioSide

/-- One event of the call. -/
def audioStep (C : Crypto) (s : Side → AudioSide) : AudioEvent → Side → AudioSide
  | .capture side turn => Function.update s side ((s side).capture C turn)
  | .arrives side k draws audio =>
    match (s side.other).sent[k]? with
    | none => s
    | some datagram =>
      Function.update s side
        { (s side).receive C datagram draws audio with arrived := (s side).arrived ++ [k] }
  | .forged side bytes draws audio => Function.update s side ((s side).receive C bytes draws audio)

/-- The first byte is one of RTP, or of nothing. -/
def IsMedia (bytes : Bytes) : Prop := 0x80 ≤ bytes.headD 0

/-- A forged datagram is one of the media, the keys reject it, and it does not come before the SSRC of the other side is
known. -/
def Harmless (C : Crypto) (s : Side → AudioSide) : AudioEvent → Prop
  | .forged side bytes _ _ =>
    IsMedia bytes ∧ (s side).conn.Rejects C.srtp bytes ∧ ¬ (s side).conn.Latches bytes
  | _ => True

/-- The frame of a turn, where it has one. -/
def CaptureTurn.frames (turn : CaptureTurn) : List Bytes :=
  if turn.opened = true ∧ turn.opusFrame ≠ [] then [turn.opusFrame] else []

/-- The frames that a side captures, in order. -/
def capturedFrames (side : Side) (events : List AudioEvent) : List Bytes :=
  events.flatMap fun event =>
    match event with
    | .capture side' turn => if side' = side then turn.frames else []
    | _ => []

/-! ### The start of the audio -/

/-- The keys and the roll-over counter agree; the SSRC may be unknown yet. -/
structure SameKeys (receiver sender : SrtpEncryptParams) : Prop where
  encrKey : receiver.sessionEncrKey = sender.sessionEncrKey
  authKey : receiver.sessionAuthKey = sender.sessionAuthKey
  salt : receiver.sessionSalt = sender.sessionSalt
  rolloverCounter : receiver.rolloverCounter = sender.rolloverCounter

/-- **At the start**: each side sends in the session `out side`, and receives under the keys of the other. -/
structure AudioStart (out : Side → SrtpEncryptParams) (s : Side → AudioSide) : Prop where
  state_eq : ∀ side, (s side).conn.state = .connected
  ready : ∀ side, (s side).conn.srtpReady = true
  outgoing : ∀ side, (s side).conn.srtpOutgoing = some (out side)
  fresh : ∀ side, (out side).hasLastSequenceNumber = false
  ssrc : ∀ side, (out side).ssrc = (s side).conn.localSsrc
  incoming : ∀ side, ∃ inParams, (s side).conn.srtpIncoming = some inParams ∧ SameKeys inParams (out side.other) ∧
    inParams.ssrc = 0
  nothing : ∀ side, (s side).sent = [] ∧ (s side).encoded = [] ∧ (s side).arrived = [] ∧ (s side).played = []

/-- What one side sends under, the other receives under: its halves of the keying material are the other way round, as the
client and the server of a DTLS session have them. -/
structure CrossedKeys (keys keys' : Bytes) : Prop where
  key : (keys'.drop 16).take 16 = keys.take 16
  salt : (keys'.drop 46).take 14 = (keys.drop 32).take 14

/-- **The audio phases of two sides** whose keys are crossed are such a start. -/
theorem audioStart_startAudioPhase (C : Srtp.Crypto) (c : Side → TgcallsConnection) (keys : Side → Bytes)
    (hcrossed : ∀ side, CrossedKeys (keys side.other) (keys side)) :
    AudioStart
      (fun side => .initial C ⟨(keys side).take 16, ((keys side).drop 32).take 14⟩ (c side).localSsrc)
      (fun side => { conn := (c side).startAudioPhase C (keys side) ⟨true, true⟩ }) where
  state_eq _ := rfl
  ready _ := rfl
  outgoing _ := rfl
  fresh _ := rfl
  ssrc _ := rfl
  incoming := by
    intro side
    obtain ⟨hkey, hsalt⟩ := hcrossed side
    refine ⟨.initial C ⟨((keys side).drop 16).take 16, ((keys side).drop 46).take 14⟩ 0, rfl, ?_, rfl⟩
    rw [hkey, hsalt]
    exact ⟨rfl, rfl, rfl, rfl⟩
  nothing _ := ⟨rfl, rfl, rfl, rfl⟩

/-! ### What a capture sends -/

section

variable {C : Srtp.Crypto} {c : TgcallsConnection} {params : SrtpEncryptParams} {turn : CaptureTurn}

/-- The packet as one of the packets that `Decrypt` gives back. -/
def plainPacket (seq : UInt16) (ts ssrc : UInt32) {opusFrame : Bytes} (h : opusFrame ≠ []) : Srtp.RtpPacket where
  padding := false
  markerAndType := kOpusPayloadType &&& 0x7F
  sequenceNumber := seq
  timestamp := ts
  ssrc := ssrc
  csrcs := []
  extension := none
  payload := opusFrame
  length_csrcs := Nat.zero_le 15
  payload_ne := h

theorem bytes_plainPacket (seq : UInt16) (ts ssrc : UInt32) {opusFrame : Bytes} (h : opusFrame ≠ []) :
    (plainPacket seq ts ssrc h).bytes = rtpPacket seq ts ssrc opusFrame := by
  have hfirst : firstByte false false 0 = 0x80 := by decide
  simp only [RtpPacket.bytes, RtpPacket.options, plainPacket, rtpPacket, Option.isSome_none, List.length_nil, hfirst,
    List.flatMap_nil, Option.elim_none, List.nil_append, List.cons_append, List.append_assoc]

theorem wellFormed_rtpPacket (seq : UInt16) (ts ssrc : UInt32) {opusFrame : Bytes} (h : opusFrame ≠ []) :
    WellFormed (rtpPacket seq ts ssrc opusFrame) := by
  rw [← bytes_plainPacket seq ts ssrc h]
  exact (plainPacket seq ts ssrc h).wellFormed_bytes

theorem headerSequenceNumber_rtpPacket (seq : UInt16) (ts ssrc : UInt32) (opusFrame : Bytes) :
    headerSequenceNumber (rtpPacket seq ts ssrc opusFrame) = seq := by
  simp only [headerSequenceNumber, rtpPacket, List.cons_append, List.nil_append, List.append_assoc,
    List.drop_succ_cons, List.drop_zero]
  exact loadBE16_store ..

theorem headerSsrc_rtpPacket (seq : UInt16) (ts ssrc : UInt32) (opusFrame : Bytes) :
    headerSsrc (rtpPacket seq ts ssrc opusFrame) = ssrc := by
  simp only [headerSsrc, rtpPacket, List.cons_append, List.nil_append, List.append_assoc, List.drop_succ_cons]
  rw [drop_storeBE16 _ 4, drop_storeBE32 _ 0, List.drop_zero]
  exact loadBE32_store ..

theorem locatePayloadStart_rtpPacket (seq : UInt16) (ts ssrc : UInt32) {opusFrame : Bytes} (h : opusFrame ≠ []) :
    locatePayloadStart (rtpPacket seq ts ssrc opusFrame) = 12 := by
  rw [← bytes_plainPacket seq ts ssrc h]
  exact (plainPacket seq ts ssrc h).locatePayloadStart_bytes

theorem length_rtpPacket (seq : UInt16) (ts ssrc : UInt32) (opusFrame : Bytes) :
    (rtpPacket seq ts ssrc opusFrame).length = 12 + opusFrame.length := by
  simp only [rtpPacket, List.length_append, List.length_cons, List.length_nil, length_storeBE16, length_storeBE32]

theorem drop_rtpPacket (seq : UInt16) (ts ssrc : UInt32) (opusFrame : Bytes) :
    (rtpPacket seq ts ssrc opusFrame).drop 12 = opusFrame := by
  rw [rtpPacket]
  exact List.drop_left' rfl

theorem ne_nil_protect (params : SrtpEncryptParams) (rtp : Bytes) (seq : UInt16) : protect C params rtp seq ≠ [] := by
  intro hnil
  have hlength := congrArg List.length hnil
  rw [length_protect, List.length_nil, kAuthTagSize] at hlength
  omega

/-- A turn with a frame sends it under the parameters that `advanceRollover` leaves. -/
theorem captureTurn_frame (hready : c.srtpReady = true) (hout : c.srtpOutgoing = some params)
    (hopened : turn.opened = true) (hframe : turn.opusFrame ≠ []) :
    c.captureTurn C turn =
      ({ c with
          srtpOutgoing := some (advanceRollover params c.outgoingSeq)
          outgoingSeq := c.outgoingSeq + 1
          outgoingTimestamp := c.outgoingTimestamp + kFrameSamples },
        some (protect C (advanceRollover params c.outgoingSeq)
          (rtpPacket c.outgoingSeq c.outgoingTimestamp c.localSsrc turn.opusFrame) c.outgoingSeq)) := by
  unfold TgcallsConnection.captureTurn
  rw [hout, hready, hopened]
  simp only [Bool.not_true, Bool.or_false, Bool.false_eq_true, if_false, if_neg hframe,
    encrypt_of_wellFormed C _ (wellFormed_rtpPacket _ _ _ hframe), if_neg (ne_nil_protect _ _ _)]

theorem captureTurn_idle (h : ¬ (turn.opened = true ∧ turn.opusFrame ≠ [])) : c.captureTurn C turn = (c, none) := by
  unfold TgcallsConnection.captureTurn
  cases c.srtpOutgoing with
  | none => rfl
  | some params =>
    by_cases hopened : turn.opened = true
    · have hframe : turn.opusFrame = [] := not_not.1 fun hne => h ⟨hopened, hne⟩
      simp only [hframe, if_true]
      split_ifs <;> rfl
    · have hclosed : turn.opened = false := Bool.eq_false_iff.2 hopened
      simp only [hclosed, Bool.not_false, Bool.true_or, if_true]

theorem receivingHalf_captureTurn : (c.captureTurn C turn).1.receivingHalf = c.receivingHalf := by
  unfold TgcallsConnection.captureTurn
  cases c.srtpOutgoing with
  | none => rfl
  | some params =>
    simp only
    split_ifs <;> rfl

end

/-! ### Sending -/

/-- A datagram that carries a frame under the session `out`. -/
def Carries (C : Srtp.Crypto) (out : SrtpEncryptParams) (datagram opusFrame : Bytes) : Prop :=
  opusFrame ≠ [] ∧ opusFrame.length ≤ kMaxPacketBytes ∧
    ∃ seq ts, datagram = protect C out (rtpPacket seq ts out.ssrc opusFrame) seq

/-- **A sender** in the session `out`: its roll-over counter still is that of the session, and each of its datagrams
carries the frame it was made of. -/
structure Sending (C : Srtp.Crypto) (out : SrtpEncryptParams) (p : AudioSide) : Prop where
  ready : p.conn.srtpReady = true
  ssrc : out.ssrc = p.conn.localSsrc
  session : ∃ params, p.conn.srtpOutgoing = some params ∧ SameSession params out ∧
    (params.hasLastSequenceNumber = false ∨ p.conn.outgoingSeq = params.lastSequenceNumber + 1)
  carries : List.Forall₂ (Carries C out) p.sent p.encoded

/-- The counter stands still where the sequence numbers count by one. -/
theorem sameSession_advanceRollover {params out : SrtpEncryptParams} {seq : UInt16} (h : SameSession params out)
    (hseq : params.hasLastSequenceNumber = false ∨ seq = params.lastSequenceNumber + 1) :
    SameSession (advanceRollover params seq) out ∧ (advanceRollover params seq).lastSequenceNumber = seq := by
  rcases hseq with hfirst | rfl
  · have hstill : advanceRollover params seq =
        { params with lastSequenceNumber := seq, hasLastSequenceNumber := true } := by
      unfold advanceRollover
      rw [hfirst]
      simp only [Bool.false_eq_true, false_and, if_false]
    rw [hstill]
    exact ⟨⟨h.encrKey, h.authKey, h.salt, h.ssrc, h.rolloverCounter⟩, rfl⟩
  · rw [advanceRollover_succ rfl]
    exact ⟨⟨h.encrKey, h.authKey, h.salt, h.ssrc, h.rolloverCounter⟩, rfl⟩

namespace AudioSide

variable {C : Crypto} {out : SrtpEncryptParams} {p : AudioSide}

/-- **A capture keeps the sender**, and what it reads is sent. -/
theorem sending_capture (h : Sending C.srtp out p) (turn : CaptureTurn) :
    Sending C.srtp out (p.capture C turn) ∧ (p.capture C turn).encoded = p.encoded ++ turn.frames := by
  unfold capture CaptureTurn.frames
  by_cases hturn : turn.opened = true ∧ turn.opusFrame ≠ []
  · obtain ⟨params, hout, hsession, hseq⟩ := h.session
    obtain ⟨hsession', hlast⟩ := sameSession_advanceRollover hsession hseq
    rw [captureTurn_frame h.ready hout hturn.1 hturn.2, if_pos hturn]
    refine ⟨⟨h.ready, h.ssrc, ⟨_, rfl, hsession', .inr (by rw [hlast])⟩, ?_⟩, rfl⟩
    have hnew : Carries C.srtp out (protect C.srtp (advanceRollover params p.conn.outgoingSeq)
        (rtpPacket p.conn.outgoingSeq p.conn.outgoingTimestamp p.conn.localSsrc turn.opusFrame) p.conn.outgoingSeq)
        turn.opusFrame := by
      refine ⟨hturn.2, turn.length_opusFrame, p.conn.outgoingSeq, p.conn.outgoingTimestamp, ?_⟩
      rw [hsession'.protect, h.ssrc]
    exact List.rel_append h.carries (.cons hnew .nil)
  · rw [captureTurn_idle hturn, if_neg hturn, List.append_nil]
    exact ⟨⟨h.ready, h.ssrc, h.session, h.carries⟩, rfl⟩

theorem capture_frame (p : AudioSide) (turn : CaptureTurn) :
    (p.capture C turn).conn.receivingHalf = p.conn.receivingHalf ∧ (p.capture C turn).arrived = p.arrived ∧
      (p.capture C turn).played = p.played := by
  have hhalf := @receivingHalf_captureTurn C.srtp p.conn turn
  unfold capture
  rcases hturn : p.conn.captureTurn C.srtp turn with ⟨conn, _ | packet⟩ <;> rw [hturn] at hhalf
  · exact ⟨hhalf, rfl, rfl⟩
  · exact ⟨hhalf, rfl, rfl⟩

end AudioSide

/-! ### Receiving -/

/-- **A receiver** of the session `out`, whose frames are `frames`: it has the keys and the roll-over counter, no other
SSRC than that of the session, and it has played the frame of each datagram that has arrived. -/
structure Receiving (out : SrtpEncryptParams) (frames : List Bytes) (p : AudioSide) : Prop where
  state_eq : p.conn.state = .connected
  ready : p.conn.srtpReady = true
  incoming : ∃ inParams, p.conn.srtpIncoming = some inParams ∧ SameKeys inParams out ∧
    (inParams.ssrc = 0 ∨ inParams.ssrc = out.ssrc)
  played : p.played.map some = p.arrived.map fun k => frames[k]?

/-- More frames on the other side change nothing for those that have arrived. -/
theorem Receiving.append {out : SrtpEncryptParams} {frames : List Bytes} {p : AudioSide} (h : Receiving out frames p)
    (more : List Bytes) : Receiving out (frames ++ more) p := by
  refine ⟨h.state_eq, h.ready, h.incoming, ?_⟩
  rw [h.played]
  refine List.map_congr_left fun k hk => ?_
  have hsome : frames[k]? ∈ p.played.map some := by
    rw [h.played]
    exact List.mem_map_of_mem hk
  obtain ⟨frame, -, hframe⟩ := List.mem_map.1 hsome
  have hlt : k < frames.length := (List.getElem?_eq_some_iff.1 hframe.symm).1
  rw [List.getElem?_append_left hlt]

section

variable {C : Crypto} {p : AudioSide} {datagram : Bytes} {draws : InitiateDraws} {audio : TgcallsConnection.AudioInput}

theorem receive_media (hstate : p.conn.state = .connected) (hmedia : IsMedia datagram) :
    p.receive C datagram draws audio =
      if datagram.headD 0 ≤ 0xBF then
        { p with
          conn := (p.conn.onSrtpDatagram C.srtp datagram).1
          played := p.played ++ AudioSide.decoderInput (p.conn.onSrtpDatagram C.srtp datagram).2 }
      else p := by
  have hnothing : { p with conn := p.conn, played := p.played ++ AudioSide.decoderInput none } = p := by
    have hnone : AudioSide.decoderInput none = [] := rfl
    rw [hnone, List.append_nil]
  unfold AudioSide.receive TgcallsConnection.onReflectorDatagram
  cases datagram with
  | nil =>
    have hzero : ¬ (0x80 : UInt8) ≤ 0 := by decide
    exact absurd hmedia hzero
  | cons firstByte rest =>
    have hrtp : 0x80 ≤ firstByte := hmedia
    have hbyte : 0x80 ≤ firstByte.toNat := hmedia
    have hstun : ¬ firstByte ≤ 0x03 := by
      rw [UInt8.le_iff_toNat_le, show (0x03 : UInt8).toNat = 3 from rfl]
      omega
    have hdtls : ¬ (0x14 ≤ firstByte ∧ firstByte ≤ 0x1F) := by
      rw [UInt8.le_iff_toNat_le (b := 0x1F), show (0x1F : UInt8).toNat = 31 from rfl]
      omega
    show _ = if firstByte ≤ 0xBF then _ else p
    by_cases hrange : firstByte ≤ 0xBF
    · simp only [if_neg hstun, if_neg hdtls, if_pos hrange, if_pos (And.intro hrtp hrange), if_pos hstate]
    · have hnot : ¬ (0x80 ≤ firstByte ∧ firstByte ≤ 0xBF) := fun h => hrange h.2
      simp only [if_neg hstun, if_neg hdtls, if_neg hrange, if_neg hnot]
      exact hnothing

theorem exists_onSrtpDatagram (C : Srtp.Crypto) (c : TgcallsConnection) (datagram : Bytes) :
    ∃ inParams, (c.onSrtpDatagram C datagram).1 = { c with srtpIncoming := inParams } := by
  unfold TgcallsConnection.onSrtpDatagram
  by_cases hshort : datagram.length < 12 + kAuthTagSize
  · rw [if_pos hshort]
    exact ⟨c.srtpIncoming, rfl⟩
  · rw [if_neg hshort]
    split
    · simp only
      split_ifs <;> exact ⟨_, rfl⟩
    · exact ⟨c.srtpIncoming, rfl⟩

/-- **A datagram of the other side** is decrypted, and its frame goes to the decoder. -/
theorem onSrtpDatagram_carries {c : TgcallsConnection} {inParams out : SrtpEncryptParams} {opusFrame : Bytes}
    (hready : c.srtpReady = true) (hin : c.srtpIncoming = some inParams) (hkeys : SameKeys inParams out)
    (hssrc : inParams.ssrc = 0 ∨ inParams.ssrc = out.ssrc) (hcarries : Carries C.srtp out datagram opusFrame) :
    (c.onSrtpDatagram C.srtp datagram).1 = { c with srtpIncoming := some { inParams with ssrc := out.ssrc } } ∧
      AudioSide.decoderInput (c.onSrtpDatagram C.srtp datagram).2 = [opusFrame] := by
  obtain ⟨hne, hlength, seq, ts, rfl⟩ := hcarries
  set rtp := rtpPacket seq ts out.ssrc opusFrame with hrtp
  have hstart : locatePayloadStart rtp = 12 := locatePayloadStart_rtpPacket _ _ _ hne
  have hnonzero : locatePayloadStart rtp ≠ 0 := by
    rw [hstart]
    decide
  have hheader : headerSsrc (protect C.srtp out rtp seq) = out.ssrc := by
    rw [headerSsrc_protect C.srtp _ _ hnonzero, hrtp, headerSsrc_rtpPacket]
  have hsession : SameSession { inParams with ssrc := out.ssrc } out :=
    ⟨hkeys.encrKey, hkeys.authKey, hkeys.salt, rfl, hkeys.rolloverCounter⟩
  have hdecrypt : decrypt C.srtp { inParams with ssrc := out.ssrc } (protect C.srtp out rtp seq) = some rtp := by
    refine (decrypt_eq_some_iff C.srtp).2 ⟨hnonzero, ?_⟩
    rw [hrtp, headerSequenceNumber_rtpPacket, hsession.protect]
  rw [TgcallsConnection.onSrtpDatagram_latched (TgcallsConnection.length_le_protect hnonzero) hready hin
    (by rwa [hheader]), hheader]
  refine ⟨rfl, ?_⟩
  have hmax : kMaxPacketBytes = 400 := rfl
  have hplayed : (RtpReceive.onRtpPacket rtp true true).value = some (12, opusFrame) := by
    rw [RtpReceive.onRtpPacket_value hnonzero (by rw [hrtp, length_rtpPacket]; omega), hstart, hrtp, drop_rtpPacket,
      if_neg]
    rw [length_rtpPacket]
    have hpos := List.length_pos_iff.2 hne
    omega
  simp only [hdecrypt, AudioSide.decoderInput, Option.bind_some, hplayed, Option.map_some, Option.toList_some]

theorem exists_cons_of_carries {out : SrtpEncryptParams} {opusFrame : Bytes}
    (h : Carries C.srtp out datagram opusFrame) : ∃ rest, datagram = 0x80 :: rest := by
  obtain ⟨hne, -, seq, ts, rfl⟩ := h
  have hstart := locatePayloadStart_rtpPacket seq ts out.ssrc hne
  rw [protect, cryptPayload, hstart]
  exact ⟨_, rfl⟩

/-- A datagram of the other side is played, and numbered among those that have arrived. -/
theorem receiving_arrives (draws : InitiateDraws) (audio : TgcallsConnection.AudioInput) {out : SrtpEncryptParams}
    {frames : List Bytes} {k : ℕ} {opusFrame : Bytes} (h : Receiving out frames p)
    (hcarries : Carries C.srtp out datagram opusFrame) (hframe : frames[k]? = some opusFrame) :
    Receiving out frames { p.receive C datagram draws audio with arrived := p.arrived ++ [k] } := by
  obtain ⟨inParams, hin, hkeys, hssrc⟩ := h.incoming
  obtain ⟨hconn, hplayed⟩ := onSrtpDatagram_carries h.ready hin hkeys hssrc hcarries
  have hreceive : p.receive C datagram draws audio =
      { p with
        conn := { p.conn with srtpIncoming := some { inParams with ssrc := out.ssrc } }
        played := p.played ++ [opusFrame] } := by
    obtain ⟨rest, rfl⟩ := exists_cons_of_carries hcarries
    have hmedia : IsMedia (0x80 :: rest) := UInt8.le_refl 0x80
    have hrange : (0x80 :: rest : Bytes).headD 0 ≤ 0xBF := (by decide : (0x80 : UInt8) ≤ 0xBF)
    rw [receive_media h.state_eq hmedia, if_pos hrange, hconn, hplayed]
  rw [hreceive]
  refine ⟨h.state_eq, h.ready, ⟨_, rfl, ⟨hkeys.encrKey, hkeys.authKey, hkeys.salt, hkeys.rolloverCounter⟩, .inr rfl⟩, ?_⟩
  rw [List.map_append, List.map_append, h.played, List.map_singleton, List.map_singleton, hframe]

theorem receive_harmless (hstate : p.conn.state = .connected) (hmedia : IsMedia datagram)
    (hrejects : p.conn.Rejects C.srtp datagram) (hlatches : ¬ p.conn.Latches datagram) :
    p.receive C datagram draws audio = p := by
  have hconn : (p.conn.onSrtpDatagram C.srtp datagram).1 = p.conn := TgcallsConnection.srtpStep_eq_self hlatches
  have haccepted := TgcallsConnection.srtpAccepted_eq_none hrejects
  have hnone : (p.conn.onSrtpDatagram C.srtp datagram).2 = none := Option.map_eq_none_iff.1 haccepted
  rw [receive_media hstate hmedia]
  split
  · rw [hconn, hnone]
    exact congrArg (fun played => { p with played := played }) (List.append_nil p.played)
  · rfl

theorem sending_receive (draws : InitiateDraws) (audio : TgcallsConnection.AudioInput) {out : SrtpEncryptParams}
    (h : Sending C.srtp out p) (hstate : p.conn.state = .connected) (hmedia : IsMedia datagram) :
    Sending C.srtp out (p.receive C datagram draws audio) := by
  rw [receive_media hstate hmedia]
  split
  · obtain ⟨inParams, hconn⟩ := exists_onSrtpDatagram C.srtp p.conn datagram
    rw [hconn]
    exact ⟨h.ready, h.ssrc, h.session, h.carries⟩
  · exact h

end

/-! ### The run -/

/-- **The invariant**: each side is a sender in its session, and a receiver in that of the other. -/
structure Streaming (C : Crypto) (out : Side → SrtpEncryptParams) (s : Side → AudioSide) : Prop where
  sending : ∀ side, Sending C.srtp (out side) (s side)
  receiving : ∀ side, Receiving (out side.other) (s side.other).encoded (s side)

section

variable {C : Crypto} {out : Side → SrtpEncryptParams} {s : Side → AudioSide}

theorem AudioStart.streaming (h : AudioStart out s) : Streaming C out s where
  sending := by
    intro side
    obtain ⟨hsent, hencoded, -, -⟩ := h.nothing side
    refine ⟨h.ready side, h.ssrc side, ⟨out side, h.outgoing side, ⟨rfl, rfl, rfl, rfl, rfl⟩, .inl (h.fresh side)⟩, ?_⟩
    rw [hsent, hencoded]
    exact .nil
  receiving := by
    intro side
    obtain ⟨inParams, hin, hkeys, hzero⟩ := h.incoming side
    obtain ⟨-, -, harrived, hplayed⟩ := h.nothing side
    refine ⟨h.state_eq side, h.ready side, ⟨inParams, hin, hkeys, .inl hzero⟩, ?_⟩
    rw [harrived, hplayed, List.map_nil, List.map_nil]

theorem Side.other_ne (side : Side) : side.other ≠ side := by cases side <;> decide

theorem Side.other_eq_of_ne {side side' : Side} (h : side' ≠ side) : side'.other = side := by
  cases side <;> cases side' <;> first | rfl | exact absurd rfl h

theorem streaming_update (h : Streaming C out s) {side : Side} {p : AudioSide} (hsending : Sending C.srtp (out side) p)
    (hreceiving : Receiving (out side.other) (s side.other).encoded p) {more : List Bytes}
    (hmore : p.encoded = (s side).encoded ++ more) : Streaming C out (Function.update s side p) := by
  constructor
  · intro side'
    by_cases hside : side' = side
    · subst hside
      rwa [Function.update_self]
    · rw [Function.update_of_ne hside]
      exact h.sending side'
  · intro side'
    by_cases hside : side' = side
    · subst hside
      rwa [Function.update_self, Function.update_of_ne side'.other_ne]
    · have hother := Side.other_eq_of_ne hside
      have hbefore := h.receiving side'
      rw [hother] at hbefore
      rw [Function.update_of_ne hside, hother, Function.update_self, hmore]
      exact hbefore.append more

theorem encoded_update {side : Side} {p : AudioSide} {more : List Bytes} (hmore : p.encoded = (s side).encoded ++ more)
    (side' : Side) :
    (Function.update s side p side').encoded = (s side').encoded ++ if side = side' then more else [] := by
  by_cases hside : side' = side
  · subst hside
    rw [Function.update_self, if_pos rfl, hmore]
  · rw [Function.update_of_ne hside, if_neg (Ne.symm hside), List.append_nil]

theorem encoded_receive {p : AudioSide} {datagram : Bytes} {draws : InitiateDraws}
    {audio : TgcallsConnection.AudioInput} : (p.receive C datagram draws audio).encoded = p.encoded := rfl

/-- **One event**: it keeps the invariant, and a side encodes what it captures. -/
theorem streaming_step (h : Streaming C out s) (event : AudioEvent) (hharmless : Harmless C s event) :
    Streaming C out (audioStep C s event) ∧
      ∀ side, (audioStep C s event side).encoded = (s side).encoded ++ capturedFrames side [event] := by
  cases event with
  | capture side turn =>
    obtain ⟨hsending, hmore⟩ := AudioSide.sending_capture (h.sending side) turn
    obtain ⟨hhalf, harrived, hplayed⟩ := AudioSide.capture_frame (C := C) (s side) turn
    have hbefore := h.receiving side
    simp only [TgcallsConnection.receivingHalf, Prod.mk.injEq] at hhalf
    refine ⟨streaming_update h hsending ⟨?_, hsending.ready, ?_, ?_⟩ hmore, ?_⟩
    · rw [hhalf.1]
      exact hbefore.state_eq
    · rw [hhalf.2.2]
      exact hbefore.incoming
    · rw [hplayed, harrived]
      exact hbefore.played
    · intro side'
      rw [capturedFrames, List.flatMap_singleton]
      exact encoded_update hmore side'
  | arrives side k draws audio =>
    have hnothing : ∀ side', capturedFrames side' [.arrives side k draws audio] = [] := fun _ => rfl
    simp only [hnothing, List.append_nil]
    cases hsent : (s side.other).sent[k]? with
    | none =>
      have hsame : audioStep C s (.arrives side k draws audio) = s := by simp only [audioStep, hsent]
      rw [hsame]
      exact ⟨h, fun _ => rfl⟩
    | some datagram =>
      have hstep : audioStep C s (.arrives side k draws audio) = Function.update s side
          { (s side).receive C datagram draws audio with arrived := (s side).arrived ++ [k] } := by
        simp only [audioStep, hsent]
      rw [hstep]
      -- the datagram carries the frame of its number
      obtain ⟨hk, hdatagram⟩ := List.getElem?_eq_some_iff.1 hsent
      have hforall := (h.sending side.other).carries
      have hk' : k < (s side.other).encoded.length := by rwa [← hforall.length_eq]
      have hcarries := hforall.get hk hk'
      rw [List.get_eq_getElem, List.get_eq_getElem, hdatagram] at hcarries
      obtain ⟨rest, hrest⟩ := exists_cons_of_carries hcarries
      have hmedia : IsMedia datagram := by
        rw [hrest]
        exact UInt8.le_refl 0x80
      have hbefore := h.receiving side
      have hreceiving := receiving_arrives draws audio hbefore hcarries (List.getElem?_eq_getElem hk')
      have hsending := sending_receive draws audio (h.sending side) hbefore.state_eq hmedia
      have hmore : (s side).encoded = (s side).encoded ++ [] := (List.append_nil _).symm
      refine ⟨streaming_update h ⟨hsending.ready, hsending.ssrc, hsending.session, hsending.carries⟩ hreceiving hmore, ?_⟩
      intro side'
      rw [encoded_update (p := { (s side).receive C datagram draws audio with arrived := (s side).arrived ++ [k] }) hmore,
        ite_self, List.append_nil]
  | forged side bytes draws audio =>
    have hnothing : ∀ side', capturedFrames side' [.forged side bytes draws audio] = [] := fun _ => rfl
    obtain ⟨hmedia, hrejects, hlatches⟩ := hharmless
    have hsame : audioStep C s (.forged side bytes draws audio) = s := by
      rw [audioStep, receive_harmless (h.receiving side).state_eq hmedia hrejects hlatches, Function.update_eq_self]
    rw [hsame]
    refine ⟨h, fun side' => ?_⟩
    rw [hnothing, List.append_nil]

theorem streaming_run (h : Streaming C out s) (events : List AudioEvent)
    (hguard : Guarded (audioStep C) (Harmless C) s events) :
    Streaming C out (run (audioStep C) s events) ∧
      ∀ side, (run (audioStep C) s events side).encoded = (s side).encoded ++ capturedFrames side events := by
  induction events generalizing s with
  | nil => exact ⟨h, fun side => (List.append_nil _).symm⟩
  | cons event events ih =>
    obtain ⟨hharmless, hrest⟩ := guarded_cons.1 hguard
    obtain ⟨hstep, hencoded⟩ := streaming_step h event hharmless
    obtain ⟨hend, hall⟩ := ih hstep hrest
    refine ⟨hend, fun side => ?_⟩
    have hsplit : capturedFrames side ([event] ++ events) = capturedFrames side [event] ++ capturedFrames side events :=
      List.flatMap_append
    rw [run_cons, hall, hencoded, List.append_assoc, ← hsplit, List.singleton_append]

end

/-- **The audio arrives.**  Two connections, each under the keys of the other, and any run of captures, of datagrams that
arrive in any order, again or not at all, and of forged ones that are harmless: every side has sent one datagram for each
frame it has captured, and has given to its decoder exactly the frames of the datagrams that have arrived, in the order of
their arrival.  No call is too long for that. -/
theorem audio_delivered (C : Crypto) (out : Side → SrtpEncryptParams) (s : Side → AudioSide) (hstart : AudioStart out s)
    (events : List AudioEvent) (hguard : Guarded (audioStep C) (Harmless C) s events) (side : Side) :
    (run (audioStep C) s events side).sent.length = (capturedFrames side events).length ∧
      (run (audioStep C) s events side).played.map some =
        (run (audioStep C) s events side).arrived.map fun k => (capturedFrames side.other events)[k]? := by
  obtain ⟨hend, hencoded⟩ := streaming_run hstart.streaming events hguard
  have hall : ∀ side, (run (audioStep C) s events side).encoded = capturedFrames side events := by
    intro side
    rw [hencoded, (hstart.nothing side).2.1, List.nil_append]
  rw [← hall side, ← hall side.other]
  exact ⟨(hend.sending side).carries.length_eq, (hend.receiving side).played⟩

/-! ### A packet that arrives twice -/

/-- Both sides under all-zero keys, in front of the first packet. -/
def sampleAudio (_ : Side) : AudioSide where
  conn := { TgcallsConnection.sampleReady with localSsrc := 1, outgoingSeq := 1 }

theorem audioStart_sampleAudio : AudioStart (fun _ => sampleParams 1) sampleAudio where
  state_eq _ := rfl
  ready _ := rfl
  outgoing _ := rfl
  fresh _ := rfl
  ssrc _ := rfl
  incoming _ := ⟨sampleParams 0, rfl, ⟨rfl, rfl, rfl, rfl⟩, rfl⟩
  nothing _ := ⟨rfl, rfl, rfl, rfl⟩

/-- A frame is captured and arrives, a forged packet follows it, and it arrives again. -/
def sampleAudioEvents : List AudioEvent :=
  [.capture .outgoing ⟨true, [0x55], by decide⟩, .arrives .incoming 0 nullDraws ⟨true, true⟩,
    .forged .incoming TgcallsConnection.forgedPacket nullDraws ⟨true, true⟩, .arrives .incoming 0 nullDraws ⟨true, true⟩]

def sampleAudioLibraries : Crypto where
  dtls := TgcallsConnection.sampleLibraries.dtls
  srtp := sampleCrypto

theorem incoming_sampleAudio :
    ((run (audioStep sampleAudioLibraries) sampleAudio (sampleAudioEvents.take 2)) .incoming).conn.srtpIncoming
      = some (sampleParams 1) := by
  decide +kernel

theorem harmless_sampleAudio :
    Guarded (audioStep sampleAudioLibraries) (Harmless sampleAudioLibraries) sampleAudio sampleAudioEvents := by
  have hmedia : (0x80 : UInt8) ≤ TgcallsConnection.forgedPacket.headD 0 := by decide
  refine ⟨trivial, trivial, ⟨hmedia, ?_, ?_⟩, trivial, trivial⟩
  · intro inParams hin
    obtain rfl : inParams = sampleParams 1 := Option.some.inj (hin.symm.trans incoming_sampleAudio)
    decide +kernel
  · rintro ⟨-, -, ⟨inParams, hin, hzero⟩, -⟩
    obtain rfl : inParams = sampleParams 1 := Option.some.inj (hin.symm.trans incoming_sampleAudio)
    exact absurd hzero (by decide)

theorem audio_delivered_twice :
    (run (audioStep sampleAudioLibraries) sampleAudio sampleAudioEvents .incoming).played.map some
      = [some [0x55], some [0x55]] := by
  have hplayed := (audio_delivered sampleAudioLibraries (fun _ => sampleParams 1) sampleAudio audioStart_sampleAudio
    sampleAudioEvents harmless_sampleAudio .incoming).2
  rw [hplayed]
  decide +kernel

end VianiumVoip.Tgcalls
