import VianiumVoip.Signaling.Codec
import VianiumVoip.Signaling.Frames
import VianiumVoip.Signaling.Messages

/-!
# The envelope

`TgcallsSignalingEnvelope` of `domain/tgcalls_signaling_envelope`: messages as JSON, in the frames of one packet,
encrypted.

`signaling_round_trip` puts the layers together: the other side gets the messages in order, each with its type and
fields (`Same`).
-/

namespace VianiumVoip.Signaling

open VianiumVoip.Lib VianiumVoip.Domain ChannelFrameCodec TgcallsSignalingMessages

namespace TgcallsSignalingEnvelope

variable (C : Crypto) (sharedKey : Bytes)

/-- The sequence number of a packet with its flags. -/
def outerSequence (outgoingSeq : UInt32) (single : Bool) : UInt32 :=
  outgoingSeq ||| (if single then kSeqBitSinglePacket else 0) ||| kSeqBitRequiresAck

/-- A message as a frame. -/
def messageFrame (seq : UInt32) (message : TgcallsMessage) : ChannelFrame :=
  { frame seq kContentTagCustom (serialize message) with requiresAck := true }

/-- The frames behind the first one, from the index `i` on. -/
def framesFrom (outgoingSeq : UInt32) : (i : ℕ) → List TgcallsMessage → List ChannelFrame
  | _, [] => []
  | i, message :: messages =>
    messageFrame ((outgoingSeq + UInt32.ofNat i) ||| kSeqBitRequiresAck) message :: framesFrom outgoingSeq (i + 1) messages

/-- `Encrypt` -/
def encrypt (isOutgoing : Bool) (outgoingSeq : UInt32) (messages : List TgcallsMessage) : Bytes :=
  match messages with
  | [] => []
  | first :: rest =>
    let outerSeq := outerSequence outgoingSeq (decide ((first :: rest).length = 1))
    let frames := messageFrame outerSeq first :: framesFrom outgoingSeq 1 rest
    TgcallsSignalingCodec.encrypt C sharedKey isOutgoing outerSeq (joinFrames frames)

/-- The frames that `Decrypt` does not pass over. -/
def isMessage (f : ChannelFrame) : Bool := f.contentTag = kContentTagCustom && !f.payload.isEmpty

/-- `Decrypt` -/
def decrypt (isOutgoing : Bool) (bytes : Bytes) : List TgcallsMessage :=
  if bytes = [] then []
  else
    let dec := TgcallsSignalingCodec.decrypt C sharedKey isOutgoing bytes
    if dec.success = false then []
    else ((splitFrames dec.seq dec.plain).filter isMessage).map fun f => parse f.payload

variable {C sharedKey} {messages : List TgcallsMessage}

/-- What a sender may put into a packet. -/
def Sendable (message : TgcallsMessage) : Prop := IsStructured message ∧ (serialize message).length ≤ maxPayload

theorem le_length_serialize {message : TgcallsMessage} (h : IsStructured message) : 12 ≤ (serialize message).length := by
  have hascii (text rest : Bytes) (hlen : 12 ≤ text.length) : 12 ≤ (text ++ rest).length := by
    rw [List.length_append]
    omega
  unfold IsStructured at h
  unfold serialize
  cases htype : message.type <;> rw [htype] at h
  case initialSetup =>
    simp only [serializeInitialSetup, List.append_assoc]
    exact hascii _ _ (by decide)
  case candidates =>
    simp only [serializeCandidates, List.append_assoc]
    exact hascii _ _ (by decide)
  case connection =>
    simp only [serializeConnection, List.append_assoc]
    exact hascii _ _ (by decide)
  case ping =>
    simp only [serializePing, List.append_assoc]
    exact hascii _ _ (by decide)
  case pong =>
    simp only [serializePong, List.append_assoc]
    exact hascii _ _ (by decide)
  case mediaState =>
    simp only [serializeMediaState, List.append_assoc]
    exact hascii _ _ (by decide)
  all_goals exact absurd h (by decide)

theorem wellFormed_messageFrame {message : TgcallsMessage} (h : Sendable message) (seq : UInt32) :
    WellFormed (messageFrame seq message) := .inl ⟨rfl, h.2⟩

/-- What `Decrypt` makes of the frames that come out of the packet. -/
def parseFrames (frames : List ChannelFrame) : List TgcallsMessage :=
  (frames.filter isMessage).map fun f => parse f.payload

theorem parseFrames_cons {message : TgcallsMessage} (h : Sendable message) (seq : UInt32) (frames : List ChannelFrame) :
    parseFrames (frame seq kContentTagCustom (serialize message) :: frames)
      = parse (serialize message) :: parseFrames frames := by
  have hlen := le_length_serialize h.1
  have hpayload : (serialize message).isEmpty = false := by
    rw [List.isEmpty_eq_false_iff]
    intro hempty
    rw [hempty] at hlen
    cases hlen
  have hkept : isMessage (frame seq kContentTagCustom (serialize message)) = true := by
    show (decide (kContentTagCustom = kContentTagCustom) && !(serialize message).isEmpty) = true
    rw [hpayload]
    decide
  rw [parseFrames, List.filter_cons_of_pos hkept]
  rfl

theorem forall₂_framesFrom (h : ∀ message ∈ messages, Sendable message) (outgoingSeq : UInt32) (i : ℕ) :
    List.Forall₂ Same messages
      (parseFrames ((framesFrom outgoingSeq i messages).map fun f => frame f.seq f.contentTag f.payload)) := by
  induction messages generalizing i with
  | nil => exact .nil
  | cons message messages ih =>
    have hmessage := h message List.mem_cons_self
    have hrest := ih (fun m hm => h m (List.mem_cons_of_mem _ hm)) (i + 1)
    rw [framesFrom, List.map_cons]
    show List.Forall₂ Same (message :: messages) (parseFrames (frame _ kContentTagCustom (serialize message) :: _))
    rw [parseFrames_cons hmessage]
    exact .cons (parse_serialize hmessage.1) hrest

theorem wellFormed_framesFrom (h : ∀ message ∈ messages, Sendable message) (outgoingSeq : UInt32) (i : ℕ) :
    ∀ f ∈ framesFrom outgoingSeq i messages, WellFormed f := by
  induction messages generalizing i with
  | nil => exact fun f hf => absurd hf List.not_mem_nil
  | cons message messages ih =>
    intro f hf
    rcases List.mem_cons.1 hf with rfl | hrest
    · exact wellFormed_messageFrame (h message List.mem_cons_self) _
    · exact ih (fun m hm => h m (List.mem_cons_of_mem _ hm)) (i + 1) f hrest

/-- A packet that begins with a message is long enough for a block of ciphertext. -/
theorem le_length_packet {message : TgcallsMessage} (h : IsStructured message) (seq : UInt32)
    (frames : List ChannelFrame) : 12 ≤ (joinFrames (messageFrame seq message :: frames)).length := by
  have := le_length_serialize h
  have hframe : frameBytes (messageFrame seq message)
      = kContentTagCustom :: (storeBE32 (UInt32.ofNat (serialize message).length) ++ serialize message) := if_neg (by
    show ¬ (kContentTagCustom = kContentTagEmpty ∨ kContentTagCustom = kContentTagAck)
    decide)
  rw [joinFrames, hframe, List.length_append, List.length_cons, List.length_append]
  omega

/-- **The messages of a packet come back**, each with its type and its fields and in their order, for every key of 256
bytes, direction and sequence number. -/
theorem signaling_round_trip (C : Crypto) (hkey : sharedKey.length = kSharedKeyBytes) (isOutgoing : Bool)
    (outgoingSeq : UInt32) (hne : messages ≠ []) (hstructured : ∀ message ∈ messages, IsStructured message)
    (hsize : ∀ message ∈ messages, (serialize message).length ≤ 1024 * 1024) :
    List.Forall₂ Same messages
      (decrypt C sharedKey (!isOutgoing) (encrypt C sharedKey isOutgoing outgoingSeq messages)) := by
  obtain ⟨first, rest, rfl⟩ := List.exists_cons_of_ne_nil hne
  have hsendable : ∀ message ∈ first :: rest, Sendable message := fun m hm => ⟨hstructured m hm, hsize m hm⟩
  have hfirst := hsendable first List.mem_cons_self
  have hrest : ∀ message ∈ rest, Sendable message := fun m hm => hsendable m (List.mem_cons_of_mem _ hm)
  set outerSeq := outerSequence outgoingSeq (decide ((first :: rest).length = 1)) with houter
  set body := joinFrames (messageFrame outerSeq first :: framesFrom outgoingSeq 1 rest) with hbody
  have hlong : 12 ≤ body.length := le_length_packet hfirst.1 outerSeq (framesFrom outgoingSeq 1 rest)
  have hpacket : encrypt C sharedKey isOutgoing outgoingSeq (first :: rest)
      = TgcallsSignalingCodec.encrypt C sharedKey isOutgoing outerSeq body := rfl
  have hdecrypted : TgcallsSignalingCodec.decrypt C sharedKey (!isOutgoing)
      (TgcallsSignalingCodec.encrypt C sharedKey isOutgoing outerSeq body)
        = { success := true, seq := outerSeq, plain := body } :=
    TgcallsSignalingCodec.decrypt_encrypt_of_le hkey hlong
  have hbytes : TgcallsSignalingCodec.encrypt C sharedKey isOutgoing outerSeq body ≠ [] := by
    have hlen : (TgcallsSignalingCodec.encrypt C sharedKey isOutgoing outerSeq body).length = 20 + body.length :=
      TgcallsSignalingCodec.length_encrypt hkey
    intro hempty
    rw [hempty, List.length_nil] at hlen
    omega
  have hsplit : splitFrames outerSeq body
      = frame outerSeq kContentTagCustom (serialize first)
        :: (framesFrom outgoingSeq 1 rest).map fun f => frame f.seq f.contentTag f.payload :=
    splitFrames_joinFrames (wellFormed_messageFrame hfirst outerSeq) (wellFormed_framesFrom hrest outgoingSeq 1) outerSeq
  unfold decrypt
  rw [hpacket, if_neg hbytes]
  simp only [hdecrypted]
  rw [if_neg (by decide)]
  show List.Forall₂ Same (first :: rest) (parseFrames (splitFrames outerSeq body))
  rw [hsplit, parseFrames_cons hfirst]
  exact .cons (parse_serialize hfirst.1) (forall₂_framesFrom hrest outgoingSeq 1)

/-- A ping and a connection status, as they come back. -/
theorem signaling_round_trip_sample :
    List.Forall₂ Same
      [{ type := .ping, ping := { pingId := 7 } },
        { type := .connection, connection := { status := ascii "connected" } }]
      (decrypt sampleCrypto TgcallsSignalingCodec.sampleKey (!true)
        (encrypt sampleCrypto TgcallsSignalingCodec.sampleKey true 7
          [{ type := .ping, ping := { pingId := 7 } },
            { type := .connection, connection := { status := ascii "connected" } }])) :=
  signaling_round_trip sampleCrypto TgcallsSignalingCodec.length_sampleKey true 7
    (List.cons_ne_nil _ _) (by decide) (by decide)

end TgcallsSignalingEnvelope

end VianiumVoip.Signaling
