import VianiumVoip.Dtls.FingerprintText
import VianiumVoip.Lib.Simulation
import VianiumVoip.Tgcalls.CandidatesOnce
import VianiumVoip.Tgcalls.LocalCandidates
import VianiumVoip.Tgcalls.SignalingCounters

/-!
# Signaling in packets

`SetupRoles` lets the two sides of a call hand each other their messages.  Here they send what the code sends: every
message as JSON in a frame of an encrypted packet, with the counter of the connection, and `HandleIncomingSignaling`
decrypts what arrives and calls the handler of each message that it finds.  A ping is answered, and `SetMuted` sends a
message of its own.

`wire_refines` says that this is the call of `SetupRoles`, whatever happens to the packets on their way: each run over
packets has a run over messages in which both connections go through the same states.
-/

namespace VianiumVoip.Tgcalls

open VianiumVoip.Lib VianiumVoip.Lib.Run VianiumVoip.Cert VianiumVoip.Dtls VianiumVoip.Ice
open VianiumVoip.Signaling (TgcallsMessage TgcallsMessageType)
open VianiumVoip.Signaling.TgcallsSignalingEnvelope (Sendable)

/-! ### Messages in bytes -/

/-- `EmitInitialSetup`: the message, with the bytes of its texts. -/
def initialSetupMessage (msg : InitialSetupMsg) : TgcallsMessage where
  type := .initialSetup
  typeName := ascii "InitialSetup"
  initial :=
    { ufrag := ascii msg.ufrag
      pwd := ascii msg.pwd
      supportsRenomination := msg.supportsRenomination
      fingerprint :=
        { hash := ascii msg.hash
          setup := ascii msg.setup
          fingerprint := ascii (String.ofList msg.fingerprint) } }

/-- What `OnPeerInitialSetup` gets. -/
def receivedSetup (msg : Signaling.InitialSetupMsg) : InitialSetupMsg where
  ufrag := textOf msg.ufrag
  pwd := textOf msg.pwd
  supportsRenomination := msg.supportsRenomination
  hash := textOf msg.fingerprint.hash
  setup := textOf msg.fingerprint.setup
  fingerprint := (textOf msg.fingerprint.fingerprint).toList

/-- `OnPeerPing`: the answer. -/
def pongMessage (msg : Signaling.PingMsg) : TgcallsMessage where
  type := .pong
  typeName := ascii "Pong"
  pong := { pingId := msg.pingId }

/-- `EmitMediaState`: the message. -/
def mediaStateMessage (muted : Bool) : TgcallsMessage where
  type := .mediaState
  typeName := ascii "MediaState"
  mediaState :=
    { isMuted := muted
      videoState := ascii "inactive"
      screencastState := ascii "inactive"
      videoRotation := 0
      lowBattery := false }

/-! ### A side -/

/-- One side of a call: its connection, what it has sent to the reflectors, and what the signaling callback has got.
`messages` are those that the packets were made of. -/
structure WireParty where
  conn : IceConnection
  outgoingSignalingSeq : UInt32 := 0
  localUdpPort : UInt16 := 0
  muted : Bool := false
  messages : List TgcallsMessage := []
  packets : List Bytes := []
  sent : List Bytes := []

namespace WireParty

variable (C : Crypto) (D : Domain.Crypto)

/-- The connection with its counter. -/
def counting (p : WireParty) : SignalingConnection :=
  { toTgcallsConnection := p.conn.toTgcallsConnection, outgoingSignalingSeq := p.outgoingSignalingSeq }

/-- `EmitMessages` of one message. -/
def emit (p : WireParty) (message : TgcallsMessage) : WireParty :=
  match p.counting.emitMessages D [message] with
  | (c, some packet, _) =>
    { p with
      outgoingSignalingSeq := c.outgoingSignalingSeq
      messages := p.messages ++ [message]
      packets := p.packets ++ [packet.bytes] }
  | (c, none, _) => { p with outgoingSignalingSeq := c.outgoingSignalingSeq }

/-- What a call of the connection leaves behind; where it announces our candidates, they go out as a message. -/
def record (p : WireParty) (hostNames : List HostName) (r : IceConnection × Effects) : WireParty :=
  let p := { p with conn := r.1, sent := p.sent ++ r.2.sent }
  if r.2.candidates then p.emit D (candidatesMessage p.localUdpPort p.conn.localUfrag hostNames) else p

/-- The handler of a message. -/
def onMessage (p : WireParty) (message : TgcallsMessage) (draws : IceDraws) (hostNames : List HostName) : WireParty :=
  match message.type with
  | .initialSetup => p.record D hostNames (p.conn.onPeerInitialSetup C (receivedSetup message.initial) draws)
  | .candidates => p.record D hostNames (p.conn.onPeerCandidates C (messageLines message) draws)
  | .ping => p.emit D (pongMessage message.ping)
  -- a media state is traced, and the rest ignored
  | _ => p

/-- `HandleIncomingSignaling` -/
def handleIncomingSignaling (p : WireParty) (encryptedBytes : Bytes) (draws : ℕ → IceDraws)
    (hostNames : ℕ → List HostName) : WireParty :=
  if encryptedBytes = [] then p
  else if p.conn.sharedKey.length ≠ kSharedKeySize then p
  else
    let messages := Signaling.TgcallsSignalingEnvelope.decrypt D p.conn.sharedKey p.conn.isOutgoing encryptedBytes
    messages.zipIdx.foldl (fun p (message, i) => p.onMessage C D message (draws i) (hostNames i)) p

/-- `SetMuted` -/
def setMuted (p : WireParty) (muted : Bool) : WireParty :=
  { p with muted := muted }.emit D (mediaStateMessage muted)

/-- A side of a call after `Start`. -/
def started (P : Platform) (side : Side) (start : CallStart) : WireParty :=
  let base := construct (side = .outgoing) start.sharedKey start.reflectors start.hasSignalingOut
  let (c, messages, _) := base.start P start.input
  let p : WireParty :=
    { conn := IceConnection.ofConnection c
      localUdpPort := if c.localCert.isSome then Tgcalls.localUdpPort c.localSsrc else 0 }
  messages.foldl (fun p msg => p.emit D (initialSetupMessage msg)) p

end WireParty

/-! ### The call -/

inductive WireEvent
  /-- The `k`-th packet of the other side is delivered. -/
  | signaling (side : Side) (k : ℕ) (draws : ℕ → IceDraws) (hostNames : ℕ → List HostName)
  /-- Any packet is delivered. -/
  | packet (side : Side) (bytes : Bytes) (draws : ℕ → IceDraws) (hostNames : ℕ → List HostName)
  | setMuted (side : Side) (muted : Bool)
  /-- The `k`-th datagram of the other side arrives. -/
  | arrival (side : Side) (k : ℕ) (srcIp : String) (srcPort : ℤ) (draws : InitiateDraws)
      (audio : TgcallsConnection.AudioInput)
  /-- Any datagram arrives. -/
  | datagram (side : Side) (srcIp : String) (srcPort : ℤ) (payload : Bytes) (draws : InitiateDraws)
      (audio : TgcallsConnection.AudioInput)
  | retryTimer (side : Side) (transactionId : ℕ → Vector UInt8 12)

section

variable (C : Crypto) (D : Domain.Crypto)

/-- One event of a call. -/
def wireStep (s : Side → WireParty) : WireEvent → Side → WireParty
  | .signaling side k draws hostNames =>
    match (s side.other).packets[k]? with
    | none => s
    | some bytes => Function.update s side ((s side).handleIncomingSignaling C D bytes draws hostNames)
  | .packet side bytes draws hostNames =>
    Function.update s side ((s side).handleIncomingSignaling C D bytes draws hostNames)
  | .setMuted side muted => Function.update s side ((s side).setMuted D muted)
  | .arrival side k srcIp srcPort draws audio =>
    match (s side.other).sent[k]? with
    | none => s
    | some payload => Function.update s side
        ((s side).record D [] ((s side).conn.onReflectorDatagramFrom C srcIp srcPort payload draws audio))
  | .datagram side srcIp srcPort payload draws audio =>
    Function.update s side
      ((s side).record D [] ((s side).conn.onReflectorDatagramFrom C srcIp srcPort payload draws audio))
  | .retryTimer side ids => Function.update s side ((s side).record D [] ((s side).conn.onIceRetryTimer C ids))

/-- Both sides after `Start`. -/
def startWire (start : Side → CallStart) (side : Side) : WireParty :=
  WireParty.started D C.dtls.toPlatform side (start side)

end

/-! ### Who a side is -/

namespace TgcallsConnection

variable {C : Crypto} {c : TgcallsConnection}

/-- What is settled by `Start`: the direction, the key, the way out for signaling, and the credentials. -/
def identity (c : TgcallsConnection) : Bool × Bytes × Bool × List Char × String × String :=
  (c.isOutgoing, c.sharedKey, c.hasSignalingOut, c.localFingerprint, c.localUfrag, c.localPwd)

theorem identity_onPeerInitialSetup (msg : InitialSetupMsg) : (c.onPeerInitialSetup msg).identity = c.identity := by
  unfold onPeerInitialSetup
  dsimp only
  split_ifs <;> rfl

theorem identity_startDtlsPhase (draws : InitiateDraws) : (c.startDtlsPhase draws).1.identity = c.identity := by
  unfold startDtlsPhase
  split
  · rfl
  dsimp only
  split
  · rfl
  split_ifs <;> rfl

theorem identity_onIceConnected (draws : InitiateDraws) : (c.onIceConnected draws).1.identity = c.identity := by
  unfold onIceConnected
  split_ifs
  · rfl
  · exact identity_startDtlsPhase draws

theorem identity_onDtlsEstablished (C : Srtp.Crypto) (keys : Bytes) (audio : AudioInput) :
    (c.onDtlsEstablished C keys audio).identity = c.identity := by
  unfold onDtlsEstablished startAudioPhase
  split_ifs <;> rfl

theorem identity_onDtlsDatagram (inner : Bytes) (audio : AudioInput) :
    (c.onDtlsDatagram C inner audio).1.identity = c.identity := by
  unfold onDtlsDatagram
  cases c.dtls with
  | none => rfl
  | some dtls =>
    dsimp only
    split_ifs
    · exact identity_onDtlsEstablished (c := { c with dtls := some (dtls.processDatagram C.dtls inner).1 }) C.srtp _ audio
    · rfl
    · rfl

theorem identity_onSrtpDatagram (C : Srtp.Crypto) (bytes : Bytes) : (c.onSrtpDatagram C bytes).1.identity = c.identity := by
  unfold onSrtpDatagram
  split_ifs
  · rfl
  · split
    · dsimp only
      split_ifs <;> rfl
    · rfl

theorem identity_onReflectorDatagram (a : Arrival) : (c.onReflectorDatagram C a).1.identity = c.identity := by
  unfold onReflectorDatagram
  cases a.inner with
  | nil => rfl
  | cons firstByte rest =>
    dsimp only
    split_ifs
    · exact identity_onIceConnected a.draws
    · rfl
    · exact identity_onDtlsDatagram _ a.audio
    · exact identity_onSrtpDatagram C.srtp _
    · rfl
    · rfl

end TgcallsConnection

namespace IceConnection

open TgcallsConnection

variable {C : Crypto} {c : IceConnection}

theorem identity_startIcePhase (draws : IceDraws) : (c.startIcePhase C draws).1.identity = c.identity := by
  rw [startIcePhase_base]

theorem identity_datagram (srcIp : String) (srcPort : ℤ) (payload : Bytes) (draws : InitiateDraws) (audio : AudioInput) :
    (c.onReflectorDatagramFrom C srcIp srcPort payload draws audio).1.identity = c.identity := by
  simp only [onReflectorDatagramFrom, onReflectorDatagram]
  split_ifs
  · rfl
  split
  · rfl
  split
  · rfl
  split_ifs
  · unfold onStunDatagram
    cases c.iceAgent with
    | none => rfl
    | some agent => exact identity_onReflectorDatagram _
  · exact identity_onReflectorDatagram _

/-- **No input changes who a side is.** -/
theorem identity_step (i : Input) : (c.step C i).identity = c.identity := by
  cases i with
  | initialSetup msg draws =>
    rw [step, onPeerInitialSetup, identity_startIcePhase]
    exact identity_onPeerInitialSetup msg
  | candidates lines draws =>
    rw [step, onPeerCandidates, identity_startIcePhase]
  | datagram srcIp srcPort payload draws audio => exact identity_datagram srcIp srcPort payload draws audio
  | retryTimer ids =>
    simp only [step, onIceRetryTimer]
    split_ifs
    · rfl
    · rfl
    · rw [sendIceBindingRequests_base]

end IceConnection

/-- What no event changes of a side. -/
def WireParty.origin (p : WireParty) : UInt16 × Bool × Bytes × Bool × List Char × String × String :=
  (p.localUdpPort, p.conn.identity)

/-! ### What stands for what -/

/-- The message of `SetupRoles` that a message stands for; the other types have none. -/
def signalingMsg (message : TgcallsMessage) : Option SignalingMsg :=
  match message.type with
  | .initialSetup => some (.initialSetup (receivedSetup message.initial))
  | .candidates => some (.candidates (messageLines message))
  | _ => none

/-- A packet of one message. -/
def PacketOf (D : Domain.Crypto) (c : TgcallsConnection) (message : TgcallsMessage) (packet : Bytes) : Prop :=
  ∃ seq, packet = Signaling.TgcallsSignalingEnvelope.encrypt D c.sharedKey c.isOutgoing seq [message]

/-- A side that can send and receive: the key of the call, the direction of the side, a way out, and a ufrag of bytes. -/
structure Talks (key : Bytes) (side : Side) (c : TgcallsConnection) : Prop where
  sharedKey : c.sharedKey = key
  isOutgoing : c.isOutgoing = decide (side = .outgoing)
  hasSignalingOut : c.hasSignalingOut = true
  ufrag : IsBytes c.localUfrag

/-- **A side over packets and a side over messages**: one connection, the same datagrams, and the messages of the packets
that stand for something. -/
structure Represents (D : Domain.Crypto) (w : WireParty) (p : Party) : Prop where
  conn : p.conn = w.conn
  sent : p.sent = w.sent
  signaled : p.signaled = w.messages.filterMap signalingMsg
  packets : List.Forall₂ (PacketOf D w.conn.toTgcallsConnection) w.messages w.packets
  sendable : ∀ message ∈ w.messages, Sendable message

section

variable {C : Crypto} {D : Domain.Crypto} {key : Bytes} {side : Side} {w : WireParty} {p : Party}

theorem Talks.of_identity {c c' : TgcallsConnection} (h : Talks key side c) (hc : c'.identity = c.identity) :
    Talks key side c' := by
  simp only [TgcallsConnection.identity, Prod.mk.injEq] at hc
  obtain ⟨houtgoing, hkey, hout, -, hufrag, -⟩ := hc
  exact ⟨hkey.trans h.sharedKey, houtgoing.trans h.isOutgoing, hout.trans h.hasSignalingOut, by rw [hufrag]; exact h.ufrag⟩

theorem packetOf_of_identity {c c' : TgcallsConnection} (hc : c'.identity = c.identity) :
    PacketOf D c' = PacketOf D c := by
  simp only [TgcallsConnection.identity, Prod.mk.injEq] at hc
  obtain ⟨houtgoing, hkey, -⟩ := hc
  funext message packet
  rw [PacketOf, PacketOf, houtgoing, hkey]

/-! ### Sending -/

theorem emit_of_talks (h : Talks key side w.conn.toTgcallsConnection) (hkey : key.length = kSharedKeySize)
    (message : TgcallsMessage) :
    w.emit D message =
      { w with
        outgoingSignalingSeq := w.outgoingSignalingSeq + 1
        messages := w.messages ++ [message]
        packets := w.packets ++ [Signaling.TgcallsSignalingEnvelope.encrypt D w.conn.sharedKey w.conn.isOutgoing
          (w.outgoingSignalingSeq + 1) [message]] } := by
  have hlength : w.conn.sharedKey.length = kSharedKeySize := by
    rw [h.sharedKey]
    exact hkey
  have hcan : w.counting.CanSend := ⟨h.hasSignalingOut, hlength⟩
  unfold WireParty.emit
  rw [SignalingConnection.emitMessages_of_canSend hcan (List.cons_ne_nil _ _)]
  rfl

theorem represents_emit (h : Represents D w p) (htalks : Talks key side w.conn.toTgcallsConnection)
    (hkey : key.length = kSharedKeySize) {message : TgcallsMessage} (hsendable : Sendable message)
    {signaled : List SignalingMsg} (hsignaled : (signalingMsg message).toList = signaled) :
    Represents D (w.emit D message) { p with signaled := p.signaled ++ signaled } := by
  rw [emit_of_talks htalks hkey]
  refine ⟨h.conn, h.sent, ?_, ?_, ?_⟩
  · rw [h.signaled, List.filterMap_append, ← hsignaled, List.filterMap_cons, List.filterMap_nil]
    cases signalingMsg message <;> rfl
  · exact List.rel_append h.packets (.cons ⟨_, rfl⟩ .nil)
  · intro message' hmem
    rcases List.mem_append.1 hmem with hold | hnew
    · exact h.sendable message' hold
    · rw [List.mem_singleton.1 hnew]
      exact hsendable

theorem represents_record (h : Represents D w p) (htalks : Talks key side w.conn.toTgcallsConnection)
    (hkey : key.length = kSharedKeySize) (hostNames : List HostName) {r : IceConnection × Effects}
    (hidentity : r.1.identity = w.conn.identity)
    (hfits : r.2.candidates = true →
      Sendable (candidatesMessage w.localUdpPort r.1.localUfrag hostNames)) :
    Represents D (w.record D hostNames r) (p.record (candidateLines w.localUdpPort r.1.localUfrag hostNames) r) := by
  have hbase : Represents D { w with conn := r.1, sent := w.sent ++ r.2.sent }
      { p with conn := r.1, sent := p.sent ++ r.2.sent } := by
    refine ⟨rfl, by rw [h.sent], h.signaled, ?_, h.sendable⟩
    rw [packetOf_of_identity hidentity]
    exact h.packets
  have htalks' : Talks key side r.1.toTgcallsConnection := htalks.of_identity hidentity
  unfold WireParty.record Party.record
  dsimp only
  by_cases hcandidates : r.2.candidates = true
  · rw [if_pos hcandidates, if_pos hcandidates]
    refine represents_emit hbase htalks' hkey (hfits hcandidates) ?_
    show [SignalingMsg.candidates (messageLines (candidatesMessage w.localUdpPort r.1.localUfrag hostNames))] = _
    rw [messageLines_candidatesMessage htalks'.ufrag]
  · rw [if_neg hcandidates, if_neg hcandidates, List.append_nil]
    exact hbase

/-! ### Receiving -/

theorem sendable_pongMessage (msg : Signaling.PingMsg) : Sendable (pongMessage msg) := by
  have hstructured : TgcallsMessageType.pong ∈
      [TgcallsMessageType.initialSetup, .candidates, .connection, .ping, .pong, .mediaState] := by decide
  refine ⟨hstructured, ?_⟩
  have hdigits : (Nat.toDigits 10 msg.pingId.toNat).length ≤ 10 :=
    (Nat.length_toDigits_le_iff (by decide) (by decide)).2 (msg.pingId.toNat_lt.trans (by decide))
  have hfront : (ascii "\x7b\"@type\":\"Pong\",\"pingId\":").length = 25 := by decide
  have hend : (ascii "\x7d").length = 1 := by decide
  show (ascii "\x7b\"@type\":\"Pong\",\"pingId\":" ++ decimal msg.pingId.toNat ++ ascii "\x7d").length ≤ 1024 * 1024
  rw [List.length_append, List.length_append, hfront, hend, decimal, List.length_map]
  omega

theorem sendable_mediaStateMessage (muted : Bool) : Sendable (mediaStateMessage muted) := by
  cases muted <;> exact ⟨by decide, by decide +kernel⟩

/-- The candidates of a side can be sent, should they be announced. -/
def CanAnnounce (w : WireParty) (hostNames : List HostName) : Prop :=
  Sendable (candidatesMessage w.localUdpPort w.conn.localUfrag hostNames)

theorem localUfrag_of_identity {c c' : TgcallsConnection} (hc : c'.identity = c.identity) :
    c'.localUfrag = c.localUfrag := by
  simp only [TgcallsConnection.identity, Prod.mk.injEq] at hc
  exact hc.2.2.2.2.1

/-- **A message is handled as the one it stands for**: it has the type and the fields of the message that was sent. -/
theorem represents_onMessage (h : Represents D w p) (htalks : Talks key side w.conn.toTgcallsConnection)
    (hkey : key.length = kSharedKeySize) {message received : TgcallsMessage}
    (hsame : Signaling.TgcallsSignalingMessages.Same message received) (draws : IceDraws) {hostNames : List HostName}
    (hfits : CanAnnounce w hostNames) :
    match signalingMsg message with
    | some msg => Represents D (w.onMessage C D received draws hostNames)
        (p.onSignaling C msg draws (candidateLines w.localUdpPort w.conn.localUfrag hostNames))
    | none => Represents D (w.onMessage C D received draws hostNames) p := by
  obtain ⟨htype, hfields⟩ := hsame
  have hrecord : ∀ input : IceConnection.Input, Represents D
      (w.record D hostNames (w.conn.step C input, w.conn.effects C input))
      (p.record (candidateLines w.localUdpPort w.conn.localUfrag hostNames)
        (w.conn.step C input, w.conn.effects C input)) := by
    intro input
    have hidentity := IceConnection.identity_step (C := C) (c := w.conn) input
    have hrepresents := represents_record h htalks hkey hostNames (r := (w.conn.step C input, w.conn.effects C input))
      hidentity fun _ => by rw [localUfrag_of_identity hidentity]; exact hfits
    dsimp only at hrepresents
    rwa [localUfrag_of_identity hidentity] at hrepresents
  unfold signalingMsg WireParty.onMessage Party.onSignaling
  rw [htype]
  cases hkind : message.type <;> rw [hkind] at hfields
  case initialSetup =>
    dsimp only at hfields ⊢
    rw [hfields, h.conn]
    exact hrecord (.initialSetup (receivedSetup message.initial) draws)
  case candidates =>
    dsimp only at hfields ⊢
    have hlines : messageLines received = messageLines message := by rw [messageLines, messageLines, hfields]
    rw [hlines, h.conn]
    exact hrecord (.candidates (messageLines message) draws)
  case ping =>
    have hpong : Represents D (w.emit D (pongMessage received.ping)) { p with signaled := p.signaled ++ [] } :=
      represents_emit h htalks hkey (sendable_pongMessage received.ping) rfl
    dsimp only
    rwa [List.append_nil] at hpong
  all_goals exact h

theorem conn_emit (w : WireParty) (message : TgcallsMessage) : (w.emit D message).conn = w.conn := by
  unfold WireParty.emit
  split <;> rfl

theorem conn_record (w : WireParty) (hostNames : List HostName) (r : IceConnection × Effects) :
    (w.record D hostNames r).conn = r.1 := by
  unfold WireParty.record
  dsimp only
  split
  · exact conn_emit _ _
  · rfl

theorem origin_emit (w : WireParty) (message : TgcallsMessage) : (w.emit D message).origin = w.origin := by
  unfold WireParty.emit
  split <;> rfl

theorem origin_record (w : WireParty) (hostNames : List HostName) {r : IceConnection × Effects}
    (hidentity : r.1.identity = w.conn.identity) : (w.record D hostNames r).origin = w.origin := by
  have hbase : ({ w with conn := r.1, sent := w.sent ++ r.2.sent } : WireParty).origin = w.origin := by
    rw [WireParty.origin, WireParty.origin, hidentity]
  unfold WireParty.record
  dsimp only
  split
  · rw [origin_emit, hbase]
  · exact hbase

theorem origin_onMessage (w : WireParty) (message : TgcallsMessage) (draws : IceDraws) (hostNames : List HostName) :
    (w.onMessage C D message draws hostNames).origin = w.origin := by
  unfold WireParty.onMessage
  split
  · exact origin_record w hostNames (IceConnection.identity_step (.initialSetup (receivedSetup message.initial) draws))
  · exact origin_record w hostNames (IceConnection.identity_step (.candidates (messageLines message) draws))
  · exact origin_emit w _
  · rfl

theorem origin_handleIncomingSignaling (w : WireParty) (bytes : Bytes) (draws : ℕ → IceDraws)
    (hostNames : ℕ → List HostName) : (w.handleIncomingSignaling C D bytes draws hostNames).origin = w.origin := by
  have hall : ∀ (messages : List (TgcallsMessage × ℕ)) (w : WireParty),
      (messages.foldl (fun w (message, i) => w.onMessage C D message (draws i) (hostNames i)) w).origin = w.origin := by
    intro messages
    induction messages with
    | nil => exact fun w => rfl
    | cons first messages ih =>
      intro w
      rw [List.foldl_cons, ih, origin_onMessage]
  unfold WireParty.handleIncomingSignaling
  split_ifs
  · rfl
  · rfl
  · exact hall _ w

/-- A packet of the other side holds the one message that it was made of. -/
theorem handleIncomingSignaling_packet {c : TgcallsConnection} (htalks : Talks key side w.conn.toTgcallsConnection)
    (hother : Talks key side.other c) (hkey : key.length = kSharedKeySize) {message : TgcallsMessage} {packet : Bytes}
    (hpacket : PacketOf D c message packet) (hsendable : Sendable message) (draws : ℕ → IceDraws)
    (hostNames : ℕ → List HostName) :
    w.handleIncomingSignaling C D packet draws hostNames =
      w.onMessage C D
        (Signaling.TgcallsSignalingMessages.parse (Signaling.TgcallsSignalingMessages.serialize message)) (draws 0)
        (hostNames 0) := by
  obtain ⟨seq, rfl⟩ := hpacket
  have hdirection : w.conn.isOutgoing = !c.isOutgoing := by
    rw [htalks.isOutgoing, hother.isOutgoing]
    cases side <;> decide
  have hlength : c.sharedKey.length = Domain.kSharedKeyBytes := by
    rw [hother.sharedKey]
    exact hkey
  have hdecrypt := decrypt_encrypt_single D hlength c.isOutgoing seq hsendable
  have hne : Signaling.TgcallsSignalingEnvelope.encrypt D c.sharedKey c.isOutgoing seq [message] ≠ [] := by
    intro hnil
    rw [hnil] at hdecrypt
    cases hdecrypt
  have hsize : ¬ w.conn.sharedKey.length ≠ kSharedKeySize := by
    rw [htalks.sharedKey]
    exact not_not_intro hkey
  have hsameKey : w.conn.sharedKey = c.sharedKey := htalks.sharedKey.trans hother.sharedKey.symm
  unfold WireParty.handleIncomingSignaling
  rw [if_neg hne, if_neg hsize, hdirection, hsameKey, hdecrypt]
  rfl

end

/-! ### The simulation -/

/-- A packet of somebody else is not accepted, and the candidates that a message makes a side announce fit into a
packet. -/
def Regular (D : Domain.Crypto) (s : Side → WireParty) : WireEvent → Prop
  | .signaling side _ _ hostNames => CanAnnounce (s side) (hostNames 0)
  | .packet side bytes _ _ =>
    Signaling.TgcallsSignalingEnvelope.decrypt D (s side).conn.sharedKey (s side).conn.isOutgoing bytes = []
  | _ => True

theorem origin_wireStep (s : Side → WireParty) (event : WireEvent) (side : Side) :
    (wireStep C D s event side).origin = (s side).origin := by
  have hupdate : ∀ side' w', w'.origin = (s side').origin →
      (Function.update s side' w' side).origin = (s side).origin := by
    intro side' w' hw'
    by_cases hside : side = side'
    · subst hside
      rw [Function.update_self, hw']
    · rw [Function.update_of_ne hside]
  cases event with
  | signaling side' k draws hostNames =>
    simp only [wireStep]
    cases (s side'.other).packets[k]? with
    | none => rfl
    | some bytes => exact hupdate side' _ (origin_handleIncomingSignaling _ bytes draws hostNames)
  | packet side' bytes draws hostNames => exact hupdate side' _ (origin_handleIncomingSignaling _ bytes draws hostNames)
  | setMuted side' muted => exact hupdate side' _ (origin_emit _ _)
  | arrival side' k srcIp srcPort draws audio =>
    simp only [wireStep]
    cases (s side'.other).sent[k]? with
    | none => rfl
    | some payload =>
      exact hupdate side' _ (origin_record _ [] (IceConnection.identity_step (.datagram srcIp srcPort payload draws audio)))
  | datagram side' srcIp srcPort payload draws audio =>
    exact hupdate side' _ (origin_record _ [] (IceConnection.identity_step (.datagram srcIp srcPort payload draws audio)))
  | retryTimer side' ids =>
    exact hupdate side' _ (origin_record _ [] (IceConnection.identity_step (.retryTimer ids)))

theorem regular_of_origin {s s' : Side → WireParty} (h : ∀ side, (s' side).origin = (s side).origin) {event : WireEvent}
    (hregular : Regular D s event) : Regular D s' event := by
  cases event with
  | signaling side k draws hostNames =>
    have horigin := h side
    simp only [WireParty.origin, TgcallsConnection.identity, Prod.mk.injEq] at horigin
    obtain ⟨hport, -, -, -, -, hufrag, -⟩ := horigin
    rw [Regular, CanAnnounce, hport, hufrag]
    exact hregular
  | packet side bytes draws hostNames =>
    have horigin := h side
    simp only [WireParty.origin, TgcallsConnection.identity, Prod.mk.injEq] at horigin
    obtain ⟨-, houtgoing, hkey, -⟩ := horigin
    rw [Regular, houtgoing, hkey]
    exact hregular
  | _ => trivial

theorem guarded_regular {s : Side → WireParty} {events : List WireEvent} (h : ∀ event ∈ events, Regular D s event) :
    Guarded (wireStep C D) (Regular D) s events := by
  induction events generalizing s with
  | nil => exact guarded_nil s
  | cons event events ih =>
    obtain ⟨hevent, hrest⟩ := List.forall_mem_cons.1 h
    refine guarded_cons.2 ⟨hevent, ih fun event' hmem => ?_⟩
    exact regular_of_origin (origin_wireStep s event) (hrest event' hmem)

/-- Both sides stand for each other, and can talk. -/
def SameCall (D : Domain.Crypto) (key : Bytes) (w : Side → WireParty) (s : Side → Party) : Prop :=
  ∀ side, Represents D (w side) (s side) ∧ Talks key side (w side).conn.toTgcallsConnection

section

variable {C : Crypto} {D : Domain.Crypto} {key : Bytes} {w : Side → WireParty} {s : Side → Party}

theorem sameCall_update (h : SameCall D key w s) {side : Side} {w' : WireParty} {p' : Party} (hp : Represents D w' p')
    (hidentity : w'.conn.identity = (w side).conn.identity) :
    SameCall D key (Function.update w side w') (Function.update s side p') := by
  intro side'
  by_cases hside : side' = side
  · subst hside
    rw [Function.update_self, Function.update_self]
    exact ⟨hp, (h side').2.of_identity hidentity⟩
  · rw [Function.update_of_ne hside, Function.update_of_ne hside]
    exact h side'

theorem sameCall_update_left (h : SameCall D key w s) {side : Side} {w' : WireParty} (hp : Represents D w' (s side))
    (hidentity : w'.conn.identity = (w side).conn.identity) : SameCall D key (Function.update w side w') s := by
  have hupdate := sameCall_update h hp hidentity
  rwa [Function.update_eq_self] at hupdate

/-- What comes in from the reflectors, or from the timer. -/
theorem represents_quiet {side : Side} {w : WireParty} {p : Party} (h : Represents D w p)
    (htalks : Talks key side w.conn.toTgcallsConnection) (hkey : key.length = kSharedKeySize)
    {input : IceConnection.Input} (hquiet : (w.conn.effects C input).candidates = false) :
    Represents D (w.record D [] (w.conn.step C input, w.conn.effects C input))
      (p.record [] (w.conn.step C input, w.conn.effects C input)) :=
  represents_record h htalks hkey [] (IceConnection.identity_step input) fun hcandidates => by
    rw [hquiet] at hcandidates
    cases hcandidates

/-- **Every event over packets is one over messages, or none.** -/
theorem wire_simulates (hkey : key.length = kSharedKeySize) :
    Simulates (wireStep C D) (Regular D) (callStep C) (SameCall D key) := by
  intro w s event h hregular
  cases event with
  | signaling side k draws hostNames =>
    cases hpacket : (w side.other).packets[k]? with
    | none =>
      refine ⟨[], ?_⟩
      simp only [wireStep, hpacket]
      exact h
    | some packet =>
      obtain ⟨hrepresents, htalks⟩ := h side
      obtain ⟨hother, htalksOther⟩ := h side.other
      -- the message that the packet was made of
      obtain ⟨hk, rfl⟩ := List.getElem?_eq_some_iff.1 hpacket
      have hk' : k < (w side.other).messages.length := by rwa [hother.packets.length_eq]
      have hmade := hother.packets.get hk' hk
      rw [List.get_eq_getElem, List.get_eq_getElem] at hmade
      set message := (w side.other).messages[k] with hmessage
      have hmem : message ∈ (w side.other).messages := List.getElem_mem hk'
      have hsendable := hother.sendable message hmem
      have hhandled := handleIncomingSignaling_packet htalks htalksOther hkey hmade hsendable draws hostNames (C := C)
      have hsame := Signaling.TgcallsSignalingMessages.parse_serialize hsendable.1
      have hmove := represents_onMessage hrepresents htalks hkey hsame (draws 0) hregular (C := C)
      have hidentity := congrArg Prod.snd (origin_onMessage (C := C) (D := D) (w side)
        (Signaling.TgcallsSignalingMessages.parse (Signaling.TgcallsSignalingMessages.serialize message)) (draws 0)
        (hostNames 0))
      simp only [wireStep, hpacket, hhandled]
      cases hmsg : signalingMsg message with
      | none =>
        rw [hmsg] at hmove
        exact ⟨[], sameCall_update_left h hmove hidentity⟩
      | some msg =>
        rw [hmsg] at hmove
        -- the message has a place among those of the other side
        have hsignaled : msg ∈ (s side.other).signaled := by
          rw [hother.signaled]
          exact List.mem_filterMap.2 ⟨message, hmem, hmsg⟩
        obtain ⟨j, hj, hjmsg⟩ := List.getElem_of_mem hsignaled
        refine ⟨[.signaling side j (draws 0)
          (candidateLines (w side).localUdpPort (w side).conn.localUfrag (hostNames 0))], ?_⟩
        simp only [run_cons, run_nil, callStep, List.getElem?_eq_getElem hj, hjmsg]
        exact sameCall_update h hmove hidentity
  | packet side bytes draws hostNames =>
    have hnothing : (w side).handleIncomingSignaling C D bytes draws hostNames = w side := by
      unfold WireParty.handleIncomingSignaling
      rw [hregular]
      split_ifs <;> rfl
    refine ⟨[], ?_⟩
    simp only [wireStep, hnothing, Function.update_eq_self]
    exact h
  | setMuted side muted =>
    obtain ⟨hrepresents, htalks⟩ := h side
    have hbase : Represents D { w side with muted := muted } (s side) :=
      ⟨hrepresents.conn, hrepresents.sent, hrepresents.signaled, hrepresents.packets, hrepresents.sendable⟩
    have hmuted : Represents D ((w side).setMuted D muted) { s side with signaled := (s side).signaled ++ [] } :=
      represents_emit hbase htalks hkey (sendable_mediaStateMessage muted) rfl
    rw [List.append_nil] at hmuted
    refine ⟨[], sameCall_update_left h hmuted ?_⟩
    rw [WireParty.setMuted, conn_emit]
  | arrival side k srcIp srcPort draws audio =>
    have hsent : (s side.other).sent = (w side.other).sent := (h side.other).1.sent
    cases hpayload : (w side.other).sent[k]? with
    | none =>
      refine ⟨[], ?_⟩
      simp only [wireStep, hpayload]
      exact h
    | some payload =>
      obtain ⟨hrepresents, htalks⟩ := h side
      have hmove := represents_quiet hrepresents htalks hkey
        (IceConnection.candidates_datagram (C := C) srcIp srcPort payload draws audio)
      refine ⟨[.arrival side k srcIp srcPort draws audio], ?_⟩
      simp only [run_cons, run_nil, wireStep, callStep, hsent, hpayload, Party.onDatagram, hrepresents.conn]
      refine sameCall_update h hmove ?_
      rw [conn_record]
      exact IceConnection.identity_step (.datagram srcIp srcPort payload draws audio)
  | datagram side srcIp srcPort payload draws audio =>
    obtain ⟨hrepresents, htalks⟩ := h side
    have hmove := represents_quiet hrepresents htalks hkey
      (IceConnection.candidates_datagram (C := C) srcIp srcPort payload draws audio)
    refine ⟨[.datagram side srcIp srcPort payload draws audio], ?_⟩
    simp only [run_cons, run_nil, wireStep, callStep, Party.onDatagram, hrepresents.conn]
    refine sameCall_update h hmove ?_
    rw [conn_record]
    exact IceConnection.identity_step (.datagram srcIp srcPort payload draws audio)
  | retryTimer side ids =>
    obtain ⟨hrepresents, htalks⟩ := h side
    have hmove := represents_quiet hrepresents htalks hkey (IceConnection.candidates_retryTimer (C := C) ids)
    refine ⟨[.retryTimer side ids], ?_⟩
    simp only [run_cons, run_nil, wireStep, callStep, hrepresents.conn]
    refine sameCall_update h hmove ?_
    rw [conn_record]
    exact IceConnection.identity_step (.retryTimer ids)

end

/-! ### Start -/

/-- What the two sides of a call are started with: one key of 256 bytes, a way out for signaling, and the random tokens
that `Start` draws. -/
structure SharedStart (key : Bytes) (start : Side → CallStart) : Prop where
  length_key : key.length = kSharedKeySize
  sharedKey : ∀ side, (start side).sharedKey = key
  hasSignalingOut : ∀ side, (start side).hasSignalingOut = true
  ufrag : ∀ side, ∃ entropy : Bytes, entropy.length = 4 ∧ (start side).input.ufrag = generateRandomToken entropy
  pwd : ∀ side, ∃ entropy : Bytes, entropy.length = 22 ∧ (start side).input.pwd = generateRandomToken entropy

theorem hexDigit_plain (n : UInt8) : (EcdsaP256KeyPair.hexDigit n).toNat < 256 :=
  forall_byte (by decide +kernel) n

theorem fingerprintText_plain (hash : Bytes) :
    (∀ c ∈ EcdsaP256KeyPair.fingerprintText hash, c.toNat < 256) ∧
      (EcdsaP256KeyPair.fingerprintText hash).length ≤ 3 * hash.length := by
  induction hash with
  | nil => exact ⟨fun c hc => (by cases hc), Nat.zero_le _⟩
  | cons x hash ih =>
    obtain ⟨hbytes, hlength⟩ := ih
    cases hash with
    | nil =>
      simp only [EcdsaP256KeyPair.fingerprintText, List.forall_mem_cons, List.length_cons, List.length_nil]
      exact ⟨⟨hexDigit_plain _, hexDigit_plain _, fun c hc => (by cases hc)⟩, by omega⟩
    | cons y hash =>
      simp only [EcdsaP256KeyPair.fingerprintText, List.forall_mem_cons, List.length_cons] at hlength ⊢
      exact ⟨⟨hexDigit_plain _, hexDigit_plain _, by decide, hbytes⟩, by omega⟩

theorem toSha256Fingerprint_plain (P : Platform) (kp : EcdsaP256KeyPair) :
    (∀ c ∈ (kp.toSha256Fingerprint P).1, c.toNat < 256) ∧ (kp.toSha256Fingerprint P).1.length ≤ 96 := by
  rw [EcdsaP256KeyPair.toSha256Fingerprint_eq]
  cases kp.drawFields P with
  | none => exact ⟨fun c hc => (by cases hc), Nat.zero_le _⟩
  | some fields =>
    obtain ⟨hbytes, hlength⟩ := fingerprintText_plain (P.sha256 fields.der)
    rw [P.sha256_length] at hlength
    exact ⟨hbytes, hlength⟩

theorem length_escapeJson_le (input : Bytes) : (Signaling.Json.escapeJson input).length ≤ 6 * input.length := by
  induction input with
  | nil => exact Nat.zero_le _
  | cons c input ih =>
    have hbyte : (Signaling.Json.escapeByte c).length ≤ 6 := by
      unfold Signaling.Json.escapeByte
      split_ifs <;> simp
    rw [Signaling.Json.escapeJson, List.flatMap_cons, List.length_append, List.length_cons]
    rw [Signaling.Json.escapeJson] at ih
    omega

theorem length_ascii (s : String) : (ascii s).length = s.toList.length := List.length_map _

theorem length_generateRandomToken (entropy : Bytes) : (generateRandomToken entropy).toList.length = entropy.length := by
  rw [generateRandomToken, String.toList_ofList, List.length_map]

/-- A text of bytes of at most `n` characters. -/
def ShortText (n : ℕ) (s : String) : Prop := IsBytes s ∧ s.toList.length ≤ n

/-- What can be announced: its texts are short, and of bytes. -/
structure Announceable (msg : InitialSetupMsg) : Prop where
  ufrag : ShortText 4 msg.ufrag
  pwd : ShortText 22 msg.pwd
  hash : ShortText 7 msg.hash
  setup : ShortText 7 msg.setup
  fingerprint : ShortText 96 (String.ofList msg.fingerprint)

theorem sendable_initialSetupMessage {msg : InitialSetupMsg} (h : Announceable msg) :
    Sendable (initialSetupMessage msg) := by
  have hescaped : ∀ {n : ℕ} {s : String}, ShortText n s → (Signaling.Json.escapeJson (ascii s)).length ≤ 6 * n := by
    intro n s hs
    refine (length_escapeJson_le _).trans ?_
    rw [length_ascii]
    exact Nat.mul_le_mul_left 6 hs.2
  have hstructured : TgcallsMessageType.initialSetup ∈
      [TgcallsMessageType.initialSetup, .candidates, .connection, .ping, .pong, .mediaState] := by decide
  refine ⟨hstructured, ?_⟩
  have hufrag := hescaped h.ufrag
  have hpwd := hescaped h.pwd
  have hhash := hescaped h.hash
  have hsetup := hescaped h.setup
  have hfingerprint := hescaped h.fingerprint
  have hflag : (Signaling.TgcallsSignalingMessages.boolText msg.supportsRenomination).length ≤ 5 := by
    cases msg.supportsRenomination <;> decide
  have hfixed : (ascii "\x7b\"@type\":\"InitialSetup\",\"ufrag\":\"").length = 33 ∧ (ascii "\",\"pwd\":\"").length = 9 ∧
      (ascii "\",\"renomination\":").length = 17 ∧ (ascii ",\"fingerprints\":[\x7b\"hash\":\"").length = 26 ∧
      (ascii "\",\"setup\":\"").length = 11 ∧ (ascii "\",\"fingerprint\":\"").length = 17 ∧
      (ascii "\"\x7d]\x7d").length = 4 := by decide
  show (Signaling.TgcallsSignalingMessages.serializeInitialSetup (initialSetupMessage msg).initial).length ≤ 1024 * 1024
  simp only [Signaling.TgcallsSignalingMessages.serializeInitialSetup, initialSetupMessage, List.length_append]
  omega

theorem receivedSetup_initialSetupMessage {msg : InitialSetupMsg} (h : Announceable msg) :
    receivedSetup (initialSetupMessage msg).initial = msg := by
  simp only [receivedSetup, initialSetupMessage, textOf_ascii h.ufrag.1, textOf_ascii h.pwd.1, textOf_ascii h.hash.1,
    textOf_ascii h.setup.1, textOf_ascii h.fingerprint.1, String.toList_ofList]

theorem shortText_token {n : ℕ} {s : String} (h : ∃ entropy : Bytes, entropy.length = n ∧ s = generateRandomToken entropy) :
    ShortText n s := by
  obtain ⟨entropy, hlength, rfl⟩ := h
  refine ⟨isBytes_generateRandomToken entropy, ?_⟩
  rw [length_generateRandomToken, hlength]

namespace TgcallsConnection

/-- **What `Start` settles.**  It stops before the credentials are drawn and sends nothing, or it draws them, and what it
sends announces them. -/
theorem start_cases (P : Platform) (c : TgcallsConnection) (input : StartInput) :
    ((c.start P input).1.identity = c.identity ∧ (c.start P input).2.1 = []) ∨
      ∃ cert : EcdsaP256KeyPair,
        (c.start P input).1.identity = (c.isOutgoing, c.sharedKey, c.hasSignalingOut, (cert.toSha256Fingerprint P).1,
          input.ufrag, input.pwd) ∧
        ∀ msg ∈ (c.start P input).2.1, msg =
          { ufrag := input.ufrag, pwd := input.pwd, supportsRenomination := false, hash := "sha-256"
            setup := c.localSetupRole, fingerprint := (cert.toSha256Fingerprint P).1 } := by
  unfold start
  by_cases hkey : c.sharedKey.length ≠ kSharedKeySize
  · rw [if_pos hkey]
    exact .inl ⟨rfl, rfl⟩
  rw [if_neg hkey]
  cases c.reflectors with
  | nil => exact .inl ⟨rfl, rfl⟩
  | cons first rest =>
    dsimp only
    by_cases hout : (!c.hasSignalingOut) = true
    · rw [if_pos hout]
      exact .inl ⟨rfl, rfl⟩
    rw [if_neg hout]
    cases input.generate with
    | none => exact .inl ⟨rfl, rfl⟩
    | some cert =>
      refine .inr ⟨cert, ?_⟩
      dsimp only
      cases input.emitError with
      | some error => exact ⟨rfl, fun msg hmsg => (by cases hmsg)⟩
      | none =>
        dsimp only
        cases input.openError first with
        | some error => exact ⟨rfl, fun msg hmsg => by rw [List.mem_singleton.1 hmsg]; rfl⟩
        | none => exact ⟨rfl, fun msg hmsg => by rw [List.mem_singleton.1 hmsg]; rfl⟩

end TgcallsConnection

section

variable {key : Bytes} {start : Side → CallStart}

theorem talks_start (h : SharedStart key start) (P : Platform) (side : Side) :
    Talks key side ((construct (side = .outgoing) (start side).sharedKey (start side).reflectors
      (start side).hasSignalingOut).start P (start side).input).1 := by
  set base := construct (side = .outgoing) (start side).sharedKey (start side).reflectors (start side).hasSignalingOut
    with hbase
  have hnothing : IsBytes "" := by decide
  have htalks : Talks key side base := ⟨h.sharedKey side, rfl, h.hasSignalingOut side, hnothing⟩
  rcases TgcallsConnection.start_cases P base (start side).input with ⟨hidentity, -⟩ | ⟨cert, hidentity, -⟩
  · exact htalks.of_identity hidentity
  · simp only [TgcallsConnection.identity, Prod.mk.injEq] at hidentity
    obtain ⟨houtgoing, hkey, hout, -, hufrag, -⟩ := hidentity
    refine ⟨hkey.trans htalks.sharedKey, houtgoing.trans htalks.isOutgoing, hout.trans htalks.hasSignalingOut, ?_⟩
    rw [hufrag]
    exact (shortText_token (h.ufrag side)).1

theorem announceable_start (h : SharedStart key start) (P : Platform) (side : Side) :
    ∀ msg ∈ ((construct (side = .outgoing) (start side).sharedKey (start side).reflectors
      (start side).hasSignalingOut).start P (start side).input).2.1, Announceable msg := by
  intro msg hmsg
  rcases TgcallsConnection.start_cases P _ (start side).input with ⟨-, hnone⟩ | ⟨cert, -, hmessages⟩
  · rw [hnone] at hmsg
    cases hmsg
  · rw [hmessages msg hmsg]
    obtain ⟨hbytes, hlength⟩ := toSha256Fingerprint_plain P cert
    have hhash : ShortText 7 "sha-256" := ⟨by decide, by decide⟩
    have hsetup : ShortText 7 (if side = .outgoing then "actpass" else "passive") := by
      split_ifs <;> exact ⟨by decide, by decide⟩
    refine ⟨shortText_token (h.ufrag side), shortText_token (h.pwd side), hhash, ?_, ?_, ?_⟩
    · simpa [construct] using hsetup
    · rwa [IsBytes, String.toList_ofList]
    · rwa [String.toList_ofList]

end

theorem represents_foldl_emit {D : Domain.Crypto} {key : Bytes} {side : Side} (hkey : key.length = kSharedKeySize)
    {messages : List InitialSetupMsg} (hall : ∀ msg ∈ messages, Announceable msg) {w : WireParty} {p : Party}
    (h : Represents D w p) (htalks : Talks key side w.conn.toTgcallsConnection) :
    Represents D (messages.foldl (fun w msg => w.emit D (initialSetupMessage msg)) w)
        { p with signaled := p.signaled ++ messages.map .initialSetup } ∧
      (messages.foldl (fun w msg => w.emit D (initialSetupMessage msg)) w).conn = w.conn := by
  induction messages generalizing w p with
  | nil =>
    rw [List.map_nil, List.append_nil]
    exact ⟨h, rfl⟩
  | cons msg messages ih =>
    have hmsg := hall msg List.mem_cons_self
    have hsignaled : (signalingMsg (initialSetupMessage msg)).toList = [.initialSetup msg] := by
      show [SignalingMsg.initialSetup (receivedSetup (initialSetupMessage msg).initial)] = _
      rw [receivedSetup_initialSetupMessage hmsg]
    have hfirst := represents_emit h htalks hkey (sendable_initialSetupMessage hmsg) hsignaled
    have hconn := conn_emit (D := D) w (initialSetupMessage msg)
    have hrest := ih (fun msg hmem => hall msg (List.mem_cons_of_mem _ hmem)) hfirst (by rwa [hconn])
    dsimp only at hrest
    rw [hconn, List.append_assoc] at hrest
    exact hrest

/-- **Both levels start alike.** -/
theorem sameCall_start {C : Crypto} (D : Domain.Crypto) {key : Bytes} {start : Side → CallStart}
    (h : SharedStart key start) :
    SameCall D key (startWire C D start) (startCall C.dtls.toPlatform start) := by
  intro side
  have htalks := talks_start h C.dtls.toPlatform side
  have hall := announceable_start h C.dtls.toPlatform side
  unfold startWire startCall WireParty.started Party.started
  dsimp only
  set r := (construct (side = .outgoing) (start side).sharedKey (start side).reflectors
    (start side).hasSignalingOut).start C.dtls.toPlatform (start side).input with hr
  have hbase : Represents D
      { conn := IceConnection.ofConnection r.1
        localUdpPort := if r.1.localCert.isSome then localUdpPort r.1.localSsrc else 0 }
      { conn := IceConnection.ofConnection r.1 } :=
    ⟨rfl, rfl, rfl, .nil, fun message hmem => by cases hmem⟩
  obtain ⟨hrepresents, hconn⟩ := represents_foldl_emit h.length_key hall hbase htalks
  rw [List.nil_append] at hrepresents
  refine ⟨hrepresents, ?_⟩
  rw [hconn]
  exact htalks

/-- **Signaling in packets is signaling in messages.**  However the packets of the two sides are delivered, lost, repeated
and reordered, and whatever comes in from the reflectors, there is one run of the call over messages, some messages for
each packet event, that goes along with it: behind each event both connections are in the same states, have sent the same
datagrams, and have signaled what the packets stand for. -/
theorem wire_refines (C : Crypto) (D : Domain.Crypto) {key : Bytes} {start : Side → CallStart} (h : SharedStart key start)
    (events : List WireEvent) (hregular : ∀ event ∈ events, Regular D (startWire C D start) event) :
    ∃ calls : List (List CallEvent), calls.length = events.length ∧ ∀ n side,
      Represents D (run (wireStep C D) (startWire C D start) (events.take n) side)
        (run (callStep C) (startCall C.dtls.toPlatform start) (calls.take n).flatten side) := by
  have hsimulates := wire_simulates (C := C) (D := D) h.length_key
  obtain ⟨calls, hlength, hall⟩ := hsimulates.trace (sameCall_start D h) (guarded_regular hregular)
  exact ⟨calls, hlength, fun n side => (hall n side).1⟩

/-! ### A call in packets -/

def sampleTokens (side : Side) : CallStart :=
  { sampleSides side with
    input :=
      { TgcallsConnection.sampleStart with
        ufrag := generateRandomToken (List.replicate 4 (match side with | .outgoing => 1 | .incoming => 2))
        pwd := generateRandomToken (List.replicate 22 (match side with | .outgoing => 3 | .incoming => 4)) } }

theorem sharedStart_sampleTokens : SharedStart (List.replicate 256 0) sampleTokens where
  length_key := List.length_replicate
  sharedKey := fun _ => rfl
  hasSignalingOut := fun _ => rfl
  ufrag := fun _ => ⟨_, List.length_replicate, rfl⟩
  pwd := fun _ => ⟨_, List.length_replicate, rfl⟩

/-- Both `InitialSetup`s, one of them twice, both `Candidates`; one side is muted, and a packet of zeros comes in. -/
def sampleWireEvents : List WireEvent :=
  let draws : ℕ → IceDraws := fun _ => { tieBreak := 1, transactionId := fun _ => Vector.replicate 12 2 }
  let hosts : ℕ → List HostName := fun _ => sampleHostNames
  [.signaling .incoming 0 draws hosts, .signaling .outgoing 0 draws hosts, .setMuted .incoming true,
    .signaling .incoming 0 draws hosts, .signaling .incoming 1 draws hosts, .signaling .outgoing 1 draws hosts,
    .packet .outgoing (List.replicate 64 0) draws hosts, .retryTimer .outgoing fun _ => Vector.replicate 12 3]

theorem canAnnounce_sampleTokens (side : Side) :
    CanAnnounce (startWire callLibraries Domain.sampleCrypto sampleTokens side) sampleHostNames := by
  have hstructured : TgcallsMessageType.candidates ∈
      [TgcallsMessageType.initialSetup, .candidates, .connection, .ping, .pong, .mediaState] := by decide
  cases side <;> exact ⟨hstructured, by decide +kernel⟩

theorem regular_sampleWireEvents : ∀ event ∈ sampleWireEvents,
    Regular Domain.sampleCrypto (startWire callLibraries Domain.sampleCrypto sampleTokens) event := by
  have hrejected : Signaling.TgcallsSignalingEnvelope.decrypt Domain.sampleCrypto
      (startWire callLibraries Domain.sampleCrypto sampleTokens .outgoing).conn.sharedKey
      (startWire callLibraries Domain.sampleCrypto sampleTokens .outgoing).conn.isOutgoing (List.replicate 64 0) = [] := by
    decide +kernel
  have hcan := canAnnounce_sampleTokens
  simp only [sampleWireEvents, List.forall_mem_cons, Regular]
  exact ⟨hcan .incoming, hcan .outgoing, trivial, hcan .incoming, hcan .incoming, hcan .outgoing, hrejected, trivial,
    fun event hmem => by cases hmem⟩

theorem wire_refines_sampleCall :
    ∃ calls : List (List CallEvent), calls.length = sampleWireEvents.length ∧ ∀ n side,
      Represents Domain.sampleCrypto
        (run (wireStep callLibraries Domain.sampleCrypto)
          (startWire callLibraries Domain.sampleCrypto sampleTokens) (sampleWireEvents.take n) side)
        (run (callStep callLibraries) (startCall callLibraries.dtls.toPlatform sampleTokens) (calls.take n).flatten
          side) :=
  wire_refines callLibraries Domain.sampleCrypto sharedStart_sampleTokens sampleWireEvents regular_sampleWireEvents

end VianiumVoip.Tgcalls
