import VianiumVoip.Tgcalls.CandidatesOnce
import VianiumVoip.Tgcalls.DatagramSource

/-!
# A connection under several threads

The operations of `TgcallsConnection`, cut where they give the lock back and where they call out.  What a thread still
has to do is a list of parts; performing the first one may put further ones before the rest.  Sections that see only the
timer, the sockets or the capture thread have no part.

The ICE agent and the DTLS session are used outside the lock, through pointers that were read under it: another thread
may be using them too, or `Stop` may have destroyed them.  So what they answer is input of the part.  An uninterrupted
thread that gets their own answers does what the operation does as a whole (`alone_input`).
-/

namespace VianiumVoip.Tgcalls

open VianiumVoip.Lib VianiumVoip.Srtp VianiumVoip.Dtls VianiumVoip.Ice TgcallsConnection

/-- The signaling messages that are handled, or sent in answer. -/
inductive TgcallsMessage
  | initialSetup (msg : InitialSetupMsg)
  | candidates (lines : List String)
  | ping (pingId : UInt32)
  | pong (pingId : UInt32)
  | mediaState
  | other

inductive Part
  | stop
  /-- The section of `Stop`. -/
  | takeAll
  | returnFromStop
  | transitionTo (newState : State)
  /-- The state callback. -/
  | stateChanged (newState : State)
  | emitMessages (message : TgcallsMessage)
  /-- The signaling callback. -/
  | signalingOut (message : TgcallsMessage)
  | handleIncomingSignaling (messages : List TgcallsMessage)
  | onPeerInitialSetup (msg : InitialSetupMsg)
  | adoptRole (peerSetup : String)
  | onPeerCandidates (lines : List String)
  | startIcePhase
  /-- The latch of `StartIcePhase`, with the agent for what it has read. -/
  | latchIceStarted (agent : IceAgent)
  | installAgent (agent : IceAgent)
  | sendIceBindingRequests
  | retryTimer
  | countAttempt
  | onReflectorDatagram (bytes : Bytes)
  | stunDatagram
  | processIncoming (agent : IceAgent)
  | onIceConnected
  | startDtlsPhase
  /-- `StartDtlsPhase` takes the certificate. -/
  | takeLocalCert
  | installDtls (dtls : DtlsClientSession)
  | dtlsDatagram
  | processDatagram (dtls : DtlsClientSession)
  /-- `m_srtpReady` is read behind `ProcessDatagram`. -/
  | readSrtpReady (dtls : DtlsClientSession)
  | startAudioPhase (keys : Bytes)
  /-- The audio device and the codec. -/
  | openAudio
  | srtpDatagram (inner : Bytes)
  | onSrtpDatagram (inner : Bytes)

/-- What comes from outside while a part is performed. -/
structure Answers where
  ice : IceDraws
  handshake : InitiateDraws
  audio : AudioInput
  /-- The lines for the host names of this machine. -/
  localCandidates : List String := []
  /-- `ProcessIncoming`, and whether it reports connectivity. -/
  agent : IceAgent → IceAgent × Bool := fun agent => (agent, false)
  /-- `ProcessDatagram` -/
  session : DtlsClientSession → DtlsClientSession := id

/-- What the outside sees of a connection that has both of its callbacks. -/
inductive Shown
  | stateChanged (newState : State)
  | signalingOut (message : TgcallsMessage)
  | stopReturned

/-- What a part leaves: the connection, the parts that come next, and what was shown. -/
structure Performed where
  connection : IceConnection
  next : List Part := []
  shown : List Shown := []

/-- The handler of a message. -/
def TgcallsMessage.handler : TgcallsMessage → List Part
  | initialSetup msg => [.onPeerInitialSetup msg]
  | candidates lines => [.onPeerCandidates lines]
  | ping pingId => [.emitMessages (.pong pingId)]
  | _ => []

namespace IceConnection

section Definitions

variable (C : Crypto) (c : IceConnection) (answers : Answers)

/-- What `OnReflectorDatagram` does with the first byte of a datagram. -/
def demultiplex (firstByte : UInt8) (inner : Bytes) : List Part :=
  if firstByte ≤ 0x03 then [.stunDatagram]
  else if 0x14 ≤ firstByte ∧ firstByte ≤ 0x1F then [.dtlsDatagram]
  else if 0x80 ≤ firstByte ∧ firstByte ≤ 0xBF then [.srtpDatagram inner]
  else []

/-- The certificate that `StartDtlsPhase` has taken, and the session for it. -/
def withLocalCert : List Part :=
  match c.localCert with
  | none => [.transitionTo .failed]
  | some cert =>
    if c.peerFingerprint = [] then [.transitionTo .failed]
    else [.installDtls ((DtlsClientSession.create cert c.peerFingerprint).initiate answers.handshake).1]

/-- What follows `ProcessDatagram`, `OnDtlsEstablished` included. -/
def afterDatagram (dtls : DtlsClientSession) : List Part :=
  if dtls.state = .established ∧ !c.srtpReady then
    let keys := dtls.exportKeyingMaterial C.dtls "EXTRACTOR-dtls_srtp" 60
    if keys.length ≠ 60 then [.transitionTo .failed] else [.startAudioPhase keys]
  else if dtls.state = .failed then [.transitionTo .failed]
  else []

def perform : Part → Performed
  | .stop =>
    -- the exchange of `m_stopped`: the second call returns at once
    if c.stopped then { connection := c, shown := [.stopReturned] }
    else { connection := { c with stopped := true }, next := [.takeAll] }
  | .takeAll =>
    { connection := { c with
        localCert := none
        dtls := none
        iceAgent := none
        srtpOutgoing := none
        srtpIncoming := none
        srtpReady := false
        state := .stopped }
      next := [.stateChanged .stopped, .returnFromStop] }
  | .returnFromStop => { connection := c, shown := [.stopReturned] }
  | .transitionTo newState =>
    if c.state = newState then { connection := c }
    else { connection := { c with state := newState }, next := [.stateChanged newState] }
  | .stateChanged newState => { connection := c, shown := [.stateChanged newState] }
  | .emitMessages message =>
    if c.hasSignalingOut then { connection := c, next := [.signalingOut message] } else { connection := c }
  | .signalingOut message =>
    -- without a key of that length `Encrypt` makes no envelope
    if c.sharedKey.length = kSharedKeySize then { connection := c, shown := [.signalingOut message] }
    else { connection := c }
  | .handleIncomingSignaling [] => { connection := c }
  | .handleIncomingSignaling (message :: rest) =>
    { connection := c, next := message.handler ++ [.handleIncomingSignaling rest] }
  | .onPeerInitialSetup msg =>
    { connection := { c with
        peerInitialReceived := true
        peerUfrag := msg.ufrag
        peerPwd := msg.pwd
        peerFingerprintHash := msg.hash
        peerFingerprint := msg.fingerprint
        peerSetup := msg.setup }
      next := if c.isOutgoing then [.startIcePhase] else [.adoptRole msg.setup, .startIcePhase] }
  | .adoptRole peerSetup =>
    if peerSetup = "actpass" ∨ peerSetup = "passive" then { connection := { c with localSetupRole := "active" } }
    else { connection := { c with localSetupRole := "passive" } }
  | .onPeerCandidates lines =>
    { connection := { c with peerCandidates := c.peerCandidates ++ lines }, next := [.startIcePhase] }
  | .startIcePhase =>
    if !c.peerReady then { connection := c }
    else
      { connection := c
        next := (if c.iceStarted then [] else [.emitMessages (.candidates answers.localCandidates)]) ++
          if c.peerCandidates = [] then []
          else [.latchIceStarted (feedCandidates (c.newAgent answers.ice.tieBreak) c.peerCandidates)] }
  | .latchIceStarted agent =>
    if c.iceStarted then { connection := c }
    else { connection := { c with iceStarted := true }, next := [.installAgent agent] }
  | .installAgent agent =>
    { connection := { c with iceAgent := some agent, iceAttempts := 0 }, next := [.sendIceBindingRequests] }
  | .sendIceBindingRequests => { connection := (c.sendIceBindingRequests C answers.ice.transactionId).1 }
  | .retryTimer =>
    if c.stopped ∨ State.dtlsHandshaking.toNat ≤ c.state.toNat then { connection := c }
    else if kMaxIceAttempts ≤ c.iceAttempts then { connection := c, next := [.transitionTo .failed] }
    else { connection := c, next := [.sendIceBindingRequests, .countAttempt] }
  | .countAttempt => { connection := { c with iceAttempts := c.iceAttempts + 1 } }
  | .onReflectorDatagram bytes =>
    match tryStripPeerTag bytes with
    | none => { connection := c }
    | some [] => { connection := c }
    | some (firstByte :: rest) => { connection := c, next := demultiplex firstByte (firstByte :: rest) }
  | .stunDatagram =>
    match c.iceAgent with
    | none => { connection := c }
    | some agent => { connection := c, next := [.processIncoming agent] }
  | .processIncoming agent =>
    let (agent, connectivityEstablished) := answers.agent agent
    { connection := { c with iceAgent := c.iceAgent.map fun _ => agent }
      next := if connectivityEstablished then [.onIceConnected] else [] }
  | .onIceConnected =>
    if State.dtlsHandshaking.toNat ≤ c.state.toNat then { connection := c }
    else { connection := c, next := [.startDtlsPhase] }
  | .startDtlsPhase =>
    match c.dtls with
    | some _ => { connection := c }
    | none => { connection := c, next := [.transitionTo .dtlsHandshaking, .takeLocalCert] }
  | .takeLocalCert => { connection := { c with localCert := none }, next := c.withLocalCert answers }
  | .installDtls dtls => { connection := { c with dtls := some dtls } }
  | .dtlsDatagram =>
    match c.dtls with
    | none => { connection := c }
    | some dtls => { connection := c, next := [.processDatagram dtls] }
  | .processDatagram dtls =>
    let dtls := answers.session dtls
    { connection := { c with dtls := c.dtls.map fun _ => dtls }, next := [.readSrtpReady dtls] }
  | .readSrtpReady dtls => { connection := c, next := c.afterDatagram C dtls }
  | .startAudioPhase keys =>
    let outMaster : SrtpKeys := { masterKey := keys.take 16, masterSalt := (keys.drop 32).take 14 }
    let inMaster : SrtpKeys := { masterKey := (keys.drop 16).take 16, masterSalt := (keys.drop 46).take 14 }
    { connection := { c with
        srtpOutgoing := some (SrtpEncryptParams.initial C.srtp outMaster c.localSsrc)
        srtpIncoming := some (SrtpEncryptParams.initial C.srtp inMaster 0)
        srtpReady := true }
      next := [.openAudio] }
  | .openAudio =>
    if !answers.audio.opened then { connection := c, next := [.transitionTo .failed] }
    else if !answers.audio.codecInit then { connection := c, next := [.transitionTo .failed] }
    else { connection := c, next := [.transitionTo .connected] }
  | .srtpDatagram inner =>
    if c.state = .connected then { connection := c, next := [.onSrtpDatagram inner] } else { connection := c }
  | .onSrtpDatagram inner =>
    { connection := { c with toTgcallsConnection := (c.toTgcallsConnection.onSrtpDatagram C.srtp inner).1 } }

/-- A thread that nobody interrupts, with the same answers for all of its parts. -/
inductive Alone : IceConnection → List Part → IceConnection → Prop
  | done (c : IceConnection) : Alone c [] c
  | part {c c' : IceConnection} {part : Part} {rest : List Part}
      (h : Alone (c.perform C answers part).connection ((c.perform C answers part).next ++ rest) c') :
      Alone c (part :: rest) c'

/-- The agent's own answer to a datagram. -/
def agentAnswer (inner : Bytes) (agent : IceAgent) : IceAgent × Bool :=
  let (agent, result, _) := agent.processIncoming C.srtp.hmacSha1 c.assumedSource.1 c.assumedSource.2 inner
  (agent, result = .connectivityEstablished)

/-- The session's own answer to a datagram. -/
def sessionAnswer (inner : Bytes) (dtls : DtlsClientSession) : DtlsClientSession :=
  (dtls.processDatagram C.dtls inner).1

/-- What the objects answer by themselves to an input, and what the input draws. -/
def ownAnswers : Input → Answers
  | .initialSetup _ draws => { answers with ice := draws }
  | .candidates _ draws => { answers with ice := draws }
  | .datagram _ _ payload draws audio =>
    { answers with
      handshake := draws
      audio := audio
      agent := c.agentAnswer C payload
      session := sessionAnswer C payload }
  | .retryTimer transactionId => { answers with ice := { answers.ice with transactionId := transactionId } }

/-- The operation that an input calls. -/
def Input.parts : Input → List Part
  | .initialSetup msg _ => [.onPeerInitialSetup msg]
  | .candidates lines _ => [.onPeerCandidates lines]
  | .datagram _ _ payload _ _ => if payload = [] then [] else [.onReflectorDatagram (List.replicate 16 0 ++ payload)]
  | .retryTimer _ => [.retryTimer]

end Definitions

/-! ### A thread that nobody interrupts -/

variable {C : Crypto} {answers : Answers} {c c' c'' : IceConnection} {part : Part} {next parts rest : List Part}

theorem Alone.append (h : Alone C answers c parts c') (hrest : Alone C answers c' rest c'') :
    Alone C answers c (parts ++ rest) c'' := by
  induction h with
  | done c => exact hrest
  | part h ih =>
    have happend := ih hrest
    rw [List.append_assoc] at happend
    exact .part happend

theorem Alone.head {p : Performed} (hp : c.perform C answers part = p)
    (h : Alone C answers p.connection (p.next ++ rest) c') : Alone C answers c (part :: rest) c' := by
  subst hp
  exact .part h

theorem Alone.last (hp : c.perform C answers part = { connection := c' }) : Alone C answers c [part] c' :=
  .head hp (.done c')

theorem transitionTo_self {base : TgcallsConnection} {newState : State} (h : base.state = newState) :
    base.transitionTo newState = base := by
  cases base
  cases h
  rfl

theorem alone_transitionTo (newState : State) :
    Alone C answers c [.transitionTo newState]
      { c with toTgcallsConnection := c.toTgcallsConnection.transitionTo newState } := by
  by_cases hstate : c.state = newState
  · rw [transitionTo_self hstate]
    exact .last (if_pos hstate)
  · exact .head (if_neg hstate) (.head rfl (.done _))

theorem alone_emitMessages (message : TgcallsMessage) : Alone C answers c [.emitMessages message] c := by
  by_cases hout : c.hasSignalingOut = true
  · refine .head (if_pos hout) ?_
    by_cases hkey : c.sharedKey.length = kSharedKeySize
    · exact .head (if_pos hkey) (.done c)
    · exact .last (if_neg hkey)
  · exact .last (if_neg hout)

theorem alone_announcing (h : Alone C answers c parts c') :
    Alone C answers c ((if c.iceStarted then [] else [.emitMessages (.candidates answers.localCandidates)]) ++ parts)
      c' := by
  refine Alone.append ?_ h
  split_ifs
  · exact .done c
  · exact alone_emitMessages _

theorem alone_startIcePhase {draws : IceDraws} (hdraws : answers.ice = draws) :
    Alone C answers c [.startIcePhase] (c.startIcePhase C draws).1 := by
  subst hdraws
  cases hready : c.peerReady with
  | false =>
    have hidle : (c.startIcePhase C answers.ice).1 = c := by simp [startIcePhase, hready]
    rw [hidle]
    exact .last (if_pos (by simp [hready]))
  | true =>
    refine .head (if_neg (by simp [hready])) ?_
    rw [List.append_nil]
    refine alone_announcing ?_
    by_cases hcandidates : c.peerCandidates = []
    · simp only [startIcePhase, hready, hcandidates, Bool.not_true, Bool.false_eq_true, if_false, if_true]
      exact .done c
    · rw [if_neg hcandidates]
      by_cases hstarted : c.iceStarted = true
      · simp only [startIcePhase, hready, hcandidates, hstarted, Bool.not_true, Bool.false_eq_true, if_false, if_true]
        exact .last (if_pos hstarted)
      · simp only [startIcePhase, hready, hcandidates, hstarted, Bool.not_true, Bool.false_eq_true, if_false]
        exact .head (if_neg hstarted) (.head rfl (.last rfl))

theorem alone_onPeerInitialSetup (msg : InitialSetupMsg) {draws : IceDraws} (hdraws : answers.ice = draws) :
    Alone C answers c [.onPeerInitialSetup msg] (c.onPeerInitialSetup C msg draws).1 := by
  rw [onPeerInitialSetup, TgcallsConnection.onPeerInitialSetup]
  refine .head rfl ?_
  simp only [perform, List.append_nil]
  split_ifs with hout hoffer
  · exact alone_startIcePhase hdraws
  · exact .head (if_pos hoffer) (alone_startIcePhase hdraws)
  · exact .head (if_neg hoffer) (alone_startIcePhase hdraws)

theorem alone_onPeerCandidates (lines : List String) {draws : IceDraws} (hdraws : answers.ice = draws) :
    Alone C answers c [.onPeerCandidates lines] (c.onPeerCandidates C lines draws).1 :=
  .head rfl (alone_startIcePhase hdraws)

theorem alone_onIceRetryTimer {transactionId : ℕ → Vector UInt8 12}
    (hdraws : answers.ice.transactionId = transactionId) :
    Alone C answers c [.retryTimer] (c.onIceRetryTimer C transactionId).1 := by
  subst hdraws
  unfold onIceRetryTimer
  split_ifs with hdone hattempts
  · exact .last (if_pos hdone)
  · exact .head ((if_neg hdone).trans (if_pos hattempts)) (alone_transitionTo .failed)
  · exact .head ((if_neg hdone).trans (if_neg hattempts)) (.head rfl (.head rfl (.done _)))

theorem alone_startDtlsPhase {draws : InitiateDraws} (hdraws : answers.handshake = draws) :
    Alone C answers c [.startDtlsPhase]
      { c with toTgcallsConnection := (c.toTgcallsConnection.startDtlsPhase draws).1 } := by
  subst hdraws
  unfold startDtlsPhase
  cases hdtls : c.dtls with
  | some dtls => exact .last (by simp only [perform, hdtls])
  | none =>
    refine .head (p := { connection := c, next := [.transitionTo .dtlsHandshaking, .takeLocalCert] })
      (by simp only [perform, hdtls]) ?_
    refine (alone_transitionTo .dtlsHandshaking).append ?_
    -- the certificate is still there, and the session is made for it
    refine .head rfl ?_
    simp only [perform, withLocalCert, transitionTo]
    cases hcert : c.localCert with
    | none => exact alone_transitionTo .failed
    | some cert =>
      simp only
      by_cases hpeer : c.peerFingerprint = []
      · simp only [hpeer, if_true]
        exact alone_transitionTo .failed
      · simp only [hpeer, if_false]
        exact .last rfl

theorem alone_onIceConnected {draws : InitiateDraws} (hdraws : answers.handshake = draws) :
    Alone C answers c [.onIceConnected]
      { c with toTgcallsConnection := (c.toTgcallsConnection.onIceConnected draws).1 } := by
  unfold onIceConnected
  split_ifs with hpast
  · exact .last (if_pos hpast)
  · exact .head (if_neg hpast) (alone_startDtlsPhase hdraws)

theorem alone_openAudio {audio : AudioInput} (haudio : answers.audio = audio) :
    Alone C answers c [.openAudio]
      { c with toTgcallsConnection :=
          if !audio.opened then c.toTgcallsConnection.transitionTo .failed
          else if !audio.codecInit then c.toTgcallsConnection.transitionTo .failed
          else c.toTgcallsConnection.transitionTo .connected } := by
  subst haudio
  split_ifs with hopened hcodec
  · exact .head (if_pos hopened) (alone_transitionTo .failed)
  · exact .head ((if_neg hopened).trans (if_pos hcodec)) (alone_transitionTo .failed)
  · exact .head ((if_neg hopened).trans (if_neg hcodec)) (alone_transitionTo .connected)

theorem alone_dtlsDatagram {inner : Bytes} {audio : AudioInput}
    (hsession : answers.session = sessionAnswer C inner) (haudio : answers.audio = audio) :
    Alone C answers c [.dtlsDatagram]
      { c with toTgcallsConnection := (c.toTgcallsConnection.onDtlsDatagram C inner audio).1 } := by
  unfold onDtlsDatagram
  cases hdtls : c.dtls with
  | none => exact .last (by simp only [perform, hdtls])
  | some dtls =>
    refine .head (p := { connection := c, next := [.processDatagram dtls] }) (by simp only [perform, hdtls]) ?_
    refine .head rfl (.head rfl ?_)
    simp only [perform, hsession, sessionAnswer, hdtls, Option.map_some, afterDatagram]
    obtain ⟨dtls', out, ok⟩ := dtls.processDatagram C.dtls inner
    simp only
    by_cases hready : dtls'.state = .established ∧ (!c.srtpReady) = true
    · simp only [hready, and_self, if_true, onDtlsEstablished]
      split_ifs with hkeys
      · exact alone_transitionTo .failed
      · exact .head rfl (alone_openAudio haudio)
    · simp only [hready, if_false]
      by_cases hfailed : dtls'.state = .failed
      · simp only [hfailed, if_true]
        exact alone_transitionTo .failed
      · simp only [hfailed, if_false]
        exact .done _

/-- The agent keeps its new state, and its verdict may start the DTLS phase. -/
theorem alone_stunDatagram {firstByte : UInt8} {tail : Bytes} {draws : InitiateDraws} (audio : AudioInput)
    (hstun : firstByte ≤ 0x03) (hagent : answers.agent = c.agentAnswer C (firstByte :: tail))
    (hdraws : answers.handshake = draws) :
    Alone C answers c [.stunDatagram]
      (c.onStunDatagram C c.assumedSource.1 c.assumedSource.2 (firstByte :: tail) draws audio).1 := by
  unfold onStunDatagram
  cases hslot : c.iceAgent with
  | none => exact .last (by simp only [perform, hslot])
  | some agent =>
    refine .head (p := { connection := c, next := [.processIncoming agent] }) (by simp only [perform, hslot]) ?_
    refine .head rfl ?_
    simp only [perform, hagent, agentAnswer, hslot, Option.map_some, TgcallsConnection.onReflectorDatagram, hstun,
      if_true]
    obtain ⟨agent', result, response⟩ :=
      agent.processIncoming C.srtp.hmacSha1 c.assumedSource.1 c.assumedSource.2 (firstByte :: tail)
    simp only [decide_eq_true_eq]
    split_ifs with hresult
    · exact alone_onIceConnected hdraws
    · exact .done _

theorem alone_onReflectorDatagram {payload : Bytes} {draws : InitiateDraws} {audio : AudioInput}
    (hagent : answers.agent = c.agentAnswer C payload) (hsession : answers.session = sessionAnswer C payload)
    (hdraws : answers.handshake = draws) (haudio : answers.audio = audio) :
    Alone C answers c [.onReflectorDatagram (List.replicate 16 0 ++ payload)]
      (c.onReflectorDatagram C (List.replicate 16 0 ++ payload) draws audio).1 := by
  unfold onReflectorDatagram
  rw [tryStripPeerTag_reframed]
  rcases payload with _ | ⟨firstByte, tail⟩
  · exact .last (by simp only [perform, tryStripPeerTag_reframed])
  refine .head (p := { connection := c, next := demultiplex firstByte (firstByte :: tail) })
    (by simp only [perform, tryStripPeerTag_reframed]) ?_
  simp only [List.append_nil]
  by_cases hstun : firstByte ≤ 0x03
  · simp only [demultiplex, hstun, if_true]
    exact alone_stunDatagram audio hstun hagent hdraws
  simp only [demultiplex, hstun, if_false, TgcallsConnection.onReflectorDatagram]
  split_ifs with hdtls hsrtp hconnected
  · exact alone_dtlsDatagram hsession haudio
  · exact .head (if_pos hconnected) (.last rfl)
  · exact .last (if_neg hconnected)
  · exact .done c

/-- **An uninterrupted thread does what the operation does as a whole.** -/
theorem alone_input (C : Crypto) (answers : Answers) (c : IceConnection) (i : Input) :
    Alone C (c.ownAnswers C answers i) c i.parts (c.step C i) := by
  cases i with
  | initialSetup msg draws => exact alone_onPeerInitialSetup msg rfl
  | candidates lines draws => exact alone_onPeerCandidates lines rfl
  | datagram srcIp srcPort payload draws audio =>
    simp only [Input.parts, step, onReflectorDatagramFrom]
    split_ifs
    · exact .done c
    · exact alone_onReflectorDatagram rfl rfl rfl rfl
  | retryTimer transactionId => exact alone_onIceRetryTimer rfl

theorem alone_stop (C : Crypto) (answers : Answers) (c : IceConnection) :
    ∃ c', Alone C answers c [.stop] c' ∧ c'.toTgcallsConnection = c.toTgcallsConnection.stop := by
  unfold TgcallsConnection.stop
  split_ifs with hstopped
  · exact ⟨c, .head (if_pos hstopped) (.done c), rfl⟩
  · exact ⟨_, .head (if_neg hstopped) (.head rfl (.head rfl (.head rfl (.done _)))), rfl⟩

end IceConnection

end VianiumVoip.Tgcalls
