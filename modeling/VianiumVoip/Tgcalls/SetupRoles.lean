import VianiumVoip.Tgcalls.Trickle
import VianiumVoip.Tgcalls.AnnouncedFingerprint

/-!
# Two connections and their DTLS roles

The outgoing and the incoming connection of a call, with the signaling messages they send each other, in any order of
delivery.  `InitialSetup` announces a DTLS role: the outgoing side offers `actpass`, the incoming side is meant to wait
for the offer and to adopt the fitting role.  It announces `passive` from `Start` on; the role that it adopts is never
announced, and `StartDtlsPhase` knows only the client.

So the roles are complementary in no run: two sides that have reached the DTLS phase have both sent a ClientHello
(`both_clients`).
-/

namespace VianiumVoip.Tgcalls

open VianiumVoip.Lib VianiumVoip.Lib.Run VianiumVoip.Cert VianiumVoip.Dtls VianiumVoip.Ice

inductive Side
  | outgoing
  | incoming
  deriving DecidableEq, Repr

def Side.other : Side → Side
  | outgoing => incoming
  | incoming => outgoing

inductive SignalingMsg
  | initialSetup (msg : InitialSetupMsg)
  | candidates (lines : List String)

/-- One side of a call, with the signaling messages and the datagrams that it has sent. -/
structure Party where
  conn : IceConnection
  signaled : List SignalingMsg := []
  sent : List Bytes := []

/-- The constructor of a connection, by its start parameters. -/
def construct (isOutgoing : Bool) (sharedKey : Bytes) (reflectors : List ReflectorEndpoint) (hasSignalingOut : Bool) :
    TgcallsConnection :=
  { isOutgoing := isOutgoing, sharedKey := sharedKey, reflectors := reflectors, hasSignalingOut := hasSignalingOut }

/-- A side of a call after `Start`. -/
def Party.started (P : Platform) (side : Side) (sharedKey : Bytes) (reflectors : List ReflectorEndpoint)
    (hasSignalingOut : Bool) (input : TgcallsConnection.StartInput) : Party :=
  let base := construct (side = .outgoing) sharedKey reflectors hasSignalingOut
  let (c, messages, _) := base.start P input
  { conn := IceConnection.ofConnection c, signaled := messages.map .initialSetup }

inductive CallEvent
  /-- The `k`-th signaling message of the other side is delivered.  `lines` are the local candidates, should they be
  announced. -/
  | signaling (side : Side) (k : ℕ) (draws : IceDraws) (lines : List String)
  /-- The `k`-th datagram of the other side arrives. -/
  | arrival (side : Side) (k : ℕ) (srcIp : String) (srcPort : ℤ) (draws : InitiateDraws)
      (audio : TgcallsConnection.AudioInput)
  /-- Any datagram arrives. -/
  | datagram (side : Side) (srcIp : String) (srcPort : ℤ) (payload : Bytes) (draws : InitiateDraws)
      (audio : TgcallsConnection.AudioInput)
  | retryTimer (side : Side) (transactionId : ℕ → Vector UInt8 12)

namespace Party

variable (C : Crypto)

/-- What a call of the connection leaves behind. -/
def record (p : Party) (lines : List String) (r : IceConnection × Effects) : Party where
  conn := r.1
  signaled := p.signaled ++ if r.2.candidates then [.candidates lines] else []
  sent := p.sent ++ r.2.sent

def onSignaling (p : Party) (msg : SignalingMsg) (draws : IceDraws) (lines : List String) : Party :=
  match msg with
  | .initialSetup msg => p.record lines (p.conn.onPeerInitialSetup C msg draws)
  | .candidates received => p.record lines (p.conn.onPeerCandidates C received draws)

def onDatagram (p : Party) (srcIp : String) (srcPort : ℤ) (payload : Bytes) (draws : InitiateDraws)
    (audio : TgcallsConnection.AudioInput) : Party :=
  p.record [] (p.conn.onReflectorDatagramFrom C srcIp srcPort payload draws audio)

end Party

/-- One event of a call. -/
def callStep (C : Crypto) (s : Side → Party) : CallEvent → Side → Party
  | .signaling side k draws lines =>
    match (s side.other).signaled[k]? with
    | none => s
    | some msg => Function.update s side ((s side).onSignaling C msg draws lines)
  | .arrival side k srcIp srcPort draws audio =>
    match (s side.other).sent[k]? with
    | none => s
    | some payload => Function.update s side ((s side).onDatagram C srcIp srcPort payload draws audio)
  | .datagram side srcIp srcPort payload draws audio =>
    Function.update s side ((s side).onDatagram C srcIp srcPort payload draws audio)
  | .retryTimer side ids => Function.update s side ((s side).record [] ((s side).conn.onIceRetryTimer C ids))

/-! ### Roles -/

inductive DtlsRole
  | client
  | server
  deriving DecidableEq, Repr

/-- The role that the setup attributes give to who sent the first and received the second. -/
def impliedRole (sent received : String) : Option DtlsRole :=
  if sent = "active" then if received = "actpass" ∨ received = "passive" then some .client else none
  else if sent = "passive" then if received = "actpass" ∨ received = "active" then some .server else none
  else if sent = "actpass" then
    if received = "active" then some .server else if received = "passive" then some .client else none
  else none

/-- A record that starts with a ClientHello. -/
def IsClientHello (datagram : Bytes) : Prop :=
  datagram.head? = some kDtlsContentHandshake ∧ (datagram.drop 13).head? = some kHsClientHello

instance (datagram : Bytes) : Decidable (IsClientHello datagram) := inferInstanceAs (Decidable (_ ∧ _))

namespace Party

/-- The side has sent a ClientHello. -/
def IsClient (p : Party) : Prop := ∃ datagram ∈ p.sent, IsClientHello datagram

instance (p : Party) : Decidable p.IsClient := inferInstanceAs (Decidable (∃ datagram ∈ p.sent, IsClientHello datagram))

/-- The role that a side plays. -/
def role (p : Party) : DtlsRole := if p.IsClient then .client else .server

/-- The side has reached the DTLS phase.  A side whose DTLS session has failed is no longer in it, nor is one that has
been stopped. -/
def InDtlsPhase (p : Party) : Prop := p.conn.state = .dtlsHandshaking ∨ p.conn.state = .connected

instance (p : Party) : Decidable p.InDtlsPhase := inferInstanceAs (Decidable (_ ∨ _))

end Party

/-- **Complementary roles.**  Exactly one side is a client, and each side plays the role that the setup attributes it
has sent and received imply. -/
structure Complementary (s : Side → Party) : Prop where
  oneClient : (s .outgoing).IsClient ↔ ¬ (s .incoming).IsClient
  implied : ∀ side sent received, .initialSetup sent ∈ (s side).signaled →
    .initialSetup received ∈ (s side.other).signaled →
      impliedRole sent.setup received.setup = some (s side).role

variable {C : Crypto}

/-! ### A connection enters the DTLS phase as a client -/

namespace TgcallsConnection

variable {c : TgcallsConnection}

/-- A session is there, or the state says so. -/
def HasBegunDtls (c : TgcallsConnection) : Prop :=
  c.dtls.isSome = true ∨ c.state = .dtlsHandshaking ∨ c.state = .connected

theorem isClientHello_initiate (dtls : DtlsClientSession) (draws : InitiateDraws) :
    ∃ datagram ∈ (dtls.initiate draws).2, IsClientHello datagram := by
  refine ⟨_, List.mem_singleton.2 rfl, ?_, ?_⟩ <;> rfl

theorem startDtlsPhase_hello (draws : InitiateDraws) (h : HasBegunDtls (c.startDtlsPhase draws).1) :
    HasBegunDtls c ∨ ∃ datagram ∈ (c.startDtlsPhase draws).2, IsClientHello datagram := by
  cases hdtls : c.dtls with
  | some dtls => exact .inl (.inl (by rw [hdtls]; rfl))
  | none =>
    cases hcert : c.localCert with
    | none =>
      simp [startDtlsPhase, hdtls, hcert, HasBegunDtls, transitionTo] at h
    | some cert =>
      by_cases hpeer : c.peerFingerprint = []
      · simp [startDtlsPhase, hdtls, hcert, hpeer, HasBegunDtls, transitionTo] at h
      · refine .inr ?_
        simp only [startDtlsPhase, hdtls, hcert, transitionTo, if_neg hpeer]
        exact isClientHello_initiate _ _

theorem onReflectorDatagram_hello (a : Arrival) (h : HasBegunDtls (c.onReflectorDatagram C a).1) :
    HasBegunDtls c ∨ ∃ datagram ∈ (c.onReflectorDatagram C a).2.1, IsClientHello datagram := by
  unfold onReflectorDatagram at h ⊢
  cases hinner : a.inner with
  | nil =>
    rw [hinner] at h
    exact .inl h
  | cons firstByte rest =>
    rw [hinner] at h
    simp only at h ⊢
    by_cases hstun : firstByte ≤ 0x03
    · rw [if_pos hstun] at h ⊢
      by_cases hestablished : a.connectivityEstablished = true
      · rw [if_pos hestablished] at h ⊢
        simp only [onIceConnected] at h ⊢
        by_cases hlate : State.dtlsHandshaking.toNat ≤ c.state.toNat
        · rw [if_pos hlate] at h
          exact .inl h
        · rw [if_neg hlate] at h ⊢
          exact startDtlsPhase_hello a.draws h
      · rw [if_neg hestablished] at h
        exact .inl h
    rw [if_neg hstun] at h ⊢
    by_cases hdtls : 0x14 ≤ firstByte ∧ firstByte ≤ 0x1F
    · rw [if_pos hdtls] at h
      cases hsession : c.dtls with
      | none =>
        simp only [onDtlsDatagram, hsession] at h
        exact .inl h
      | some dtls => exact .inl (.inl (by rw [hsession]; rfl))
    · rw [if_neg hdtls] at h
      refine .inl ?_
      split_ifs at h with hsrtp hconnected
      · exact .inr (.inr hconnected)
      · exact h
      · exact h

/-- `Start` begins no DTLS phase, and announces the role of the constructor. -/
theorem start_hello (P : Platform) (input : StartInput) (hfresh : c.dtls = none) (hstate : c.state = .connecting) :
    ¬ HasBegunDtls (c.start P input).1 ∧ ∀ msg ∈ (c.start P input).2.1, msg.setup = c.localSetupRole := by
  have hnot : ∀ c' : TgcallsConnection, c'.dtls = none → c'.state ≠ .dtlsHandshaking → c'.state ≠ .connected →
      ¬ HasBegunDtls c' := by
    rintro c' hdtls hhandshaking hconnected (h | h | h)
    · rw [hdtls] at h
      cases h
    · exact hhandshaking h
    · exact hconnected h
  have hsame : ¬ HasBegunDtls c := hnot c hfresh (by rw [hstate]; decide) (by rw [hstate]; decide)
  unfold start
  by_cases hkey : c.sharedKey.length ≠ kSharedKeySize
  · rw [if_pos hkey]
    exact ⟨hsame, by simp⟩
  rw [if_neg hkey]
  cases c.reflectors with
  | nil => exact ⟨hsame, by simp⟩
  | cons first rest =>
    simp only
    by_cases hout : (!c.hasSignalingOut) = true
    · rw [if_pos hout]
      exact ⟨hsame, by simp⟩
    rw [if_neg hout]
    cases input.generate with
    | none => exact ⟨hnot _ hfresh (by simp [transitionTo]) (by simp [transitionTo]), by simp⟩
    | some cert =>
      simp only
      cases input.emitError with
      | some error => exact ⟨hnot _ hfresh (by simp [transitionTo]) (by simp [transitionTo]), by simp⟩
      | none =>
        simp only
        cases input.openError first with
        | some error =>
          exact ⟨hnot _ hfresh (by simp [transitionTo]) (by simp [transitionTo]), by simp [initialSetup]⟩
        | none => exact ⟨hnot _ hfresh (by simp [transitionTo]) (by simp [transitionTo]), by simp [initialSetup]⟩

end TgcallsConnection

/-! ### A side of a call -/

open TgcallsConnection

/-- What `InitialSetup` announces on a side. -/
def announcedRole : Side → String
  | .outgoing => "actpass"
  | .incoming => "passive"

/-- A side that has begun its DTLS phase has sent a ClientHello, and it has announced the role of its constructor. -/
structure ClientOnly (side : Side) (p : Party) : Prop where
  hello : HasBegunDtls p.conn.toTgcallsConnection → p.IsClient
  announced : ∀ msg, .initialSetup msg ∈ p.signaled → msg.setup = announcedRole side

theorem clientOnly_started (P : Platform) (side : Side) (sharedKey : Bytes) (reflectors : List ReflectorEndpoint)
    (hasSignalingOut : Bool) (input : StartInput) :
    ClientOnly side (Party.started P side sharedKey reflectors hasSignalingOut input) := by
  obtain ⟨hbegun, hannounced⟩ := start_hello (c := construct (side = .outgoing) sharedKey reflectors hasSignalingOut)
    P input rfl rfl
  refine ⟨fun h => absurd h hbegun, ?_⟩
  intro msg hmsg
  obtain ⟨msg', hmem, heq⟩ := List.mem_map.1 hmsg
  cases heq
  rw [hannounced msg hmem]
  cases side <;> rfl

theorem ClientOnly.record {side : Side} {p : Party} (h : ClientOnly side p) (lines : List String)
    (r : IceConnection × Effects) (hr : HasBegunDtls r.1.toTgcallsConnection →
      HasBegunDtls p.conn.toTgcallsConnection ∨ ∃ datagram ∈ r.2.sent, IsClientHello datagram) :
    ClientOnly side (p.record lines r) where
  hello := by
    intro hbegun
    rcases hr hbegun with hbefore | ⟨datagram, hsent, hhello⟩
    · obtain ⟨datagram, hsent, hhello⟩ := h.hello hbefore
      exact ⟨datagram, List.mem_append_left _ hsent, hhello⟩
    · exact ⟨datagram, List.mem_append_right _ hsent, hhello⟩
  announced := by
    intro msg hmsg
    rcases List.mem_append.1 hmsg with hold | hnew
    · exact h.announced msg hold
    · split_ifs at hnew
      · cases List.mem_singleton.1 hnew
      · cases hnew

/-! The steps of the ICE phase leave the DTLS session and the state alone, but for the timer that gives up. -/

theorem sendIceBindingRequests_base (c : IceConnection) (ids : ℕ → Vector UInt8 12) :
    (c.sendIceBindingRequests C ids).1.toTgcallsConnection = c.toTgcallsConnection := by
  unfold IceConnection.sendIceBindingRequests
  cases c.iceAgent <;> rfl

theorem startIcePhase_base (c : IceConnection) (draws : IceDraws) :
    (c.startIcePhase C draws).1.toTgcallsConnection = c.toTgcallsConnection := by
  simp only [IceConnection.startIcePhase]
  split_ifs
  · rfl
  · rfl
  · rfl
  · exact sendIceBindingRequests_base _ _

theorem hasBegunDtls_onPeerInitialSetup (c : IceConnection) (msg : InitialSetupMsg) (draws : IceDraws)
    (h : HasBegunDtls (c.onPeerInitialSetup C msg draws).1.toTgcallsConnection) :
    HasBegunDtls c.toTgcallsConnection := by
  rw [IceConnection.onPeerInitialSetup, startIcePhase_base] at h
  simp only [TgcallsConnection.onPeerInitialSetup] at h
  split_ifs at h <;> exact h

theorem hasBegunDtls_onIceRetryTimer (c : IceConnection) (ids : ℕ → Vector UInt8 12)
    (h : HasBegunDtls (c.onIceRetryTimer C ids).1.toTgcallsConnection) : HasBegunDtls c.toTgcallsConnection := by
  simp only [IceConnection.onIceRetryTimer] at h
  split_ifs at h
  · exact h
  · rcases h with hdtls | hfailed | hfailed
    · exact .inl hdtls
    · cases hfailed
    · cases hfailed
  · rwa [sendIceBindingRequests_base] at h

theorem onReflectorDatagramFrom_hello (c : IceConnection) (srcIp : String) (srcPort : ℤ) (payload : Bytes)
    (draws : InitiateDraws) (audio : AudioInput)
    (h : HasBegunDtls (c.onReflectorDatagramFrom C srcIp srcPort payload draws audio).1.toTgcallsConnection) :
    HasBegunDtls c.toTgcallsConnection ∨
      ∃ datagram ∈ (c.onReflectorDatagramFrom C srcIp srcPort payload draws audio).2.sent, IsClientHello datagram := by
  simp only [IceConnection.onReflectorDatagramFrom, IceConnection.onReflectorDatagram] at h ⊢
  by_cases hempty : payload = []
  · rw [if_pos hempty] at h
    exact .inl h
  rw [if_neg hempty] at h ⊢
  cases hstrip : tryStripPeerTag (List.replicate 16 0 ++ payload) with
  | none =>
    rw [hstrip] at h
    exact .inl h
  | some inner =>
    rw [hstrip] at h
    cases inner with
    | nil => exact .inl h
    | cons firstByte rest =>
      simp only at h ⊢
      by_cases hstun : firstByte ≤ 0x03
      · rw [if_pos hstun] at h ⊢
        simp only [IceConnection.onStunDatagram] at h ⊢
        cases hagent : c.iceAgent with
        | none =>
          rw [hagent] at h
          exact .inl h
        | some agent =>
          rw [hagent] at h
          rcases onReflectorDatagram_hello _ h with hbefore | ⟨datagram, hsent, hhello⟩
          · exact .inl hbefore
          · exact .inr ⟨datagram, List.mem_append_right _ hsent, hhello⟩
      · rw [if_neg hstun] at h ⊢
        exact onReflectorDatagram_hello _ h

/-! ### Runs of a call -/

def ClientsOnly (s : Side → Party) : Prop := ∀ side, ClientOnly side (s side)

theorem clientOnly_update {s : Side → Party} (h : ClientsOnly s) {side : Side} {p : Party}
    (hp : ClientOnly side p) : ClientsOnly (Function.update s side p) := by
  intro side'
  by_cases hside : side' = side
  · subst hside
    rw [Function.update_self]
    exact hp
  · rw [Function.update_of_ne hside]
    exact h side'

/-- **A step keeps both sides clients only.** -/
theorem clientsOnly_step {s : Side → Party} (h : ClientsOnly s) (ev : CallEvent) : ClientsOnly (callStep C s ev) := by
  have hdatagram : ∀ side srcIp srcPort payload draws audio,
      ClientOnly side ((s side).onDatagram C srcIp srcPort payload draws audio) := by
    intro side srcIp srcPort payload draws audio
    exact (h side).record _ _ (onReflectorDatagramFrom_hello _ srcIp srcPort payload draws audio)
  cases ev with
  | signaling side k draws lines =>
    simp only [callStep]
    cases (s side.other).signaled[k]? with
    | none => exact h
    | some msg =>
      refine clientOnly_update h ?_
      cases msg with
      | initialSetup msg =>
        exact (h side).record _ _ fun hbegun => .inl (hasBegunDtls_onPeerInitialSetup _ msg draws hbegun)
      | candidates received =>
        refine (h side).record _ _ fun hbegun => .inl ?_
        rwa [IceConnection.onPeerCandidates, startIcePhase_base] at hbegun
  | arrival side k srcIp srcPort draws audio =>
    simp only [callStep]
    cases (s side.other).sent[k]? with
    | none => exact h
    | some payload => exact clientOnly_update h (hdatagram side srcIp srcPort payload draws audio)
  | datagram side srcIp srcPort payload draws audio =>
    exact clientOnly_update h (hdatagram side srcIp srcPort payload draws audio)
  | retryTimer side ids =>
    refine clientOnly_update h ?_
    exact (h side).record _ _ fun hbegun => .inl (hasBegunDtls_onIceRetryTimer _ ids hbegun)

/-- What a call is started with, on each side. -/
structure CallStart where
  sharedKey : Bytes
  reflectors : List ReflectorEndpoint
  hasSignalingOut : Bool
  input : StartInput

/-- Both sides after `Start`. -/
def startCall (P : Platform) (start : Side → CallStart) (side : Side) : Party :=
  Party.started P side (start side).sharedKey (start side).reflectors (start side).hasSignalingOut (start side).input

theorem clientsOnly_run (C : Crypto) (start : Side → CallStart) (events : List CallEvent) :
    ClientsOnly (run (callStep C) (startCall C.dtls.toPlatform start) events) := by
  have hstart : ClientsOnly (startCall C.dtls.toPlatform start) :=
    fun side => clientOnly_started C.dtls.toPlatform side _ _ _ _
  have hstep : ∀ s ev, ClientsOnly s → ClientsOnly (callStep C s ev) := fun _ ev h => clientsOnly_step h ev
  exact invariant_run_of_step hstep events hstart

theorem not_complementary_of_clients {s : Side → Party} (h : ∀ side, (s side).IsClient) : ¬ Complementary s := by
  intro hcomplementary
  exact hcomplementary.oneClient.1 (h .outgoing) (h .incoming)

/-- **Both sides are clients.**  In every state of every run of a call in which both sides are in the DTLS phase, and the
DTLS session of neither has failed, both have sent a ClientHello, the incoming side against the role it has announced;
their roles are complementary in none. -/
theorem both_clients (C : Crypto) (start : Side → CallStart) (events : List CallEvent)
    (hphase : ∀ side, (run (callStep C) (startCall C.dtls.toPlatform start) events side).InDtlsPhase) :
    (∀ side, (run (callStep C) (startCall C.dtls.toPlatform start) events side).IsClient) ∧
      (∀ side msg, .initialSetup msg ∈ (run (callStep C) (startCall C.dtls.toPlatform start) events side).signaled →
        msg.setup = announcedRole side) ∧
      ¬ Complementary (run (callStep C) (startCall C.dtls.toPlatform start) events) := by
  have hrun := clientsOnly_run C start events
  have hclient : ∀ side, (run (callStep C) (startCall C.dtls.toPlatform start) events side).IsClient :=
    fun side => (hrun side).hello (.inr (hphase side))
  exact ⟨hclient, fun side => (hrun side).announced, not_complementary_of_clients hclient⟩

/-! ### A call -/

/-- HMAC-SHA1 of the connectivity checks below. -/
def checkMac (key msg : Bytes) : Bytes :=
  toBE 20 <| ((([
    ((ascii "0123456789abcdefghijkl",
      0x0001003c2112a44201010101010101010101010100060009413162323a63334434000000002400046effffff802900080000000000000002),
      0x4f8939c16c004c6035f35a12f2adf2b985e02d9a),
    ((ascii "0123456789abcdefghijkl",
      0x010100242112a442010101010101010101010101002000080001246ab4880371),
      0xfdeea39c4ad57dacddd88c154c7ab226cfb0cd25),
    ((ascii "ABCDEFGHIJ0123456789kl",
      0x0001003c2112a44202020202020202020202020200060009633344343a41316232000000002400046effffff802a00080000000000000001),
      0x1610d857dc86e59eab95a83ee72922bfa44688c0),
    ((ascii "ABCDEFGHIJ0123456789kl",
      0x000100402112a44203030303030303030303030300060009633344343a41316232000000002400046effffff802a0008000000000000000100250000),
      0x6ec7684a304f663d8db0d058529ea0bdba36d9cb),
    ((ascii "ABCDEFGHIJ0123456789kl",
      0x010100242112a442030303030303030303030303002000080001246ab4880371),
      0x5410c8ee331a2358cf79f8250dab5047f1703fd9)] : List ((Bytes × ℕ) × ℕ)).lookup
    (key, ofBE msg)).getD 0)

def callLibraries : Crypto where
  dtls := sampleLibraries.dtls
  srtp :=
    { sampleLibraries.srtp with
      hmacSha1 := checkMac
      length_hmacSha1 := fun _ _ => length_toBE .. }

def sampleSides (side : Side) : CallStart where
  sharedKey := List.replicate 256 0
  reflectors := [{ ip := "149.154.167.51", port := 1400, peerTag := List.replicate 16 0 }]
  hasSignalingOut := true
  input :=
    { sampleStart with
      ufrag := match side with | .outgoing => "A1b2" | .incoming => "c3D4"
      pwd := match side with | .outgoing => "0123456789abcdefghijkl" | .incoming => "ABCDEFGHIJ0123456789kl" }

/-- Both `InitialSetup`s, both `Candidates`; the check of the incoming side arrives, the timer of the outgoing side
nominates the pair, and both sides are connected. -/
def sampleEvents : List CallEvent :=
  let draws := nullDraws
  let audio : AudioInput := { opened := true, codecInit := true }
  let outgoing : IceDraws := { tieBreak := 1, transactionId := fun _ => Vector.replicate 12 2 }
  let incoming : IceDraws := { tieBreak := 2, transactionId := fun _ => Vector.replicate 12 1 }
  let line := "candidate:rl1 1 udp 16776959 149.154.167.51 1400 typ relay generation 0"
  [.signaling .incoming 0 incoming [line], .signaling .outgoing 0 outgoing [line],
    .signaling .incoming 1 incoming [line], .signaling .outgoing 1 outgoing [line],
    .arrival .outgoing 0 "149.154.167.51" 1400 draws audio, .retryTimer .outgoing fun _ => Vector.replicate 12 3,
    .arrival .incoming 2 "149.154.167.51" 1400 draws audio, .arrival .outgoing 1 "149.154.167.51" 1400 draws audio]

/-- Where the call ends. -/
def sampleCallEnd : Side → Party :=
  run (callStep callLibraries) (startCall callLibraries.dtls.toPlatform sampleSides) sampleEvents

theorem sampleCallEnd_inDtlsPhase : ∀ side, (sampleCallEnd side).InDtlsPhase := by
  have hboth : (sampleCallEnd .outgoing).InDtlsPhase ∧ (sampleCallEnd .incoming).InDtlsPhase := by decide +kernel
  rintro (_ | _)
  · exact hboth.1
  · exact hboth.2

theorem both_clients_sample : (∀ side, (sampleCallEnd side).IsClient) ∧
    (∀ side msg, .initialSetup msg ∈ (sampleCallEnd side).signaled → msg.setup = announcedRole side) ∧
      ¬ Complementary sampleCallEnd := by
  have hphase := sampleCallEnd_inDtlsPhase
  unfold sampleCallEnd at hphase ⊢
  exact both_clients callLibraries sampleSides sampleEvents hphase

/-- **Both sides of the call are in the DTLS phase, as clients.** -/
theorem call_not_complementary : (∀ side, (sampleCallEnd side).InDtlsPhase) ∧ (∀ side, (sampleCallEnd side).IsClient) ∧
    ¬ Complementary sampleCallEnd := by
  have hrun : ClientsOnly sampleCallEnd := by
    unfold sampleCallEnd
    exact clientsOnly_run callLibraries sampleSides sampleEvents
  have hclient : ∀ side, (sampleCallEnd side).IsClient :=
    fun side => (hrun side).hello (.inr (sampleCallEnd_inDtlsPhase side))
  exact ⟨sampleCallEnd_inDtlsPhase, hclient, not_complementary_of_clients hclient⟩

end VianiumVoip.Tgcalls
