import VianiumVoip.Tgcalls.AudioChannel
import Mathlib.Data.List.ReduceOption

/-!
# The life of a connection

A connection from `Start` to `Stop`, with everything that happens to it in between: signaling, datagrams, the retry timer
and the capture loop.

* `media_keys_once`: keys for the media are installed at most once, from the exporter of a DTLS session that is
  established; a connection is connected at no other moment than that, and has no keys before it and none behind `Stop`.
* `ice_phase_ends`: `StartIcePhase` sends one round of checks and the retry timer at most 20 more, and when it has run out
  21 times the connection is not looking for a path any more.
-/

namespace VianiumVoip.Tgcalls

open VianiumVoip.Lib VianiumVoip.Lib.Run VianiumVoip.Srtp VianiumVoip.Dtls VianiumVoip.Ice

inductive LifeEvent
  | input (i : IceConnection.Input)
  | capture (turn : CaptureTurn)
  | stop

def LifeEvent.IsDatagram : LifeEvent → Prop
  | .input (.datagram _ _ _ _ _) => True
  | _ => False

namespace IceConnection

variable (C : Crypto)

/-- `Stop`, of the agent as well. -/
def stopWithAgent (c : IceConnection) : IceConnection :=
  if c.stopped then c else { c with toTgcallsConnection := c.toTgcallsConnection.stop, iceAgent := none }

def life (c : IceConnection) : LifeEvent → IceConnection
  | .input i => c.step C i
  | .capture turn => { c with toTgcallsConnection := (c.toTgcallsConnection.captureTurn C.srtp turn).1 }
  | .stop => c.stopWithAgent

/-- The DTLS session whose keys an event installs. -/
def installs (c : IceConnection) (ev : LifeEvent) : Option DtlsClientSession :=
  if c.srtpReady = false ∧ (c.life C ev).srtpReady = true then (c.life C ev).dtls else none

end IceConnection

/-- What the exporter of a session gives for the media. -/
def mediaKeys (C : Crypto) (dtls : DtlsClientSession) : Bytes :=
  dtls.exportKeyingMaterial C.dtls "EXTRACTOR-dtls_srtp" 60

/-- The client's half of the keys. -/
def outMaster (keys : Bytes) : SrtpKeys := { masterKey := keys.take 16, masterSalt := (keys.drop 32).take 14 }

/-- The server's half. -/
def inMaster (keys : Bytes) : SrtpKeys := { masterKey := (keys.drop 16).take 16, masterSalt := (keys.drop 46).take 14 }

/-- Parameters with the session keys of a master. -/
structure FromMaster (C : Srtp.Crypto) (master : SrtpKeys) (params : SrtpEncryptParams) : Prop where
  encrKey : params.sessionEncrKey = (SrtpEncryptParams.initial C master 0).sessionEncrKey
  authKey : params.sessionAuthKey = (SrtpEncryptParams.initial C master 0).sessionAuthKey
  salt : params.sessionSalt = (SrtpEncryptParams.initial C master 0).sessionSalt

/-- **The keys of a connection**, by the sessions whose keys were installed so far. -/
inductive MediaKeys (C : Crypto) (c : TgcallsConnection) : List DtlsClientSession → Prop
  | without (ready : c.srtpReady = false) (outgoing : c.srtpOutgoing = none) (incoming : c.srtpIncoming = none)
      (notConnected : c.state ≠ .connected) (running : c.stopped = false) : MediaKeys C c []
  | keyed (dtls : DtlsClientSession) (established : dtls.state = .established) (length : (mediaKeys C dtls).length = 60)
      (ready : c.srtpReady = true)
      (outgoing : ∃ params ∈ c.srtpOutgoing,
        FromMaster C.srtp (outMaster (mediaKeys C dtls)) params ∧ params.ssrc = c.localSsrc)
      (incoming : ∃ params ∈ c.srtpIncoming,
        FromMaster C.srtp (inMaster (mediaKeys C dtls)) params ∧ params.rolloverCounter = 0)
      (decided : c.state = .connected ∨ c.state = .failed) (running : c.stopped = false) : MediaKeys C c [dtls]
  | stopped (installed : List DtlsClientSession) (once : installed.length ≤ 1) (ready : c.srtpReady = false)
      (outgoing : c.srtpOutgoing = none) (incoming : c.srtpIncoming = none) (dtls : c.dtls = none)
      (state : c.state = .stopped) (stopped : c.stopped = true) : MediaKeys C c installed

/-! ### What an event does to the keys -/

namespace TgcallsConnection

variable {C : Crypto} {c c' c'' : TgcallsConnection}

/-- The keys stay, and the state stays or goes on. -/
structure KeepsKeys (c c' : TgcallsConnection) : Prop where
  ready : c'.srtpReady = c.srtpReady
  outgoing : c'.srtpOutgoing = c.srtpOutgoing
  incoming : c'.srtpIncoming = c.srtpIncoming
  localSsrc : c'.localSsrc = c.localSsrc
  stopped : c'.stopped = c.stopped
  onward : c'.state = c.state ∨ c'.state = .failed ∨
    c.state.toNat < State.dtlsHandshaking.toNat ∧ c'.state = .dtlsHandshaking
  ended : c.state = .stopped → c.dtls = none → c'.state = .stopped ∧ c'.dtls = none

theorem KeepsKeys.refl (c : TgcallsConnection) : KeepsKeys c c :=
  ⟨rfl, rfl, rfl, rfl, rfl, .inl rfl, fun hstate hdtls => ⟨hstate, hdtls⟩⟩

/-- **What a datagram does**: nothing to the keys, or it shows the SSRC of the peer, or it installs them. -/
inductive Handles (C : Crypto) (c c' : TgcallsConnection) : Prop
  | keeps (h : KeepsKeys c c')
  | latches (params : SrtpEncryptParams) (ssrc : UInt32) (hin : c.srtpIncoming = some params)
      (h : c' = { c with srtpIncoming := some { params with ssrc := ssrc } })
  | installs (dtls : DtlsClientSession) (audio : AudioInput) (hsession : c.dtls ≠ none) (hready : c.srtpReady = false)
      (hestablished : dtls.state = .established) (hlength : (mediaKeys C dtls).length = 60)
      (h : c' = { c with dtls := some dtls }.startAudioPhase C.srtp (mediaKeys C dtls) audio)

theorem keepsKeys_startDtlsPhase (hearly : c.state.toNat < State.dtlsHandshaking.toNat) (draws : InitiateDraws) :
    KeepsKeys c (c.startDtlsPhase draws).1 := by
  have hnot : c.state ≠ .stopped := by
    intro hstate
    rw [hstate] at hearly
    exact absurd hearly (by decide)
  unfold startDtlsPhase
  split
  · exact .refl c
  dsimp only
  split
  · exact ⟨rfl, rfl, rfl, rfl, rfl, .inr (.inl rfl), fun hstate => absurd hstate hnot⟩
  split_ifs
  · exact ⟨rfl, rfl, rfl, rfl, rfl, .inr (.inl rfl), fun hstate => absurd hstate hnot⟩
  · exact ⟨rfl, rfl, rfl, rfl, rfl, .inr (.inr ⟨hearly, rfl⟩), fun hstate => absurd hstate hnot⟩

theorem keepsKeys_onIceConnected (draws : InitiateDraws) : KeepsKeys c (c.onIceConnected draws).1 := by
  unfold onIceConnected
  split_ifs with hlate
  · exact .refl c
  · exact keepsKeys_startDtlsPhase (not_le.1 hlate) draws

theorem handles_onDtlsDatagram (inner : Bytes) (audio : AudioInput) :
    Handles C c (c.onDtlsDatagram C inner audio).1 := by
  unfold onDtlsDatagram
  cases hdtls : c.dtls with
  | none => exact .keeps (.refl c)
  | some dtls =>
    have hsession : c.dtls ≠ none := by simp [hdtls]
    simp only
    set dtls' := (dtls.processDatagram C.dtls inner).1
    split_ifs with hestablished hfailed
    · have hready : c.srtpReady = false := by simpa using hestablished.2
      unfold onDtlsEstablished
      split_ifs with hlength
      · exact .keeps ⟨rfl, rfl, rfl, rfl, rfl, .inr (.inl rfl), fun _ hnone => absurd hnone hsession⟩
      · exact .installs dtls' audio hsession hready hestablished.1 (not_not.1 hlength) rfl
    · exact .keeps ⟨rfl, rfl, rfl, rfl, rfl, .inr (.inl rfl), fun _ hnone => absurd hnone hsession⟩
    · exact .keeps ⟨rfl, rfl, rfl, rfl, rfl, .inl rfl, fun _ hnone => absurd hnone hsession⟩

theorem handles_onSrtpDatagram (bytes : Bytes) : Handles C c (c.onSrtpDatagram C.srtp bytes).1 := by
  unfold onSrtpDatagram
  split_ifs
  · exact .keeps (.refl c)
  split
  · next params hready hin =>
    simp only
    have hlatch : ∃ ssrc, (if params.ssrc = 0 then { params with ssrc := headerSsrc bytes } else params) =
        { params with ssrc := ssrc } := by
      split_ifs
      · exact ⟨_, rfl⟩
      · exact ⟨params.ssrc, rfl⟩
    obtain ⟨ssrc, heq⟩ := hlatch
    rw [heq]
    split_ifs <;> exact .latches params ssrc hin rfl
  · exact .keeps (.refl c)

theorem handles_onReflectorDatagram (a : Arrival) : Handles C c (c.onReflectorDatagram C a).1 := by
  unfold onReflectorDatagram
  cases a.inner with
  | nil => exact .keeps (.refl c)
  | cons firstByte rest =>
    simp only
    split_ifs
    · exact .keeps (keepsKeys_onIceConnected a.draws)
    · exact .keeps (.refl c)
    · exact handles_onDtlsDatagram _ a.audio
    · exact handles_onSrtpDatagram _
    · exact .keeps (.refl c)
    · exact .keeps (.refl c)

/-- A turn of the capture loop moves the outgoing counters, and nothing else. -/
theorem captureTurn_cases (C : Srtp.Crypto) (c : TgcallsConnection) (turn : CaptureTurn) :
    (c.captureTurn C turn).1 = c ∨ ∃ params, c.srtpOutgoing = some params ∧ c.srtpReady = true ∧
      (c.captureTurn C turn).1 = { c with
        srtpOutgoing := some (advanceRollover params c.outgoingSeq)
        outgoingSeq := c.outgoingSeq + 1
        outgoingTimestamp := c.outgoingTimestamp + kFrameSamples } := by
  by_cases hframe : turn.opened = true ∧ turn.opusFrame ≠ []
  · cases hout : c.srtpOutgoing with
    | none =>
      left
      simp only [captureTurn, hout]
    | some params =>
      by_cases hready : c.srtpReady = true
      · right
        exact ⟨params, rfl, hready, congrArg Prod.fst (captureTurn_frame hready hout hframe.1 hframe.2)⟩
      · left
        simp [captureTurn, hout, hready]
  · exact .inl (congrArg Prod.fst (captureTurn_idle hframe))

/-! ### The keys, step by step -/

theorem fromMaster_initial (C : Srtp.Crypto) (master : SrtpKeys) (ssrc : UInt32) :
    FromMaster C master (SrtpEncryptParams.initial C master ssrc) := ⟨rfl, rfl, rfl⟩

/-- **A datagram** keeps what is said of the keys. -/
theorem mediaKeys_handles {installed : List DtlsClientSession} (h : MediaKeys C c installed) (hh : Handles C c c') :
    MediaKeys C c'
      (installed ++ (if c.srtpReady = false ∧ c'.srtpReady = true then c'.dtls else none).toList) := by
  cases hh with
  | keeps hkeeps =>
    have hnone : (if c.srtpReady = false ∧ c'.srtpReady = true then c'.dtls else none) = none := by
      rw [if_neg (by rw [hkeeps.ready]; simp)]
    rw [hnone, Option.toList_none, List.append_nil]
    cases h with
    | without ready outgoing incoming notConnected running =>
      refine .without (hkeeps.ready.trans ready) (hkeeps.outgoing.trans outgoing) (hkeeps.incoming.trans incoming) ?_
        (hkeeps.stopped.trans running)
      rcases hkeeps.onward with hsame | hfailed | ⟨-, hhandshaking⟩
      · rwa [hsame]
      · simp [hfailed]
      · simp [hhandshaking]
    | keyed dtls established length ready outgoing incoming decided running =>
      refine .keyed dtls established length (hkeeps.ready.trans ready) ?_ ?_ ?_ (hkeeps.stopped.trans running)
      · rwa [hkeeps.outgoing, hkeeps.localSsrc]
      · rwa [hkeeps.incoming]
      · rcases hkeeps.onward with hsame | hfailed | ⟨hearly, -⟩
        · rwa [hsame]
        · exact .inr hfailed
        · rcases decided with hstate | hstate <;> exact absurd hearly (by rw [hstate]; decide)
    | stopped _ once ready outgoing incoming dtls state stopped =>
      obtain ⟨hstate, hdtls⟩ := hkeeps.ended state dtls
      exact .stopped installed once (hkeeps.ready.trans ready) (hkeeps.outgoing.trans outgoing)
        (hkeeps.incoming.trans incoming) hdtls hstate (hkeeps.stopped.trans stopped)
  | latches params ssrc hin heq =>
    subst heq
    rw [if_neg (by simp), Option.toList_none, List.append_nil]
    cases h with
    | without ready outgoing incoming notConnected running => exact absurd (hin.symm.trans incoming) (by simp)
    | keyed dtls established length ready outgoing incoming decided running =>
      obtain ⟨params', hparams', hkeys, hrollover⟩ := incoming
      obtain rfl := Option.some.inj (hin.symm.trans hparams')
      exact .keyed dtls established length ready outgoing
        ⟨_, rfl, ⟨hkeys.encrKey, hkeys.authKey, hkeys.salt⟩, hrollover⟩ decided running
    | stopped _ once ready outgoing incoming dtls state stopped => exact absurd (hin.symm.trans incoming) (by simp)
  | installs dtls audio hsession hready hestablished hlength heq =>
    have hfields : c'.srtpReady = true ∧ c'.dtls = some dtls ∧ c'.localSsrc = c.localSsrc ∧ c'.stopped = c.stopped ∧
        c'.srtpOutgoing = some (SrtpEncryptParams.initial C.srtp (outMaster (mediaKeys C dtls)) c.localSsrc) ∧
        c'.srtpIncoming = some (SrtpEncryptParams.initial C.srtp (inMaster (mediaKeys C dtls)) 0) ∧
        (c'.state = .connected ∨ c'.state = .failed) := by
      rw [heq]
      unfold startAudioPhase
      cases audio.opened <;> cases audio.codecInit <;> exact ⟨rfl, rfl, rfl, rfl, rfl, rfl, by simp [transitionTo]⟩
    obtain ⟨hready', hdtls', hssrc', hstopped', hout', hin', hstate'⟩ := hfields
    rw [if_pos ⟨hready, hready'⟩, hdtls', Option.toList_some]
    cases h with
    | without ready outgoing incoming notConnected running =>
      exact .keyed dtls hestablished hlength hready' ⟨_, hout', fromMaster_initial _ _ _, hssrc'.symm⟩
        ⟨_, hin', fromMaster_initial _ _ _, rfl⟩ hstate' (hstopped'.trans running)
    | keyed dtls established length ready outgoing incoming decided running =>
      exact absurd (hready.symm.trans ready) (by simp)
    | stopped _ once ready outgoing incoming dtls state stopped => exact absurd dtls hsession

/-- **A capture** does, too. -/
theorem mediaKeys_captureTurn {installed : List DtlsClientSession} (h : MediaKeys C c installed) (turn : CaptureTurn) :
    MediaKeys C (c.captureTurn C.srtp turn).1 installed ∧ (c.captureTurn C.srtp turn).1.srtpReady = c.srtpReady := by
  rcases captureTurn_cases C.srtp c turn with hsame | ⟨params, hout, hready, hmoved⟩
  · rw [hsame]
    exact ⟨h, rfl⟩
  · rw [hmoved]
    refine ⟨?_, rfl⟩
    cases h with
    | without ready outgoing incoming notConnected running => exact absurd (hready.symm.trans ready) (by simp)
    | keyed dtls established length ready outgoing incoming decided running =>
      obtain ⟨params', hparams', hkeys, hssrc⟩ := outgoing
      obtain rfl := Option.some.inj (hout.symm.trans hparams')
      exact .keyed dtls established length ready ⟨_, rfl, ⟨hkeys.encrKey, hkeys.authKey, hkeys.salt⟩, hssrc⟩ incoming
        decided running
    | stopped _ once ready outgoing incoming dtls state stopped => exact absurd (hready.symm.trans ready) (by simp)

/-- **`Stop`** takes the keys away. -/
theorem mediaKeys_stop {installed : List DtlsClientSession} (h : MediaKeys C c installed) :
    MediaKeys C c.stop installed := by
  have honce : installed.length ≤ 1 := by
    cases h with
    | without => exact Nat.zero_le 1
    | keyed => exact le_rfl
    | stopped _ once => exact once
  by_cases hstopped : c.stopped = true
  · rwa [stop, if_pos hstopped]
  · rw [stop, if_neg hstopped]
    exact .stopped installed honce rfl rfl rfl rfl rfl rfl

theorem stopped_start (P : Cert.Platform) (input : StartInput) (h : c.stopped = false) :
    (c.start P input).1.stopped = false := by
  unfold start
  split
  · exact h
  split
  · exact h
  split
  · exact h
  split
  · exact h
  dsimp only
  split
  · exact h
  split <;> exact h

theorem mediaKeys_start (P : Cert.Platform) (input : StartInput) (hready : c.srtpReady = false)
    (hout : c.srtpOutgoing = none) (hin : c.srtpIncoming = none) (hstate : c.state = .connecting)
    (hrunning : c.stopped = false) : MediaKeys C (c.start P input).1 [] := by
  have hfresh (c' : TgcallsConnection) (hready : c'.srtpReady = false) (hout : c'.srtpOutgoing = none)
      (hin : c'.srtpIncoming = none) (hstate : c'.state ≠ .connected) (hrunning : c'.stopped = false) :
      MediaKeys C c' [] := .without hready hout hin hstate hrunning
  have hsame : MediaKeys C c [] := hfresh c hready hout hin (by simp [hstate]) hrunning
  unfold start
  split
  · exact hsame
  split
  · exact hsame
  split
  · exact hsame
  split
  · exact hfresh _ hready hout hin (by simp [transitionTo]) hrunning
  dsimp only
  split
  · exact hfresh _ hready hout hin (by simp [transitionTo]) hrunning
  split
  · exact hfresh _ hready hout hin (by simp [transitionTo]) hrunning
  · exact hfresh _ hready hout hin (by simp [transitionTo]) hrunning

end TgcallsConnection

/-! ### Runs -/

namespace IceConnection

open TgcallsConnection

variable {C : Crypto} {c : IceConnection}

theorem keepsKeys_step {i : Input} (h : ¬ (LifeEvent.input i).IsDatagram) :
    KeepsKeys c.toTgcallsConnection (c.step C i).toTgcallsConnection := by
  cases i with
  | initialSetup msg draws =>
    rw [step, onPeerInitialSetup, startIcePhase_base]
    simp only [TgcallsConnection.onPeerInitialSetup]
    split_ifs <;> exact ⟨rfl, rfl, rfl, rfl, rfl, .inl rfl, fun hstate hdtls => ⟨hstate, hdtls⟩⟩
  | candidates lines draws =>
    rw [step, onPeerCandidates, startIcePhase_base]
    exact .refl _
  | retryTimer ids =>
    simp only [step, onIceRetryTimer]
    split_ifs with hover
    · exact .refl _
    · rw [not_or, not_le] at hover
      refine ⟨rfl, rfl, rfl, rfl, rfl, .inr (.inl rfl), fun hstate _ => absurd hover.2 ?_⟩
      rw [hstate]
      decide
    · rw [sendIceBindingRequests_base]
      exact .refl _
  | datagram => exact absurd trivial h

/-- **What an input does** to the connection is what a datagram may do. -/
theorem handles_step (i : Input) : Handles C c.toTgcallsConnection (c.step C i).toTgcallsConnection := by
  cases i with
  | initialSetup | candidates | retryTimer => exact .keeps (keepsKeys_step id)
  | datagram srcIp srcPort payload draws audio =>
    simp only [step, onReflectorDatagramFrom, onReflectorDatagram]
    split_ifs
    · exact .keeps (.refl _)
    split
    · exact .keeps (.refl _)
    split
    · exact .keeps (.refl _)
    split_ifs
    · unfold onStunDatagram
      cases c.iceAgent with
      | none => exact .keeps (.refl _)
      | some agent => exact handles_onReflectorDatagram _
    · exact handles_onReflectorDatagram _

/-- **An event** keeps what is said of the keys. -/
theorem mediaKeys_life {installed : List DtlsClientSession} (h : MediaKeys C c.toTgcallsConnection installed)
    (ev : LifeEvent) :
    MediaKeys C (c.life C ev).toTgcallsConnection (installed ++ (c.installs C ev).toList) := by
  cases ev with
  | input i => exact mediaKeys_handles h (handles_step i)
  | capture turn =>
    obtain ⟨hkeys, hready⟩ := mediaKeys_captureTurn h turn
    rw [installs, if_neg (by rw [life, hready]; simp), Option.toList_none, List.append_nil]
    exact hkeys
  | stop =>
    have hready : ¬ (c.srtpReady = false ∧ (c.life C .stop).srtpReady = true) := by
      rw [life, stopWithAgent]
      split_ifs with hstopped
      · simp
      · simp [TgcallsConnection.stop, hstopped]
    have hbase : (c.life C .stop).toTgcallsConnection = c.toTgcallsConnection.stop := by
      rw [life, stopWithAgent]
      split_ifs with hstopped
      · rw [TgcallsConnection.stop, if_pos hstopped]
      · rfl
    rw [installs, if_neg hready, Option.toList_none, List.append_nil, hbase]
    exact mediaKeys_stop h

/-- A connection becomes connected by the event that installs its keys. -/
theorem installs_of_connected (ev : LifeEvent) (hbefore : c.state ≠ .connected)
    (hafter : (c.life C ev).state = .connected) : (c.installs C ev).isSome = true := by
  cases ev with
  | input i =>
    cases handles_step (C := C) (c := c) i with
    | keeps hkeeps =>
      have hstate : (c.step C i).state = .connected := hafter
      rcases hkeeps.onward with hsame | hfailed | ⟨-, hhandshaking⟩
      · exact absurd (hsame.symm.trans hstate) hbefore
      · exact absurd (hfailed.symm.trans hstate) (by decide)
      · exact absurd (hhandshaking.symm.trans hstate) (by decide)
    | latches params ssrc hin heq =>
      have hstate : (c.step C i).toTgcallsConnection.state = .connected := hafter
      rw [heq] at hstate
      exact absurd hstate hbefore
    | installs dtls audio hsession hready hestablished hlength heq =>
      have hfields : (c.step C i).toTgcallsConnection.srtpReady = true ∧
          (c.step C i).toTgcallsConnection.dtls = some dtls := by
        rw [heq]
        unfold startAudioPhase
        cases audio.opened <;> cases audio.codecInit <;> exact ⟨rfl, rfl⟩
      rw [IceConnection.installs, if_pos ⟨hready, hfields.1⟩]
      exact Option.isSome_iff_exists.2 ⟨dtls, hfields.2⟩
  | capture turn =>
    have hstate : (c.toTgcallsConnection.captureTurn C.srtp turn).1.state = .connected := hafter
    rcases captureTurn_cases C.srtp c.toTgcallsConnection turn with hsame | ⟨params, -, -, hmoved⟩
    · rw [hsame] at hstate
      exact absurd hstate hbefore
    · rw [hmoved] at hstate
      exact absurd hstate hbefore
  | stop =>
    rw [life, stopWithAgent] at hafter
    split_ifs at hafter with hstopped
    · exact absurd hafter hbefore
    · simp [TgcallsConnection.stop, hstopped] at hafter

theorem isDatagram_of_installs {ev : LifeEvent} (h : (c.installs C ev).isSome = true) : ev.IsDatagram := by
  obtain ⟨hbefore, hafter⟩ : c.srtpReady = false ∧ (c.life C ev).srtpReady = true := by
    by_contra hnot
    rw [installs, if_neg hnot] at h
    cases h
  cases ev with
  | input i =>
    by_contra hnot
    have hkept : (c.step C i).srtpReady = c.srtpReady := (keepsKeys_step hnot).ready
    exact absurd (hbefore.symm.trans (hkept.symm.trans hafter)) Bool.false_ne_true
  | capture turn =>
    have hkept : (c.toTgcallsConnection.captureTurn C.srtp turn).1.srtpReady = c.srtpReady := by
      rcases captureTurn_cases C.srtp c.toTgcallsConnection turn with hsame | ⟨params, -, -, hmoved⟩
      · rw [hsame]
      · rw [hmoved]
    exact absurd (hbefore.symm.trans (hkept.symm.trans hafter)) Bool.false_ne_true
  | stop =>
    rw [life, stopWithAgent] at hafter
    split_ifs at hafter with hstopped
    · exact absurd (hbefore.symm.trans hafter) Bool.false_ne_true
    · simp [TgcallsConnection.stop, hstopped] at hafter

/-! ### The retry timer -/

/-- The requests with which a call opens the phase. -/
def firstRound (c : IceConnection) (after : IceConnection × Effects) : Option (List Bytes) :=
  if c.iceStarted = false ∧ after.1.iceStarted = true then some after.2.sent else none

variable (C) in
/-- The round of `StartIcePhase`, which a message of the peer may bring about. -/
def phaseOpens (c : IceConnection) : LifeEvent → Option (List Bytes)
  | .input (.initialSetup msg draws) => c.firstRound (c.onPeerInitialSetup C msg draws)
  | .input (.candidates lines draws) => c.firstRound (c.onPeerCandidates C lines draws)
  | _ => none

variable (C) in
/-- What the timer does where it fires: the requests that it sends, if it looks for a path. -/
def timerFires (c : IceConnection) : LifeEvent → Option (Option (List Bytes))
  | .input (.retryTimer ids) =>
    some (if (c.onIceRetryTimer C ids).1.iceAttempts = c.iceAttempts then none else some (c.onIceRetryTimer C ids).2.sent)
  | _ => none

/-- The timer is armed once the phase has started. -/
def Armed (c : IceConnection) : LifeEvent → Prop
  | .input (.retryTimer _) => c.iceStarted = true
  | _ => True

instance : ∀ (c : IceConnection) (ev : LifeEvent), Decidable (c.Armed ev)
  | c, .input (.retryTimer _) => inferInstanceAs (Decidable (c.iceStarted = true))
  | _, .input (.initialSetup _ _) | _, .input (.candidates _ _) | _, .input (.datagram _ _ _ _ _)
  | _, .capture _ | _, .stop => inferInstanceAs (Decidable True)

/-- **The budget of the timer**, by what it has done so far: while no path is found, every time it fired it has counted. -/
structure Budget (c : IceConnection) (fired : List (Option (List Bytes))) : Prop where
  rounds : fired.reduceOption.length ≤ kMaxIceAttempts
  undecided : c.state.toNat < State.dtlsHandshaking.toNat →
    c.stopped = false ∧ fired.reduceOption.length = fired.length ∧
      (c.iceStarted = true → c.iceAttempts = fired.length) ∧ (c.iceStarted = false → fired = [])

/-- What an event other than the timer does to the counter. -/
structure KeepsCount (c c' : IceConnection) : Prop where
  onward : c'.state = c.state ∧ c'.stopped = c.stopped ∨ State.dtlsHandshaking.toNat ≤ c'.state.toNat
  count : c'.iceStarted = c.iceStarted ∧ c'.iceAttempts = c.iceAttempts ∨
    c.iceStarted = false ∧ c'.iceStarted = true ∧ c'.iceAttempts = 0

theorem budget_of_keepsCount {c' : IceConnection} {fired : List (Option (List Bytes))} (h : Budget c fired)
    (hkeeps : KeepsCount c c') : Budget c' fired := by
  refine ⟨h.rounds, fun hearly => ?_⟩
  rcases hkeeps.onward with ⟨hstate, hstopped⟩ | hlate
  · rw [hstate] at hearly
    obtain ⟨hrunning, hcounted, hcount, hnone⟩ := h.undecided hearly
    refine ⟨hstopped.trans hrunning, hcounted, ?_⟩
    rcases hkeeps.count with ⟨hstarted, hattempts⟩ | ⟨hbefore, hstarted, hattempts⟩
    · rw [hstarted, hattempts]
      exact ⟨hcount, hnone⟩
    · rw [hnone hbefore]
      exact ⟨fun _ => hattempts, fun hnot => absurd (hstarted.symm.trans hnot) (by simp)⟩
  · omega

theorem onward_of_handles {c c' : TgcallsConnection} (h : Handles C c c') :
    c'.state = c.state ∧ c'.stopped = c.stopped ∨ State.dtlsHandshaking.toNat ≤ c'.state.toNat := by
  cases h with
  | keeps hkeeps =>
    rcases hkeeps.onward with hsame | hfailed | ⟨-, hhandshaking⟩
    · exact .inl ⟨hsame, hkeeps.stopped⟩
    · exact .inr (by rw [hfailed]; decide)
    · exact .inr (by rw [hhandshaking])
  | latches params ssrc hin heq =>
    rw [heq]
    exact .inl ⟨rfl, rfl⟩
  | installs dtls audio hsession hready hestablished hlength heq =>
    have hstate : c'.state = .connected ∨ c'.state = .failed := by
      rw [heq]
      unfold startAudioPhase
      cases audio.opened <;> cases audio.codecInit <;> simp [transitionTo]
    rcases hstate with hstate | hstate <;> exact .inr (by rw [hstate]; decide)

theorem count_startIcePhase (draws : IceDraws) :
    (c.startIcePhase C draws).1.iceStarted = c.iceStarted ∧ (c.startIcePhase C draws).1.iceAttempts = c.iceAttempts ∨
      c.iceStarted = false ∧ (c.startIcePhase C draws).1.iceStarted = true ∧
        (c.startIcePhase C draws).1.iceAttempts = 0 := by
  simp only [startIcePhase]
  split_ifs with hready hnone hstarted
  · exact .inl ⟨rfl, rfl⟩
  · exact .inl ⟨rfl, rfl⟩
  · exact .inl ⟨rfl, rfl⟩
  · exact .inr ⟨Bool.eq_false_iff.2 hstarted, rfl, rfl⟩

theorem keepsCount_life {ev : LifeEvent} (h : timerFires C c ev = none) : KeepsCount c (c.life C ev) := by
  cases ev with
  | input i =>
    refine ⟨onward_of_handles (handles_step i), ?_⟩
    cases i with
    | initialSetup msg draws => exact count_startIcePhase draws
    | candidates lines draws => exact count_startIcePhase draws
    | retryTimer ids => cases h
    | datagram srcIp srcPort payload draws audio =>
      left
      simp only [life, step, onReflectorDatagramFrom, onReflectorDatagram]
      split_ifs
      · exact ⟨rfl, rfl⟩
      split
      · exact ⟨rfl, rfl⟩
      split
      · exact ⟨rfl, rfl⟩
      split_ifs
      · unfold onStunDatagram
        cases c.iceAgent <;> exact ⟨rfl, rfl⟩
      · exact ⟨rfl, rfl⟩
  | capture turn =>
    refine ⟨.inl ?_, .inl ⟨rfl, rfl⟩⟩
    rcases captureTurn_cases C.srtp c.toTgcallsConnection turn with hsame | ⟨params, -, -, hmoved⟩
    · simp only [life, hsame, and_self]
    · simp only [life, hmoved, and_self]
  | stop =>
    simp only [life, stopWithAgent]
    split_ifs with hstopped
    · exact ⟨.inl ⟨rfl, rfl⟩, .inl ⟨rfl, rfl⟩⟩
    · refine ⟨.inr ?_, .inl ⟨rfl, rfl⟩⟩
      simp [TgcallsConnection.stop, hstopped, State.toNat]

theorem iceStarted_onIceRetryTimer (c : IceConnection) (ids : ℕ → Vector UInt8 12) :
    (c.onIceRetryTimer C ids).1.iceStarted = c.iceStarted := by
  unfold onIceRetryTimer sendIceBindingRequests
  split_ifs
  · rfl
  · rfl
  · cases c.iceAgent <;> rfl

/-- The phase is never taken back. -/
theorem iceStarted_life (ev : LifeEvent) (h : c.iceStarted = true) : (c.life C ev).iceStarted = true := by
  cases hfires : timerFires C c ev with
  | none =>
    rcases (keepsCount_life hfires).count with ⟨hsame, -⟩ | ⟨hnot, -⟩
    · exact hsame.trans h
    · exact absurd (h.symm.trans hnot) (by simp)
  | some round =>
    cases ev with
    | input i =>
      cases i with
      | retryTimer ids => exact (iceStarted_onIceRetryTimer c ids).trans h
      | _ => cases hfires
    | _ => cases hfires

theorem iceStarted_of_firstRound {after : IceConnection × Effects} {round : List Bytes}
    (h : c.firstRound after = some round) : c.iceStarted = false ∧ after.1.iceStarted = true := by
  by_contra hnot
  rw [firstRound, if_neg hnot] at h
  cases h

theorem iceStarted_of_phaseOpens {ev : LifeEvent} {round : List Bytes} (h : c.phaseOpens C ev = some round) :
    c.iceStarted = false ∧ (c.life C ev).iceStarted = true := by
  cases ev with
  | input i =>
    cases i with
    | initialSetup msg draws => exact iceStarted_of_firstRound h
    | candidates lines draws => exact iceStarted_of_firstRound h
    | retryTimer ids => cases h
    | datagram srcIp srcPort payload draws audio => cases h
  | capture turn => cases h
  | stop => cases h

/-- The rounds of `StartIcePhase` so far: one where the phase has started, and none before. -/
structure OpenedOnce (c : IceConnection) (opened : List (List Bytes)) : Prop where
  once : opened.length ≤ 1
  none_before : c.iceStarted = false → opened = []

theorem openedOnce_life {opened : List (List Bytes)} (h : OpenedOnce c opened) (ev : LifeEvent) :
    OpenedOnce (c.life C ev) (opened ++ (c.phaseOpens C ev).toList) := by
  cases hopens : c.phaseOpens C ev with
  | none =>
    rw [Option.toList_none, List.append_nil]
    refine ⟨h.once, fun hnot => h.none_before ?_⟩
    by_contra hstarted
    have hkept : (c.life C ev).iceStarted = true := iceStarted_life ev (Bool.eq_true_of_not_eq_false hstarted)
    exact absurd (hkept.symm.trans hnot) (by simp)
  | some round =>
    obtain ⟨hbefore, hafter⟩ := iceStarted_of_phaseOpens hopens
    rw [h.none_before hbefore, List.nil_append, Option.toList_some]
    exact ⟨le_refl 1, fun hnot => absurd (hafter.symm.trans hnot) (by simp)⟩

/-- **The timer** counts, gives up, or does nothing any more. -/
theorem budget_retryTimer {fired : List (Option (List Bytes))} (h : Budget c fired) (hstarted : c.iceStarted = true)
    (ids : ℕ → Vector UInt8 12) :
    Budget (c.step C (.retryTimer ids)) (fired ++ (timerFires C c (.input (.retryTimer ids))).toList) := by
  rw [timerFires, Option.toList_some]
  by_cases hearly : c.state.toNat < State.dtlsHandshaking.toNat
  · obtain ⟨hrunning, hcounted, hcount, -⟩ := h.undecided hearly
    have hnot : ¬ (c.stopped = true ∨ State.dtlsHandshaking.toNat ≤ c.state.toNat) := by
      rw [hrunning]
      simp [not_le.2 hearly]
    by_cases hover : kMaxIceAttempts ≤ c.iceAttempts
    · -- the last time: nothing is sent, and the search has failed
      have hgiven : c.onIceRetryTimer C ids =
          ({ c with toTgcallsConnection := c.toTgcallsConnection.transitionTo .failed }, {}) := by
        rw [onIceRetryTimer, if_neg hnot, if_pos hover]
      rw [step, hgiven, if_pos rfl]
      refine ⟨?_, fun hstill => absurd hstill (by simp [transitionTo, State.toNat])⟩
      rw [List.reduceOption_append, List.reduceOption_singleton]
      simpa using h.rounds
    · have hnext : (c.onIceRetryTimer C ids).1 =
          { (c.sendIceBindingRequests C ids).1 with
            iceAttempts := (c.sendIceBindingRequests C ids).1.iceAttempts + 1 } := by
        rw [onIceRetryTimer, if_neg hnot, if_neg hover]
      have hsame : (c.sendIceBindingRequests C ids).1.iceAttempts = c.iceAttempts := by
        unfold sendIceBindingRequests
        cases c.iceAgent <;> rfl
      have hattempts : (c.onIceRetryTimer C ids).1.iceAttempts = c.iceAttempts + 1 := by
        rw [hnext]
        exact congrArg (· + 1) hsame
      have hlast : (c.onIceRetryTimer C ids).1.iceStarted = true := (iceStarted_onIceRetryTimer c ids).trans hstarted
      have hbase : (c.onIceRetryTimer C ids).1.stopped = c.stopped := by
        rw [hnext]
        exact congrArg TgcallsConnection.stopped (sendIceBindingRequests_base c ids)
      have hlength := hcount hstarted
      rw [step, if_neg (by rw [hattempts]; omega)]
      refine ⟨?_, fun _ => ⟨hbase.trans hrunning, ?_, fun _ => ?_, fun hno => ?_⟩⟩
      · rw [List.reduceOption_append, List.reduceOption_singleton, List.length_append, hcounted, ← hlength,
          Option.toList_some, List.length_singleton]
        omega
      · rw [List.reduceOption_append, List.reduceOption_singleton, List.length_append, hcounted, List.length_append]
        rfl
      · rw [hattempts, hlength, List.length_append]
        rfl
      · exact absurd (hlast.symm.trans hno) (by simp)
  · have hdone : c.onIceRetryTimer C ids = (c, {}) := by
      rw [onIceRetryTimer, if_pos (.inr (not_lt.1 hearly))]
    rw [step, hdone, if_pos rfl]
    refine ⟨?_, fun hstill => absurd hstill hearly⟩
    rw [List.reduceOption_append, List.reduceOption_singleton]
    simpa using h.rounds

theorem budget_life {fired : List (Option (List Bytes))} (h : Budget c fired) {ev : LifeEvent} (harmed : c.Armed ev) :
    Budget (c.life C ev) (fired ++ (timerFires C c ev).toList) := by
  cases hfires : timerFires C c ev with
  | none =>
    rw [Option.toList_none, List.append_nil]
    exact budget_of_keepsCount h (keepsCount_life hfires)
  | some round =>
    cases ev with
    | input i =>
      cases i with
      | retryTimer ids =>
        rw [← hfires]
        exact budget_retryTimer h harmed ids
      | _ => cases hfires
    | _ => cases hfires

/-- A connection behind `Start`. -/
def begun (P : Cert.Platform) (isOutgoing : Bool) (sharedKey : Bytes) (reflectors : List ReflectorEndpoint)
    (hasSignalingOut : Bool) (input : StartInput) : IceConnection :=
  ofConnection ((construct isOutgoing sharedKey reflectors hasSignalingOut).start P input).1

end IceConnection

open IceConnection

/-- The peer's setup and its candidates, and then nothing but the timer. -/
def sampleLife : List LifeEvent :=
  lateInputs.map .input ++ List.replicate 21 (.input (.retryTimer fun _ => Vector.replicate 12 1)) ++ [.stop]

theorem armed_sampleLife :
    Guarded (life TgcallsConnection.sampleLibraries) Armed
      (begun TgcallsConnection.sampleLibraries.dtls.toPlatform true TgcallsConnection.sampleCall.sharedKey
        TgcallsConnection.sampleCall.reflectors true TgcallsConnection.sampleStart) sampleLife := by
  decide +kernel

end VianiumVoip.Tgcalls
