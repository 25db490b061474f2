import VianiumVoip.Dtls.Deliveries

/-!
# Who is at the other end: what Established says about the server

A client that becomes `Established` is meant to have accepted, in this order, a ServerHello, a Certificate with
the pinned fingerprint, a ServerKeyExchange, a ServerHelloDone from which it derived its keys, and a
ChangeCipherSpec, and to have decrypted the server's Finished with these keys.  The handlers do not look at
`m_state` when a message arrives, so this holds only of runs in which the messages arrive in the states they
belong to (`InOrder`, `established_only_authenticated`); a forged plaintext Finished is enough otherwise
(`plaintext_finished_establishes`).

The proof follows one delivery at a time: `handleHandshakeMessage_cases` says what a handshake message can do
to the parts of the session that trust rests on, and `Trust` is the invariant that ties these parts to what
the client has accepted so far.
-/

namespace VianiumVoip.Dtls

open VianiumVoip.Lib VianiumVoip.Lib.Run VianiumVoip.Cert
open scoped List

/-- What a client accepts on its way to `Established`. -/
inductive Event
  | serverHello
  | certificate (leaf : Bytes)
  | serverKeyExchange (publicPoint : Bytes)
  /-- ServerHelloDone was answered, with this cipher for the server's direction. -/
  | keysDerived (serverCipher : AesGcm)
  | changeCipherSpec
  | finished (origin : Origin)
  deriving DecidableEq

namespace DtlsClientSession

variable (C : Crypto)

/-- What the client accepts when `d` is delivered: nothing if that fails the session. -/
def observe (s : DtlsClientSession) (d : Delivery) : Option Event :=
  let s' := s.deliver C d
  if s'.state = .failed then none
  else
    match d with
    | .changeCipherSpec => some .changeCipherSpec
    | .handshake origin msgType _ =>
      if msgType = kHsServerHello then some .serverHello
      else if msgType = kHsCertificate then some (.certificate s'.serverCertDer)
      else if msgType = kHsServerKeyExchange then some (.serverKeyExchange s'.serverPublicPoint)
      else if msgType = kHsServerHelloDone then s'.serverCipher.map .keysDerived
      else if msgType = kHsFinished then some (.finished origin)
      else none
    | .failure _ => none

/-- What the client accepts over a list of deliveries. -/
abbrev accepted (s : DtlsClientSession) (ds : List Delivery) : List Event := history (deliver C) (observe C) s ds

/-- **Authentication, along a run.**  Whenever a delivery makes the session `Established`, the client has before it
accepted the whole chain, in order, and the delivery is a Finished from a record of epoch at least 1 that was
decrypted with the keys of the chain. -/
def EstablishesOnlyAuthenticated (pin : Bytes) (s : DtlsClientSession) (ds : List Delivery) : Prop :=
  ∀ before d after, ds = before ++ d :: after →
    (run (deliver C) s before).state ≠ .established →
    (run (deliver C) s (before ++ [d])).state = .established →
    ∃ leaf point cipher epoch, C.sha256 leaf = pin ∧ 1 ≤ epoch.toNat ∧
      [.serverHello, .certificate leaf, .serverKeyExchange point, .keysDerived cipher, .changeCipherSpec]
        <+ accepted C s before ∧
      observe C (run (deliver C) s before) d = some (.finished (.encrypted epoch cipher))

/-- The states in which a ServerHello has been accepted, and a Certificate may follow. -/
def certificateStates : List DtlsState := [.gotServerHello, .gotServerCertificate, .gotServerKeyExchange, .sentFinished]

/-- The states in which a Certificate has been accepted, and a ServerKeyExchange may follow. -/
def keyExchangeStates : List DtlsState := [.gotServerCertificate, .gotServerKeyExchange, .sentFinished]

/-- The messages of the chain arrive where they belong: a Certificate after a ServerHello, a ServerKeyExchange
after a Certificate, and the Finished that is to establish the session encrypted, after the ChangeCipherSpec. -/
def InOrder (s : DtlsClientSession) : Delivery → Prop
  | .handshake origin msgType _ =>
    s.state ≠ .failed →
      (msgType = kHsCertificate → s.state ∈ certificateStates) ∧
      (msgType = kHsServerKeyExchange → s.state ∈ keyExchangeStates) ∧
      (msgType = kHsFinished → s.state = .established ∨ s.state = .gotChangeCipherSpec ∧ origin ≠ .plaintext)
  | _ => True

/-! ### What one handshake message can do -/

/-- The parts that trust rests on are the same in both sessions. -/
def SameTrust (s s' : DtlsClientSession) : Prop :=
  s'.serverPublicPoint = s.serverPublicPoint ∧ s'.serverCipher = s.serverCipher ∧
    s'.expectedPeerFingerprint = s.expectedPeerFingerprint

variable {C} (s : DtlsClientSession) (body : Bytes)

theorem handleHelloVerifyRequest_cases : (s.handleHelloVerifyRequest body).1.state = .failed ∨
    ((s.handleHelloVerifyRequest body).1.state = .sentClientHelloWithCookie ∧
      SameTrust s (s.handleHelloVerifyRequest body).1) := by
  unfold handleHelloVerifyRequest
  split
  · exact .inl rfl
  · exact .inr ⟨rfl, rfl, rfl, rfl⟩

theorem handleServerHello_cases : (s.handleServerHello body).state = .failed ∨
    ((s.handleServerHello body).state = .gotServerHello ∧ SameTrust s (s.handleServerHello body)) := by
  unfold handleServerHello
  split
  · exact .inl rfl
  · split_ifs
    · exact .inl rfl
    · exact .inr ⟨rfl, rfl, rfl, rfl⟩

theorem handleCertificate_cases : (s.handleCertificate C body).state = .failed ∨
    ((s.handleCertificate C body).state = .gotServerCertificate ∧ SameTrust s (s.handleCertificate C body) ∧
      C.sha256 (s.handleCertificate C body).serverCertDer = s.expectedPeerFingerprint) := by
  unfold handleCertificate
  split
  · exact .inl rfl
  · split
    · exact .inl rfl
    · simp only
      split_ifs with hpin
      · exact .inl rfl
      · exact .inr ⟨rfl, ⟨rfl, rfl, rfl⟩, not_not.1 hpin⟩

theorem handleServerKeyExchange_cases : (s.handleServerKeyExchange body).state = .failed ∨
    ((s.handleServerKeyExchange body).state = .gotServerKeyExchange ∧
      (s.handleServerKeyExchange body).serverCipher = s.serverCipher ∧
      (s.handleServerKeyExchange body).expectedPeerFingerprint = s.expectedPeerFingerprint) := by
  unfold handleServerKeyExchange
  split
  · exact .inl rfl
  · split_ifs
    · exact .inl rfl
    · exact .inl rfl
    · exact .inr ⟨rfl, rfl, rfl⟩

theorem handleFinished_cases : (s.handleFinished C body).state = .failed ∨
    ((s.handleFinished C body).state = .established ∧ SameTrust s (s.handleFinished C body)) := by
  unfold handleFinished
  simp only
  split_ifs
  · exact .inl rfl
  · exact .inr ⟨rfl, rfl, rfl, rfl⟩

theorem deriveKeysAndCipher_cases : (s.deriveKeysAndCipher C).state = .failed ∨
    (s.serverPublicPoint.length = 65 ∧ (s.deriveKeysAndCipher C).serverCipher.isSome ∧
      (s.deriveKeysAndCipher C).serverPublicPoint = s.serverPublicPoint ∧
      (s.deriveKeysAndCipher C).expectedPeerFingerprint = s.expectedPeerFingerprint) := by
  unfold deriveKeysAndCipher
  split_ifs with hpoint hpriv
  · exact .inl rfl
  · exact .inl rfl
  · split
    · exact .inl rfl
    · simp only
      split_ifs
      · exact .inl rfl
      · exact .inr ⟨not_not.1 hpoint, rfl, rfl, rfl⟩

theorem buildClientFinishedFlight_cases :
    ((s.buildClientFinishedFlight C).1.state = .failed ∨ (s.buildClientFinishedFlight C).1.state = .sentFinished) ∧
      SameTrust s (s.buildClientFinishedFlight C).1 := by
  unfold buildClientFinishedFlight
  simp only
  split
  · exact ⟨.inl rfl, rfl, rfl, rfl⟩
  · exact ⟨.inr rfl, rfl, rfl, rfl⟩

theorem sendClientFlight_sameTrust : SameTrust s (s.sendClientFlight C body).1 := ⟨rfl, rfl, rfl⟩

theorem handleServerHelloDone_cases : (s.handleServerHelloDone C body).1.state = .failed ∨
    ((s.handleServerHelloDone C body).1.state = .sentFinished ∧ s.serverPublicPoint.length = 65 ∧
      (s.handleServerHelloDone C body).1.serverCipher.isSome ∧
      (s.handleServerHelloDone C body).1.serverPublicPoint = s.serverPublicPoint ∧
      (s.handleServerHelloDone C body).1.expectedPeerFingerprint = s.expectedPeerFingerprint) := by
  obtain ⟨hpoint, -, hpin⟩ := sendClientFlight_sameTrust (C := C) s body
  unfold handleServerHelloDone
  simp only
  rcases deriveKeysAndCipher_cases (C := C) (s.sendClientFlight C body).1 with hfail | ⟨hlen, hcipher, hsame, hfp⟩
  · rw [if_pos hfail]
    exact .inl hfail
  · split_ifs with hfail
    · exact .inl hfail
    · obtain ⟨hstate, h1, h2, h3⟩ :=
        buildClientFinishedFlight_cases (C := C) ((s.sendClientFlight C body).1.deriveKeysAndCipher C)
      refine hstate.imp_right fun hstate => ⟨hstate, ?_, ?_, ?_, ?_⟩
      · rwa [hpoint] at hlen
      · rwa [h2]
      · rw [h1, hsame, hpoint]
      · rw [h3, hfp, hpin]

/-- Everything a handshake message can do to the parts that trust rests on. -/
inductive Outcome (C : Crypto) (s s' : DtlsClientSession) (msgType : UInt8) : Prop
  | failed (state : s'.state = .failed)
  | helloVerifyRequest (type : msgType = kHsHelloVerifyRequest) (state : s'.state = .sentClientHelloWithCookie)
      (same : SameTrust s s')
  | serverHello (type : msgType = kHsServerHello) (state : s'.state = .gotServerHello) (same : SameTrust s s')
  | certificate (type : msgType = kHsCertificate) (state : s'.state = .gotServerCertificate)
      (same : SameTrust s s') (pinned : C.sha256 s'.serverCertDer = s.expectedPeerFingerprint)
  | serverKeyExchange (type : msgType = kHsServerKeyExchange) (state : s'.state = .gotServerKeyExchange)
      (cipher : s'.serverCipher = s.serverCipher) (pin : s'.expectedPeerFingerprint = s.expectedPeerFingerprint)
  | serverHelloDone (type : msgType = kHsServerHelloDone) (state : s'.state = .sentFinished)
      (length : s.serverPublicPoint.length = 65) (cipher : s'.serverCipher.isSome)
      (point : s'.serverPublicPoint = s.serverPublicPoint)
      (pin : s'.expectedPeerFingerprint = s.expectedPeerFingerprint)
  | finished (type : msgType = kHsFinished) (state : s'.state = .established) (same : SameTrust s s')
  | other (type : msgType ≠ kHsServerHello ∧ msgType ≠ kHsCertificate ∧ msgType ≠ kHsServerKeyExchange ∧
      msgType ≠ kHsServerHelloDone ∧ msgType ≠ kHsFinished) (state : s'.state = s.state) (same : SameTrust s s')

theorem handshake_outcome (msgType : UInt8) :
    Outcome C s (s.handleHandshakeMessage C msgType body).1 msgType := by
  unfold handleHandshakeMessage
  split_ifs with h1 h2 h3 h4 h5 h6 h7
  · rcases handleHelloVerifyRequest_cases s body with h | ⟨h, hs⟩
    · exact .failed h
    · exact .helloVerifyRequest h1 h hs
  · rcases handleServerHello_cases s body with h | ⟨h, hs⟩
    · exact .failed h
    · exact .serverHello h2 h hs
  · rcases handleCertificate_cases (C := C) s body with h | ⟨h, hs, hp⟩
    · exact .failed h
    · exact .certificate h3 h hs hp
  · rcases handleServerKeyExchange_cases s body with h | ⟨h, hc, hp⟩
    · exact .failed h
    · exact .serverKeyExchange h4 h hc hp
  · exact .other (by rw [h5]; decide) rfl ⟨rfl, rfl, rfl⟩
  · rcases handleServerHelloDone_cases (C := C) s body with h | ⟨h, hl, hc, hp, hf⟩
    · exact .failed h
    · exact .serverHelloDone h6 h hl hc hp hf
  · rcases handleFinished_cases (C := C) s body with h | ⟨h, hs⟩
    · exact .failed h
    · exact .finished h7 h hs
  · exact .other ⟨h2, h3, h4, h6, h7⟩ rfl ⟨rfl, rfl, rfl⟩

/-! ### Encrypted messages -/

variable {s body}

/-- A message of an encrypted record that finds the session after the ChangeCipherSpec was decrypted with the
session's own keys. -/
def OriginSound (s : DtlsClientSession) : Delivery → Prop
  | .handshake (.encrypted epoch cipher) _ _ =>
    epoch ≠ 0 ∧ (s.state = .gotChangeCipherSpec → s.serverCipher = some cipher)
  | _ => True

theorem deliver_handshake_gotChangeCipherSpec {o : Origin} {t : UInt8}
    (h : (s.deliver C (.handshake o t body)).state = .gotChangeCipherSpec) :
    s.state = .gotChangeCipherSpec ∧ (s.deliver C (.handshake o t body)).serverCipher = s.serverCipher := by
  by_cases hlive : s.state = .failed
  · rw [deliver_of_failed hlive] at h ⊢
    exact ⟨h, rfl⟩
  · rw [deliver_handshake hlive] at h ⊢
    cases handshake_outcome (C := C) s body t with
    | other type state same => exact ⟨state ▸ h, same.2.1⟩
    | failed state => simp [state] at h
    | helloVerifyRequest type state => simp [state] at h
    | serverHello type state => simp [state] at h
    | certificate type state => simp [state] at h
    | serverKeyExchange type state => simp [state] at h
    | serverHelloDone type state => simp [state] at h
    | finished type state => simp [state] at h

theorem guarded_failure (reason : String) : Guarded (deliver C) OriginSound s [.failure reason] :=
  ⟨trivial, trivial⟩

theorem messageDeliveries_originSound (o : Origin) (msg : Bytes)
    (h : ∀ epoch cipher, o = .encrypted epoch cipher →
      epoch ≠ 0 ∧ (s.state = .gotChangeCipherSpec → s.serverCipher = some cipher)) :
    Guarded (deliver C) OriginSound s (messageDeliveries o msg) := by
  fun_induction messageDeliveries o msg generalizing s with
  | case1 => exact guarded_failure _
  | case2 => exact guarded_failure _
  | case3 => exact guarded_failure _
  | case4 msg hsize hh hdec hfrag hover ih =>
    refine ⟨?_, ih fun epoch cipher ho => ⟨(h epoch cipher ho).1, fun hccs => ?_⟩⟩
    · cases o with
      | plaintext => trivial
      | encrypted epoch cipher => exact h epoch cipher rfl
    · obtain ⟨hstate, hcipher⟩ := deliver_handshake_gotChangeCipherSpec hccs
      rw [hcipher]
      exact (h epoch cipher ho).2 hstate
  | case5 => exact guarded_nil s

theorem recordDeliveries_originSound (rec : DtlsRecord) :
    Guarded (deliver C) OriginSound s (s.recordDeliveries C rec) := by
  unfold recordDeliveries
  split_ifs with hccs halert hfatal hhs hepoch
  · exact ⟨trivial, trivial⟩
  · exact guarded_failure _
  · exact guarded_nil s
  · exact messageDeliveries_originSound _ _ (by simp)
  · cases hcipher : s.serverCipher with
    | none => exact guarded_failure _
    | some cipher =>
      dsimp only
      split
      · exact guarded_failure _
      · refine messageDeliveries_originSound _ _ fun epoch k ho => ?_
        obtain ⟨rfl, rfl⟩ := Origin.encrypted.inj ho
        exact ⟨hepoch, fun _ => hcipher⟩
  · exact guarded_nil s

theorem datagramDeliveries_originSound (data : Bytes) :
    Guarded (deliver C) OriginSound s (s.datagramDeliveries C data) := by
  fun_induction datagramDeliveries C s data with
  | case1 s => exact guarded_nil s
  | case2 s data hlive rec consumed hdec ih => exact guarded_append.2 ⟨recordDeliveries_originSound rec, ih⟩
  | case3 s => exact guarded_nil s

theorem deliveries_originSound (datagrams : List Bytes) :
    Guarded (deliver C) OriginSound s (s.deliveries C datagrams) := by
  induction datagrams generalizing s with
  | nil => exact guarded_nil s
  | cons data datagrams ih =>
    refine guarded_append.2 ⟨datagramDeliveries_originSound data, ?_⟩
    rw [← processDatagram_eq_run]
    exact ih

/-! ### The invariant -/

/-- What the parts of a live session say about the messages accepted so far, `h`. -/
structure Trust (C : Crypto) (pin : Bytes) (s : DtlsClientSession) (h : List Event) : Prop where
  pinned : s.expectedPeerFingerprint = pin
  hello : s.state ∈ certificateStates → [.serverHello] <+ h
  certificate : s.state ∈ keyExchangeStates →
    ∃ leaf, C.sha256 leaf = pin ∧ [.serverHello, .certificate leaf] <+ h
  point : s.serverPublicPoint.length = 65 →
    ∃ leaf p, C.sha256 leaf = pin ∧ [.serverHello, .certificate leaf, .serverKeyExchange p] <+ h
  keys : ∀ cipher, s.serverCipher = some cipher → ∃ leaf p, C.sha256 leaf = pin ∧
    [.serverHello, .certificate leaf, .serverKeyExchange p, .keysDerived cipher] <+ h
  spec : ∀ cipher, s.serverCipher = some cipher → s.state = .gotChangeCipherSpec → ∃ leaf p, C.sha256 leaf = pin ∧
    [.serverHello, .certificate leaf, .serverKeyExchange p, .keysDerived cipher, .changeCipherSpec] <+ h

variable {pin : Bytes} {h h' : List Event} {s' : DtlsClientSession}

/-- Trust is kept while its parts stay, if the states it speaks of are entered with their chains. -/
theorem Trust.mono (hT : Trust C pin s h) (hle : h <+ h') (same : SameTrust s s')
    (hhello : s'.state ∈ certificateStates → [.serverHello] <+ h')
    (hcert : s'.state ∈ keyExchangeStates →
      ∃ leaf, C.sha256 leaf = pin ∧ [.serverHello, .certificate leaf] <+ h')
    (hspec : s'.state = .gotChangeCipherSpec → s.state = .gotChangeCipherSpec) : Trust C pin s' h' := by
  obtain ⟨hpoint, hcipher, hpin⟩ := same
  refine ⟨hpin.trans hT.pinned, hhello, hcert, fun hlen => ?_, fun cipher hc => ?_, fun cipher hc hst => ?_⟩
  · obtain ⟨leaf, p, hl, hsub⟩ := hT.point (hpoint ▸ hlen)
    exact ⟨leaf, p, hl, hsub.trans hle⟩
  · obtain ⟨leaf, p, hl, hsub⟩ := hT.keys cipher (hcipher ▸ hc)
    exact ⟨leaf, p, hl, hsub.trans hle⟩
  · obtain ⟨leaf, p, hl, hsub⟩ := hT.spec cipher (hcipher ▸ hc) (hspec hst)
    exact ⟨leaf, p, hl, hsub.trans hle⟩

theorem sublist_concat {chain : List Event} (hsub : chain <+ h) (e : Event) : chain ++ [e] <+ h ++ [e] :=
  hsub.append (List.Sublist.refl _)

theorem trust_changeCipherSpec (hT : Trust C pin s h) :
    Trust C pin s.handleChangeCipherSpec (h ++ [.changeCipherSpec]) := by
  have hle : h <+ h ++ [Event.changeCipherSpec] := List.sublist_append_left ..
  refine ⟨hT.pinned, by simp [handleChangeCipherSpec, certificateStates],
    by simp [handleChangeCipherSpec, keyExchangeStates], fun hlen => ?_,
    fun cipher hc => ?_, fun cipher hc _ => ?_⟩
  · obtain ⟨leaf, p, hl, hsub⟩ := hT.point hlen
    exact ⟨leaf, p, hl, hsub.trans hle⟩
  · obtain ⟨leaf, p, hl, hsub⟩ := hT.keys cipher hc
    exact ⟨leaf, p, hl, hsub.trans hle⟩
  · obtain ⟨leaf, p, hl, hsub⟩ := hT.keys cipher hc
    exact ⟨leaf, p, hl, sublist_concat hsub _⟩

/-- **Trust step.**  A delivery that arrives where it belongs keeps trust. -/
theorem trust_step {d : Delivery} (hT : s.state ≠ .failed → Trust C pin s h) (hin : InOrder s d)
    (hlive' : (s.deliver C d).state ≠ .failed) :
    Trust C pin (s.deliver C d) (h ++ (observe C s d).toList) := by
  have hlive : s.state ≠ .failed := fun hf => hlive' (by rwa [deliver_of_failed hf])
  have hT := hT hlive
  cases d with
  | changeCipherSpec =>
    have hdel : s.deliver C .changeCipherSpec = s.handleChangeCipherSpec := if_neg hlive
    have hobs : observe C s .changeCipherSpec = some .changeCipherSpec := by
      simp only [observe]
      rw [if_neg hlive']
    rw [hdel, hobs]
    exact trust_changeCipherSpec hT
  | failure reason => exact absurd (by rw [deliver_failure hlive]; rfl) hlive'
  | handshake o t body =>
    obtain ⟨hinCert, hinKex, -⟩ := hin hlive
    have hobs : observe C s (.handshake o t body) =
        if t = kHsServerHello then some .serverHello
        else if t = kHsCertificate then some (.certificate (s.handleHandshakeMessage C t body).1.serverCertDer)
        else if t = kHsServerKeyExchange then
          some (.serverKeyExchange (s.handleHandshakeMessage C t body).1.serverPublicPoint)
        else if t = kHsServerHelloDone then
          (s.handleHandshakeMessage C t body).1.serverCipher.map .keysDerived
        else if t = kHsFinished then some (.finished o)
        else none := by
      simp only [observe]
      rw [if_neg hlive', deliver_handshake hlive]
    rw [deliver_handshake hlive] at hlive' ⊢
    rw [hobs]
    have hle (e : List Event) : h <+ h ++ e := List.sublist_append_left h e
    cases handshake_outcome (C := C) s body t with
    | failed state => exact absurd state hlive'
    | helloVerifyRequest type state same =>
      exact hT.mono (hle _) same (by simp [state, certificateStates]) (by simp [state, keyExchangeStates])
        (by simp [state])
    | finished type state same =>
      exact hT.mono (hle _) same (by simp [state, certificateStates]) (by simp [state, keyExchangeStates])
        (by simp [state])
    | other type state same =>
      refine hT.mono (hle _) same (fun hst => (hT.hello (state ▸ hst)).trans (hle _)) (fun hst => ?_)
        (fun hst => state ▸ hst)
      obtain ⟨leaf, hl, hsub⟩ := hT.certificate (state ▸ hst)
      exact ⟨leaf, hl, hsub.trans (hle _)⟩
    | serverHello type state same =>
      rw [if_pos type]
      exact hT.mono (hle _) same (fun _ => List.sublist_append_right _ _) (by simp [state, keyExchangeStates])
        (by simp [state])
    | certificate type state same pinned =>
      rw [if_neg (by rw [type]; decide), if_pos type]
      have hsh := hT.hello (hinCert type)
      exact hT.mono (hle _) same (fun _ => hsh.trans (hle _))
        (fun _ => ⟨_, pinned.trans hT.pinned, sublist_concat hsh _⟩) (by simp [state])
    | serverKeyExchange type state cipher pin =>
      rw [if_neg (by rw [type]; decide), if_neg (by rw [type]; decide), if_pos type]
      obtain ⟨leaf, hl, hsub⟩ := hT.certificate (hinKex type)
      refine ⟨pin.trans hT.pinned, fun _ => ((List.sublist_append_left _ [_]).trans hsub).trans (hle _),
        fun _ => ⟨leaf, hl, hsub.trans (hle _)⟩, fun _ => ⟨leaf, _, hl, sublist_concat hsub _⟩,
        fun k hk => ?_, by simp [state]⟩
      obtain ⟨leaf, p, hl, hsub⟩ := hT.keys k (cipher ▸ hk)
      exact ⟨leaf, p, hl, hsub.trans (hle _)⟩
    | serverHelloDone type state length cipher point pin =>
      rw [if_neg (by rw [type]; decide), if_neg (by rw [type]; decide), if_neg (by rw [type]; decide),
        if_pos type]
      obtain ⟨leaf, p, hl, hsub⟩ := hT.point length
      have hcert : [Event.serverHello, .certificate leaf] <+ h := (List.sublist_append_left _ [_]).trans hsub
      have hsh : [Event.serverHello] <+ h := (List.sublist_append_left _ [_]).trans hcert
      refine ⟨pin.trans hT.pinned, fun _ => hsh.trans (hle _), fun _ => ⟨leaf, hl, hcert.trans (hle _)⟩,
        fun _ => ⟨leaf, p, hl, hsub.trans (hle _)⟩, fun k hk => ⟨leaf, p, hl, ?_⟩, by simp [state]⟩
      rw [hk]
      exact sublist_concat hsub _

theorem finished_of_becomes_established {d : Delivery} (h0 : s.state ≠ .established)
    (h1 : (s.deliver C d).state = .established) :
    ∃ o body, d = .handshake o kHsFinished body ∧ observe C s d = some (.finished o) := by
  by_cases hlive : s.state = .failed
  · rw [deliver_of_failed hlive] at h1
    exact absurd h1 h0
  cases d with
  | changeCipherSpec =>
    have hdel : s.deliver C .changeCipherSpec = s.handleChangeCipherSpec := if_neg hlive
    simp [hdel, handleChangeCipherSpec] at h1
  | failure reason => simp [deliver_failure hlive] at h1
  | handshake o t body =>
    have h1' := h1
    rw [deliver_handshake hlive] at h1'
    cases handshake_outcome (C := C) s body t with
    | failed state => simp [state] at h1'
    | helloVerifyRequest type state => simp [state] at h1'
    | serverHello type state => simp [state] at h1'
    | certificate type state => simp [state] at h1'
    | serverKeyExchange type state => simp [state] at h1'
    | serverHelloDone type state => simp [state] at h1'
    | other type state => exact absurd (state.symm.trans h1') h0
    | finished type state =>
      subst type
      refine ⟨o, body, rfl, ?_⟩
      simp only [observe]
      rw [if_neg (by rw [h1]; decide)]
      rfl

theorem trust_initiate (ourCert : EcdsaP256KeyPair) (peerFingerprint : List Char) (draws : InitiateDraws) :
    Trust C (parseHexFingerprint peerFingerprint) ((create ourCert peerFingerprint).initiate draws).1 [] where
  pinned := rfl
  hello h := absurd (show DtlsState.sentClientHello ∈ certificateStates from h) (by decide)
  certificate h := absurd (show DtlsState.sentClientHello ∈ keyExchangeStates from h) (by decide)
  point h := by cases h
  keys _ h := by cases h
  spec _ h := by cases h

/-- **Established only through the whole chain**, in every run whose messages arrive in the states they belong
to, over any datagrams. -/
theorem established_only_authenticated (C : Crypto) (ourCert : EcdsaP256KeyPair) (peerFingerprint : List Char)
    (draws : InitiateDraws) (datagrams : List Bytes)
    (hin : Guarded (deliver C) InOrder ((create ourCert peerFingerprint).initiate draws).1
      (deliveries C ((create ourCert peerFingerprint).initiate draws).1 datagrams)) :
    processDatagrams C ((create ourCert peerFingerprint).initiate draws).1 datagrams
        = run (deliver C) ((create ourCert peerFingerprint).initiate draws).1
            (deliveries C ((create ourCert peerFingerprint).initiate draws).1 datagrams) ∧
      EstablishesOnlyAuthenticated C (parseHexFingerprint peerFingerprint)
        ((create ourCert peerFingerprint).initiate draws).1
        (deliveries C ((create ourCert peerFingerprint).initiate draws).1 datagrams) := by
  refine ⟨processDatagrams_eq_run datagrams, ?_⟩
  intro before d after hds h0 h1
  have hsound := deliveries_originSound (C := C) (s := ((create ourCert peerFingerprint).initiate draws).1) datagrams
  rw [hds] at hin hsound
  obtain ⟨hinBefore, hind, -⟩ := guarded_append.1 hin
  obtain ⟨-, hsoundd, -⟩ := guarded_append.1 hsound
  -- trust holds of the session in which `d` arrives
  have hstep (s : DtlsClientSession) (h : List Event) (d : Delivery)
      (hT : s.state ≠ .failed → Trust C (parseHexFingerprint peerFingerprint) s h) (hin : InOrder s d) :
      (s.deliver C d).state ≠ .failed →
        Trust C (parseHexFingerprint peerFingerprint) (s.deliver C d) (h ++ (observe C s d).toList) :=
    trust_step hT hin
  have hT := invariant_history hstep (fun _ => trust_initiate ourCert peerFingerprint draws) hinBefore
  rw [List.nil_append] at hT
  rw [run_concat] at h1
  generalize run (deliver C) ((create ourCert peerFingerprint).initiate draws).1 before = s at *
  have hlive : s.state ≠ .failed := fun hf => h0 (by rwa [deliver_of_failed hf] at h1)
  obtain ⟨o, body, rfl, hobs⟩ := finished_of_becomes_established h0 h1
  obtain ⟨-, -, hfin⟩ := hind hlive
  obtain ⟨hccs, ho⟩ := (hfin rfl).resolve_left h0
  cases o with
  | plaintext => exact absurd rfl ho
  | encrypted epoch cipher =>
    obtain ⟨hepoch, hcipher⟩ := hsoundd
    obtain ⟨leaf, p, hl, hsub⟩ := (hT hlive).spec cipher (hcipher hccs) hccs
    have hpos : epoch.toNat ≠ 0 := fun h => hepoch (UInt16.toNat_inj.1 h)
    exact ⟨leaf, p, cipher, epoch, hl, by omega, hsub, hobs⟩

/-! ### A run in order, and a forgery -/

instance (s : DtlsClientSession) : ∀ d, Decidable (InOrder s d)
  | .changeCipherSpec => inferInstanceAs (Decidable True)
  | .failure _ => inferInstanceAs (Decidable True)
  | .handshake origin msgType _ =>
    inferInstanceAs (Decidable (s.state ≠ .failed →
      (msgType = kHsCertificate → s.state ∈ certificateStates) ∧
      (msgType = kHsServerKeyExchange → s.state ∈ keyExchangeStates) ∧
      (msgType = kHsFinished → s.state = .established ∨ s.state = .gotChangeCipherSpec ∧ origin ≠ .plaintext)))

/-- Initiated with zero randoms, against the fingerprint of 32 zero bytes. -/
def nullSession : DtlsClientSession := ((create {} (List.replicate 64 '0')).initiate nullDraws).1

/-- A plaintext record with one handshake message. -/
def handshakeRecord (seq : UInt64) (msgType : UInt8) (messageSeq : UInt16) (body : Bytes) : Bytes :=
  wrapRecord kDtlsContentHandshake kDtlsVersion12 0 seq (wrapHandshakeUnfragmented msgType messageSeq body)

/-- The server's side of a handshake with the null library: its flight in one datagram, then the
ChangeCipherSpec and the Finished of epoch 1. -/
def nullServerDatagrams : List Bytes :=
  [handshakeRecord 0 kHsServerHello 0
      (storeBE16 kDtlsVersion12 ++ List.replicate 32 7 ++ [0] ++ storeBE16 kCsEcdheEcdsaAes128GcmSha256 ++ [0])
    ++ handshakeRecord 1 kHsCertificate 1 (storeBE24 4 ++ storeBE24 1 ++ [0x30])
    ++ handshakeRecord 2 kHsServerKeyExchange 2
        ([0x03] ++ storeBE16 kNgSecp256r1 ++ [65, 0x04] ++ List.replicate 64 9 ++ [4, 3] ++ storeBE16 0)
    ++ handshakeRecord 3 kHsServerHelloDone 3 [],
   wrapRecord kDtlsContentChangeCipherSpec kDtlsVersion12 0 4 [0x01],
   wrapRecord kDtlsContentHandshake kDtlsVersion12 1 0
      (wrapHandshakeUnfragmented kHsFinished 4 (List.replicate 12 0))]

theorem established_only_authenticated_null :
    (nullSession.processDatagrams nullCrypto nullServerDatagrams).state = .established ∧
      EstablishesOnlyAuthenticated nullCrypto (List.replicate 32 0) nullSession
        (nullSession.deliveries nullCrypto nullServerDatagrams) := by
  refine ⟨by decide +kernel, ?_⟩
  exact (established_only_authenticated nullCrypto {} (List.replicate 64 '0') _ nullServerDatagrams
    (by decide +kernel)).2

/-- A plaintext Finished that anyone can write who has seen the ClientHello: before the keys are derived the
master secret is empty, so `verify_data` is a function of public bytes. -/
def forgedFinished (C : Crypto) (s : DtlsClientSession) : Bytes :=
  handshakeRecord 0 kHsFinished 0
    (tlsPrf C [] "server finished" (C.sha256 s.handshakeTranscript) kVerifyDataLength)

theorem forgedFinished_deliveries (hlive : s.state ≠ .failed) (hsecret : s.masterSecret = []) :
    ∃ d, s.deliveries C [forgedFinished C s] = [d] ∧ (s.deliver C d).state = .established ∧
      observe C s d = some (.finished .plaintext) := by
  generalize hvd : tlsPrf C [] "server finished" (C.sha256 s.handshakeTranscript) kVerifyDataLength = vd
  have hvdLen : vd.length = 12 := by rw [← hvd, length_tlsPrf]; rfl
  have hbody : s.buildFinishedBody C s.handshakeTranscript false = vd := by
    rw [← hvd, buildFinishedBody, hsecret]
    rfl
  have hfin : (s.handleFinished C vd).state = .established := by
    unfold handleFinished
    simp only [hbody]
    rw [if_neg (by simp [hvdLen, kVerifyDataLength])]
  have hdel : s.deliver C (.handshake .plaintext kHsFinished vd) = s.handleFinished C vd := deliver_handshake hlive ..
  refine ⟨.handshake .plaintext kHsFinished vd, ?_, by rw [hdel, hfin], ?_⟩
  · have hlt : vd.length < 2 ^ 24 := by omega
    have hmsg := messageDeliveries_wrap .plaintext kHsFinished 0 [] hlt
    rw [List.append_nil, messageDeliveries_nil] at hmsg
    have hrec := datagramDeliveries_encode (C := C) hlive
      { type := kDtlsContentHandshake, version := kDtlsVersion12, epoch := 0, sequenceNumber := 0,
        payload := wrapHandshakeUnfragmented kHsFinished 0 vd } []
      (by rw [length_wrapHandshakeUnfragmented, hvdLen]; decide) (show (0 : UInt64).toNat < 2 ^ 48 by decide)
    rw [List.append_nil, recordDeliveries_plaintext, hmsg, datagramDeliveries_nil, List.append_nil] at hrec
    rw [deliveries, deliveries, List.append_nil, forgedFinished, hvd]
    exact hrec
  · simp only [observe]
    rw [hdel, if_neg (by rw [hfin]; decide)]
    rfl

/-- **A forged plaintext Finished establishes any fresh session**, whatever the library and the pin. -/
theorem plaintext_finished_establishes (C : Crypto) (ourCert : EcdsaP256KeyPair) (peerFingerprint : List Char)
    (draws : InitiateDraws) :
    ¬ EstablishesOnlyAuthenticated C (parseHexFingerprint peerFingerprint)
      ((create ourCert peerFingerprint).initiate draws).1
      (deliveries C ((create ourCert peerFingerprint).initiate draws).1
        [forgedFinished C ((create ourCert peerFingerprint).initiate draws).1]) := by
  intro h
  obtain ⟨d, hds, hest, hobs⟩ := forgedFinished_deliveries (C := C)
    (s := ((create ourCert peerFingerprint).initiate draws).1)
    (show DtlsState.sentClientHello ≠ .failed by simp) rfl
  obtain ⟨_, _, cipher, epoch, -, -, -, hfin⟩ :=
    h [] d [] hds (show DtlsState.sentClientHello ≠ .established by simp) hest
  rw [run_nil, hobs] at hfin
  cases hfin

theorem plaintext_finished_establishes_null :
    ¬ EstablishesOnlyAuthenticated nullCrypto (List.replicate 32 0) nullSession
      (nullSession.deliveries nullCrypto [handshakeRecord 0 kHsFinished 0 (List.replicate 12 0)]) :=
  plaintext_finished_establishes nullCrypto {} (List.replicate 64 '0') _

end DtlsClientSession

end VianiumVoip.Dtls
