import VianiumVoip.Dtls.Authentication

/-!
# Unauthenticated input after the handshake

What a datagram without any record that authenticates can do to an established session.  By design a fatal
alert, an encrypted handshake record that fails authentication, and a malformed or fragmented handshake record
fail the session; every other record leaves it as it is, down to the last field (`established_or_failed`).
Left out are ChangeCipherSpec records and plaintext handshake messages of the types the session handles
(`SpeaksPlaintext`): these still reach the handlers.
-/

namespace VianiumVoip.Dtls

open VianiumVoip.Lib VianiumVoip.Lib.Run

/-- The message types that `HandleHandshakeMessage` has a branch for. -/
def handledTypes : List UInt8 :=
  [kHsHelloVerifyRequest, kHsServerHello, kHsCertificate, kHsServerKeyExchange, kHsCertificateRequest,
    kHsServerHelloDone, kHsFinished]

/-- The records of a datagram, up to the first bytes that are no record. -/
def records (data : Bytes) : List DtlsRecord :=
  match _hdec : DtlsRecordCodec.decode data with
  | none => []
  | some (rec, consumed) => rec :: records (data.drop consumed)
termination_by data.length
decreasing_by
  have := DtlsRecordCodec.consumed_pos _hdec
  rw [List.length_drop]
  omega

namespace DtlsClientSession

/-- The record is of epoch at least 1 and decrypts under the session's server key. -/
def Authenticates (C : Crypto) (s : DtlsClientSession) (rec : DtlsRecord) : Prop :=
  rec.epoch ≠ 0 ∧ (s.serverCipher.bind fun cipher =>
    C.decrypt cipher rec.payload (combinedSeq rec.epoch rec.sequenceNumber) rec.type kDtlsVersion12).isSome

instance (C : Crypto) (s : DtlsClientSession) (rec : DtlsRecord) : Decidable (s.Authenticates C rec) :=
  inferInstanceAs (Decidable (_ ∧ _))

/-- What is to stay: the state, the master secret, the key block, the transcript and the epoch. -/
structure Unchanged (s s' : DtlsClientSession) : Prop where
  state : s'.state = s.state
  masterSecret : s'.masterSecret = s.masterSecret
  keys : s'.clientWriteKey = s.clientWriteKey ∧ s'.serverWriteKey = s.serverWriteKey ∧
    s'.clientWriteIv = s.clientWriteIv ∧ s'.serverWriteIv = s.serverWriteIv
  handshakeTranscript : s'.handshakeTranscript = s.handshakeTranscript
  clientEpoch : s'.clientEpoch = s.clientEpoch

/-- A datagram without an authentic record leaves an established session as it is. -/
def InertWhenEstablished (C : Crypto) (s : DtlsClientSession) (data : Bytes) : Prop :=
  s.state = .established → (∀ rec ∈ records data, ¬ s.Authenticates C rec) →
    Unchanged s (s.processDatagram C data).1

/-- The record reaches a handler without authentication: a ChangeCipherSpec, or a plaintext handshake record
with a message of a handled type. -/
def SpeaksPlaintext (rec : DtlsRecord) : Prop :=
  rec.type = kDtlsContentChangeCipherSpec ∨
    (rec.type = kDtlsContentHandshake ∧ rec.epoch = 0 ∧
      ∃ msgType body, .handshake .plaintext msgType body ∈ messageDeliveries .plaintext rec.payload ∧
        msgType ∈ handledTypes)

/-- The record fails the session by design: a fatal alert, a handshake record of epoch at least 1 (which does
not authenticate), or a plaintext handshake record with a malformed or fragmented message. -/
def Fatal (rec : DtlsRecord) : Prop :=
  (rec.type = kDtlsContentAlert ∧ 2 ≤ rec.payload.length ∧ rec.payload.getD 0 0 = 2) ∨
    (rec.type = kDtlsContentHandshake ∧
      (rec.epoch ≠ 0 ∨ ∃ reason, .failure reason ∈ messageDeliveries .plaintext rec.payload))

variable {C : Crypto} {s : DtlsClientSession}

/-! ### Quiet deliveries -/

/-- A delivery that no handler takes up. -/
def Quiet : Delivery → Prop
  | .changeCipherSpec => False
  | .handshake _ msgType _ => msgType ∉ handledTypes
  | .failure _ => True

theorem deliver_quiet {o : Origin} {t : UInt8} {body : Bytes} (h : t ∉ handledTypes) :
    s.deliver C (.handshake o t body) = s := by
  simp only [handledTypes, List.mem_cons, List.not_mem_nil, or_false, not_or] at h
  obtain ⟨h1, h2, h3, h4, h5, h6, h7⟩ := h
  by_cases hlive : s.state = .failed
  · exact deliver_of_failed hlive _
  · rw [deliver_handshake hlive, handleHandshakeMessage, if_neg h1, if_neg h2, if_neg h3, if_neg h4, if_neg h5,
      if_neg h6, if_neg h7]

/-- Quiet deliveries leave the session as it is, or fail it and nothing else. -/
theorem run_quiet {ds : List Delivery} (hlive : s.state ≠ .failed) (hq : ∀ d ∈ ds, Quiet d) :
    (run (deliver C) s ds = s ∧ ∀ reason, .failure reason ∉ ds) ∨
      ∃ reason, .failure reason ∈ ds ∧ run (deliver C) s ds = s.fail reason := by
  induction ds with
  | nil => exact .inl ⟨rfl, by simp⟩
  | cons d ds ih =>
    have htail := ih fun d hd => hq d (List.mem_cons_of_mem _ hd)
    cases d with
    | changeCipherSpec => exact (hq _ List.mem_cons_self).elim
    | failure reason =>
      refine .inr ⟨reason, List.mem_cons_self, ?_⟩
      rw [run_cons, deliver_failure hlive, run_of_failed rfl]
    | handshake o t body =>
      rw [run_cons, deliver_quiet (hq _ List.mem_cons_self)]
      rcases htail with ⟨hrun, hno⟩ | ⟨reason, hmem, hrun⟩
      · exact .inl ⟨hrun, fun reason hmem => hno reason (by simpa using hmem)⟩
      · exact .inr ⟨reason, List.mem_cons_of_mem _ hmem, hrun⟩

theorem mem_messageDeliveries {o : Origin} {msg : Bytes} {d : Delivery} (h : d ∈ messageDeliveries o msg) :
    (∃ t body, d = .handshake o t body) ∨ ∃ reason, d = .failure reason := by
  fun_induction messageDeliveries o msg with
  | case1 => exact .inr ⟨_, List.mem_singleton.1 h⟩
  | case2 => exact .inr ⟨_, List.mem_singleton.1 h⟩
  | case3 => exact .inr ⟨_, List.mem_singleton.1 h⟩
  | case4 msg hsize hh hdec hfrag hover ih =>
    rcases List.mem_cons.1 h with rfl | h
    · exact .inl ⟨_, _, rfl⟩
    · exact ih h
  | case5 => simp at h

/-- **One unauthenticated record.**  Its deliveries are quiet, and fail the session exactly when it is fatal. -/
theorem recordDeliveries_quiet {rec : DtlsRecord} (hauth : ¬ s.Authenticates C rec) (hspeak : ¬ SpeaksPlaintext rec) :
    (∀ d ∈ s.recordDeliveries C rec, Quiet d) ∧
      ((∃ reason, .failure reason ∈ s.recordDeliveries C rec) ↔ Fatal rec) := by
  simp only [SpeaksPlaintext, not_or, not_and] at hspeak
  obtain ⟨hccs, hplain⟩ := hspeak
  unfold recordDeliveries Fatal
  split_ifs with halert hfatal hhs hepoch
  · exact ⟨by simp [Quiet], iff_of_true ⟨_, List.mem_singleton_self _⟩ (.inl ⟨halert, hfatal⟩)⟩
  · refine ⟨by simp, iff_of_false (by simp) ?_⟩
    rintro (⟨-, hf⟩ | ⟨hh, -⟩)
    · exact hfatal hf
    · exact absurd (halert.symm.trans hh) (by decide)
  · have hne : kDtlsContentHandshake ≠ kDtlsContentAlert := by decide
    refine ⟨fun d hd => ?_, by simp [hhs, hne, hepoch]⟩
    rcases mem_messageDeliveries hd with ⟨t, body, rfl⟩ | ⟨reason, rfl⟩
    · exact fun ht => hplain hhs hepoch ⟨t, body, hd, ht⟩
    · trivial
  · cases hcipher : s.serverCipher with
    | none => simp [Quiet, hhs, hepoch]
    | some cipher =>
      have hdec : C.decrypt cipher rec.payload (combinedSeq rec.epoch rec.sequenceNumber) kDtlsContentHandshake
          kDtlsVersion12 = none := by
        by_contra hsome
        refine hauth ⟨hepoch, ?_⟩
        rw [hcipher, hhs]
        exact Option.isSome_iff_ne_none.2 hsome
      simp [Quiet, hhs, hepoch, hdec]
  · simp [halert, hhs]

/-- **After the handshake, unauthenticated records that reach no handler change nothing** but by design: the
session is the same in every field, unless one of them is fatal, and then it is failed and otherwise the same. -/
theorem established_or_failed (C : Crypto) (s : DtlsClientSession) (data : Bytes) (hest : s.state = .established)
    (hrec : ∀ rec ∈ records data, ¬ s.Authenticates C rec ∧ ¬ SpeaksPlaintext rec) :
    ((∀ rec ∈ records data, ¬ Fatal rec) ∧ (s.processDatagram C data).1 = s) ∨
      ((∃ rec ∈ records data, Fatal rec) ∧ ∃ reason, (s.processDatagram C data).1 = s.fail reason) := by
  have hlive : s.state ≠ .failed := by simp [hest]
  rw [processDatagram_eq_run]
  fun_induction records data with
  | case1 data hdec =>
    rw [datagramDeliveries_eq_nil hdec]
    exact .inl ⟨by simp, rfl⟩
  | case2 data rec consumed hdec ih =>
    obtain ⟨hauth, hspeak⟩ := hrec rec List.mem_cons_self
    obtain ⟨hq, hfatal⟩ := recordDeliveries_quiet hauth hspeak
    rw [datagramDeliveries_eq_append hlive hdec, run_append]
    rcases run_quiet (C := C) hlive hq with ⟨hrun, hno⟩ | ⟨reason, hmem, hrun⟩
    · have hnot : ¬ Fatal rec := fun hf => by
        obtain ⟨reason, hmem⟩ := hfatal.2 hf
        exact hno reason hmem
      rw [hrun]
      rcases ih fun rec' hmem => hrec rec' (List.mem_cons_of_mem _ hmem) with ⟨hall, hsame⟩ | ⟨⟨r, hr, hf⟩, hfail⟩
      · exact .inl ⟨List.forall_mem_cons.2 ⟨hnot, hall⟩, hsame⟩
      · exact .inr ⟨⟨r, List.mem_cons_of_mem _ hr, hf⟩, hfail⟩
    · refine .inr ⟨⟨rec, List.mem_cons_self, hfatal.1 ⟨reason, hmem⟩⟩, reason, ?_⟩
      rw [hrun, datagramDeliveries_of_failed rfl, run_nil]

/-- The session that the null server's handshake establishes. -/
def nullEstablished : DtlsClientSession := nullSession.processDatagrams nullCrypto nullServerDatagrams

/-- A plaintext fatal alert ends it. -/
theorem fatal_alert_fails_established : ¬ InertWhenEstablished nullCrypto nullEstablished
    (wrapRecord kDtlsContentAlert kDtlsVersion12 0 9 [2, 40]) := by
  intro h
  have hstate := (h (by decide +kernel) (by decide +kernel)).state
  revert hstate
  decide +kernel

theorem established_or_failed_warning :
    (∃ rec ∈ records (wrapRecord kDtlsContentAlert kDtlsVersion12 0 9 [1, 0]), rec.type = kDtlsContentAlert) ∧
      (((∀ rec ∈ records (wrapRecord kDtlsContentAlert kDtlsVersion12 0 9 [1, 0]), ¬ Fatal rec) ∧
          (nullEstablished.processDatagram nullCrypto (wrapRecord kDtlsContentAlert kDtlsVersion12 0 9 [1, 0])).1
            = nullEstablished) ∨
        ((∃ rec ∈ records (wrapRecord kDtlsContentAlert kDtlsVersion12 0 9 [1, 0]), Fatal rec) ∧
          ∃ reason,
            (nullEstablished.processDatagram nullCrypto (wrapRecord kDtlsContentAlert kDtlsVersion12 0 9 [1, 0])).1
              = nullEstablished.fail reason)) := by
  have hrecords : records (wrapRecord kDtlsContentAlert kDtlsVersion12 0 9 [1, 0])
      = [{ type := kDtlsContentAlert, version := kDtlsVersion12, epoch := 0, sequenceNumber := 9,
           payload := [1, 0] }] := by decide +kernel
  refine ⟨by simp [hrecords], established_or_failed nullCrypto nullEstablished _ (by decide +kernel) ?_⟩
  intro rec hrec
  rw [hrecords, List.mem_singleton] at hrec
  subst hrec
  exact ⟨by decide +kernel, by simp [SpeaksPlaintext, kDtlsContentAlert, kDtlsContentChangeCipherSpec,
    kDtlsContentHandshake]⟩

end DtlsClientSession

end VianiumVoip.Dtls
