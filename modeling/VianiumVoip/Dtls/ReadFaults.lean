import VianiumVoip.Dtls.Authentication
import VianiumVoip.Dtls.BufferReads

/-!
# Where the session reads outside a buffer

The session takes the address of element 0 of an empty vector in two places: the buffer for the plaintext of an
empty encrypted record, and the leaf of a Certificate when it is empty.  `processDatagrams_reads_iff` says that
a run without these has no fault, and that nothing else in `ProcessDatagram` has one.
-/

namespace VianiumVoip.Dtls

open VianiumVoip.Lib VianiumVoip.Lib.Checked VianiumVoip.Lib.Run

/-! ### The two places -/

namespace DtlsClientSession

/-- The leaf of a Certificate, if it has one, is not empty. -/
def LeafNonempty (body : Bytes) : Prop := ∀ cert ∈ CertificateCodec.decode body, cert.chain.head? ≠ some []

/-- A live session takes no Certificate with an empty leaf. -/
def SafeDelivery (s : DtlsClientSession) : Delivery → Prop
  | .handshake _ msgType body => s.state ≠ .failed → msgType = kHsCertificate → LeafNonempty body
  | _ => True

variable (C : Crypto)

/-- Nor, once it has a server cipher, an empty handshake record of epoch 1 or later. -/
def SafeRecord (s : DtlsClientSession) (rec : DtlsRecord) : Prop :=
  s.state ≠ .failed →
    (rec.type = kDtlsContentHandshake → rec.epoch ≠ 0 → s.serverCipher ≠ none → rec.payload ≠ []) ∧
      Guarded (deliver C) SafeDelivery s (s.recordDeliveries C rec)

/-- The records of a datagram, up to the first that cannot be decoded. -/
def records (data : Bytes) : List DtlsRecord :=
  if 0 < data.length then
    match _hdec : DtlsRecordCodec.decode data with
    | none => []
    | some (rec, consumed) => rec :: records (data.drop consumed)
  else []
termination_by data.length
decreasing_by
  have := DtlsRecordCodec.consumed_pos _hdec
  rw [List.length_drop]
  omega

/-- One record; a failed session takes none. -/
def stepRecord (s : DtlsClientSession) (rec : DtlsRecord) : DtlsClientSession :=
  if s.state = .failed then s else (s.handleRecord C rec).1

/-- **The datagrams without a fault**, in the state in which they arrive. -/
def SafeDatagram (s : DtlsClientSession) (data : Bytes) : Prop :=
  Guarded (stepRecord C) (SafeRecord C) s (records data)

/-! ### Handlers address an empty vector exactly for an empty leaf -/

variable {C} {s : DtlsClientSession}

theorem handleHelloVerifyRequest_reads (body : Bytes) :
    Reads.handleHelloVerifyRequest s body = .ok (s.handleHelloVerifyRequest body) := by
  rw [Reads.handleHelloVerifyRequest, Reads.verifyRequestDecode_eq, ok_bind, DtlsClientSession.handleHelloVerifyRequest]
  cases HelloVerifyRequestCodec.decode body <;> rfl

theorem handleServerHello_reads (body : Bytes) :
    Reads.handleServerHello s body = .ok (s.handleServerHello body) := by
  rw [Reads.handleServerHello, Reads.serverHelloDecode_eq, ok_bind, DtlsClientSession.handleServerHello]
  cases ServerHelloCodec.decode body with
  | none => rfl
  | some sh =>
    dsimp only
    split_ifs <;> rfl

theorem handleCertificate_reads (body : Bytes) :
    Returns (LeafNonempty body) (Reads.handleCertificate C s body) (s.handleCertificate C body) := by
  rw [Reads.handleCertificate, Reads.certificateDecode_eq, ok_bind, DtlsClientSession.handleCertificate, LeafNonempty]
  cases CertificateCodec.decode body with
  | none => exact (returns_ok _).congr (by simp)
  | some cert =>
    obtain ⟨chain⟩ := cert
    rcases chain with _ | ⟨leaf, rest⟩
    · exact (returns_ok _).congr (by simp)
    · dsimp only
      by_cases hleaf : leaf = []
      · subst hleaf
        exact ⟨fun h => absurd rfl (h _ rfl), fun _ => rfl⟩
      · rw [first_ok hleaf, ok_bind]
        refine Returns.congr ?_ (iff_of_true trivial fun cert hcert => ?_)
        · split_ifs <;> exact returns_ok _
        · cases hcert
          simpa using hleaf

theorem handleServerKeyExchange_reads (body : Bytes) :
    Reads.handleServerKeyExchange s body = .ok (s.handleServerKeyExchange body) := by
  rw [Reads.handleServerKeyExchange, Reads.keyExchangeDecode_eq, ok_bind, DtlsClientSession.handleServerKeyExchange]
  cases ServerKeyExchangeCodec.decode body with
  | none => rfl
  | some ske =>
    dsimp only
    by_cases hcurve : ske.namedCurve ≠ kNgSecp256r1
    · rw [if_pos hcurve, if_pos hcurve]
    rw [if_neg hcurve, if_neg hcurve]
    by_cases hlen : ske.publicPoint.length ≠ 65
    · rw [if_pos hlen, if_pos (.inl hlen)]
    rw [if_neg hlen, byteAt_ok (by omega), ok_bind]
    by_cases hform : ske.publicPoint.getD 0 0 ≠ 0x04
    · rw [if_pos hform, if_pos (.inr hform)]
    · rw [if_neg hform, if_neg (not_or.2 ⟨hlen, hform⟩)]

theorem handleFinished_reads (body : Bytes) : Reads.handleFinished C s body = .ok (s.handleFinished C body) := by
  have hexp : (s.buildFinishedBody C s.handshakeTranscript false).length = 12 := length_tlsPrf ..
  unfold Reads.handleFinished DtlsClientSession.handleFinished
  dsimp only
  generalize s.buildFinishedBody C s.handshakeTranscript false = expected at *
  by_cases hlen : body.length ≠ kVerifyDataLength
  · rw [if_pos hlen, if_pos (.inl hlen)]
  have h12 : body.length = 12 := not_not.1 hlen
  have hne : expected ≠ [] := List.ne_nil_of_length_pos (by omega)
  rw [if_neg hlen, slice_ok (by rw [h12]; decide), first_ok hne]
  simp only [ok_bind]
  rw [slice_ok (by rw [hexp]; decide), ok_bind, List.drop_zero, List.drop_zero,
    List.take_of_length_le (by rw [h12]; decide), List.take_of_length_le (by rw [hexp]; decide)]
  by_cases hbody : body ≠ expected
  · rw [if_pos hbody, if_pos (.inr hbody)]
  · rw [if_neg hbody, if_neg (not_or.2 ⟨hlen, hbody⟩)]

theorem handleHandshakeMessage_reads (msgType : UInt8) (body : Bytes) :
    Returns (msgType = kHsCertificate → LeafNonempty body) (Reads.handleHandshakeMessage C s msgType body)
      (s.handleHandshakeMessage C msgType body) := by
  unfold Reads.handleHandshakeMessage DtlsClientSession.handleHandshakeMessage
  by_cases hcert : msgType = kHsCertificate
  · subst hcert
    rw [if_neg (by decide), if_neg (by decide), if_pos rfl, if_neg (by decide), if_neg (by decide), if_pos rfl]
    obtain ⟨hok, herr⟩ := handleCertificate_reads (C := C) (s := s) body
    refine ⟨fun h => ?_, fun h => ?_⟩
    · rw [hok (h rfl)]
      rfl
    · rw [herr fun h' => h fun _ => h']
      rfl
  · refine Returns.congr ?_ (iff_of_true trivial fun h => absurd h hcert)
    rw [if_neg hcert, if_neg hcert, handleHelloVerifyRequest_reads, handleServerHello_reads,
      handleServerKeyExchange_reads, handleFinished_reads]
    split_ifs <;> exact returns_ok _

/-! ### Loops -/

theorem safeDelivery_of_failed (h : s.state = .failed) (ds : List Delivery) :
    Guarded (deliver C) SafeDelivery s ds := by
  induction ds with
  | nil => exact guarded_nil s
  | cons d ds ih =>
    rw [guarded_cons, deliver_of_failed h]
    refine ⟨?_, ih⟩
    cases d with
    | handshake o t body => exact fun hlive => absurd h hlive
    | changeCipherSpec => trivial
    | failure => trivial

theorem safeDelivery_iff (h : s.state ≠ .failed) (o : Origin) (msgType : UInt8) (body : Bytes) :
    SafeDelivery s (.handshake o msgType body) ↔ (msgType = kHsCertificate → LeafNonempty body) :=
  forall_prop_of_true h

theorem safe_failure (reason : String) : Guarded (deliver C) SafeDelivery s [.failure reason] := ⟨trivial, trivial⟩

theorem handleMessages_reads (o : Origin) (msg : Bytes) (h : s.state ≠ .failed) :
    Returns (Guarded (deliver C) SafeDelivery s (messageDeliveries o msg)) (Reads.handleMessages C s msg)
      (s.handleMessages C msg) := by
  fun_induction DtlsClientSession.handleMessages C s msg with
  | case1 s msg hsize hdec =>
    rw [Reads.handleMessages, if_pos hsize, Reads.headerDecode_eq, ok_bind, messageDeliveries, if_pos hsize, hdec]
    exact (returns_ok _).congr (iff_of_true trivial (safe_failure _))
  | case2 s msg hsize hh hdec hfrag =>
    rw [Reads.handleMessages, if_pos hsize, Reads.headerDecode_eq, ok_bind, messageDeliveries, if_pos hsize, hdec]
    simp only [if_pos hfrag]
    exact (returns_ok _).congr (iff_of_true trivial (safe_failure _))
  | case3 s msg hsize hh hdec hfrag hover =>
    rw [Reads.handleMessages, if_pos hsize, Reads.headerDecode_eq, ok_bind, messageDeliveries, if_pos hsize, hdec]
    simp only [if_neg hfrag, if_pos hover]
    exact (returns_ok _).congr (iff_of_true trivial (safe_failure _))
  | case4 s msg hsize hh hdec hfrag hover body s' out heq hfailed =>
    have hhandler := handleHandshakeMessage_reads (C := C) (s := s) hh.msgType body
    rw [heq] at hhandler
    rw [Reads.handleMessages, if_pos hsize, Reads.headerDecode_eq, ok_bind, messageDeliveries, if_pos hsize, hdec]
    simp only [if_neg hfrag, if_neg hover]
    rw [slice_ok (Nat.le_of_not_lt hover), ok_bind, guarded_cons, deliver_handshake h, heq, safeDelivery_iff h]
    refine hhandler.bind (Returns.congr ?_ (iff_of_true trivial (safeDelivery_of_failed hfailed _)))
    rw [if_pos hfailed]
    exact returns_ok _
  | case5 s msg hsize hh hdec hfrag hover body s' out heq hlive s'' out' ok heq' ih =>
    have hhandler := handleHandshakeMessage_reads (C := C) (s := s) hh.msgType body
    rw [heq] at hhandler
    rw [Reads.handleMessages, if_pos hsize, Reads.headerDecode_eq, ok_bind, messageDeliveries, if_pos hsize, hdec]
    simp only [if_neg hfrag, if_neg hover]
    rw [slice_ok (Nat.le_of_not_lt hover), ok_bind, guarded_cons, deliver_handshake h, heq, safeDelivery_iff h]
    refine hhandler.bind ?_
    rw [if_neg hlive]
    have hrest := ih hlive
    rw [heq'] at hrest
    exact hrest.map fun r => (r.1, out ++ r.2.1, r.2.2)
  | case6 s msg hsize =>
    rw [Reads.handleMessages, if_neg hsize, messageDeliveries, if_neg hsize]
    exact (returns_ok _).congr (iff_of_true trivial (guarded_nil s))

theorem handleRecord_reads (rec : DtlsRecord) (h : s.state ≠ .failed) :
    Returns (SafeRecord C s rec) (Reads.handleRecord C s rec) (s.handleRecord C rec) := by
  unfold Reads.handleRecord DtlsClientSession.handleRecord
  rw [SafeRecord, forall_prop_of_true h, recordDeliveries]
  by_cases hccs : rec.type = kDtlsContentChangeCipherSpec
  · have hhs : rec.type ≠ kDtlsContentHandshake := by rw [hccs]; decide
    rw [if_pos hccs, if_pos hccs, if_pos hccs]
    exact (returns_ok _).congr (iff_of_true trivial ⟨fun heq => absurd heq hhs, trivial, trivial⟩)
  rw [if_neg hccs, if_neg hccs, if_neg hccs]
  by_cases halert : rec.type = kDtlsContentAlert
  · have hhs : rec.type ≠ kDtlsContentHandshake := by rw [halert]; decide
    rw [if_pos halert, if_pos halert, if_pos halert]
    refine Returns.congr ?_ (iff_of_true trivial ⟨fun heq => absurd heq hhs, ?_⟩)
    · by_cases hlen : 2 ≤ rec.payload.length
      · rw [if_pos hlen, byteAt_ok (by omega), ok_bind]
        by_cases hlevel : rec.payload.getD 0 0 = 2
        · rw [if_pos hlevel, if_pos ⟨hlen, hlevel⟩]
          exact returns_ok _
        · rw [if_neg hlevel, if_neg fun hand => hlevel hand.2]
          exact returns_ok _
      · rw [if_neg hlen, if_neg fun hand => hlen hand.1]
        exact returns_ok _
    · split_ifs
      · exact safe_failure _
      · exact guarded_nil s
  rw [if_neg halert, if_neg halert, if_neg halert]
  by_cases hhs : rec.type = kDtlsContentHandshake
  · rw [if_pos hhs, if_pos hhs, if_pos hhs]
    by_cases hepoch : rec.epoch = 0
    · rw [if_pos hepoch, if_pos hepoch, if_pos hepoch]
      exact (handleMessages_reads _ _ h).congr (and_iff_right fun _ hne => absurd hepoch hne).symm
    · rw [if_neg hepoch, if_neg hepoch, if_neg hepoch]
      cases hcipher : s.serverCipher with
      | none =>
        exact (returns_ok _).congr (iff_of_true trivial ⟨fun _ _ hne => absurd rfl hne, safe_failure _⟩)
      | some cipher =>
        dsimp only
        have hfirst : Returns (rec.payload ≠ []) (first (List.replicate rec.payload.length 0))
            (List.replicate rec.payload.length 0) := by
          constructor
          · intro hne
            exact first_ok fun hnil => hne (by simpa using hnil)
          · intro hne
            rw [not_not.1 hne]
            rfl
        have hcond : (rec.type = kDtlsContentHandshake → rec.epoch ≠ 0 → some cipher ≠ none → rec.payload ≠ [])
            ↔ rec.payload ≠ [] := ⟨fun hc => hc hhs hepoch (by simp), fun hc _ _ _ => hc⟩
        rw [hcond]
        refine hfirst.bind ?_
        cases C.decrypt cipher rec.payload (combinedSeq rec.epoch rec.sequenceNumber) kDtlsContentHandshake
            kDtlsVersion12 with
        | none => exact (returns_ok _).congr (iff_of_true trivial (safe_failure _))
        | some plain => exact handleMessages_reads _ _ h
  · rw [if_neg hhs, if_neg hhs, if_neg hhs]
    exact (returns_ok _).congr (iff_of_true trivial ⟨fun heq => absurd heq hhs, guarded_nil s⟩)

theorem safeRecord_of_failed (h : s.state = .failed) (rs : List DtlsRecord) :
    Guarded (stepRecord C) (SafeRecord C) s rs := by
  induction rs with
  | nil => exact guarded_nil s
  | cons rec rs ih =>
    rw [guarded_cons, stepRecord, if_pos h]
    exact ⟨fun hlive => absurd h hlive, ih⟩

theorem records_eq_cons {data : Bytes} {rec : DtlsRecord} {consumed : ℕ}
    (hdec : DtlsRecordCodec.decode data = some (rec, consumed)) :
    records data = rec :: records (data.drop consumed) := by
  have hpos := DtlsRecordCodec.consumed_pos hdec
  rw [records, if_pos (by omega)]
  split
  · simp_all
  · next rec' consumed' hdec' =>
    obtain ⟨rfl, rfl⟩ := Prod.mk.inj (Option.some.inj (hdec'.symm.trans hdec))
    rfl

theorem records_eq_nil {data : Bytes} (hdec : DtlsRecordCodec.decode data = none) : records data = [] := by
  rw [records]
  split_ifs
  · split
    · rfl
    · simp_all
  · rfl

theorem handleRecords_of_none {data : Bytes} (hsize : 0 < data.length) (hdec : DtlsRecordCodec.decode data = none) :
    Reads.handleRecords C s data = .ok (s, [], false) := by
  rw [Reads.handleRecords, if_pos hsize]
  have hreads := Reads.recordDecode_eq data
  rw [hdec] at hreads
  split
  · simp_all
  · rfl
  · simp_all

theorem handleRecords_of_some {data : Bytes} {rec : DtlsRecord} {consumed : ℕ} (hsize : 0 < data.length)
    (hdec : DtlsRecordCodec.decode data = some (rec, consumed)) :
    Reads.handleRecords C s data = (Reads.handleRecord C s rec >>= fun r =>
      if r.2.2 then Reads.handleRecords C r.1 (data.drop consumed) >>= fun r' =>
        .ok (r'.1, r.2.1 ++ r'.2.1, r'.2.2)
      else .ok (r.1, r.2.1, false)) := by
  rw [Reads.handleRecords, if_pos hsize]
  have hreads := Reads.recordDecode_eq data
  rw [hdec] at hreads
  split
  · simp_all
  · simp_all
  · next rec' consumed' hdec' =>
    obtain ⟨rfl, rfl⟩ := Prod.mk.inj (Option.some.inj (Except.ok.inj (hdec'.symm.trans hreads)))
    rfl

theorem handleRecords_reads (data : Bytes) (h : s.state ≠ .failed) :
    Returns (SafeDatagram C s data) (Reads.handleRecords C s data) (s.handleRecords C data) := by
  unfold SafeDatagram
  fun_induction DtlsClientSession.handleRecords C s data with
  | case1 s data hsize hdec =>
    rw [handleRecords_of_none hsize hdec, records_eq_nil hdec]
    exact (returns_ok _).congr (iff_of_true trivial (guarded_nil s))
  | case2 s data hsize rec consumed hdec s' out s'' out' ok heq' heq ih =>
    obtain ⟨hrun, hok⟩ := handleRecord_eq_run (C := C) rec h
    have hrecord := handleRecord_reads (C := C) rec h
    rw [heq] at hrun hok hrecord
    have hlive : s'.state ≠ .failed := by simpa using hok
    have hrest := ih hlive
    rw [heq'] at hrest
    rw [handleRecords_of_some hsize hdec, records_eq_cons hdec, guarded_cons, stepRecord, if_neg h, heq]
    refine hrecord.bind ?_
    rw [if_pos rfl]
    exact hrest.map fun r => (r.1, out ++ r.2.1, r.2.2)
  | case3 s data hsize rec consumed hdec s' out ok heq hnok =>
    obtain ⟨hrun, hok⟩ := handleRecord_eq_run (C := C) rec h
    have hrecord := handleRecord_reads (C := C) rec h
    rw [heq] at hrun hok hrecord
    have hfailed : s'.state = .failed := hok.1 (by simpa using hnok)
    rw [handleRecords_of_some hsize hdec, records_eq_cons hdec, guarded_cons, stepRecord, if_neg h, heq]
    refine hrecord.bind (Returns.congr ?_ (iff_of_true trivial (safeRecord_of_failed hfailed _)))
    rw [if_neg hnok]
    exact returns_ok _
  | case4 s data hsize =>
    rw [Reads.handleRecords, if_neg hsize, records, if_neg hsize]
    exact (returns_ok _).congr (iff_of_true trivial (guarded_nil s))

theorem processDatagram_reads (data : Bytes) :
    Returns (SafeDatagram C s data) (Reads.processDatagram C s data) (s.processDatagram C data) := by
  unfold Reads.processDatagram DtlsClientSession.processDatagram
  by_cases h : s.state = .failed
  · rw [if_pos h, if_pos h]
    exact (returns_ok _).congr (iff_of_true trivial (safeRecord_of_failed h _))
  · rw [if_neg h, if_neg h]
    exact handleRecords_reads data h

theorem processDatagrams_reads (datagrams : List Bytes) :
    Returns (Guarded (fun s data => (s.processDatagram C data).1) (SafeDatagram C) s datagrams)
      (Reads.processDatagrams C s datagrams) (s.processDatagrams C datagrams) := by
  induction datagrams generalizing s with
  | nil => exact (returns_ok _).congr (iff_of_true trivial (guarded_nil s))
  | cons data datagrams ih => exact (processDatagram_reads data).bind ih

/-- **The reads of any run.**  From any state, over any datagrams: no index is outside its buffer, and no
empty vector is addressed, so that the session is the one of the unchecked functions, if and only if no
datagram brings an empty encrypted handshake record to a session with a server cipher or a Certificate with an
empty leaf to a live one. -/
theorem processDatagrams_reads_iff (C : Crypto) (s : DtlsClientSession) (datagrams : List Bytes) :
    Reads.processDatagrams C s datagrams ≠ .error .outOfRange ∧
      (Reads.processDatagrams C s datagrams = .ok (s.processDatagrams C datagrams) ↔
        Guarded (fun s data => (s.processDatagram C data).1) (SafeDatagram C) s datagrams) := by
  have hout := processDatagrams_reads (C := C) (s := s) datagrams
  refine ⟨fun hrange => ?_, hout.iff⟩
  by_cases hsafe : Guarded (fun s data => (s.processDatagram C data).1) (SafeDatagram C) s datagrams
  · cases hrange.symm.trans (hout.1 hsafe)
  · cases hrange.symm.trans (hout.2 hsafe)

/-! ### Both places are reached -/

instance (body : Bytes) : Decidable (LeafNonempty body) := by
  unfold LeafNonempty
  infer_instance

instance (s : DtlsClientSession) : DecidablePred (SafeDelivery s)
  | .changeCipherSpec => inferInstanceAs (Decidable True)
  | .failure _ => inferInstanceAs (Decidable True)
  | .handshake _ msgType body =>
    inferInstanceAs (Decidable (s.state ≠ .failed → msgType = kHsCertificate → LeafNonempty body))

instance (C : Crypto) (s : DtlsClientSession) (rec : DtlsRecord) : Decidable (SafeRecord C s rec) := by
  unfold SafeRecord
  infer_instance

instance (C : Crypto) (s : DtlsClientSession) (data : Bytes) : Decidable (SafeDatagram C s data) := by
  unfold SafeDatagram
  infer_instance

/-- A Certificate with one empty entry, and an empty record of epoch 1 after the handshake. -/
theorem empty_vectors_addressed :
    Reads.processDatagram nullCrypto nullSession (handshakeRecord 0 kHsCertificate 0 [0, 0, 3, 0, 0, 0])
        = .error .emptyVector ∧
      Reads.processDatagrams nullCrypto nullSession
          (nullServerDatagrams ++ [wrapRecord kDtlsContentHandshake kDtlsVersion12 1 1 []])
        = .error .emptyVector := by
  constructor
  · exact (processDatagram_reads _).2 (by decide +kernel)
  · exact (processDatagrams_reads _).2 (by decide +kernel)

end DtlsClientSession

end VianiumVoip.Dtls
