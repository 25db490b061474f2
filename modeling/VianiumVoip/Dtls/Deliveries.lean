import VianiumVoip.Dtls.ClientSession
import VianiumVoip.Lib.Run

/-!
# The session as a machine driven by deliveries

`ProcessDatagram` peels a datagram into records and a record into handshake messages, and calls a handler for
each piece.  The sequence of these calls is the datagram's list of `Delivery`s; the session that
`ProcessDatagram` leaves is the run of the one-step machine `deliver` over them
(`processDatagram_eq_run`, `processDatagrams_eq_run`).  What holds of a session over all datagrams is then
proved of `deliver`, one case a handler.
-/

namespace VianiumVoip.Dtls

open VianiumVoip.Lib VianiumVoip.Lib.Run VianiumVoip.Cert

/-- How a handshake message reached the client: in a record of epoch 0, or decrypted from a record of epoch
`epoch ≥ 1` with the cipher `cipher`. -/
inductive Origin
  | plaintext
  | encrypted (epoch : UInt16) (cipher : AesGcm)
  deriving DecidableEq

/-- One call of a handler. -/
inductive Delivery
  | changeCipherSpec
  | handshake (origin : Origin) (msgType : UInt8) (body : Bytes)
  /-- `ProcessDatagram` itself fails the session. -/
  | failure (reason : String)
  deriving DecidableEq

namespace DtlsClientSession

variable (C : Crypto)

/-- One delivery; a failed session takes none. -/
def deliver (s : DtlsClientSession) (d : Delivery) : DtlsClientSession :=
  if s.state = .failed then s
  else
    match d with
    | .changeCipherSpec => s.handleChangeCipherSpec
    | .handshake _ msgType body => (s.handleHandshakeMessage C msgType body).1
    | .failure reason => s.fail reason

/-- The messages of a record's plaintext. -/
def messageDeliveries (origin : Origin) (msg : Bytes) : List Delivery :=
  if kHandshakeHeaderSize ≤ msg.length then
    match HandshakeHeaderCodec.decode msg with
    | none => [.failure "malformed handshake header"]
    | some hh =>
      if hh.fragmentOffset ≠ 0 ∨ hh.fragmentLength ≠ hh.length then
        [.failure "fragmented DTLS handshake messages not supported"]
      else if msg.length < kHandshakeHeaderSize + hh.length.toNat then
        [.failure "handshake length overruns record"]
      else
        .handshake origin hh.msgType ((msg.drop kHandshakeHeaderSize).take hh.length.toNat)
          :: messageDeliveries origin (msg.drop (kHandshakeHeaderSize + hh.length.toNat))
  else []
termination_by msg.length
decreasing_by
  rw [List.length_drop]
  simp only [kHandshakeHeaderSize] at *
  omega

/-- The deliveries of one record, which depend on the session only through its server cipher. -/
def recordDeliveries (s : DtlsClientSession) (rec : DtlsRecord) : List Delivery :=
  if rec.type = kDtlsContentChangeCipherSpec then [.changeCipherSpec]
  else if rec.type = kDtlsContentAlert then
    if 2 ≤ rec.payload.length ∧ rec.payload.getD 0 0 = 2 then [.failure "server sent fatal alert"] else []
  else if rec.type = kDtlsContentHandshake then
    if rec.epoch = 0 then messageDeliveries .plaintext rec.payload
    else
      match s.serverCipher with
      | none => [.failure "got encrypted record before keys"]
      | some cipher =>
        match C.decrypt cipher rec.payload (combinedSeq rec.epoch rec.sequenceNumber) kDtlsContentHandshake
            kDtlsVersion12 with
        | none => [.failure "AEAD auth failed on encrypted handshake"]
        | some plain => messageDeliveries (.encrypted rec.epoch cipher) plain
  else []

/-- The deliveries of a datagram, as long as the session has not failed. -/
def datagramDeliveries (s : DtlsClientSession) (data : Bytes) : List Delivery :=
  if 0 < data.length ∧ s.state ≠ .failed then
    match _hdec : DtlsRecordCodec.decode data with
    | none => []
    | some (rec, consumed) =>
      s.recordDeliveries C rec
        ++ datagramDeliveries (run (deliver C) s (s.recordDeliveries C rec)) (data.drop consumed)
  else []
termination_by data.length
decreasing_by
  have := DtlsRecordCodec.consumed_pos _hdec
  rw [List.length_drop]
  omega

/-- The session after some datagrams. -/
def processDatagrams (s : DtlsClientSession) (datagrams : List Bytes) : DtlsClientSession :=
  run (fun s data => (s.processDatagram C data).1) s datagrams

/-- The deliveries of some datagrams. -/
def deliveries : DtlsClientSession → List Bytes → List Delivery
  | _, [] => []
  | s, data :: datagrams => s.datagramDeliveries C data ++ deliveries (s.processDatagram C data).1 datagrams

/-! ### A datagram is a run of deliveries -/

variable {C} {s : DtlsClientSession}

theorem deliver_of_failed (h : s.state = .failed) (d : Delivery) : deliver C s d = s := if_pos h

theorem run_of_failed (h : s.state = .failed) (ds : List Delivery) : run (deliver C) s ds = s := by
  induction ds with
  | nil => rfl
  | cons d ds ih => rw [run_cons, deliver_of_failed h, ih]

theorem deliver_handshake (h : s.state ≠ .failed) (o : Origin) (t : UInt8) (body : Bytes) :
    deliver C s (.handshake o t body) = (s.handleHandshakeMessage C t body).1 := if_neg h

theorem deliver_failure (h : s.state ≠ .failed) (reason : String) :
    deliver C s (.failure reason) = s.fail reason := if_neg h

@[simp] theorem fail_state (reason : String) : (s.fail reason).state = .failed := rfl

/-- The message loop is a run, and it returns false exactly when it leaves the session failed. -/
theorem handleMessages_eq_run (o : Origin) (msg : Bytes) (h : s.state ≠ .failed) :
    (s.handleMessages C msg).1 = run (deliver C) s (messageDeliveries o msg) ∧
      ((s.handleMessages C msg).2.2 = false ↔ (s.handleMessages C msg).1.state = .failed) := by
  fun_induction handleMessages C s msg with
  | case1 s msg hsize hdec =>
    rw [messageDeliveries, if_pos hsize, hdec]
    simp [deliver_failure h]
  | case2 s msg hsize hh hdec hfrag =>
    rw [messageDeliveries, if_pos hsize, hdec]
    simp only [if_pos hfrag]
    simp [deliver_failure h]
  | case3 s msg hsize hh hdec hfrag hover =>
    rw [messageDeliveries, if_pos hsize, hdec]
    simp only [if_neg hfrag, if_pos hover]
    simp [deliver_failure h]
  | case4 s msg hsize hh hdec hfrag hover body s' out heq hfailed =>
    rw [messageDeliveries, if_pos hsize, hdec]
    simp only [if_neg hfrag, if_neg hover, run_cons, deliver_handshake h]
    rw [heq, run_of_failed hfailed]
    simp [hfailed]
  | case5 s msg hsize hh hdec hfrag hover body s' out heq hlive s'' out' ok heq' ih =>
    obtain ⟨hrun, hok⟩ := ih hlive
    rw [messageDeliveries, if_pos hsize, hdec]
    simp only [if_neg hfrag, if_neg hover, run_cons, deliver_handshake h]
    rw [heq'] at hrun hok
    rw [heq]
    exact ⟨hrun, hok⟩
  | case6 s msg hsize =>
    rw [messageDeliveries, if_neg hsize]
    simp [h]

theorem handleRecord_eq_run (rec : DtlsRecord) (h : s.state ≠ .failed) :
    (s.handleRecord C rec).1 = run (deliver C) s (s.recordDeliveries C rec) ∧
      ((s.handleRecord C rec).2.2 = false ↔ (s.handleRecord C rec).1.state = .failed) := by
  unfold handleRecord recordDeliveries
  split_ifs with hccs halert hfatal hhs hepoch
  · simp [deliver, h, handleChangeCipherSpec]
  · simp [deliver_failure h]
  · simp [h]
  · exact handleMessages_eq_run .plaintext rec.payload h
  · cases hcipher : s.serverCipher with
    | none => simp [deliver_failure h]
    | some cipher =>
      dsimp only
      cases C.decrypt cipher rec.payload (combinedSeq rec.epoch rec.sequenceNumber) kDtlsContentHandshake
          kDtlsVersion12 with
      | none => simp [deliver_failure h]
      | some plain => exact handleMessages_eq_run (.encrypted rec.epoch cipher) plain h
  · simp [h]

theorem datagramDeliveries_nil : s.datagramDeliveries C [] = [] := by
  rw [datagramDeliveries, if_neg (by simp)]

theorem datagramDeliveries_of_failed (h : s.state = .failed) (data : Bytes) : s.datagramDeliveries C data = [] := by
  rw [datagramDeliveries, if_neg (by simp [h])]

theorem datagramDeliveries_eq_nil {data : Bytes} (hdec : DtlsRecordCodec.decode data = none) :
    s.datagramDeliveries C data = [] := by
  rw [datagramDeliveries]
  split_ifs
  · split
    · rfl
    · simp_all
  · rfl

theorem datagramDeliveries_eq_append {data : Bytes} {rec : DtlsRecord} {consumed : ℕ} (h : s.state ≠ .failed)
    (hdec : DtlsRecordCodec.decode data = some (rec, consumed)) :
    s.datagramDeliveries C data = s.recordDeliveries C rec
      ++ (run (deliver C) s (s.recordDeliveries C rec)).datagramDeliveries C (data.drop consumed) := by
  have hpos := DtlsRecordCodec.consumed_pos hdec
  rw [datagramDeliveries, if_pos ⟨by omega, h⟩]
  split
  · simp_all
  · next rec' consumed' hdec' =>
    obtain ⟨rfl, rfl⟩ := Prod.mk.inj (Option.some.inj (hdec'.symm.trans hdec))
    rfl

theorem handleRecords_eq_run (data : Bytes) (h : s.state ≠ .failed) :
    (s.handleRecords C data).1 = run (deliver C) s (s.datagramDeliveries C data) := by
  fun_induction handleRecords C s data with
  | case1 s data hsize hdec => rw [datagramDeliveries_eq_nil hdec, run_nil]
  | case2 s data hsize rec consumed hdec s' out s'' out' ok heq' heq ih =>
    obtain ⟨hrun, hok⟩ := handleRecord_eq_run (C := C) rec h
    rw [heq] at hrun hok
    have hlive : s'.state ≠ .failed := by simpa using hok
    rw [datagramDeliveries_eq_append h hdec, run_append, ← hrun, ← ih hlive, heq']
  | case3 s data hsize rec consumed hdec s' out ok heq hnok =>
    obtain ⟨hrun, hok⟩ := handleRecord_eq_run (C := C) rec h
    rw [heq] at hrun hok
    have hfailed : s'.state = .failed := hok.1 (by simpa using hnok)
    rw [datagramDeliveries_eq_append h hdec, run_append, ← hrun, run_of_failed hfailed]
  | case4 s data hsize =>
    rw [datagramDeliveries, if_neg (by simp [hsize])]
    rfl

/-- **One datagram is a run of its deliveries.** -/
theorem processDatagram_eq_run (data : Bytes) :
    (s.processDatagram C data).1 = run (deliver C) s (s.datagramDeliveries C data) := by
  unfold processDatagram
  split_ifs with h
  · rw [datagramDeliveries_of_failed h, run_nil]
  · exact handleRecords_eq_run data h

/-- **And so is a sequence of datagrams.** -/
theorem processDatagrams_eq_run (datagrams : List Bytes) :
    s.processDatagrams C datagrams = run (deliver C) s (s.deliveries C datagrams) := by
  induction datagrams generalizing s with
  | nil => rfl
  | cons data datagrams ih =>
    rw [deliveries, run_append, ← processDatagram_eq_run, ← ih]
    rfl

/-! ### Deliveries of well-formed bytes -/

theorem messageDeliveries_nil (o : Origin) : messageDeliveries o [] = [] := by
  rw [messageDeliveries, if_neg (by decide)]

theorem messageDeliveries_wrap (o : Origin) (msgType : UInt8) (messageSeq : UInt16) {body : Bytes} (rest : Bytes)
    (hlen : body.length < 2 ^ 24) :
    messageDeliveries o (wrapHandshakeUnfragmented msgType messageSeq body ++ rest)
      = .handshake o msgType body :: messageDeliveries o rest := by
  have hnat : (UInt32.ofNat body.length).toNat = body.length := by
    rw [UInt32.toNat_ofNat', Nat.mod_eq_of_lt (by omega)]
  have hsize : (wrapHandshakeUnfragmented msgType messageSeq body ++ rest).length
      = kHandshakeHeaderSize + body.length + rest.length := by
    rw [List.length_append, length_wrapHandshakeUnfragmented]
  have hbody : ((wrapHandshakeUnfragmented msgType messageSeq body ++ rest).drop kHandshakeHeaderSize)
      = body ++ rest := by
    rw [wrapHandshakeUnfragmented, List.append_assoc]
    exact List.drop_left' (by simp [HandshakeHeaderCodec.encode, kHandshakeHeaderSize])
  rw [messageDeliveries, if_pos (by omega), decode_wrapHandshakeUnfragmented msgType messageSeq rest hlen]
  simp only [hnat]
  rw [if_neg (by simp), if_neg (by omega), ← List.drop_drop, hbody, List.take_left' rfl, List.drop_left' rfl]

theorem datagramDeliveries_encode (h : s.state ≠ .failed) (rec : DtlsRecord) (rest : Bytes)
    (hlen : rec.payload.length < 2 ^ 16) (hseq : rec.sequenceNumber.toNat < 2 ^ 48) :
    s.datagramDeliveries C (DtlsRecordCodec.encode rec ++ rest) = s.recordDeliveries C rec
      ++ (run (deliver C) s (s.recordDeliveries C rec)).datagramDeliveries C rest := by
  rw [datagramDeliveries_eq_append h (DtlsRecordCodec.decode_encode rec rest hlen hseq),
    List.drop_left' (DtlsRecordCodec.length_encode rec)]

theorem recordDeliveries_plaintext (version : UInt16) (seq : UInt64) (payload : Bytes) :
    s.recordDeliveries C
        { type := kDtlsContentHandshake, version := version, epoch := 0, sequenceNumber := seq, payload := payload }
      = messageDeliveries .plaintext payload := rfl

end DtlsClientSession

end VianiumVoip.Dtls
