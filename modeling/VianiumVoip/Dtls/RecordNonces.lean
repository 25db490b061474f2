import VianiumVoip.Dtls.Authentication

/-!
# The nonces of the records

A record's nonce comes from `(epoch << 48) | sequence`, and an encryption under a write key uses it up.  The two
counters are advanced in every place that sends a record, in plaintext records too, and each answered ServerHelloDone
begins a new epoch.  `encryptions_distinct` says that no run of a session, with handshakes driven again as often as
anyone likes, uses a pair of key and number twice, as long as neither counter goes round.

`position` reads the two counters as one number.  It only grows, and each encryption takes the number at which it stands
and moves it on (`Fresh`).
-/

namespace VianiumVoip.Dtls

open VianiumVoip.Lib VianiumVoip.Lib.Run VianiumVoip.Cert

/-- An AES-GCM encryption: the key and the 64-bit number that it was given. -/
structure Encryption where
  key : Bytes
  sequence : UInt64
  deriving DecidableEq

inductive SessionCall
  | initiate (draws : InitiateDraws)
  | processDatagram (data : Bytes)
  | encryptAppData (plaintext : Bytes)

namespace DtlsClientSession

section Definitions

variable (C : Crypto) (s : DtlsClientSession)

/-- `EncryptAppData` -/
def encryptAppData (plaintext : Bytes) : DtlsClientSession × Bytes :=
  if s.state ≠ .established then (s, [])
  else
    match s.clientCipher.bind fun cipher =>
        C.encrypt cipher plaintext (combinedSeq s.clientEpoch s.clientRecordSeq) kDtlsContentApplicationData
          kDtlsVersion12 with
    | none => (s, [])
    | some ct =>
      ({ s with clientRecordSeq := s.clientRecordSeq + 1 },
        wrapRecord kDtlsContentApplicationData kDtlsVersion12 s.clientEpoch s.clientRecordSeq ct)

/-- The encryption in `EncryptAppData`, where it succeeds. -/
def appDataEncryption (plaintext : Bytes) : Option Encryption :=
  if s.state ≠ .established then none
  else
    s.clientCipher.bind fun cipher =>
      (C.encrypt cipher plaintext (combinedSeq s.clientEpoch s.clientRecordSeq) kDtlsContentApplicationData
        kDtlsVersion12).map fun _ => { key := cipher.key, sequence := combinedSeq s.clientEpoch s.clientRecordSeq }

/-- The encrypted Finished of `BuildClientFinishedFlight`, in the new epoch and under the number 0. -/
def encryptFinished : Option Bytes :=
  s.clientCipher.bind fun cipher =>
    C.encrypt cipher
      (wrapHandshakeUnfragmented kHsFinished s.clientMessageSeq (s.buildFinishedBody C s.handshakeTranscript true))
      (combinedSeq (s.clientEpoch + 1) 0) kDtlsContentHandshake kDtlsVersion12

/-- The encryption of the Finished, where it succeeds. -/
def finishedEncryption : Option Encryption :=
  s.clientCipher.bind fun cipher =>
    (s.encryptFinished C).map fun _ => { key := cipher.key, sequence := combinedSeq (s.clientEpoch + 1) 0 }

/-- The encryption that a handshake message leads to: the client's Finished, once its keys are derived. -/
def messageEncryption (msgType : UInt8) (body : Bytes) : Option Encryption :=
  if msgType ≠ kHsServerHelloDone then none
  else if ((s.sendClientFlight C body).1.deriveKeysAndCipher C).state = .failed then none
  else ((s.sendClientFlight C body).1.deriveKeysAndCipher C).finishedEncryption C

/-- What one delivery encrypts. -/
def deliveryEncryption (d : Delivery) : Option Encryption :=
  match d with
  | .handshake _ msgType body => if s.state = .failed then none else s.messageEncryption C msgType body
  | _ => none

/-- What one delivery sends. -/
def deliverySent (d : Delivery) : List Bytes :=
  match d with
  | .handshake _ msgType body => if s.state = .failed then [] else (s.handleHandshakeMessage C msgType body).2
  | _ => []

/-- The delivery is a ServerHelloDone that is processed. -/
def isHelloDone (d : Delivery) : Bool :=
  match d with
  | .handshake _ msgType _ => s.state ≠ .failed && msgType = kHsServerHelloDone
  | _ => false

/-- The datagrams that some deliveries send. -/
def sentBy : DtlsClientSession → List Delivery → List Bytes
  | _, [] => []
  | s, d :: ds => s.deliverySent C d ++ sentBy (s.deliver C d) ds

/-- How many of some deliveries are a ServerHelloDone that is processed. -/
def helloDonesOf : DtlsClientSession → List Delivery → ℕ
  | _, [] => 0
  | s, d :: ds => (s.isHelloDone d).toNat + helloDonesOf (s.deliver C d) ds

/-- What some deliveries encrypt. -/
def encryptionsOf (ds : List Delivery) : List Encryption := history (deliver C) (deliveryEncryption C) s ds

end Definitions

end DtlsClientSession

/-- A session with what is counted along its run. -/
structure TracedSession where
  session : DtlsClientSession
  /-- How many ServerHelloDone messages were processed. -/
  helloDones : ℕ := 0
  /-- The records that were sent. -/
  sent : List Bytes := []
  encryptions : List Encryption := []

namespace TracedSession

open DtlsClientSession

/-- One call, by the functions of the session. -/
def step (C : Crypto) (t : TracedSession) : SessionCall → TracedSession
  | .initiate draws =>
    { t with session := (t.session.initiate draws).1, sent := t.sent ++ (t.session.initiate draws).2 }
  | .processDatagram data =>
    { session := (t.session.processDatagram C data).1
      helloDones := t.helloDones + helloDonesOf C t.session (t.session.datagramDeliveries C data)
      sent := t.sent ++ (t.session.processDatagram C data).2.1
      encryptions := t.encryptions ++ t.session.encryptionsOf C (t.session.datagramDeliveries C data) }
  | .encryptAppData plaintext =>
    { t with
      session := (t.session.encryptAppData C plaintext).1
      sent :=
        t.sent ++ if (t.session.encryptAppData C plaintext).2 = [] then [] else [(t.session.encryptAppData C plaintext).2]
      encryptions := t.encryptions ++ (t.session.appDataEncryption C plaintext).toList }

end TracedSession

/-! ### What a handshake message sends and encrypts -/

namespace DtlsClientSession

variable {C : Crypto} {s : DtlsClientSession}

/-- The session after a message, the records it sends and what it encrypts, as far as the counters go. -/
inductive Emission (s : DtlsClientSession) (msgType : UInt8) :
    (after : DtlsClientSession) → List Bytes → Option Encryption → Prop
  | plaintext {after : DtlsClientSession} (sent : List Bytes) (hepoch : after.clientEpoch = s.clientEpoch)
      (hseq : after.clientRecordSeq = s.clientRecordSeq + UInt64.ofNat sent.length) : Emission s msgType after sent none
  /-- A new epoch, in which the Finished is the first record if it could be encrypted. -/
  | finished {after : DtlsClientSession} {sent : List Bytes} {encryption : Option Encryption}
      (hdone : msgType = kHsServerHelloDone) (hepoch : after.clientEpoch = s.clientEpoch + 1)
      (hseq : after.clientRecordSeq = if encryption.isSome then 1 else 0) (hsent : sent ≠ [])
      (hencryption : ∀ e ∈ encryption, e.sequence = combinedSeq (s.clientEpoch + 1) 0) :
      Emission s msgType after sent encryption

theorem Emission.quiet {msgType : UInt8} {after : DtlsClientSession} (hepoch : after.clientEpoch = s.clientEpoch)
    (hseq : after.clientRecordSeq = s.clientRecordSeq) : Emission s msgType after [] none :=
  .plaintext [] hepoch (hseq.trans (UInt64.add_zero _).symm)

theorem emission_handleHelloVerifyRequest (msgType : UInt8) (body : Bytes) :
    Emission s msgType (s.handleHelloVerifyRequest body).1 (s.handleHelloVerifyRequest body).2 none := by
  unfold handleHelloVerifyRequest
  split
  · exact .quiet rfl rfl
  · exact .plaintext _ rfl rfl

theorem counters_handleServerHello (body : Bytes) :
    (s.handleServerHello body).clientEpoch = s.clientEpoch ∧
      (s.handleServerHello body).clientRecordSeq = s.clientRecordSeq := by
  unfold handleServerHello
  split
  · exact ⟨rfl, rfl⟩
  · split_ifs <;> exact ⟨rfl, rfl⟩

theorem counters_handleCertificate (body : Bytes) :
    (s.handleCertificate C body).clientEpoch = s.clientEpoch ∧
      (s.handleCertificate C body).clientRecordSeq = s.clientRecordSeq := by
  unfold handleCertificate
  split
  · exact ⟨rfl, rfl⟩
  · split
    · exact ⟨rfl, rfl⟩
    · dsimp only
      split_ifs <;> exact ⟨rfl, rfl⟩

theorem counters_handleServerKeyExchange (body : Bytes) :
    (s.handleServerKeyExchange body).clientEpoch = s.clientEpoch ∧
      (s.handleServerKeyExchange body).clientRecordSeq = s.clientRecordSeq := by
  unfold handleServerKeyExchange
  split
  · exact ⟨rfl, rfl⟩
  · split_ifs <;> exact ⟨rfl, rfl⟩

theorem counters_handleFinished (body : Bytes) :
    (s.handleFinished C body).clientEpoch = s.clientEpoch ∧
      (s.handleFinished C body).clientRecordSeq = s.clientRecordSeq := by
  unfold handleFinished
  dsimp only
  split_ifs <;> exact ⟨rfl, rfl⟩

theorem counters_deriveKeysAndCipher :
    (s.deriveKeysAndCipher C).clientEpoch = s.clientEpoch ∧
      (s.deriveKeysAndCipher C).clientRecordSeq = s.clientRecordSeq := by
  unfold deriveKeysAndCipher
  split_ifs
  · exact ⟨rfl, rfl⟩
  · exact ⟨rfl, rfl⟩
  · split
    · exact ⟨rfl, rfl⟩
    · dsimp only
      split_ifs <;> exact ⟨rfl, rfl⟩

/-- Certificate, ClientKeyExchange and CertificateVerify are three plaintext records of the old epoch. -/
theorem counters_sendClientFlight (body : Bytes) :
    (s.sendClientFlight C body).1.clientEpoch = s.clientEpoch ∧
      (s.sendClientFlight C body).1.clientRecordSeq = s.clientRecordSeq + UInt64.ofNat 3 ∧
      (s.sendClientFlight C body).2.length = 3 := by
  refine ⟨rfl, ?_, rfl⟩
  show s.clientRecordSeq + 1 + 1 + 1 = s.clientRecordSeq + UInt64.ofNat 3
  rw [UInt64.add_assoc, UInt64.add_assoc]
  rfl

theorem isSome_finishedEncryption : (s.finishedEncryption C).isSome = (s.encryptFinished C).isSome := by
  unfold finishedEncryption encryptFinished
  cases s.clientCipher with
  | none => rfl
  | some cipher => rw [Option.bind_some, Option.isSome_map]

theorem counters_buildClientFinishedFlight :
    (s.buildClientFinishedFlight C).1.clientEpoch = s.clientEpoch + 1 ∧
      (s.buildClientFinishedFlight C).1.clientRecordSeq = (if (s.finishedEncryption C).isSome then 1 else 0) ∧
      (s.buildClientFinishedFlight C).2 ≠ [] := by
  rw [isSome_finishedEncryption]
  unfold buildClientFinishedFlight
  simp only [appendToHandshakeHash]
  split
  · next hnone =>
    have hencrypt : s.encryptFinished C = none := hnone
    rw [hencrypt]
    exact ⟨rfl, rfl, List.cons_ne_nil _ _⟩
  · next encrypted hsome =>
    have hencrypt : s.encryptFinished C = some encrypted := hsome
    rw [hencrypt]
    exact ⟨rfl, rfl, List.cons_ne_nil _ _⟩

theorem sequence_finishedEncryption : ∀ e ∈ s.finishedEncryption C, e.sequence = combinedSeq (s.clientEpoch + 1) 0 := by
  intro e he
  obtain ⟨cipher, -, hmap⟩ := Option.bind_eq_some_iff.1 he
  obtain ⟨encrypted, -, rfl⟩ := Option.map_eq_some_iff.1 hmap
  rfl

theorem emission_handleServerHelloDone (body : Bytes) :
    Emission s kHsServerHelloDone (s.handleServerHelloDone C body).1 (s.handleServerHelloDone C body).2
      (s.messageEncryption C kHsServerHelloDone body) := by
  obtain ⟨hflightEpoch, hflightSeq, hflightSent⟩ := counters_sendClientFlight (C := C) (s := s) body
  obtain ⟨hkeysEpoch, hkeysSeq⟩ := counters_deriveKeysAndCipher (C := C) (s := (s.sendClientFlight C body).1)
  unfold handleServerHelloDone messageEncryption
  rw [if_neg (not_not_intro rfl)]
  dsimp only
  split_ifs with hfailed
  · refine .plaintext _ (hkeysEpoch.trans hflightEpoch) ?_
    rw [hflightSent]
    exact hkeysSeq.trans hflightSeq
  · obtain ⟨hepoch, hseq, hsent⟩ :=
      counters_buildClientFinishedFlight (C := C) (s := (s.sendClientFlight C body).1.deriveKeysAndCipher C)
    refine .finished rfl ?_ hseq ?_ ?_
    · rw [hepoch, hkeysEpoch, hflightEpoch]
    · exact fun hnil => hsent (List.append_eq_nil_iff.1 hnil).2
    · intro e he
      rw [sequence_finishedEncryption e he, hkeysEpoch, hflightEpoch]

/-- **What a handshake message can do to the counters.** -/
theorem emission_handleHandshakeMessage (msgType : UInt8) (body : Bytes) :
    Emission s msgType (s.handleHandshakeMessage C msgType body).1 (s.handleHandshakeMessage C msgType body).2
      (s.messageEncryption C msgType body) := by
  by_cases hdone : msgType = kHsServerHelloDone
  · subst hdone
    exact emission_handleServerHelloDone body
  have hnone : s.messageEncryption C msgType body = none := if_pos hdone
  rw [hnone]
  unfold handleHandshakeMessage
  split_ifs
  · exact emission_handleHelloVerifyRequest msgType body
  · exact .quiet (counters_handleServerHello body).1 (counters_handleServerHello body).2
  · exact .quiet (counters_handleCertificate body).1 (counters_handleCertificate body).2
  · exact .quiet (counters_handleServerKeyExchange body).1 (counters_handleServerKeyExchange body).2
  · exact .quiet rfl rfl
  · exact .quiet (counters_handleFinished body).1 (counters_handleFinished body).2
  · exact .quiet rfl rfl

/-! ### The records of a datagram's deliveries -/

theorem sentBy_of_failed (h : s.state = .failed) (ds : List Delivery) : sentBy C s ds = [] := by
  induction ds with
  | nil => rfl
  | cons d ds ih =>
    have hd : s.deliverySent C d = [] := by
      cases d with
      | handshake origin msgType body => exact if_pos h
      | _ => rfl
    rw [sentBy, hd, deliver_of_failed h, ih]
    rfl

theorem sentBy_append (ds ds' : List Delivery) :
    sentBy C s (ds ++ ds') = sentBy C s ds ++ sentBy C (run (deliver C) s ds) ds' := by
  induction ds generalizing s with
  | nil => rfl
  | cons d ds ih => rw [List.cons_append, sentBy, sentBy, ih, List.append_assoc, run_cons]

theorem handleMessages_sent (o : Origin) (msg : Bytes) (h : s.state ≠ .failed) :
    (s.handleMessages C msg).2.1 = sentBy C s (messageDeliveries o msg) := by
  fun_induction handleMessages C s msg with
  | case1 s msg hsize hdec =>
    rw [messageDeliveries, if_pos hsize, hdec]
    rfl
  | case2 s msg hsize hh hdec hfrag =>
    rw [messageDeliveries, if_pos hsize, hdec]
    simp only [if_pos hfrag]
    rfl
  | case3 s msg hsize hh hdec hfrag hover =>
    rw [messageDeliveries, if_pos hsize, hdec]
    simp only [if_neg hfrag, if_pos hover]
    rfl
  | case4 s msg hsize hh hdec hfrag hover body s' out heq hfailed =>
    rw [messageDeliveries, if_pos hsize, hdec]
    simp only [if_neg hfrag, if_neg hover, sentBy, deliverySent, if_neg h, deliver_handshake h]
    rw [heq, sentBy_of_failed hfailed, List.append_nil]
  | case5 s msg hsize hh hdec hfrag hover body s' out heq hlive s'' out' ok heq' ih =>
    have hrest := ih hlive
    rw [heq'] at hrest
    rw [messageDeliveries, if_pos hsize, hdec]
    simp only [if_neg hfrag, if_neg hover, sentBy, deliverySent, if_neg h, deliver_handshake h]
    rw [heq]
    exact congrArg (out ++ ·) hrest
  | case6 s msg hsize =>
    rw [messageDeliveries, if_neg hsize]
    rfl

theorem handleRecord_sent (rec : DtlsRecord) (h : s.state ≠ .failed) :
    (s.handleRecord C rec).2.1 = sentBy C s (s.recordDeliveries C rec) := by
  unfold handleRecord recordDeliveries
  split_ifs with hccs halert hfatal hhs hepoch
  · rfl
  · rfl
  · rfl
  · exact handleMessages_sent .plaintext rec.payload h
  · cases hcipher : s.serverCipher with
    | none => rfl
    | some cipher =>
      dsimp only
      cases C.decrypt cipher rec.payload (combinedSeq rec.epoch rec.sequenceNumber) kDtlsContentHandshake
          kDtlsVersion12 with
      | none => rfl
      | some plain => exact handleMessages_sent (.encrypted rec.epoch cipher) plain h
  · rfl

theorem handleRecords_sent (data : Bytes) (h : s.state ≠ .failed) :
    (s.handleRecords C data).2.1 = sentBy C s (s.datagramDeliveries C data) := by
  fun_induction handleRecords C s data with
  | case1 s data hsize hdec =>
    rw [datagramDeliveries_eq_nil hdec]
    rfl
  | case2 s data hsize rec consumed hdec s' out s'' out' ok heq' heq ih =>
    obtain ⟨hrun, hok⟩ := handleRecord_eq_run (C := C) rec h
    have hsent := handleRecord_sent (C := C) rec h
    rw [heq] at hrun hok hsent
    have hlive : s'.state ≠ .failed := by simpa using hok
    have hrest := ih hlive
    rw [heq'] at hrest
    rw [datagramDeliveries_eq_append h hdec, sentBy_append, ← hrun, ← hrest, ← hsent]
  | case3 s data hsize rec consumed hdec s' out ok heq hnok =>
    obtain ⟨hrun, hok⟩ := handleRecord_eq_run (C := C) rec h
    have hsent := handleRecord_sent (C := C) rec h
    rw [heq] at hrun hok hsent
    have hfailed : s'.state = .failed := hok.1 (by simpa using hnok)
    rw [datagramDeliveries_eq_append h hdec, sentBy_append, ← hrun, sentBy_of_failed hfailed, List.append_nil, ← hsent]
  | case4 s data hsize =>
    rw [datagramDeliveries, if_neg (by simp [hsize])]
    rfl

theorem processDatagram_sent (data : Bytes) :
    (s.processDatagram C data).2.1 = sentBy C s (s.datagramDeliveries C data) := by
  unfold processDatagram
  split_ifs with h
  · rw [datagramDeliveries_of_failed h]
    rfl
  · exact handleRecords_sent data h

/-! ### The two counters as one number -/

theorem toNat_combinedSeq (epoch : UInt16) {seq : UInt64} (h : seq.toNat < 2 ^ 48) :
    (combinedSeq epoch seq).toNat = epoch.toNat * 2 ^ 48 + seq.toNat := by
  have hlt := epoch.toNat_lt
  unfold combinedSeq
  rw [UInt64.toNat_or, UInt64.toNat_shiftLeft, UInt16.toNat_toUInt64, Nat.mod_eq_of_lt (by
    show epoch.toNat <<< 48 < 2 ^ 64
    rw [Nat.shiftLeft_eq]
    omega)]
  exact (Nat.shiftLeft_add_eq_or_of_lt h epoch.toNat).symm.trans (by rw [Nat.shiftLeft_eq])

/-- Where the session stands in the sequence of all records. -/
def position (s : DtlsClientSession) : ℕ := s.clientEpoch.toNat * 2 ^ 48 + s.clientRecordSeq.toNat

/-- **The invariant**: the encryptions so far took increasing numbers, all below the position. -/
structure Fresh (s : DtlsClientSession) (helloDones sent : ℕ) (es : List Encryption) : Prop where
  epoch : s.clientEpoch.toNat ≤ helloDones
  seq : s.clientRecordSeq.toNat ≤ sent
  below : ∀ e ∈ es, e.sequence.toNat < s.position
  increasing : es.Pairwise fun a b => a.sequence < b.sequence

variable {helloDones sent : ℕ} {es : List Encryption}

theorem Fresh.advance {s' : DtlsClientSession} {helloDones' sent' : ℕ} (h : Fresh s helloDones sent es)
    (hepoch : s'.clientEpoch.toNat ≤ helloDones') (hseq : s'.clientRecordSeq.toNat ≤ sent')
    (hposition : s.position ≤ s'.position) : Fresh s' helloDones' sent' es :=
  ⟨hepoch, hseq, fun e he => (h.below e he).trans_le hposition, h.increasing⟩

/-- An encryption takes a number from the position on, and leaves the position behind it. -/
theorem Fresh.encrypt {s' : DtlsClientSession} {helloDones' sent' : ℕ} (h : Fresh s helloDones sent es)
    (hepoch : s'.clientEpoch.toNat ≤ helloDones') (hseq : s'.clientRecordSeq.toNat ≤ sent') {e : Encryption}
    (htakes : s.position ≤ e.sequence.toNat) (hposition : e.sequence.toNat < s'.position) :
    Fresh s' helloDones' sent' (es ++ [e]) := by
  refine ⟨hepoch, hseq, fun e' he' => ?_, ?_⟩
  · rcases List.mem_append.1 he' with hold | hnew
    · exact (h.below e' hold).trans (htakes.trans_lt hposition)
    · rw [List.mem_singleton.1 hnew]
      exact hposition
  · rw [List.pairwise_append]
    refine ⟨h.increasing, List.pairwise_singleton _ _, fun a ha b hb => ?_⟩
    rw [List.mem_singleton.1 hb]
    exact UInt64.lt_iff_toNat_lt.2 ((h.below a ha).trans_le htakes)

theorem toNat_add_ofNat {seq : UInt64} {n : ℕ} (h : seq.toNat + n < 2 ^ 48) :
    (seq + UInt64.ofNat n).toNat = seq.toNat + n := by
  rw [UInt64.toNat_add, UInt64.toNat_ofNat', Nat.mod_eq_of_lt (show n < 2 ^ 64 by omega), Nat.mod_eq_of_lt (by omega)]

theorem fresh_emission {msgType : UInt8} {after : DtlsClientSession} {records : List Bytes}
    {encryption : Option Encryption} (h : Fresh s helloDones sent es)
    (hemission : Emission s msgType after records encryption)
    (hdones : helloDones + (decide (msgType = kHsServerHelloDone)).toNat < 2 ^ 16)
    (hsent : sent + records.length < 2 ^ 48) :
    Fresh after (helloDones + (decide (msgType = kHsServerHelloDone)).toNat) (sent + records.length)
      (es ++ encryption.toList) := by
  have hepochLe := h.epoch
  have hseqLe := h.seq
  cases hemission with
  | plaintext hepoch hseq =>
    have hnat : after.clientRecordSeq.toNat = s.clientRecordSeq.toNat + records.length := by
      rw [hseq, toNat_add_ofNat (by omega)]
    rw [Option.toList_none, List.append_nil]
    refine h.advance ?_ ?_ ?_
    · rw [hepoch]
      exact hepochLe.trans (Nat.le_add_right _ _)
    · omega
    · unfold position
      rw [hepoch, hnat]
      omega
  | finished hdone hepoch hseq hrecords hencryption =>
    rw [hdone, decide_eq_true rfl, Bool.toNat_true] at hdones ⊢
    have hnat : after.clientEpoch.toNat = s.clientEpoch.toNat + 1 := by
      rw [hepoch, UInt16.toNat_add]
      exact Nat.mod_eq_of_lt (show s.clientEpoch.toNat + 1 < 2 ^ 16 by omega)
    have hpos := List.length_pos_iff.2 hrecords
    cases encryption with
    | none =>
      have hzero : after.clientRecordSeq = 0 := hseq
      rw [Option.toList_none, List.append_nil]
      refine h.advance (by omega) ?_ ?_
      · rw [hzero]
        exact Nat.zero_le _
      · unfold position
        rw [hnat, hzero, UInt64.toNat_zero]
        omega
    | some e =>
      have hone : after.clientRecordSeq.toNat = 1 := by
        rw [hseq]
        rfl
      have htaken : e.sequence.toNat = (s.clientEpoch.toNat + 1) * 2 ^ 48 := by
        have hzero : (0 : UInt64).toNat < 2 ^ 48 := Nat.two_pow_pos 48
        rw [hencryption e rfl, ← hepoch, toNat_combinedSeq _ hzero, hnat, UInt64.toNat_zero, Nat.add_zero]
      refine h.encrypt (by omega) (by omega) ?_ ?_
      · rw [htaken]
        unfold position
        omega
      · rw [htaken]
        unfold position
        rw [hnat, hone]
        omega

/-! ### Runs -/

theorem fresh_deliver (d : Delivery) (h : Fresh s helloDones sent es)
    (hdones : helloDones + (s.isHelloDone d).toNat < 2 ^ 16)
    (hsent : sent + (s.deliverySent C d).length < 2 ^ 48) :
    Fresh (s.deliver C d) (helloDones + (s.isHelloDone d).toNat) (sent + (s.deliverySent C d).length)
      (es ++ (s.deliveryEncryption C d).toList) := by
  by_cases hfailed : s.state = .failed
  · have hnone : s.deliveryEncryption C d = none := by
      cases d with
      | handshake origin msgType body => exact if_pos hfailed
      | _ => rfl
    rw [hnone, deliver_of_failed hfailed, Option.toList_none, List.append_nil]
    exact h.advance (h.epoch.trans (Nat.le_add_right _ _)) (h.seq.trans (Nat.le_add_right _ _)) le_rfl
  cases d with
  | changeCipherSpec =>
    have hstep : s.deliver C .changeCipherSpec = s.handleChangeCipherSpec := if_neg hfailed
    rw [hstep]
    simp only [deliveryEncryption, Option.toList_none, List.append_nil]
    exact h.advance h.epoch h.seq le_rfl
  | failure reason =>
    rw [deliver_failure hfailed]
    simp only [deliveryEncryption, Option.toList_none, List.append_nil]
    exact h.advance h.epoch h.seq le_rfl
  | handshake origin msgType body =>
    have hdone : s.isHelloDone (.handshake origin msgType body) = decide (msgType = kHsServerHelloDone) := by
      simp [isHelloDone, hfailed]
    have hrecords : s.deliverySent C (.handshake origin msgType body) = (s.handleHandshakeMessage C msgType body).2 :=
      if_neg hfailed
    have hencryption : s.deliveryEncryption C (.handshake origin msgType body) = s.messageEncryption C msgType body :=
      if_neg hfailed
    rw [hdone] at hdones
    rw [hrecords] at hsent
    rw [hdone, hrecords, hencryption, deliver_handshake hfailed]
    exact fresh_emission h (emission_handleHandshakeMessage msgType body) hdones hsent

/-- By induction on the deliveries; the bounds on the whole run bound each delivery. -/
theorem fresh_deliveries (ds : List Delivery) (h : Fresh s helloDones sent es)
    (hdones : helloDones + helloDonesOf C s ds < 2 ^ 16) (hsent : sent + (sentBy C s ds).length < 2 ^ 48) :
    Fresh (run (deliver C) s ds) (helloDones + helloDonesOf C s ds) (sent + (sentBy C s ds).length)
      (es ++ s.encryptionsOf C ds) := by
  induction ds generalizing s helloDones sent es with
  | nil =>
    rw [encryptionsOf, history_nil, List.append_nil]
    exact h
  | cons d ds ih =>
    rw [helloDonesOf] at hdones ⊢
    rw [sentBy, List.length_append] at hsent ⊢
    have hstep := fresh_deliver (C := C) d h (by omega) (by omega)
    have hrest := ih hstep (by omega) (by omega)
    rw [Nat.add_assoc, Nat.add_assoc, List.append_assoc] at hrest
    exact hrest

theorem fresh_initiate (draws : InitiateDraws) (h : Fresh s helloDones sent es)
    (hsent : sent + (s.initiate draws).2.length < 2 ^ 48) :
    Fresh (s.initiate draws).1 helloDones (sent + (s.initiate draws).2.length) es := by
  have hseq := h.seq
  have hone : (s.initiate draws).2.length = 1 := rfl
  have hnext : s.clientRecordSeq.toNat + 1 < 2 ^ 48 := by omega
  have hnat : (s.initiate draws).1.clientRecordSeq.toNat = s.clientRecordSeq.toNat + 1 := toNat_add_ofNat hnext
  refine h.advance h.epoch (by omega) ?_
  have hepoch : (s.initiate draws).1.clientEpoch = s.clientEpoch := rfl
  unfold position
  rw [hepoch, hnat]
  omega

theorem encryptAppData_cases (plaintext : Bytes) :
    s.encryptAppData C plaintext = (s, []) ∧ s.appDataEncryption C plaintext = none ∨
      ∃ key ct, s.encryptAppData C plaintext
          = ({ s with clientRecordSeq := s.clientRecordSeq + 1 },
              wrapRecord kDtlsContentApplicationData kDtlsVersion12 s.clientEpoch s.clientRecordSeq ct) ∧
        s.appDataEncryption C plaintext
          = some { key := key, sequence := combinedSeq s.clientEpoch s.clientRecordSeq } := by
  unfold encryptAppData appDataEncryption
  split_ifs
  · exact .inl ⟨rfl, rfl⟩
  · cases s.clientCipher with
    | none => exact .inl ⟨rfl, rfl⟩
    | some cipher =>
      simp only [Option.bind_some]
      cases C.encrypt cipher plaintext (combinedSeq s.clientEpoch s.clientRecordSeq) kDtlsContentApplicationData
          kDtlsVersion12 with
      | none => exact .inl ⟨rfl, rfl⟩
      | some ct => exact .inr ⟨cipher.key, ct, rfl, rfl⟩

theorem fresh_appData (key : Bytes) (h : Fresh s helloDones sent es) (hsent : sent + 1 < 2 ^ 48) :
    Fresh { s with clientRecordSeq := s.clientRecordSeq + 1 } helloDones (sent + 1)
      (es ++ [{ key := key, sequence := combinedSeq s.clientEpoch s.clientRecordSeq }]) := by
  have hseq := h.seq
  have hnext : s.clientRecordSeq.toNat + 1 < 2 ^ 48 := by omega
  have hnat : (s.clientRecordSeq + 1).toNat = s.clientRecordSeq.toNat + 1 := toNat_add_ofNat hnext
  have htaken : (combinedSeq s.clientEpoch s.clientRecordSeq).toNat = s.position := toNat_combinedSeq _ (by omega)
  have hepoch : { s with clientRecordSeq := s.clientRecordSeq + 1 }.clientEpoch.toNat ≤ helloDones := h.epoch
  refine h.encrypt (e := ⟨key, combinedSeq s.clientEpoch s.clientRecordSeq⟩) hepoch ?_ htaken.ge ?_
  · show (s.clientRecordSeq + 1).toNat ≤ sent + 1
    omega
  · show (combinedSeq s.clientEpoch s.clientRecordSeq).toNat
      < s.clientEpoch.toNat * 2 ^ 48 + (s.clientRecordSeq + 1).toNat
    rw [htaken, hnat]
    exact Nat.lt_succ_self _

end DtlsClientSession

namespace TracedSession

open DtlsClientSession

variable {C : Crypto} {t : TracedSession}

theorem fresh_step (call : SessionCall) (h : Fresh t.session t.helloDones t.sent.length t.encryptions)
    (hdones : (step C t call).helloDones < 2 ^ 16) (hsent : (step C t call).sent.length < 2 ^ 48) :
    Fresh (step C t call).session (step C t call).helloDones (step C t call).sent.length (step C t call).encryptions := by
  cases call with
  | initiate draws =>
    simp only [step, List.length_append] at hsent ⊢
    exact fresh_initiate draws h hsent
  | processDatagram data =>
    simp only [step, List.length_append, processDatagram_sent, processDatagram_eq_run] at hdones hsent ⊢
    exact fresh_deliveries _ h hdones hsent
  | encryptAppData plaintext =>
    simp only [step] at hsent ⊢
    rcases encryptAppData_cases (C := C) (s := t.session) plaintext with ⟨hcall, hnone⟩ | ⟨key, ct, hcall, hsome⟩
    · rw [hcall, hnone, if_pos rfl, List.append_nil, Option.toList_none, List.append_nil]
      exact h
    · have hrecord : wrapRecord kDtlsContentApplicationData kDtlsVersion12 t.session.clientEpoch
          t.session.clientRecordSeq ct ≠ [] := by
        simp [wrapRecord, DtlsRecordCodec.encode]
      rw [hcall, if_neg hrecord, List.length_append, List.length_singleton] at hsent
      rw [hcall, hsome, if_neg hrecord, List.length_append, List.length_singleton, Option.toList_some]
      exact fresh_appData key h hsent

theorem le_step (C : Crypto) (t : TracedSession) (call : SessionCall) :
    t.helloDones ≤ (step C t call).helloDones ∧ t.sent.length ≤ (step C t call).sent.length := by
  cases call with
  | initiate draws => exact ⟨le_rfl, by simp only [step, List.length_append]; omega⟩
  | processDatagram data => exact ⟨Nat.le_add_right _ _, by simp only [step, List.length_append]; omega⟩
  | encryptAppData plaintext => exact ⟨le_rfl, by simp only [step, List.length_append]; omega⟩

theorem le_run (calls : List SessionCall) :
    t.helloDones ≤ (run (step C) t calls).helloDones ∧ t.sent.length ≤ (run (step C) t calls).sent.length := by
  induction calls generalizing t with
  | nil => exact ⟨le_rfl, le_rfl⟩
  | cons call calls ih =>
    obtain ⟨hdones, hsent⟩ := le_step C t call
    exact ⟨hdones.trans ih.1, hsent.trans ih.2⟩

theorem fresh_run (calls : List SessionCall) (h : Fresh t.session t.helloDones t.sent.length t.encryptions)
    (hdones : (run (step C) t calls).helloDones < 2 ^ 16) (hsent : (run (step C) t calls).sent.length < 2 ^ 48) :
    Fresh (run (step C) t calls).session (run (step C) t calls).helloDones (run (step C) t calls).sent.length
      (run (step C) t calls).encryptions := by
  induction calls generalizing t with
  | nil => exact h
  | cons call calls ih =>
    obtain ⟨hdonesLe, hsentLe⟩ := le_run (C := C) (t := step C t call) calls
    exact ih (fresh_step call h (hdonesLe.trans_lt hdones) (hsentLe.trans_lt hsent)) hdones hsent

/-- **No nonce is used twice.**  In every run of a session that processes fewer than `2 ^ 16` ServerHelloDone messages and
sends fewer than `2 ^ 48` records, no two encryptions under one write key are given the same number. -/
theorem encryptions_distinct (C : Crypto) (ourCert : EcdsaP256KeyPair) (peerFingerprint : List Char)
    (calls : List SessionCall)
    (hdones : (run (step C) { session := create ourCert peerFingerprint } calls).helloDones < 2 ^ 16)
    (hsent : (run (step C) { session := create ourCert peerFingerprint } calls).sent.length < 2 ^ 48) :
    (run (step C) { session := create ourCert peerFingerprint } calls).encryptions.Pairwise fun a b =>
      a.key = b.key → a.sequence ≠ b.sequence := by
  have hnew : Fresh (create ourCert peerFingerprint) 0 0 [] :=
    ⟨le_rfl, le_rfl, fun e he => absurd he List.not_mem_nil, .nil⟩
  have hrun := fresh_run (C := C) (t := { session := create ourCert peerFingerprint }) calls hnew hdones hsent
  refine List.Pairwise.imp ?_ hrun.increasing
  intro a b hlt _
  exact UInt64.ne_of_lt hlt

/-- A whole handshake, two records of application data, and the same flight of the server once more. -/
def sampleCalls : List SessionCall :=
  [.initiate nullDraws] ++ nullServerDatagrams.map .processDatagram
    ++ [.encryptAppData [1], .encryptAppData [1]] ++ (nullServerDatagrams.map .processDatagram).take 1
    ++ nullServerDatagrams.map .processDatagram

theorem encryptions_distinct_null :
    (run (step nullCrypto) { session := create {} (List.replicate 64 '0') } sampleCalls).encryptions.length = 5 ∧
      (run (step nullCrypto) { session := create {} (List.replicate 64 '0') } sampleCalls).encryptions.Pairwise
        fun a b => a.key = b.key → a.sequence ≠ b.sequence :=
  ⟨by decide +kernel, encryptions_distinct nullCrypto {} (List.replicate 64 '0') sampleCalls (by decide +kernel)
    (by decide +kernel)⟩

end TracedSession

end VianiumVoip.Dtls
