import VianiumVoip.Srtp.SenderRun

/-!
# An RTP packet comes back

`RtpPacket` is what an RTP packet is made of, with a payload; `wellFormed_iff` says that these are exactly the inputs for
which `LocatePayloadStart` finds a payload.  `Encrypt` protects them, and a receiver with the keys of the sender and its
roll-over counter gets back what was encrypted; everything else is refused and leaves the parameters alone.
-/

namespace VianiumVoip.Srtp

open VianiumVoip.Lib

/-! ### RTP packets -/

structure RtpExtension where
  profile : UInt16
  words : List UInt32
  length_words : words.length < 65536

/-- An RTP packet of version 2 with something in it. -/
structure RtpPacket where
  padding : Bool
  /-- The marker bit and the payload type. -/
  markerAndType : UInt8
  sequenceNumber : UInt16
  timestamp : UInt32
  ssrc : UInt32
  csrcs : List UInt32
  extension : Option RtpExtension
  payload : Bytes
  length_csrcs : csrcs.length ≤ 15
  payload_ne : payload ≠ []

/-- Version 2, the padding bit, the extension bit and the number of CSRCs. -/
def firstByte (padding extension : Bool) (cc : ℕ) : UInt8 :=
  0x80 ||| (if padding then 0x20 else 0) ||| (if extension then 0x10 else 0) ||| UInt8.ofNat cc

def RtpExtension.bytes (e : RtpExtension) : Bytes :=
  storeBE16 e.profile ++ (storeBE16 (UInt16.ofNat e.words.length) ++ e.words.flatMap storeBE32)

namespace RtpPacket

/-- What stands behind the fixed header, in front of the payload. -/
def options (p : RtpPacket) : Bytes := p.csrcs.flatMap storeBE32 ++ p.extension.elim [] RtpExtension.bytes

def bytes (p : RtpPacket) : Bytes :=
  firstByte p.padding p.extension.isSome p.csrcs.length :: p.markerAndType ::
    (storeBE16 p.sequenceNumber ++ (storeBE32 p.timestamp ++ (storeBE32 p.ssrc ++ (p.options ++ p.payload))))

end RtpPacket

/-! ### The first byte -/

theorem firstByte_reads (padding extension : Bool) {cc : ℕ} (hcc : cc ≤ 15) :
    firstByte padding extension cc >>> 6 = 2 ∧ (firstByte padding extension cc &&& 0x0F).toNat = cc ∧
      (firstByte padding extension cc &&& 0x10 ≠ 0 ↔ extension = true) := by
  have hall : ∀ (padding extension : Bool) (cc : Fin 16), firstByte padding extension cc >>> 6 = 2 ∧
      (firstByte padding extension cc &&& 0x0F).toNat = cc ∧
        (firstByte padding extension cc &&& 0x10 ≠ 0 ↔ extension = true) := by decide
  exact hall padding extension ⟨cc, by omega⟩

theorem eq_firstByte {b : UInt8} (h : b >>> 6 = 2) :
    b = firstByte (decide (b &&& 0x20 ≠ 0)) (decide (b &&& 0x10 ≠ 0)) (b &&& 0x0F).toNat := by
  revert h
  exact forall_byte (by decide +kernel) b

/-! ### Words -/

theorem length_flatMap_storeBE32 (words : List UInt32) : (words.flatMap storeBE32).length = 4 * words.length := by
  induction words with
  | nil => rfl
  | cons word words ih => rw [List.flatMap_cons, List.length_append, length_storeBE32, ih, List.length_cons]; omega

theorem exists_storeBE16 (bytes : Bytes) (h : bytes.length = 2) : ∃ v, storeBE16 v = bytes := by
  have hlt : ofBE bytes < 2 ^ 16 := by
    have hlt := ofBE_lt bytes
    rwa [h] at hlt
  refine ⟨UInt16.ofNat (ofBE bytes), ?_⟩
  rw [storeBE16, UInt16.toNat_ofNat', Nat.mod_eq_of_lt hlt, ← h, toBE_ofBE]

theorem exists_storeBE32 (bytes : Bytes) (h : bytes.length = 4) : ∃ v, storeBE32 v = bytes :=
  ⟨loadBE32 bytes, by rw [storeBE32_load h.ge, List.take_of_length_le h.le]⟩

theorem exists_words (n : ℕ) (bytes : Bytes) (h : bytes.length = 4 * n) :
    ∃ words : List UInt32, words.length = n ∧ words.flatMap storeBE32 = bytes := by
  induction n generalizing bytes with
  | zero => exact ⟨[], rfl, (List.length_eq_zero_iff.1 h).symm⟩
  | succ n ih =>
    obtain ⟨words, hlen, hwords⟩ := ih (bytes.drop 4) (by rw [List.length_drop]; omega)
    obtain ⟨word, hword⟩ := exists_storeBE32 (bytes.take 4) (by rw [List.length_take]; omega)
    refine ⟨word :: words, by rw [List.length_cons, hlen], ?_⟩
    rw [List.flatMap_cons, hwords, hword, List.take_append_drop]

theorem exists_split (bytes : Bytes) {n : ℕ} (h : n ≤ bytes.length) :
    ∃ front rest, bytes = front ++ rest ∧ front.length = n :=
  ⟨bytes.take n, bytes.drop n, (List.take_append_drop n bytes).symm, by rw [List.length_take]; omega⟩

/-! ### Where the payload begins -/

namespace RtpPacket

variable (p : RtpPacket)

theorem length_options : p.options.length = 4 * p.csrcs.length + p.extension.elim 0 fun e => 4 + 4 * e.words.length := by
  rw [options, List.length_append, length_flatMap_storeBE32]
  cases p.extension with
  | none => rfl
  | some e =>
    simp only [Option.elim_some, RtpExtension.bytes, List.length_append, length_storeBE16, length_flatMap_storeBE32]
    omega

theorem length_bytes : p.bytes.length = 12 + p.options.length + p.payload.length := by
  simp only [bytes, List.length_cons, List.length_append, length_storeBE16, length_storeBE32]
  omega

theorem drop_bytes (n : ℕ) : p.bytes.drop (12 + n) = (p.options ++ p.payload).drop n := by
  have hfixed : p.bytes.drop 12 = p.options ++ p.payload := by
    rw [bytes, List.drop_succ_cons, List.drop_succ_cons, drop_storeBE16 _ 8, drop_storeBE32 _ 4, drop_storeBE32 _ 0,
      List.drop_zero]
  rw [← hfixed, List.drop_drop]

theorem loadBE16_extension {e : RtpExtension} (h : p.extension = some e) :
    (loadBE16 (p.bytes.drop (12 + p.csrcs.length * 4 + 2))).toNat = e.words.length := by
  have hoptions : (p.options ++ p.payload).drop (p.csrcs.length * 4 + 2)
      = storeBE16 (UInt16.ofNat e.words.length) ++ (e.words.flatMap storeBE32 ++ p.payload) := by
    have hcsrcs : (p.csrcs.flatMap storeBE32).length = p.csrcs.length * 4 := by
      rw [length_flatMap_storeBE32, Nat.mul_comm]
    rw [options, h, Option.elim_some, RtpExtension.bytes, ← List.drop_drop, List.append_assoc, List.drop_left' hcsrcs,
      List.append_assoc, drop_storeBE16 _ 0, List.drop_zero, List.append_assoc]
  rw [Nat.add_assoc, p.drop_bytes, hoptions, loadBE16_store, UInt16.toNat_ofNat', Nat.mod_eq_of_lt e.length_words]

theorem locatePayloadStart_bytes : locatePayloadStart p.bytes = 12 + p.options.length := by
  obtain ⟨hversion, hcc, hextension⟩ := firstByte_reads p.padding p.extension.isSome p.length_csrcs
  have hfirst : p.bytes.getD 0 0 = firstByte p.padding p.extension.isSome p.csrcs.length := rfl
  have hlen := p.length_bytes
  have hoptions := p.length_options
  unfold locatePayloadStart
  simp only [hfirst, hversion, hcc, hextension, kRtpFixedHeaderSize]
  rw [if_neg (by omega), if_neg (not_not_intro rfl), if_neg (by omega)]
  cases hext : p.extension with
  | none =>
    rw [hext, Option.elim_none] at hoptions
    rw [if_neg (by decide)]
    omega
  | some e =>
    rw [hext, Option.elim_some] at hoptions
    rw [Option.isSome_some, if_pos rfl, if_neg (by omega), p.loadBE16_extension hext, if_neg (by omega)]
    omega

theorem wellFormed_bytes : WellFormed p.bytes := by
  have hpayload : 0 < p.payload.length := List.length_pos_iff.2 p.payload_ne
  have hlen := p.length_bytes
  refine ⟨?_, ?_⟩ <;> rw [p.locatePayloadStart_bytes] <;> omega

theorem headerSequenceNumber_bytes : headerSequenceNumber p.bytes = p.sequenceNumber := by
  rw [headerSequenceNumber, bytes, List.drop_succ_cons, List.drop_succ_cons, List.drop_zero, loadBE16_store]

end RtpPacket

/-- What `LocatePayloadStart` reads of a well-formed header. -/
theorem WellFormed.reads {rtp : Bytes} (h : WellFormed rtp) :
    12 ≤ rtp.length ∧ rtp.getD 0 0 >>> 6 = 2 ∧
      (rtp.getD 0 0 &&& 0x10 = 0 ∧ 12 + (rtp.getD 0 0 &&& 0x0F).toNat * 4 < rtp.length ∨
        rtp.getD 0 0 &&& 0x10 ≠ 0 ∧ 12 + (rtp.getD 0 0 &&& 0x0F).toNat * 4 + 4 +
          (loadBE16 (rtp.drop (12 + (rtp.getD 0 0 &&& 0x0F).toNat * 4 + 2))).toNat * 4 < rtp.length) := by
  unfold WellFormed locatePayloadStart at h
  rw [show kRtpFixedHeaderSize = 12 from rfl] at h
  by_cases hshort : rtp.length < 12
  · rw [if_pos hshort] at h
    exact absurd rfl h.1
  rw [if_neg hshort] at h
  by_cases hversion : rtp.getD 0 0 >>> 6 ≠ 2
  · rw [if_pos hversion] at h
    exact absurd rfl h.1
  rw [if_neg hversion] at h
  refine ⟨by omega, not_not.1 hversion, ?_⟩
  by_cases hcsrcs : rtp.length < 12 + (rtp.getD 0 0 &&& 0x0F).toNat * 4
  · rw [if_pos hcsrcs] at h
    exact absurd rfl h.1
  rw [if_neg hcsrcs] at h
  by_cases hext : rtp.getD 0 0 &&& 0x10 ≠ 0
  · rw [if_pos hext] at h
    refine .inr ⟨hext, ?_⟩
    dsimp only at h
    split_ifs at h <;> omega
  · rw [if_neg hext] at h
    exact .inl ⟨not_not.1 hext, h.2⟩

theorem exists_csrcs (rest : Bytes) (cc : ℕ) (h : 4 * cc ≤ rest.length) :
    ∃ (csrcs : List UInt32) (tail : Bytes), csrcs.length = cc ∧ rest = csrcs.flatMap storeBE32 ++ tail := by
  obtain ⟨front, tail, hrest, hfront⟩ := exists_split rest h
  obtain ⟨csrcs, hlen, hwords⟩ := exists_words cc front hfront
  exact ⟨csrcs, tail, hlen, by rw [hwords, hrest]⟩

theorem exists_extension (tail : Bytes) (h : 4 + (loadBE16 (tail.drop 2)).toNat * 4 < tail.length) :
    ∃ (e : RtpExtension) (payload : Bytes), payload ≠ [] ∧ tail = e.bytes ++ payload := by
  obtain ⟨front, rest, rfl, hfront⟩ := exists_split tail (n := 2) (by omega)
  obtain ⟨size, rest, rfl, hsize⟩ := exists_split rest (n := 2) (by
    rw [List.length_append] at h
    omega)
  obtain ⟨profile, rfl⟩ := exists_storeBE16 _ hfront
  obtain ⟨count, rfl⟩ := exists_storeBE16 _ hsize
  rw [drop_storeBE16 _ 0, List.drop_zero, loadBE16_store] at h
  simp only [List.length_append, length_storeBE16] at h
  obtain ⟨words, payload, hlen, rfl⟩ := exists_csrcs rest count.toNat (by omega)
  have hlt := count.toNat_lt
  refine ⟨⟨profile, words, by omega⟩, payload, ?_, ?_⟩
  · rintro rfl
    rw [List.append_nil, length_flatMap_storeBE32] at h
    omega
  · show _ = storeBE16 profile ++ (storeBE16 (UInt16.ofNat words.length) ++ words.flatMap storeBE32) ++ payload
    rw [hlen, UInt16.ofNat_toNat, List.append_assoc, List.append_assoc]

/-- **The well-formed inputs are the RTP packets.** -/
theorem wellFormed_iff {rtp : Bytes} : WellFormed rtp ↔ ∃ p : RtpPacket, p.bytes = rtp := by
  refine ⟨fun h => ?_, fun ⟨p, hp⟩ => hp ▸ p.wellFormed_bytes⟩
  obtain ⟨hlen, hversion, hrest⟩ := h.reads
  obtain ⟨b0, b1, rest, rfl⟩ : ∃ b0 b1 rest, rtp = b0 :: b1 :: rest := by
    rcases rtp with _ | ⟨b0, _ | ⟨b1, rest⟩⟩
    · cases hlen
    · simp at hlen
    · exact ⟨b0, b1, rest, rfl⟩
  have hfirst : (b0 :: b1 :: rest).getD 0 0 = b0 := rfl
  rw [hfirst] at hversion hrest
  set cc := (b0 &&& 0x0F).toNat with hcc
  have hcc15 : cc ≤ 15 := by
    rw [hcc, UInt8.toNat_and]
    exact Nat.and_le_right
  simp only [List.length_cons] at hlen hrest
  obtain ⟨seq, rest, rfl, hseq⟩ := exists_split rest (n := 2) (by omega)
  obtain ⟨sequenceNumber, rfl⟩ := exists_storeBE16 _ hseq
  simp only [List.length_append, length_storeBE16] at hlen hrest
  obtain ⟨time, rest, rfl, htime⟩ := exists_split rest (n := 4) (by omega)
  obtain ⟨timestamp, rfl⟩ := exists_storeBE32 _ htime
  simp only [List.length_append, length_storeBE32] at hlen hrest
  obtain ⟨source, rest, rfl, hsource⟩ := exists_split rest (n := 4) (by omega)
  obtain ⟨ssrc, rfl⟩ := exists_storeBE32 _ hsource
  simp only [List.length_append, length_storeBE32] at hlen hrest
  have hcsrcs : 4 * cc ≤ rest.length := by
    rcases hrest with ⟨_, hlong⟩ | ⟨_, hlong⟩ <;> omega
  obtain ⟨csrcs, tail, hcsrcsLen, rfl⟩ := exists_csrcs rest cc hcsrcs
  have hb0 := eq_firstByte hversion
  rw [← hcc] at hb0
  rw [List.length_append, length_flatMap_storeBE32, hcsrcsLen] at hrest
  rcases hrest with ⟨hext, hlong⟩ | ⟨hext, hlong⟩
  · -- no extension: the rest is the payload
    have hne : tail ≠ [] := by
      rintro rfl
      rw [List.length_nil] at hlong
      omega
    refine ⟨⟨decide (b0 &&& 0x20 ≠ 0), b1, sequenceNumber, timestamp, ssrc, csrcs, none, tail, by omega, hne⟩, ?_⟩
    rw [decide_eq_false (not_not_intro hext)] at hb0
    show firstByte (decide (b0 &&& 0x20 ≠ 0)) false csrcs.length :: b1 :: (storeBE16 sequenceNumber ++
      (storeBE32 timestamp ++ (storeBE32 ssrc ++ (csrcs.flatMap storeBE32 ++ [] ++ tail)))) = _
    rw [hcsrcsLen, ← hb0, List.append_nil]
  · -- the extension stands behind the CSRCs
    have hdrop : (b0 :: b1 :: (storeBE16 sequenceNumber ++ (storeBE32 timestamp ++ (storeBE32 ssrc ++
        (csrcs.flatMap storeBE32 ++ tail))))).drop (12 + cc * 4 + 2) = tail.drop 2 := by
      have hskip : (csrcs.flatMap storeBE32).length = cc * 4 := by
        rw [length_flatMap_storeBE32, hcsrcsLen, Nat.mul_comm]
      rw [Nat.add_assoc, ← List.drop_drop, List.drop_succ_cons, List.drop_succ_cons, drop_storeBE16 _ 8,
        drop_storeBE32 _ 4, drop_storeBE32 _ 0, List.drop_zero, ← List.drop_drop, List.drop_left' hskip]
    rw [hdrop] at hlong
    obtain ⟨e, payload, hne, rfl⟩ := exists_extension tail (by omega)
    refine ⟨⟨decide (b0 &&& 0x20 ≠ 0), b1, sequenceNumber, timestamp, ssrc, csrcs, some e, payload, by omega, hne⟩, ?_⟩
    rw [decide_eq_true hext] at hb0
    show firstByte (decide (b0 &&& 0x20 ≠ 0)) true csrcs.length :: b1 :: (storeBE16 sequenceNumber ++
      (storeBE32 timestamp ++ (storeBE32 ssrc ++ (csrcs.flatMap storeBE32 ++ e.bytes ++ payload)))) = _
    rw [hcsrcsLen, ← hb0, List.append_assoc]

/-! ### The round trip -/

/-- The keys, the SSRC and the roll-over counter of a receiver are those that the sender encrypted under. -/
structure SameSession (receiver sender : SrtpEncryptParams) : Prop where
  encrKey : receiver.sessionEncrKey = sender.sessionEncrKey
  authKey : receiver.sessionAuthKey = sender.sessionAuthKey
  salt : receiver.sessionSalt = sender.sessionSalt
  ssrc : receiver.ssrc = sender.ssrc
  rolloverCounter : receiver.rolloverCounter = sender.rolloverCounter

section

variable (C : Crypto) {sender : SrtpEncryptParams} {rtp : Bytes}

/-- What is sent depends on the session alone, not on the last sequence number. -/
theorem SameSession.protect {receiver : SrtpEncryptParams} (h : SameSession receiver sender)
    (sequenceNumber : UInt16) : protect C receiver rtp sequenceNumber = protect C sender rtp sequenceNumber := by
  simp only [Srtp.protect, cryptPayload, h.encrKey, h.authKey, h.salt, h.ssrc, h.rolloverCounter]

theorem decrypt_sent {receiver : SrtpEncryptParams} (hrtp : WellFormed rtp)
    (h : SameSession receiver (encrypt C sender rtp (headerSequenceNumber rtp)).1) :
    decrypt C receiver (encrypt C sender rtp (headerSequenceNumber rtp)).2 = some rtp := by
  rw [encrypt_of_wellFormed C _ hrtp] at h ⊢
  exact (decrypt_eq_some_iff C).2 ⟨hrtp.1, (h.protect C _).symm⟩

theorem encrypt_of_not_wellFormed (sequenceNumber : UInt16) (h : ¬ WellFormed rtp) :
    encrypt C sender rtp sequenceNumber = (sender, []) := by
  unfold encrypt
  by_cases hnil : rtp = []
  · rw [if_pos hnil]
  rw [WellFormed, not_and_or, not_not, not_lt] at h
  rw [if_neg hnil]
  exact if_pos h

/-- **What a sender encrypts, a receiver with its session gets back, whatever the header looks like; what is no RTP packet
with a payload gives nothing and leaves the parameters alone.** -/
theorem srtp_round_trip (sender : SrtpEncryptParams) (rtp : Bytes) (sequenceNumber : UInt16) :
    (∀ p : RtpPacket, p.bytes = rtp → p.sequenceNumber = sequenceNumber →
      ∀ receiver, SameSession receiver (encrypt C sender rtp sequenceNumber).1 →
        decrypt C receiver (encrypt C sender rtp sequenceNumber).2 = some rtp) ∧
      ((∀ p : RtpPacket, p.bytes ≠ rtp) → encrypt C sender rtp sequenceNumber = (sender, [])) := by
  refine ⟨?_, fun h => ?_⟩
  · rintro p rfl rfl receiver hsession
    rw [← p.headerSequenceNumber_bytes] at hsession ⊢
    exact decrypt_sent C p.wellFormed_bytes hsession
  · refine encrypt_of_not_wellFormed C sequenceNumber fun hrtp => ?_
    obtain ⟨p, hp⟩ := wellFormed_iff.1 hrtp
    exact h p hp

end

end VianiumVoip.Srtp
