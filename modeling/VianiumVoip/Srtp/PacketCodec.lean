import VianiumVoip.Srtp.AesCtr

/-!
# SRTP packets

`SrtpPacketCodec` for the profile AES128_CM_HMAC_SHA1_80: the payload of an RTP packet is encrypted in counter
mode under an initial vector made of the session salt, the SSRC and the 48-bit packet index
`(roll-over counter << 16) | sequence number`, and ten bytes of an HMAC over the packet and the roll-over
counter are appended.
-/

namespace VianiumVoip.Srtp

open VianiumVoip.Lib

def kRtpFixedHeaderSize : ℕ := 12
def kAuthTagSize : ℕ := 10

structure SrtpEncryptParams where
  sessionEncrKey : Bytes
  sessionAuthKey : Bytes
  sessionSalt : Bytes
  ssrc : UInt32
  rolloverCounter : UInt32
  lastSequenceNumber : UInt16
  hasLastSequenceNumber : Bool
  length_sessionEncrKey : sessionEncrKey.length = 16
  length_sessionAuthKey : sessionAuthKey.length = 20
  length_sessionSalt : sessionSalt.length = 14
deriving DecidableEq

/-! ### The RTP header -/

/-- Where the payload begins; 0 for a malformed header. -/
def locatePayloadStart (bytes : Bytes) : ℕ :=
  if bytes.length < kRtpFixedHeaderSize then 0
  else
    let b0 := bytes.getD 0 0
    if b0 >>> 6 ≠ 2 then 0
    else
      let cc := (b0 &&& 0x0F).toNat
      let extensionPresent := b0 &&& 0x10 ≠ 0
      let offset := kRtpFixedHeaderSize + cc * 4
      if bytes.length < offset then 0
      else if extensionPresent then
        if bytes.length < offset + 4 then 0
        else
          let extLengthWords := loadBE16 (bytes.drop (offset + 2))
          let extBytes := extLengthWords.toNat * 4
          if bytes.length < offset + (4 + extBytes) then 0 else offset + (4 + extBytes)
      else offset

/-- The sequence number of the header, bytes 2 and 3. -/
def headerSequenceNumber (packet : Bytes) : UInt16 := loadBE16 (packet.drop 2)

/-- The SSRC of the header, bytes 8 to 11. -/
def headerSsrc (packet : Bytes) : UInt32 := loadBE32 (packet.drop 8)

/-! ### Initial vector and authentication tag -/

/-- `((uint64_t)RolloverCounter << 16) | sequenceNumber` -/
def packetIndex48 (rolloverCounter : UInt32) (sequenceNumber : UInt16) : UInt64 :=
  rolloverCounter.toUInt64 <<< 16 ||| sequenceNumber.toUInt64

/-- The SSRC in bytes 4 to 7, the packet index in bytes 8 to 13, the rest zero, xored with the salt padded by
two zero bytes. -/
def buildPacketIv (salt : Bytes) (ssrc : UInt32) (index : UInt64) : Bytes :=
  xorBytes (List.replicate 4 0 ++ storeBE32 ssrc ++ storeBE48 index) salt ++ [0, 0]

variable (C : Crypto)

/-- The first ten bytes of the HMAC over the packet and the big-endian roll-over counter. -/
def computeAuthTag (authKey packet : Bytes) (roc : UInt32) : Bytes :=
  (C.hmacSha1 authKey (packet ++ storeBE32 roc)).take kAuthTagSize

/-- The differences of all bytes are collected before the verdict. -/
def constantTimeEqual (a b : Bytes) : Bool := (xorBytes a b).foldl (· ||| ·) 0 == 0

/-! ### Encryption and decryption -/

/-- The payload behind `payloadStart` in counter mode under the vector of the packet index, header in clear.
This is its own inverse. -/
def cryptPayload (params : SrtpEncryptParams) (sequenceNumber : UInt16) (packet : Bytes) (payloadStart : ℕ) :
    Bytes :=
  let index := packetIndex48 params.rolloverCounter sequenceNumber
  let iv := buildPacketIv params.sessionSalt params.ssrc index
  packet.take payloadStart ++ SrtpAesCtr.encrypt C params.sessionEncrKey iv (packet.drop payloadStart)

/-- The bookkeeping of the roll-over counter before a packet is sent. -/
def advanceRollover (params : SrtpEncryptParams) (sequenceNumber : UInt16) : SrtpEncryptParams :=
  let prev := params.lastSequenceNumber
  let rollover := params.hasLastSequenceNumber ∧ sequenceNumber < prev
    ∧ prev.toUInt32 - sequenceNumber.toUInt32 < 0x8000
  { params with
    rolloverCounter := if rollover then params.rolloverCounter + 1 else params.rolloverCounter
    lastSequenceNumber := sequenceNumber
    hasLastSequenceNumber := true }

/-- The SRTP packet for an RTP packet under the roll-over counter that `params` holds. -/
def protect (params : SrtpEncryptParams) (rtp : Bytes) (sequenceNumber : UInt16) : Bytes :=
  let srtp := cryptPayload C params sequenceNumber rtp (locatePayloadStart rtp)
  srtp ++ computeAuthTag C params.sessionAuthKey srtp params.rolloverCounter

/-- `SrtpPacketCodec::Encrypt`: the parameters it leaves behind and the SRTP packet, empty on failure. -/
def encrypt (params : SrtpEncryptParams) (rtp : Bytes) (sequenceNumber : UInt16) : SrtpEncryptParams × Bytes :=
  if rtp = [] then (params, [])
  else
    let payloadStart := locatePayloadStart rtp
    if payloadStart = 0 ∨ rtp.length ≤ payloadStart then (params, [])
    else
      let params := advanceRollover params sequenceNumber
      (params, protect C params rtp sequenceNumber)

/-- `SrtpPacketCodec::Decrypt`: the RTP packet, `none` where the codec returns false. -/
def decrypt (params : SrtpEncryptParams) (srtp : Bytes) : Option Bytes :=
  if srtp.length < kRtpFixedHeaderSize + kAuthTagSize then none
  else
    let bodyLen := srtp.length - kAuthTagSize
    let body := srtp.take bodyLen
    let payloadStart := locatePayloadStart body
    if payloadStart = 0 ∨ bodyLen < payloadStart then none
    else if !constantTimeEqual (computeAuthTag C params.sessionAuthKey body params.rolloverCounter)
        (srtp.drop bodyLen) then none
    else some (cryptPayload C params (headerSequenceNumber body) body payloadStart)

/-! ### The header is read from the header alone -/

theorem locatePayloadStart_le (bytes : Bytes) : locatePayloadStart bytes ≤ bytes.length := by
  unfold locatePayloadStart
  simp only
  split_ifs <;> omega

theorem header_le_locatePayloadStart {bytes : Bytes} (h : locatePayloadStart bytes ≠ 0) :
    kRtpFixedHeaderSize ≤ locatePayloadStart bytes := by
  unfold locatePayloadStart at h ⊢
  simp only at h ⊢
  split_ifs at h ⊢ <;> omega

/-- What stands behind a prefix that covers the payload start does not move it. -/
theorem locatePayloadStart_append {header x y : Bytes} (hlen : x.length = y.length)
    (hcover : locatePayloadStart (header ++ x) ≤ header.length) (hne : locatePayloadStart (header ++ x) ≠ 0) :
    locatePayloadStart (header ++ y) = locatePayloadStart (header ++ x) := by
  have hlong : kRtpFixedHeaderSize ≤ header.length := le_trans (header_le_locatePayloadStart hne) hcover
  have hbyte : ∀ z : Bytes, (header ++ z).getD 0 0 = header.getD 0 0 := by
    intro z
    rcases header with _ | ⟨b, header⟩
    · simp [kRtpFixedHeaderSize] at hlong
    · rfl
  have hload : ∀ (z : Bytes) (k : ℕ), k + 2 ≤ header.length →
      loadBE16 ((header ++ z).drop k) = loadBE16 (header.drop k) := by
    intro z k hk
    rw [loadBE16, loadBE16, List.drop_append_of_le_length (by omega),
      List.take_append_of_le_length (by rw [List.length_drop]; omega)]
  -- the length word of the extension, where there is one, stands in the prefix as well
  have hword : ∀ k, k + 2 ≤ header.length →
      (loadBE16 ((header ++ x).drop k)).toNat = (loadBE16 ((header ++ y).drop k)).toNat := by
    intro k hk
    rw [hload x k hk, hload y k hk]
  unfold locatePayloadStart at hcover hne ⊢
  simp only [hbyte, List.length_append, hlen] at hcover hne ⊢
  have := hword (kRtpFixedHeaderSize + (header.getD 0 0 &&& 0x0F).toNat * 4 + 2)
  split_ifs at hcover hne ⊢ <;> omega

theorem headerSequenceNumber_append {header x : Bytes} (h : kRtpFixedHeaderSize ≤ header.length) :
    headerSequenceNumber (header ++ x) = headerSequenceNumber header := by
  have h12 : 12 ≤ header.length := h
  rw [headerSequenceNumber, headerSequenceNumber, loadBE16, loadBE16, List.drop_append_of_le_length (by omega),
    List.take_append_of_le_length (by rw [List.length_drop]; omega)]

theorem headerSsrc_append {header x : Bytes} (h : kRtpFixedHeaderSize ≤ header.length) :
    headerSsrc (header ++ x) = headerSsrc header := by
  have h12 : 12 ≤ header.length := h
  rw [headerSsrc, headerSsrc, loadBE32, loadBE32, List.drop_append_of_le_length (by omega),
    List.take_append_of_le_length (by rw [List.length_drop]; omega)]

/-! ### Packet indices and initial vectors -/

theorem packetIndex48_toNat (roc : UInt32) (seq : UInt16) :
    (packetIndex48 roc seq).toNat = roc.toNat * 65536 + seq.toNat := by
  have hroc := roc.toNat_lt
  have hseq := seq.toNat_lt
  have hor := Nat.shiftLeft_add_eq_or_of_lt (i := 16) (b := seq.toNat) (by omega) roc.toNat
  rw [packetIndex48, UInt64.toNat_or, UInt64.toNat_shiftLeft, UInt32.toNat_toUInt64, UInt16.toNat_toUInt64]
  have h16 : (16 : UInt64).toNat % 64 = 16 := rfl
  have hshift : roc.toNat <<< 16 = roc.toNat * 65536 := by rw [Nat.shiftLeft_eq]
  rw [h16, Nat.mod_eq_of_lt (by rw [hshift]; omega), ← hor, hshift]

theorem packetIndex48_lt (roc : UInt32) (seq : UInt16) : (packetIndex48 roc seq).toNat < 2 ^ 48 := by
  have hroc := roc.toNat_lt
  have hseq := seq.toNat_lt
  rw [packetIndex48_toNat]
  omega

theorem length_ivPattern (ssrc : UInt32) (index : UInt64) :
    (List.replicate 4 0 ++ storeBE32 ssrc ++ storeBE48 index : Bytes).length = 14 := by
  simp

@[simp] theorem length_buildPacketIv {salt : Bytes} (hs : salt.length = 14) (ssrc : UInt32) (index : UInt64) :
    (buildPacketIv salt ssrc index).length = 16 := by
  simp [buildPacketIv, hs]

/-- **One vector per packet index.**  Under one salt and one SSRC, distinct indices below `2 ^ 48` have
distinct initial vectors. -/
theorem buildPacketIv_inj {salt : Bytes} (hs : salt.length = 14) {ssrc : UInt32} {i j : UInt64}
    (hi : i.toNat < 2 ^ 48) (hj : j.toNat < 2 ^ 48)
    (h : buildPacketIv salt ssrc i = buildPacketIv salt ssrc j) : i = j := by
  have hpattern := xorBytes_left_inj (by rw [length_ivPattern, hs]) (by rw [length_ivPattern, hs])
    (List.append_cancel_right h)
  have hstore : storeBE48 i = storeBE48 j := List.append_cancel_left hpattern
  exact UInt64.toNat_inj.1 (toBE_inj hi hj hstore)

/-! ### Tags -/

@[simp] theorem length_computeAuthTag (authKey packet : Bytes) (roc : UInt32) :
    (computeAuthTag C authKey packet roc).length = kAuthTagSize := by
  simp [computeAuthTag, kAuthTagSize, C.length_hmacSha1]

theorem foldl_or_eq_zero (d : Bytes) (init : UInt8) :
    d.foldl (· ||| ·) init = 0 ↔ init = 0 ∧ ∀ x ∈ d, x = 0 := by
  induction d generalizing init with
  | nil => simp
  | cons x d ih => rw [List.foldl_cons, ih, UInt8.or_eq_zero_iff]; simp [and_assoc]

theorem constantTimeEqual_iff {a b : Bytes} (h : a.length = b.length) : constantTimeEqual a b = true ↔ a = b := by
  rw [constantTimeEqual, beq_iff_eq, foldl_or_eq_zero]
  simp only [true_and]
  induction a generalizing b with
  | nil =>
    have : b = [] := List.length_eq_zero_iff.1 h.symm
    simp [this, xorBytes]
  | cons x a ih =>
    rcases b with _ | ⟨y, b⟩
    · simp at h
    · have hxor : xorBytes (x :: a) (y :: b) = (x ^^^ y) :: xorBytes a b := rfl
      rw [hxor, List.forall_mem_cons, ih (by simpa using h), UInt8.xor_eq_zero_iff, List.cons.injEq]

/-! ### What decryption accepts -/

theorem length_cryptPayload (params : SrtpEncryptParams) (seq : UInt16) (packet : Bytes) (start : ℕ) :
    (cryptPayload C params seq packet start).length = packet.length := by
  simp only [cryptPayload, List.length_append, List.length_take, SrtpAesCtr.length_encrypt, List.length_drop]
  omega

theorem cryptPayload_cryptPayload (params : SrtpEncryptParams) (seq : UInt16) {packet : Bytes} {start : ℕ}
    (h : start ≤ packet.length) :
    cryptPayload C params seq (cryptPayload C params seq packet start) start = packet := by
  have hstart : (packet.take start).length = start := by rw [List.length_take]; omega
  simp only [cryptPayload]
  rw [List.take_left' hstart, List.drop_left' hstart, SrtpAesCtr.encrypt_encrypt, List.take_append_drop]

theorem cryptPayload_header (params : SrtpEncryptParams) (seq : UInt16) {packet : Bytes}
    (h : locatePayloadStart packet ≠ 0) :
    locatePayloadStart (cryptPayload C params seq packet (locatePayloadStart packet)) = locatePayloadStart packet ∧
    headerSequenceNumber (cryptPayload C params seq packet (locatePayloadStart packet))
      = headerSequenceNumber packet ∧
    headerSsrc (cryptPayload C params seq packet (locatePayloadStart packet)) = headerSsrc packet := by
  set start := locatePayloadStart packet with hdef
  have hle : start ≤ packet.length := locatePayloadStart_le packet
  have hlen : (packet.take start).length = start := by rw [List.length_take]; omega
  have hlong : kRtpFixedHeaderSize ≤ (packet.take start).length := by
    rw [hlen]
    exact header_le_locatePayloadStart h
  have hpacket : packet = packet.take start ++ packet.drop start := (List.take_append_drop start packet).symm
  simp only [cryptPayload]
  refine ⟨?_, ?_, ?_⟩
  · have hcover : locatePayloadStart (packet.take start ++ packet.drop start) = start := by
      rw [← hpacket]
    rw [locatePayloadStart_append (x := packet.drop start) (by simp) (by rw [hcover, hlen]) (by rwa [hcover]), hcover]
  · rw [headerSequenceNumber_append hlong, ← headerSequenceNumber_append (x := packet.drop start) hlong, ← hpacket]
  · rw [headerSsrc_append hlong, ← headerSsrc_append (x := packet.drop start) hlong, ← hpacket]

theorem length_protect (params : SrtpEncryptParams) (rtp : Bytes) (seq : UInt16) :
    (protect C params rtp seq).length = rtp.length + kAuthTagSize := by
  simp [protect, length_cryptPayload]

theorem headerSsrc_protect (params : SrtpEncryptParams) {rtp : Bytes} (seq : UInt16)
    (h : locatePayloadStart rtp ≠ 0) : headerSsrc (protect C params rtp seq) = headerSsrc rtp := by
  have hlong := le_trans (header_le_locatePayloadStart h) (locatePayloadStart_le rtp)
  rw [protect, headerSsrc_append (by rwa [length_cryptPayload]), (cryptPayload_header C params seq h).2.2]

/-- **What `Decrypt` accepts.**  A packet decrypts to `rtp` exactly when it is the protection of `rtp`, under
the same parameters and the sequence number of its header. -/
theorem decrypt_eq_some_iff {params : SrtpEncryptParams} {srtp rtp : Bytes} :
    decrypt C params srtp = some rtp ↔
      locatePayloadStart rtp ≠ 0 ∧ srtp = protect C params rtp (headerSequenceNumber rtp) := by
  constructor
  · intro h
    unfold decrypt at h
    simp only at h
    split_ifs at h with hshort hbad htag
    cases h
    rw [not_or] at hbad
    obtain ⟨hne, hle⟩ := hbad
    set body := srtp.take (srtp.length - kAuthTagSize) with hbody
    have hlen : body.length = srtp.length - kAuthTagSize := by rw [hbody, List.length_take]; omega
    obtain ⟨hloc, hseq, -⟩ := cryptPayload_header C params (headerSequenceNumber body) hne
    refine ⟨by rwa [hloc], ?_⟩
    have htag' : computeAuthTag C params.sessionAuthKey body params.rolloverCounter
        = srtp.drop (srtp.length - kAuthTagSize) := by
      refine (constantTimeEqual_iff ?_).1 (by simpa using htag)
      rw [length_computeAuthTag, List.length_drop]
      have : kRtpFixedHeaderSize + kAuthTagSize ≤ srtp.length := by omega
      omega
    rw [protect, hloc, hseq, cryptPayload_cryptPayload C params _ (locatePayloadStart_le body), htag', hbody,
      List.take_append_drop]
  · rintro ⟨hne, rfl⟩
    obtain ⟨hloc, hseq, -⟩ := cryptPayload_header C params (headerSequenceNumber rtp) hne
    have hlong := le_trans (header_le_locatePayloadStart hne) (locatePayloadStart_le rtp)
    set srtp := cryptPayload C params (headerSequenceNumber rtp) rtp (locatePayloadStart rtp) with hsrtp
    have hlen : srtp.length = rtp.length := length_cryptPayload ..
    have hprotect : protect C params rtp (headerSequenceNumber rtp)
        = srtp ++ computeAuthTag C params.sessionAuthKey srtp params.rolloverCounter := rfl
    have hbodyLen : (protect C params rtp (headerSequenceNumber rtp)).length - kAuthTagSize = srtp.length := by
      rw [length_protect, hlen]
      omega
    have hle := locatePayloadStart_le rtp
    unfold decrypt
    simp only [hbodyLen]
    rw [hprotect, List.take_left' rfl, List.drop_left' rfl, hloc, hseq, (constantTimeEqual_iff rfl).2 rfl,
      if_neg (by rw [List.length_append, length_computeAuthTag]; omega), if_neg (by rw [hlen]; omega),
      if_neg (by decide), hsrtp, cryptPayload_cryptPayload C params _ hle]

end VianiumVoip.Srtp
