import VianiumVoip.Domain.MessageKey

/-!
# Relay packets

`VoipPacketCrypto` of `domain/voip_packet_crypto`: the peer tag, the message key, and the plaintext behind its length
and in front of random padding, encrypted with IGE.

The padding has at least sixteen bytes and fills the last block, whatever the length of the plaintext
(`mod_length_inner`, `le_padLen`), so the checks of the receiver hold at every length: `decrypt_encrypt` is the round
trip from 1 to 1200 bytes.
-/

namespace VianiumVoip.Relay

open VianiumVoip.Lib VianiumVoip.Domain

/-- A cipher with its inverse. -/
structure BlockCrypto extends Crypto where
  decryptBlock : Bytes → Bytes → Bytes
  decryptBlock_encryptBlock : ∀ key block, block.length = 16 → decryptBlock key (encryptBlock key block) = block

def kPeerTagBytes : ℕ := 16
def kMaxPlainBytes : ℕ := 1200

structure VoipEncryptedPacketResult where
  success : Bool := false
  error : String := ""
  bytes : Bytes := []
  plain : Bytes := []
  deriving DecidableEq

namespace VoipPacketCrypto

def fail (message : String) : VoipEncryptedPacketResult := { error := message }

variable (C : BlockCrypto) (sharedKey : Bytes)

/-- `Kdf2` -/
def kdf2 (msgKey : Bytes) (x : ℕ) : Bytes × Bytes :=
  let sA := sha256a C.toCrypto sharedKey msgKey x
  let sB := sha256b C.toCrypto sharedKey msgKey x
  (aesKey C.toCrypto sharedKey msgKey x, sB.take 8 ++ slice sA 8 16 ++ slice sB 24 8)

/-- `EncryptIge` -/
def encryptIge (keyIv : Bytes × Bytes) (input : Bytes) : Option Bytes :=
  if input.length = 0 ∨ input.length % kAesBlockBytes ≠ 0 then none
  else
    some (BlockModes.igeEncrypt (C.encryptBlock keyIv.1) (input.length / kAesBlockBytes) (keyIv.2.take 16)
      (slice keyIv.2 16 16) input)

/-- `DecryptIge` -/
def decryptIge (keyIv : Bytes × Bytes) (input : Bytes) : Option Bytes :=
  if input.length = 0 ∨ input.length % kAesBlockBytes ≠ 0 then none
  else
    some (BlockModes.igeDecrypt (C.decryptBlock keyIv.1) (input.length / kAesBlockBytes) (keyIv.2.take 16)
      (slice keyIv.2 16 16) input)

/-- `SamePeerTag` -/
def samePeerTag (bytes expectedPeerTag : Bytes) : Bool :=
  if expectedPeerTag = [] then true
  else if expectedPeerTag.length ≠ kPeerTagBytes then false
  else decide (bytes.take kPeerTagBytes = expectedPeerTag)

/-- `DirectionOffset` -/
def directionOffset (localIsOutgoing sending : Bool) : ℕ :=
  if sending then (if localIsOutgoing then 0 else 8) else (if localIsOutgoing then 8 else 0)

/-- Sixteen bytes more than what the last block lacks, unless that is a whole block. -/
def padLen (innerLength : ℕ) : ℕ :=
  let pad := kAesBlockBytes - innerLength % kAesBlockBytes
  if pad < kAesBlockBytes then pad + kAesBlockBytes else pad

/-- `GenerateRandom`, which takes its bytes from the stream `random`. -/
def generateRandom (random : ℕ → UInt8) (count : ℕ) : Bytes := (List.range count).map random

/-- What is encrypted: the length, the plaintext and the padding. -/
def inner (random : ℕ → UInt8) (plain : Bytes) : Bytes :=
  storeLE16 (UInt16.ofNat plain.length) ++ plain ++ generateRandom random (padLen (2 + plain.length))

/-- `EncryptRelayPacketMtProto2Short` -/
def encryptRelayPacketMtProto2Short (localIsOutgoing : Bool) (peerTag : Bytes) (random : ℕ → UInt8) (plain : Bytes) :
    VoipEncryptedPacketResult :=
  if sharedKey.length ≠ kSharedKeyBytes then fail "VoIP shared key must be exactly 256 bytes"
  else if peerTag.length ≠ kPeerTagBytes then fail "VoIP relay peer_tag must be exactly 16 bytes"
  else if plain = [] ∨ kMaxPlainBytes < plain.length then fail "VoIP plaintext packet length is invalid"
  else
    let x := directionOffset localIsOutgoing true
    let msgKey := messageKey C.toCrypto sharedKey x (inner random plain)
    match encryptIge C (kdf2 C sharedKey msgKey x) (inner random plain) with
    | none => fail "VoIP AES-IGE encryption failed"
    | some encrypted => { success := true, plain := plain, bytes := peerTag ++ msgKey ++ encrypted }

/-- `DecryptRelayPacketMtProto2Short` -/
def decryptRelayPacketMtProto2Short (localIsOutgoing : Bool) (expectedPeerTag bytes : Bytes) :
    VoipEncryptedPacketResult :=
  if sharedKey.length ≠ kSharedKeyBytes then fail "VoIP shared key must be exactly 256 bytes"
  else if bytes.length < kPeerTagBytes + kMsgKeyBytes + kAesBlockBytes then
    fail "VoIP encrypted packet is too short"
  else if expectedPeerTag ≠ [] ∧ samePeerTag bytes expectedPeerTag = false then
    fail "VoIP relay peer_tag mismatch"
  else
    let msgKey := slice bytes kPeerTagBytes kMsgKeyBytes
    let encrypted := bytes.drop (kPeerTagBytes + kMsgKeyBytes)
    if encrypted.length % kAesBlockBytes ≠ 0 then fail "VoIP encrypted packet length is not block aligned"
    else
      let x := directionOffset localIsOutgoing false
      match decryptIge C (kdf2 C sharedKey msgKey x) encrypted with
      | none => fail "VoIP AES-IGE decryption failed"
      | some decrypted =>
        if msgKey ≠ messageKey C.toCrypto sharedKey x decrypted then fail "VoIP encrypted packet msg_key mismatch"
        else
          let plainLen := (loadLE16 decrypted).toNat
          if plainLen = 0 ∨ decrypted.length - 2 < plainLen then
            fail "VoIP encrypted packet inner length is invalid"
          else if decrypted.length - plainLen < 16 then fail "VoIP encrypted packet padding is too short"
          else { success := true, bytes := bytes, plain := slice decrypted 2 plainLen }

/-! ### The two ends -/

/-- The slice of the shared key that one side encrypts with is the one that the other decrypts with. -/
@[simp] theorem directionOffset_not (localIsOutgoing : Bool) :
    directionOffset (!localIsOutgoing) false = directionOffset localIsOutgoing true := by
  cases localIsOutgoing <;> rfl

theorem padLen_eq (innerLength : ℕ) :
    padLen innerLength = if innerLength % 16 = 0 then 16 else 32 - innerLength % 16 := by
  have hlt := Nat.mod_lt innerLength (show 0 < 16 by decide)
  have hpad : padLen innerLength
      = if 16 - innerLength % 16 < 16 then 16 - innerLength % 16 + 16 else 16 - innerLength % 16 := rfl
  rw [hpad]
  by_cases hzero : innerLength % 16 = 0
  · rw [if_pos hzero, if_neg (by omega), hzero]
  · rw [if_neg hzero, if_pos (by omega)]
    omega

theorem le_padLen (innerLength : ℕ) : 16 ≤ padLen innerLength := by
  rw [padLen_eq]
  split <;> omega

theorem mod_add_padLen (innerLength : ℕ) : (innerLength + padLen innerLength) % 16 = 0 := by
  rw [padLen_eq]
  split <;> omega

@[simp] theorem length_generateRandom (random : ℕ → UInt8) (count : ℕ) :
    (generateRandom random count).length = count := by
  rw [generateRandom, List.length_map, List.length_range]

variable {C sharedKey} {localIsOutgoing : Bool} {peerTag plain : Bytes} {random : ℕ → UInt8}

theorem length_inner (random : ℕ → UInt8) (plain : Bytes) :
    (inner random plain).length = 2 + plain.length + padLen (2 + plain.length) := by
  simp only [inner, List.length_append, length_storeLE16, length_generateRandom]

theorem mod_length_inner : (inner random plain).length % 16 = 0 := by
  rw [length_inner]
  exact mod_add_padLen _

theorem loadLE16_inner (h : plain.length ≤ kMaxPlainBytes) : (loadLE16 (inner random plain)).toNat = plain.length := by
  have hlt : plain.length < UInt16.size := lt_of_le_of_lt h (by decide)
  rw [inner, List.append_assoc, loadLE16_store]
  exact UInt16.toNat_ofNat_of_lt' hlt

theorem slice_inner : slice (inner random plain) 2 plain.length = plain := by
  rw [slice, inner, List.append_assoc, List.drop_left' (length_storeLE16 _), List.take_left' rfl]

section Ige

variable {msgKey input : Bytes} {x : ℕ}

theorem length_iv (msgKey : Bytes) (x : ℕ) : (kdf2 C sharedKey msgKey x).2.length = 32 := by
  have hA : (slice (sha256a C.toCrypto sharedKey msgKey x) 8 16).length = 16 := length_slice (by simp)
  have hB : (slice (sha256b C.toCrypto sharedKey msgKey x) 24 8).length = 8 := length_slice (by simp)
  simp [kdf2, hA, hB]

theorem length_iv_front : ((kdf2 C sharedKey msgKey x).2.take 16).length = 16 := by
  rw [List.length_take, length_iv]
  rfl

theorem length_iv_back : (slice (kdf2 C sharedKey msgKey x).2 16 16).length = 16 :=
  length_slice (by rw [length_iv])

/-- **Whole blocks are encrypted and come back.** -/
theorem encryptIge_eq_some (C : BlockCrypto) (sharedKey msgKey : Bytes) (x : ℕ) (hne : input.length ≠ 0)
    (hmod : input.length % 16 = 0) :
    ∃ encrypted, encryptIge C (kdf2 C sharedKey msgKey x) input = some encrypted ∧ encrypted.length = input.length ∧
      decryptIge C (kdf2 C sharedKey msgKey x) encrypted = some input := by
  set keyIv := kdf2 C sharedKey msgKey x with hkeyIv
  have hblocks : input.length = 16 * (input.length / 16) := by omega
  have hwhole : ¬ (input.length = 0 ∨ input.length % kAesBlockBytes ≠ 0) := fun h => h.elim hne fun h => h hmod
  set encrypted := BlockModes.igeEncrypt (C.encryptBlock keyIv.1) (input.length / kAesBlockBytes) (keyIv.2.take 16)
    (slice keyIv.2 16 16) input with hencrypted
  have hlen : encrypted.length = input.length := by
    exact (BlockModes.length_igeEncrypt (C.length_encryptBlock keyIv.1) length_iv_back hblocks).trans hblocks.symm
  refine ⟨encrypted, if_neg hwhole, hlen, ?_⟩
  have hback : BlockModes.igeDecrypt (C.decryptBlock keyIv.1) (input.length / kAesBlockBytes) (keyIv.2.take 16)
      (slice keyIv.2 16 16) encrypted = input :=
    BlockModes.igeDecrypt_igeEncrypt (C.length_encryptBlock keyIv.1) (C.decryptBlock_encryptBlock keyIv.1)
      length_iv_front length_iv_back hblocks
  rw [decryptIge, hlen, if_neg hwhole, hback]

end Ige

theorem encrypt_eq (C : BlockCrypto) (localIsOutgoing : Bool) (random : ℕ → UInt8)
    (hkey : sharedKey.length = kSharedKeyBytes) (htag : peerTag.length = kPeerTagBytes) (hpos : 1 ≤ plain.length)
    (hmax : plain.length ≤ kMaxPlainBytes) :
    ∃ msgKey encrypted,
      msgKey = messageKey C.toCrypto sharedKey (directionOffset localIsOutgoing true) (inner random plain) ∧
      decryptIge C (kdf2 C sharedKey msgKey (directionOffset localIsOutgoing true)) encrypted
        = some (inner random plain) ∧
      encrypted.length = (inner random plain).length ∧
      encryptRelayPacketMtProto2Short C sharedKey localIsOutgoing peerTag random plain
        = { success := true, plain := plain, bytes := peerTag ++ msgKey ++ encrypted } := by
  have hplain : ¬ (plain = [] ∨ kMaxPlainBytes < plain.length) := by
    rintro (rfl | h)
    · simp at hpos
    · omega
  have hne : (inner random plain).length ≠ 0 := by
    rw [length_inner]
    omega
  set x := directionOffset localIsOutgoing true with hx
  set msgKey := messageKey C.toCrypto sharedKey x (inner random plain) with hmsgKey
  obtain ⟨encrypted, hsome, hlen, hback⟩ := encryptIge_eq_some C sharedKey msgKey x hne mod_length_inner
  refine ⟨msgKey, encrypted, rfl, hback, hlen, ?_⟩
  unfold encryptRelayPacketMtProto2Short
  rw [if_neg (not_not_intro hkey), if_neg (not_not_intro htag), if_neg hplain]
  simp only [← hx, ← hmsgKey, hsome]

theorem samePeerTag_append (htag : peerTag.length = kPeerTagBytes) (rest : Bytes) :
    samePeerTag (peerTag ++ rest) peerTag = true := by
  unfold samePeerTag
  split
  · rfl
  · rw [if_neg (not_not_intro htag), List.take_left' htag, decide_eq_true rfl]

/-- **A relay packet comes back**, for every key of 256 bytes, peer tag of 16, direction, padding, and plaintext of 1 to
1200 bytes. -/
theorem decrypt_encrypt (C : BlockCrypto) (hkey : sharedKey.length = kSharedKeyBytes)
    (htag : peerTag.length = kPeerTagBytes) (localIsOutgoing : Bool) (random : ℕ → UInt8) (hpos : 1 ≤ plain.length)
    (hmax : plain.length ≤ kMaxPlainBytes) :
    let sent := encryptRelayPacketMtProto2Short C sharedKey localIsOutgoing peerTag random plain
    sent.success = true ∧
      decryptRelayPacketMtProto2Short C sharedKey (!localIsOutgoing) peerTag sent.bytes
        = { success := true, bytes := sent.bytes, plain := plain } := by
  obtain ⟨msgKey, encrypted, hmsgKey, hback, hlen, hsent⟩ :=
    encrypt_eq C localIsOutgoing random hkey htag hpos hmax
  have hmsgKeyLength : msgKey.length = kMsgKeyBytes := hmsgKey ▸ length_messageKey ..
  have hpad := le_padLen (2 + plain.length)
  have hinner := length_inner random plain
  have hshort : ¬ (peerTag ++ msgKey ++ encrypted).length < kPeerTagBytes + kMsgKeyBytes + kAesBlockBytes := by
    rw [List.length_append, List.length_append, htag, hmsgKeyLength, hlen, hinner, kAesBlockBytes]
    omega
  have hsame : ¬ (peerTag ≠ [] ∧ samePeerTag (peerTag ++ msgKey ++ encrypted) peerTag = false) := by
    rw [List.append_assoc, samePeerTag_append htag]
    rintro ⟨_, h⟩
    cases h
  have hfront : slice (peerTag ++ msgKey ++ encrypted) kPeerTagBytes kMsgKeyBytes = msgKey := by
    rw [slice, List.append_assoc, List.drop_left' htag, List.take_left' hmsgKeyLength]
  have hrest : (peerTag ++ msgKey ++ encrypted).drop (kPeerTagBytes + kMsgKeyBytes) = encrypted :=
    List.drop_left' (by rw [List.length_append, htag, hmsgKeyLength])
  have haligned : ¬ encrypted.length % kAesBlockBytes ≠ 0 := not_not_intro (hlen ▸ mod_length_inner)
  have hlength : ¬ (plain.length = 0 ∨ (inner random plain).length - 2 < plain.length) := by omega
  have hpadding : ¬ (inner random plain).length - plain.length < 16 := by omega
  intro sent
  have hbytes : sent.bytes = peerTag ++ msgKey ++ encrypted := congrArg VoipEncryptedPacketResult.bytes hsent
  refine ⟨congrArg VoipEncryptedPacketResult.success hsent, ?_⟩
  rw [hbytes]
  unfold decryptRelayPacketMtProto2Short
  rw [if_neg (not_not_intro hkey), if_neg hshort, if_neg hsame]
  simp only [hfront, hrest, directionOffset_not]
  rw [if_neg haligned, hback]
  simp only [← hmsgKey, loadLE16_inner hmax, slice_inner]
  rw [if_neg (not_not_intro rfl), if_neg hlength, if_neg hpadding]

/-- A cipher that leaves a block as it is. -/
def sampleBlockCrypto : BlockCrypto where
  toCrypto := sampleCrypto
  decryptBlock := fun _ block => block
  decryptBlock_encryptBlock := by
    intro key block h
    show (block ++ List.replicate 16 0).take 16 = block
    rw [List.take_left' h]

/-- A packet of four bytes. -/
theorem decrypt_encrypt_sample :
    let sent := encryptRelayPacketMtProto2Short sampleBlockCrypto (List.replicate 256 1) true (List.replicate 16 0x30)
      (fun n => UInt8.ofNat n) [1, 9, 0, 0]
    sent.success = true ∧
      decryptRelayPacketMtProto2Short sampleBlockCrypto (List.replicate 256 1) (!true) (List.replicate 16 0x30)
        sent.bytes = { success := true, bytes := sent.bytes, plain := [1, 9, 0, 0] } :=
  decrypt_encrypt sampleBlockCrypto List.length_replicate List.length_replicate true (fun n => UInt8.ofNat n)
    (by decide) (by decide)

end VoipPacketCrypto

end VianiumVoip.Relay
