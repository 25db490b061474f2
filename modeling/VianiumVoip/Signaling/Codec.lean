import VianiumVoip.Domain.MessageKey

/-!
# The signaling codec

`TgcallsSignalingCodec` of `domain/tgcalls_signaling_codec`: the outer sequence number and the body, encrypted in
counter mode under a key made of the message key.

`Encrypt` takes a body of any length.  `Decrypt` refuses a ciphertext of less than one block, although the mode has no
blocks and the frames above it have packets of a single byte: what `Encrypt` emits is accepted from a body of twelve
bytes on (`decrypt_encrypt_iff`).
-/

namespace VianiumVoip.Signaling

open VianiumVoip.Lib VianiumVoip.Domain

def kSignalingX : ℕ := 128

structure TgcallsSignalingDecryptResult where
  success : Bool := false
  error : String := ""
  plain : Bytes := []
  seq : UInt32 := 0
  deriving DecidableEq

namespace TgcallsSignalingCodec

def fail (message : String) : TgcallsSignalingDecryptResult := { error := message }

variable (C : Crypto) (sharedKey : Bytes)

/-- `DeriveSignalingAesKeyIv` -/
def deriveSignalingAesKeyIv (msgKey : Bytes) (x : ℕ) : Bytes × Bytes :=
  let sA := sha256a C sharedKey msgKey x
  let sB := sha256b C sharedKey msgKey x
  (aesKey C sharedKey msgKey x, sB.take 4 ++ slice sA 8 8 ++ slice sB 24 4)

/-- `AesCtrXcrypt` -/
def aesCtrXcrypt (keyIv : Bytes × Bytes) (input : Bytes) : Bytes :=
  BlockModes.ctr (C.encryptBlock keyIv.1) keyIv.2 input

/-- `Decrypt` -/
def decrypt (isOutgoing : Bool) (bytes : Bytes) : TgcallsSignalingDecryptResult :=
  if sharedKey.length ≠ kSharedKeyBytes then fail "shared key must be exactly 256 bytes"
  else if bytes.length < kMsgKeyBytes + kAesBlockBytes then fail "encrypted signaling payload is too short"
  else
    let msgKey := bytes.take kMsgKeyBytes
    let encrypted := bytes.drop kMsgKeyBytes
    let x := (if isOutgoing then 8 else 0) + kSignalingX
    let decrypted := aesCtrXcrypt C (deriveSignalingAesKeyIv C sharedKey msgKey x) encrypted
    if msgKey ≠ messageKey C sharedKey x decrypted then fail "signaling msg_key mismatch"
    else if decrypted.length < 4 then fail "decrypted signaling payload too small for seq"
    else { success := true, seq := loadBE32 decrypted, plain := decrypted.drop 4 }

/-- `Encrypt` -/
def encrypt (isOutgoing : Bool) (outerSeq : UInt32) (body : Bytes) : Bytes :=
  if sharedKey.length ≠ kSharedKeyBytes then []
  else
    let plaintext := storeBE32 outerSeq ++ body
    let x := (if isOutgoing then 0 else 8) + kSignalingX
    let msgKey := messageKey C sharedKey x plaintext
    msgKey ++ aesCtrXcrypt C (deriveSignalingAesKeyIv C sharedKey msgKey x) plaintext

variable {C sharedKey} {isOutgoing : Bool} {outerSeq : UInt32} {body : Bytes}

theorem aesCtrXcrypt_aesCtrXcrypt (C : Crypto) (keyIv : Bytes × Bytes) (input : Bytes) :
    aesCtrXcrypt C keyIv (aesCtrXcrypt C keyIv input) = input :=
  BlockModes.ctr_ctr (C.length_encryptBlock keyIv.1) keyIv.2 input

theorem length_aesCtrXcrypt (C : Crypto) (keyIv : Bytes × Bytes) (input : Bytes) :
    (aesCtrXcrypt C keyIv input).length = input.length :=
  BlockModes.length_ctr (C.length_encryptBlock keyIv.1) keyIv.2 input

/-- The slice of the shared key that one side encrypts with is the one that the other decrypts with. -/
theorem direction_eq (isOutgoing : Bool) :
    (if (!isOutgoing) = true then 8 else 0) + kSignalingX = (if isOutgoing = true then 0 else 8) + kSignalingX := by
  cases isOutgoing <;> rfl

theorem length_encrypt (hkey : sharedKey.length = kSharedKeyBytes) :
    (encrypt C sharedKey isOutgoing outerSeq body).length = 20 + body.length := by
  unfold encrypt
  rw [if_neg (not_not_intro hkey)]
  simp only [List.length_append, length_messageKey, length_aesCtrXcrypt, length_storeBE32]
  omega

theorem decrypt_of_short {bytes : Bytes} (hkey : sharedKey.length = kSharedKeyBytes) (h : bytes.length < 32) :
    decrypt C sharedKey isOutgoing bytes = fail "encrypted signaling payload is too short" := by
  have hshort : bytes.length < kMsgKeyBytes + kAesBlockBytes := h
  unfold decrypt
  rw [if_neg (not_not_intro hkey), if_pos hshort]

/-- **A packet that is not short is decrypted.** -/
theorem decrypt_encrypt_of_le (hkey : sharedKey.length = kSharedKeyBytes) (hbody : 12 ≤ body.length) :
    decrypt C sharedKey (!isOutgoing) (encrypt C sharedKey isOutgoing outerSeq body)
      = { success := true, seq := outerSeq, plain := body } := by
  have hlen : ¬ (encrypt C sharedKey isOutgoing outerSeq body).length < kMsgKeyBytes + kAesBlockBytes := by
    rw [length_encrypt hkey, kMsgKeyBytes, kAesBlockBytes]
    omega
  set x := (if isOutgoing = true then 0 else 8) + kSignalingX with hx
  set plaintext := storeBE32 outerSeq ++ body with hplaintext
  set msgKey := messageKey C sharedKey x plaintext with hmsgKey
  set encrypted := aesCtrXcrypt C (deriveSignalingAesKeyIv C sharedKey msgKey x) plaintext with hencrypted
  have hwire : encrypt C sharedKey isOutgoing outerSeq body = msgKey ++ encrypted := by
    unfold encrypt
    rw [if_neg (not_not_intro hkey)]
  have hfront : (msgKey ++ encrypted).take kMsgKeyBytes = msgKey := List.take_left' (length_messageKey ..)
  have hrest : (msgKey ++ encrypted).drop kMsgKeyBytes = encrypted := List.drop_left' (length_messageKey ..)
  have hback : aesCtrXcrypt C (deriveSignalingAesKeyIv C sharedKey msgKey x) encrypted = plaintext :=
    aesCtrXcrypt_aesCtrXcrypt C _ plaintext
  have hseq : ¬ plaintext.length < 4 := by
    rw [hplaintext, List.length_append, length_storeBE32]
    omega
  unfold decrypt
  rw [if_neg (not_not_intro hkey), if_neg hlen, hwire]
  simp only [hfront, hrest, direction_eq]
  rw [← hx, hback, if_neg (not_not_intro hmsgKey), if_neg hseq, hplaintext, loadBE32_store, drop_storeBE32 _ 0,
    List.drop_zero]

/-- **The codec accepts what it emits exactly when the body has twelve bytes**, for every key of 256 bytes, direction,
sequence number and body. -/
theorem decrypt_encrypt_iff (C : Crypto) (hkey : sharedKey.length = kSharedKeyBytes) (isOutgoing : Bool)
    (outerSeq : UInt32) (body : Bytes) :
    decrypt C sharedKey (!isOutgoing) (encrypt C sharedKey isOutgoing outerSeq body)
        = { success := true, seq := outerSeq, plain := body } ↔
      12 ≤ body.length := by
  constructor
  · intro h
    by_contra hshort
    rw [decrypt_of_short hkey (by rw [length_encrypt hkey]; omega)] at h
    exact Bool.noConfusion (congrArg TgcallsSignalingDecryptResult.success h)
  · exact decrypt_encrypt_of_le hkey

/-- A shared key. -/
def sampleKey : Bytes := List.replicate 256 1

theorem length_sampleKey : sampleKey.length = kSharedKeyBytes := List.length_replicate

/-- The packet of a body of twelve bytes is the shortest that is accepted. -/
theorem decrypt_encrypt_twelve :
    decrypt sampleCrypto sampleKey (!true) (encrypt sampleCrypto sampleKey true 7 (List.replicate 12 0x20))
        = { success := true, seq := 7, plain := List.replicate 12 0x20 } ↔
      12 ≤ (List.replicate 12 (0x20 : UInt8)).length :=
  decrypt_encrypt_iff sampleCrypto length_sampleKey true 7 (List.replicate 12 0x20)

/-- **An ack frame is refused.**  The body is the one byte that stands for an ack, and the packet has 21 bytes. -/
theorem ack_frame_refused :
    (encrypt sampleCrypto sampleKey true 7 [0xFF]).length = 21 ∧
      decrypt sampleCrypto sampleKey (!true) (encrypt sampleCrypto sampleKey true 7 [0xFF])
        = fail "encrypted signaling payload is too short" ∧
      decrypt sampleCrypto sampleKey (!true) (encrypt sampleCrypto sampleKey true 7 [0xFF])
        ≠ { success := true, seq := 7, plain := [0xFF] } := by
  have hlen : (encrypt sampleCrypto sampleKey true 7 [0xFF]).length = 21 := length_encrypt length_sampleKey
  have hrefused : decrypt sampleCrypto sampleKey (!true) (encrypt sampleCrypto sampleKey true 7 [0xFF])
      = fail "encrypted signaling payload is too short" := decrypt_of_short length_sampleKey (by rw [hlen]; omega)
  refine ⟨hlen, hrefused, ?_⟩
  rw [hrefused]
  decide

end TgcallsSignalingCodec

end VianiumVoip.Signaling
