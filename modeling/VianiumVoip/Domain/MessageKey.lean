import VianiumVoip.Lib.BlockModes

/-!
# Message keys

The signaling codec and the relay packets are encrypted the same way: a message key is cut out of the SHA-256 of a
slice of the shared key and the plaintext, it stands in front of the ciphertext, and the AES key and the initial vector
are made of it and two more slices.  The two differ in the mode and in how long the initial vector is.

`Crypto` stands for the crypto library that the code links against.
-/

namespace VianiumVoip.Domain

open VianiumVoip.Lib

/-- One block of AES-256 (`AesKey::Init(key, 32)` and `EncryptBlock`), and `Sha256::Hash`. -/
structure Crypto where
  encryptBlock : Bytes → Bytes → Bytes
  sha256 : Bytes → Bytes
  length_encryptBlock : ∀ key block, (encryptBlock key block).length = 16
  length_sha256 : ∀ data, (sha256 data).length = 32

def kSharedKeyBytes : ℕ := 256
def kMsgKeyBytes : ℕ := 16
def kAesBlockBytes : ℕ := 16

/-- `bytes[start .. start + count]` -/
def slice (bytes : Bytes) (start count : ℕ) : Bytes := (bytes.drop start).take count

theorem length_slice {bytes : Bytes} {start count : ℕ} (h : start + count ≤ bytes.length) :
    (slice bytes start count).length = count := by
  rw [slice, List.length_take, List.length_drop]
  omega

variable (C : Crypto) (sharedKey msgKey : Bytes) (x : ℕ)

/-- `SHA256(sharedKey[88+x..88+x+32] || plaintext)[8..24]` -/
def messageKey (plaintext : Bytes) : Bytes := slice (C.sha256 (slice sharedKey (88 + x) 32 ++ plaintext)) 8 16

/-- `SHA256(msg_key || sharedKey[x..x+36])` -/
def sha256a : Bytes := C.sha256 (msgKey ++ slice sharedKey x 36)

/-- `SHA256(sharedKey[40+x..40+x+36] || msg_key)` -/
def sha256b : Bytes := C.sha256 (slice sharedKey (40 + x) 36 ++ msgKey)

/-- `sha256a[0..8] || sha256b[8..24] || sha256a[24..32]` -/
def aesKey : Bytes :=
  (sha256a C sharedKey msgKey x).take 8 ++ slice (sha256b C sharedKey msgKey x) 8 16
    ++ slice (sha256a C sharedKey msgKey x) 24 8

@[simp] theorem length_messageKey (plaintext : Bytes) : (messageKey C sharedKey x plaintext).length = 16 :=
  length_slice (by rw [C.length_sha256]; omega)

@[simp] theorem length_sha256a : (sha256a C sharedKey msgKey x).length = 32 := C.length_sha256 _

@[simp] theorem length_sha256b : (sha256b C sharedKey msgKey x).length = 32 := C.length_sha256 _

/-- A cipher that leaves a block as it is, and a hash that is the front of its input. -/
def sampleCrypto : Crypto where
  encryptBlock := fun _ block => (block ++ List.replicate 16 0).take 16
  sha256 := fun data => (data ++ List.replicate 32 0).take 32
  length_encryptBlock := by
    intro _ block
    simp
  length_sha256 := by
    intro data
    simp

end VianiumVoip.Domain
