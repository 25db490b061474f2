import VianiumVoip.Lib.BlockModes

/-!
# AES-128 in counter mode

`SrtpAesCtr::Encrypt` xors the data, sixteen bytes at a time, with the encryption of a counter that is
incremented as one big-endian number after every block.  The block cipher and the MAC are those of the crypto
library the code links against; `Crypto` stands for them.
-/

namespace VianiumVoip.Srtp

open VianiumVoip.Lib

/-- The primitives of the crypto library: one AES-128 block and HMAC-SHA1. -/
structure Crypto where
  /-- `AesKey::Init(key, 16)` and `EncryptBlock`. -/
  encryptBlock : Bytes → Bytes → Bytes
  hmacSha1 : Bytes → Bytes → Bytes
  length_encryptBlock : ∀ key block, (encryptBlock key block).length = 16
  length_hmacSha1 : ∀ key msg, (hmacSha1 key msg).length = 20

variable (C : Crypto)

/-- `IncrementCounter`: from the last byte to the first, until one does not wrap around. -/
def incrementCounter (counter : Bytes) : Bytes := BlockModes.increment counter

namespace SrtpAesCtr

/-- The loop of `Encrypt` from the block at which `counter` stands. -/
def encrypt (key counter input : Bytes) : Bytes :=
  if input = [] then []
  else
    xorBytes (input.take 16) (C.encryptBlock key counter)
      ++ encrypt key (incrementCounter counter) (input.drop 16)
termination_by input.length
decreasing_by
  have : input.length ≠ 0 := by simpa
  rw [List.length_drop]
  omega

theorem encrypt_eq_ctr (key counter input : Bytes) :
    encrypt C key counter input = BlockModes.ctr (C.encryptBlock key) counter input := by
  induction counter, input using encrypt.induct with
  | case1 counter => rw [encrypt, if_pos rfl, BlockModes.ctr_nil]
  | case2 counter input hne ih => rw [encrypt, if_neg hne, ih, incrementCounter, BlockModes.ctr_of_ne_nil hne]

@[simp] theorem length_encrypt (key counter input : Bytes) :
    (encrypt C key counter input).length = input.length := by
  rw [encrypt_eq_ctr, BlockModes.length_ctr (C.length_encryptBlock key)]

/-- **Decryption is encryption.** -/
theorem encrypt_encrypt (key counter input : Bytes) :
    encrypt C key counter (encrypt C key counter input) = input := by
  rw [encrypt_eq_ctr, encrypt_eq_ctr, BlockModes.ctr_ctr (C.length_encryptBlock key)]

end SrtpAesCtr

end VianiumVoip.Srtp
