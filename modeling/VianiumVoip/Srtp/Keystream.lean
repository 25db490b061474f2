import VianiumVoip.Lib.Keystream
import VianiumVoip.Signaling.Codec
import VianiumVoip.Srtp.SenderRun
import VianiumVoip.Srtp.SessionKeys

/-!
# Counter mode in the code

There are three loops of counter mode: `SrtpAesCtr::Encrypt`, `AesCtrXcrypt` of the signaling, and the one of
`DeriveBytes` over pieces of 32 zeros, which advances the counter itself.  All of them are the exclusive or with the one
keystream (`counter_mode`).
-/

namespace VianiumVoip.Srtp

open VianiumVoip.Lib BlockModes

variable (C : Crypto)

theorem length_buildKdfCounter {master : SrtpKeys} (h : master.masterSalt.length = 14) (label : UInt8) :
    (buildKdfCounter master label).length = 16 := by
  rw [buildKdfCounter, List.length_append, List.length_modify, List.length_take, h]
  rfl

theorem iterate_incrementCounter (k n : ℕ) : incrementCounter^[k] (counterBlock n) = counterBlock (n + k) := by
  have hsame : incrementCounter = BlockModes.increment := rfl
  rw [hsame, iterate_increment_counterBlock]

/-- **The loop over pieces** gives the keystream of the whole. -/
theorem deriveLoop_eq (key : Bytes) (counter length : ℕ) :
    deriveLoop C key (counterBlock counter) length = keystream (C.encryptBlock key) counter length := by
  have hf := C.length_encryptBlock key
  induction length using Nat.strong_induction_on generalizing counter with
  | _ length ih =>
    rw [deriveLoop]
    by_cases hzero : length = 0
    · rw [if_pos hzero, hzero]
      rfl
    · rw [if_neg hzero]
      dsimp only
      rw [SrtpAesCtr.encrypt_eq_ctr, ctr_zeros hf, iterate_incrementCounter, ih (length - min length 32) (by omega)]
      by_cases hlast : length ≤ 32
      · have hrest : length - length = 0 := Nat.sub_self _
        rw [Nat.min_eq_left hlast, hrest]
        exact List.append_nil _
      · -- two whole blocks in front of the rest
        have hlong : length = 16 * 2 + (length - 32) := by omega
        rw [Nat.min_eq_right (by omega)]
        conv_rhs => rw [hlong]
        exact (keystream_append hf 2 counter (length - 32)).symm

theorem deriveBytes_eq {master : SrtpKeys} (h : master.masterSalt.length = 14) (label : UInt8) (length : ℕ) :
    deriveBytes C master label length
      = keystream (C.encryptBlock master.masterKey) (ofBE (buildKdfCounter master label)) length := by
  have hcounter := counterBlock_ofBE (length_buildKdfCounter h label)
  have hf := C.length_encryptBlock master.masterKey
  rw [deriveBytes, ← hcounter]
  split
  · rw [SrtpAesCtr.encrypt_eq_ctr, ctr_zeros hf, hcounter]
  · rw [deriveLoop_eq, hcounter]

/-- **Counter mode**: `Encrypt` and `AesCtrXcrypt` are the exclusive or with `E(iv) ++ E(iv + 1) ++ …`, numbers modulo
2 ^ 128, and so they undo themselves; `DeriveBytes` gives that keystream itself. -/
theorem counter_mode (C : Crypto) (D : Domain.Crypto) :
    (∀ key iv input : Bytes, iv.length = 16 →
      SrtpAesCtr.encrypt C key iv input = xorBytes input (keystream (C.encryptBlock key) (ofBE iv) input.length) ∧
        SrtpAesCtr.encrypt C key iv (SrtpAesCtr.encrypt C key iv input) = input) ∧
      (∀ key iv input : Bytes, iv.length = 16 →
        Signaling.TgcallsSignalingCodec.aesCtrXcrypt D (key, iv) input
            = xorBytes input (keystream (D.encryptBlock key) (ofBE iv) input.length) ∧
          Signaling.TgcallsSignalingCodec.aesCtrXcrypt D (key, iv)
            (Signaling.TgcallsSignalingCodec.aesCtrXcrypt D (key, iv) input) = input) ∧
      ∀ (master : SrtpKeys) (label : UInt8) (length : ℕ), master.masterSalt.length = 14 →
        deriveBytes C master label length
          = keystream (C.encryptBlock master.masterKey) (ofBE (buildKdfCounter master label)) length := by
  refine ⟨?_, ?_, fun master label length h => deriveBytes_eq C h label length⟩
  · intro key iv input hiv
    refine ⟨?_, SrtpAesCtr.encrypt_encrypt C key iv input⟩
    rw [SrtpAesCtr.encrypt_eq_ctr, ctr_eq (C.length_encryptBlock key) hiv]
  · intro key iv input hiv
    exact ⟨ctr_eq (D.length_encryptBlock key) hiv input,
      Signaling.TgcallsSignalingCodec.aesCtrXcrypt_aesCtrXcrypt D (key, iv) input⟩

/-- One byte under the key and the counter of a sample. -/
theorem counter_mode_sample :
    SrtpAesCtr.encrypt sampleCrypto (List.replicate 16 0) (toBE 16 0x00000000000000010000000000000000) [0x55]
        = [0x55 ^^^ 0x78] ∧
      Signaling.TgcallsSignalingCodec.aesCtrXcrypt Domain.sampleCrypto (List.replicate 32 0, List.replicate 16 0)
        (Signaling.TgcallsSignalingCodec.aesCtrXcrypt Domain.sampleCrypto (List.replicate 32 0, List.replicate 16 0)
          [0x55]) = [0x55] ∧
      deriveBytes sampleCrypto { masterKey := List.replicate 16 0, masterSalt := List.replicate 14 0 } 0 20
        = keystream (sampleCrypto.encryptBlock (List.replicate 16 0)) 0 20 := by
  obtain ⟨hencrypt, hxcrypt, hderive⟩ := counter_mode sampleCrypto Domain.sampleCrypto
  have hkeystream : xorBytes [0x55] (keystream (sampleCrypto.encryptBlock (List.replicate 16 0))
      (ofBE (toBE 16 0x00000000000000010000000000000000)) 1) = [0x55 ^^^ 0x78] := by
    decide +kernel
  have hcounter :
      ofBE (buildKdfCounter { masterKey := List.replicate 16 0, masterSalt := List.replicate 14 0 } 0) = 0 := by decide
  refine ⟨(hencrypt (List.replicate 16 0) _ [0x55] (length_toBE ..)).1.trans hkeystream,
    (hxcrypt (List.replicate 32 0) (List.replicate 16 0) [0x55] List.length_replicate).2, ?_⟩
  rw [hderive _ 0 20 List.length_replicate, hcounter]

end VianiumVoip.Srtp
