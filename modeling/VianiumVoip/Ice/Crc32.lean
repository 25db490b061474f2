import VianiumVoip.Ice.StunMessage
import VianiumVoip.Lib.Crc

/-!
# The CRC of FINGERPRINT

`Crc32::Compute` looks up what eight steps of the register do in a table that it has filled by such steps.  For every
byte string this is the register with its bits put in one by one (`compute_eq_bitwise`).
-/

namespace VianiumVoip.Ice.Crc32

open VianiumVoip.Lib Crc

/-- The reflected polynomial of CRC-32. -/
def polynomial : BitVec 32 := 0xEDB88320

/-- The bits of a message, the lowest one of each byte first. -/
def messageBits (data : Bytes) : List Bool := data.flatMap fun b => lowBits 8 b.toBitVec

/-- CRC-32, bit by bit. -/
def bitwise (data : Bytes) : UInt32 :=
  UInt32.ofBitVec ((messageBits data).foldl (step polynomial) 0xFFFFFFFF ^^^ 0xFFFFFFFF)

theorem shiftBit_toBitVec (c : UInt32) : (shiftBit c).toBitVec = shift polynomial c.toBitVec := by
  have hlow : c &&& 1 ≠ 0 ↔ c.toBitVec.getLsbD 0 = true := by
    rw [ne_eq, ← UInt32.toBitVec_inj, UInt32.toBitVec_and]
    have hone : c.toBitVec &&& (1 : UInt32).toBitVec = (BitVec.ofBool (c.toBitVec.getLsbD 0)).setWidth 32 :=
      BitVec.and_one_eq_setWidth_ofBool_getLsbD
    rw [hone]
    cases c.toBitVec.getLsbD 0 <;> decide
  rw [shiftBit, shift]
  by_cases h : c &&& 1 ≠ 0
  · rw [if_pos h, if_pos (hlow.1 h)]
    rfl
  · rw [if_neg h, if_neg fun hbit => h (hlow.2 hbit)]
    rfl

theorem iterate_shiftBit (k : ℕ) (c : UInt32) : (shiftBit^[k] c).toBitVec = (shift polynomial)^[k] c.toBitVec :=
  Function.Semiconj.iterate_right (f := UInt32.toBitVec) shiftBit_toBitVec k c

theorem table_entry (c : UInt32) : table.getD (c &&& 0xFF).toNat 0 = shiftBit^[8] (c &&& 0xFF) := by
  have hlt : (c &&& 0xFF).toNat < 256 := by
    rw [UInt32.toNat_and]
    exact Nat.lt_succ_of_le Nat.and_le_right
  rw [table, Array.getD_eq_getD_getElem?, Array.getElem?_ofFn, dif_pos hlt, Option.getD_some]
  exact congrArg shiftBit^[8] UInt32.ofNat_toNat

/-- **One byte**: its entry of the table is what its bits come to. -/
theorem lookup_toBitVec (c : UInt32) (b : UInt8) :
    (table.getD ((c ^^^ b.toUInt32) &&& 0xFF).toNat 0 ^^^ (c >>> (8 : UInt32))).toBitVec
      = (lowBits 8 b.toBitVec).foldl (step polynomial) c.toBitVec := by
  have hgone : b.toUInt32.toBitVec >>> 8 = 0#32 := by
    refine BitVec.eq_of_getLsbD_eq fun i _ => ?_
    rw [BitVec.getLsbD_ushiftRight, UInt8.toBitVec_toUInt32, BitVec.getLsbD_setWidth,
      BitVec.getLsbD_of_ge b.toBitVec (8 + i) (Nat.le_add_right 8 i), Bool.and_false, BitVec.getLsbD_zero]
  have hbits : lowBits 8 b.toBitVec = lowBits 8 b.toUInt32.toBitVec := (lowBits_setWidth (by decide) 8 b.toBitVec).symm
  rw [table_entry, UInt32.toBitVec_xor, iterate_shiftBit, hbits, foldl_step _ hgone,
    iterate_shift_split 8 (c.toBitVec ^^^ b.toUInt32.toBitVec), BitVec.ushiftRight_xor_distrib, hgone, BitVec.xor_zero]
  rfl

/-- **The table computes CRC-32.** -/
theorem compute_eq_bitwise (data : Bytes) : compute data = bitwise data := by
  have hloop : ∀ (data : Bytes) (c : UInt32),
      (data.foldl (fun c b => table.getD ((c ^^^ b.toUInt32) &&& 0xFF).toNat 0 ^^^ (c >>> (8 : UInt32))) c).toBitVec
        = (messageBits data).foldl (step polynomial) c.toBitVec := by
    intro data
    induction data with
    | nil => exact fun c => rfl
    | cons b data ih =>
      intro c
      have hbits : messageBits (b :: data) = lowBits 8 b.toBitVec ++ messageBits data := List.flatMap_cons
      rw [List.foldl_cons, ih, lookup_toBitVec, hbits, List.foldl_append]
  rw [compute, bitwise, ← UInt32.toBitVec_inj, UInt32.toBitVec_xor, hloop]
  rfl

example : compute (ascii "123456789") = 0xCBF43926 := by decide +kernel

end VianiumVoip.Ice.Crc32
