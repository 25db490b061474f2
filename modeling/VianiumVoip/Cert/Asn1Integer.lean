import VianiumVoip.Cert.Asn1Builder
import VianiumVoip.Lib.DerInteger

/-!
# What the INTEGER operations write

`WriteInteger` takes an unsigned number: whatever bytes it is given, what it appends is the minimal INTEGER of the
number that they denote (`integerBody_spec`).  `WriteIntegerSmall` trims the eight bytes of its value with the sign bit
in place, and hands them to `WriteInteger`, which takes a first byte with the high bit for a magnitude and puts a zero
in front.  The composition is right exactly for the values that are not negative (`writeIntegerSmall_iff`): -1 is
written as 255.
-/

namespace VianiumVoip.Cert

open VianiumVoip.Lib

namespace Asn1Builder

/-! ### Unsigned numbers -/

theorem ofBE_dropLeadingZeros (d : Bytes) : ofBE (dropLeadingZeros d) = ofBE d := by
  fun_induction dropLeadingZeros d with
  | case1 x y r h ih =>
    obtain ⟨rfl, -⟩ := h
    rw [ih, Der.ofBE_zero_cons]
  | case2 => rfl
  | case3 => rfl

/-- Behind the trimming a zero in front is there for the sign. -/
theorem dropLeadingZeros_head {d r : Bytes} {x y : UInt8} (h : dropLeadingZeros d = x :: y :: r) :
    ¬ (x = 0x00 ∧ y &&& 0x80 = 0) := by
  fun_induction dropLeadingZeros d with
  | case1 x' y' r' hxy ih => exact ih h
  | case2 x' y' r' hxy =>
    cases h
    exact hxy
  | case3 d hd => exact absurd h (hd x y r)

/-- **The content of `WriteInteger` is the minimal form of the number that its argument denotes.** -/
theorem integerBody_spec (data : Bytes) :
    Der.MinimalInteger (integerBody data) ∧ Der.intValue (integerBody data) = ofBE data := by
  have hhead {x y : UInt8} {r : Bytes} := dropLeadingZeros_head (d := data) (r := r) (x := x) (y := y)
  rw [integerBody, ← ofBE_dropLeadingZeros data]
  rcases hdrop : dropLeadingZeros data with _ | ⟨x, r⟩
  · exact ⟨trivial, rfl⟩
  · rw [hdrop] at hhead
    simp only
    split_ifs with hneg
    · -- the zero in front keeps the number positive
      have hx0 : ¬ (x &&& 0x80 = 0) := hneg
      exact ⟨⟨fun h => hx0 h.2, fun h => absurd h.1 (by decide)⟩, Der.intValue_zero_cons _⟩
    · have hpos : x &&& 0x80 = 0 := not_not.1 hneg
      have hxFF : x ≠ 0xFF := by
        rintro rfl
        exact absurd hpos (by decide)
      have hsign : Der.isNegative (x :: r) = false := by simp [Der.isNegative, hpos]
      refine ⟨?_, Der.intValue_of_not_isNegative hsign⟩
      rcases r with _ | ⟨y, r⟩
      · trivial
      · exact ⟨hhead rfl, fun h => hxFF h.1⟩

/-! ### Signed numbers -/

/-- What `b` has become is `b` with the INTEGER of `value` in its minimal form behind it. -/
def AppendsInteger (b after : Asn1Builder) (value : ℤ) : Prop :=
  ∃ content, after = b.append (Der.tlv 0x02 content) ∧ Der.MinimalInteger content ∧ Der.intValue content = value

theorem writeInteger_eq (b : Asn1Builder) {data : Bytes} (h : data.length < 2 ^ 32) :
    b.writeInteger data = b.append (Der.tlv 0x02 (integerBody data)) := by
  have hbody := length_integerBody_le data
  exact writeBytes_eq _ _ _ (by omega)

theorem writeInteger_appends (b : Asn1Builder) {data : Bytes} (h : data.length < 2 ^ 32) :
    AppendsInteger b (b.writeInteger data) (ofBE data) :=
  ⟨integerBody data, writeInteger_eq b h, (integerBody_spec data).1, (integerBody_spec data).2⟩

theorem length_dropLeadingOnes_le (d : Bytes) : (dropLeadingOnes d).length ≤ d.length := by
  fun_induction dropLeadingOnes d with
  | case1 x y r h ih => exact Nat.le_succ_of_le ih
  | case2 => exact Nat.le_refl _
  | case3 => exact Nat.le_refl _

theorem AppendsInteger.unique {b : Asn1Builder} {data : Bytes} (h : data.length ≤ 8) {value : ℤ}
    (hvalue : AppendsInteger b (b.writeInteger data) value) : value = ofBE data := by
  obtain ⟨content, heq, -, rfl⟩ := hvalue
  have hbody := length_integerBody_le data
  have hout : Der.tlv 0x02 (integerBody data) = Der.tlv 0x02 content := by
    rw [writeInteger_eq b (by omega)] at heq
    exact List.append_cancel_left (congrArg out heq)
  have hlen : content.length ≤ (Der.tlv 0x02 (integerBody data)).length := by
    rw [hout, Der.tlv, List.length_cons, List.length_append]
    omega
  have hle := Der.length_tlv_le (t := 0x02) (b := integerBody data) (by omega)
  obtain ⟨-, rfl⟩ := Der.tlv_inj (by omega) (by omega) hout
  exact (integerBody_spec data).2

theorem toNat_toUInt64 {value : Int64} (h : 0 ≤ value) : (value.toUInt64.toNat : ℤ) = value.toInt := by
  have hle : 0 ≤ value.toInt := Int64.le_iff_toInt_le.1 h
  have hmsb : value.toBitVec.msb = false := by
    rw [BitVec.msb_eq_toInt]
    exact decide_eq_false (Int.not_lt.2 hle)
  exact (BitVec.toInt_eq_toNat_of_msb hmsb).symm

/-- **`WriteIntegerSmall` writes the minimal INTEGER of its value exactly when the value is not negative.** -/
theorem writeIntegerSmall_iff (b : Asn1Builder) (value : Int64) :
    AppendsInteger b (b.writeIntegerSmall value) value.toInt ↔ 0 ≤ value := by
  have hbuf : ofBE (storeBE64 value.toUInt64) = value.toUInt64.toNat := by
    rw [storeBE64, ofBE_toBE]
    exact Nat.mod_eq_of_lt value.toUInt64.toNat_lt
  have hlen := length_storeBE64 value.toUInt64
  simp only [writeIntegerSmall]
  by_cases hneg : value < 0
  · -- the bytes are taken for a magnitude, and a magnitude is not negative
    rw [if_pos hneg]
    have hones := length_dropLeadingOnes_le (storeBE64 value.toUInt64)
    refine iff_of_false (fun h => ?_) (Int64.not_le.2 hneg)
    have hvalue := h.unique (by omega)
    have hlt : value.toInt < 0 := Int64.lt_iff_toInt_lt.1 hneg
    omega
  · rw [if_neg hneg]
    have hle : 0 ≤ value := Int64.not_lt.1 hneg
    have hzeros := length_dropLeadingZeros_le (storeBE64 value.toUInt64)
    refine iff_of_true ?_ hle
    have happ : AppendsInteger b (b.writeInteger (dropLeadingZeros (storeBE64 value.toUInt64)))
      (ofBE (dropLeadingZeros (storeBE64 value.toUInt64))) := writeInteger_appends b (by omega)
    rwa [ofBE_dropLeadingZeros, hbuf, toNat_toUInt64 hle] at happ

/-- -1 is written as `02 02 00 FF`, which is 255. -/
theorem writeIntegerSmall_minus_one :
    ¬ ∀ (b : Asn1Builder) (value : Int64), AppendsInteger b (b.writeIntegerSmall value) value.toInt := by
  intro h
  have hbytes : ({} : Asn1Builder).writeIntegerSmall (-1) = ({} : Asn1Builder).writeInteger [0xFF] := by
    have htrim : (if (-1 : Int64) < 0 then dropLeadingOnes (storeBE64 (-1 : Int64).toUInt64)
        else dropLeadingZeros (storeBE64 (-1 : Int64).toUInt64)) = [0xFF] := by decide
    simp only [writeIntegerSmall, htrim]
  have hminus := h {} (-1)
  rw [hbytes] at hminus
  exact absurd (hminus.unique (by decide)) (by decide)

end Asn1Builder

end VianiumVoip.Cert
