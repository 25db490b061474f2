import VianiumVoip.Lib.Der

/-!
# The ASN.1 writer

`Asn1Builder` of `infrastructure/ecdsa_p256_keypair.cpp`: a byte buffer and a stack of pending length offsets.
`beginConstructed` writes a tag and a one-byte placeholder; `endConstructed` replaces the placeholder by the
length of what was written since.  Every other operation only appends.

`endConstructed_append` is the rule for the whole writer: a begin, appended content and an end together append
one definite-length value, whatever is already in the buffer and however deep the nesting.
-/

namespace VianiumVoip.Cert

open VianiumVoip.Lib

structure Asn1Builder where
  out : Bytes := []
  /-- `m_pendingLengthOffsets`, innermost first. -/
  pendingLengthOffsets : List ℕ := []

namespace Asn1Builder

/-- `EncodeLength`: `v & 0xFF` is pushed while `v > 0`, and the bytes are emitted in reverse. -/
def encodeLength (len : ℕ) : Bytes :=
  if len < 0x80 then [UInt8.ofNat len]
  else
    let bytes := pull len
    UInt8.ofNat (0x80 ||| bytes.length) :: bytes.reverse
where
  pull (v : ℕ) : Bytes := if 0 < v then UInt8.ofNat (v &&& 0xFF) :: pull (v >>> 8) else []
  termination_by v
  decreasing_by rw [Nat.shiftRight_eq_div_pow]; omega

def append (b : Asn1Builder) (bytes : Bytes) : Asn1Builder := { b with out := b.out ++ bytes }

def writeRaw (b : Asn1Builder) (data : Bytes) : Asn1Builder := b.append data

def writeBytes (b : Asn1Builder) (tag : UInt8) (data : Bytes) : Asn1Builder :=
  ((b.append [tag]).append (encodeLength data.length)).append data

/-- The loop that drops a leading zero byte while the next byte keeps the number positive. -/
def dropLeadingZeros : Bytes → Bytes
  | x :: y :: r => if x = 0 ∧ y &&& 0x80 = 0 then dropLeadingZeros (y :: r) else x :: y :: r
  | data => data

/-- The same for the sign bytes of a negative number. -/
def dropLeadingOnes : Bytes → Bytes
  | x :: y :: r => if x = 0xFF ∧ y &&& 0x80 ≠ 0 then dropLeadingOnes (y :: r) else x :: y :: r
  | data => data

/-- The content octets of `WriteInteger`. -/
def integerBody (data : Bytes) : Bytes :=
  match dropLeadingZeros data with
  | [] => [0x00]
  | x :: r => if x &&& 0x80 ≠ 0 then 0x00 :: x :: r else x :: r

def writeInteger (b : Asn1Builder) (data : Bytes) : Asn1Builder := b.writeBytes 0x02 (integerBody data)

def writeIntegerSmall (b : Asn1Builder) (value : Int64) : Asn1Builder :=
  let buf := storeBE64 value.toUInt64
  b.writeInteger (if value < 0 then dropLeadingOnes buf else dropLeadingZeros buf)

def writeOidRaw (b : Asn1Builder) (der : Bytes) : Asn1Builder := b.writeBytes 0x06 der

def writeBitString (b : Asn1Builder) (data : Bytes) (unusedBits : UInt8) : Asn1Builder :=
  b.writeBytes 0x03 ([unusedBits] ++ data)

def beginConstructed (b : Asn1Builder) (tag : UInt8) : Asn1Builder :=
  { out := b.out ++ [tag] ++ [0x00]
    pendingLengthOffsets := (b.out ++ [tag]).length :: b.pendingLengthOffsets }

def endConstructed (b : Asn1Builder) : Asn1Builder :=
  match b.pendingLengthOffsets with
  | [] => b
  | lengthOffset :: pending =>
    let contentLen := b.out.length - (lengthOffset + 1)
    { out := b.out.take lengthOffset ++ encodeLength contentLen ++ b.out.drop (lengthOffset + 1)
      pendingLengthOffsets := pending }

/-! ### What the operations append -/

theorem pull_eq (v : ℕ) : (encodeLength.pull v).reverse = Der.octets v := by
  fun_induction encodeLength.pull v with
  | case1 v hv ih =>
    have hmask : UInt8.ofNat (v &&& 0xFF) = UInt8.ofNat v := by
      rw [← UInt8.toNat_inj, UInt8.toNat_ofNat', UInt8.toNat_ofNat', Nat.and_two_pow_sub_one_eq_mod v 8,
        Nat.mod_mod]
    rw [Der.octets, if_neg (by omega), List.reverse_cons, ih, hmask, Nat.shiftRight_eq_div_pow]
  | case2 v hv =>
    obtain rfl : v = 0 := by omega
    simp [Der.octets]

theorem encodeLength_eq {len : ℕ} (h : len < 256 ^ 8) : encodeLength len = Der.lengthOctets len := by
  have hle := Der.length_octets_le h
  have hlen : (encodeLength.pull len).length = (Der.octets len).length := by
    rw [← pull_eq, List.length_reverse]
  have hor : 0x80 ||| (Der.octets len).length = 0x80 + (Der.octets len).length :=
    (Nat.two_pow_add_eq_or_of_lt (i := 7) (by omega) 1).symm
  unfold encodeLength Der.lengthOctets
  split_ifs
  · rfl
  · simp only [hlen, hor, pull_eq]

@[simp] theorem append_append (b : Asn1Builder) (x y : Bytes) :
    (b.append x).append y = b.append (x ++ y) := by
  simp [append, List.append_assoc]

theorem writeBytes_eq (b : Asn1Builder) (tag : UInt8) (data : Bytes) (h : data.length < 256 ^ 8) :
    b.writeBytes tag data = b.append (Der.tlv tag data) := by
  simp [writeBytes, Der.tlv, encodeLength_eq h]

/-- **A constructed value.**  What is appended between the begin and its end becomes the content. -/
theorem endConstructed_append (b : Asn1Builder) (tag : UInt8) {content : Bytes}
    (h : content.length < 256 ^ 8) :
    ((b.beginConstructed tag).append content).endConstructed = b.append (Der.tlv tag content) := by
  have hlen : (b.out ++ [tag] ++ [0x00] ++ content).length - ((b.out ++ [tag]).length + 1)
      = content.length := by
    simp only [List.length_append, List.length_singleton]
    omega
  have htake : (b.out ++ [tag] ++ [0x00] ++ content).take (b.out ++ [tag]).length = b.out ++ [tag] := by
    rw [List.append_assoc (b.out ++ [tag])]
    exact List.take_left' rfl
  have hdrop : (b.out ++ [tag] ++ [0x00] ++ content).drop ((b.out ++ [tag]).length + 1) = content :=
    List.drop_left' (by simp)
  simp only [beginConstructed, append, endConstructed]
  rw [hlen, htake, hdrop, encodeLength_eq h]
  simp [Der.tlv]

/-- A first byte that is neither zero nor negative stays first: the number is written as it is. -/
theorem integerBody_eq {x : UInt8} {r : Bytes} (h0 : x ≠ 0) (hpos : x &&& 0x80 = 0) :
    integerBody (x :: r) = x :: r := by
  have hdrop : dropLeadingZeros (x :: r) = x :: r := by
    rcases r with _ | ⟨y, r⟩
    · rfl
    · rw [dropLeadingZeros, if_neg (by simp [h0])]
  simp [integerBody, hdrop, hpos]

theorem length_dropLeadingZeros_le (d : Bytes) : (dropLeadingZeros d).length ≤ d.length := by
  fun_induction dropLeadingZeros d with
  | case1 x y r h ih => exact Nat.le_succ_of_le ih
  | case2 => exact Nat.le_refl _
  | case3 => exact Nat.le_refl _

theorem length_integerBody_le (d : Bytes) : (integerBody d).length ≤ d.length + 1 := by
  have h := length_dropLeadingZeros_le d
  unfold integerBody
  split
  · simp
  · next x r heq =>
    rw [heq] at h
    simp only [List.length_cons] at h
    split_ifs
    · simp only [List.length_cons]
      omega
    · simp only [List.length_cons]
      omega

end Asn1Builder

end VianiumVoip.Cert
