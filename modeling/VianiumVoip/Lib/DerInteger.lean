import VianiumVoip.Lib.Bytes

/-!
# INTEGER content octets

The content of an INTEGER is its number in two's complement, most significant byte first, in the least number of bytes.
`intValue` is that number, `MinimalInteger` the rule on the first nine bits.
-/

namespace VianiumVoip.Lib.Der

/-- The sign bit. -/
def isNegative : Bytes → Bool
  | [] => false
  | x :: _ => x &&& 0x80 ≠ 0

/-- The number in two's complement. -/
def intValue (content : Bytes) : ℤ :=
  if isNegative content then (ofBE content : ℤ) - 256 ^ content.length else ofBE content

/-- The first byte and the sign bit of the second are not all zeros, and not all ones. -/
def MinimalInteger : Bytes → Prop
  | [] => False
  | [_] => True
  | x :: y :: _ => ¬ (x = 0x00 ∧ y &&& 0x80 = 0) ∧ ¬ (x = 0xFF ∧ y &&& 0x80 ≠ 0)

instance : DecidablePred MinimalInteger := fun content =>
  match content with
  | [] => inferInstanceAs (Decidable False)
  | [_] => inferInstanceAs (Decidable True)
  | _ :: _ :: _ => inferInstanceAs (Decidable (_ ∧ _))

@[simp] theorem ofBE_zero_cons (b : Bytes) : ofBE (0 :: b) = ofBE b := rfl

theorem intValue_of_not_isNegative {content : Bytes} (h : isNegative content = false) :
    intValue content = ofBE content := by
  rw [intValue, if_neg (by rw [h]; decide)]

theorem intValue_zero_cons (b : Bytes) : intValue (0 :: b) = ofBE b :=
  intValue_of_not_isNegative (by simp [isNegative])

end VianiumVoip.Lib.Der
