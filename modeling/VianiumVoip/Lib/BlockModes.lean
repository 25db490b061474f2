import VianiumVoip.Lib.Bytes

/-!
# Modes of a block cipher

Counter mode and infinite garble extension (IGE) over blocks of sixteen bytes.  The cipher under its key is a function
on blocks, `f`, and for IGE a second one, `g`, that undoes it.

* `ctr_ctr`: counter mode undoes itself, for any `f` that returns blocks and any length;
* `igeDecrypt_igeEncrypt`: IGE is undone block by block, for any `g` that undoes `f` on blocks.
-/

namespace VianiumVoip.Lib.BlockModes

/-! ### Counter mode -/

/-- One more, on a number whose least significant byte comes first. -/
def incrementReversed : Bytes → Bytes
  | [] => []
  | x :: rest => if x + 1 ≠ 0 then (x + 1) :: rest else 0 :: incrementReversed rest

/-- The counter block, incremented as one big-endian number. -/
def increment (counter : Bytes) : Bytes := (incrementReversed counter.reverse).reverse

variable (f g : Bytes → Bytes)

/-- The input, xored with the encryptions of the counter blocks. -/
def ctr (counter input : Bytes) : Bytes :=
  if input = [] then []
  else xorBytes (input.take 16) (f counter) ++ ctr (increment counter) (input.drop 16)
termination_by input.length
decreasing_by
  have : input.length ≠ 0 := by simpa
  rw [List.length_drop]
  omega

variable {f g} {counter input : Bytes}

theorem ctr_nil : ctr f counter [] = [] := by rw [ctr, if_pos rfl]

theorem ctr_of_ne_nil (h : input ≠ []) :
    ctr f counter input = xorBytes (input.take 16) (f counter) ++ ctr f (increment counter) (input.drop 16) := by
  rw [ctr, if_neg h]

section Counter

variable (hf : ∀ block, (f block).length = 16)
include hf

theorem length_xor_block (counter input : Bytes) :
    (xorBytes (input.take 16) (f counter)).length = min 16 input.length := by
  rw [length_xorBytes, List.length_take, hf]
  omega

theorem length_ctr (counter input : Bytes) : (ctr f counter input).length = input.length := by
  induction counter, input using ctr.induct with
  | case1 counter => rw [ctr_nil]
  | case2 counter input hne ih =>
    rw [ctr_of_ne_nil hne, List.length_append, length_xor_block hf, ih, List.length_drop]
    omega

/-- **Counter mode undoes itself.**  The keystream depends on the counter and the length alone. -/
theorem ctr_ctr (counter input : Bytes) : ctr f counter (ctr f counter input) = input := by
  induction counter, input using ctr.induct with
  | case1 counter => rw [ctr_nil, ctr_nil]
  | case2 counter input hne ih =>
    have hlen := length_xor_block hf counter input
    have hcancel : xorBytes (xorBytes (input.take 16) (f counter)) (f counter) = input.take 16 := by
      apply xorBytes_xorBytes
      rw [List.length_take, hf]
      omega
    have hnonempty : ctr f counter input ≠ [] := by
      intro h
      have := length_ctr hf counter input
      rw [h, List.length_nil] at this
      exact hne (List.length_eq_zero_iff.1 this.symm)
    rw [ctr_of_ne_nil hnonempty, ctr_of_ne_nil hne]
    by_cases hlast : input.length < 16
    · -- the last block: nothing is left behind it
      have hdrop : input.drop 16 = [] := List.drop_eq_nil_iff.2 (by omega)
      rw [hdrop, ctr_nil, List.append_nil, List.take_of_length_le (by omega), List.drop_of_length_le (by omega),
        ctr_nil, List.append_nil, hcancel, List.take_of_length_le (by omega)]
    · have hblock : (xorBytes (input.take 16) (f counter)).length = 16 := by omega
      rw [List.take_left' hblock, List.drop_left' hblock, ih, hcancel, List.take_append_drop]

end Counter

/-! ### Infinite garble extension -/

variable (f g) in
/-- `n` blocks.  A block is xored with the ciphertext before it in front of the cipher, and with the plaintext before it
behind. -/
def igeEncrypt : (n : ℕ) → (prevC prevP input : Bytes) → Bytes
  | 0, _, _, _ => []
  | n + 1, prevC, prevP, input =>
    let curP := input.take 16
    let curC := xorBytes (f (xorBytes curP prevC)) prevP
    curC ++ igeEncrypt n curC curP (input.drop 16)

variable (f g) in
/-- The same with the two kinds of text exchanged. -/
def igeDecrypt : (n : ℕ) → (prevC prevP input : Bytes) → Bytes
  | 0, _, _, _ => []
  | n + 1, prevC, prevP, input =>
    let curC := input.take 16
    let curP := xorBytes (g (xorBytes curC prevP)) prevC
    curP ++ igeDecrypt n curC curP (input.drop 16)

variable {n : ℕ} {prevC prevP : Bytes}

section Garble

variable (hf : ∀ block, (f block).length = 16)
include hf

theorem length_igeEncrypt (hP : prevP.length = 16) (hlen : input.length = 16 * n) :
    (igeEncrypt f n prevC prevP input).length = 16 * n := by
  induction n generalizing prevC prevP input with
  | zero => rfl
  | succ n ih =>
    have htake : (input.take 16).length = 16 := by rw [List.length_take]; omega
    have hdrop : (input.drop 16).length = 16 * n := by rw [List.length_drop]; omega
    rw [igeEncrypt, List.length_append, length_xorBytes, hf, hP, ih htake hdrop, Nat.min_self]
    omega

/-- **IGE is undone**, for any number of blocks. -/
theorem igeDecrypt_igeEncrypt (hg : ∀ block, block.length = 16 → g (f block) = block) (hC : prevC.length = 16)
    (hP : prevP.length = 16) (hlen : input.length = 16 * n) :
    igeDecrypt g n prevC prevP (igeEncrypt f n prevC prevP input) = input := by
  induction n generalizing prevC prevP input with
  | zero => exact (List.length_eq_zero_iff.1 hlen).symm
  | succ n ih =>
    have htake : (input.take 16).length = 16 := by rw [List.length_take]; omega
    have hdrop : (input.drop 16).length = 16 * n := by rw [List.length_drop]; omega
    have hin : (xorBytes (input.take 16) prevC).length = 16 := by rw [length_xorBytes, htake, hC, Nat.min_self]
    set curC := xorBytes (f (xorBytes (input.take 16) prevC)) prevP with hcurC
    have hcurCLength : curC.length = 16 := by rw [hcurC, length_xorBytes, hf, hP, Nat.min_self]
    -- behind the cipher stands what stood before it
    have hout : xorBytes curC prevP = f (xorBytes (input.take 16) prevC) := by
      rw [hcurC, xorBytes_xorBytes (by rw [hf, hP])]
    have hcurP : xorBytes (g (xorBytes curC prevP)) prevC = input.take 16 := by
      rw [hout, hg _ hin, xorBytes_xorBytes (by rw [htake, hC])]
    have hstep : igeEncrypt f (n + 1) prevC prevP input = curC ++ igeEncrypt f n curC (input.take 16) (input.drop 16) :=
      rfl
    rw [hstep, igeDecrypt, List.take_left' hcurCLength, List.drop_left' hcurCLength, hcurP,
      ih hcurCLength htake hdrop, List.take_append_drop]

end Garble

end VianiumVoip.Lib.BlockModes
