import VianiumVoip.Lib.BlockModes

/-!
# The keystream of counter mode

The counter block is a number of 128 bits, big-endian, and incrementing it byte by byte is adding one to this number
(`increment_counterBlock`).  The keystream is what the cipher makes of the blocks from a number on, put together and cut
off where the data end.

Counter mode is the exclusive or with the keystream (`ctr_eq`).  A keystream that is asked for in pieces of whole blocks
is the keystream of the whole (`keystream_append`).
-/

namespace VianiumVoip.Lib.BlockModes

variable (f : Bytes → Bytes)

/-- The block of a number, modulo 2 ^ 128. -/
def counterBlock (n : ℕ) : Bytes := toBE 16 (n % 2 ^ 128)

/-- The first bytes of `f (n) ++ f (n + 1) ++ …` -/
def keystream (counter length : ℕ) : Bytes :=
  ((List.range ((length + 15) / 16)).flatMap fun i => f (counterBlock (counter + i))).take length

variable {f} {counter length : ℕ}

/-! ### The counter -/

theorem toBE_mod (n v : ℕ) : toBE n (v % 256 ^ n) = toBE n v := by
  have hvalue : ofBE (toBE n (v % 256 ^ n)) = ofBE (toBE n v) := by rw [ofBE_toBE, ofBE_toBE, Nat.mod_mod]
  have hback := toBE_ofBE (toBE n (v % 256 ^ n))
  rw [hvalue, length_toBE] at hback
  have hback' := toBE_ofBE (toBE n v)
  rw [length_toBE] at hback'
  exact hback.symm.trans hback'

theorem counterBlock_ofBE {block : Bytes} (h : block.length = 16) : counterBlock (ofBE block) = block := by
  have hlt : ofBE block < 2 ^ 128 := by
    have hlt := ofBE_lt block
    rwa [h] at hlt
  have hback := toBE_ofBE block
  rw [h] at hback
  rw [counterBlock, Nat.mod_eq_of_lt hlt, hback]

theorem increment_concat (block : Bytes) (x : UInt8) :
    increment (block ++ [x]) = if x + 1 ≠ 0 then block ++ [x + 1] else increment block ++ [0] := by
  rw [increment, List.reverse_append, List.reverse_singleton, List.singleton_append, incrementReversed]
  split
  · rw [List.reverse_cons, List.reverse_reverse]
  · rw [List.reverse_cons, increment]

/-- **The carry runs through all bytes**: incrementing is adding one. -/
theorem increment_eq (block : Bytes) : increment block = toBE block.length (ofBE block + 1) := by
  induction block using List.reverseRecOn with
  | nil => rfl
  | append_singleton block x ih =>
    have hx := x.toNat_lt
    rw [increment_concat, List.length_append, List.length_singleton, toBE, ofBE_concat]
    split
    · next hnext =>
      -- no carry out of the last byte
      have hmax : x.toNat ≠ 255 := by
        intro hmax
        refine hnext (UInt8.toNat_inj.1 ?_)
        rw [UInt8.toNat_add, hmax]
        rfl
      have hdiv : (256 * ofBE block + x.toNat + 1) / 256 = ofBE block := by omega
      have hlow : UInt8.ofNat (256 * ofBE block + x.toNat + 1) = x + 1 := by
        rw [← UInt8.toNat_inj, UInt8.toNat_ofNat', UInt8.toNat_add, UInt8.toNat_one]
        omega
      rw [hdiv, toBE_ofBE, hlow]
    · next hwrap =>
      have hmax : x.toNat = 255 := by
        have hzero := congrArg UInt8.toNat (not_not.1 hwrap)
        rw [UInt8.toNat_add, UInt8.toNat_one, UInt8.toNat_zero] at hzero
        omega
      have hdiv : (256 * ofBE block + x.toNat + 1) / 256 = ofBE block + 1 := by omega
      have hlow : UInt8.ofNat (256 * ofBE block + x.toNat + 1) = 0 := by
        rw [← UInt8.toNat_inj, UInt8.toNat_ofNat', UInt8.toNat_zero]
        omega
      rw [hdiv, ih, hlow]

theorem length_counterBlock (n : ℕ) : (counterBlock n).length = 16 := length_toBE ..

theorem increment_counterBlock (n : ℕ) : increment (counterBlock n) = counterBlock (n + 1) := by
  have hvalue : ofBE (counterBlock n) = n % 256 ^ 16 := by
    rw [counterBlock, ofBE_toBE]
    exact Nat.mod_mod ..
  have hnext : counterBlock (n + 1) = toBE 16 (n + 1) := toBE_mod 16 (n + 1)
  rw [increment_eq, length_counterBlock, hvalue, hnext, ← toBE_mod 16 (n + 1), ← toBE_mod 16 (n % 256 ^ 16 + 1),
    Nat.mod_add_mod]

theorem iterate_increment_counterBlock (k n : ℕ) : increment^[k] (counterBlock n) = counterBlock (n + k) := by
  induction k generalizing n with
  | zero => rfl
  | succ k ih => rw [Function.iterate_succ_apply, increment_counterBlock, ih, Nat.add_assoc, Nat.add_comm 1 k]

/-! ### The keystream -/

theorem xorBytes_take {a k : Bytes} {n : ℕ} (h : a.length ≤ n) : xorBytes a (k.take n) = xorBytes a k := by
  have hshort : (xorBytes a k).length ≤ n := by
    rw [length_xorBytes]
    exact (Nat.min_le_left ..).trans h
  calc xorBytes a (k.take n) = xorBytes (a.take n) (k.take n) := by rw [List.take_of_length_le h]
    _ = (xorBytes a k).take n := List.take_zipWith.symm
    _ = xorBytes a k := List.take_of_length_le hshort

theorem xorBytes_append {a a' k k' : Bytes} (h : a.length = k.length) :
    xorBytes (a ++ a') (k ++ k') = xorBytes a k ++ xorBytes a' k' := List.zipWith_append h

theorem xorBytes_zeros (k : Bytes) : xorBytes (List.replicate k.length 0) k = k := by
  induction k with
  | nil => rfl
  | cons x k ih =>
    have hx : 0 ^^^ x = x := UInt8.zero_xor
    rw [List.length_cons, List.replicate_succ, xorBytes, List.zipWith_cons_cons, hx]
    exact congrArg (x :: ·) ih

section Keystream

variable (hf : ∀ block, (f block).length = 16)
include hf

theorem keystream_of_pos (h : 0 < length) :
    keystream f counter length
      = (f (counterBlock counter)).take length ++ keystream f (counter + 1) (length - 16) := by
  have hcount : (length + 15) / 16 = (length - 16 + 15) / 16 + 1 := by omega
  have hblocks : (fun i => f (counterBlock (counter + i))) ∘ Nat.succ
      = fun i => f (counterBlock (counter + 1 + i)) := by
    funext i
    rw [Function.comp_apply, Nat.succ_eq_add_one, Nat.add_assoc, Nat.add_comm 1 i]
  rw [keystream, hcount, List.range_succ_eq_map, List.flatMap_cons, List.take_append, hf, List.flatMap_map,
    Nat.add_zero]
  exact congrArg (fun g => _ ++ ((List.range _).flatMap g).take _) hblocks

theorem length_keystream (counter length : ℕ) : (keystream f counter length).length = length := by
  induction length using Nat.strong_induction_on generalizing counter with
  | _ length ih =>
    by_cases h : 0 < length
    · rw [keystream_of_pos hf h, List.length_append, List.length_take, hf, ih (length - 16) (by omega)]
      omega
    · obtain rfl : length = 0 := by omega
      rfl

/-- **A keystream in pieces**: whole blocks, and what comes behind them. -/
theorem keystream_append (k counter length : ℕ) :
    keystream f counter (16 * k + length) = keystream f counter (16 * k) ++ keystream f (counter + k) length := by
  induction k generalizing counter with
  | zero => rw [Nat.mul_zero, Nat.zero_add, Nat.add_zero]; rfl
  | succ k ih =>
    have hlong : 16 * (k + 1) + length - 16 = 16 * k + length := by omega
    have hwhole : 16 * (k + 1) - 16 = 16 * k := by omega
    have hblock (n : ℕ) (hn : 16 ≤ n) : (f (counterBlock counter)).take n = f (counterBlock counter) :=
      List.take_of_length_le (by rw [hf]; exact hn)
    rw [keystream_of_pos hf (by omega), hlong, ih, keystream_of_pos hf (by omega : 0 < 16 * (k + 1)), hwhole,
      hblock _ (by omega), hblock _ (by omega), List.append_assoc, Nat.add_assoc, Nat.add_comm 1 k]

/-- **Counter mode is the exclusive or with the keystream.** -/
theorem ctr_counterBlock (counter : ℕ) (input : Bytes) :
    ctr f (counterBlock counter) input = xorBytes input (keystream f counter input.length) := by
  induction hlength : input.length using Nat.strong_induction_on generalizing counter input with
  | _ length ih =>
    by_cases hempty : input = []
    · rw [hempty, ctr_nil]
      rfl
    · have hpos : 0 < input.length := List.length_pos_iff.2 hempty
      have hrest : (input.drop 16).length = length - 16 := by rw [List.length_drop, hlength]
      have htake : (input.take 16).length = ((f (counterBlock counter)).take length).length := by
        rw [List.length_take, List.length_take, hf, hlength, Nat.min_comm]
      have hfirst : xorBytes (input.take 16) (f (counterBlock counter))
          = xorBytes (input.take 16) ((f (counterBlock counter)).take length) :=
        (xorBytes_take (by rw [List.length_take, hlength]; exact Nat.min_le_right ..)).symm
      rw [ctr_of_ne_nil hempty, increment_counterBlock, ih (length - 16) (by omega) _ _ hrest,
        keystream_of_pos hf (by omega : 0 < length), hfirst, ← xorBytes_append htake, List.take_append_drop]

theorem ctr_eq {block : Bytes} (h : block.length = 16) (input : Bytes) :
    ctr f block input = xorBytes input (keystream f (ofBE block) input.length) := by
  rw [← ctr_counterBlock hf, counterBlock_ofBE h]

theorem ctr_zeros (counter length : ℕ) :
    ctr f (counterBlock counter) (List.replicate length 0) = keystream f counter length := by
  have hpad : (keystream f counter length).length = length := length_keystream hf counter length
  rw [ctr_counterBlock hf, List.length_replicate]
  nth_rewrite 1 [← hpad]
  exact xorBytes_zeros _

end Keystream

end VianiumVoip.Lib.BlockModes
