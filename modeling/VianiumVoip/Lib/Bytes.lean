import Mathlib.Data.List.Induction
import Mathlib.Data.Nat.Bitwise
import Mathlib.Tactic.Ring
import Mathlib.Tactic.Linarith

/-!
# Byte strings and big-endian numbers

Byte strings are lists of `UInt8`; a pointer into a buffer is the suffix that starts there, so `data + pos`
is `data.drop pos`.  A big-endian field of `n` bytes is read by `ofBE` and written by `toBE n`; the fixed
widths of the wire formats (`loadBE16`, `storeBE16`, …) are these two at 2, 3, 4, 6 and 8 bytes.
-/

namespace VianiumVoip.Lib

abbrev Bytes := List UInt8

/-- The characters of an ASCII literal as bytes. -/
def ascii (s : String) : Bytes := s.toList.map fun c => c.toNat.toUInt8

@[elab_as_elim]
theorem forall_byte {P : UInt8 → Prop} (h : ∀ n : Fin 256, P (UInt8.ofNat n)) (x : UInt8) : P x := by
  have hx : UInt8.ofNat x.toNat = x := UInt8.ofNat_toNat
  rw [← hx]
  exact h ⟨x.toNat, x.toNat_lt⟩

/-! ### Numbers -/

/-- The number a byte string denotes, most significant byte first. -/
def ofBE (b : Bytes) : ℕ := b.foldl (fun n x => 256 * n + x.toNat) 0

/-- The `n` low bytes of `v`, most significant byte first. -/
def toBE : ℕ → ℕ → Bytes
  | 0, _ => []
  | n + 1, v => toBE n (v / 256) ++ [UInt8.ofNat v]

@[simp] theorem ofBE_nil : ofBE [] = 0 := rfl

theorem ofBE_concat (b : Bytes) (x : UInt8) : ofBE (b ++ [x]) = 256 * ofBE b + x.toNat := by
  simp [ofBE]

@[simp] theorem length_toBE (n v : ℕ) : (toBE n v).length = n := by
  induction n generalizing v with
  | zero => rfl
  | succ n ih => simp [toBE, ih]

theorem ofBE_lt (b : Bytes) : ofBE b < 256 ^ b.length := by
  induction b using List.reverseRecOn with
  | nil => simp
  | append_singleton b x ih =>
    rw [ofBE_concat, List.length_append, List.length_singleton, pow_succ]
    have := x.toNat_lt
    omega

theorem ofBE_toBE (n v : ℕ) : ofBE (toBE n v) = v % 256 ^ n := by
  induction n generalizing v with
  | zero => simp [toBE, Nat.mod_one]
  | succ n ih =>
    have hlow : (UInt8.ofNat v).toNat = v % 256 := UInt8.toNat_ofNat'
    have hsplit : v % (256 * 256 ^ n) = v % 256 + 256 * (v / 256 % 256 ^ n) := Nat.mod_mul
    rw [toBE, ofBE_concat, ih, hlow, pow_succ', hsplit]
    omega

theorem toBE_ofBE (b : Bytes) : toBE b.length (ofBE b) = b := by
  induction b using List.reverseRecOn with
  | nil => rfl
  | append_singleton b x ih =>
    have hx := x.toNat_lt
    rw [ofBE_concat, List.length_append, List.length_singleton, toBE]
    have hdiv : (256 * ofBE b + x.toNat) / 256 = ofBE b := by omega
    have hmod : UInt8.ofNat (256 * ofBE b + x.toNat) = x := by
      apply UInt8.toNat_inj.1
      rw [UInt8.toNat_ofNat']
      omega
    rw [hdiv, hmod, ih]

theorem toBE_inj {n u v : ℕ} (hu : u < 256 ^ n) (hv : v < 256 ^ n) (h : toBE n u = toBE n v) : u = v := by
  have := congrArg ofBE h
  rwa [ofBE_toBE, ofBE_toBE, Nat.mod_eq_of_lt hu, Nat.mod_eq_of_lt hv] at this

/-! ### Fields of fixed width -/

/-- `(p[0] << 8) | p[1]` -/
def loadBE16 (p : Bytes) : UInt16 := UInt16.ofNat (ofBE (p.take 2))
/-- Three bytes, in a 32-bit integer. -/
def loadBE24 (p : Bytes) : UInt32 := UInt32.ofNat (ofBE (p.take 3))
def loadBE32 (p : Bytes) : UInt32 := UInt32.ofNat (ofBE (p.take 4))
/-- Six bytes, in a 64-bit integer. -/
def loadBE48 (p : Bytes) : UInt64 := UInt64.ofNat (ofBE (p.take 6))
def loadBE64 (p : Bytes) : UInt64 := UInt64.ofNat (ofBE (p.take 8))

def storeBE16 (v : UInt16) : Bytes := toBE 2 v.toNat
/-- The low three bytes. -/
def storeBE24 (v : UInt32) : Bytes := toBE 3 v.toNat
def storeBE32 (v : UInt32) : Bytes := toBE 4 v.toNat
/-- The low six bytes. -/
def storeBE48 (v : UInt64) : Bytes := toBE 6 v.toNat
def storeBE64 (v : UInt64) : Bytes := toBE 8 v.toNat

@[simp] theorem length_storeBE16 (v : UInt16) : (storeBE16 v).length = 2 := length_toBE ..
@[simp] theorem length_storeBE24 (v : UInt32) : (storeBE24 v).length = 3 := length_toBE ..
@[simp] theorem length_storeBE32 (v : UInt32) : (storeBE32 v).length = 4 := length_toBE ..
@[simp] theorem length_storeBE48 (v : UInt64) : (storeBE48 v).length = 6 := length_toBE ..
@[simp] theorem length_storeBE64 (v : UInt64) : (storeBE64 v).length = 8 := length_toBE ..

theorem ofBE_take_toBE (n v : ℕ) (r : Bytes) : ofBE ((toBE n v ++ r).take n) = v % 256 ^ n := by
  rw [List.take_left' (length_toBE n v), ofBE_toBE]

@[simp] theorem loadBE16_store (v : UInt16) (r : Bytes) : loadBE16 (storeBE16 v ++ r) = v := by
  have := v.toNat_lt
  rw [loadBE16, storeBE16, ofBE_take_toBE, Nat.mod_eq_of_lt (by omega), UInt16.ofNat_toNat]

theorem loadBE24_store (v : UInt32) (r : Bytes) :
    (loadBE24 (storeBE24 v ++ r)).toNat = v.toNat % 2 ^ 24 := by
  rw [loadBE24, storeBE24, ofBE_take_toBE, UInt32.toNat_ofNat']
  omega

@[simp] theorem loadBE32_store (v : UInt32) (r : Bytes) : loadBE32 (storeBE32 v ++ r) = v := by
  have := v.toNat_lt
  rw [loadBE32, storeBE32, ofBE_take_toBE, Nat.mod_eq_of_lt (by omega), UInt32.ofNat_toNat]

theorem loadBE48_store (v : UInt64) (r : Bytes) :
    (loadBE48 (storeBE48 v ++ r)).toNat = v.toNat % 2 ^ 48 := by
  rw [loadBE48, storeBE48, ofBE_take_toBE, UInt64.toNat_ofNat']
  omega

@[simp] theorem loadBE64_store (v : UInt64) (r : Bytes) : loadBE64 (storeBE64 v ++ r) = v := by
  have := v.toNat_lt
  rw [loadBE64, storeBE64, ofBE_take_toBE, Nat.mod_eq_of_lt (by omega), UInt64.ofNat_toNat]

/-! What is loaded and stored again is the bytes that it was loaded from. -/

theorem toBE_ofBE_take {n : ℕ} {p : Bytes} (h : n ≤ p.length) : toBE n (ofBE (p.take n)) = p.take n := by
  have hstore := toBE_ofBE (p.take n)
  rwa [List.length_take, min_eq_left h] at hstore

theorem ofBE_take_lt {n : ℕ} {p : Bytes} (h : n ≤ p.length) : ofBE (p.take n) < 256 ^ n := by
  have hlt := ofBE_lt (p.take n)
  rwa [List.length_take, min_eq_left h] at hlt

theorem storeBE16_load {p : Bytes} (h : 2 ≤ p.length) : storeBE16 (loadBE16 p) = p.take 2 := by
  have hlt := ofBE_take_lt h
  rw [storeBE16, loadBE16, UInt16.toNat_ofNat', Nat.mod_eq_of_lt (by omega), toBE_ofBE_take h]

theorem storeBE24_load {p : Bytes} (h : 3 ≤ p.length) : storeBE24 (loadBE24 p) = p.take 3 := by
  have hlt := ofBE_take_lt h
  rw [storeBE24, loadBE24, UInt32.toNat_ofNat', Nat.mod_eq_of_lt (by omega), toBE_ofBE_take h]

theorem storeBE32_load {p : Bytes} (h : 4 ≤ p.length) : storeBE32 (loadBE32 p) = p.take 4 := by
  have hlt := ofBE_take_lt h
  rw [storeBE32, loadBE32, UInt32.toNat_ofNat', Nat.mod_eq_of_lt (by omega), toBE_ofBE_take h]

/-! Little-endian fields. -/

def loadLE16 (p : Bytes) : UInt16 := loadBE16 (p.take 2).reverse
def loadLE32 (p : Bytes) : UInt32 := loadBE32 (p.take 4).reverse

def storeLE16 (v : UInt16) : Bytes := (storeBE16 v).reverse
def storeLE32 (v : UInt32) : Bytes := (storeBE32 v).reverse

@[simp] theorem length_storeLE16 (v : UInt16) : (storeLE16 v).length = 2 := by simp [storeLE16]
@[simp] theorem length_storeLE32 (v : UInt32) : (storeLE32 v).length = 4 := by simp [storeLE32]

@[simp] theorem loadLE16_store (v : UInt16) (r : Bytes) : loadLE16 (storeLE16 v ++ r) = v := by
  have := loadBE16_store v []
  rw [List.append_nil] at this
  rw [loadLE16, List.take_left' (length_storeLE16 v), storeLE16, List.reverse_reverse, this]

@[simp] theorem loadLE32_store (v : UInt32) (r : Bytes) : loadLE32 (storeLE32 v ++ r) = v := by
  have := loadBE32_store v []
  rw [List.append_nil] at this
  rw [loadLE32, List.take_left' (length_storeLE32 v), storeLE32, List.reverse_reverse, this]

/-! A reader that skips a field lands behind it. -/

theorem drop_toBE (k n v : ℕ) (r : Bytes) : (toBE k v ++ r).drop (n + k) = r.drop n := by
  rw [List.drop_append, length_toBE, Nat.add_sub_cancel, List.drop_of_length_le (by simp), List.nil_append]

@[simp] theorem drop_storeBE16 (v : UInt16) (n : ℕ) (r : Bytes) :
    (storeBE16 v ++ r).drop (n + 2) = r.drop n := drop_toBE ..
@[simp] theorem drop_storeBE24 (v : UInt32) (n : ℕ) (r : Bytes) :
    (storeBE24 v ++ r).drop (n + 3) = r.drop n := drop_toBE ..
@[simp] theorem drop_storeBE32 (v : UInt32) (n : ℕ) (r : Bytes) :
    (storeBE32 v ++ r).drop (n + 4) = r.drop n := drop_toBE ..
@[simp] theorem drop_storeBE48 (v : UInt64) (n : ℕ) (r : Bytes) :
    (storeBE48 v ++ r).drop (n + 6) = r.drop n := drop_toBE ..
@[simp] theorem drop_storeBE64 (v : UInt64) (n : ℕ) (r : Bytes) :
    (storeBE64 v ++ r).drop (n + 8) = r.drop n := drop_toBE ..

/-! ### Exclusive or -/

/-- Bytewise exclusive or, as long as the shorter operand. -/
def xorBytes (a b : Bytes) : Bytes := List.zipWith (· ^^^ ·) a b

@[simp] theorem length_xorBytes (a b : Bytes) : (xorBytes a b).length = min a.length b.length := by
  simp [xorBytes]

/-- A pad at least as long as the data, applied twice, gives the data back. -/
theorem xorBytes_xorBytes {a k : Bytes} (h : a.length ≤ k.length) : xorBytes (xorBytes a k) k = a := by
  induction a generalizing k with
  | nil => simp [xorBytes]
  | cons x a ih =>
    rcases k with _ | ⟨y, k⟩
    · simp at h
    · have hxy : x ^^^ y ^^^ y = x := by rw [UInt8.xor_assoc, UInt8.xor_self, UInt8.xor_zero]
      have := ih (k := k) (by simpa using h)
      simp only [xorBytes, List.zipWith_cons_cons, hxy] at this ⊢
      rw [this]

theorem xorBytes_left_inj {a b k : Bytes} (ha : a.length ≤ k.length) (hb : b.length ≤ k.length)
    (h : xorBytes a k = xorBytes b k) : a = b := by
  rw [← xorBytes_xorBytes ha, h, xorBytes_xorBytes hb]

end VianiumVoip.Lib
