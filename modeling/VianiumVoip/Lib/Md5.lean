import VianiumVoip.Lib.BlockHash
import VianiumVoip.Lib.SineTable

/-!
# MD5

The message digest of RFC 1321 as one function of the message: padding, and four rounds of sixteen steps for each block.
Its constants are the leading bits of sines; `sineConstants` lists them.
-/

namespace VianiumVoip.Lib.Md5

def rotl (x n : UInt32) : UInt32 := x <<< n ||| x >>> (32 - n)

/-- The four words of the state. -/
structure State where
  a : UInt32
  b : UInt32
  c : UInt32
  d : UInt32
  deriving DecidableEq

def State.initial : State where
  a := 0x67452301
  b := 0xefcdab89
  c := 0x98badcfe
  d := 0x10325476

def State.add (x y : State) : State := ⟨x.a + y.a, x.b + y.b, x.c + y.c, x.d + y.d⟩

def State.bytes (x : State) : Bytes := [x.a, x.b, x.c, x.d].flatMap storeLE32

def funF (x y z : UInt32) : UInt32 := x &&& y ||| ~~~x &&& z
def funG (x y z : UInt32) : UInt32 := x &&& z ||| y &&& ~~~z
def funH (x y z : UInt32) : UInt32 := x ^^^ y ^^^ z
def funI (x y z : UInt32) : UInt32 := y ^^^ (x ||| ~~~z)

/-- The function of step `i`. -/
def roundFunction (i : ℕ) : UInt32 → UInt32 → UInt32 → UInt32 :=
  match i / 16 with
  | 0 => funF
  | 1 => funG
  | 2 => funH
  | _ => funI

/-- The word of the block that step `i` takes. -/
def wordIndex (i : ℕ) : ℕ :=
  match i / 16 with
  | 0 => i
  | 1 => (5 * i + 1) % 16
  | 2 => (3 * i + 5) % 16
  | _ => 7 * i % 16

/-- How far step `i` rotates. -/
def rotation (i : ℕ) : UInt32 :=
  match i / 16 with
  | 0 => [7, 12, 17, 22].getD (i % 4) 0
  | 1 => [5, 9, 14, 20].getD (i % 4) 0
  | 2 => [4, 11, 16, 23].getD (i % 4) 0
  | _ => [6, 10, 15, 21].getD (i % 4) 0

section Constants

variable (T : ℕ → UInt32)

/-- Step `i`, on the words of the block; the words of the state move on by one place. -/
def step (x : ℕ → UInt32) (s : State) (i : ℕ) : State where
  a := s.d
  b := s.b + rotl (s.a + roundFunction i s.b s.c s.d + x (wordIndex i) + T i) (rotation i)
  c := s.b
  d := s.c

def compress (s : State) (block : Bytes) : State :=
  s.add ((List.range 64).foldl (step T fun k => loadLE32 (block.drop (4 * k))) s)

/-- The message, a one bit, zeros up to eight bytes below a whole number of blocks, and the length in bits. -/
def pad (m : Bytes) : Bytes :=
  m ++ [0x80] ++ List.replicate ((119 - m.length % 64) % 64) 0 ++ (storeBE64 (UInt64.ofNat (8 * m.length))).reverse

/-- The digest with these constants. -/
def digest (m : Bytes) : Bytes := (BlockHash.absorb (compress T) 64 State.initial (pad m)).bytes

end Constants

theorem length_pad (m : Bytes) : 64 ∣ (pad m).length := by
  simp only [pad, List.length_append, List.length_singleton, List.length_replicate, List.length_reverse,
    length_storeBE64]
  omega

/-- `⌊2 ^ 32 · |sin (i + 1)|⌋`, with `i + 1` in radians. -/
noncomputable def sineConstant (i : ℕ) : UInt32 := UInt32.ofNat ⌊2 ^ 32 * |Real.sin (i + 1 : ℕ)|⌋₊

/-- **MD5** -/
noncomputable def md5 (m : Bytes) : Bytes := digest sineConstant m

/-! ### The constants -/

def sineConstants : List UInt32 :=
  [0xd76aa478, 0xe8c7b756, 0x242070db, 0xc1bdceee, 0xf57c0faf, 0x4787c62a, 0xa8304613, 0xfd469501,
    0x698098d8, 0x8b44f7af, 0xffff5bb1, 0x895cd7be, 0x6b901122, 0xfd987193, 0xa679438e, 0x49b40821,
    0xf61e2562, 0xc040b340, 0x265e5a51, 0xe9b6c7aa, 0xd62f105d, 0x02441453, 0xd8a1e681, 0xe7d3fbc8,
    0x21e1cde6, 0xc33707d6, 0xf4d50d87, 0x455a14ed, 0xa9e3e905, 0xfcefa3f8, 0x676f02d9, 0x8d2a4c8a,
    0xfffa3942, 0x8771f681, 0x6d9d6122, 0xfde5380c, 0xa4beea44, 0x4bdecfa9, 0xf6bb4b60, 0xbebfbc70,
    0x289b7ec6, 0xeaa127fa, 0xd4ef3085, 0x04881d05, 0xd9d4d039, 0xe6db99e5, 0x1fa27cf8, 0xc4ac5665,
    0xf4292244, 0x432aff97, 0xab9423a7, 0xfc93a039, 0x655b59c3, 0x8f0ccc92, 0xffeff47d, 0x85845dd1,
    0x6fa87e4f, 0xfe2ce6e0, 0xa3014314, 0x4e0811a1, 0xf7537e82, 0xbd3af235, 0x2ad7d2bb, 0xeb86d391]

def tableConstant (i : ℕ) : UInt32 := sineConstants.getD i 0

/-- **The list has the leading bits of the sines.** -/
theorem sineConstant_eq {i : ℕ} (h : i < 64) : sineConstant i = tableConstant i := by
  have hbits : ∀ i < 64,
      ((tableConstant i).toNat : ℤ) * 2 ^ 160 + 4 ^ (i + 1 + 1) ≤ |(SineTable.approx (i + 1)).1| ∧
        |(SineTable.approx (i + 1)).1| + 4 ^ (i + 1 + 1) < (((tableConstant i).toNat : ℤ) + 1) * 2 ^ 160 := by
    decide +kernel
  obtain ⟨hlow, hhigh⟩ := hbits i h
  rw [sineConstant, SineTable.floor_abs_sin hlow hhigh, UInt32.ofNat_toNat]

theorem wordIndex_lt {i : ℕ} (h : i < 64) : wordIndex i < 16 := by
  unfold wordIndex
  split <;> omega

/-- Only the constants of the sixty-four steps and the sixteen words of the block count. -/
theorem foldl_step_congr {T T' x x' : ℕ → UInt32} (hT : ∀ i < 64, T i = T' i) (hx : ∀ i < 16, x i = x' i) (s : State) :
    (List.range 64).foldl (step T x) s = (List.range 64).foldl (step T' x') s := by
  refine List.foldl_ext (step T x) (step T' x') s fun s i hi => ?_
  have hi := List.mem_range.1 hi
  rw [step, step, hT i hi, hx _ (wordIndex_lt hi)]

theorem compress_take (T : ℕ → UInt32) (s : State) (block : Bytes) : compress T s (block.take 64) = compress T s block := by
  have hwords : ∀ k < 16, loadLE32 ((block.take 64).drop (4 * k)) = loadLE32 (block.drop (4 * k)) := by
    intro k hk
    rw [loadLE32, loadLE32, List.drop_take, List.take_take, Nat.min_eq_left (by omega)]
  rw [compress, compress, foldl_step_congr (fun _ _ => rfl) hwords]

theorem md5_eq (m : Bytes) : md5 m = digest tableConstant m := by
  have hcompress : compress sineConstant = compress tableConstant := by
    funext s block
    rw [compress, compress, foldl_step_congr (fun i hi => sineConstant_eq hi) fun _ _ => rfl]
  rw [md5, digest, digest, hcompress]

example : digest tableConstant (ascii "message digest")
    = toBE 16 0xf96b697d7cb7938d525a2f31aaf161d0 := by decide +kernel

end VianiumVoip.Lib.Md5
