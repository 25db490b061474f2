import VianiumVoip.Lib.Md5
import VianiumVoip.Turn.Threads

/-!
# The long-term key

`DeriveLongTermKey` of `infrastructure/turn/turn_message` with the hash that it uses there: `Md5Transform` step by step,
and `Md5Update` and `Md5Final` around a buffer of one block.

In whatever parts a message is given, the result is its MD5 (`md5Final_foldl`); the key is that of the three strings with
colons in between.
-/

namespace VianiumVoip.Turn.LongTermKey

open VianiumVoip.Lib VianiumVoip.Lib.Md5 VianiumVoip.Lib.BlockHash

/-! ### The transform -/

def rotl32 (x s : UInt32) : UInt32 := x <<< s ||| x >>> (32 - s)

def md5FF (a b c d x s ac : UInt32) : UInt32 := rotl32 (a + (funF b c d + x + ac)) s + b
def md5GG (a b c d x s ac : UInt32) : UInt32 := rotl32 (a + (funG b c d + x + ac)) s + b
def md5HH (a b c d x s ac : UInt32) : UInt32 := rotl32 (a + (funH b c d + x + ac)) s + b
def md5II (a b c d x s ac : UInt32) : UInt32 := rotl32 (a + (funI b c d + x + ac)) s + b

/-- `Md5Transform` -/
def md5Transform (state : State) (block : Bytes) : State :=
  let a := state.a
  let b := state.b
  let c := state.c
  let d := state.d
  let x : ℕ → UInt32 := fun i => loadLE32 (block.drop (i * 4))
  -- Round 1
  let a := md5FF a b c d (x 0) 7 0xd76aa478
  let d := md5FF d a b c (x 1) 12 0xe8c7b756
  let c := md5FF c d a b (x 2) 17 0x242070db
  let b := md5FF b c d a (x 3) 22 0xc1bdceee
  let a := md5FF a b c d (x 4) 7 0xf57c0faf
  let d := md5FF d a b c (x 5) 12 0x4787c62a
  let c := md5FF c d a b (x 6) 17 0xa8304613
  let b := md5FF b c d a (x 7) 22 0xfd469501
  let a := md5FF a b c d (x 8) 7 0x698098d8
  let d := md5FF d a b c (x 9) 12 0x8b44f7af
  let c := md5FF c d a b (x 10) 17 0xffff5bb1
  let b := md5FF b c d a (x 11) 22 0x895cd7be
  let a := md5FF a b c d (x 12) 7 0x6b901122
  let d := md5FF d a b c (x 13) 12 0xfd987193
  let c := md5FF c d a b (x 14) 17 0xa679438e
  let b := md5FF b c d a (x 15) 22 0x49b40821
  -- Round 2
  let a := md5GG a b c d (x 1) 5 0xf61e2562
  let d := md5GG d a b c (x 6) 9 0xc040b340
  let c := md5GG c d a b (x 11) 14 0x265e5a51
  let b := md5GG b c d a (x 0) 20 0xe9b6c7aa
  let a := md5GG a b c d (x 5) 5 0xd62f105d
  let d := md5GG d a b c (x 10) 9 0x02441453
  let c := md5GG c d a b (x 15) 14 0xd8a1e681
  let b := md5GG b c d a (x 4) 20 0xe7d3fbc8
  let a := md5GG a b c d (x 9) 5 0x21e1cde6
  let d := md5GG d a b c (x 14) 9 0xc33707d6
  let c := md5GG c d a b (x 3) 14 0xf4d50d87
  let b := md5GG b c d a (x 8) 20 0x455a14ed
  let a := md5GG a b c d (x 13) 5 0xa9e3e905
  let d := md5GG d a b c (x 2) 9 0xfcefa3f8
  let c := md5GG c d a b (x 7) 14 0x676f02d9
  let b := md5GG b c d a (x 12) 20 0x8d2a4c8a
  -- Round 3
  let a := md5HH a b c d (x 5) 4 0xfffa3942
  let d := md5HH d a b c (x 8) 11 0x8771f681
  let c := md5HH c d a b (x 11) 16 0x6d9d6122
  let b := md5HH b c d a (x 14) 23 0xfde5380c
  let a := md5HH a b c d (x 1) 4 0xa4beea44
  let d := md5HH d a b c (x 4) 11 0x4bdecfa9
  let c := md5HH c d a b (x 7) 16 0xf6bb4b60
  let b := md5HH b c d a (x 10) 23 0xbebfbc70
  let a := md5HH a b c d (x 13) 4 0x289b7ec6
  let d := md5HH d a b c (x 0) 11 0xeaa127fa
  let c := md5HH c d a b (x 3) 16 0xd4ef3085
  let b := md5HH b c d a (x 6) 23 0x04881d05
  let a := md5HH a b c d (x 9) 4 0xd9d4d039
  let d := md5HH d a b c (x 12) 11 0xe6db99e5
  let c := md5HH c d a b (x 15) 16 0x1fa27cf8
  let b := md5HH b c d a (x 2) 23 0xc4ac5665
  -- Round 4
  let a := md5II a b c d (x 0) 6 0xf4292244
  let d := md5II d a b c (x 7) 10 0x432aff97
  let c := md5II c d a b (x 14) 15 0xab9423a7
  let b := md5II b c d a (x 5) 21 0xfc93a039
  let a := md5II a b c d (x 12) 6 0x655b59c3
  let d := md5II d a b c (x 3) 10 0x8f0ccc92
  let c := md5II c d a b (x 10) 15 0xffeff47d
  let b := md5II b c d a (x 1) 21 0x85845dd1
  let a := md5II a b c d (x 8) 6 0x6fa87e4f
  let d := md5II d a b c (x 15) 10 0xfe2ce6e0
  let c := md5II c d a b (x 6) 15 0xa3014314
  let b := md5II b c d a (x 13) 21 0x4e0811a1
  let a := md5II a b c d (x 4) 6 0xf7537e82
  let d := md5II d a b c (x 11) 10 0xbd3af235
  let c := md5II c d a b (x 2) 15 0x2ad7d2bb
  let b := md5II b c d a (x 9) 21 0xeb86d391
  ⟨state.a + a, state.b + b, state.c + c, state.d + d⟩

theorem step_eq (T x : ℕ → UInt32) (a b c d : UInt32) (i : ℕ) :
    step T x ⟨a, b, c, d⟩ i
      = ⟨d, rotl32 (a + (roundFunction i b c d + x (wordIndex i) + T i)) (rotation i) + b, b, c⟩ := by
  simp only [step, rotl, rotl32, UInt32.add_assoc]
  rw [UInt32.add_comm b]

/-- Four steps, behind which the words are in their places again. -/
theorem foldl_four (T x : ℕ → UInt32) (i : ℕ) (l : List ℕ) (a b c d a' b' c' d' : UInt32)
    (ha : a' = rotl32 (a + (roundFunction i b c d + x (wordIndex i) + T i)) (rotation i) + b)
    (hd : d' = rotl32 (d + (roundFunction (i + 1) a' b c + x (wordIndex (i + 1)) + T (i + 1))) (rotation (i + 1)) + a')
    (hc : c' = rotl32 (c + (roundFunction (i + 2) d' a' b + x (wordIndex (i + 2)) + T (i + 2))) (rotation (i + 2)) + d')
    (hb : b' = rotl32 (b + (roundFunction (i + 3) c' d' a' + x (wordIndex (i + 3)) + T (i + 3))) (rotation (i + 3)) + c') :
    (i :: (i + 1) :: (i + 2) :: (i + 3) :: l).foldl (step T x) ⟨a, b, c, d⟩ = l.foldl (step T x) ⟨a', b', c', d'⟩ := by
  have h₀ := step_eq T x a b c d i
  have h₁ := step_eq T x d a' b c (i + 1)
  have h₂ := step_eq T x c d' a' b (i + 2)
  have h₃ := step_eq T x b c' d' a' (i + 3)
  rw [← ha] at h₀
  rw [← hd] at h₁
  rw [← hc] at h₂
  rw [← hb] at h₃
  rw [List.foldl_cons, List.foldl_cons, List.foldl_cons, List.foldl_cons, h₀, h₁, h₂, h₃]

/-- **The transform is the compression of MD5.** -/
theorem md5Transform_eq (state : State) (block : Bytes) :
    md5Transform state block = compress tableConstant state block := by
  have hrange : List.range 64 = [0, 1, 2, 3, 4, 5, 6, 7, 8, 9, 10, 11, 12, 13, 14, 15, 16, 17, 18, 19, 20, 21, 22, 23, 24,
    25, 26, 27, 28, 29, 30, 31, 32, 33, 34, 35, 36, 37, 38, 39, 40, 41, 42, 43, 44, 45, 46, 47, 48, 49, 50, 51, 52, 53, 54,
    55, 56, 57, 58, 59, 60, 61, 62, 63] := by decide
  have hwords : (fun k => loadLE32 (block.drop (4 * k))) = fun k => loadLE32 (block.drop (k * 4)) := by
    funext k
    rw [Nat.mul_comm]
  unfold md5Transform compress
  rw [hwords]
  extract_lets a0 b0 c0 d0 x a1 d1 c1 b1 a2 d2 c2 b2 a3 d3 c3 b3 a4 d4 c4 b4 a5 d5 c5 b5 a6 d6 c6 b6 a7 d7 c7 b7
    a8 d8 c8 b8 a9 d9 c9 b9 a10 d10 c10 b10 a11 d11 c11 b11 a12 d12 c12 b12 a13 d13 c13 b13 a14 d14 c14 b14 a15
    d15 c15 b15 a16 d16 c16 b16
  have hfold : (List.range 64).foldl (step tableConstant x) state = ⟨a16, b16, c16, d16⟩ := by
    rw [hrange]
    refine (foldl_four tableConstant x 0 _ a0 b0 c0 d0 a1 b1 c1 d1 rfl rfl rfl rfl).trans ?_
    refine (foldl_four tableConstant x 4 _ a1 b1 c1 d1 a2 b2 c2 d2 rfl rfl rfl rfl).trans ?_
    refine (foldl_four tableConstant x 8 _ a2 b2 c2 d2 a3 b3 c3 d3 rfl rfl rfl rfl).trans ?_
    refine (foldl_four tableConstant x 12 _ a3 b3 c3 d3 a4 b4 c4 d4 rfl rfl rfl rfl).trans ?_
    refine (foldl_four tableConstant x 16 _ a4 b4 c4 d4 a5 b5 c5 d5 rfl rfl rfl rfl).trans ?_
    refine (foldl_four tableConstant x 20 _ a5 b5 c5 d5 a6 b6 c6 d6 rfl rfl rfl rfl).trans ?_
    refine (foldl_four tableConstant x 24 _ a6 b6 c6 d6 a7 b7 c7 d7 rfl rfl rfl rfl).trans ?_
    refine (foldl_four tableConstant x 28 _ a7 b7 c7 d7 a8 b8 c8 d8 rfl rfl rfl rfl).trans ?_
    refine (foldl_four tableConstant x 32 _ a8 b8 c8 d8 a9 b9 c9 d9 rfl rfl rfl rfl).trans ?_
    refine (foldl_four tableConstant x 36 _ a9 b9 c9 d9 a10 b10 c10 d10 rfl rfl rfl rfl).trans ?_
    refine (foldl_four tableConstant x 40 _ a10 b10 c10 d10 a11 b11 c11 d11 rfl rfl rfl rfl).trans ?_
    refine (foldl_four tableConstant x 44 _ a11 b11 c11 d11 a12 b12 c12 d12 rfl rfl rfl rfl).trans ?_
    refine (foldl_four tableConstant x 48 _ a12 b12 c12 d12 a13 b13 c13 d13 rfl rfl rfl rfl).trans ?_
    refine (foldl_four tableConstant x 52 _ a13 b13 c13 d13 a14 b14 c14 d14 rfl rfl rfl rfl).trans ?_
    refine (foldl_four tableConstant x 56 _ a14 b14 c14 d14 a15 b15 c15 d15 rfl rfl rfl rfl).trans ?_
    refine (foldl_four tableConstant x 60 _ a15 b15 c15 d15 a16 b16 c16 d16 rfl rfl rfl rfl).trans ?_
    rfl
  change _ = state.add ((List.range 64).foldl (step tableConstant x) state)
  rw [hfold]
  rfl

/-! ### The incremental hash -/

structure Md5Ctx where
  state : State := State.initial
  bitCount : UInt64 := 0
  /-- 64 bytes -/
  buffer : Bytes := List.replicate 64 0

/-- `Md5Init` -/
def md5Init : Md5Ctx := {}

/-- `memcpy(buffer + at, data, len)` for the `len` bytes of `data`. -/
def copyInto (buffer : Bytes) (pos : ℕ) (data : Bytes) : Bytes :=
  buffer.take pos ++ data ++ buffer.drop (pos + data.length)

/-- The loop over the whole blocks behind `i`. -/
def transformBlocks (state : State) (data : Bytes) (i : ℕ) : State × ℕ :=
  if i + 63 < data.length then transformBlocks (md5Transform state (data.drop i)) data (i + 64) else (state, i)
termination_by data.length - i

/-- `Md5Update` -/
def md5Update (ctx : Md5Ctx) (data : Bytes) : Md5Ctx :=
  let bufferIndex := ((ctx.bitCount >>> 3) &&& 0x3F).toNat
  let bitCount := ctx.bitCount + UInt64.ofNat data.length <<< 3
  let partLen := 64 - bufferIndex
  if partLen ≤ data.length then
    let buffer := copyInto ctx.buffer bufferIndex (data.take partLen)
    let looped := transformBlocks (md5Transform ctx.state buffer) data partLen
    let i := looped.2
    let buffer := if i < data.length then copyInto buffer 0 (data.drop i) else buffer
    { state := looped.1, bitCount := bitCount, buffer := buffer }
  else
    let buffer := if 0 < data.length then copyInto ctx.buffer bufferIndex data else ctx.buffer
    { ctx with bitCount := bitCount, buffer := buffer }

/-- `kPadding` -/
def kPadding : Bytes := 0x80 :: List.replicate 63 0

/-- `Md5Final` -/
def md5Final (ctx : Md5Ctx) : Bytes :=
  let bits := (List.range 8).map fun i => ((ctx.bitCount >>> UInt64.ofNat (8 * i)) &&& 0xFF).toUInt8
  let index := ((ctx.bitCount >>> 3) &&& 0x3F).toNat
  let padLen := if index < 56 then 56 - index else 120 - index
  let ctx := md5Update ctx (kPadding.take padLen)
  let ctx := md5Update ctx bits
  [ctx.state.a, ctx.state.b, ctx.state.c, ctx.state.d].flatMap fun (word : UInt32) =>
    [(word &&& 0xFF).toUInt8, ((word >>> 8) &&& 0xFF).toUInt8, ((word >>> 16) &&& 0xFF).toUInt8,
      ((word >>> 24) &&& 0xFF).toUInt8]

/-- `DeriveLongTermKey` -/
def deriveLongTermKey (username realm password : Bytes) : Bytes :=
  let ctx := md5Init
  let ctx := if username = [] then ctx else md5Update ctx username
  let ctx := md5Update ctx [0x3A]
  let ctx := if realm = [] then ctx else md5Update ctx realm
  let ctx := md5Update ctx [0x3A]
  let ctx := if password = [] then ctx else md5Update ctx password
  md5Final ctx

/-! ### What it has taken in -/

/-- The context has been given `m`. -/
structure Taken (ctx : Md5Ctx) (m : Bytes) : Prop where
  bitCount : ctx.bitCount = UInt64.ofNat (8 * m.length)
  length_buffer : ctx.buffer.length = 64
  buffered : Buffered (compress tableConstant) 64 State.initial ctx.state (ctx.buffer.take (m.length % 64)) m

theorem length_copyInto {buffer data : Bytes} {pos : ℕ} (h : pos + data.length ≤ buffer.length) :
    (copyInto buffer pos data).length = buffer.length := by
  simp only [copyInto, List.length_append, List.length_take, List.length_drop]
  omega

theorem take_copyInto {buffer data : Bytes} {pos : ℕ} (h : pos + data.length ≤ buffer.length) :
    (copyInto buffer pos data).take (pos + data.length) = buffer.take pos ++ data := by
  have hlen : (buffer.take pos ++ data).length = pos + data.length := by
    rw [List.length_append, List.length_take, Nat.min_eq_left (by omega)]
  rw [copyInto, ← hlen, List.take_left]

theorem bufferIndex_eq {bitCount : UInt64} {n : ℕ} (h : bitCount = UInt64.ofNat (8 * n)) :
    ((bitCount >>> 3) &&& 0x3F).toNat = n % 64 := by
  have hmask : (0x3F : UInt64).toNat = 2 ^ 6 - 1 := by decide
  have hthree : (3 : UInt64).toNat % 64 = 3 := by decide
  rw [h, UInt64.toNat_and, UInt64.toNat_shiftRight, hmask, hthree, Nat.and_two_pow_sub_one_eq_mod,
    Nat.shiftRight_eq_div_pow, UInt64.toNat_ofNat']
  omega

theorem bitCount_add (n k : ℕ) :
    UInt64.ofNat (8 * n) + UInt64.ofNat k <<< 3 = UInt64.ofNat (8 * (n + k)) := by
  apply UInt64.toNat_inj.1
  have hthree : (3 : UInt64).toNat % 64 = 3 := by decide
  rw [UInt64.toNat_add, UInt64.toNat_shiftLeft, hthree, Nat.shiftLeft_eq, UInt64.toNat_ofNat', UInt64.toNat_ofNat',
    UInt64.toNat_ofNat']
  omega

/-- **The loop absorbs the whole blocks.** -/
theorem transformBlocks_spec {state : State} {m data : Bytes} {i : ℕ} (hi : i ≤ data.length)
    (h : Buffered (compress tableConstant) 64 State.initial state [] (m ++ data.take i)) :
    Buffered (compress tableConstant) 64 State.initial (transformBlocks state data i).1
      (data.drop (transformBlocks state data i).2) (m ++ data) := by
  fun_induction transformBlocks state data i with
  | case1 state i hmore ih =>
    have hpart : ((data.drop i).take 64).length = 64 := by
      rw [List.length_take, List.length_drop]
      omega
    have htake : data.take (i + 64) = data.take i ++ (data.drop i).take 64 := List.take_add
    refine ih (by omega) ?_
    rw [md5Transform_eq, ← compress_take, htake, ← List.append_assoc]
    exact h.fill (by rw [List.length_nil, Nat.zero_add, hpart])
  | case2 state i hless =>
    have hrest : (data.drop i).length < 64 := by
      rw [List.length_drop]
      omega
    have hwait := h.wait (show ([] : Bytes).length + (data.drop i).length < 64 by rwa [List.length_nil, Nat.zero_add])
    rwa [List.nil_append, List.append_assoc, List.take_append_drop] at hwait

theorem Taken.of_buffered {state : State} {buffer tail m : Bytes} (hlen : buffer.length = 64)
    (h : Buffered (compress tableConstant) 64 State.initial state tail m) (htake : buffer.take tail.length = tail) :
    Taken { state := state, bitCount := UInt64.ofNat (8 * m.length), buffer := buffer } m := by
  refine ⟨rfl, hlen, ?_⟩
  rwa [← h.length_tail, htake]

theorem Taken.bitCount_update {ctx : Md5Ctx} {m : Bytes} (h : Taken ctx m) (data : Bytes) :
    ctx.bitCount + UInt64.ofNat data.length <<< 3 = UInt64.ofNat (8 * (m ++ data).length) := by
  rw [h.bitCount, bitCount_add, List.length_append]

theorem Taken.init : Taken md5Init [] :=
  Taken.of_buffered (by decide) (.init (by decide) _) rfl

theorem Taken.block {ctx : Md5Ctx} {m data : Bytes} (h : Taken ctx m) (hdata : m.length % 64 + data.length = 64) :
    (copyInto ctx.buffer (m.length % 64) data).length = 64 ∧
      Buffered (compress tableConstant) 64 State.initial
        (md5Transform ctx.state (copyInto ctx.buffer (m.length % 64) data)) [] (m ++ data) := by
  have hfit : m.length % 64 + data.length ≤ ctx.buffer.length := by rw [h.length_buffer, hdata]
  have hcopied : (copyInto ctx.buffer (m.length % 64) data).length = 64 := by
    rw [length_copyInto hfit, h.length_buffer]
  have hblock : copyInto ctx.buffer (m.length % 64) data = ctx.buffer.take (m.length % 64) ++ data := by
    have htake := take_copyInto hfit
    rwa [hdata, List.take_of_length_le hcopied.le] at htake
  refine ⟨hcopied, ?_⟩
  rw [md5Transform_eq, hblock]
  exact h.buffered.fill (by rw [h.buffered.length_tail, hdata])

/-- The data fill the buffer: the whole blocks behind it are absorbed where they are, and the rest is kept. -/
theorem Taken.update_full {ctx : Md5Ctx} {m data : Bytes} (h : Taken ctx m) (hfull : 64 - m.length % 64 ≤ data.length) :
    Taken (LongTermKey.md5Update ctx data) (m ++ data) := by
  have hr : m.length % 64 < 64 := Nat.mod_lt _ (by decide)
  have hpart : m.length % 64 + (data.take (64 - m.length % 64)).length = 64 := by
    rw [List.length_take]
    omega
  obtain ⟨hcopied, hfilled⟩ := h.block hpart
  have hloop := transformBlocks_spec hfull hfilled
  simp only [LongTermKey.md5Update, bufferIndex_eq h.bitCount, h.bitCount_update data]
  rw [if_pos hfull]
  generalize transformBlocks _ data (64 - m.length % 64) = looped at hloop
  obtain ⟨state, i⟩ := looped
  have hshort : (data.drop i).length < 64 := by
    rw [hloop.length_tail]
    exact Nat.mod_lt _ (by decide)
  by_cases hi : i < data.length
  · have hfit : 0 + (data.drop i).length
        ≤ (copyInto ctx.buffer (m.length % 64) (data.take (64 - m.length % 64))).length := by omega
    rw [if_pos hi]
    refine Taken.of_buffered (by rw [length_copyInto hfit, hcopied]) hloop ?_
    have htake := take_copyInto hfit
    rwa [Nat.zero_add, List.take_zero, List.nil_append] at htake
  · rw [if_neg hi]
    rw [List.drop_eq_nil_of_le (Nat.not_lt.1 hi)] at hloop
    exact Taken.of_buffered hcopied hloop rfl

theorem Taken.update_short {ctx : Md5Ctx} {m data : Bytes} (h : Taken ctx m)
    (hshort : ¬ 64 - m.length % 64 ≤ data.length) : Taken (LongTermKey.md5Update ctx data) (m ++ data) := by
  have hlen := h.length_buffer
  have htail := h.buffered.length_tail
  have hfit : m.length % 64 + data.length ≤ ctx.buffer.length := by omega
  have hwait := h.buffered.wait (show (ctx.buffer.take (m.length % 64)).length + data.length < 64 by omega)
  have hlength : (ctx.buffer.take (m.length % 64) ++ data).length = m.length % 64 + data.length := by
    rw [List.length_append, htail]
  simp only [LongTermKey.md5Update, bufferIndex_eq h.bitCount, h.bitCount_update data]
  rw [if_neg hshort]
  by_cases hdata : 0 < data.length
  · rw [if_pos hdata]
    refine Taken.of_buffered (by rw [length_copyInto hfit, hlen]) hwait ?_
    rw [hlength, take_copyInto hfit]
  · rw [if_neg hdata]
    refine Taken.of_buffered hlen hwait ?_
    rw [hlength, List.eq_nil_of_length_eq_zero (by omega : data.length = 0), List.length_nil, Nat.add_zero,
      List.append_nil]

/-- **A part of any length.** -/
theorem Taken.md5Update {ctx : Md5Ctx} {m : Bytes} (h : Taken ctx m) (data : Bytes) :
    Taken (md5Update ctx data) (m ++ data) := by
  by_cases hfull : 64 - m.length % 64 ≤ data.length
  · exact h.update_full hfull
  · exact h.update_short hfull

/-! ### The digest -/

theorem reverse_toBE (n v : ℕ) : (toBE n v).reverse = (List.range n).map fun i => UInt8.ofNat (v / 256 ^ i) := by
  induction n generalizing v with
  | zero => rfl
  | succ n ih =>
    rw [toBE, List.reverse_concat, ih, List.range_succ_eq_map, List.map_cons, List.map_map, pow_zero, Nat.div_one]
    congr 1
    refine List.map_congr_left fun i _ => ?_
    rw [Function.comp_apply, Nat.succ_eq_add_one, pow_succ', Nat.div_div_eq_div_mul]

theorem bitCount_bytes (bitCount : UInt64) :
    (List.range 8).map (fun i => ((bitCount >>> UInt64.ofNat (8 * i)) &&& 0xFF).toUInt8) = (storeBE64 bitCount).reverse := by
  rw [storeBE64, reverse_toBE]
  refine List.map_congr_left fun i hi => ?_
  have hi := List.mem_range.1 hi
  have hmask : (0xFF : UInt64).toNat = 2 ^ 8 - 1 := by decide
  have hshift : (UInt64.ofNat (8 * i)).toNat % 64 = 8 * i := by
    rw [UInt64.toNat_ofNat']
    omega
  have hpow : 2 ^ (8 * i) = 256 ^ i := by rw [pow_mul]; norm_num
  apply UInt8.toNat_inj.1
  rw [UInt64.toNat_toUInt8, UInt64.toNat_and, hmask, Nat.and_two_pow_sub_one_eq_mod, UInt64.toNat_shiftRight, hshift,
    Nat.shiftRight_eq_div_pow, hpow, UInt8.toNat_ofNat', Nat.mod_mod]

theorem word_bytes (word : UInt32) :
    [(word &&& 0xFF).toUInt8, ((word >>> 8) &&& 0xFF).toUInt8, ((word >>> 16) &&& 0xFF).toUInt8,
      ((word >>> 24) &&& 0xFF).toUInt8] = storeLE32 word := by
  have hmask : (0xFF : UInt32).toNat = 2 ^ 8 - 1 := by decide
  have hbyte : ∀ s : UInt32, ((word >>> s) &&& 0xFF).toUInt8 = UInt8.ofNat (word.toNat / 2 ^ (s.toNat % 32)) := by
    intro s
    apply UInt8.toNat_inj.1
    rw [UInt32.toNat_toUInt8, UInt32.toNat_and, hmask, Nat.and_two_pow_sub_one_eq_mod, UInt32.toNat_shiftRight,
      Nat.shiftRight_eq_div_pow, UInt8.toNat_ofNat', Nat.mod_mod]
  have hzero : (word &&& 0xFF).toUInt8 = UInt8.ofNat (word.toNat / 256 ^ 0) := by
    have h := hbyte 0
    rw [UInt32.shiftRight_zero] at h
    exact h
  rw [storeLE32, storeBE32, reverse_toBE, hzero, hbyte 8, hbyte 16, hbyte 24]
  rfl

theorem kPadding_take {n : ℕ} (h : n < 64) : kPadding.take (n + 1) = 0x80 :: List.replicate n 0 := by
  rw [kPadding, List.take_succ_cons, List.take_replicate, Nat.min_eq_left (by omega)]

theorem md5Final_eq {ctx : Md5Ctx} {m : Bytes} (h : Taken ctx m) : md5Final ctx = md5 m := by
  have hindex := bufferIndex_eq h.bitCount
  have hpadLen : (if m.length % 64 < 56 then 56 - m.length % 64 else 120 - m.length % 64)
      = (119 - m.length % 64) % 64 + 1 := by
    have := Nat.mod_lt m.length (by decide : 64 > 0)
    split_ifs <;> omega
  have hbits : (List.range 8).map (fun i => ((ctx.bitCount >>> UInt64.ofNat (8 * i)) &&& 0xFF).toUInt8)
      = (storeBE64 (UInt64.ofNat (8 * m.length))).reverse := by rw [bitCount_bytes, h.bitCount]
  have hpad : m ++ kPadding.take ((119 - m.length % 64) % 64 + 1) ++ (storeBE64 (UInt64.ofNat (8 * m.length))).reverse
      = pad m := by
    rw [kPadding_take (Nat.mod_lt _ (by decide)), pad]
    simp
  have htaken := (h.md5Update (kPadding.take ((119 - m.length % 64) % 64 + 1))).md5Update
    (storeBE64 (UInt64.ofNat (8 * m.length))).reverse
  rw [hpad] at htaken
  have hstate := htaken.buffered.eq_absorb (length_pad m)
  simp only [md5Final, hindex, hpadLen, hbits, word_bytes]
  rw [md5_eq, digest, hstate]
  rfl

/-- **The digest of a message in parts.** -/
theorem md5Final_foldl (parts : List Bytes) : md5Final (parts.foldl md5Update md5Init) = md5 parts.flatten := by
  have htaken : ∀ (parts : List Bytes) (ctx : Md5Ctx) (m : Bytes), Taken ctx m →
      Taken (parts.foldl md5Update ctx) (m ++ parts.flatten) := by
    intro parts
    induction parts with
    | nil =>
      intro ctx m h
      rwa [List.flatten_nil, List.append_nil]
    | cons part parts ih =>
      intro ctx m h
      rw [List.foldl_cons, List.flatten_cons, ← List.append_assoc]
      exact ih _ _ (h.md5Update part)
  exact md5Final_eq (htaken parts md5Init [] .init)

theorem Taken.skip {ctx : Md5Ctx} {m : Bytes} (h : Taken ctx m) (data : Bytes) :
    Taken (if data = [] then ctx else LongTermKey.md5Update ctx data) (m ++ data) := by
  by_cases hnil : data = []
  · rw [if_pos hnil, hnil, List.append_nil]
    exact h
  · rw [if_neg hnil]
    exact h.md5Update data

theorem deriveLongTermKey_eq (username realm password : Bytes) :
    deriveLongTermKey username realm password = md5 (username ++ [0x3A] ++ realm ++ [0x3A] ++ password) := by
  have htaken := ((((Taken.init.skip username).md5Update [0x3A]).skip realm).md5Update [0x3A]).skip password
  exact md5Final_eq htaken

/-- **The key is an MD5**: the hash does not depend on the parts in which it is given a message, and the message of the
key is the three strings with colons in between. -/
theorem deriveLongTermKey_md5 :
    (∀ parts : List Bytes, md5Final (parts.foldl md5Update md5Init) = md5 parts.flatten) ∧
      ∀ username realm password,
        deriveLongTermKey username realm password = md5 (username ++ ascii ":" ++ realm ++ ascii ":" ++ password) :=
  ⟨md5Final_foldl, deriveLongTermKey_eq⟩

/-- The client derives this key, where its hash is MD5. -/
theorem deriveLongTermKey_client {C : Crypto} (hmd5 : C.md5 = md5) (username realm password : Bytes) :
    Turn.deriveLongTermKey C username realm password = deriveLongTermKey username realm password := by
  rw [deriveLongTermKey_eq, Turn.deriveLongTermKey, hmd5]

end VianiumVoip.Turn.LongTermKey
