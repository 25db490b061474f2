import VianiumVoip.Lib.Bytes

/-!
# SHA-256

The hash function of FIPS 180-4 over byte strings, as a computable definition.  Proofs take the hash as a parameter;
concrete runs instantiate it with this one.
-/

namespace VianiumVoip.Lib.Sha256

def rotr (x n : UInt32) : UInt32 := x >>> n ||| x <<< (32 - n)

/-- The fractional parts of the cube roots of the first 64 primes. -/
def roundConstants : List UInt32 :=
  [0x428a2f98, 0x71374491, 0xb5c0fbcf, 0xe9b5dba5, 0x3956c25b, 0x59f111f1, 0x923f82a4, 0xab1c5ed5,
    0xd807aa98, 0x12835b01, 0x243185be, 0x550c7dc3, 0x72be5d74, 0x80deb1fe, 0x9bdc06a7, 0xc19bf174,
    0xe49b69c1, 0xefbe4786, 0x0fc19dc6, 0x240ca1cc, 0x2de92c6f, 0x4a7484aa, 0x5cb0a9dc, 0x76f988da,
    0x983e5152, 0xa831c66d, 0xb00327c8, 0xbf597fc7, 0xc6e00bf3, 0xd5a79147, 0x06ca6351, 0x14292967,
    0x27b70a85, 0x2e1b2138, 0x4d2c6dfc, 0x53380d13, 0x650a7354, 0x766a0abb, 0x81c2c92e, 0x92722c85,
    0xa2bfe8a1, 0xa81a664b, 0xc24b8b70, 0xc76c51a3, 0xd192e819, 0xd6990624, 0xf40e3585, 0x106aa070,
    0x19a4c116, 0x1e376c08, 0x2748774c, 0x34b0bcb5, 0x391c0cb3, 0x4ed8aa4a, 0x5b9cca4f, 0x682e6ff3,
    0x748f82ee, 0x78a5636f, 0x84c87814, 0x8cc70208, 0x90befffa, 0xa4506ceb, 0xbef9a3f7, 0xc67178f2]

/-- The eight working variables, and the chaining value. -/
structure Hash where
  a : UInt32
  b : UInt32
  c : UInt32
  d : UInt32
  e : UInt32
  f : UInt32
  g : UInt32
  h : UInt32

def Hash.initial : Hash where
  a := 0x6a09e667
  b := 0xbb67ae85
  c := 0x3c6ef372
  d := 0xa54ff53a
  e := 0x510e527f
  f := 0x9b05688c
  g := 0x1f83d9ab
  h := 0x5be0cd19

def Hash.add (x y : Hash) : Hash :=
  ⟨x.a + y.a, x.b + y.b, x.c + y.c, x.d + y.d, x.e + y.e, x.f + y.f, x.g + y.g, x.h + y.h⟩

def Hash.bytes (x : Hash) : Bytes := [x.a, x.b, x.c, x.d, x.e, x.f, x.g, x.h].flatMap storeBE32

/-- `n` more words of the message schedule; the most recent word comes first. -/
def extend : ℕ → List UInt32 → List UInt32
  | 0, w => w
  | n + 1, w =>
    let s0 := rotr (w.getD 14 0) 7 ^^^ rotr (w.getD 14 0) 18 ^^^ w.getD 14 0 >>> 3
    let s1 := rotr (w.getD 1 0) 17 ^^^ rotr (w.getD 1 0) 19 ^^^ w.getD 1 0 >>> 10
    extend n ((w.getD 15 0 + s0 + w.getD 6 0 + s1) :: w)

def schedule (block : Bytes) : List UInt32 :=
  (extend 48 ((List.range 16).map fun i => loadBE32 (block.drop (4 * i))).reverse).reverse

def round (x : Hash) (kw : UInt32 × UInt32) : Hash :=
  let s1 := rotr x.e 6 ^^^ rotr x.e 11 ^^^ rotr x.e 25
  let ch := x.e &&& x.f ^^^ ~~~x.e &&& x.g
  let t1 := x.h + s1 + ch + kw.1 + kw.2
  let s0 := rotr x.a 2 ^^^ rotr x.a 13 ^^^ rotr x.a 22
  let maj := x.a &&& x.b ^^^ x.a &&& x.c ^^^ x.b &&& x.c
  ⟨t1 + (s0 + maj), x.a, x.b, x.c, x.d + t1, x.e, x.f, x.g⟩

def compress (x : Hash) (block : Bytes) : Hash :=
  x.add ((roundConstants.zip (schedule block)).foldl round x)

/-- The message, a one bit, zeros up to a whole number of blocks, and the length in bits. -/
def pad (m : Bytes) : Bytes :=
  m ++ [0x80] ++ List.replicate ((119 - m.length % 64) % 64) 0 ++ storeBE64 (UInt64.ofNat (8 * m.length))

def sha256 (m : Bytes) : Bytes :=
  ((List.range ((pad m).length / 64)).foldl (fun x i => compress x ((pad m).drop (64 * i))) Hash.initial).bytes

@[simp] theorem length_sha256 (m : Bytes) : (sha256 m).length = 32 := by
  simp [sha256, Hash.bytes]

example : sha256 (ascii "abc") =
    toBE 32 0xba7816bf8f01cfea414140de5dae2223b00361a396177a9cb410ff61f20015ad := by decide +kernel

end VianiumVoip.Lib.Sha256
