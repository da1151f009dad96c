import Mathlib.Data.List.Basic

/-! SHA-256 as FIPS 180-4 defines it, over byte lists.
The proofs use only the length of a digest; the function itself is executable, so concrete
runs can be evaluated.
-/

namespace Sha256

/-- The eight working words `a` to `h`. -/
structure Words where
  a : UInt32
  b : UInt32
  c : UInt32
  d : UInt32
  e : UInt32
  f : UInt32
  g : UInt32
  h : UInt32

def initial : Words :=
  ⟨0x6a09e667, 0xbb67ae85, 0x3c6ef372, 0xa54ff53a,
    0x510e527f, 0x9b05688c, 0x1f83d9ab, 0x5be0cd19⟩

/-- The sixty-four round constants. -/
def constants : List UInt32 :=
  [
    0x428a2f98, 0x71374491, 0xb5c0fbcf, 0xe9b5dba5, 0x3956c25b, 0x59f111f1, 0x923f82a4,
    0xab1c5ed5, 0xd807aa98, 0x12835b01, 0x243185be, 0x550c7dc3, 0x72be5d74, 0x80deb1fe,
    0x9bdc06a7, 0xc19bf174, 0xe49b69c1, 0xefbe4786, 0x0fc19dc6, 0x240ca1cc, 0x2de92c6f,
    0x4a7484aa, 0x5cb0a9dc, 0x76f988da, 0x983e5152, 0xa831c66d, 0xb00327c8, 0xbf597fc7,
    0xc6e00bf3, 0xd5a79147, 0x06ca6351, 0x14292967, 0x27b70a85, 0x2e1b2138, 0x4d2c6dfc,
    0x53380d13, 0x650a7354, 0x766a0abb, 0x81c2c92e, 0x92722c85, 0xa2bfe8a1, 0xa81a664b,
    0xc24b8b70, 0xc76c51a3, 0xd192e819, 0xd6990624, 0xf40e3585, 0x106aa070, 0x19a4c116,
    0x1e376c08, 0x2748774c, 0x34b0bcb5, 0x391c0cb3, 0x4ed8aa4a, 0x5b9cca4f, 0x682e6ff3,
    0x748f82ee, 0x78a5636f, 0x84c87814, 0x8cc70208, 0x90befffa, 0xa4506ceb, 0xbef9a3f7,
    0xc67178f2
  ]

def rotr (x : UInt32) (n : UInt32) : UInt32 :=
  (x >>> n) ||| (x <<< (32 - n))

/-- One round over the working words. -/
def round (w : Words) (kw : UInt32 × UInt32) : Words :=
  let s1 := rotr w.e 6 ^^^ rotr w.e 11 ^^^ rotr w.e 25
  let choice := (w.e &&& w.f) ^^^ (~~~w.e &&& w.g)
  let t1 := w.h + s1 + choice + kw.1 + kw.2
  let s0 := rotr w.a 2 ^^^ rotr w.a 13 ^^^ rotr w.a 22
  let majority := (w.a &&& w.b) ^^^ (w.a &&& w.c) ^^^ (w.b &&& w.c)
  ⟨t1 + (s0 + majority), w.a, w.b, w.c, w.d + t1, w.e, w.f, w.g⟩

/-- Extends the message schedule, newest word first. -/
def extend : Nat → List UInt32 → List UInt32
  | 0, schedule => schedule
  | n + 1, schedule =>
      let w2 := schedule.getD 1 0
      let w15 := schedule.getD 14 0
      let s1 := rotr w2 17 ^^^ rotr w2 19 ^^^ (w2 >>> 10)
      let s0 := rotr w15 7 ^^^ rotr w15 18 ^^^ (w15 >>> 3)
      extend n ((s1 + schedule.getD 6 0 + s0 + schedule.getD 15 0) :: schedule)

/-- Big-endian words of a block. -/
def wordsOf : List UInt8 → List UInt32
  | a :: b :: c :: d :: rest =>
      (a.toUInt32 <<< 24 ||| b.toUInt32 <<< 16 ||| c.toUInt32 <<< 8 ||| d.toUInt32)
        :: wordsOf rest
  | _ => []

def compress (w : Words) (block : List UInt8) : Words :=
  let schedule := (extend 48 (wordsOf block).reverse).reverse
  let r := (constants.zip schedule).foldl round w
  ⟨w.a + r.a, w.b + r.b, w.c + r.c, w.d + r.d, w.e + r.e, w.f + r.f, w.g + r.g, w.h + r.h⟩

def compressAll : Nat → List UInt8 → Words → Words
  | 0, _, w => w
  | n + 1, data, w => compressAll n (data.drop 64) (compress w (data.take 64))

/-- The message with its end bit, zeros and 64-bit length. -/
def pad (data : List UInt8) : List UInt8 :=
  let zeros := (119 - data.length % 64) % 64
  let bits := data.length * 8
  let ending : List UInt8 := 0x80 :: List.replicate zeros 0
  data ++ ending
    ++ [56, 48, 40, 32, 24, 16, 8, 0].map (fun shift => UInt8.ofNat (bits >>> shift))

def wordBytes (w : UInt32) : List UInt8 :=
  [(w >>> 24).toUInt8, (w >>> 16).toUInt8, (w >>> 8).toUInt8, w.toUInt8]

/-- The SHA-256 digest of a byte string. -/
def digest (data : List UInt8) : List UInt8 :=
  let padded := pad data
  let w := compressAll (padded.length / 64) padded initial
  [w.a, w.b, w.c, w.d, w.e, w.f, w.g, w.h].flatMap wordBytes

@[simp]
theorem digest_length (data : List UInt8) : (digest data).length = 32 := by
  simp [digest, wordBytes]

end Sha256
