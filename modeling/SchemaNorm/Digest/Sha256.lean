/-!
The SHA-256 digest (FIPS 180-4) of a byte string, and its lowercase hexadecimal text. The
message is padded with a one bit, zeros and its bit length to whole 64-byte blocks, and each
block is compressed into the eight-word state by 64 rounds.
-/

namespace SchemaNorm

namespace Sha256

/-- The round constants: the first 32 bits of the fractional parts of the cube roots of the
first 64 primes. -/
def roundConstants : Array UInt32 := #[
  0x428a2f98, 0x71374491, 0xb5c0fbcf, 0xe9b5dba5, 0x3956c25b, 0x59f111f1, 0x923f82a4, 0xab1c5ed5,
  0xd807aa98, 0x12835b01, 0x243185be, 0x550c7dc3, 0x72be5d74, 0x80deb1fe, 0x9bdc06a7, 0xc19bf174,
  0xe49b69c1, 0xefbe4786, 0x0fc19dc6, 0x240ca1cc, 0x2de92c6f, 0x4a7484aa, 0x5cb0a9dc, 0x76f988da,
  0x983e5152, 0xa831c66d, 0xb00327c8, 0xbf597fc7, 0xc6e00bf3, 0xd5a79147, 0x06ca6351, 0x14292967,
  0x27b70a85, 0x2e1b2138, 0x4d2c6dfc, 0x53380d13, 0x650a7354, 0x766a0abb, 0x81c2c92e, 0x92722c85,
  0xa2bfe8a1, 0xa81a664b, 0xc24b8b70, 0xc76c51a3, 0xd192e819, 0xd6990624, 0xf40e3585, 0x106aa070,
  0x19a4c116, 0x1e376c08, 0x2748774c, 0x34b0bcb5, 0x391c0cb3, 0x4ed8aa4a, 0x5b9cca4f, 0x682e6ff3,
  0x748f82ee, 0x78a5636f, 0x84c87814, 0x8cc70208, 0x90befffa, 0xa4506ceb, 0xbef9a3f7, 0xc67178f2]

/-- The initial state: the first 32 bits of the fractional parts of the square roots of the
first eight primes. -/
def initialState : Array UInt32 :=
  #[0x6a09e667, 0xbb67ae85, 0x3c6ef372, 0xa54ff53a, 0x510e527f, 0x9b05688c, 0x1f83d9ab, 0x5be0cd19]

/-- Rotation to the right by `n` bits. -/
def rotr (x : UInt32) (n : UInt32) : UInt32 := (x >>> n) ||| (x <<< (32 - n))

/-- The padded message: a one bit, zeros, and the 64-bit big-endian bit length, filling
whole 64-byte blocks. -/
def pad (msg : ByteArray) : ByteArray := Id.run do
  let len := msg.size
  let zeros := (119 - len % 64) % 64
  let mut out := msg.push 0x80
  for _ in [0:zeros] do
    out := out.push 0
  let bits := len * 8
  for i in [0:8] do
    out := out.push (UInt8.ofNat (bits >>> (8 * (7 - i)) % 256))
  return out

/-- The big-endian word at a byte offset. -/
def wordAt (b : ByteArray) (i : Nat) : UInt32 :=
  let byte (j : Nat) : UInt32 := (if h : j < b.size then b[j] else 0).toUInt32
  (byte i <<< 24) ||| (byte (i + 1) <<< 16) ||| (byte (i + 2) <<< 8) ||| byte (i + 3)

/-- The 64-word message schedule of the block at a byte offset. -/
def schedule (b : ByteArray) (offset : Nat) : Array UInt32 := Id.run do
  let mut w : Array UInt32 := #[]
  for i in [0:16] do
    w := w.push (wordAt b (offset + 4 * i))
  for i in [16:64] do
    let w15 := w.getD (i - 15) 0
    let w2 := w.getD (i - 2) 0
    let s0 := rotr w15 7 ^^^ rotr w15 18 ^^^ (w15 >>> 3)
    let s1 := rotr w2 17 ^^^ rotr w2 19 ^^^ (w2 >>> 10)
    w := w.push (w.getD (i - 16) 0 + s0 + w.getD (i - 7) 0 + s1)
  return w

/-- One compression of the state with the block at a byte offset. -/
def compress (state : Array UInt32) (b : ByteArray) (offset : Nat) : Array UInt32 := Id.run do
  let w := schedule b offset
  let mut a := state.getD 0 0
  let mut bb := state.getD 1 0
  let mut c := state.getD 2 0
  let mut d := state.getD 3 0
  let mut e := state.getD 4 0
  let mut f := state.getD 5 0
  let mut g := state.getD 6 0
  let mut h := state.getD 7 0
  for i in [0:64] do
    let s1 := rotr e 6 ^^^ rotr e 11 ^^^ rotr e 25
    let ch := (e &&& f) ^^^ ((~~~ e) &&& g)
    let t1 := h + s1 + ch + roundConstants.getD i 0 + w.getD i 0
    let s0 := rotr a 2 ^^^ rotr a 13 ^^^ rotr a 22
    let maj := (a &&& bb) ^^^ (a &&& c) ^^^ (bb &&& c)
    let t2 := s0 + maj
    h := g
    g := f
    f := e
    e := d + t1
    d := c
    c := bb
    bb := a
    a := t1 + t2
  return #[state.getD 0 0 + a, state.getD 1 0 + bb, state.getD 2 0 + c, state.getD 3 0 + d,
    state.getD 4 0 + e, state.getD 5 0 + f, state.getD 6 0 + g, state.getD 7 0 + h]

/-- The eight digest words of a message. -/
def digestWords (msg : ByteArray) : Array UInt32 := Id.run do
  let p := pad msg
  let mut state := initialState
  for i in [0:p.size / 64] do
    state := compress state p (64 * i)
  return state

/-- A word as eight lowercase hexadecimal digits. -/
def wordHex (w : UInt32) : String :=
  let digits := Nat.toDigits 16 w.toNat
  String.ofList (List.replicate (8 - digits.length) '0' ++ digits)

/-- The digest of a text's UTF-8 bytes, in lowercase hexadecimal. -/
def hexDigest (s : String) : String :=
  (digestWords s.toUTF8).foldl (fun acc w => acc ++ wordHex w) ""

end Sha256

end SchemaNorm
