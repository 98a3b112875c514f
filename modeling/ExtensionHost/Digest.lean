import ExtensionHost.Json.Basic

/-!
# Fingerprints

The SHA-256 digest of a list of bytes, as lower-case hexadecimal digits. The
message is padded to whole blocks of sixty-four bytes; each block is mixed into
a state of eight words, in sixty-four rounds.
-/

namespace ExtensionHost

/-! ## Words -/

/-- The word rotated to the right. -/
def rotateRight (x : UInt32) (n : UInt32) : UInt32 :=
  (x >>> n) ||| (x <<< (32 - n))

/-- The fractional parts of the cube roots of the first sixty-four primes. -/
def digestConstants : List UInt32 :=
  [0x428a2f98, 0x71374491, 0xb5c0fbcf, 0xe9b5dba5, 0x3956c25b, 0x59f111f1,
   0x923f82a4, 0xab1c5ed5, 0xd807aa98, 0x12835b01, 0x243185be, 0x550c7dc3,
   0x72be5d74, 0x80deb1fe, 0x9bdc06a7, 0xc19bf174, 0xe49b69c1, 0xefbe4786,
   0x0fc19dc6, 0x240ca1cc, 0x2de92c6f, 0x4a7484aa, 0x5cb0a9dc, 0x76f988da,
   0x983e5152, 0xa831c66d, 0xb00327c8, 0xbf597fc7, 0xc6e00bf3, 0xd5a79147,
   0x06ca6351, 0x14292967, 0x27b70a85, 0x2e1b2138, 0x4d2c6dfc, 0x53380d13,
   0x650a7354, 0x766a0abb, 0x81c2c92e, 0x92722c85, 0xa2bfe8a1, 0xa81a664b,
   0xc24b8b70, 0xc76c51a3, 0xd192e819, 0xd6990624, 0xf40e3585, 0x106aa070,
   0x19a4c116, 0x1e376c08, 0x2748774c, 0x34b0bcb5, 0x391c0cb3, 0x4ed8aa4a,
   0x5b9cca4f, 0x682e6ff3, 0x748f82ee, 0x78a5636f, 0x84c87814, 0x8cc70208,
   0x90befffa, 0xa4506ceb, 0xbef9a3f7, 0xc67178f2]

/-- The state before the first block: the fractional parts of the square roots of
the first eight primes. -/
def digestStart : List UInt32 :=
  [0x6a09e667, 0xbb67ae85, 0x3c6ef372, 0xa54ff53a, 0x510e527f, 0x9b05688c,
   0x1f83d9ab, 0x5be0cd19]

/-- Four bytes as a word, the highest first. -/
def wordOfBytes : List UInt8 → UInt32
  | [a, b, c, d] =>
    (a.toUInt32 <<< 24) ||| (b.toUInt32 <<< 16) ||| (c.toUInt32 <<< 8) ||| d.toUInt32
  | _ => 0

/-- A list cut into pieces of a length; the last one may be shorter. -/
def piecesOf {α : Type} (size : Nat) : Nat → List α → List (List α)
  | 0, _ => []
  | _ + 1, [] => []
  | fuel + 1, xs => xs.take size :: piecesOf size fuel (xs.drop size)

/-! ## Blocks -/

/-- The bytes of a number of eight bytes, the highest first. -/
def bigEndian64 (n : Nat) : List UInt8 :=
  (List.range 8).map fun i => UInt8.ofNat (n >>> (8 * (7 - i)))

/-- The message with its end mark, zeros, and its length in bits. -/
def paddedMessage (bytes : List UInt8) : List UInt8 :=
  let zeros := (119 - bytes.length % 64) % 64
  bytes ++ 0x80 :: List.replicate zeros 0 ++ bigEndian64 (8 * bytes.length)

/-- The next word of the schedule, from the words so far in reverse. -/
def nextScheduleWord (reversed : List UInt32) : UInt32 :=
  let w2 := reversed.getD 1 0
  let w15 := reversed.getD 14 0
  let small0 := rotateRight w15 7 ^^^ rotateRight w15 18 ^^^ (w15 >>> 3)
  let small1 := rotateRight w2 17 ^^^ rotateRight w2 19 ^^^ (w2 >>> 10)
  reversed.getD 15 0 + small0 + reversed.getD 6 0 + small1

/-- The sixty-four words of a block. -/
def schedule (block : List UInt8) : List UInt32 :=
  let first := (piecesOf 4 16 block).map wordOfBytes
  ((List.range 48).foldl (fun reversed _ => nextScheduleWord reversed :: reversed)
    first.reverse).reverse

/-- One round: the state, with a constant and a word of the schedule. -/
def digestRound (state : List UInt32) (constant word : UInt32) : List UInt32 :=
  match state with
  | [a, b, c, d, e, f, g, h] =>
    let big1 := rotateRight e 6 ^^^ rotateRight e 11 ^^^ rotateRight e 25
    let choice := (e &&& f) ^^^ ((~~~ e) &&& g)
    let t1 := h + big1 + choice + constant + word
    let big0 := rotateRight a 2 ^^^ rotateRight a 13 ^^^ rotateRight a 22
    let majority := (a &&& b) ^^^ (a &&& c) ^^^ (b &&& c)
    [t1 + big0 + majority, a, b, c, d + t1, e, f, g]
  | other => other

/-- The state after a block. -/
def digestBlock (state : List UInt32) (block : List UInt8) : List UInt32 :=
  let mixed := (digestConstants.zip (schedule block)).foldl
    (fun s (constant, word) => digestRound s constant word) state
  List.zipWith (· + ·) state mixed

/-! ## The digest -/

/-- The eight hexadecimal digits of a word. -/
def wordHex (x : UInt32) : List Char :=
  (List.range 8).map fun i => hexDigit ((x.toNat >>> (4 * (7 - i))) % 16)

/-- The fingerprint of a list of bytes. -/
def fingerprint (bytes : List UInt8) : String :=
  let message := paddedMessage bytes
  let blocks := piecesOf 64 (message.length / 64) message
  String.ofList ((blocks.foldl digestBlock digestStart).flatMap wordHex)

end ExtensionHost
