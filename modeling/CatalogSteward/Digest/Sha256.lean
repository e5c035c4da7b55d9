import CatalogSteward.Digest.Words

/-!
# SHA-256

The secure hash of FIPS 180-4. Hashing can go on from the state after some
blocks, which the keyed hash makes use of.
-/

set_option autoImplicit false

namespace CatalogSteward.Digest

/-- The eight words that are carried from block to block. -/
structure Sha256State where
  a : UInt32
  b : UInt32
  c : UInt32
  d : UInt32
  e : UInt32
  f : UInt32
  g : UInt32
  h : UInt32
  deriving DecidableEq, Repr

namespace Sha256State

def initial : Sha256State :=
  ⟨0x6a09e667, 0xbb67ae85, 0x3c6ef372, 0xa54ff53a, 0x510e527f, 0x9b05688c, 0x1f83d9ab,
    0x5be0cd19⟩

def constants : List UInt32 :=
  [0x428a2f98, 0x71374491, 0xb5c0fbcf, 0xe9b5dba5, 0x3956c25b, 0x59f111f1, 0x923f82a4,
    0xab1c5ed5, 0xd807aa98, 0x12835b01, 0x243185be, 0x550c7dc3, 0x72be5d74, 0x80deb1fe,
    0x9bdc06a7, 0xc19bf174, 0xe49b69c1, 0xefbe4786, 0x0fc19dc6, 0x240ca1cc, 0x2de92c6f,
    0x4a7484aa, 0x5cb0a9dc, 0x76f988da, 0x983e5152, 0xa831c66d, 0xb00327c8, 0xbf597fc7,
    0xc6e00bf3, 0xd5a79147, 0x06ca6351, 0x14292967, 0x27b70a85, 0x2e1b2138, 0x4d2c6dfc,
    0x53380d13, 0x650a7354, 0x766a0abb, 0x81c2c92e, 0x92722c85, 0xa2bfe8a1, 0xa81a664b,
    0xc24b8b70, 0xc76c51a3, 0xd192e819, 0xd6990624, 0xf40e3585, 0x106aa070, 0x19a4c116,
    0x1e376c08, 0x2748774c, 0x34b0bcb5, 0x391c0cb3, 0x4ed8aa4a, 0x5b9cca4f, 0x682e6ff3,
    0x748f82ee, 0x78a5636f, 0x84c87814, 0x8cc70208, 0x90befffa, 0xa4506ceb, 0xbef9a3f7,
    0xc67178f2]

def schedule (block : List UInt32) : Array UInt32 :=
  (List.range 48).foldl
    (fun words place =>
      let early := words.getD (place + 1) 0
      let late := words.getD (place + 14) 0
      words.push
        (words.getD place 0 +
          (rotateRight early 7 ^^^ rotateRight early 18 ^^^ (early >>> 3)) +
          words.getD (place + 9) 0 +
          (rotateRight late 17 ^^^ rotateRight late 19 ^^^ (late >>> 10))))
    block.toArray

def round (state : Sha256State) (constant word : UInt32) : Sha256State :=
  let choice := (state.e &&& state.f) ^^^ ((~~~state.e) &&& state.g)
  let majority := (state.a &&& state.b) ^^^ (state.a &&& state.c) ^^^ (state.b &&& state.c)
  let first :=
    state.h + (rotateRight state.e 6 ^^^ rotateRight state.e 11 ^^^ rotateRight state.e 25) +
      choice + constant + word
  let second :=
    (rotateRight state.a 2 ^^^ rotateRight state.a 13 ^^^ rotateRight state.a 22) + majority
  ⟨first + second, state.a, state.b, state.c, state.d + first, state.e, state.f, state.g⟩

def add (left right : Sha256State) : Sha256State :=
  ⟨left.a + right.a, left.b + right.b, left.c + right.c, left.d + right.d, left.e + right.e,
    left.f + right.f, left.g + right.g, left.h + right.h⟩

/-- The state after all rounds with the words that are left. -/
def rounds (words : Array UInt32) (place : Nat) (state : Sha256State) :
    List UInt32 → Sha256State
  | [] => state
  | constant :: rest =>
      rounds words (place + 1) (state.round constant (words.getD place 0)) rest

def compress (state : Sha256State) (block : List UInt32) : Sha256State :=
  state.add (rounds (schedule block) 0 state constants)

def bytes (state : Sha256State) : List UInt8 :=
  [state.a, state.b, state.c, state.d, state.e, state.f, state.g, state.h].flatMap
    bigEndianBytes

def absorb (state : Sha256State) (bytes : List UInt8) : Sha256State :=
  (blocksOf (wordsOf bigEndianWord bytes)).foldl compress state

/-- The hash of a message of which the first bytes led to the state. -/
def finish (state : Sha256State) (processed : Nat) (message : List UInt8) : List UInt8 :=
  let length := processed + message.length
  (state.absorb (message ++ paddingBytes length ++ lengthBytes (length * 8))).bytes

end Sha256State

def sha256 (message : List UInt8) : List UInt8 :=
  Sha256State.initial.finish 0 message

end CatalogSteward.Digest
