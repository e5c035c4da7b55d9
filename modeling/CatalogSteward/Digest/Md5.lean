import CatalogSteward.Digest.Words

/-!
# MD5

The message digest of RFC 1321, which older verifiers are made of.
-/

set_option autoImplicit false

namespace CatalogSteward.Digest

/-- The four words that are carried from block to block. -/
structure Md5State where
  a : UInt32
  b : UInt32
  c : UInt32
  d : UInt32
  deriving DecidableEq, Repr

namespace Md5State

def initial : Md5State :=
  ⟨0x67452301, 0xefcdab89, 0x98badcfe, 0x10325476⟩

def constants : List UInt32 :=
  [0xd76aa478, 0xe8c7b756, 0x242070db, 0xc1bdceee, 0xf57c0faf, 0x4787c62a, 0xa8304613,
    0xfd469501, 0x698098d8, 0x8b44f7af, 0xffff5bb1, 0x895cd7be, 0x6b901122, 0xfd987193,
    0xa679438e, 0x49b40821, 0xf61e2562, 0xc040b340, 0x265e5a51, 0xe9b6c7aa, 0xd62f105d,
    0x02441453, 0xd8a1e681, 0xe7d3fbc8, 0x21e1cde6, 0xc33707d6, 0xf4d50d87, 0x455a14ed,
    0xa9e3e905, 0xfcefa3f8, 0x676f02d9, 0x8d2a4c8a, 0xfffa3942, 0x8771f681, 0x6d9d6122,
    0xfde5380c, 0xa4beea44, 0x4bdecfa9, 0xf6bb4b60, 0xbebfbc70, 0x289b7ec6, 0xeaa127fa,
    0xd4ef3085, 0x04881d05, 0xd9d4d039, 0xe6db99e5, 0x1fa27cf8, 0xc4ac5665, 0xf4292244,
    0x432aff97, 0xab9423a7, 0xfc93a039, 0x655b59c3, 0x8f0ccc92, 0xffeff47d, 0x85845dd1,
    0x6fa87e4f, 0xfe2ce6e0, 0xa3014314, 0x4e0811a1, 0xf7537e82, 0xbd3af235, 0x2ad7d2bb,
    0xeb86d391]

def combine (place : Nat) (b c d : UInt32) : UInt32 :=
  match place / 16 with
  | 0 => (b &&& c) ||| ((~~~b) &&& d)
  | 1 => (d &&& b) ||| ((~~~d) &&& c)
  | 2 => b ^^^ c ^^^ d
  | _ => c ^^^ (b ||| (~~~d))

def wordPlace (place : Nat) : Nat :=
  match place / 16 with
  | 0 => place
  | 1 => (5 * place + 1) % 16
  | 2 => (3 * place + 5) % 16
  | _ => 7 * place % 16

def turn (place : Nat) : UInt32 :=
  let amounts : List UInt32 :=
    match place / 16 with
    | 0 => [7, 12, 17, 22]
    | 1 => [5, 9, 14, 20]
    | 2 => [4, 11, 16, 23]
    | _ => [6, 10, 15, 21]
  amounts.getD (place % 4) 0

def round (block : Array UInt32) (state : Md5State) (place : Nat) (constant : UInt32) :
    Md5State :=
  let sum :=
    combine place state.b state.c state.d + state.a + constant +
      block.getD (wordPlace place) 0
  ⟨state.d, state.b + rotateLeft sum (turn place), state.b, state.c⟩

def rounds (block : Array UInt32) (place : Nat) (state : Md5State) : List UInt32 → Md5State
  | [] => state
  | constant :: rest => rounds block (place + 1) (state.round block place constant) rest

def compress (state : Md5State) (block : List UInt32) : Md5State :=
  let mixed := rounds block.toArray 0 state constants
  ⟨state.a + mixed.a, state.b + mixed.b, state.c + mixed.c, state.d + mixed.d⟩

def bytes (state : Md5State) : List UInt8 :=
  [state.a, state.b, state.c, state.d].flatMap littleEndianBytes

end Md5State

def md5 (message : List UInt8) : List UInt8 :=
  let padded :=
    message ++ paddingBytes message.length ++ (lengthBytes (message.length * 8)).reverse
  ((blocksOf (wordsOf littleEndianWord padded)).foldl Md5State.compress
    Md5State.initial).bytes

end CatalogSteward.Digest
