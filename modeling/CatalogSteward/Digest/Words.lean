/-!
# Words and blocks

Messages are cut into blocks of sixteen words of 32 bits, after a one bit,
zeros, and the length of the message in bits.
-/

set_option autoImplicit false

namespace CatalogSteward.Digest

def rotateLeft (word amount : UInt32) : UInt32 :=
  (word <<< amount) ||| (word >>> (32 - amount))

def rotateRight (word amount : UInt32) : UInt32 :=
  (word >>> amount) ||| (word <<< (32 - amount))

/-- The word of four bytes, the most significant first. -/
def bigEndianWord (first second third fourth : UInt8) : UInt32 :=
  (first.toUInt32 <<< 24) ||| (second.toUInt32 <<< 16) ||| (third.toUInt32 <<< 8) |||
    fourth.toUInt32

/-- The word of four bytes, the least significant first. -/
def littleEndianWord (first second third fourth : UInt8) : UInt32 :=
  bigEndianWord fourth third second first

def bigEndianBytes (word : UInt32) : List UInt8 :=
  [(word >>> 24).toUInt8, (word >>> 16).toUInt8, (word >>> 8).toUInt8, word.toUInt8]

/-- The bytes of a word, the least significant first. -/
def littleEndianBytes (word : UInt32) : List UInt8 :=
  (bigEndianBytes word).reverse

/-- A number below 2 ^ 64 in eight bytes, the most significant first. -/
def lengthBytes (number : Nat) : List UInt8 :=
  let word := number.toUInt64
  let amounts : List UInt64 := [56, 48, 40, 32, 24, 16, 8, 0]
  amounts.map fun amount => (word >>> amount).toUInt8

def paddingBytes (length : Nat) : List UInt8 :=
  0x80 :: List.replicate ((119 - length % 64) % 64) 0

def wordsOf (word : UInt8 → UInt8 → UInt8 → UInt8 → UInt32) : List UInt8 → List UInt32
  | first :: second :: third :: fourth :: rest =>
      word first second third fourth :: wordsOf word rest
  | _ => []

def blocksOf (words : List UInt32) : List (List UInt32) :=
  if _long : words.length < 16 then []
  else words.take 16 :: blocksOf (words.drop 16)
termination_by words.length

end CatalogSteward.Digest
