import CatalogSteward.Digest.Sha256

/-!
# Keyed hashes and derived keys

The keyed hash of RFC 2104 over SHA-256, and the first block of the derived
key of RFC 8018.
-/

set_option autoImplicit false

namespace CatalogSteward.Digest

def blockSize : Nat := 64

/-- A key, filled with zeros to a block; a key longer than that is hashed first. -/
def keyBlock (key : List UInt8) : List UInt8 :=
  let short := if blockSize < key.length then sha256 key else key
  short ++ List.replicate (blockSize - short.length) 0

/-- The states after the inner and the outer block of a key. -/
structure HmacKey where
  inner : Sha256State
  outer : Sha256State
  deriving DecidableEq, Repr

namespace HmacKey

def ofBytes (key : List UInt8) : HmacKey :=
  let block := keyBlock key
  ⟨Sha256State.initial.absorb (block.map (· ^^^ 0x36)),
    Sha256State.initial.absorb (block.map (· ^^^ 0x5c))⟩

def hash (key : HmacKey) (message : List UInt8) : List UInt8 :=
  key.outer.finish blockSize (key.inner.finish blockSize message)

end HmacKey

def hmac (key message : List UInt8) : List UInt8 :=
  (HmacKey.ofBytes key).hash message

def xorBytes (left right : List UInt8) : List UInt8 :=
  List.zipWith (· ^^^ ·) left right

def iterate (key : HmacKey) (last sum : List UInt8) : Nat → List UInt8
  | 0 => sum
  | remaining + 1 =>
      let next := key.hash last
      iterate key next (xorBytes sum next) remaining

def deriveKey (password salt : List UInt8) (iterations : Nat) : List UInt8 :=
  let key := HmacKey.ofBytes password
  let first := key.hash (salt ++ [0, 0, 0, 1])
  iterate key first first (iterations - 1)

end CatalogSteward.Digest
