import CatalogSteward.Digest.Hmac

/-!
# Keyed hashes without shared states

A keyed hash goes on from the states that the key led to, once for every
message, and a derived key keeps only the last hash and the sum. Both are what
they are defined to be: the hash of a hash, each with a block of the key before
it, and the sum of a chain of keyed hashes.
-/

set_option autoImplicit false

namespace CatalogSteward.Digest

/-! ## Whole blocks -/

variable {word : UInt8 → UInt8 → UInt8 → UInt8 → UInt32}

/-- Bytes that do not begin with a word are less than one. -/
theorem length_lt_of_short {bytes : List UInt8}
    (short : ∀ first second third fourth rest,
      bytes = first :: second :: third :: fourth :: rest → False) : bytes.length < 4 := by
  match bytes, short with
  | [], _ | [_], _ | [_, _], _ | [_, _, _], _ => simp
  | _ :: _ :: _ :: _ :: _, short => exact absurd rfl (short _ _ _ _ _)

theorem wordsOf_append {left : List UInt8} (whole : left.length % 4 = 0) (right : List UInt8) :
    wordsOf word (left ++ right) = wordsOf word left ++ wordsOf word right := by
  induction left using wordsOf.induct with
  | case1 first second third fourth rest ih =>
      have wholeRest : rest.length % 4 = 0 := by
        simp only [List.length_cons] at whole
        omega
      simp only [List.cons_append, wordsOf, ih wholeRest]
  | case2 bytes short =>
      have few := length_lt_of_short short
      have empty : bytes = [] := List.eq_nil_of_length_eq_zero (by omega)
      rw [empty]
      rfl

theorem length_wordsOf (bytes : List UInt8) : (wordsOf word bytes).length = bytes.length / 4 := by
  induction bytes using wordsOf.induct with
  | case1 first second third fourth rest ih =>
      simp only [wordsOf, List.length_cons, ih]
      omega
  | case2 bytes short =>
      rw [wordsOf, Nat.div_eq_of_lt (length_lt_of_short short)]
      · rfl
      · exact short

theorem blocksOf_append {block : List UInt32} (full : block.length = 16) (rest : List UInt32) :
    blocksOf (block ++ rest) = block :: blocksOf rest := by
  have long : ¬ (block ++ rest).length < 16 := by
    rw [List.length_append, full]
    omega
  rw [blocksOf, dif_neg long, List.take_left' full, List.drop_left' full]

theorem blocksOf_nil : blocksOf [] = [] := by
  rw [blocksOf, dif_pos (by decide)]

namespace Sha256State

variable {state : Sha256State} {block : List UInt8}

/-- A whole block is absorbed on its own, whatever comes after it. -/
theorem absorb_append (full : block.length = 64) (rest : List UInt8) :
    state.absorb (block ++ rest) = (state.absorb block).absorb rest := by
  have words : (wordsOf bigEndianWord block).length = 16 := by rw [length_wordsOf, full]
  have alone : blocksOf (wordsOf bigEndianWord block) = [wordsOf bigEndianWord block] := by
    have first := blocksOf_append words []
    rwa [List.append_nil, blocksOf_nil] at first
  rw [absorb, absorb, absorb, wordsOf_append (by rw [full]), blocksOf_append words, alone]
  rfl

/-- Hashing goes on from the state after a block. -/
theorem finish_append (full : block.length = 64) (processed : Nat) (message : List UInt8) :
    state.finish processed (block ++ message) =
      (state.absorb block).finish (processed + 64) message := by
  simp only [finish, List.length_append, full, ← Nat.add_assoc, List.append_assoc,
    absorb_append full]

theorem length_bytes : state.bytes.length = 32 :=
  rfl

end Sha256State

/-! ## Keyed hashes -/

theorem length_sha256 {message : List UInt8} : (sha256 message).length = 32 :=
  Sha256State.length_bytes

theorem length_keyBlock {key : List UInt8} : (keyBlock key).length = blockSize := by
  have short : (if blockSize < key.length then sha256 key else key).length ≤ blockSize := by
    split
    case isTrue =>
      rw [length_sha256]
      decide
    case isFalse fits => exact Nat.le_of_not_lt fits
  rw [keyBlock, List.length_append, List.length_replicate]
  omega

/-- The keyed hash by its definition: the hash of one block of the key, and of the hash of another
and the message. -/
def keyedHash (key message : List UInt8) : List UInt8 :=
  sha256 ((keyBlock key).map (· ^^^ 0x5c) ++ sha256 ((keyBlock key).map (· ^^^ 0x36) ++ message))

theorem hmac_eq_keyedHash (key message : List UInt8) : hmac key message = keyedHash key message := by
  have full : ∀ pad : UInt8, ((keyBlock key).map (· ^^^ pad)).length = 64 := by
    intro pad
    rw [List.length_map, length_keyBlock, blockSize]
  rw [keyedHash, sha256, Sha256State.finish_append (full _), sha256,
    Sha256State.finish_append (full _)]
  rfl

/-! ## Derived keys -/

/-- The hashes that a derived key is the sum of: the first is that of the salt and the number of
the block, each other one that of the hash before it. -/
def chainedHash (password salt : List UInt8) : Nat → List UInt8
  | 0 => keyedHash password (salt ++ [0, 0, 0, 1])
  | place + 1 => keyedHash password (chainedHash password salt place)

/-- The first block of a derived key by its definition: the sum of as many hashes as there are
iterations. -/
def derivedKey (password salt : List UInt8) (iterations : Nat) : List UInt8 :=
  (List.range' 1 (iterations - 1)).foldl
    (fun sum place => xorBytes sum (chainedHash password salt place))
    (chainedHash password salt 0)

theorem hash_ofBytes (key message : List UInt8) :
    (HmacKey.ofBytes key).hash message = keyedHash key message :=
  hmac_eq_keyedHash key message

theorem iterate_chainedHash (password salt sum : List UInt8) (place remaining : Nat) :
    iterate (HmacKey.ofBytes password) (chainedHash password salt place) sum remaining =
      (List.range' (place + 1) remaining).foldl
        (fun sum place => xorBytes sum (chainedHash password salt place)) sum := by
  induction remaining generalizing place sum with
  | zero => rfl
  | succ remaining ih =>
      rw [iterate, hash_ofBytes, List.range'_succ, List.foldl_cons]
      exact ih (xorBytes sum (chainedHash password salt (place + 1))) (place + 1)

theorem deriveKey_eq_derivedKey (password salt : List UInt8) (iterations : Nat) :
    deriveKey password salt iterations = derivedKey password salt iterations := by
  rw [deriveKey, hash_ofBytes]
  exact iterate_chainedHash password salt (chainedHash password salt 0) 0 (iterations - 1)

end CatalogSteward.Digest
