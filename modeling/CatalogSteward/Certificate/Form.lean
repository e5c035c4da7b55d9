/-!
# The form of certificates

A certificate is made of elements: a tag, the length of the content in as few
bytes as can be, and the content. Only what a trust anchor needs is looked at:
that the elements are there, in their order, and fill the whole.
-/

set_option autoImplicit false

namespace CatalogSteward.Certificate

def sequenceTag : UInt8 := 0x30

def integerTag : UInt8 := 0x02

def bitStringTag : UInt8 := 0x03

def versionTag : UInt8 := 0xA0

def extensionsTag : UInt8 := 0xA3

def length? : List UInt8 → Option (Nat × List UInt8)
  | 0x81 :: low :: rest => if low < 0x80 then none else some (low.toNat, rest)
  | 0x82 :: high :: low :: rest =>
      if high = 0 then none else some (high.toNat * 256 + low.toNat, rest)
  | first :: rest => if first < 0x80 then some (first.toNat, rest) else none
  | [] => none

/-- The content of an element of the given tag that bytes begin with, and the bytes after it. -/
def element? (tag : UInt8) : List UInt8 → Option (List UInt8 × List UInt8)
  | [] => none
  | first :: rest => do
      let (length, rest) ← length? rest
      if first = tag ∧ length ≤ rest.length then
        pure (rest.take length, rest.drop length)
      else
        none

def afterElement? (tag : UInt8) (bytes : List UInt8) : Option (List UInt8) :=
  (element? tag bytes).map Prod.snd

/-- The content of an element of the given tag that is all there is. -/
def only? (tag : UInt8) (bytes : List UInt8) : Option (List UInt8) := do
  let (content, rest) ← element? tag bytes
  if rest.isEmpty then pure content else none

/-- Whether the bytes are names and times, a key and extensions, if there are any. -/
def isSubject (bytes : List UInt8) : Bool :=
  let rest? := do
    let rest ← afterElement? sequenceTag bytes
    let rest ← afterElement? sequenceTag rest
    let rest ← afterElement? sequenceTag rest
    afterElement? sequenceTag rest
  match rest? with
  | none => false
  | some rest => rest.isEmpty || ((only? extensionsTag rest).bind (only? sequenceTag)).isSome

/-- Whether the bytes are the body of a certificate that was signed as the algorithm says. One
without a version has no extensions. -/
def isBody (algorithm bytes : List UInt8) : Bool :=
  match element? versionTag bytes with
  | some (version, rest) =>
      match afterElement? integerTag rest >>= element? sequenceTag with
      | some (stated, rest) =>
          version == [integerTag, 1, 2] && stated == algorithm && isSubject rest
      | none => false
  | none =>
      match afterElement? integerTag bytes >>= afterElement? sequenceTag with
      | some rest => isSubject rest
      | none => false

def isWellFormed (bytes : List UInt8) : Bool :=
  let parts? := do
    let content ← only? sequenceTag bytes
    let (body, rest) ← element? sequenceTag content
    let (algorithm, rest) ← element? sequenceTag rest
    let signature ← only? bitStringTag rest
    pure (body, algorithm, signature)
  match parts? with
  | some (body, algorithm, 0 :: _) => isBody algorithm body
  | _ => false

end CatalogSteward.Certificate
