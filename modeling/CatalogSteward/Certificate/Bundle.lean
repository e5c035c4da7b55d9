import CatalogSteward.Bytes.Base64
import CatalogSteward.Certificate.Form
import CatalogSteward.Text.Quoted
import CatalogSteward.Text.Split

/-!
# Bundles of certificates

A bundle is text in which sections stand between a line that begins and a line
that ends them; both name what the section holds. What stands outside of
sections, and sections that hold something else, are passed over.
-/

set_option autoImplicit false

namespace CatalogSteward.Certificate

/-- Why a bundle is refused. -/
inductive BundleDefect where
  | noCertificates
  | noEnd (label : String)
  | badBeginning (line : String)
  | badByte (byte : Nat)
  | earlyPadding
  | badPadding
  | malformed
  deriving DecidableEq, Repr

def BundleDefect.message : BundleDefect → String
  | .noCertificates => "No certificates found in PEM data"
  | .noEnd label =>
      "Failed to parse certificate: section end " ++ Text.quoted label ++ " missing"
  | .badBeginning line =>
      "Failed to parse certificate: illegal section start: " ++ Text.quoted line
  | .badByte byte => "Failed to parse certificate: InvalidCharacter(" ++ toString byte ++ ")"
  | .earlyPadding => "Failed to parse certificate: PrematurePadding"
  | .badPadding => "Failed to parse certificate: InvalidPadding"
  | .malformed => "Failed to add CA cert: invalid peer certificate: BadEncoding"

/-- A character in the body of a section: a value of six bits, or padding. -/
inductive Digit where
  | value (bits : Nat)
  | padding
  deriving DecidableEq, Repr

/-- Whether a character in the body of a section means nothing. -/
def isFiller (character : Char) : Bool :=
  character = ' ' || (9 ≤ character.toNat && character.toNat ≤ 13)

def leadByte (character : Char) : Nat :=
  ((String.singleton character).toUTF8.toList.headD 0).toNat

def digits : List Char → Except BundleDefect (List Digit)
  | [] => .ok []
  | character :: rest =>
      if isFiller character then digits rest
      else if character = '=' then (digits rest).map (.padding :: ·)
      else
        match Base64.value? character with
        | some bits => (digits rest).map (.value bits :: ·)
        | none => .error (.badByte (leadByte character))

def bytesOf (count first second third fourth : Nat) : List UInt8 :=
  let bits := ((first * 64 + second) * 64 + third) * 64 + fourth
  [(bits / 65536).toUInt8, (bits / 256 % 256).toUInt8, (bits % 256).toUInt8].take count

/-- The bytes that digits spell, four at a time; the padding of the last ones may be missing. -/
def bytes : List Digit → Except BundleDefect (List UInt8)
  | [] => .ok []
  | .value first :: .value second :: .value third :: .value fourth :: rest =>
      (bytes rest).map (bytesOf 3 first second third fourth ++ ·)
  | [.value first, .value second, .value third, .padding] =>
      .ok (bytesOf 2 first second third 0)
  | [.value first, .value second, .value third] => .ok (bytesOf 2 first second third 0)
  | [.value first, .value second, .padding, .padding] => .ok (bytesOf 1 first second 0 0)
  | [.value first, .value second, .padding] => .ok (bytesOf 1 first second 0 0)
  | [.value first, .value second] => .ok (bytesOf 1 first second 0 0)
  | _ :: _ :: _ :: _ :: _ :: _ => .error .earlyPadding
  | _ => .error .badPadding

def lines : List Char → List (List Char)
  | [] => []
  | character :: rest =>
      if character = '\n' || character = '\r' then [character] :: lines rest
      else
        match lines rest with
        | [] => [[character]]
        | line :: others => (character :: line) :: others

/-- Whether a character between the dashes that end a line means nothing. -/
def isGap (character : Char) : Bool :=
  character = ' ' || character = '\n' || character = '\r'

/-- The label of a section, from what follows the word that begins it, if five dashes end the
line. -/
def label? (rest : List Char) : Option (List Char) :=
  let ending := rest.reverse.takeWhile fun character => character = '-' || isGap character
  let dashes := ending.reverse.dropWhile isGap
  if dashes.count '-' = 5 then some (rest.take (rest.length - dashes.length)) else none

def isEnd (label line : List Char) : Bool :=
  (Text.after? ("-----END ".toList ++ label ++ "-----".toList) line).isSome

def knownLabels : List String :=
  ["CERTIFICATE", "PUBLIC KEY", "RSA PRIVATE KEY", "PRIVATE KEY", "EC PRIVATE KEY", "X509 CRL",
    "CERTIFICATE REQUEST", "ECHCONFIG"]

/-- The certificates of the sections in some lines, given the label and the body so far of the
section that is open. -/
def sections (section? : Option (List Char)) (body : List Char) :
    List (List Char) → Except BundleDefect (List (List UInt8))
  | [] =>
      match section? with
      | some label => .error (.noEnd (String.ofList label))
      | none => .ok []
  | line :: rest =>
      match Text.after? "-----BEGIN ".toList line with
      | some beginning =>
          match label? beginning with
          | some label => sections (some label) body rest
          | none => .error (.badBeginning (String.ofList line))
      | none =>
          match section? with
          | none => sections none body rest
          | some label =>
              if isEnd label line then
                if knownLabels.contains (String.ofList label) then do
                  let content ← digits body >>= bytes
                  let others ← sections none [] rest
                  pure (if label = "CERTIFICATE".toList then content :: others else others)
                else
                  sections none [] rest
              else
                sections (some label) (body ++ line) rest

def bundle (text : String) : Except BundleDefect (List (List UInt8)) := do
  let certificates ← sections none [] (lines text.toList)
  if certificates.isEmpty then throw .noCertificates
  else if certificates.all isWellFormed then pure certificates
  else throw .malformed

end CatalogSteward.Certificate
