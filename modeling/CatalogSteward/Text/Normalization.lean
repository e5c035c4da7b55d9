import CatalogSteward.Text.DecompositionTable

/-!
# Normalization

Normalization form KC: every character is decomposed as far as it goes, marks
are put in order, and pairs are composed again. Hangul syllables are composed
of a leading consonant, a vowel and a trailing consonant by a rule.
-/

set_option autoImplicit false

namespace CatalogSteward.Text

def firstSyllable : Nat := 0xAC00

def firstLeading : Nat := 0x1100

def firstVowel : Nat := 0x1161

def beforeTrailing : Nat := 0x11A7

def leadingCount : Nat := 19

def vowelCount : Nat := 21

/-- The number of trailing consonants, none counted as one. -/
def trailingCount : Nat := 28

def syllableCount : Nat := leadingCount * vowelCount * trailingCount

def decompose (code : Nat) : List Nat :=
  if firstSyllable ≤ code ∧ code < firstSyllable + syllableCount then
    let place := code - firstSyllable
    let leading := firstLeading + place / (vowelCount * trailingCount)
    let vowel := firstVowel + place % (vowelCount * trailingCount) / trailingCount
    if place % trailingCount = 0 then [leading, vowel]
    else [leading, vowel, beforeTrailing + place % trailingCount]
  else
    (CodeTable.find? compatibilityDecompositions code).getD [code]

def combiningClass (code : Nat) : Nat :=
  ((CodeTable.find? combiningClasses code).bind List.head?).getD 0

/-- The codes with each one after those of the same or a lesser class, between two of class
zero. The mark goes in before the first marks of a greater class at the end. -/
def insertMark (mark : Nat) : List Nat → List Nat
  | [] => [mark]
  | last :: before =>
      if combiningClass mark ≠ 0 ∧ combiningClass mark < combiningClass last then
        last :: insertMark mark before
      else
        mark :: last :: before

def orderMarks (codes : List Nat) : List Nat :=
  (codes.foldl (fun ordered code => insertMark code ordered) []).reverse

def pairedWith? (follower : Nat) : List Nat → Option Nat
  | second :: composite :: rest =>
      if second = follower then some composite else pairedWith? follower rest
  | _ => none

def compose? (first second : Nat) : Option Nat :=
  if firstLeading ≤ first ∧ first < firstLeading + leadingCount ∧
      firstVowel ≤ second ∧ second < firstVowel + vowelCount then
    some (firstSyllable +
      ((first - firstLeading) * vowelCount + (second - firstVowel)) * trailingCount)
  else if firstSyllable ≤ first ∧ first < firstSyllable + syllableCount ∧
      (first - firstSyllable) % trailingCount = 0 ∧
      beforeTrailing < second ∧ second < beforeTrailing + trailingCount then
    some (first + (second - beforeTrailing))
  else
    CodeTable.find? compositions first >>= pairedWith? second

/-- The state of composing: the codes before the last character of class zero in reverse, that
character, and the marks kept after it in reverse. -/
structure Composition where
  done : List Nat
  starter : Option Nat
  marks : List Nat

namespace Composition

def codes (composition : Composition) : List Nat :=
  composition.marks ++ composition.starter.toList ++ composition.done

def isBlocked (composition : Composition) (code : Nat) : Bool :=
  match composition.marks with
  | [] => false
  | mark :: _ => combiningClass code ≤ combiningClass mark

def keep (composition : Composition) (code : Nat) : Composition :=
  if combiningClass code = 0 then ⟨composition.codes, some code, []⟩
  else { composition with marks := code :: composition.marks }

def step (composition : Composition) (code : Nat) : Composition :=
  match composition.starter with
  | none => composition.keep code
  | some starter =>
      if composition.isBlocked code then composition.keep code
      else
        match compose? starter code with
        | some composite => { composition with starter := some composite }
        | none => composition.keep code

end Composition

def composeAll (codes : List Nat) : List Nat :=
  (codes.foldl Composition.step ⟨[], none, []⟩).codes.reverse

def normalize (characters : List Char) : List Char :=
  (composeAll (orderMarks (characters.flatMap fun character => decompose character.toNat))).map
    Char.ofNat

end CatalogSteward.Text
