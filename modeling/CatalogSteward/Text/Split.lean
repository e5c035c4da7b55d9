/-!
# Splitting text

A text is split at the first place where a mark stands, or at every one.
-/

set_option autoImplicit false

namespace CatalogSteward.Text

/-- What stands before the first mark and what after it, if the mark occurs. -/
def splitFirst? (mark : Char) : List Char → Option (List Char × List Char)
  | [] => none
  | character :: rest =>
      if character = mark then some ([], rest)
      else (splitFirst? mark rest).map fun parts => (character :: parts.1, parts.2)

def splitAll (mark : Char) : List Char → List (List Char)
  | [] => [[]]
  | character :: rest =>
      if character = mark then [] :: splitAll mark rest
      else
        match splitAll mark rest with
        | [] => [[character]]
        | part :: parts => (character :: part) :: parts

def after? : List Char → List Char → Option (List Char)
  | [], text => some text
  | _ :: _, [] => none
  | expected :: beginning, character :: text =>
      if character = expected then after? beginning text else none

def isWithin (part : List Char) : List Char → Bool
  | [] => part.isEmpty
  | character :: rest => (after? part (character :: rest)).isSome || isWithin part rest

end CatalogSteward.Text
