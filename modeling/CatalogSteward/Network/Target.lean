import CatalogSteward.Text.Split

/-!
# Targets of requests

What a request is sent for: a path with a query, the same behind a scheme and
an authority, an authority alone, or a star. Only the path matters; the rest is
read to tell what is a target and what is none.
-/

set_option autoImplicit false

namespace CatalogSteward.Network

def isPathCharacter (character : Char) : Bool :=
  0x20 < character.toNat && !"#<>?\x60".toList.contains character

def isQueryCharacter (character : Char) : Bool :=
  0x20 < character.toNat && !"\"#<>".toList.contains character

/-- The path that a text without scheme and authority begins with, if it is a path with a
query. -/
def localPath? (text : List Char) : Option String :=
  let path := text.takeWhile isPathCharacter
  let isTarget :=
    match text.dropWhile isPathCharacter with
    | '?' :: query =>
        match query.dropWhile isQueryCharacter with
        | [] => true
        | character :: _ => character = '#'
    | character :: _ => character = '#'
    | [] => true
  if isTarget then some (String.ofList path) else none

def endsAuthority (character : Char) : Bool :=
  character = '/' || character = '?' || character = '#'

def isAuthorityCharacter (character : Char) : Bool :=
  character.isAlphanum || "!$&'()*+,-.:;=@[]_~%".toList.contains character

/-- What was seen of an authority: the colons and percent signs that no bracket and no user
closed, and the brackets. -/
structure AuthoritySight where
  colons : Nat
  percent : Bool
  opened : Bool
  closed : Bool
  deriving DecidableEq, Repr

def AuthoritySight.next? (sight : AuthoritySight) (character : Char) : Option AuthoritySight :=
  if !isAuthorityCharacter character then none
  else if character = ':' then
    if 8 ≤ sight.colons then none else some { sight with colons := sight.colons + 1 }
  else if character = '%' then some { sight with percent := true }
  else if character = '@' then some { sight with colons := 0, percent := false }
  else if character = '[' then
    if sight.percent || sight.opened then none else some { sight with opened := true }
  else if character = ']' then
    if !sight.opened || sight.closed then none
    else some { sight with colons := 0, percent := false, closed := true }
  else some sight

def isAuthority (text : List Char) : Bool :=
  match text.foldlM AuthoritySight.next? ⟨0, false, false, false⟩ with
  | some sight =>
      sight.opened == sight.closed && sight.colons ≤ 1 && !sight.percent &&
        text.getLast? != some '@'
  | none => false

def isSchemeCharacter (character : Char) : Bool :=
  character.isAlphanum || "+-.".toList.contains character

def afterScheme? (text : List Char) : Option (List Char) :=
  let scheme := text.takeWhile isSchemeCharacter
  if text.length ≤ 3 || 64 < scheme.length then none
  else Text.after? "://".toList (text.drop scheme.length)

def targetPath? (target : String) : Option String :=
  match target.toList with
  | [] => none
  | ['*'] => some "*"
  | '/' :: rest => localPath? ('/' :: rest)
  | text =>
      let begin? := afterScheme? text
      let text := begin?.getD text
      let authority := text.takeWhile fun character => !endsAuthority character
      let rest := text.dropWhile fun character => !endsAuthority character
      if !isAuthority authority then none
      else if begin?.isSome then
        if authority.isEmpty then none
        else
          (localPath? rest).map fun path => if path.isEmpty then "/" else path
      else if rest.isEmpty then some ""
      else none

def isMethod (method : String) : Bool :=
  !method.isEmpty &&
    method.toList.all fun character =>
      character.isAlphanum || "!#$%&'*+-.^_|~\x60".toList.contains character

end CatalogSteward.Network
