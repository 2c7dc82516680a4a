import ReconChat.Text.Utf8

/-!
Targets of requests: an address with a scheme, a bare authority, or a path. They are stricter than
URLs in the characters of an authority and say nothing about fragments, which are dropped. A
scheme counts only in front of two slashes.
-/

namespace ReconChat.Http

/-- The parts of a target as written. Without an authority there is only a path. -/
structure Target where
  scheme : Option (List Char)
  authority : List Char
  path : List Char
  query : Option (List Char)
deriving DecidableEq

namespace Target

def sizeLimit : Nat := 65534

def schemeLimit : Nat := 64

def isSchemeChar (char : Char) : Bool := char.isAlphanum || char = '+' || char = '-' || char = '.'

def isAuthorityChar (char : Char) : Bool :=
  char.isAlphanum || "!$&'()*+,-.:;=@[]_~".toList.contains char

/-- Everything printable but `#<>?` and the grave accent, spaces apart; what lies outside ASCII
may stand there as it is. -/
def isPathChar (char : Char) : Bool :=
  char = '!' || char = '"' || (0x24 ≤ char.toNat && char != '<' && char != '>' && char != '?' &&
    char != '`')

def isQueryChar (char : Char) : Bool :=
  char = '!' || (0x24 ≤ char.toNat && char != '<' && char != '>')

/-- What has been seen of an authority: colons and percent signs that may still turn out to be
part of a user or a bracketed address, and the brackets. -/
structure Seen where
  colons : Nat
  percent : Bool
  opened : Bool
  closed : Bool
  endsInAt : Bool

namespace Seen

def nothing : Seen := ⟨0, false, false, false, false⟩

def take (seen : Seen) (char : Char) : Option Seen :=
  let next := { seen with endsInAt := false }
  if char = ':' then if seen.colons < 8 then some { next with colons := seen.colons + 1 } else none
  else if char = '[' then
    if seen.percent || seen.opened then none else some { next with opened := true }
  else if char = ']' then
    if !seen.opened || seen.closed then none
    else some { next with closed := true, colons := 0, percent := false }
  else if char = '@' then some { next with colons := 0, percent := false, endsInAt := true }
  else if char = '%' then some { next with percent := true }
  else if isAuthorityChar char then some next
  else none

/-- May the authority end here? At most one colon is in front of a port. -/
def isComplete (seen : Seen) : Bool :=
  seen.opened = seen.closed && seen.colons ≤ 1 && !seen.endsInAt && !seen.percent

end Seen

def isAuthority (chars : List Char) : Bool :=
  match chars.foldlM Seen.take Seen.nothing with
  | some seen => seen.isComplete
  | none => false

/-- The scheme and the text after its two slashes, if there is a scheme; `none` if it is too
long. -/
def splitScheme (chars : List Char) : Option (Option (List Char) × List Char) :=
  let scheme := chars.takeWhile isSchemeChar
  match chars.dropWhile isSchemeChar with
  | ':' :: '/' :: '/' :: rest =>
      if schemeLimit < scheme.length then none else some (some scheme, rest)
  | _ => some (none, chars)

def readPath (scheme : Option (List Char)) (authority chars : List Char) : Option Target :=
  let kept := chars.takeWhile (· ≠ '#')
  let path := kept.takeWhile (· ≠ '?')
  let query := (kept.dropWhile (· ≠ '?')).tail?
  if path.all isPathChar && query.all (·.all isQueryChar) then
    some ⟨scheme, authority, path, query⟩
  else none

def takeAuthority (chars : List Char) : List Char :=
  chars.takeWhile fun char => char != '/' && char != '?' && char != '#'

def readFull (chars : List Char) : Option Target := do
  let (scheme, rest) ← splitScheme chars
  let authority := takeAuthority rest
  let after := rest.drop authority.length
  if !isAuthority authority then none
  else
    match scheme with
    | none => if after.isEmpty then some ⟨none, authority, [], none⟩ else none
    | some scheme =>
        if authority.isEmpty then none else readPath (some scheme) authority after

def parse (chars : List Char) : Option Target :=
  if sizeLimit < Text.Utf8.size chars then none
  else
    match chars with
    | [] => none
    | ['*'] => some ⟨none, [], ['*'], none⟩
    | '/' :: _ => readPath none [] chars
    | _ => readFull chars

/-- The path, which is a slash where only an authority with a scheme is given. -/
def pathChars (target : Target) : List Char :=
  if target.path.isEmpty && target.scheme.isSome then ['/'] else target.path

def toChars (target : Target) : List Char :=
  (match target.scheme with
    | some scheme => scheme ++ "://".toList
    | none => []) ++ target.authority ++ target.pathChars ++
  (match target.query with
    | some query => '?' :: query
    | none => [])

example : (parse "foo://h?q#f".toList).map toChars = some "foo://h/?q".toList := by decide +kernel
example : (parse "mailto:x".toList).map toChars = some "mailto:x".toList := by decide +kernel
example : parse "mailto:/x".toList = none := by decide +kernel

end Target

end ReconChat.Http
