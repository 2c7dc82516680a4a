import ReconChat.Url.Basic
import ReconChat.Url.Host
import ReconChat.Url.Path

/-!
Who a URL addresses: user, host and port, between two slashes and the path. The user reaches to
the last at sign before the path and the host to the first colon outside brackets. A port ends at
a slash or a backslash in every scheme.
-/

namespace ReconChat.Url

/-- The text before and after the first of a character; `none` after it when it is not there. -/
def cut (mark : Char) (chars : List Char) : List Char × Option (List Char) :=
  (chars.takeWhile (· ≠ mark),
    match chars.dropWhile (· ≠ mark) with
    | [] => none
    | _ :: after => some after)

structure Authority where
  userinfo : Option (List Char)
  host : List Char
  port : Option Nat
  path : List Char

def splitUser (special : Bool) (chars : List Char) : Option (List Char) × List Char :=
  let region := chars.takeWhile (!isSlash special ·)
  match cut '@' region.reverse with
  | (after, some before) => (some before.reverse, after.reverse ++ chars.drop region.length)
  | (_, none) => (none, chars)

/-- User name and password as written; without either there is no user. -/
def encodeUser (chars : List Char) : Option (List Char) :=
  let (name, password) := cut ':' chars
  let encoded := encodeSet inUserinfoSet name
  match password with
  | none => if name.isEmpty then none else some encoded
  | some [] => if name.isEmpty then none else some encoded
  | some secret => some (encoded ++ ':' :: encodeSet inUserinfoSet secret)

/-- The host, and the text from a colon or slash after it on. -/
def splitHost (special : Bool) : (inBrackets : Bool) → List Char → List Char × List Char
  | _, [] => ([], [])
  | inBrackets, char :: rest =>
      if isSlash special char || (char = ':' && !inBrackets) then ([], char :: rest)
      else
        let within := if char = '[' then true else if char = ']' then false else inBrackets
        let (host, after) := splitHost special within rest
        (char :: host, after)

/-- The number of a port, `none` where it need not be written. No digits are a port too. -/
def portNumber (scheme : String) (digits : List Char) : Option (Option Nat) :=
  if digits.isEmpty then some none
  else
    (Host.numeral 10 digits).bind fun port =>
      if port ≤ 65535 then some (if defaultPort scheme = some port then none else some port)
      else none

def readPort (scheme : String) (chars : List Char) : Option (Option Nat × List Char) :=
  match chars with
  | ':' :: rest =>
      let path := rest.dropWhile Char.isDigit
      if path.head?.all (isSlash true) then
        (portNumber scheme (rest.takeWhile Char.isDigit)).map fun port => (port, path)
      else none
  | path => some (none, path)

/-- Does somebody without a name stand in front of nothing at all? -/
def isLoneAt (special tail : Bool) (user : Option (List Char)) (address : List Char) : Bool :=
  user = some [] &&
    (match address with
      | [] => tail
      | char :: _ => isSlash special char)

/-- Reads what follows the two slashes, up to the query or fragment. `tail` says whether there
is one. -/
def readAuthority (scheme : String) (tail : Bool) (chars : List Char) : Option Authority := do
  let special := isSpecial scheme
  let (user, address) := splitUser special chars
  if isLoneAt special tail user address then none
  else
    let (host, rest) := splitHost special false address
    let userinfo := user.bind encodeUser
    if host.isEmpty && (isWeb scheme || userinfo.isSome || rest.head? = some ':') then none
    else
      let written ← if special then Host.read host else Host.readPlain host
      let (port, path) ← readPort scheme rest
      some ⟨userinfo, written, port, path⟩

/-- A URL as it is asked for when its user is told apart from it. The user is told apart if the
name is text and either the name or a password that is text says something. -/
def withoutUser (url : Url) : Url :=
  let isText (chars : List Char) : Bool := (Text.Utf8.decode (percentDecode chars)).isSome
  match url.userinfo with
  | none => url
  | some info =>
      let (name, password) := cut ':' info
      if isText name && (!name.isEmpty || password.any isText) then { url with userinfo := none }
      else url

end ReconChat.Url
