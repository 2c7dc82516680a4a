import ReconChat.Url.Authority
import ReconChat.Url.Form

/-!
Reading URLs, on their own or relative to an address of the web. Controls and spaces around the
text, and tabs and line breaks inside it, do not count. A web address has a host, whatever the
number of slashes in front of it, and takes a backslash for a slash. The text is cut into its
parts before any part is looked into: a fragment starts at the first number sign, a query at the
first question mark before it.
-/

namespace ReconChat.Url

def clean (chars : List Char) : List Char :=
  let isOuter (char : Char) : Bool := char.toNat ≤ 0x20
  ((((chars.dropWhile isOuter).reverse.dropWhile isOuter).reverse).filter
    fun char => char != '\t' && char != '\n' && char != '\r')

def isSchemeChar (char : Char) : Bool := char.isAlphanum || char = '+' || char = '-' || char = '.'

def splitScheme (chars : List Char) : Option (String × List Char) :=
  match cut ':' chars with
  | (first :: rest, some after) =>
      if first.isAlpha && rest.all isSchemeChar then
        some (String.ofList ((first :: rest).map Char.toLower), after)
      else none
  | _ => none

structure Tail where
  query : Option (List Char)
  fragment : Option (List Char)
deriving DecidableEq

/-- Is there a query or a fragment, be it an empty one? -/
def Tail.isPresent (tail : Tail) : Bool := tail.query.isSome || tail.fragment.isSome

def Tail.encode (special : Bool) (tail : Tail) : Tail where
  query := tail.query.map (encodeSet (if special then inQuerySet else inPlainQuerySet))
  fragment := tail.fragment.map (encodeSet inFragmentSet)

def splitTail (chars : List Char) : List Char × Tail :=
  let (front, fragment) := cut '#' chars
  let (hierarchy, query) := cut '?' front
  (hierarchy, ⟨query, fragment⟩)

def atHost (scheme : String) (host : Option (List Char)) (path : UrlPath) (tail : Tail) : Url :=
  let written := tail.encode (isSpecial scheme)
  ⟨scheme, none, host, none, path, written.query, written.fragment⟩

/-- The segments after a host. Without a path, only a web address has an empty segment. -/
def segmentsAfterHost (special : Bool) (path : List Char) : List (List Char) :=
  if path.isEmpty && !special then [] else segmentsOf special path

def afterSlashes (scheme : String) (hierarchy : List Char) (tail : Tail) : Option Url := do
  let authority ← readAuthority scheme tail.isPresent hierarchy
  let path := UrlPath.segments (segmentsAfterHost (isWeb scheme) authority.path)
  some
    { atHost scheme (some authority.host) path tail with
      userinfo := authority.userinfo
      port := authority.port }

/-- Reads the host of a file and the path after it. This computer goes without a name, and a
drive letter is no host, nor does it have one. -/
def readFileHost (chars : List Char) : Option (List Char × List (List Char)) :=
  let host := chars.takeWhile (!isSlash true ·)
  let path := chars.drop host.length
  if isDrive host then some ([], fileSegments chars)
  else if host.isEmpty then some ([], fileSegments path)
  else do
    let name ← Host.read host
    if name = "localhost".toList then some ([], fileSegments path)
    else
      let inner := path.drop 1
      some (if isDrive (inner.takeWhile (!isSlash true ·)) then [] else name, fileSegments inner)

def afterFileScheme (hierarchy : List Char) (tail : Tail) : Option Url := do
  let (host, segments) ←
    match hierarchy with
    | first :: second :: rest =>
        if isSlash true first && isSlash true second then readFileHost rest
        else some ([], fileSegments hierarchy)
    | _ => some ([], fileSegments hierarchy)
  some (atHost "file" (some host) (.segments segments) tail)

def afterScheme (scheme : String) (rest : List Char) : Option Url :=
  let (hierarchy, tail) := splitTail rest
  if isWeb scheme then afterSlashes scheme (hierarchy.dropWhile (isSlash true)) tail
  else if scheme = "file" then afterFileScheme hierarchy tail
  else
    match hierarchy with
    | '/' :: '/' :: address => afterSlashes scheme address tail
    | '/' :: path => some (atHost scheme none (.segments (segmentsBelow false [] path)) tail)
    | text => some (atHost scheme none (.plain (encodeSet inControlSet text)) tail)

def parse (text : String) : Option Url := do
  let (scheme, rest) ← splitScheme (clean text.toList)
  afterScheme scheme rest

def segmentsAbove : UrlPath → List (List Char)
  | .segments segments => segments.dropLast.reverse
  | .plain _ => []

/-- Reads a reference without a scheme, relative to an address of the web. Two slashes are in
front of a host; any more of them are taken for a part of it, unless a backslash is among the
first two. -/
def relative (base : Url) (rest : List Char) : Option Url :=
  let (hierarchy, tail) := splitTail rest
  let written := tail.encode true
  let below (done : List (List Char)) (chars : List Char) : Url :=
    { base with
      path := .segments (segmentsBelow true done chars)
      query := written.query
      fragment := written.fragment }
  match hierarchy with
  | [] =>
      some
        { base with
          query := if tail.query.isSome then written.query else base.query
          fragment := written.fragment }
  | '/' :: '/' :: address => afterSlashes base.scheme address tail
  | first :: others =>
      if !isSlash true first then some (below (segmentsAbove base.path) hierarchy)
      else if others.head?.any (isSlash true) then
        afterSlashes base.scheme (others.dropWhile (isSlash true)) tail
      else some (below [] others)

def join (base : Url) (reference : String) : Option Url :=
  let chars := clean reference.toList
  match splitScheme chars with
  | none => relative base chars
  | some (scheme, rest) =>
      if scheme = base.scheme ∧ ((splitTail rest).1.takeWhile (isSlash true)).length < 2 then
        relative base rest
      else afterScheme scheme rest

/-- Adds named values to the query. A query that is empty afterwards is none. -/
def addPairs (url : Url) (pairs : List (String × String)) : Url :=
  let query := Form.appendPairs (url.query.getD []) pairs
  { url with query := if query.isEmpty then none else some query }

end ReconChat.Url
