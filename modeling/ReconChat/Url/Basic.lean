/-!
URLs as structures, and their one written form. The path is a list of segments, or a plain text
for schemes without a hierarchy. Every part is held as it is written, percent-encoding included.
-/

namespace ReconChat

inductive UrlPath where
  | segments (segments : List (List Char))
  | plain (text : List Char)
deriving DecidableEq

structure Url where
  scheme : String
  /-- The user name and password as written, without the at sign. -/
  userinfo : Option (List Char)
  host : Option (List Char)
  port : Option Nat
  path : UrlPath
  query : Option (List Char)
  fragment : Option (List Char)
deriving DecidableEq

namespace Url

def defaultPort (scheme : String) : Option Nat :=
  if scheme = "http" ∨ scheme = "ws" then some 80
  else if scheme = "https" ∨ scheme = "wss" then some 443
  else if scheme = "ftp" then some 21
  else none

/-- Schemes whose addresses always have a host. -/
def isWeb (scheme : String) : Bool := (defaultPort scheme).isSome

/-- Schemes for which a backslash is a slash: the schemes of the web, and files. -/
def isSpecial (scheme : String) : Bool := isWeb scheme || scheme = "file"

def pathChars : UrlPath → List Char
  | .segments segments => segments.flatMap fun segment => '/' :: segment
  | .plain text => text

def authorityChars (url : Url) : List Char :=
  match url.host with
  | none => []
  | some host =>
      '/' :: '/' ::
        ((match url.userinfo with
          | some info => info ++ ['@']
          | none => []) ++ host ++
        (match url.port with
          | some port => ':' :: Nat.toDigits 10 port
          | none => []))

def marked (mark : Char) : Option (List Char) → List Char
  | some text => mark :: text
  | none => []

/-- A path that would read as a host gets a dot segment in front. -/
def pathGuard (url : Url) : List Char :=
  match url.host, url.path with
  | none, .segments ([] :: _ :: _) => ['/', '.']
  | _, _ => []

def toChars (url : Url) : List Char :=
  url.scheme.toList ++ ':' :: (authorityChars url ++ pathGuard url ++ pathChars url.path ++
    marked '?' url.query ++ marked '#' url.fragment)

def toText (url : Url) : String := String.ofList url.toChars

def hasHost (url : Url) : Bool :=
  match url.host with
  | some host => !host.isEmpty
  | none => false

def withoutFragment (url : Url) : Url := { url with fragment := none }

end Url

end ReconChat
