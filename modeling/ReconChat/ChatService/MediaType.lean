/-!
Is a content type one of JSON? It is when type and subtype are `application/json`, or when the
subtype ends in `+json` with something in front of the plus sign. Letters count in either case.
Parameters do not matter but must be well-formed; a space may stand in front of a parameter's
name and behind a quoted value, and nowhere else.
-/

namespace ReconChat.ChatService.MediaType

def isToken (char : Char) : Bool := char.isAlphanum || "!#$%&'*+-.^_`|~".toList.contains char

def isQuotable (char : Char) : Bool := 0x20 ≤ char.toNat && char.toNat < 0x7F

/-- A quoted value after its opening mark, and what follows its closing mark. The first character
of the value is never taken for a closing mark. -/
def afterQuoted : List Char → Option (List Char)
  | [] => none
  | first :: rest =>
      let inside := rest.takeWhile fun char => isQuotable char && char != '"'
      match isQuotable first, rest.drop inside.length with
      | true, '"' :: after => some (after.dropWhile (· = ' '))
      | _, _ => none

/-- Are these parameters well-formed? The text starts after a semicolon; the clock is the text
with one more character. -/
def areParameters : (clock chars : List Char) → Bool
  | [], _ => false
  | _ :: clock, chars =>
      let start := chars.dropWhile (· = ' ')
      if start.isEmpty then true
      else
        match start.takeWhile isToken, start.dropWhile isToken with
        | _ :: _, '=' :: '"' :: value =>
            match afterQuoted value with
            | some [] => true
            | some (';' :: rest) => areParameters clock rest
            | _ => false
        | _ :: _, '=' :: value =>
            match value.takeWhile isToken, value.dropWhile isToken with
            | _, [] => true
            | _ :: _, ';' :: rest => areParameters clock rest
            | _, _ => false
        | _, _ => false

/-- Is this subtype one of JSON? Of several plus signs the last one counts, and one in front of
everything is no separator. -/
def isJsonSubtype (subtype : List Char) : Bool :=
  match subtype with
  | [] => false
  | first :: rest =>
      if rest.contains '+' then
        let suffix := (rest.reverse.takeWhile (· ≠ '+')).reverse
        let base := first :: rest.take (rest.length - suffix.length - 1)
        suffix = "json".toList || base = "json".toList
      else subtype = "json".toList

def endsWell : List Char → Bool
  | [] => true
  | ';' :: parameters => areParameters (' ' :: parameters) parameters
  | _ => false

def isJson (text : String) : Bool :=
  let chars := text.toList.map Char.toLower
  match chars.dropWhile isToken with
  | '/' :: rest =>
      chars.takeWhile isToken = "application".toList && isJsonSubtype (rest.takeWhile isToken) &&
        endsWell (rest.dropWhile isToken)
  | _ => false

example : isJson "application/json; charset=utf-8" = true := by decide +kernel
example : isJson "APPLICATION/vnd.api+JSON;" = true := by decide +kernel
example : isJson "application/+json" = false := by decide +kernel
example : isJson "application/json ;charset=latin1" = false := by decide +kernel

end ReconChat.ChatService.MediaType
