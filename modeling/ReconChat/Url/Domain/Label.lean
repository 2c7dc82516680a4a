import ReconChat.Text.Composed
import ReconChat.Text.Direction
import ReconChat.Text.Joining
import ReconChat.Text.Punycode
import ReconChat.Url.Domain.Mapping

/-!
Labels, the parts of a domain between its dots. A label outside ASCII is written in Punycode after
a fixed opening; one that starts with the opening is read, and has to be what would be written. A
label may not start with a mark, a joiner needs letters that it joins, and the directions of the
characters of a label have to fit together.
-/

namespace ReconChat.Url.Domain

open Text (Direction)

abbrev Label := List Char

def opening : List Char := "xn--".toList

/-- No longer text is written in Punycode, and no longer code is read. -/
def longestText : Nat := 1000

def longestCode : Nat := 2000

namespace Label

def isAscii (label : Label) : Bool := label.all Text.Punycode.isAscii

def endsJoined (before : List Char) : Bool :=
  ((before.dropWhile Text.isTransparent).head?.map Text.joinsNext).getD false

def startsJoined (after : List Char) : Bool :=
  ((after.dropWhile Text.isTransparent).head?.map Text.joinsPrevious).getD false

/-- Is every joiner in place? It may follow a sign that takes a vowel away; one that keeps letters
apart may also stand between letters that would be joined. The characters so far are given in
reverse. -/
def joinersFit (before : List Char) : List Char → Bool
  | [] => true
  | char :: rest =>
      let followsVirama := before.head?.any fun last =>
        Text.combiningClass last = Text.viramaClass
      let fits :=
        if char = '\u200c' then followsVirama || (endsJoined before && startsJoined rest)
        else if char = '\u200d' then followsVirama
        else true
      fits && joinersFit (char :: before) rest

/-- Does a label that is not empty fit its own direction, which its first character gives? It ends
with a letter of that direction or a number, apart from marks, and one that runs from right to
left does not mix the two kinds of numbers. -/
def directionsFit (label : Label) : Bool :=
  let directions := label.map Text.direction
  let last := (directions.reverse.dropWhile (· == .nonspacing)).head?
  match directions.head? with
  | none => true
  | some .leftToRight =>
      directions.all (fun each => each != .rightToLeft && each != .arabicNumber) &&
        (last == some .leftToRight || last == some .europeanNumber)
  | some .rightToLeft =>
      directions.all (· != .leftToRight) && last != some .neutral &&
        !(directions.contains .arabicNumber && directions.contains .europeanNumber)
  | some _ => false

def runsBack (label : Label) : Bool :=
  label.any fun char =>
    let direction := Text.direction char
    direction == .rightToLeft || direction == .arabicNumber

/-- May a label that is not in ASCII be part of a domain? -/
def isSound (label : Label) : Bool :=
  !label.head?.any Text.isMark && joinersFit [] label && label.length ≤ longestText

/-- May a code stand for a label? Its characters stay as they are, it is in composed form, it is not
in ASCII, and it does not start like a code itself. -/
def isSettled (label : Label) : Bool :=
  label.all (fun char => map? char = some [char]) && Text.composed label = label &&
    !isAscii label && !opening.isPrefixOf label

def ofText? (text : List Char) : Option Label :=
  if opening.isPrefixOf text then
    let code := text.drop opening.length
    if longestCode < code.length then none
    else (Text.Punycode.decode code).filter fun label => isSettled label && isSound label
  else if isAscii text || isSound text then some text
  else none

def encode (label : Label) : List Char :=
  if isAscii label then label else opening ++ Text.Punycode.encode label

end Label

end ReconChat.Url.Domain
