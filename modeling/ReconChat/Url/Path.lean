import ReconChat.Url.Percent

/-!
Paths of URLs. A path is a list of segments between slashes; dot segments are resolved while it is
read. A drive letter (a letter with a colon or a bar) is never left by going up.
-/

namespace ReconChat.Url

/-- A slash, or where backslashes count as slashes, either. -/
def isSlash (special : Bool) (char : Char) : Bool := char = '/' || (special && char = '\\')

def splitSlashes (special : Bool) : List Char → List (List Char)
  | [] => [[]]
  | char :: rest =>
      if isSlash special char then [] :: splitSlashes special rest
      else
        match splitSlashes special rest with
        | [] => [[char]]
        | piece :: pieces => (char :: piece) :: pieces

/-- The dots of a segment, written as such or percent-encoded. -/
def plainDots : List Char → List Char
  | '%' :: '2' :: 'e' :: rest => '.' :: plainDots rest
  | '%' :: '2' :: 'E' :: rest => '.' :: plainDots rest
  | char :: rest => char :: plainDots rest
  | [] => []

def beginsWithDrive : List Char → Bool
  | letter :: mark :: rest =>
      letter.isAlpha && (mark = ':' || mark = '|') &&
        (match rest with
          | [] => true
          | next :: _ => next = '\\')
  | _ => false

def isDrive (segment : List Char) : Bool := segment.length = 2 && beginsWithDrive segment

def goUp : List (List Char) → List (List Char)
  | [] => []
  | last :: rest => if beginsWithDrive last then last :: rest else rest

/-- Adds segments to a path that is kept in reverse. One dot stays, two dots go up, and either
at the end leaves an empty segment. -/
def resolve : (done : List (List Char)) → List (List Char) → List (List Char)
  | done, [] => done.reverse
  | done, segment :: rest =>
      let dots := plainDots segment
      if dots = ['.', '.'] then
        resolve (if rest.isEmpty then [] :: goUp done else goUp done) rest
      else if dots = ['.'] then resolve (if rest.isEmpty then [] :: done else done) rest
      else resolve (encodeSet inPathSet segment :: done) rest

def segmentsBelow (special : Bool) (done : List (List Char)) (chars : List Char) :
    List (List Char) :=
  resolve done (splitSlashes special chars)

def segmentsOf (special : Bool) : List Char → List (List Char)
  | [] => segmentsBelow special [] []
  | char :: rest =>
      segmentsBelow special [] (if isSlash special char then rest else char :: rest)

/-- A file's path has no empty segments at its start. -/
def dropEmptyAhead : List (List Char) → List (List Char)
  | [] :: segment :: rest => dropEmptyAhead (segment :: rest)
  | segments => segments

def withDriveColon : List (List Char) → List (List Char)
  | [] => []
  | segment :: rest => (if isDrive segment then segment.take 1 ++ [':'] else segment) :: rest

/-- The segments of a file's path. Its drive letter is only looked for when no slash is left in
front of it. -/
def fileSegments (chars : List Char) : List (List Char) :=
  match chars with
  | [] => [[]]
  | char :: rest =>
      dropEmptyAhead
        (if isSlash true char then segmentsBelow true [] rest
        else resolve [] (withDriveColon (splitSlashes true (char :: rest))))

example : segmentsOf true "/a/./b/%2E./c".toList = ["a".toList, "c".toList] := by decide +kernel
example : segmentsOf true "/C:/../../x".toList = ["C:".toList, "x".toList] := by decide +kernel

end ReconChat.Url
