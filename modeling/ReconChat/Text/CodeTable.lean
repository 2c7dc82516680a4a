/-!
Tables of code points, as pairs or written as text. A pair is the first and the last code point of a
range. A word of a written table is a code point or two with a hyphen between them, the first and
the last of a range, and may go on with an equals sign and the code points that belong to it, with
plus signs between them. All numbers are hexadecimal, in lower case. The words stand in increasing
order; blanks and line breaks part them.
-/

namespace ReconChat.Text

def liesIn (ranges : List (Nat × Nat)) (char : Char) : Bool :=
  ranges.any fun (first, last) => first ≤ char.toNat && char.toNat ≤ last

structure CodeRange where
  first : Nat
  last : Nat
  codes : List Nat
deriving DecidableEq

def pieces (isSeparator : Char → Bool) : List Char → List (List Char)
  | [] => [[]]
  | char :: rest =>
      if isSeparator char then [] :: pieces isSeparator rest
      else
        match pieces isSeparator rest with
        | [] => [[char]]
        | piece :: others => (char :: piece) :: others

def codeOfDigits (digits : List Char) : Nat :=
  digits.foldl
    (fun code char => code * 16 + if char.isDigit then char.toNat - 48 else char.toNat - 87) 0

namespace CodeRange

def ofWord (word : List Char) : CodeRange :=
  let range := (pieces (· == '-') (word.takeWhile (· != '='))).map codeOfDigits
  let codes := (word.dropWhile (· != '=')).drop 1
  { first := range.headD 0
    last := range.getLastD 0
    codes := if codes.isEmpty then [] else (pieces (· == '+') codes).map codeOfDigits }

def table (text : String) : List CodeRange :=
  ((pieces (fun char => char == ' ' || char == '\n') text.toList).filter (!·.isEmpty)).map ofWord

def find? (ranges : List CodeRange) (code : Nat) : Option CodeRange :=
  ranges.find? fun range => range.first ≤ code && code ≤ range.last

def covers (ranges : List CodeRange) (code : Nat) : Bool := (find? ranges code).isSome

/-- What belongs to one code point of a range, whose single code point runs along with it. -/
def codesAt (range : CodeRange) (code : Nat) : List Nat :=
  match range.codes with
  | [single] => [single + (code - range.first)]
  | codes => codes

example : table "41-5a=61  bc=31+2044+34\n ad" =
    [⟨0x41, 0x5A, [0x61]⟩, ⟨0xBC, 0xBC, [0x31, 0x2044, 0x34]⟩, ⟨0xAD, 0xAD, []⟩] := by decide

end CodeRange

end ReconChat.Text
