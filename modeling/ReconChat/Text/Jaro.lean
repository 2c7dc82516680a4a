/-!
The Jaro similarity of two texts, from zero for nothing in common to one for equal texts. Two
characters match when they are equal and their places differ by less than half the longer text;
each character is matched at most once, with the first that is left. Matched characters that
stand in another order count against the similarity. It is computed in binary64, in the order in
which it is written here.
-/

namespace ReconChat.Text.Jaro

abbrev Marked := List (Char × Bool)

/-- Matches a character with the first free equal one between two places. -/
def matchOne (char : Char) : (first last : Nat) → Marked → Option Marked
  | _, 0, _ => none
  | _, _, [] => none
  | 0, last + 1, (other, taken) :: rest =>
      if other = char && !taken then some ((other, true) :: rest)
      else (matchOne char 0 last rest).map ((other, taken) :: ·)
  | first + 1, last + 1, entry :: rest => (matchOne char first last rest).map (entry :: ·)

/-- Matches the characters of a text from a place on, and gives those that were matched. -/
def matchAll (reach : Nat) : (place : Nat) → List Char → Marked → List Char × Marked
  | _, [], marked => ([], marked)
  | place, char :: rest, marked =>
      match matchOne char (place - reach) (place + reach + 1) marked with
      | none => matchAll reach (place + 1) rest marked
      | some next =>
          let (others, final) := matchAll reach (place + 1) rest next
          (char :: others, final)

def differences (first second : List Char) : Nat :=
  ((first.zip second).filter fun (one, other) => one ≠ other).length

def similarity (first second : List Char) : Float :=
  let reach := max first.length second.length / 2 - 1
  let (matched, marked) := matchAll reach 0 first (second.map fun char => (char, false))
  let count := matched.length
  let swaps := differences matched ((marked.filter (·.2)).map (·.1)) / 2
  if first.isEmpty && second.isEmpty then 1
  else if count = 0 then 0
  else
    (count.toFloat / first.length.toFloat + count.toFloat / second.length.toFloat +
      (count - swaps).toFloat / count.toFloat) / 3

end ReconChat.Text.Jaro
