import ReconChat.Text.CombiningClass
import ReconChat.Text.Decomposition

/-!
Composed text, one form for all ways to write the same characters. The text is decomposed, the
marks that belong to one character are put in the order of their classes, and then each character
takes in the marks that have a composite with it. A mark is out of reach if one of the same or a
higher class is left in front of it.
-/

namespace ReconChat.Text

/-- Puts a mark in front of text whose marks are in order, behind the marks of lower classes. -/
def insertMark (mark : Char) : List Char → List Char
  | [] => [mark]
  | next :: rest =>
      if combiningClass next ≠ 0 ∧ combiningClass next < combiningClass mark then
        next :: insertMark mark rest
      else mark :: next :: rest

def orderMarks (chars : List Char) : List Char :=
  chars.foldr
    (fun char rest => if combiningClass char = 0 then char :: rest else insertMark char rest) []

def decomposed (chars : List Char) : List Char :=
  orderMarks (chars.flatMap fun char => (decomposition char.toNat).map Char.ofNat)

def compositeAcross? (base : Char) (between : List Char) (char : Char) : Option Char :=
  if between.head?.any fun mark => combiningClass char ≤ combiningClass mark then none
  else (composite? base.toNat char.toNat).map Char.ofNat

/-- Composes text after a base character and the marks it has not taken in, given in reverse. -/
def composeAfter (base : Char) (between : List Char) : List Char → List Char
  | [] => base :: between.reverse
  | char :: rest =>
      match compositeAcross? base between char with
      | some composite => composeAfter composite between rest
      | none =>
          if combiningClass char = 0 then base :: between.reverse ++ composeAfter char [] rest
          else composeAfter base (char :: between) rest

/-- Composes a decomposed text, in which marks without a base come first. -/
def composeMarked : List Char → List Char
  | [] => []
  | char :: rest =>
      if combiningClass char = 0 then composeAfter char [] rest else char :: composeMarked rest

def composed (chars : List Char) : List Char := composeMarked (decomposed chars)

end ReconChat.Text
