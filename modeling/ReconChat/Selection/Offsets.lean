import ReconChat.Selection.Span

/-!
The first object in free text, cut out in place. A count of the open braces and two flags are kept
from one character to the next, offsets are counted in bytes, and the object is what lies between
two of them. It is a fault to close a brace where none is open, and to cut a text anywhere but
between two characters.
-/

namespace ReconChat.Selection

inductive ScanFault where
  | nothingOpen
  | badCut
deriving DecidableEq

structure Registers where
  depth : Nat
  inString : Bool
  escaped : Bool
deriving DecidableEq

namespace Registers

def start : Registers := ⟨0, false, false⟩

/-- The registers behind a character, `none` behind the one that closes the object. -/
def turn (registers : Registers) (char : Char) : Except ScanFault (Option Registers) :=
  if registers.inString then
    if registers.escaped then .ok (some { registers with escaped := false })
    else if char = '\\' then .ok (some { registers with escaped := true })
    else if char = '"' then .ok (some { registers with inString := false })
    else .ok (some registers)
  else if char = '"' then .ok (some { registers with inString := true })
  else if char = '{' then .ok (some { registers with depth := registers.depth + 1 })
  else if char = '}' then
    match registers.depth with
    | 0 => .error .nothingOpen
    | depth + 1 => .ok (if depth = 0 then none else some { registers with depth })
  else .ok (some registers)

end Registers

def cut (text : String) (start stop : Nat) : Except ScanFault String :=
  if start ≤ stop ∧ String.Pos.Raw.IsValid text ⟨start⟩ ∧ String.Pos.Raw.IsValid text ⟨stop⟩ then
    .ok (String.Pos.Raw.extract text ⟨start⟩ ⟨stop⟩)
  else .error .badCut

def openingOffset (offset : Nat) : List Char → Option Nat
  | [] => none
  | char :: rest =>
      if char = '{' then some offset else openingOffset (offset + char.utf8Size) rest

def closingOffset (registers : Registers) (offset : Nat) :
    List Char → Except ScanFault (Option Nat)
  | [] => .ok none
  | char :: rest =>
      match registers.turn char with
      | .error fault => .error fault
      | .ok none => .ok (some (offset + char.utf8Size))
      | .ok (some next) => closingOffset next (offset + char.utf8Size) rest

/-- The offsets of the first object, if its braces close. -/
def objectOffsets (text : String) : Except ScanFault (Option (Nat × Nat)) :=
  match openingOffset 0 text.toList with
  | none => .ok none
  | some start => do
      let tail ← cut text start text.utf8ByteSize
      let length ← closingOffset .start 0 tail.toList
      return length.map fun length => (start, start + length)

def firstObjectInPlace (text : String) : Except ScanFault (Option String) := do
  match ← objectOffsets text with
  | none => return none
  | some (start, stop) => return some (← cut text start stop)

end ReconChat.Selection
