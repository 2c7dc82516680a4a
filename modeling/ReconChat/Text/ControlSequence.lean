import ReconChat.Text.Utf8

/-!
Text without what only a terminal makes use of: control sequences, and controls other than white
space. A sequence begins with an escape; which character ends it depends on its kind, and white
space or the next escape ends it early. The contents of a sequence are dropped with it.
-/

namespace ReconChat.Text.ControlSequence

inductive State where
  /-- Outside of every sequence. -/
  | outside
  /-- After the escape. -/
  | escape
  /-- In an escape with more than one character. -/
  | longEscape
  /-- In a sequence with parameters. -/
  | parameters
  /-- In the parameters of a string for the terminal. -/
  | stringHead
  /-- In a string for the terminal. -/
  | string
  /-- In a command for the system around the terminal. -/
  | command
deriving DecidableEq

def isEscape (char : Char) : Bool := char.toNat = 0x1B

/-- Controls that end every sequence and are no part of it. -/
def isCancel (char : Char) : Bool := char.toNat = 0x18 || char.toNat = 0x1A

def isControl (char : Char) : Bool := char.toNat < 0x20

def isKeptControl (char : Char) : Bool :=
  char = '\t' || char = '\n' || char = '\r' || char.toNat = 0x0C

def isBetween (low high : Nat) (char : Char) : Bool := low ≤ char.toNat && char.toNat ≤ high

def afterEscape (char : Char) : State :=
  if char = '[' then .parameters
  else if char = ']' then .command
  else if char = 'P' then .stringHead
  else if char = 'X' || char = '^' || char = '_' then .string
  else if isBetween 0x20 0x2F char then .longEscape
  else if isBetween 0x30 0x7E char then .outside
  else .escape

/-- Does the byte that ends a string occur in a character outside ASCII? -/
def holdsTerminator (char : Char) : Bool :=
  0x7F < char.toNat && (Utf8.encodeChar char).contains 0x9C

def next (state : State) (char : Char) : State :=
  if isEscape char then .escape
  else if isCancel char then .outside
  else
    match state with
    | .outside => .outside
    | .escape => afterEscape char
    | .longEscape => if isBetween 0x30 0x7E char then .outside else .longEscape
    | .parameters => if isBetween 0x40 0x7E char then .outside else .parameters
    | .stringHead => if isBetween 0x40 0x7E char then .string else .stringHead
    | .string => if holdsTerminator char then .outside else .string
    | .command => if char.toNat = 0x07 then .outside else .command

/-- Does a kept control end the sequence that it stands in? Not in the strings. -/
def breaksOff : State → Bool
  | .outside => true
  | .escape => true
  | .longEscape => true
  | .parameters => true
  | .stringHead => false
  | .string => false
  | .command => false

def dropFrom : State → List Char → List Char
  | _, [] => []
  | state, char :: rest =>
      if isKeptControl char && breaksOff state then char :: dropFrom .outside rest
      else if state = .outside && !isControl char && char.toNat ≠ 0x7F then
        char :: dropFrom .outside rest
      else dropFrom (next state char) rest

def drop (text : String) : String := String.ofList (dropFrom .outside text.toList)

example : drop "a\x07b \x1b[31mred\x1b[0m" = "ab red" := by decide +kernel
example : drop "\x1b]0;title\x07x\x7f" = "x" := by decide +kernel

end ReconChat.Text.ControlSequence
