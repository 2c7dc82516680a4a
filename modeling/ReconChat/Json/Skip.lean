import ReconChat.Json.Reader

/-!
Passing over a value that nobody asks for. It must be well-formed JSON, but its strings may
hold unpaired surrogates, its numbers may be of any size, and its nesting has no limit: the
open brackets are kept on a list.
-/

namespace ReconChat.Json

inductive Bracket where
  | list
  | object
deriving DecidableEq

def skipName (chars : List Char) : Except Fault (List Char) :=
  match dropSpace chars with
  | [] => failOn .endOfObject []
  | '"' :: rest =>
      match skipQuoted rest with
      | .error fault => .error fault
      | .ok (_, after) => readColon after
  | other => failOn .keyNotString other

def skipToValue (bracket : Bracket) (chars : List Char) : Except Fault (List Char) :=
  match bracket with
  | .list => .ok chars
  | .object => skipName chars

/-- What a step of skipping leaves: all done, a value to come, or the end of a value. -/
inductive Skipping where
  | done (rest : List Char)
  | value (opened : List Bracket) (chars : List Char)
  | ended (opened : List Bracket) (chars : List Char)

/-- The end of a value: nothing is open, or its bracket goes on. -/
def Skipping.settle (opened : List Bracket) (rest : List Char) : Skipping :=
  match opened with
  | [] => .done rest
  | opened => .ended opened rest

def openBracket (bracket : Bracket) (opened : List Bracket) (chars : List Char) :
    Except Fault Skipping :=
  match bracket, dropSpace chars with
  | .list, [] => failOn .endOfList []
  | .object, [] => failOn .endOfObject []
  | .list, ']' :: rest => .ok (.settle opened rest)
  | .object, '}' :: rest => .ok (.settle opened rest)
  | _, start => (skipToValue bracket start).map fun after => .value (bracket :: opened) after

def skipStart (opened : List Bracket) (chars : List Char) : Except Fault Skipping :=
  match dropSpace chars with
  | [] => failOn .endOfValue []
  | char :: rest =>
      if char = '[' then openBracket .list opened rest
      else if char = '{' then openBracket .object opened rest
      else
        let scalar : Result Unit :=
          if char = 'n' then readWord ['u', 'l', 'l'] rest
          else if char = 't' then readWord ['r', 'u', 'e'] rest
          else if char = 'f' then readWord ['a', 'l', 's', 'e'] rest
          else if char = '"' then skipQuoted rest
          else if char = '-' then skipNumber rest
          else if isDigit char then skipNumber (char :: rest)
          else failOn .expectedValue (char :: rest)
        scalar.map fun (_, after) => .settle opened after

def skipEnd (bracket : Bracket) (outer : List Bracket) (chars : List Char) :
    Except Fault Skipping :=
  match bracket, dropSpace chars with
  | .list, [] => failOn .endOfList []
  | .object, [] => failOn .endOfObject []
  | .list, ']' :: rest => .ok (.settle outer rest)
  | .object, '}' :: rest => .ok (.settle outer rest)
  | _, ',' :: rest => (skipToValue bracket rest).map fun after => .value (bracket :: outer) after
  | .list, other => failOn .expectedListComma other
  | .object, other => failOn .expectedObjectComma other

/-- Runs the steps. The clock is the text at the start, since every step takes a character. -/
def skipSteps : (clock : List Char) → Skipping → Result Unit
  | _, .done rest => .ok ((), rest)
  | [], _ => failAt .endOfValue []
  | _ :: clock, .value opened chars =>
      match skipStart opened chars with
      | .error fault => .error fault
      | .ok next => skipSteps clock next
  | _ :: _, .ended [] rest => .ok ((), rest)
  | _ :: clock, .ended (bracket :: outer) chars =>
      match skipEnd bracket outer chars with
      | .error fault => .error fault
      | .ok next => skipSteps clock next

def skipValue (chars : List Char) : Result Unit := skipSteps (' ' :: chars) (.value [] chars)

end ReconChat.Json
