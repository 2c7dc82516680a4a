import ReconChat.Json.Fault

/-!
JSON strings, written and read. Writing escapes the quotation mark, the backslash and the
characters below U+0020 and leaves everything else as it is. Reading starts after the opening
quotation mark and gives the text up to the closing one; raw control characters, unknown
escapes and unpaired surrogates are faults. `skipQuoted` passes over a string without
asking whether its surrogates are paired.
-/

namespace ReconChat.Json

def hexDigit (digit : Nat) : Char :=
  if digit < 10 then Char.ofNat (48 + digit) else Char.ofNat (87 + digit)

def escapeChar (char : Char) : List Char :=
  if char = '"' then ['\\', '"']
  else if char = '\\' then ['\\', '\\']
  else if char = '\n' then ['\\', 'n']
  else if char = '\r' then ['\\', 'r']
  else if char = '\t' then ['\\', 't']
  else if char.toNat = 0x08 then ['\\', 'b']
  else if char.toNat = 0x0C then ['\\', 'f']
  else if char.toNat < 0x20 then
    ['\\', 'u', '0', '0', hexDigit (char.toNat / 16), hexDigit (char.toNat % 16)]
  else [char]

def writeQuoted (text : String) (tail : List Char) : List Char :=
  '"' :: (text.toList.flatMap escapeChar ++ '"' :: tail)

def hexValue (char : Char) : Option Nat :=
  if '0' ≤ char ∧ char ≤ '9' then some (char.toNat - 48)
  else if 'a' ≤ char ∧ char ≤ 'f' then some (char.toNat - 87)
  else if 'A' ≤ char ∧ char ≤ 'F' then some (char.toNat - 55)
  else none

def hexQuad (first second third fourth : Char) : Option Nat := do
  let a ← hexValue first
  let b ← hexValue second
  let c ← hexValue third
  let d ← hexValue fourth
  some (((a * 16 + b) * 16 + c) * 16 + d)

/-- The fault of an escape whose four digits are not there: the text is too short, or its next
four bytes are something else. -/
def hexFault (digits : List Char) : Fault :=
  if Text.Utf8.size (digits.take 4) < 4 then ⟨.endOfString, [], 0⟩
  else ⟨.invalidEscape, digits, 4⟩

def plainEscape (letter : Char) : Option Char :=
  if letter = '"' then some '"'
  else if letter = '\\' then some '\\'
  else if letter = '/' then some '/'
  else if letter = 'b' then some (Char.ofNat 0x08)
  else if letter = 'f' then some (Char.ofNat 0x0C)
  else if letter = 'n' then some '\n'
  else if letter = 'r' then some '\r'
  else if letter = 't' then some '\t'
  else none

def isHighSurrogate (unit : Nat) : Bool := 0xD800 ≤ unit && unit ≤ 0xDBFF

def isLowSurrogate (unit : Nat) : Bool := 0xDC00 ≤ unit && unit ≤ 0xDFFF

def surrogatePair (high low : Nat) : Char :=
  Char.ofNat ((high - 0xD800) * 0x400 + (low - 0xDC00) + 0x10000)

/-- Reads a string whose opening quotation mark has been read. The characters already read
are kept in reverse. -/
def readQuoted : List Char → (done : List Char) → Result String
  | [], _ => failAt .endOfString []
  | char :: rest, done =>
      if char = '"' then .ok (String.ofList done.reverse, rest)
      else if char.toNat < 0x20 then failAt .controlCharacter rest
      else if char ≠ '\\' then readQuoted rest (char :: done)
      else
        match rest with
        | [] => failAt .endOfString []
        | 'u' :: digits =>
            match digits with
            | a :: b :: c :: d :: afterUnit =>
                match hexQuad a b c d with
                | none => .error (hexFault digits)
                | some unit =>
                    if isLowSurrogate unit then failAt .loneSurrogate afterUnit
                    else if isHighSurrogate unit then
                      match afterUnit with
                      | [] => failAt .endOfString []
                      | '\\' :: afterSlash =>
                          match afterSlash with
                          | [] => failAt .endOfString []
                          | 'u' :: lowDigits =>
                              match lowDigits with
                              | e :: f :: g :: h :: afterPair =>
                                  match hexQuad e f g h with
                                  | none => .error (hexFault lowDigits)
                                  | some low =>
                                      if isLowSurrogate low then
                                        readQuoted afterPair (surrogatePair unit low :: done)
                                      else failAt .loneSurrogate afterPair
                              | _ => .error (hexFault lowDigits)
                          | _ => failOn .unfinishedSurrogate afterSlash
                      | _ => failOn .unfinishedSurrogate afterUnit
                    else readQuoted afterUnit (Char.ofNat unit :: done)
            | _ => .error (hexFault digits)
        | letter :: afterLetter =>
            match plainEscape letter with
            | some meant => readQuoted afterLetter (meant :: done)
            | none => failOn .invalidEscape rest

def skipQuoted : List Char → Result Unit
  | [] => failAt .endOfString []
  | char :: rest =>
      if char = '"' then .ok ((), rest)
      else if char.toNat < 0x20 then failAt .controlCharacter rest
      else if char ≠ '\\' then skipQuoted rest
      else
        match rest with
        | [] => failAt .endOfString []
        | 'u' :: digits =>
            match digits with
            | a :: b :: c :: d :: afterUnit =>
                match hexQuad a b c d with
                | none => .error (hexFault digits)
                | some _ => skipQuoted afterUnit
            | _ => .error (hexFault digits)
        | letter :: afterLetter =>
            match plainEscape letter with
            | some _ => skipQuoted afterLetter
            | none => failOn .invalidEscape rest

end ReconChat.Json
