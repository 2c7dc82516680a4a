/-!
Text as bytes. `encode` writes each character in one to four bytes. `decode` accepts exactly
what `encode` writes; `decodeLossy` accepts every byte sequence and puts one replacement
character in place of each longest run that begins a character without completing it.
-/

namespace ReconChat.Text.Utf8

def encodeChar (char : Char) : List UInt8 :=
  let code := char.toNat
  if code < 0x80 then [code.toUInt8]
  else if code < 0x800 then [(0xC0 + code / 0x40).toUInt8, (0x80 + code % 0x40).toUInt8]
  else if code < 0x10000 then
    [(0xE0 + code / 0x1000).toUInt8, (0x80 + code / 0x40 % 0x40).toUInt8,
      (0x80 + code % 0x40).toUInt8]
  else
    [(0xF0 + code / 0x40000).toUInt8, (0x80 + code / 0x1000 % 0x40).toUInt8,
      (0x80 + code / 0x40 % 0x40).toUInt8, (0x80 + code % 0x40).toUInt8]

def encodeChars (chars : List Char) : List UInt8 := chars.flatMap encodeChar

def encode (text : String) : List UInt8 := encodeChars text.toList

def size (chars : List Char) : Nat := chars.foldl (fun total char => total + char.utf8Size) 0

def isContinuation (byte : UInt8) : Bool := 0x80 ≤ byte && byte ≤ 0xBF

/-- The second byte of a character is bounded by the first: no overlong forms, no surrogates,
nothing above U+10FFFF. -/
def isSecond (first second : UInt8) : Bool :=
  if first = 0xE0 then 0xA0 ≤ second && second ≤ 0xBF
  else if first = 0xED then 0x80 ≤ second && second ≤ 0x9F
  else if first = 0xF0 then 0x90 ≤ second && second ≤ 0xBF
  else if first = 0xF4 then 0x80 ≤ second && second ≤ 0x8F
  else isContinuation second

/-- What the bytes begin with: a whole character, or a run of stray bytes. -/
inductive Step where
  | char (char : Char) (rest : List UInt8)
  | stray (bytes : List UInt8) (rest : List UInt8)

def low (byte : UInt8) : Nat := byte.toNat % 0x40

/-- Reads one character, or the longest run that starts one and breaks off. -/
def step (first : UInt8) (rest : List UInt8) : Step :=
  if first < 0x80 then .char (Char.ofNat first.toNat) rest
  else if first < 0xC2 then .stray [first] rest
  else if first < 0xE0 then
    match rest with
    | second :: rest' =>
        if isSecond first second then
          .char (Char.ofNat (first.toNat % 0x20 * 0x40 + low second)) rest'
        else .stray [first] rest
    | [] => .stray [first] []
  else if first < 0xF0 then
    match rest with
    | second :: rest' =>
        if isSecond first second then
          match rest' with
          | third :: rest'' =>
              if isContinuation third then
                .char (Char.ofNat (first.toNat % 0x10 * 0x1000 + low second * 0x40 + low third))
                  rest''
              else .stray [first, second] rest'
          | [] => .stray [first, second] []
        else .stray [first] rest
    | [] => .stray [first] []
  else if first < 0xF5 then
    match rest with
    | second :: rest' =>
        if isSecond first second then
          match rest' with
          | third :: rest'' =>
              if isContinuation third then
                match rest'' with
                | fourth :: rest''' =>
                    if isContinuation fourth then
                      .char (Char.ofNat (first.toNat % 0x08 * 0x40000 + low second * 0x1000 +
                        low third * 0x40 + low fourth)) rest'''
                    else .stray [first, second, third] rest''
                | [] => .stray [first, second, third] []
              else .stray [first, second] rest'
          | [] => .stray [first, second] []
        else .stray [first] rest
    | [] => .stray [first] []
  else .stray [first] rest

inductive Piece where
  | char (char : Char)
  | stray (bytes : List UInt8)

/-- Splits bytes into pieces. The clock is the byte list itself, since every step takes at
least one byte. -/
def piecesFrom : (clock bytes : List UInt8) → (done : List Piece) → List Piece
  | _ :: clock, first :: rest, done =>
      match step first rest with
      | .char char rest' => piecesFrom clock rest' (.char char :: done)
      | .stray bytes rest' => piecesFrom clock rest' (.stray bytes :: done)
  | _, _, done => done.reverse

def pieces (bytes : List UInt8) : List Piece := piecesFrom bytes bytes []

def wholeChars : List Piece → (done : List Char) → Option (List Char)
  | [], done => some done.reverse
  | .char char :: rest, done => wholeChars rest (char :: done)
  | .stray _ :: _, _ => none

def decode (bytes : List UInt8) : Option String :=
  (wholeChars (pieces bytes) []).map String.ofList

/-- U+FFFD stands for each stray run. -/
def decodeLossy (bytes : List UInt8) : String :=
  String.ofList ((pieces bytes).map fun
    | .char char => char
    | .stray _ => '\uFFFD')

example : encode "é" = [0xC3, 0xA9] := by decide
example : decode [0xC3, 0xA9] = some "é" := by decide
example : decode [0xC3] = none := by decide
example : decodeLossy [0x61, 0xF0, 0x9F, 0x98, 0x62] = "a\uFFFDb" := by decide
example : decodeLossy [0xED, 0xA0, 0x80] = "\uFFFD\uFFFD\uFFFD" := by decide

end ReconChat.Text.Utf8
