/-!
What a terminal hands over of the keys that are typed on it. A line is held back until it is
finished, by a line feed or a carriage return, so that it can be corrected: its last byte, its
last word or all of it can be taken back. What is held can also be handed over at once, which ends
the input when nothing of the line is there; inside a line it ends the line. An interrupt drops
all that was typed so far. A few keys are for the terminal alone, unless the key in front of them
says that they are text.
-/

namespace ReconChat.Console.Terminal

inductive Key where
  | text (byte : UInt8)
  | finishLine
  | handOver
  | eraseByte
  | eraseWord
  | eraseLine
  | interrupt
  /-- The next key is text. -/
  | quote
  /-- Stops or goes on with the output, or shows the line again. -/
  | silent
deriving DecidableEq

def Key.ofByte (byte : UInt8) : Key :=
  if byte = 0x0A ∨ byte = 0x0D then .finishLine
  else if byte = 0x04 then .handOver
  else if byte = 0x7F then .eraseByte
  else if byte = 0x17 then .eraseWord
  else if byte = 0x15 then .eraseLine
  else if byte = 0x16 then .quote
  else if byte ∈ [0x03, 0x1A, 0x1C] then .interrupt
  else if byte ∈ [0x11, 0x12, 0x13] then .silent
  else .text byte

def longestLine : Nat := 4095

/-- Is a byte part of a word? Letters outside ASCII are those of Latin-1. -/
def isWordByte (byte : UInt8) : Bool :=
  let char := Char.ofNat byte.toNat
  char.isAlphanum || char = '_' || (0xC0 ≤ byte && byte != 0xD7 && byte != 0xF7)

/-- A line, given in reverse, without its last word and what follows it. -/
def withoutWord (line : List UInt8) : List UInt8 :=
  (line.dropWhile (!isWordByte ·)).dropWhile isWordByte

def append (byte : UInt8) (held : List UInt8) : List UInt8 :=
  if held.length < longestLine then byte :: held else held

def isAtStart (handed : List UInt8) : Bool := handed.head?.all (· == 0x0A)

/-- The bytes that are handed over. Those handed over so far and those held are in reverse;
`quoted` says that the next key is text. -/
def handOver (handed held : List UInt8) (quoted : Bool) : List UInt8 → List UInt8
  | [] => (held ++ handed).reverse
  | byte :: rest =>
      match if quoted then .text byte else Key.ofByte byte with
      | .text byte => handOver handed (append byte held) false rest
      | .finishLine => handOver (0x0A :: held ++ handed) [] false rest
      | .handOver =>
          if !held.isEmpty then handOver (held ++ handed) [] false rest
          else if isAtStart handed then handed.reverse
          else handOver (0x0A :: handed) [] false rest
      | .eraseByte => handOver handed (held.drop 1) false rest
      | .eraseWord => handOver handed (withoutWord held) false rest
      | .eraseLine => handOver handed [] false rest
      | .interrupt => handOver [] [] false rest
      | .quote => handOver handed held true rest
      | .silent => handOver handed held false rest

def handedOver (typed : List UInt8) : List UInt8 := handOver [] [] false typed

example : handedOver "no\x15key\rmo\x7fre\x04".toUTF8.toList = "key\nmre".toUTF8.toList := by
  decide +kernel

end ReconChat.Console.Terminal
