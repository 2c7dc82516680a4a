/-!
White space in user-facing text. A character is blank when it has the Unicode property
White_Space: twenty-five code points, none of which is a zero-width or byte-order mark.
Trimming removes blanks at both ends and keeps the text between them.
-/

namespace ReconChat.Text

/-- The Unicode property White_Space. -/
def isBlank (char : Char) : Bool :=
  let code := char.toNat
  (0x09 ≤ code && code ≤ 0x0D) || code = 0x20 || code = 0x85 || code = 0xA0 || code = 0x1680 ||
    (0x2000 ≤ code && code ≤ 0x200A) || code = 0x2028 || code = 0x2029 || code = 0x202F ||
    code = 0x205F || code = 0x3000

def trimChars (chars : List Char) : List Char :=
  ((chars.dropWhile isBlank).reverse.dropWhile isBlank).reverse

def trim (text : String) : String := String.ofList (trimChars text.toList)

def allBlank (text : String) : Bool := text.toList.all isBlank

def unlessBlank (text : String) : Option String := if allBlank text then none else some text

/-- Does the second list occur somewhere in the first as a contiguous run? -/
def containsRun (chars : List Char) (run : List Char) : Bool :=
  run.isPrefixOf chars ||
    match chars with
    | [] => false
    | _ :: rest => containsRun rest run

def dropTrailingSlashes (text : String) : String :=
  String.ofList (text.toList.reverse.dropWhile (· == '/')).reverse

/-- ASCII letters are compared without regard to case; all other characters as they are. -/
def lowerAscii (text : String) : String := String.ofList (text.toList.map Char.toLower)

def upperAscii (text : String) : String := String.ofList (text.toList.map Char.toUpper)

theorem all_blank_iff (text : String) :
    allBlank text = true ↔ ∀ char ∈ text.toList, isBlank char = true := by
  simp [allBlank]

example : trim " \t\u3000GET\u00a0" = "GET" := by decide
example : trim "\u200bGET" = "\u200bGET" := by decide
example : "/\\\"".toList.all (isBlank · = false) := by decide

end ReconChat.Text
