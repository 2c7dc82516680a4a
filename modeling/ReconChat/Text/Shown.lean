import ReconChat.Text.Hidden

/-!
Texts quoted for a reader, as in settings that are shown and in messages that name a string.
Quotation marks, backslashes and the usual controls have short escapes; other characters
without an appearance are written as `\u` and their code point in braces.
-/

namespace ReconChat.Text

def shownChar (char : Char) : List Char :=
  if char = '"' then ['\\', '"']
  else if char = '\\' then ['\\', '\\']
  else if char = '\n' then ['\\', 'n']
  else if char = '\r' then ['\\', 'r']
  else if char = '\t' then ['\\', 't']
  else if char.toNat = 0 then ['\\', '0']
  else if isHidden char then
    ['\\', 'u', '{'] ++ Nat.toDigits 16 char.toNat ++ ['}']
  else [char]

def shown (text : String) : String :=
  String.ofList ('"' :: text.toList.flatMap shownChar ++ ['"'])

def shownOptional : Option String → String
  | some text => "Some(" ++ shown text ++ ")"
  | none => "None"

end ReconChat.Text
