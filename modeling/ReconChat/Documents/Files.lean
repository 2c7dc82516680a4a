import ReconChat.Text.Utf8

/-!
Text files by path. Reading one gives its text or the cause why there is none; a file whose bytes
are not UTF-8 has no text.
-/

namespace ReconChat

inductive ReadError where
  | notFound
  | isDirectory
  | notText
  | other (words : String)
deriving DecidableEq

def ReadError.message : ReadError → String
  | .notFound => "No such file or directory (os error 2)"
  | .isDirectory => "Is a directory (os error 21)"
  | .notText => "stream did not contain valid UTF-8"
  | .other words => words

abbrev Files := String → Except ReadError (List UInt8)

def Files.readText (files : Files) (path : String) : Except ReadError String :=
  match files path with
  | .error error => .error error
  | .ok bytes =>
      match Text.Utf8.decode bytes with
      | some text => .ok text
      | none => .error .notText

end ReconChat
