import ReconChat.Text.CodeTable
import ReconChat.Url.Domain.Label

/-!
Domains in ASCII. A domain in ASCII whose labels stand for themselves is only put in lower case.
Of any other domain each character is mapped, the text is composed and cut into labels, and each
label is written in ASCII again. If a part of a domain runs from right to left, all its labels have
to fit their directions.
-/

namespace ReconChat.Url.Domain

def isDot (char : Char) : Bool := char = '.'

def isPlain (domain : List Char) : Bool :=
  domain.all Text.Punycode.isAscii && !(Text.pieces isDot domain).any opening.isPrefixOf

def labels? (domain : List Char) : Option (List Label) := do
  let mapped ← domain.mapM map?
  let labels ← (Text.pieces isDot (Text.composed mapped.flatten)).mapM Label.ofText?
  if labels.any Label.runsBack && !labels.all Label.directionsFit then none else some labels

def toAscii? (domain : List Char) : Option (List Char) :=
  let lower := domain.map Char.toLower
  if isPlain lower then some lower
  else (labels? domain).map fun labels => ['.'].intercalate (labels.map Label.encode)

example : toAscii? "Recon.Test".toList = some "recon.test".toList := by decide +kernel

end ReconChat.Url.Domain
