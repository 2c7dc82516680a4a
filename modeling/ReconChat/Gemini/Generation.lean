import ReconChat.Json.Bytes
import ReconChat.Json.Shape
import ReconChat.Text.Blank

/-!
What the model service writes back. A generation is a list of candidates, each a list of parts
that may have a text, and perhaps a reason why the prompt was blocked. Only the first candidate
counts; its text is the texts of its parts in order, without blanks around the whole. All other
members are passed over.
-/

namespace ReconChat.Gemini

open Json (Value)
open Json.Shape (record defaulted nullable)

structure Generation where
  blockReason : Option String
  candidates : List (List (Option String))
deriving DecidableEq

namespace Generation

def items : Option Value → List Value
  | some (.array items) => items
  | _ => []

def partText (part : Value) : Option String := (part.member? "text").bind Value.string?

/-- The parts of a candidate, none if it has no content. -/
def candidateParts (candidate : Value) : List (Option String) :=
  (items ((candidate.member? "content").bind (Value.member? "parts"))).map partText

def ofValue (value : Value) : Option Generation :=
  some
    { blockReason :=
        ((value.member? "promptFeedback").bind (Value.member? "blockReason")).bind Value.string?
      candidates := (items (value.member? "candidates")).map candidateParts }

def partShape : Json.Reader := record [nullable "text" Json.Shape.text]

def contentShape : Json.Reader := record [defaulted "parts" (Json.Shape.list partShape)]

def candidateShape : Json.Reader := record [nullable "content" contentShape]

def feedbackShape : Json.Reader := record [nullable "blockReason" Json.Shape.text]

def shape : Json.Reader :=
  record
    [defaulted "candidates" (Json.Shape.list candidateShape),
      nullable "promptFeedback" feedbackShape]

def decode (body : List UInt8) : Except Json.Fault Generation :=
  Json.Shape.decodeChars shape ofValue (Json.charsOfBytes body)

def text (generation : Generation) : String :=
  Text.trim (String.join ((generation.candidates.head?.getD []).filterMap id))

end Generation

end ReconChat.Gemini
