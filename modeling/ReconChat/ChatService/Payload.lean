import ReconChat.Json.Bytes
import ReconChat.Json.Printer
import ReconChat.Json.Shape

/-!
What the chat service is asked and what it answers, as JSON. A chat request has a query, which may
be missing or null; a chat response has a text.
-/

namespace ReconChat.ChatService

open Json (Value)

structure ChatRequest where
  query : Option String
deriving DecidableEq

namespace ChatRequest

def shape : Json.Reader :=
  Json.Shape.record [Json.Shape.defaulted "query" (Json.Shape.optional Json.Shape.text)]

def ofValue (value : Value) : Option ChatRequest :=
  some ⟨(value.member? "query").bind Value.string?⟩

def decode (body : List UInt8) : Except Json.Fault ChatRequest :=
  Json.Shape.decodeChars shape ofValue (Json.charsOfBytes body)

end ChatRequest

structure ChatResponse where
  response : String
deriving DecidableEq

namespace ChatResponse

def shape : Json.Reader := Json.Shape.record [Json.Shape.required "response" Json.Shape.text]

def toValue (answer : ChatResponse) : Value := .object [("response", .string answer.response)]

def ofValue (value : Value) : Option ChatResponse :=
  ((value.member? "response").bind Value.string?).map ChatResponse.mk

def encode (answer : ChatResponse) : String := answer.toValue.compact

def decode : String → Except Json.Fault ChatResponse := Json.Shape.decode shape ofValue

end ChatResponse

end ReconChat.ChatService
