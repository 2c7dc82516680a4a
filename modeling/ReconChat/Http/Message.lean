import ReconChat.Url.Parser

/-!
Requests and replies. A request to be sent has a URL that was read, a method, and at most an API
key and a JSON body; a JSON body is what gives a request its content type. A reply is a response
or nothing at all. A response may break off before its body is complete, and one whose head cannot
be made out, or that announces another one, is as good as none.
-/

namespace ReconChat.Http

inductive Method where
  | get
  | post
deriving DecidableEq

def Method.name : Method → String
  | .get => "GET"
  | .post => "POST"

structure Request where
  method : Method
  url : Url
  apiKey : Option String
  body : Option String
deriving DecidableEq

def Request.contentType (request : Request) : Option String :=
  request.body.map fun _ => "application/json"

def Request.target (request : Request) : String := request.url.withoutFragment.toText

structure Response where
  status : Nat
  location : Option String
  contentType : Option String
  body : List UInt8
  complete : Bool
deriving DecidableEq

/-- What a server does with a request: it closes the connection, or it responds. -/
inductive Reply where
  | dropped
  | response (response : Response)
deriving DecidableEq

def isHeaderChar (char : Char) : Bool :=
  char = '\t' || (0x20 ≤ char.toNat && char.toNat != 0x7F)

def isHeaderText (text : String) : Bool := text.toList.all isHeaderChar

namespace Response

/-- A status of three digits that ends an exchange. Those from 100 on announce another response,
except for a change of protocols. -/
def isFinal (status : Nat) : Bool := status = 101 || (200 ≤ status && status < 1000)

/-- Can the head of a response be made out, and is it the last one? -/
def isReadable (response : Response) : Bool :=
  isFinal response.status && response.location.all isHeaderText &&
    response.contentType.all isHeaderText

def isSuccess (response : Response) : Bool := 200 ≤ response.status && response.status < 300

/-- Responses with these statuses have no body, whatever follows their head. -/
def isBodiless (response : Response) : Bool :=
  response.status = 101 || response.status = 204 || response.status = 304

/-- The bytes of the body, unless it breaks off. -/
def wholeBody (response : Response) : Option (List UInt8) :=
  if response.isBodiless then some []
  else if response.complete then some response.body
  else none

end Response

end ReconChat.Http
