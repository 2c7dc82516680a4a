import ReconChat.Http.Message
import ReconChat.Http.Target

/-!
Exchanges: what one call of a client does on the network, redirects included. A call is an order;
an order that makes a proper request is sent, and its redirects are followed ten times. Every
reply is taken from a list, in order, one for each request that is sent, and every request is
recorded with the order it belongs to. No waiting is described, and no failure of a connection but
that it is not made or is dropped.
-/

namespace ReconChat.Http

/-- What a client asks for. `pairs` are named values for the query; without them the query stays
as the target has it. -/
structure Order where
  method : Method
  target : String
  pairs : Option (List (String × String))
  apiKey : Option String
  body : Option String
deriving DecidableEq

inductive Failure where
  | badOrder
  | badAddress (url : Url)
  | noAnswer (url : Url)
  | tooManyRedirects (url : Url)
  | badBody
deriving DecidableEq

def Failure.message : Failure → String
  | .badOrder => "builder error"
  | .badAddress url => s!"builder error for url ({url.toText})"
  | .noAnswer url => s!"error sending request for url ({url.toText})"
  | .tooManyRedirects url => s!"error following redirect for url ({url.toText})"
  | .badBody => "error decoding response body"

def isTarget (url : Url) : Bool := (Target.parse url.toChars).isSome

def isRequestScheme (scheme : String) : Bool := scheme = "http" || scheme = "https"

/-- The request that an order asks for. The target is looked into first, then the key, and last
the address with its query: its scheme, and whether it can be the target of a request. -/
def Order.request (order : Order) : Except Failure Request :=
  match Url.parse order.target with
  | none => .error .badOrder
  | some url =>
      if !url.hasHost then .error (.badAddress url)
      else if !order.apiKey.all isHeaderText then .error .badOrder
      else
        let plain := url.withoutUser
        let address :=
          match order.pairs with
          | none => plain
          | some pairs => plain.addPairs pairs
        if isRequestScheme address.scheme && isTarget address then
          .ok ⟨order.method, address, order.apiKey, order.body⟩
        else .error (.badAddress address)

def redirectLimit : Nat := 10

/-- Statuses that send on with a GET and without a body. -/
def dropsBody (status : Nat) : Bool := status = 301 || status = 302 || status = 303

def keepsBody (status : Nat) : Bool := status = 307 || status = 308

/-- The URL that a location leads to. It must be fit for a target, and loses its fragment. -/
def locate (base : Url) (location : String) : Option Url := do
  let url ← base.join location
  let target ← Target.parse url.toChars
  Url.parse (String.ofList target.toChars)

/-- The request that a response asks for in place of another one, if any. The API key goes along,
also to another host. -/
def redirected (request : Request) (response : Response) : Option Request :=
  match response.location.bind (locate request.url) with
  | none => none
  | some url =>
      if dropsBody response.status then
        some { request with method := .get, url := url, body := none }
      else if keepsBody response.status then some { request with url := url }
      else none

structure Outcome where
  result : Except Failure Response
  sent : List Request
  replies : List Reply

/-- Sends a request and follows its redirects. When there is no answer, the failure names the
URL that was asked for in the first place. -/
def send (reaches : Url → Bool) (origin : Url) :
    (redirects : Nat) → Request → List Reply → Outcome
  | redirects, request, replies =>
      if !reaches request.url then ⟨.error (.noAnswer origin), [], replies⟩
      else
        match replies with
        | [] => ⟨.error (.noAnswer origin), [request], []⟩
        | .dropped :: rest => ⟨.error (.noAnswer origin), [request], rest⟩
        | .response response :: rest =>
            if !response.isReadable then ⟨.error (.noAnswer origin), [request], rest⟩
            else
              match redirected request response with
              | none => ⟨.ok response, [request], rest⟩
              | some next =>
                  match redirects with
                  | 0 =>
                      ⟨.error (.tooManyRedirects request.url.withoutFragment), [request], rest⟩
                  | redirects + 1 =>
                      if isRequestScheme next.url.scheme then
                        let later := send reaches origin redirects next rest
                        { later with sent := request :: later.sent }
                      else ⟨.error (.badAddress next.url), [request], rest⟩

structure Exchange where
  order : Order
  sent : List Request
deriving DecidableEq

/-- The network as clients see it: to which URLs a connection is made, be it plain or secure, the
replies to come, and the exchanges so far. -/
structure Network where
  reaches : Url → Bool
  replies : List Reply
  exchanges : List Exchange

def Network.requests (network : Network) : List Request := network.exchanges.flatMap (·.sent)

def perform (order : Order) : StateM Network (Except Failure Response) := fun network =>
  match order.request with
  | .error failure =>
      (.error failure, { network with exchanges := network.exchanges ++ [⟨order, []⟩] })
  | .ok request =>
      let outcome := send network.reaches request.url redirectLimit request network.replies
      (outcome.result,
        { network with
          replies := outcome.replies
          exchanges := network.exchanges ++ [⟨order, outcome.sent⟩] })

end ReconChat.Http
