import ReconChat.Environment
import ReconChat.Json.Shape

/-!
The address on which the chat service listens, from the environment or from JSON. A port is an
optional plus sign and decimal digits that denote a 16-bit number; anything else is refused with
its cause, and the default port is used.
-/

namespace ReconChat.ChatService

inductive PortError where
  | empty
  | invalidDigit
  | tooLarge
deriving DecidableEq

def PortError.message : PortError → String
  | .empty => "cannot parse integer from empty string"
  | .invalidDigit => "invalid digit found in string"
  | .tooLarge => "number too large to fit in target type"

def largestPort : Nat := 65535

/-- Reads the digits of a port from the left; the first obstacle counts. -/
def portDigits : List Char → (value : Nat) → Except PortError Nat
  | [], value => .ok value
  | char :: rest, value =>
      match Json.digitValue char with
      | none => .error .invalidDigit
      | some digit =>
          let longer := value * 10 + digit
          if longer ≤ largestPort then portDigits rest longer else .error .tooLarge

def readPort (text : String) : Except PortError Nat :=
  match text.toList with
  | [] => .error .empty
  | '+' :: [] => .error .invalidDigit
  | '+' :: digits => portDigits digits 0
  | digits => portDigits digits 0

structure ListenAddress where
  host : String
  port : Nat
deriving DecidableEq

namespace ListenAddress

def defaultHost : String := "0.0.0.0"

def defaultPort : Nat := 5001

def portSetting (environment : Environment) : Except PortError Nat :=
  match environment "CHAT_API_PORT" with
  | none => .ok defaultPort
  | some text => readPort text

/-- The address that the environment asks for. A blank host and an unusable port count as not
set. -/
def ofEnvironment (environment : Environment) : ListenAddress :=
  { host := (environment.spoken? "CHAT_API_HOST").getD defaultHost
    port :=
      match portSetting environment with
      | .ok port => port
      | .error _ => defaultPort }

def shape : Json.Reader :=
  Json.Shape.record
    [Json.Shape.defaulted "host" Json.Shape.text,
      Json.Shape.defaulted "port" (Json.Shape.count largestPort)]

def hostMember : Option Json.Value → String
  | some (.string host) => host
  | _ => defaultHost

def portMember : Option Json.Value → Nat
  | some (.number (.integer port)) => port.toNat
  | _ => defaultPort

def ofValue : Json.Value → Option ListenAddress
  | .object members =>
      some ⟨hostMember (latest? "host" members), portMember (latest? "port" members)⟩
  | _ => none

def decode : String → Except Json.Fault ListenAddress := Json.Shape.decode shape ofValue

end ListenAddress

end ReconChat.ChatService
