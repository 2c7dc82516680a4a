import ReconChat.NameTable

/-!
JSON documents as values. An object keeps its members in the order in which they were read,
repeated names included; `canonical` sorts them by name and lets the last of each name win.
Integers stay exact; every other number is a binary64.
-/

namespace ReconChat.Json

/-- A number as read: an integer that fits 64 bits, or a binary64. -/
inductive Number where
  | integer (value : Int)
  | real (value : Float)
deriving DecidableEq

inductive Value where
  | null
  | bool (value : Bool)
  | number (value : Number)
  | string (value : String)
  | array (items : List Value)
  | object (members : List (String × Value))

namespace Value

mutual

/-- Members sorted by name, each name once with its last value, at every depth. -/
def canonical : Value → Value
  | .array items => .array (canonicalItems items)
  | .object members => .object (canonicalMembers members [])
  | other => other

def canonicalItems : List Value → List Value
  | [] => []
  | item :: rest => canonical item :: canonicalItems rest

def canonicalMembers : List (String × Value) → List (String × Value) → List (String × Value)
  | [], sorted => sorted
  | (name, value) :: rest, sorted => canonicalMembers rest (putEntry name (canonical value) sorted)

end

def string? : Value → Option String
  | .string text => some text
  | _ => none

/-- The member of an object, the last one of its name. -/
def member? (name : String) : Value → Option Value
  | .object members => latest? name members
  | _ => none

end Value

end ReconChat.Json
