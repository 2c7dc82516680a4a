import ReconChat.NameTable

/-!
Tables and how they grow. A name stands for a value, a table, or a series of tables of which the
latest is open. Tables differ by how they came to be, since that decides who may add to them: a
header opens a table once; a table that is only passed through on the way to a deeper one may
still be opened by a header; a table made by a dotted key takes values from dotted keys alone. A
value, inline tables included, is never added to.
-/

namespace ReconChat.Toml

inductive Origin where
  | header
  | passage
  | dotted
deriving DecidableEq

inductive Node where
  | string (text : String)
  | bool (value : Bool)
  | integer (value : Int)
  | real
  | moment
  | array (items : List Node)
  | inlineTable (members : List (String × Node))
  | table (origin : Origin) (members : List (String × Node))
  | series (latest : List (String × Node)) (earlier : List (List (String × Node)))

abbrev Members := List (String × Node)

def Members.find? (name : String) (members : Members) : Option Node := latest? name members

/-- Gives a name another meaning, in its place or at the end. -/
def Members.set (name : String) (node : Node) : Members → Members
  | [] => [(name, node)]
  | (other, kept) :: rest =>
      if other = name then (name, node) :: rest else (other, kept) :: Members.set name node rest

def Members.add : (path : List String) → (name : String) → Node → Members → Option Members
  | [], name, node, members =>
      match members.find? name with
      | none => some (members.set name node)
      | some _ => none
  | key :: path, name, node, members =>
      match members.find? key with
      | none =>
          (Members.add path name node []).map fun inner => members.set key (.table .dotted inner)
      | some (.table .dotted inner) =>
          (Members.add path name node inner).map fun grown => members.set key (.table .dotted grown)
      | some (.table .passage inner) =>
          if path.isEmpty then none
          else
            (Members.add path name node inner).map fun grown =>
              members.set key (.table .passage grown)
      | some (.series latest earlier) =>
          if path.isEmpty then none
          else
            (Members.add path name node latest).map fun grown =>
              members.set key (.series grown earlier)
      | some _ => none

def Members.change (change : Members → Option Members) :
    (path : List String) → Members → Option Members
  | [], members => change members
  | key :: path, members =>
      match members.find? key with
      | none =>
          (Members.change change path []).map fun inner => members.set key (.table .passage inner)
      | some (.table origin inner) =>
          (Members.change change path inner).map fun grown => members.set key (.table origin grown)
      | some (.series latest earlier) =>
          (Members.change change path latest).map fun grown =>
            members.set key (.series grown earlier)
      | some _ => none

def Members.open (name : String) (members : Members) : Option Members :=
  match members.find? name with
  | none => some (members.set name (.table .header []))
  | some (.table .passage inner) => some (members.set name (.table .header inner))
  | some _ => none

def Members.extend (name : String) (members : Members) : Option Members :=
  match members.find? name with
  | none => some (members.set name (.series [] []))
  | some (.series latest earlier) => some (members.set name (.series [] (latest :: earlier)))
  | some _ => none

/-- A document that is being read: all that it holds, and the path of the open table. -/
structure Document where
  root : Members
  current : List String

namespace Document

def empty : Document := ⟨[], []⟩

def openTable (document : Document) (path : List String) (name : String) : Option Document :=
  (document.root.change (Members.open name) path).map fun root => ⟨root, path ++ [name]⟩

def extendSeries (document : Document) (path : List String) (name : String) : Option Document :=
  (document.root.change (Members.extend name) path).map fun root => ⟨root, path ++ [name]⟩

def add (document : Document) (path : List String) (name : String) (node : Node) :
    Option Document :=
  (document.root.change (Members.add path name node) document.current).map fun root =>
    { document with root := root }

end Document

end ReconChat.Toml
