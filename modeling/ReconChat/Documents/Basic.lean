import ReconChat.Documents.Bundled
import ReconChat.Documents.Files
import ReconChat.Text.Blank

/-!
The documents on which the model bases its choice: the API schema, without which no query is
answered, and the guide, which may be missing. Both are kept as they are.
-/

namespace ReconChat

structure Documents where
  schema : String
  guide : String
deriving DecidableEq

inductive SchemaError where
  | notFound (path : String)
  | unreadable (path : String) (error : ReadError)
deriving DecidableEq

def SchemaError.message : SchemaError → String
  | .notFound path => s!"API schema file not found at {path}"
  | .unreadable path error => s!"error loading API schema {path}: {error.message}"

namespace Documents

def bundledSchemaPath : String := "<bundled>/recon-api.yaml"

def bundledGuidePath : String := "<bundled>/recon-api-guide.md"

def withBundled (files : Files) : Files := fun path =>
  if path = bundledSchemaPath then .ok (Text.Utf8.encode bundledSchema)
  else if path = bundledGuidePath then .ok (Text.Utf8.encode bundledGuide)
  else files path

def readSchema (files : Files) (path : String) : Except SchemaError String :=
  match files.readText path with
  | .ok text => .ok text
  | .error .notFound => .error (.notFound path)
  | .error error => .error (.unreadable path error)

/-- Reads both documents. Any trouble with the guide leaves it empty. -/
def load (files : Files) (schemaPath guidePath : String) : Except SchemaError Documents :=
  match readSchema files schemaPath with
  | .error error => .error error
  | .ok schema =>
      .ok ⟨schema,
        match files.readText guidePath with
        | .ok guide => guide
        | .error _ => ""⟩

def hasSchema (documents : Documents) : Bool := !Text.allBlank documents.schema

end Documents

end ReconChat
