import ReconChat.Text.Blank

/-!
The environment in which a program runs, as a lookup of variables.
-/

namespace ReconChat

abbrev Environment := String → Option String

/-- A variable that says something; a blank one counts as not set. -/
def Environment.spoken? (environment : Environment) (name : String) : Option String :=
  (environment name).bind Text.unlessBlank

end ReconChat
