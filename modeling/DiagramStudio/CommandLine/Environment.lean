import DiagramStudio.Model.Settings

/-!
# Environments

The environment of a process is a list of entries, each a name, an equals sign and a value. A name
is looked up by the first entry that starts with the name and an equals sign.
-/

namespace DiagramStudio

open Text

/-- The entries of an environment, names and values. -/
abbrev Environment := List (String × String)

namespace Environment

/-- The value of a name; the empty name has none. -/
def find? (env : Environment) (name : String) : Option String :=
  if name = "" then none
  else
    env.findSome? fun entry =>
      (stripStart? (name.toList ++ ['=']) (entry.1.toList ++ '=' :: entry.2.toList)).map
        String.ofList

/-- Settings are read from the environment, and a blank value counts as absent. -/
def settings (env : Environment) : Lookup := fun name =>
  (env.find? name).filter fun value => !blank value.toList

/-- Adds a variable unless it is there already. -/
def addMissing (env : Environment) (name value : String) : Environment :=
  if (env.find? name).isSome then env else env ++ [(name, value)]

end Environment

end DiagramStudio
