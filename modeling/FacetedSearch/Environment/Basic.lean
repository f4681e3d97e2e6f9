import FacetedSearch.Environment.Path

/-!
# Environments

The variables that a program is started with, and the files that it finds.
-/

namespace FacetedSearch

/-- Variables with their values. -/
structure Environment where
  entries : List (String × String) := []

namespace Environment

/-- The value of a variable. A variable is kept as one text, its name before an equals sign and its
value, and looked for by what the text starts with: so a name with an equals sign is found too, if
it goes on into the value. -/
def get? (env : Environment) (name : String) : Option String :=
  env.entries.findSome? fun (key, value) =>
    ((name.toList ++ ['=']).isPrefixOf? (key.toList ++ '=' :: value.toList)).map String.ofList

/-- Set a variable, unless it is set already. No variable can hold the character NUL. -/
def setNew? (env : Environment) (name value : String) : Option Environment :=
  if (env.get? name).isSome then some env
  else if value.toList.contains '\x00' then none
  else some ⟨env.entries ++ [(name, value)]⟩

end Environment

/-- Files with their contents, under their paths. -/
structure Files where
  contents : List (String × String) := []

namespace Files

/-- The content of the file at a path. -/
def at? (files : Files) (p : Path) : Option String :=
  if p.isFolder then none
  else (files.contents.find? fun e => Path.ofText e.1 = p).map (·.2)

/-- The content of the file at the path that a text names. -/
def get? (files : Files) (path : String) : Option String := files.at? (.ofText path)

end Files

end FacetedSearch
