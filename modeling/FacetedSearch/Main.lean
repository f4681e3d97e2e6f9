import FacetedSearch.CommandLine.Run

/-!
# The program

Reads the files and the variables that a call looks at, and prints what the call answers.
-/

open FacetedSearch

/-- The content of a file, if it can be read. -/
def contentOf (path : String) : IO (Option String) := do
  try return some (← IO.FS.readFile path)
  catch _ => return none

/-- The variables that the program was started with. -/
def startingVariables : IO Environment := do
  let text := (← contentOf "/proc/self/environ").getD ""
  return ⟨(text.splitOn "\x00").filterMap fun entry =>
    match entry.splitOn "=" with
    | name :: value :: rest => some (name, "=".intercalate (value :: rest))
    | _ => none⟩

/-- The files at some paths that can be read. -/
def filesAt (paths : List String) : IO Files := do
  let mut contents := []
  for path in paths do
    if let some text ← contentOf path then contents := contents ++ [(path, text)]
  return ⟨contents⟩

def main (arguments : List String) : IO UInt32 := do
  let files ← filesAt (CommandLine.paths arguments)
  let outcome := CommandLine.run files (← startingVariables) arguments
  IO.print outcome.stdout
  IO.eprint outcome.stderr
  return outcome.exit
