import FacetedSearch.CommandLine.Help
import FacetedSearch.Config.Loading
import FacetedSearch.Environment.File
import FacetedSearch.Request.Response

/-!
# Running a command

What a call prints and how it ends, given the files and the environment that it finds: zero for
success, one for a failure, two for wrong arguments, and 101 if it breaks off because a variable
cannot be set or a setting has no place.
-/

namespace FacetedSearch.CommandLine

/-- How a call ends. -/
structure Outcome where
  exit : UInt32
  stdout : String := ""
  stderr : String := ""

/-- The code of a call that breaks off. -/
def brokenOff : UInt32 := 101

/-- Why a call fails: what failed, and the cause of that. -/
structure Failure where
  what : String
  cause : Option String := none
  exit : UInt32 := 1

namespace Failure

/-- A text whose lines after the first are indented. -/
def indent (s : String) : String :=
  String.ofList (s.toList.flatMap fun c => if c = '\n' then ['\n', ' ', ' ', ' ', ' '] else [c])

def text (f : Failure) : String :=
  match f.cause with
  | some cause => s!"Error: {f.what}\n\nCaused by:\n    {indent cause}\n"
  | none => s!"Error: {f.what}\n"

end Failure

/-- The name of the file of variables. -/
def environmentFile : String := ".env"

/-- Fail with the message of an error. -/
def lift {α : Type} (r : Result α) : Except Failure α := r.mapError fun e => { what := e.message }

/-- Fail with what failed, because of an error. -/
def because {α : Type} (what : String) (r : Result α) : Except Failure α :=
  r.mapError fun e => { what, cause := some e.message }

/-- Read a value from a file. -/
def readFile {α : Type} (files : Files) (decode : Json → Option α) (path : String) :
    Except Failure α :=
  match files.get? path with
  | none => .error { what := s!"Failed to read {path}", cause := some "there is no such file" }
  | some text =>
    match (Json.ofText? text).bind decode with
    | some a => .ok a
    | none =>
      .error { what := s!"Failed to parse {path}", cause := some "the text has another form" }

/-- A response as it is: its numbers are finite, and the last of repeated keys counts. -/
def rawResponse? (j : Json) : Option Json := if j.isFinite then some j.distinctKeys else none

/-- The configuration of a call. -/
def readConfig (files : Files) (env : Environment) (path : Option String) :
    Except Failure Config := do
  let c ← match Config.load? files path env with
    | .error (.config (.noPlace setting)) =>
      .error { what := ConfigFault.message (.noPlace setting), exit := brokenOff }
    | r => because "Failed to load configuration" r
  match c.validate with
  | .ok () => .ok c
  | .error e => .error { what := s!"Invalid configuration: {e.message}" }

namespace Command

/-- What a command prints. -/
def answer (files : Files) (c : Config) (b : Builder) : Command → Except Failure Json
  | compile request => do
    let i ← readFile files Intent.ofJson? request
    let r ← because s!"Failed to compile {request}" (b.create i).1
    let body ← lift (r.body b.compiler.registry)
    .ok (.object [("index", .string r.indexName), ("body", body)])
  | mapResponse request response => do
    let i ← readFile files Intent.ofJson? request
    let raw ← readFile files rawResponse? response
    let (r, b) := b.create i
    let r ← because s!"Failed to compile {request}" r
    let container ← lift (b.resolve i.catalog i.container).1
    let answer ← because s!"Failed to map {response}" (SearchResponse.ofBackend raw r container)
    .ok answer.toJson
  | sortingOptions catalog container => do
    let found ← lift (b.resolve catalog container).1
    .ok (.array ((found.sortingOptions c.search.identifierField).map SortingOption.toJson))

end Command

namespace Invocation

/-- What a call prints. -/
def answer (files : Files) (env : Environment) (i : Invocation) : Except Failure Json := do
  let c ← readConfig files env i.config
  let b ← because "Failed to build compiler" (Builder.ofConfig? c)
  i.command.answer files c b

/-- The paths that a call looks at. -/
def paths (i : Invocation) : List String :=
  ((i.config.map Config.candidates).getD []) ++ i.command.paths

end Invocation

/-- The paths that a call with these arguments looks at. -/
def paths (arguments : List String) : List String :=
  environmentFile :: match Invocation.ofArguments arguments with
    | .ok i => i.paths
    | .error _ => []

/-- The variables of an environment and of the file of variables. -/
def environment? (files : Files) (env : Environment) : Option Environment :=
  match files.get? environmentFile with
  | some text => env.load? text
  | none => some env

/-- Carry out a call, given the variables. -/
def runIn (files : Files) (env : Environment) (arguments : List String) : Outcome :=
  match Invocation.ofArguments arguments with
  | .error (.help topic) => { exit := 0, stdout := Help.text topic }
  | .error (.usage fault) => { exit := 2, stderr := s!"error: {fault.message}\n" }
  | .ok i =>
    match i.answer files env with
    | .ok j => { exit := 0, stdout := (if i.pretty then j.pretty else j.compact) ++ "\n" }
    | .error f => { exit := f.exit, stderr := f.text }

/-- Carry out a call. -/
def run (files : Files) (env : Environment) (arguments : List String) : Outcome :=
  match environment? files env with
  | some env => runIn files env arguments
  | none => { exit := brokenOff, stderr := s!"a variable in {environmentFile} cannot be set\n" }

end FacetedSearch.CommandLine
