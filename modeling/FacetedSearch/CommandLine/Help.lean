import FacetedSearch.CommandLine.Arguments

/-!
# Help

What the program says of its commands and options.
-/

namespace FacetedSearch.CommandLine.Help

/-- Rows of two columns, the first as wide as its widest entry. -/
def rows (entries : List (String × String)) : String :=
  let width := (entries.map (·.1.length)).foldl max 0
  String.join (entries.map fun (left, right) =>
    "  " ++ left ++ String.ofList (List.replicate (width + 2 - left.length) ' ') ++ right ++ "\n")

/-- What a command does. -/
def summary : Verb → String
  | .compile => "Print the target index and search body for an intent"
  | .mapResponse => "Map a raw backend response for an intent to a typed response"
  | .sortingOptions => "List the sort choices of a container, default first"

def config : String × String :=
  ("-c, --config <CONFIG>",
   "Configuration file (YAML, TOML or JSON); SIEVE_* variables override it")

def pretty : String × String := ("    --pretty", "Pretty-print JSON output")

def help : String × String := ("-h, --help", "Print help")

/-- The options of a command. -/
def options : Verb → List (String × String)
  | .compile => [config, ("-r, --request <REQUEST>", "Search intent JSON file"), pretty, help]
  | .mapResponse =>
    [config,
     ("-r, --request <REQUEST>", "Search intent JSON file the response was produced for"), pretty,
     ("    --response <RESPONSE>", "Raw backend response JSON file"), help]
  | .sortingOptions =>
    [config, ("    --catalog <CATALOG>", ""), ("    --container <CONTAINER>", ""), pretty, help]

/-- The options that a command needs, as they are written. -/
def usage (v : Verb) : String :=
  " ".intercalate (v.needs.map fun k => s!"--{k.name} <{k.name.map Char.toUpper}>")

/-- What the command that gives help does. -/
def helpSummary : String := "Print this message or the help of the given subcommand(s)"

/-- The help on a topic. -/
def text : Topic → String
  | .command v =>
    s!"{summary v}\n\nUsage: sieve {v.name} [OPTIONS] {usage v}\n\nOptions:\n{rows (options v)}"
  | .help =>
    s!"{helpSummary}\n\nUsage: sieve {Topic.helpName} [COMMAND]...\n\nArguments:\n" ++
    rows [("[COMMAND]...", "Print help for the subcommand(s)")]
  | .program =>
    "Compile search intents into Elasticsearch requests\n\nUsage: sieve [OPTIONS] <COMMAND>\n\n" ++
    "Commands:\n" ++
    rows (Verb.all.map (fun v => (v.name, summary v)) ++
      [(Topic.helpName, helpSummary)]) ++
    "\nOptions:\n" ++ rows [config, pretty, help]

end FacetedSearch.CommandLine.Help
