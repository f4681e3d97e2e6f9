/-!
# Arguments

The arguments of the command line: options before and after the name of a command. An option gets
its value after an equals sign or as the next argument, or, if a letter names it, right behind the
letter. A value as the next argument does not start with a dash, and no option is repeated on one
side of the command. Whether such a value is good is asked only when the next option comes, or else
at the end; so a request for help may come before a complaint.
-/

namespace FacetedSearch.CommandLine

/-- The commands by name. -/
inductive Verb where
  | compile
  | mapResponse
  | sortingOptions
  deriving DecidableEq, Repr

/-- The options that have a value. -/
inductive Key where
  | config
  | request
  | response
  | catalog
  | container
  deriving DecidableEq, Repr

/-- What a command is to do. -/
inductive Command where
  /-- Compile the intent in a file. -/
  | compile (request : String)
  /-- Map the response in a file, given to the intent in another. -/
  | mapResponse (request response : String)
  /-- List the sorting options of a container. -/
  | sortingOptions (catalog container : String)
  deriving DecidableEq, Repr

/-- A call of the program. -/
structure Invocation where
  config : Option String
  /-- Whether the output is spread over lines. -/
  pretty : Bool
  command : Command
  deriving DecidableEq, Repr

/-- What is wrong with the arguments. -/
inductive UsageFault where
  | unexpected (argument : String)
  | repeated (option : String)
  | noValue (option : String)
  | missing (option : String)
  | noCommand
  deriving DecidableEq, Repr

/-- What help is on: the program, a command, or the command that gives help. -/
inductive Topic where
  | program
  | command (verb : Verb)
  | help
  deriving DecidableEq, Repr

/-- Why arguments are no call: help is asked for, or they are wrong. -/
inductive Refusal where
  | help (topic : Topic)
  | usage (fault : UsageFault)
  deriving DecidableEq, Repr

namespace Verb

def all : List Verb := [compile, mapResponse, sortingOptions]

def name : Verb → String
  | compile => "compile"
  | mapResponse => "map-response"
  | sortingOptions => "sorting-options"

def ofName? (s : String) : Option Verb := all.find? fun v => v.name == s

/-- The options that a command needs. -/
def needs : Verb → List Key
  | compile => [.request]
  | mapResponse => [.request, .response]
  | sortingOptions => [.catalog, .container]

end Verb

namespace Key

def all : List Key := [config, request, response, catalog, container]

def name : Key → String
  | config => "config"
  | request => "request"
  | response => "response"
  | catalog => "catalog"
  | container => "container"

/-- The letter that names the option too. -/
def letter? : Key → Option Char
  | config => some 'c'
  | request => some 'r'
  | _ => none

/-- Whether the value is a path, which is not empty. -/
def isPath : Key → Bool
  | config | request | response => true
  | _ => false

/-- Whether the option may stand after a command, or before any. -/
def isFor (k : Key) (verb : Option Verb) : Bool :=
  k = config || match verb with
    | some v => v.needs.contains k
    | none => false

end Key

namespace Topic

/-- The word for the command that gives help. -/
def helpName : String := "help"

/-- The topic that a word names. -/
def ofName? (s : String) : Option Topic :=
  if s == helpName then some help else (Verb.ofName? s).map command

/-- What help is on after a command, or before any. -/
def ofVerb : Option Verb → Topic
  | some v => command v
  | none => program

end Topic

/-- The options on one side of the command. -/
structure Options where
  values : List (Key × String) := []
  /-- The last value that was an argument of its own, until it is checked. -/
  pending : Option (Key × String) := none
  pretty : Bool := false

namespace Options

/-- Set an option. -/
def set (o : Options) (k : Key) (value : String) : Except UsageFault Options :=
  if (o.values.lookup k).isSome then .error (.repeated k.name)
  else if k.isPath && value.isEmpty then .error (.noValue k.name)
  else .ok { o with values := (k, value) :: o.values }

/-- Check the value that is not checked yet. -/
def settle (o : Options) : Except UsageFault Options :=
  match o.pending with
  | some (k, value) => { o with pending := none }.set k value
  | none => .ok o

end Options

/-- What the next argument is. -/
inductive Phase where
  | any
  | value (k : Key)
  /-- Nothing more may come. -/
  | closed
  /-- What help is wanted on, as far as that was said. -/
  | topic (topic : Topic)

/-- The arguments that were read. -/
structure State where
  /-- The options before the command. -/
  before : Options := {}
  verb : Option Verb := none
  /-- The options after the command, or before it if it has not come yet. -/
  here : Options := {}
  phase : Phase := .any

namespace State

def refuse {α : Type} (fault : UsageFault) : Except Refusal α := .error (.usage fault)

/-- Replace the options on this side of the command. -/
def withHere (s : State) (r : Except UsageFault Options) : Except Refusal State :=
  match r with
  | .ok here => .ok { s with here }
  | .error fault => refuse fault

/-- Check the value before an option. -/
def settle (s : State) : Except Refusal State := s.withHere s.here.settle

/-- Read an option by its name, with the value behind the equals sign if there is one. -/
def long (s : State) (argument name : String) (value : Option String) : Except Refusal State := do
  let s ← s.settle
  match Key.all.find? fun k => k.name == name && k.isFor s.verb, value with
  | some k, some value => s.withHere (s.here.set k value)
  | some k, none => .ok { s with phase := .value k }
  | none, some _ => refuse (.unexpected argument)
  | none, none =>
    if name == "help" then .error (.help (.ofVerb s.verb))
    else if name == "pretty" then
      if s.here.pretty then refuse (.repeated name)
      else .ok { s with here := { s.here with pretty := true } }
    else refuse (.unexpected argument)

/-- Read an option by its letter, with its value if that follows. -/
def short (s : State) (argument : String) (letter : Char) (rest : List Char) :
    Except Refusal State := do
  let s ← s.settle
  if letter = 'h' then .error (.help (.ofVerb s.verb))
  else match Key.all.find? fun k => k.letter? == some letter && k.isFor s.verb, rest with
    | some k, [] => .ok { s with phase := .value k }
    | some k, '=' :: value => s.withHere (s.here.set k (String.ofList value))
    | some k, value => s.withHere (s.here.set k (String.ofList value))
    | none, _ => refuse (.unexpected argument)

/-- Read the name of a command. -/
def word (s : State) (argument : String) : Except Refusal State :=
  match s.verb with
  | some _ => refuse (.unexpected argument)
  | none =>
    match Topic.ofName? argument with
    | some (.command v) => .ok { s with before := s.here, verb := some v, here := {} }
    | some _ => .ok { s with phase := .topic .program }
    | none => refuse (.unexpected argument)

/-- Read an argument that may be anything. -/
def readAny (s : State) (argument : String) : Except Refusal State :=
  match argument.toList with
  | ['-', '-'] => .ok { s with phase := .closed }
  | '-' :: '-' :: cs =>
    let name := String.ofList (cs.takeWhile (· != '='))
    match cs.dropWhile (· != '=') with
    | [] => s.long argument name none
    | _ :: value => s.long argument name (some (String.ofList value))
  | '-' :: letter :: rest => s.short argument letter rest
  | _ => s.word argument

/-- Read an argument. -/
def read (s : State) (argument : String) : Except Refusal State :=
  match s.phase with
  | .any => s.readAny argument
  | .value k =>
    match argument.toList with
    | '-' :: _ :: _ => refuse (.noValue k.name)
    | _ => .ok { s with here := { s.here with pending := some (k, argument) }, phase := .any }
  | .closed => refuse (.unexpected argument)
  | .topic .program =>
    match Topic.ofName? argument with
    | some topic => .ok { s with phase := .topic topic }
    | none => refuse (.unexpected argument)
  | .topic _ => refuse (.unexpected argument)

/-- The value of an option that the command needs. -/
def need (s : State) (k : Key) : Except Refusal String :=
  match s.here.values.lookup k with
  | some value => .ok value
  | none => refuse (.missing k.name)

/-- What the command that was read is to do. -/
def command (s : State) : Except Refusal Command :=
  match s.verb with
  | none => refuse .noCommand
  | some .compile => return .compile (← s.need .request)
  | some .mapResponse => return .mapResponse (← s.need .request) (← s.need .response)
  | some .sortingOptions => return .sortingOptions (← s.need .catalog) (← s.need .container)

/-- The call that all arguments make. An option after the command goes over one before it. -/
def finish (s : State) : Except Refusal Invocation :=
  match s.phase with
  | .value k => refuse (.noValue k.name)
  | .topic topic => .error (.help topic)
  | _ => do
    let s ← s.settle
    match s.before.settle with
    | .error fault => refuse fault
    | .ok before =>
      .ok { config := (s.here.values.lookup .config).or (before.values.lookup .config),
            pretty := s.here.pretty || before.pretty, command := ← s.command }

end State

/-- The call that arguments make. -/
def Invocation.ofArguments (arguments : List String) : Except Refusal Invocation := do
  let s ← arguments.foldlM State.read {}
  s.finish

/-- The files of a call that are no configuration. -/
def Command.paths : Command → List String
  | compile request => [request]
  | mapResponse request response => [request, response]
  | sortingOptions .. => []

def UsageFault.message : UsageFault → String
  | unexpected argument => s!"unexpected argument '{argument}'"
  | repeated option => s!"the option '{option}' cannot be repeated"
  | noValue option => s!"the option '{option}' needs a value"
  | missing option => s!"the option '{option}' is missing"
  | noCommand => "a command is missing"

end FacetedSearch.CommandLine
