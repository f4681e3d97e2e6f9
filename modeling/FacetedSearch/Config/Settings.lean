import FacetedSearch.Environment.Basic
import FacetedSearch.Error
import FacetedSearch.Field.Code
import FacetedSearch.Json.Reader
import FacetedSearch.Number.Numeral
import FacetedSearch.Text.Lowercase

/-!
# Trees of settings

Settings before they are read as a configuration: a JSON value that sources write to one after the
other. Names are written in lower case; a table that is written to a table is merged into it, and
any other value replaces what is there.
-/

namespace FacetedSearch.Settings

/-- A step down a tree of settings. -/
inductive Step where
  | name (s : String)
  /-- A position in a list, counted from its end if it is negative. -/
  | index (n : Int)
  deriving DecidableEq, Repr

/-- The step to a name, which counts in lower case. -/
def Step.ofName (name : List Char) : Step := .name (Text.lowercase (String.ofList name))

/-- Whether a character may stand in the names of a path. -/
def isPathChar (c : Char) : Bool := c.isAlphanum || c == ' ' || c == '_' || c == '-'

/-! ## Writing -/

/-- The members of a table; any other value has none. -/
def members : Json → Json.Members
  | .object ms => ms
  | _ => []

/-- The elements of a list; any other value has none. -/
def items : Json → List Json
  | .array js => js
  | _ => []

/-- How many nulls a list is made longer by at most. A list that holds one is no list of settings,
so that more of them say no more. -/
def longestGap : Nat := 2 ^ 16

/-- Replace the value at a place, after nulls if the list is too short. -/
def putAt (js : List Json) (n : Nat) (value : Json) : List Json :=
  let padded := js ++ List.replicate (min (n + 1 - js.length) longestGap) Json.null
  padded.set (min n (padded.length - 1)) value

mutual

/-- Write a value under a name. -/
def write (tree : Json) (name : String) : Json → Json
  | .object ms =>
    let child := ((members tree).lookup name).getD (.object [])
    .object (Json.Members.put name (writeAll child ms) (members tree))
  | j => .object (Json.Members.put name j (members tree))

/-- Write values under their names. -/
def writeAll (tree : Json) : List (String × Json) → Json
  | [] => tree
  | (name, j) :: rest => writeAll (write tree (Text.lowercase name) j) rest

end

/-- A place that no list reaches. -/
def unreachable : Nat := 2 ^ 56

/-- The place that a position names in a list of some length. -/
def place? (length : Nat) (n : Int) : Option Nat :=
  let place := if n < 0 then length + n else n
  if 0 ≤ place ∧ place < unreachable then some place.toNat else none

/-- Write a value at the end of a path, unless that goes to a position that is no place. -/
def writeAt? (tree : Json) (value : Json) : List Step → Option Json
  | [] => some tree
  | [.name s] => some (write tree s value)
  | .name s :: path => do
    let child := ((members tree).lookup s).getD .null
    some (.object (Json.Members.put s (← writeAt? child value path) (members tree)))
  | [.index n] => do
    some (.array (putAt (items tree) (← place? (items tree).length n) value))
  | .index n :: path => do
    let place ← place? (items tree).length n
    let child := ((items tree)[place]?).getD .null
    some (.array (putAt (items tree) place (← writeAt? child value path)))

/-! ## Paths -/

/-- Whether a character may stand around a position. -/
def isGap (c : Char) : Bool := c == ' ' || c == '\t'

/-- Read a position of 64 bits with a sign, with gaps around it, and the bracket after it. -/
def takePosition? (cs : List Char) : Option (Int × List Char) := do
  let (negative, cs) := match cs.dropWhile isGap with
    | '-' :: cs => (true, cs)
    | cs => (false, cs)
  let size ← Numeral.natural? (cs.takeWhile Char.isDigit)
  let n : Int := if negative then -size else size
  if n < -2 ^ 63 ∨ 2 ^ 63 ≤ n then none
  else match (cs.dropWhile Char.isDigit).dropWhile isGap with
    | ']' :: cs => some (n, cs)
    | _ => none

/-- Read the steps after the first name: a name after a point, or a position in brackets. `fuel`
bounds the steps. -/
def stepsAfter? : Nat → List Char → Option (List Step)
  | _, [] => some []
  | 0, _ :: _ => none
  | fuel + 1, '.' :: cs =>
    match cs.takeWhile isPathChar with
    | [] => none
    | name => (stepsAfter? fuel (cs.dropWhile isPathChar)).map (.ofName name :: ·)
  | fuel + 1, '[' :: cs => do
    let (n, cs) ← takePosition? cs
    (stepsAfter? fuel cs).map (.index n :: ·)
  | _ + 1, _ :: _ => none

/-- The path that a name spells; a name that spells none stands for itself. -/
def pathOf (name : String) : List Step :=
  let cs := name.toList
  match cs.takeWhile isPathChar with
  | [] => [.ofName cs]
  | first =>
    match stepsAfter? cs.length (cs.dropWhile isPathChar) with
    | some path => .ofName first :: path
    | none => [.ofName cs]

/-- Write a value where a name points to. -/
def set (tree : Json) (name : String) (value : Json) : Except ConfigFault Json :=
  match writeAt? tree value (pathOf name) with
  | some tree => .ok tree
  | none => .error (.noPlace name)

/-! ## Sources -/

/-- Write the settings of a text, which has to hold a table. -/
def addText (tree : Json) (text : String) : Except ConfigFault Json :=
  match (Json.wholeOfText? text).map Json.distinctKeys with
  | some (.object ms) => ms.foldlM (fun tree m => set tree m.1 m.2) tree
  | _ => .error .unreadable

/-- The value that the text of a variable stands for: a Boolean, an integer or a number if it names
one, else the text itself. -/
def ofVariable (text : String) : Json :=
  match Text.lowercase text with
  | "true" => .bool true
  | "false" => .bool false
  | _ =>
    match Numeral.int64? text, Numeral.real? text with
    | some n, _ => .int n
    | none, some x => .float x
    | none, none => .string text

/-- What the names of variables for settings start with, in either case. -/
def variablePrefix : List Char := ['s', 'i', 'e', 'v', 'e', '_']

/-- The name of the setting that a variable is for. Two underscores stand for a point. -/
def nameOf? (key : String) : Option String :=
  let cs := (Text.lowercase key).toList
  if variablePrefix.isPrefixOf cs then
    some (Code.unflatten (String.ofList (cs.drop variablePrefix.length)))
  else none

/-- Write the settings of an environment. -/
def addEnvironment (tree : Json) (env : Environment) : Except ConfigFault Json :=
  env.entries.foldlM (fun tree (key, text) =>
    match nameOf? key with
    | some name => set tree name (ofVariable text)
    | none => .ok tree) tree

end FacetedSearch.Settings
