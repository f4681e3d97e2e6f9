import FacetedSearch.Environment.Basic
import FacetedSearch.Text.Alphanumeric
import FacetedSearch.Text.Blank

/-!
# Environment files

A file of assignments to variables, one a line. A value may stand in single quotes, where every
character counts as it is, or in double quotes, which may go on over several lines; it may name
other variables after a `$`, in braces or up to the first character that is neither a letter nor a
digit. A `#` after a blank starts a comment.
-/

namespace FacetedSearch.Environment

/-! ## Lines -/

/-- What a character of the file is part of. -/
inductive Region where
  | plain
  | blank
  | escaped
  | double
  | doubleEscaped
  | single
  | singleEscaped
  | comment
  deriving DecidableEq, Repr

namespace Region

/-- What a character outside quotes leads to. -/
def outside (c : Char) : Region :=
  match c with
  | '\\' => escaped
  | '"' => double
  | '\'' => single
  | _ => plain

/-- What the next character is part of. -/
def next : Region → Char → Region
  | plain, c => if Text.isBlankChar c && c != '\n' && c != '\r' then blank else outside c
  | blank, c => if c = '#' then comment else outside c
  | escaped, _ => plain
  | double, c => if c = '\\' then doubleEscaped else if c = '"' then plain else double
  | doubleEscaped, _ => double
  | single, c => if c = '\\' then singleEscaped else if c = '\'' then plain else single
  | singleEscaped, _ => single
  | comment, _ => comment

end Region

/-- The lines of a text, each with the break that ends it. -/
def physicalLines : List Char → List (List Char)
  | [] => []
  | c :: cs =>
    if c = '\n' then [c] :: physicalLines cs
    else match physicalLines cs with
      | [] => [[c]]
      | line :: lines => (c :: line) :: lines

/-- The region that a line leads to, and the line up to its comment. -/
def scan (region : Region) : List Char → Region × List Char
  | [] => (region, [])
  | c :: cs =>
    match region.next c with
    | .comment => (.comment, [])
    | region =>
      let (last, line) := scan region cs
      (last, c :: line)

/-- Join lines as long as a quote is open. A text that ends in an open quote lacks its last line. -/
def joinLines (before : List Char) (region : Region) : List (List Char) → List (List Char)
  | [] => []
  | line :: lines =>
    if ((before ++ line).dropWhile Text.isBlankChar).head? = some '#' then joinLines [] .plain lines
    else
      match scan region line with
      | (.comment, line) => (before ++ line) :: joinLines [] .plain lines
      | (.plain, line) => (before ++ line) :: joinLines [] .plain lines
      | (region, line) => joinLines (before ++ line) region lines

/-! ## Values -/

/-- What the next character of a value is part of. -/
inductive Mode where
  | text
  | single
  | escaped
  | name (read : List Char)
  | bracedName (read : List Char)
  | ended
  | comment
  deriving DecidableEq, Repr

/-- A value that is being read. -/
structure Value where
  /-- The characters of the value, the last one first. -/
  read : List Char := []
  double : Bool := false
  mode : Mode := .text

namespace Value

def push (v : Value) (c : Char) : Value := { v with read := c :: v.read }

/-- Append the value of a variable, nothing for one that is not set. -/
def substitute (env : Environment) (v : Value) (name : List Char) : Value :=
  let value := (env.get? (String.ofList name.reverse)).getD ""
  { v with read := value.toList.reverse ++ v.read }

/-- Read a character of the text of a value. -/
def readText (v : Value) (c : Char) : Value :=
  if c = '$' then { v with mode := .name [] }
  else if c = '\\' then { v with mode := .escaped }
  else if c = '"' then { v with double := !v.double }
  else if v.double then v.push c
  else if c = '\'' then { v with mode := .single }
  else if c = ' ' ∨ c = '\t' then { v with mode := .ended }
  else v.push c

/-- Read the character after a backslash. -/
def readEscape (v : Value) (c : Char) : Option Value :=
  if c = 'n' then some { v.push '\n' with mode := .text }
  else if ['\\', '\'', '"', '$', ' '].contains c then some { v.push c with mode := .text }
  else none

/-- Read a character; nothing if it cannot stand there. -/
def step (env : Environment) (v : Value) (c : Char) : Option Value :=
  match v.mode with
  | .text => some (v.readText c)
  | .single => some (if c = '\'' then { v with mode := .text } else v.push c)
  | .escaped => v.readEscape c
  | .name read =>
    if Text.isAlphanumeric c then some { v with mode := .name (c :: read) }
    else if c = '\x7b' ∧ read = [] then some { v with mode := .bracedName [] }
    else if c = '$' then some { v.substitute env read with mode := .name [] }
    else some { (v.substitute env read).push c with mode := .text }
  | .bracedName read =>
    if c = '\x7d' then some { v.substitute env read with mode := .text }
    else some { v with mode := .bracedName (c :: read) }
  | .ended =>
    if c = ' ' ∨ c = '\t' then some v
    else if c = '#' then some { v with mode := .comment }
    else none
  | .comment => some v

/-- The text of a value that was read; nothing if a quote or a brace is open. -/
def finish (env : Environment) (v : Value) : Option String :=
  match v.mode with
  | .single | .bracedName _ => none
  | .name read =>
    if v.double then none else some (String.ofList (v.substitute env read).read.reverse)
  | _ => if v.double then none else some (String.ofList v.read.reverse)

end Value

/-- Read a value. -/
def value? (env : Environment) (cs : List Char) : Option String := do
  let v ← cs.foldlM (Value.step env) {}
  v.finish env

/-! ## Assignments -/

def isNameChar (c : Char) : Bool := c.isAlphanum || c == '_' || c == '.'

/-- The name in front of a text, and the text after it and its blanks. -/
def takeName : List Char → Option (List Char × List Char)
  | [] => none
  | c :: cs =>
    if c.isAlpha || c == '_' then
      some ((c :: cs).takeWhile isNameChar,
        ((c :: cs).dropWhile isNameChar).dropWhile Text.isBlankChar)
    else none

/-- The name that a line assigns to, and the text after the equals sign. The word `export` may stand
in front. -/
def target? (cs : List Char) : Option (List Char × List Char) :=
  match takeName cs with
  | some (name, '=' :: rest) => some (name, rest)
  | some (['e', 'x', 'p', 'o', 'r', 't'], rest) =>
    match takeName rest with
    | some (name, '=' :: rest) => some (name, rest)
    | _ => none
  | _ => none

/-- The variable and its value in the assignment of a line that is not blank. -/
def assignment? (env : Environment) (line : List Char) : Option (String × String) := do
  let (name, rest) ← target? line
  let rest := rest.dropWhile Text.isBlankChar
  let value ← if rest.isEmpty || rest.head? == some '#' then some "" else value? env rest
  some (String.ofList name, value)

/-- Carry out the assignments of lines, up to the first that is none; nothing if a variable cannot
be set. -/
def assignAll? (env : Environment) : List (List Char) → Option Environment
  | [] => some env
  | line :: lines =>
    let line := Text.trim line
    if line.isEmpty || line.head? == some '#' then assignAll? env lines
    else match assignment? env line with
      | some (name, value) => (env.setNew? name value).bind fun env => assignAll? env lines
      | none => some env

/-- Set the variables that a file assigns to and that are not set yet. -/
def load? (env : Environment) (text : String) : Option Environment :=
  let cs := match text.toList with
    | '\uFEFF' :: cs => cs
    | cs => cs
  assignAll? env (joinLines [] .plain (physicalLines cs))

end FacetedSearch.Environment
