import FacetedSearch.Query.Codec

/-!
# Filter criteria

What a caller filters by: tests on fields, and combinations of them.
-/

namespace FacetedSearch

/-- A test on a field. -/
inductive Test where
  /-- A value equals the given one, or one of the given ones; just one of the two has to be set. -/
  | equal (eq : Option Scalar) (oneOf : Option (List Scalar))
  | range (bounds : Bounds)
  | textMatch (text : String)
  | present

/-- A filter criterion. -/
inductive Criterion where
  | leaf (field : String) (test : Test)
  /-- All of `must`, one of `should` if there is any, and none of `mustNot`. -/
  | bool (must should mustNot : List Criterion)
  deriving Inhabited

namespace Test

/-- The name of the test in JSON. -/
def name : Test → String
  | equal .. => "equalFilter"
  | range _ => "rangeFilter"
  | textMatch _ => "matchFilter"
  | present => "existFilter"

/-- The members of the test, its field aside. -/
def members : Test → Json.Members
  | equal eq oneOf =>
    Json.member? "eq" Scalar.toJson eq ++
      Json.member? "in" (fun vs => .array (vs.map Scalar.toJson)) oneOf
  | range bounds => bounds.members
  | textMatch text => [("match", .string text)]
  | present => []

end Test

namespace Criterion

/-- The field that a test is on. -/
def field? : Criterion → Option String
  | leaf field _ => some field
  | bool .. => none

mutual

/-- Write a criterion. -/
def toJson : Criterion → Json
  | leaf field test => .single test.name (.object (("field", .string field) :: test.members))
  | bool must should mustNot =>
    .single "boolFilter" (.object [("_must", .array (toJsonList must)),
      ("_should", .array (toJsonList should)), ("_not", .array (toJsonList mustNot))])

def toJsonList : List Criterion → List Json
  | [] => []
  | c :: rest => toJson c :: toJsonList rest

end

/-! ## Reading -/

/-- A value with what it is when read as a criterion, as a list of criteria and as the clauses of a
combination. -/
structure Parsed where
  json : Json
  criterion : Option Criterion
  criteria : Option (List Criterion)
  clauses : Option Criterion

/-- Read a test of a known name. -/
def testOf? (name : String) (j : Json) : Option Criterion :=
  match name with
  | "equalFilter" => do
    let r ← j.record? ["field", "eq", "in"]
    let field ← r.require "field" Json.string?
    let eq ← r.optional "eq" Scalar.ofJson?
    let oneOf ← r.optional "in" (Json.listOf Scalar.ofJson?)
    some (leaf field (.equal eq oneOf))
  | "rangeFilter" => do
    let r ← if j.isFinite then Record.ofEntries? ("field" :: Bounds.names) (← j.object?) else none
    let field ← r.require "field" Json.string?
    let bounds ← Bounds.ofRecord? id r
    some (leaf field (.range bounds))
  | "matchFilter" => do
    let r ← j.record? ["field", "match"]
    let field ← r.require "field" Json.string?
    let text ← r.require "match" Json.string?
    some (leaf field (.textMatch text))
  | "existFilter" => do
    let r ← j.record? ["field"]
    let field ← r.require "field" Json.string?
    some (leaf field .present)
  | _ => none

/-- The names of the clauses of a combination. -/
def clauseNames : List String := ["_must", "_should", "_not"]

/-- Read the clauses of a combination. -/
def clausesOf? (r : Record Parsed) : Option Criterion := do
  let must ← r.getD "_must" Parsed.criteria []
  let should ← r.getD "_should" Parsed.criteria []
  let mustNot ← r.getD "_not" Parsed.criteria []
  some (bool must should mustNot)

/-- Read a criterion from the only entry of an object. -/
def ofEntries? : List (String × Parsed) → Option Criterion
  | [(name, p)] => if name = "boolFilter" then p.clauses else testOf? name p.json
  | _ => none

mutual

/-- Read a value that stands inside a criterion. -/
def parse : Json → Parsed
  | .object entries =>
    { json := .object entries, criterion := ofEntries? (parseEntries entries), criteria := none,
      clauses := (Record.ofEntries? clauseNames (parseEntries entries)).bind clausesOf? }
  | .array items =>
    { json := .array items, criterion := none,
      criteria := (parseList items).mapM Parsed.criterion,
      clauses := (Record.ofItems? clauseNames (parseList items)).bind clausesOf? }
  | j => { json := j, criterion := none, criteria := none, clauses := none }

def parseList : List Json → List Parsed
  | [] => []
  | j :: rest => parse j :: parseList rest

def parseEntries : List (String × Json) → List (String × Parsed)
  | [] => []
  | (k, j) :: rest => (k, parse j) :: parseEntries rest

end

/-- Read a criterion. -/
def ofJson? (j : Json) : Option Criterion := (parse j).criterion

end Criterion

end FacetedSearch
