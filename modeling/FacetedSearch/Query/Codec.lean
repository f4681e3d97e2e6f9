import FacetedSearch.Query.Basic

/-!
# Queries as JSON

A query is written as an object whose member `type` names its kind. It is read from such an object,
or from an array that starts with the kind; inside another query of a JSON text the kind may also be
given by its position.
-/

namespace FacetedSearch

namespace Bounds

/-- The names of the bounds. -/
def names : List String := ["gt", "gte", "lt", "lte"]

/-- Read the bounds among the members of a record. -/
def ofRecord? {β : Type} (json : β → Json) (r : Record β) : Option Bounds := do
  let gt ← r.getD "gt" (fun b => Json.nullable Scalar.ofAtom? (json b)) none
  let gte ← r.getD "gte" (fun b => Json.nullable Scalar.ofAtom? (json b)) none
  let lt ← r.getD "lt" (fun b => Json.nullable Scalar.ofAtom? (json b)) none
  let lte ← r.getD "lte" (fun b => Json.nullable Scalar.ofAtom? (json b)) none
  some { gt, gte, lt, lte }

end Bounds

/-- The members that any query ends with. -/
def Label.members (l : Label) : Json.Members :=
  [("name", Json.ofOption .string l.name), ("boost", .float l.boost)]

/-- The members of a condition, its kind and field aside. -/
def Condition.members : Condition → Json.Members
  | textMatch text minimum analyzer =>
    [("query_text", .string text), ("minimum_should_match", Json.ofOption .string minimum),
     ("analyzer", Json.ofOption .string analyzer)]
  | phrasePrefix text maxExpansions =>
    [("query_text", .string text), ("max_expansions", Json.ofUInt32 maxExpansions)]
  | phrase text => [("query_text", .string text)]
  | present => []
  | range bounds => bounds.members
  | term value => [("value", value.toJson)]
  | terms values => [("values", .array (values.map Scalar.toJson))]

namespace Query

mutual

/-- Write a query. -/
def toJson : Query → Json
  | leaf field c l =>
    .object (("type", .string c.kind.name) :: ("field", .string field) :: c.members ++ l.members)
  | bool must should mustNot minimum l =>
    .object ([("type", .string Kind.bool.name), ("must", .array (toJsonList must)),
      ("should", .array (toJsonList should)), ("must_not", .array (toJsonList mustNot)),
      ("minimum_should_match", .string minimum)] ++ l.members)
  | nested path q mode l =>
    .object ([("type", .string Kind.nested.name), ("path", .string path), ("query", toJson q),
      ("score_mode", .string mode.name)] ++ l.members)
  | filtered none none l =>
    .object ([("type", .string Kind.filtered.name), ("query", .null), ("filter", .null)] ++
      l.members)
  | filtered (some q) none l =>
    .object ([("type", .string Kind.filtered.name), ("query", toJson q), ("filter", .null)] ++
      l.members)
  | filtered none (some f) l =>
    .object ([("type", .string Kind.filtered.name), ("query", .null), ("filter", toJson f)] ++
      l.members)
  | filtered (some q) (some f) l =>
    .object ([("type", .string Kind.filtered.name), ("query", toJson q), ("filter", toJson f)] ++
      l.members)

def toJsonList : List Query → List Json
  | [] => []
  | q :: rest => toJson q :: toJsonList rest

end

/-! ## Reading -/

/-- A value with what it is when read as a query and as a list of queries. -/
structure Parsed where
  json : Json
  query : Option Query
  queries : Option (List Query)

/-- The names of the members of a kind, in their order. -/
def memberNames : Kind → List String
  | .bool => ["must", "should", "must_not", "minimum_should_match", "name", "boost"]
  | .textMatch => ["field", "query_text", "minimum_should_match", "analyzer", "name", "boost"]
  | .phrasePrefix => ["field", "query_text", "max_expansions", "name", "boost"]
  | .phrase => ["field", "query_text", "name", "boost"]
  | .present => ["field", "name", "boost"]
  | .range => ["field", "gt", "gte", "lt", "lte", "name", "boost"]
  | .term => ["field", "value", "name", "boost"]
  | .terms => ["field", "values", "name", "boost"]
  | .nested => ["path", "query", "score_mode", "name", "boost"]
  | .filtered => ["query", "filter", "name", "boost"]

def labelOf? (r : Record Parsed) : Option Label := do
  let name ← r.getD "name" (fun p => Json.nullable Json.string? p.json) none
  let boost ← r.getD "boost" (fun p => p.json.float?) .one
  some { name, boost }

/-- Read the condition of a leaf. -/
def conditionOf? (k : Kind) (r : Record Parsed) : Option Condition :=
  match k with
  | .textMatch => do
    let text ← r.require "query_text" (fun p => p.json.string?)
    let minimum ← r.getD "minimum_should_match" (fun p => Json.nullable Json.string? p.json) none
    let analyzer ← r.getD "analyzer" (fun p => Json.nullable Json.string? p.json) none
    some (.textMatch text minimum analyzer)
  | .phrasePrefix => do
    let text ← r.require "query_text" (fun p => p.json.string?)
    let maxExpansions ← r.getD "max_expansions" (fun p => p.json.uint32?) defaultMaxExpansions
    some (.phrasePrefix text maxExpansions)
  | .phrase => (r.require "query_text" (fun p => p.json.string?)).map .phrase
  | .present => some .present
  | .range => (Bounds.ofRecord? Parsed.json r).map .range
  | .term => (r.require "value" (fun p => Scalar.ofAtom? p.json)).map .term
  | .terms => (r.require "values" (fun p => Json.listOf Scalar.ofAtom? p.json)).map .terms
  | .bool | .nested | .filtered => none

/-- A query that may be null. -/
def nullableQuery (p : Parsed) : Option (Option Query) :=
  match p.json with
  | .null => some none
  | _ => p.query.map some

/-- Read a query of a known kind. -/
def ofRecord? (k : Kind) (r : Record Parsed) : Option Query :=
  match k with
  | .bool => do
    let must ← r.getD "must" Parsed.queries []
    let should ← r.getD "should" Parsed.queries []
    let mustNot ← r.getD "must_not" Parsed.queries []
    let minimum ← r.getD "minimum_should_match" (fun p => p.json.string?) defaultMinimumShouldMatch
    let l ← labelOf? r
    some (bool must should mustNot minimum l)
  | .nested => do
    let path ← r.require "path" (fun p => p.json.string?)
    let q ← r.require "query" Parsed.query
    let mode ← r.getD "score_mode" (fun p => Json.innerChoice ScoreMode.ofName? p.json) .none
    let l ← labelOf? r
    some (nested path q mode l)
  | .filtered => do
    let q ← r.getD "query" nullableQuery none
    let f ← r.getD "filter" nullableQuery none
    let l ← labelOf? r
    some (filtered q f l)
  | k => do
    let field ← r.require "field" (fun p => p.json.string?)
    let c ← conditionOf? k r
    let l ← labelOf? r
    some (leaf field c l)

/-- Read the kind from its name, or from its position where that is allowed. -/
def kindOf? (positions : Bool) : Json → Option Kind
  | .string s => Kind.ofName? s
  | .int n => if positions && decide (0 ≤ n) then Kind.all[n.toNat]? else none
  | _ => none

/-- Read a query from the entries of an object, just one of which gives the kind. -/
def ofEntries? (positions : Bool) (entries : List (String × Parsed)) : Option Query :=
  match entries.filter fun e => e.1 == "type" with
  | [(_, tag)] => do
    let k ← kindOf? positions tag.json
    let r ← Record.ofEntries? (memberNames k) (entries.filter fun e => e.1 != "type")
    ofRecord? k r
  | _ => none

/-- Read a query from the items of an array, the first of which gives the kind. A range has no such
form. -/
def ofItems? (positions : Bool) (items : List Parsed) : Option Query :=
  match items with
  | tag :: rest => do
    let k ← kindOf? positions tag.json
    let r ← if k = .range then none else Record.ofItems? (memberNames k) rest
    ofRecord? k r
  | [] => none

mutual

/-- Read a value that stands inside a query. -/
def parse (positions : Bool) : Json → Parsed
  | .object entries =>
    ⟨.object entries, ofEntries? positions (parseEntries positions entries), none⟩
  | .array items =>
    ⟨.array items, ofItems? positions (parseList positions items),
      (parseList positions items).mapM Parsed.query⟩
  | j => ⟨j, none, none⟩

def parseList (positions : Bool) : List Json → List Parsed
  | [] => []
  | j :: rest => parse positions j :: parseList positions rest

def parseEntries (positions : Bool) : List (String × Json) → List (String × Parsed)
  | [] => []
  | (k, j) :: rest => (k, parse positions j) :: parseEntries positions rest

end

/-- Read a query. -/
def ofTagged? (t : Json.Tagging) (j : Json) : Option Query :=
  if t.finite && !j.isFinite then none
  else match j with
    | .object entries => ofEntries? false (parseEntries t.positions entries)
    | .array items => ofItems? false (parseList t.positions items)
    | _ => none

/-- Read a query from JSON text. -/
def ofJson? (j : Json) : Option Query := ofTagged? .strict j

end Query

end FacetedSearch
