import FacetedSearch.Field.Code
import FacetedSearch.Table

/-!
# Sort keys

What a caller asks to sort by, what the backend is told, and the substitution of a sort field by
the business context.
-/

namespace FacetedSearch

/-- The direction of a sort. -/
inductive SortDirection where
  | asc
  | desc
  deriving DecidableEq, Repr, Inhabited

/-- Where documents without a value go. -/
inductive MissingPlacement where
  | first
  | last
  deriving DecidableEq, Repr

/-- A sort key as the caller gives it. -/
structure SortSpec where
  field : String
  direction : SortDirection := .asc
  deriving DecidableEq, Repr

/-- A sort key as the backend is given it: `field` is the path in the document, `key` its flattened
form. -/
structure SortClause where
  field : String
  key : String
  direction : SortDirection
  missing : Option MissingPlacement := none
  nestedPath : Option String := none
  deriving DecidableEq, Repr

/-- With one of the `targets` as value of `contextKey` in the business context, a sort on `field`
means a sort on that target. -/
structure SortOverride where
  field : String
  contextKey : String
  targets : Table String := .empty

/-- Values of the business context. -/
abbrev Context := Table String

namespace SortDirection

def name : SortDirection → String
  | asc => "asc"
  | desc => "desc"

/-- A direction is read in lower or in upper case. -/
def ofName? : String → Option SortDirection
  | "asc" | "ASC" => some asc
  | "desc" | "DESC" => some desc
  | _ => none

/-- Documents without a value go last in ascending and first in descending order. -/
def missing : SortDirection → MissingPlacement
  | asc => .last
  | desc => .first

/-- Which of several values of a document counts. -/
def mode : SortDirection → String
  | asc => "min"
  | desc => "max"

end SortDirection

namespace MissingPlacement

def name : MissingPlacement → String
  | first => "_first"
  | last => "_last"

def ofName? : String → Option MissingPlacement
  | "_first" => some first
  | "_last" => some last
  | _ => none

end MissingPlacement

namespace SortSpec

def toJson (s : SortSpec) : Json :=
  .object [("field", .string s.field), ("direction", .string s.direction.name)]

def ofJson? (j : Json) : Option SortSpec := do
  let r ← j.record? ["field", "direction"]
  let field ← r.require "field" Json.string?
  let direction ← r.getD "direction" (Json.choice SortDirection.ofName?) .asc
  some { field, direction }

end SortSpec

namespace SortClause

/-- The field that stands for relevance. -/
def scoreField : String := "_score"

/-- The field that stands for the backend's identifier of a document. -/
def idField : String := "_id"

/-- A clause on a field that is no field of the documents. -/
def pseudo (field : String) (direction : SortDirection) : SortClause :=
  { field, key := field, direction }

/-- A clause on relevance. -/
def score (direction : SortDirection) : SortClause := pseudo scoreField direction

def isScore (c : SortClause) : Bool := c.field == scoreField

/-- The clause as the backend is given it. -/
def wire (c : SortClause) : Json :=
  .single c.field (.object (
    ("order", .string c.direction.name) ::
      Json.member? "missing" (fun m => .string (MissingPlacement.name m)) c.missing ++
      match c.nestedPath with
      | some path =>
        [("mode", .string c.direction.mode), ("nested", .single "path" (.string path))]
      | none => []))

def toJson (c : SortClause) : Json :=
  .object ([("field", .string c.field), ("key", .string c.key),
      ("direction", .string c.direction.name)] ++
    Json.member? "missing" (fun m => .string (MissingPlacement.name m)) c.missing ++
    Json.member? "nested_path" .string c.nestedPath)

def ofJson? (j : Json) : Option SortClause := do
  let r ← j.record? ["field", "key", "direction", "missing", "nested_path"]
  let field ← r.require "field" Json.string?
  let key ← r.require "key" Json.string?
  let direction ← r.require "direction" (Json.choice SortDirection.ofName?)
  let missing ← r.optional "missing" (Json.choice MissingPlacement.ofName?)
  let nestedPath ← r.optional "nested_path" Json.string?
  some { field, key, direction, missing, nestedPath }

end SortClause

namespace SortOverride

/-- The field that the context puts in place of the override's field, if any. -/
def target? (o : SortOverride) (context : Context) : Option String :=
  (context.get? o.contextKey).bind o.targets.get?

/-- Whether the override is for the field that a reference names, points and their flattened form
being the same. -/
def isFor (o : SortOverride) (reference : String) : Bool :=
  Code.flatten o.field == Code.flatten reference

def toJson (o : SortOverride) : Json :=
  .object [("field", .string o.field), ("context_key", .string o.contextKey),
    ("targets", o.targets.toJson .string)]

def ofJson? (a : Json.Atoms) (j : Json) : Option SortOverride := do
  let r ← a.record? ["field", "context_key", "targets"] j
  let field ← r.require "field" a.text?
  let contextKey ← r.require "context_key" a.text?
  let targets ← r.getD "targets" (Table.ofJson? a.text?) .empty
  some { field, contextKey, targets }

end SortOverride

end FacetedSearch
