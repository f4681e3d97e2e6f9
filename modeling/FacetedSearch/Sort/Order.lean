import FacetedSearch.Container.Basic

/-!
# Sort orders

The clauses that a list of sort keys stands for in a container, ended by one clause that breaks
ties, and the sort choices to offer.
-/

namespace FacetedSearch

/-- A sort choice to offer. -/
structure SortingOption where
  code : String
  label : String
  deriving DecidableEq, Repr

def SortingOption.toJson (o : SortingOption) : Json :=
  .object [("code", .string o.code), ("label", .string o.label)]

namespace Container

/-- The clause that sorts by a field. -/
def sortClause (f : Field) (direction : SortDirection) : SortClause :=
  { field := f.code, key := f.key, direction, missing := some direction.missing,
    nestedPath := f.nestedPath }

/-- The sortable field that a reference names. -/
def sortableField? (c : Container) (reference : String) : Option Field :=
  (c.field? reference).filter (·.sortable)

/-- The reference that a sort field stands for in a context. -/
def sortTarget (c : Container) (context : Context) (reference : String) : String :=
  ((c.sortOverride? reference).bind fun o => o.target? context).getD reference

/-- The clause of a sort key. -/
def resolveSort (c : Container) (context : Context) (s : SortSpec) : Result SortClause :=
  if s.field = SortClause.scoreField ∨ s.field = SortClause.idField then
    .ok (.pseudo s.field s.direction)
  else
    match c.sortableField? (c.sortTarget context s.field) with
    | some f => .ok (sortClause f s.direction)
    | none => .error (.unsortableField s.field)

/-- The clause that breaks ties: relevance, or the identifier if relevance is sorted by already,
unless that is not sortable or sorted by too. -/
def tieBreak (c : Container) (identifier : String) (clauses : List SortClause) :
    Option SortClause :=
  if clauses.any (·.isScore) then
    match c.sortableField? identifier with
    | some f => if clauses.any (·.field == f.code) then none else some (sortClause f .desc)
    | none => none
  else some (.score .desc)

/-- The clauses of a list of sort keys; relevance alone if there is no key. -/
def sortOrder (c : Container) (identifier : String) (specs : List SortSpec) (context : Context) :
    Result (List SortClause) :=
  if specs.isEmpty then .ok [.score .desc]
  else do
    let clauses ← specs.mapM (c.resolveSort context)
    .ok (clauses ++ (c.tieBreak identifier clauses).toList)

/-- Every sortable field except the identifier, and relevance at the end. -/
def sortingOptions (c : Container) (identifier : String) : List SortingOption :=
  (c.sortableFields.filter fun f => f.code != identifier).map
    (fun f => { code := f.key, label := f.title }) ++
  [{ code := SortClause.scoreField, label := "Relevance" }]

/-- The first sorting option. -/
def defaultSorting (c : Container) (identifier : String) : String :=
  match c.sortingOptions identifier with
  | o :: _ => o.code
  | [] => SortClause.scoreField

end Container

end FacetedSearch
