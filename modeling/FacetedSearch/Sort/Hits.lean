import FacetedSearch.Sort.Basic

/-!
# Ordering hits

Documents in the order of a list of sort clauses. A document with several values at a path counts
by its least value in ascending and by its greatest in descending order; one without a value goes
where the clause says.
-/

namespace FacetedSearch

/-- A document to be ordered. -/
structure SortableHit where
  id : String
  score : Binary64
  source : Json

/-- A value that documents are ordered by. -/
inductive SortValue where
  | bool (b : Bool)
  | number (x : Binary64)
  | text (s : String)
  deriving DecidableEq, Repr

namespace SortValue

/-- Place of the value's kind. -/
def rank : SortValue → Nat
  | bool _ => 0
  | number _ => 1
  | text _ => 2

/-- Booleans come before numbers and numbers before texts. -/
def compare : SortValue → SortValue → Ordering
  | bool a, bool b => Ord.compare a b
  | number x, number y => x.totalCompare y
  | text s, text t => Ord.compare s t
  | v, w => Ord.compare v.rank w.rank

def ofJson? : Json → Option SortValue
  | .bool b => some (bool b)
  | .int n => some (number (Binary64.ofInt n))
  | .float x => some (number x)
  | .string s => some (text s)
  | _ => none

mutual

/-- The values at a path, through arrays at any level. -/
def allAt : List String → Json → List SortValue
  | path, .array items => allAtList path items
  | step :: path, .object members => allAtMember step path members
  | [], j => (ofJson? j).toList
  | _, _ => []

def allAtList (path : List String) : List Json → List SortValue
  | [] => []
  | j :: rest => allAt path j ++ allAtList path rest

/-- The values under the first member of that name. -/
def allAtMember (step : String) (path : List String) : List (String × Json) → List SortValue
  | [] => []
  | (k, j) :: rest => if k = step then allAt path j else allAtMember step path rest

end

/-- The least of some values. -/
def least? : List SortValue → Option SortValue
  | [] => none
  | v :: rest => some (rest.foldl (fun m w => if (compare w m).isLT then w else m) v)

/-- The greatest of some values. -/
def greatest? : List SortValue → Option SortValue
  | [] => none
  | v :: rest => some (rest.foldl (fun m w => if (compare w m).isLT then m else w) v)

end SortValue

namespace SortClause

/-- The value of a document that a clause looks at. -/
def value? (c : SortClause) (hit : SortableHit) : Option SortValue :=
  if c.field = scoreField then some (.number hit.score)
  else if c.field = idField then some (.text hit.id)
  else
    let values := SortValue.allAt (Code.steps c.field) hit.source
    match c.direction with
    | .asc => SortValue.least? values
    | .desc => SortValue.greatest? values

/-- Compare two values, either of which may be missing. -/
def compareValues (c : SortClause) : Option SortValue → Option SortValue → Ordering
  | some v, some w =>
    match c.direction with
    | .asc => v.compare w
    | .desc => (v.compare w).swap
  | none, none => .eq
  | none, some _ => if c.missing = some .first then .lt else .gt
  | some _, none => if c.missing = some .first then .gt else .lt

/-- Compare two documents by a clause. -/
def compareHits (c : SortClause) (a b : SortableHit) : Ordering :=
  c.compareValues (c.value? a) (c.value? b)

end SortClause

namespace SortableHit

/-- Compare two documents by the first clause that tells them apart. -/
def compareBy (clauses : List SortClause) (a b : SortableHit) : Ordering :=
  clauses.foldr (fun c o => (c.compareHits a b).then o) .eq

/-- Documents in the order of the clauses; those that no clause tells apart keep their order. -/
def order (clauses : List SortClause) (hits : List SortableHit) : List SortableHit :=
  hits.mergeSort fun a b => (compareBy clauses a b).isLE

end SortableHit

end FacetedSearch
