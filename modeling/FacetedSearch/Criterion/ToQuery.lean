import FacetedSearch.Container.Basic
import FacetedSearch.Criterion.Basic

/-!
# Criteria as queries

A criterion becomes a query on the codes of the fields it names. A test on a field inside a nested
object is wrapped in a query on that object's path.
-/

namespace FacetedSearch

namespace Container

/-- The filterable field that a reference names. -/
def filterableField (c : Container) (reference : String) : Result Field := do
  let f ← c.requireField reference
  if f.filterable then .ok f else .error (.malformedQuery (.notFilterable reference))

end Container

namespace Field

/-- A query on the field, wrapped in a query on the field's nested path if it has one. -/
def wrapNested (f : Field) (q : Query) (scoreMode : ScoreMode := .none) :
    Except QueryFault Query :=
  match f.nestedPath with
  | some path => Query.nested? path q scoreMode
  | none => .ok q

/-- Refuse a kind of query that the field's type does not support. -/
def ensureSupports (f : Field) (k : Query.Kind) : Except QueryFault Unit :=
  if f.type.supports k then .ok () else .error (.unsupported k f.type f.code)

end Field

namespace Test

/-- The condition that a test on a field means; the field's reference serves for the fault. -/
def condition? (reference : String) : Test → Except QueryFault Condition
  | equal (some v) none => .ok (.term v)
  | equal none (some vs) => .ok (.terms (Scalar.distinct vs))
  | equal _ _ => .error (.needsOneEquality reference)
  | range bounds => .ok (.range bounds)
  | textMatch text => .ok (.textMatch text none none)
  | present => .ok .present

/-- The query that a test on a field means. -/
def query? (f : Field) (reference : String) (t : Test) : Except QueryFault Query := do
  let condition ← t.condition? reference
  f.ensureSupports condition.kind
  let q ← Query.leaf? f.code condition
  f.wrapNested q

end Test

namespace Criterion

mutual

/-- The query that a criterion means in a container. -/
def toQuery (c : Container) : Criterion → Result Query
  | leaf reference test => do
    let f ← c.filterableField reference
    (test.query? f reference).mapError .malformedQuery
  | bool must should mustNot => do
    let must ← toQueries c must
    let should ← toQueries c should
    let mustNot ← toQueries c mustNot
    (Query.bool? must should mustNot).mapError .malformedQuery

def toQueries (c : Container) : List Criterion → Result (List Query)
  | [] => .ok []
  | k :: rest => do
    let q ← toQuery c k
    let qs ← toQueries c rest
    .ok (q :: qs)

end

end Criterion

end FacetedSearch
