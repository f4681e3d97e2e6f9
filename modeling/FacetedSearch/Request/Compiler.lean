import FacetedSearch.Container.Cache
import FacetedSearch.Criterion.ToQuery
import FacetedSearch.Request.Intent
import FacetedSearch.Sort.Order

/-!
# Compiling requests

An intent becomes a request to the backend: one query with a filter, a filter that is applied after
the facets are counted, sort clauses and aggregations. A criterion on the field of a facet goes into
the later filter, and each facet is counted under the criteria of the other facets.
-/

namespace FacetedSearch

/-- How the text of a search was spelled. -/
inductive Spelling where
  | exact
  | mostExact
  | mostFuzzy
  | allFuzzy
  | pureStopwords
  deriving DecidableEq, Repr, Inhabited

/-- A request to the backend. -/
structure CompiledRequest where
  name : String
  indexName : String
  start : UInt64
  size : UInt64
  /-- The scored query under the filter of the whole request. -/
  query : Query
  /-- Applied after the facets are counted. -/
  postFilter : Option Query
  sort : List SortClause
  aggregations : List Aggregation
  spelling : Spelling

/-- The settings of a compiler and what it leaves to others. -/
structure Compiler where
  settings : SearchSettings := {}
  registry : Registry := .full
  /-- The query that a criterion means. -/
  queryOf : Container → Criterion → Result Query := Criterion.toQuery
  /-- How a text is spelled. -/
  spelling : Container → String → Spelling := fun _ _ => .exact
  /-- Facets besides those asked for. -/
  extraFacets : Container → Intent → Result (List FacetSpec) := fun _ _ => .ok []

namespace Spelling

def all : List Spelling := [exact, mostExact, mostFuzzy, allFuzzy, pureStopwords]

def name : Spelling → String
  | exact => "exact"
  | mostExact => "most_exact"
  | mostFuzzy => "most_fuzzy"
  | allFuzzy => "all_fuzzy"
  | pureStopwords => "pure_stopwords"

def ofName? (s : String) : Option Spelling := all.find? fun t => t.name == s

end Spelling

namespace CompiledRequest

/-- The aggregations as the backend is given them, if there are any. -/
def aggs (r : CompiledRequest) (registry : Registry) : Result (Option Json) :=
  if r.aggregations.isEmpty then .ok none
  else (Aggregation.wireAll registry r.aggregations).map some

/-- The body of the search that the backend is given. -/
def body (r : CompiledRequest) (registry : Registry) : Result Json := do
  let query ← registry.assemble r.query
  let aggs ← r.aggs registry
  let postFilter ← r.postFilter.mapM registry.assemble
  .ok (.object ([("from", Json.ofUInt64 r.start), ("size", Json.ofUInt64 r.size), ("query", query),
    ("sort", .array (r.sort.map SortClause.wire))] ++ Json.member? "aggs" id aggs ++
    Json.member? "post_filter" id postFilter))

end CompiledRequest

namespace Container

/-- The clause of a text query on a field, of the field's weight. -/
def textClause (text : String) (f : Field) : Except QueryFault Query := do
  let q ← Query.leaf? f.code (.textMatch text none none)
  f.wrapNested (q.withLabel { boost := f.weight }) .max

/-- The query for a text: a match on some searchable textual field, or on the field for any text if
the container has none. -/
def textQuery (c : Container) (fulltextField text : String) : Except QueryFault Query := do
  let should ← (c.searchableFields.filter fun f => f.type.supports .textMatch).mapM
    (textClause text)
  if should.isEmpty then Query.leaf? fulltextField (.textMatch text none none)
  else Query.bool? [] should []

/-- The name of the facet that a reference stands for. -/
def facetName (c : Container) (reference : String) : String :=
  match c.field? reference with
  | some f => f.key
  | none => Code.flatten reference

/-- The name of the facet among those given that a criterion is on, if it is a test on a field. -/
def facetOf? (c : Container) (facets : List String) (k : Criterion) : Option String :=
  (k.field?.bind fun reference => (c.field? reference).map (·.key)).filter facets.contains

end Container

/-- The filters of a request: what restricts it as a whole, and what is put off for the sake of the
facets, under the name of the facet it is on. -/
structure FilterParts where
  main : List Query
  faceted : List (String × Query)

namespace FilterParts

/-- The filter of the whole request. -/
def filter (p : FilterParts) : Option Query := Query.conjunction p.main

/-- The filter that is put off. -/
def postFilter (p : FilterParts) : Option Query := Query.conjunction (p.faceted.map (·.2))

/-- What a facet is counted under besides the main filter: all that is put off for other facets. -/
def others (p : FilterParts) (facet : String) : Option Query :=
  Query.conjunction ((p.faceted.filter fun e => e.1 != facet).map (·.2))

/-- The filters of all facets. -/
def facetFilters (p : FilterParts) (facets : List String) : FacetFilters :=
  facets.foldl (fun fs facet =>
    match p.others facet with
    | some q => fs.insert facet q
    | none => fs) {}

end FilterParts

namespace Compiler

/-- The scored query of an intent, and the text it is for. A blank text is no query. -/
def scored (k : Compiler) (c : Container) : Option QueryInput →
    Except QueryFault (Option String × Option Query)
  | some (.text text) =>
    if Text.isBlank text then .ok (none, none)
    else do
      let q ← c.textQuery k.settings.fulltextField text
      .ok (some text, some q)
  | some (.node q) => do
    q.check
    .ok (none, some q)
  | none => .ok (none, none)

/-- Sort the queries of criteria into those for the request as a whole and those that are put
off. -/
def split (k : Compiler) (c : Container) (facets : List String) (parts : FilterParts) :
    List Criterion → Result FilterParts
  | [] => .ok parts
  | criterion :: rest => do
    let q ← k.queryOf c criterion
    match k.settings.facetFilterMode, c.facetOf? facets criterion with
    | .excludeSelf, some facet =>
      split k c facets { parts with faceted := parts.faceted ++ [(facet, q)] } rest
    | _, _ => split k c facets { parts with main := parts.main ++ [q] } rest

/-- The request of an intent in its container. -/
def compile (k : Compiler) (c : Container) (i : Intent) : Result CompiledRequest := do
  let (text, scored) ← (k.scored c i.query).mapError .malformedQuery
  let extra ← k.extraFacets c i
  let facets := i.facets ++ extra
  let facetNames := facets.map fun s => c.facetName s.field
  (Query.checkList i.queryFilters).mapError .malformedQuery
  let parts ← k.split c facetNames { main := c.defaultFilters ++ i.queryFilters, faceted := [] }
    i.filters
  let sort ← c.sortOrder k.settings.identifierField i.sort i.context
  let aggregations ← c.aggregations k.settings (parts.facetFilters facetNames) facets
  .ok { name := i.name.getD c.name, indexName := c.indexName, start := i.start, size := i.size,
        query := .filtered scored parts.filter {}, postFilter := parts.postFilter, sort,
        aggregations, spelling := (text.map (k.spelling c)).getD .exact }

end Compiler

/-- A compiler with the source of its containers, and the containers it has resolved. -/
structure Builder where
  compiler : Compiler
  source : Source
  cache : Resolved := .empty

namespace Builder

/-- A builder on the containers of a configuration. -/
def ofConfig? (c : Config) : Result Builder := do
  let store ← Store.ofConfig? c
  .ok { compiler := { settings := c.search }, source := store.source }

/-- The container of a name in a catalog. -/
def resolve (b : Builder) (catalog container : String) : Result Container × Builder :=
  let r := b.cache.resolve b.source (catalog, container)
  (r.result, { b with cache := r.cache })

/-- The request of an intent. -/
def create (b : Builder) (i : Intent) : Result CompiledRequest × Builder :=
  let (container, b) := b.resolve i.catalog i.container
  (container.bind fun c => b.compiler.compile c i, b)

/-- Forget the containers that were resolved. -/
def invalidate (b : Builder) : Builder := { b with cache := .empty }

end Builder

end FacetedSearch
