import FacetedSearch.Aggregation.Facet
import FacetedSearch.Criterion.Basic

/-!
# Search intents

Everything a caller wants from one search.
-/

namespace FacetedSearch

/-- What is searched for: a text, or a query that is ready. -/
inductive QueryInput where
  | text (text : String)
  | node (query : Query)

/-- A search as the caller describes it. -/
structure Intent where
  /-- The code or number of the catalog. -/
  catalog : String
  container : String
  name : Option String := none
  start : UInt64 := 0
  size : UInt64 := 20
  query : Option QueryInput := none
  sort : List SortSpec := []
  filters : List Criterion := []
  /-- Filters that are ready. -/
  queryFilters : List Query := []
  facets : List FacetSpec := []
  context : Context := .empty

namespace QueryInput

def toJson : QueryInput → Json
  | text t => .single "text" (.string t)
  | node q => .single "node" q.toJson

def ofJson? (j : Json) : Option QueryInput :=
  match j.variant? with
  | some ("text", v) => v.string?.map text
  | some ("node", v) => (Query.ofJson? v).map node
  | _ => none

end QueryInput

namespace Intent

/-- The names of the members, in their order. -/
def memberNames : List String :=
  ["catalog", "container", "name", "from", "size", "query", "sort", "filters", "query_filters",
   "facets", "context"]

def toJson (i : Intent) : Json :=
  .object [("catalog", .string i.catalog), ("container", .string i.container),
    ("name", Json.ofOption .string i.name), ("from", Json.ofUInt64 i.start),
    ("size", Json.ofUInt64 i.size), ("query", Json.ofOption QueryInput.toJson i.query),
    ("sort", .array (i.sort.map SortSpec.toJson)),
    ("filters", .array (i.filters.map Criterion.toJson)),
    ("query_filters", .array (i.queryFilters.map Query.toJson)),
    ("facets", .array (i.facets.map FacetSpec.toJson)), ("context", i.context.toJson .string)]

def ofJson? (j : Json) : Option Intent := do
  let r ← j.record? memberNames
  let catalog ← r.require "catalog" Json.string?
  let container ← r.require "container" Json.string?
  let name ← r.optional "name" Json.string?
  let start ← r.getD "from" Json.uint64? 0
  let size ← r.getD "size" Json.uint64? 20
  let query ← r.optional "query" QueryInput.ofJson?
  let sort ← r.listD "sort" SortSpec.ofJson?
  let filters ← r.listD "filters" Criterion.ofJson?
  let queryFilters ← r.listD "query_filters" Query.ofJson?
  let facets ← r.listD "facets" FacetSpec.ofJson?
  let context ← r.getD "context" (Table.ofJson? Json.string?) .empty
  some { catalog, container, name, start, size, query, sort, filters, queryFilters, facets,
         context }

end Intent

end FacetedSearch
