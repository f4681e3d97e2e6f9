import FacetedSearch.Json.Printer
import FacetedSearch.Request.Compiler

/-!
# Responses

A response of the backend, read as the answer to a request: hits, pages, and the options of each
facet.
-/

namespace FacetedSearch

/-- A document that was found. -/
structure SearchHit where
  id : String
  score : Option Binary64
  source : Json
  /-- The values that the backend sorted the document by. -/
  sort : List Json

/-- Where in the pages of a result a request stands. -/
structure Pagination where
  currentPage : UInt64
  lastPage : UInt64
  pageSize : UInt64
  totalCount : UInt64
  deriving DecidableEq, Repr

/-- What a result is sorted by first. -/
structure SortInfo where
  field : String
  direction : SortDirection
  deriving DecidableEq, Repr

/-- A value of a facet with the number of its documents. -/
structure FacetOption where
  label : String
  value : String
  count : UInt64
  deriving DecidableEq, Repr

/-- The options of a facet. -/
structure FacetResult where
  field : String
  label : String
  type : FacetType
  /-- How many options were returned. -/
  count : Nat
  /-- Whether there are more options than were returned. -/
  hasMore : Bool
  options : List FacetOption
  deriving DecidableEq, Repr

/-- The answer to a request. -/
structure SearchResponse where
  took : UInt64
  timedOut : Bool
  total : UInt64
  hits : List SearchHit
  pagination : Pagination
  sortInfo : Option SortInfo
  facets : List FacetResult
  /-- The values of pipelines by their names. -/
  metrics : Table Json
  spelling : Spelling

namespace Pagination

/-- The least `k` with `total ≤ k * size`, for a positive `size`. -/
def pages (total size : UInt64) : UInt64 :=
  if total % size = 0 then total / size else total / size + 1

/-- The pages of a result; a request of no documents sees a single empty page. -/
def of (start size total : UInt64) : Pagination :=
  if size = 0 then { currentPage := 1, lastPage := 1, pageSize := 0, totalCount := total }
  else { currentPage := start / size + 1, lastPage := max (pages total size) 1, pageSize := size,
         totalCount := total }

def toJson (p : Pagination) : Json :=
  .object [("current_page", Json.ofUInt64 p.currentPage), ("last_page", Json.ofUInt64 p.lastPage),
    ("page_size", Json.ofUInt64 p.pageSize), ("total_count", Json.ofUInt64 p.totalCount)]

end Pagination

namespace SearchHit

/-- The identifier of a hit as text. -/
def idOf : Option Json → Except ResponseFault String
  | some (.string s) => .ok s
  | some (.int n) => .ok (toString n)
  | some (.float x) => .ok (Json.floatText x)
  | _ => .error .hitWithoutId

/-- The document of a hit; it needs an identifier. -/
def ofJson (j : Json) : Except ResponseFault SearchHit :=
  match j with
  | .object members => do
    let id ← idOf (members.lookup "_id")
    .ok { id, score := (members.lookup "_score").bind Json.float?,
          source := (members.lookup "_source").getD (.object []),
          sort := ((members.lookup "sort").bind Json.array?).getD [] }
  | _ => .error .hitNotObject

def toJson (h : SearchHit) : Json :=
  .object [("id", .string h.id), ("score", Json.ofOption .float h.score), ("source", h.source),
    ("sort", .array h.sort)]

end SearchHit

namespace FacetOption

/-- The value of a bucket as text. -/
def valueOf (facet : String) (b : Json) : Except ResponseFault String :=
  match b.get? "key_as_string", b.get? "key" with
  | some (.string s), _ => .ok s
  | _, some (.string s) => .ok s
  | _, some (.int n) => .ok (toString n)
  | _, some (.float x) => .ok (Json.floatText x)
  | _, some (.bool true) => .ok "true"
  | _, some (.bool false) => .ok "false"
  | _, _ => .error (.bucketWithoutKey facet)

/-- The option of a bucket; it is labelled by its value if nothing else is configured. -/
def ofJson (facet : String) (label? : String → Option String) (b : Json) :
    Except ResponseFault FacetOption := do
  let value ← valueOf facet b
  match (b.get? "doc_count").bind Json.uint64? with
  | some count => .ok { label := (label? value).getD value, value, count }
  | none => .error (.bucketWithoutCount value facet)

def toJson (o : FacetOption) : Json :=
  .object [("label", .string o.label), ("value", .string o.value),
    ("count", Json.ofUInt64 o.count)]

end FacetOption

namespace FacetResult

mutual

/-- Follow the entries of a name down to the first value with buckets. -/
def unwrap? (name : String) : Json → Option Json
  | .object members =>
    if (members.lookup "buckets").isSome then some (.object members) else unwrapMember? name members
  | _ => none

/-- Follow the first member of the name. -/
def unwrapMember? (name : String) : List (String × Json) → Option Json
  | [] => none
  | (k, j) :: rest => if k = name then unwrap? name j else unwrapMember? name rest

end

/-- The label of a value of the facet that goes by the bucket's name. -/
def labelOf? (b : Bucket) (c : Container) (value : String) : Option String :=
  (c.field? b.name).bind fun f => f.optionLabel? c.catalog.code value

/-- The result of a facet with the options of a payload. -/
def report (b : Bucket) (c : Container) (payload : Json) (options : List FacetOption) :
    FacetResult where
  field := b.name
  label := match c.field? b.name with
    | some f => f.title
    | none => b.name
  type := match c.field? b.name with
    | some f => f.type.facetType
    | none => .checkbox
  count := options.length
  hasMore := match (payload.get? "sum_other_doc_count").bind Json.uint64? with
    | some n => decide (0 < n)
    | none => false
  options := options

/-- The options of a bucket aggregation from what the backend says under its name. -/
def ofJson (b : Bucket) (c : Container) (j : Json) : Except ResponseFault FacetResult :=
  match unwrap? b.name j with
  | none => .error (.noBuckets b.name)
  | some payload =>
    match (payload.get? "buckets").bind Json.array? with
    | none => .error (.bucketsNotArray b.name)
    | some elements =>
      (elements.mapM (FacetOption.ofJson b.name (labelOf? b c))).map (report b c payload)

def toJson (r : FacetResult) : Json :=
  .object [("field", .string r.field), ("label", .string r.label),
    ("facet_type", .string r.type.name), ("count", .int r.count),
    ("has_more", .bool r.hasMore), ("options", .array (r.options.map FacetOption.toJson))]

end FacetResult

namespace SearchResponse

/-- The number of documents found, given plainly or as the value of an object. -/
def totalOf : Option Json → Except ResponseFault UInt64
  | none => .ok 0
  | some (.object members) =>
    match (members.lookup "value").bind Json.uint64? with
    | some n => .ok n
    | none => .error .noTotalValue
  | some (.int n) =>
    match Json.uint64? (.int n) with
    | some n => .ok n
    | none => .error .negativeTotal
  | some (.float _) => .error .negativeTotal
  | some _ => .error .oddTotal

/-- The documents found. -/
def hitsOf : Option Json → Except ResponseFault (List SearchHit)
  | none | some .null => .ok []
  | some (.array items) => items.mapM SearchHit.ofJson
  | some _ => .error .hitsNotArray

/-- The facets and the pipeline values of a response. -/
def aggregationsOf (c : Container) (sections : Json.Members) :
    List Aggregation → Except ResponseFault (List FacetResult × Table Json)
  | [] => .ok ([], .empty)
  | a :: rest =>
    match sections.lookup a.name, a with
    | none, _ => aggregationsOf c sections rest
    | some j, .bucket b => do
      let facet ← FacetResult.ofJson b c j
      let (facets, metrics) ← aggregationsOf c sections rest
      .ok (facet :: facets, metrics)
    | some j, .pipeline p => do
      let (facets, metrics) ← aggregationsOf c sections rest
      .ok (facets, metrics.insert p.name ((j.get? "value").getD j))

/-- The aggregations of a response, none if it lacks them. -/
def sectionsOf : Option Json → Except ResponseFault Json.Members
  | none => .ok []
  | some (.object members) => .ok members
  | some _ => .error .aggregationsNotObject

/-- The section of the documents, which a response has to have. -/
def foundOf : Option Json → Except ResponseFault Json.Members
  | some (.object members) => .ok members
  | _ => .error .noHitsSection

/-- The answer to a request that a response of the backend holds. -/
def parse (raw : Json) (r : CompiledRequest) (c : Container) :
    Except ResponseFault SearchResponse :=
  match raw with
  | .object root => do
    let found ← foundOf (root.lookup "hits")
    let total ← totalOf (found.lookup "total")
    let hits ← hitsOf (found.lookup "hits")
    let sections ← sectionsOf (root.lookup "aggregations")
    let (facets, metrics) ← aggregationsOf c sections r.aggregations
    .ok { took := ((root.lookup "took").bind Json.uint64?).getD 0,
          timedOut := ((root.lookup "timed_out").bind Json.bool?).getD false,
          total, hits, pagination := .of r.start r.size total,
          sortInfo := r.sort.head?.map fun clause =>
            { field := clause.key, direction := clause.direction },
          facets, metrics, spelling := r.spelling }
  | _ => .error .notObject

/-- The outcome of `parse` as a result. -/
def ofBackend (raw : Json) (r : CompiledRequest) (c : Container) : Result SearchResponse :=
  (parse raw r c).mapError .invalidResponse

def toJson (r : SearchResponse) : Json :=
  .object [("took_ms", Json.ofUInt64 r.took), ("timed_out", .bool r.timedOut),
    ("total", Json.ofUInt64 r.total), ("hits", .array (r.hits.map SearchHit.toJson)),
    ("pagination", r.pagination.toJson),
    ("sort_info", Json.ofOption (fun (s : SortInfo) =>
      .object [("field", .string s.field), ("direction", .string s.direction.name)]) r.sortInfo),
    ("facets", .array (r.facets.map FacetResult.toJson)), ("metrics", r.metrics.toJson id),
    ("spelling_type", .string r.spelling.name)]

end SearchResponse

end FacetedSearch
