import FacetedSearch.Aggregation.Basic
import FacetedSearch.Container.Basic

/-!
# Facets

What a caller asks to be counted, and the aggregations that answer it.
-/

namespace FacetedSearch

/-- A requested facet. -/
structure FacetSpec where
  field : String
  /-- How many values to return. -/
  size : Option UInt32 := none
  order : TermsOrder := .count
  /-- The buckets of a numeric field, in place of a histogram. -/
  ranges : List RangeBucket := []
  interval : Option Binary64 := none
  calendarInterval : Option String := none
  metrics : List MetricKind := []
  pipelines : List Pipeline := []

namespace FacetSpec

def toJson (s : FacetSpec) : Json :=
  .object [("field", .string s.field), ("size", Json.ofOption Json.ofUInt32 s.size),
    ("order", .string s.order.name), ("ranges", .array (s.ranges.map RangeBucket.toJson)),
    ("interval", Json.ofOption .float s.interval),
    ("calendar_interval", Json.ofOption .string s.calendarInterval),
    ("metrics", .array (s.metrics.map fun m => .string m.name)),
    ("pipelines", .array (s.pipelines.map Pipeline.toJson))]

def ofJson? (j : Json) : Option FacetSpec := do
  let r ← j.record? ["field", "size", "order", "ranges", "interval", "calendar_interval",
    "metrics", "pipelines"]
  let field ← r.require "field" Json.string?
  let size ← r.optional "size" Json.uint32?
  let order ← r.getD "order" (Json.choice TermsOrder.ofName?) .count
  let ranges ← r.listD "ranges" RangeBucket.ofJson?
  let interval ← r.optional "interval" Json.finite?
  let calendarInterval ← r.optional "calendar_interval" Json.string?
  let metrics ← r.listD "metrics" (Json.choice MetricKind.ofName?)
  let pipelines ← r.listD "pipelines" Pipeline.ofJson?
  some { field, size, order, ranges, interval, calendarInterval, metrics, pipelines }

end FacetSpec

/-- The filters of facets, under the flattened codes of their fields. -/
structure FacetFilters where
  filters : Table Query := .empty

namespace FacetFilters

def insert (fs : FacetFilters) (field : String) (q : Query) : FacetFilters :=
  ⟨fs.filters.insert (Code.flatten field) q⟩

def get? (fs : FacetFilters) (field : String) : Option Query :=
  fs.filters.get? (Code.flatten field)

def size (fs : FacetFilters) : Nat := fs.filters.entries.length

end FacetFilters

namespace FacetSpec

/-- How the values of a field are put into buckets: numbers in the ranges asked for or in a
histogram of a positive interval, dates by the calendar, and anything else by value. -/
def bucketKind (s : FacetSpec) (settings : SearchSettings) (f : Field) : BucketKind :=
  if f.type.isNumeric then
    if s.ranges.isEmpty then
      .histogram ((s.interval.filter (·.isPositive)).getD settings.defaultHistogramInterval) 1
    else .range s.ranges
  else if f.type = .date then .dateHistogram (s.calendarInterval.getD "month")
  else .terms (s.size.getD settings.defaultFacetSize) s.order

/-- The bucket of a facet. -/
def bucket (s : FacetSpec) (settings : SearchSettings) (filters : FacetFilters) (f : Field) :
    Bucket where
  name := f.key
  field := f.code
  kind := s.bucketKind settings f
  nestedPath := f.nestedPath
  filter := filters.get? f.key
  children :=
    s.metrics.map (fun k =>
      .metric { name := f.key ++ "_" ++ k.name, field := f.code, kind := k }) ++
    (s.pipelines.filter (·.kind.isParent)).map .pipeline

/-- The aggregations of a facet: its bucket, then its sibling pipelines. -/
def aggregations (s : FacetSpec) (settings : SearchSettings) (filters : FacetFilters) (f : Field) :
    List Aggregation :=
  .bucket (s.bucket settings filters f) ::
    (s.pipelines.filter fun p => !p.kind.isParent).map .pipeline

/-- Check the pipelines of a facet in their order. -/
def checkPipelines : List Pipeline → Result Unit
  | [] => .ok ()
  | p :: rest => do
    p.validate
    checkPipelines rest

end FacetSpec

namespace Container

/-- The field that a facet is on, which has to be filterable. -/
def facetField (c : Container) (s : FacetSpec) : Result Field := do
  let f ← c.requireField s.field
  if f.filterable then .ok f else .error (.malformedQuery (.notFacetable f.code))

/-- The aggregations of facets, given the names of the facets before them. A facet of a name that
is there already is left out. -/
def aggregationsAfter (c : Container) (settings : SearchSettings) (filters : FacetFilters)
    (seen : List String) : List FacetSpec → Result (List Aggregation)
  | [] => .ok []
  | s :: rest => do
    let f ← c.facetField s
    if seen.contains f.key then aggregationsAfter c settings filters seen rest
    else
      FacetSpec.checkPipelines s.pipelines
      let more ← aggregationsAfter c settings filters (f.key :: seen) rest
      .ok (s.aggregations settings filters f ++ more)

/-- The aggregations of facets in a container. -/
def aggregations (c : Container) (settings : SearchSettings) (filters : FacetFilters)
    (facets : List FacetSpec) : Result (List Aggregation) :=
  c.aggregationsAfter settings filters [] facets

end Container

end FacetedSearch
