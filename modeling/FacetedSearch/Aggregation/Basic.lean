import FacetedSearch.Aggregation.Pipeline
import FacetedSearch.Query.Registry

/-!
# Aggregations

A facet is a bucket aggregation, with metrics and parent pipelines inside it and sibling pipelines
beside it. Inside or beside, aggregations are written under their names. A bucket may be wrapped in a
filter and in a nested aggregation, each under the bucket's own name.
-/

namespace FacetedSearch

/-- The order of the buckets of values. -/
inductive TermsOrder where
  | count
  | key
  deriving DecidableEq, Repr, Inhabited

/-- A bucket of numbers from one bound up to below another. -/
structure RangeBucket where
  key : Option String := none
  lower : Option Binary64 := none
  upper : Option Binary64 := none
  deriving DecidableEq, Repr

/-- How documents are put into buckets. -/
inductive BucketKind where
  | terms (size : UInt32) (order : TermsOrder)
  | range (ranges : List RangeBucket)
  | histogram (interval : Binary64) (minDocCount : UInt64)
  | dateHistogram (calendarInterval : String)
  deriving DecidableEq, Repr

/-- A number computed from the documents of a bucket. -/
inductive MetricKind where
  | min
  | max
  | avg
  | sum
  | stats
  | cardinality
  deriving DecidableEq, Repr

structure Metric where
  name : String
  field : String
  kind : MetricKind
  deriving DecidableEq, Repr

/-- An aggregation inside the buckets of another. -/
inductive SubAggregation where
  | metric (m : Metric)
  | pipeline (p : Pipeline)

/-- A bucket aggregation on the field of a path. -/
structure Bucket where
  name : String
  field : String
  kind : BucketKind
  nestedPath : Option String := none
  /-- Restricts the documents that are counted. -/
  filter : Option Query := none
  /-- What is computed inside the buckets. -/
  children : List SubAggregation := []

/-- An aggregation of a request. -/
inductive Aggregation where
  | bucket (b : Bucket)
  | pipeline (p : Pipeline)

namespace TermsOrder

def name : TermsOrder → String
  | count => "count"
  | key => "key"

def ofName? : String → Option TermsOrder
  | "count" => some count
  | "key" => some key
  | _ => none

def wire : TermsOrder → Json
  | count => .single "_count" (.string "desc")
  | key => .single "_key" (.string "asc")

end TermsOrder

namespace RangeBucket

def toJson (b : RangeBucket) : Json :=
  .object (Json.member? "key" .string b.key ++ Json.member? "from" .float b.lower ++
    Json.member? "to" .float b.upper)

def ofJson? (j : Json) : Option RangeBucket := do
  let r ← j.record? ["key", "from", "to"]
  let key ← r.optional "key" Json.string?
  let lower ← r.optional "from" Json.finite?
  let upper ← r.optional "to" Json.finite?
  some { key, lower, upper }

end RangeBucket

namespace BucketKind

def name : BucketKind → String
  | terms .. => "terms"
  | range _ => "range"
  | histogram .. => "histogram"
  | dateHistogram _ => "date_histogram"

/-- The parameters of the kind, the field aside. -/
def params : BucketKind → Json.Members
  | terms size order => [("size", Json.ofUInt32 size), ("order", order.wire)]
  | range ranges => [("ranges", .array (ranges.map RangeBucket.toJson))]
  | histogram interval minDocCount =>
    [("interval", .float interval), ("min_doc_count", Json.ofUInt64 minDocCount)]
  | dateHistogram calendarInterval => [("calendar_interval", .string calendarInterval)]

end BucketKind

namespace MetricKind

def all : List MetricKind := [min, max, avg, sum, stats, cardinality]

def name : MetricKind → String
  | min => "min"
  | max => "max"
  | avg => "avg"
  | sum => "sum"
  | stats => "stats"
  | cardinality => "cardinality"

def ofName? (s : String) : Option MetricKind := all.find? fun k => k.name == s

end MetricKind

/-- The body that the backend is given. -/
def Metric.wire (m : Metric) : Json := .single m.kind.name (.single "field" (.string m.field))

/-- Put the bodies of items under their names among members, a later one of a name in place of an
earlier one. -/
def wireInto {α : Type} (name : α → String) (body : α → Result Json) (members : Json.Members) :
    List α → Result Json.Members
  | [] => .ok members
  | x :: rest => do
    let w ← body x
    wireInto name body (members.put (name x) w) rest

namespace SubAggregation

def name : SubAggregation → String
  | metric m => m.name
  | pipeline p => p.name

/-- The body that the backend is given. -/
def wire : SubAggregation → Result Json
  | metric m => .ok m.wire
  | pipeline p => p.wire

def metric? : SubAggregation → Option Metric
  | metric m => some m
  | pipeline _ => none

def pipeline? : SubAggregation → Option Pipeline
  | metric _ => none
  | pipeline p => some p

end SubAggregation

namespace Bucket

def metrics (b : Bucket) : List Metric := b.children.filterMap SubAggregation.metric?

/-- The pipelines that run inside the buckets. -/
def pipelines (b : Bucket) : List Pipeline := b.children.filterMap SubAggregation.pipeline?

/-- How many wrappers are around the bucket. -/
def wrappers (b : Bucket) : Nat := b.filter.isSome.toNat + b.nestedPath.isSome.toNat

/-- The names from the outermost wrapper to the bucket: a path by which siblings reach it. -/
def path (b : Bucket) : String := ">".intercalate (List.replicate (b.wrappers + 1) b.name)

/-- The aggregations inside the bucket as the backend is given them. -/
def inner (b : Bucket) : Result Json.Members :=
  wireInto SubAggregation.name SubAggregation.wire [] b.children

/-- The body of the bucket itself. -/
def core (b : Bucket) : Result Json := do
  let inner ← b.inner
  .ok (.object ((b.kind.name, .object (("field", .string b.field) :: b.kind.params)) ::
    if b.children.isEmpty then [] else [("aggs", .object inner)]))

/-- An aggregation around a body. -/
def wrap (b : Bucket) (key : String) (params body : Json) : Json :=
  .object [(key, params), ("aggs", .single b.name body)]

/-- The body that the backend is given: the bucket, in its nested path, under its filter. -/
def wire (r : Registry) (b : Bucket) : Result Json := do
  let body ← b.core
  let body := match b.nestedPath with
    | some path => b.wrap "nested" (.single "path" (.string path)) body
    | none => body
  match b.filter with
  | some q => do
    let w ← r.assemble q
    .ok (b.wrap "filter" w body)
  | none => .ok body

end Bucket

namespace Aggregation

def name : Aggregation → String
  | bucket b => b.name
  | pipeline p => p.name

/-- The body that the backend is given. -/
def wire (r : Registry) : Aggregation → Result Json
  | bucket b => b.wire r
  | pipeline p => p.wire

/-- The aggregations of a request as the backend is given them. -/
def wireAll (r : Registry) (as : List Aggregation) : Result Json :=
  (wireInto name (wire r) [] as).map .object

end Aggregation

end FacetedSearch
