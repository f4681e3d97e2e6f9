import FacetedSearch.Error
import FacetedSearch.Sort.Basic
import FacetedSearch.Text.Blank

/-!
# Pipeline aggregations

Aggregations that are computed from the output of other aggregations, which they reach through
paths of aggregation names.
-/

namespace FacetedSearch

/-- The paths that a pipeline reads from: one, or one for each variable of a script. -/
inductive BucketsPath where
  | single (path : String)
  | named (paths : Table String)

/-- What a pipeline computes. -/
inductive PipelineKind where
  | maxBucket
  | minBucket
  | avgBucket
  | sumBucket
  | statsBucket
  | bucketSelector (script : String)
  | bucketScript (script : String)
  | bucketSort (order : SortDirection) (size : Option UInt32)
  deriving DecidableEq, Repr

/-- A pipeline aggregation. -/
structure Pipeline where
  name : String
  kind : PipelineKind
  bucketsPath : Option BucketsPath := none

namespace BucketsPath

/-- The paths themselves. -/
def paths : BucketsPath → List String
  | single path => [path]
  | named paths => paths.values

/-- Whether there is no path, or a blank one. -/
def isBlank (p : BucketsPath) : Bool := p.paths.isEmpty || p.paths.any Text.isBlank

def toJson : BucketsPath → Json
  | single path => .string path
  | named paths => paths.toJson .string

def ofJson? : Json → Option BucketsPath
  | .string path => some (single path)
  | j => (Table.ofJson? Json.string? j).map named

end BucketsPath

namespace PipelineKind

/-- The name of the computation, for the backend and in JSON. -/
def name : PipelineKind → String
  | maxBucket => "max_bucket"
  | minBucket => "min_bucket"
  | avgBucket => "avg_bucket"
  | sumBucket => "sum_bucket"
  | statsBucket => "stats_bucket"
  | bucketSelector _ => "bucket_selector"
  | bucketScript _ => "bucket_script"
  | bucketSort .. => "bucket_sort"

/-- The names of all computations, in their order. -/
def names : List String :=
  ["max_bucket", "min_bucket", "avg_bucket", "sum_bucket", "stats_bucket", "bucket_selector",
   "bucket_script", "bucket_sort"]

/-- Whether a script is computed. -/
def isScripted : PipelineKind → Bool
  | bucketSelector _ | bucketScript _ => true
  | _ => false

/-- Whether the pipeline runs inside the buckets that it reads from. -/
def isParent : PipelineKind → Bool
  | bucketSelector _ | bucketScript _ | bucketSort .. => true
  | _ => false

/-- The members of the kind, its name aside. -/
def members : PipelineKind → Json.Members
  | bucketSelector script | bucketScript script => [("script", .string script)]
  | bucketSort order size =>
    [("order", .string order.name), ("size", Json.ofOption Json.ofUInt32 size)]
  | _ => []

def toJson (k : PipelineKind) : Json := .object (("type", .string k.name) :: k.members)

/-- Read the name of the kind, or its position where that is allowed. -/
def nameOf? (positions : Bool) : Json → Option String
  | .string s => if names.contains s then some s else none
  | .int n => if positions && decide (0 ≤ n) then names[n.toNat]? else none
  | _ => none

/-- The names of the members of a kind, in their order. -/
def memberNames : String → List String
  | "bucket_selector" | "bucket_script" => ["script"]
  | "bucket_sort" => ["order", "size"]
  | _ => []

/-- Read a kind of a known name. -/
def ofRecord? (name : String) (r : Record Json) : Option PipelineKind :=
  match name with
  | "max_bucket" => some maxBucket
  | "min_bucket" => some minBucket
  | "avg_bucket" => some avgBucket
  | "sum_bucket" => some sumBucket
  | "stats_bucket" => some statsBucket
  | "bucket_selector" => (r.require "script" Json.string?).map bucketSelector
  | "bucket_script" => (r.require "script" Json.string?).map bucketScript
  | "bucket_sort" => do
    let order ← r.getD "order" (Json.innerChoice SortDirection.ofName?) .asc
    let size ← r.optional "size" Json.uint32?
    some (bucketSort order size)
  | _ => none

/-- Read a kind from the entries of an object, just one of which gives its name. -/
def ofEntries? (positions : Bool) (entries : List (String × Json)) : Option PipelineKind :=
  match entries.filter fun e => e.1 == "type" with
  | [(_, tag)] => do
    let name ← nameOf? positions tag
    ofRecord? name (← Record.ofEntries? (memberNames name) entries)
  | _ => none

/-- Read a kind from the items of an array, the first of which is its name. -/
def ofItems? : List Json → Option PipelineKind
  | tag :: rest => do
    let name ← nameOf? false tag
    ofRecord? name (← Record.ofItems? (memberNames name) rest)
  | [] => none

/-- Read a kind that stands on its own. -/
def ofJson? (j : Json) : Option PipelineKind :=
  if j.isFinite then
    match j with
    | .object entries => ofEntries? false entries
    | .array items => ofItems? items
    | _ => none
  else none

end PipelineKind

namespace Pipeline

/-- A pipeline needs a name and a path, and its script named paths. -/
def check (p : Pipeline) : Except PipelineFault Unit :=
  match p.bucketsPath with
  | none => .error (.noPath p.name)
  | some path =>
    if Text.isBlank p.name || path.isBlank then .error (.blank p.name)
    else match path with
      | .single _ => if p.kind.isScripted then .error (.unnamedPaths p.name) else .ok ()
      | .named _ => .ok ()

/-- The outcome of `check` as a result. -/
def validate (p : Pipeline) : Result Unit := p.check.mapError .invalidPipeline

/-- A pipeline that passes `check`. -/
def new? (name : String) (kind : PipelineKind) (bucketsPath : Option BucketsPath) :
    Result Pipeline := do
  let p : Pipeline := { name, kind, bucketsPath }
  p.validate
  .ok p

/-- The parameters of a pipeline with the given path. -/
def params (k : PipelineKind) (path : BucketsPath) : Json.Members :=
  match k with
  | .bucketSort order size =>
    ("sort", .array (path.paths.map fun p => .single p (.single "order" (.string order.name)))) ::
      Json.member? "size" Json.ofUInt32 size
  | .bucketSelector script | .bucketScript script =>
    [("buckets_path", path.toJson), ("script", .string script)]
  | _ => [("buckets_path", path.toJson)]

/-- The body that the backend is given. -/
def wire (p : Pipeline) : Result Json := do
  p.validate
  match p.bucketsPath with
  | some path => .ok (.single p.kind.name (.object (params p.kind path)))
  | none => .error (.invalidPipeline (.noPath p.name))

def toJson (p : Pipeline) : Json :=
  .object ([("name", .string p.name), ("type", .string p.kind.name)] ++ p.kind.members ++
    [("buckets_path", Json.ofOption BucketsPath.toJson p.bucketsPath)])

def ofJson? (j : Json) : Option Pipeline := do
  let entries ← if j.isFinite then j.object? else none
  let r ← Record.ofEntries? ["name", "buckets_path"] entries
  let name ← r.require "name" Json.string?
  let kind ← PipelineKind.ofEntries? true entries
  let bucketsPath ← r.optional "buckets_path" BucketsPath.ofJson?
  some { name, kind, bucketsPath }

end Pipeline

end FacetedSearch
