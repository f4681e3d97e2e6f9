import FacetedSearch.Proofs.Config.Codec
import FacetedSearch.Proofs.Criterion.Codec
import FacetedSearch.Proofs.Request.Session

/-!
# Intents read back

What is written of an intent or of a configuration is read as that intent or that configuration,
provided that every number in it is finite.
-/

namespace FacetedSearch

open Json

attribute [local simp] Table.lookup_cons List.lookup_append lookup_member?
  Record.ofEntries?_of_nodup Record.require Record.getD Record.optional Record.listD record? string?
  nullable_string

/-! ## Facets -/

namespace RangeBucket

def isFinite (b : RangeBucket) : Bool := b.lower.all (·.isFinite) && b.upper.all (·.isFinite)

theorem ofJson?_toJson {b : RangeBucket} (h : b.isFinite = true) : ofJson? b.toJson = some b := by
  simp only [isFinite, Bool.and_eq_true, Option.all_eq_true] at h
  rw [toJson]
  generalize hms : member? "key" .string b.key ++ member? "from" .float b.lower ++
    member? "to" .float b.upper = ms
  have hrecord : record? ["key", "from", "to"] (.object ms) = some ⟨ms⟩ := by
    have hsub : (ms.map (·.1)).Sublist ["key", "from", "to"] := by
      simp only [← hms, List.map_append]
      exact (keys_member?.append keys_member?).append keys_member?
    exact Record.ofEntries?_of_nodup (hsub.nodup (by decide)) _
  have hkey : ms.lookup "key" = b.key.map .string := by simp [← hms]
  have hlower : ms.lookup "from" = b.lower.map .float := by simp [← hms]
  have hupper : ms.lookup "to" = b.upper.map .float := by simp [← hms]
  rw [ofJson?, hrecord, Option.bind_eq_bind, Option.bind_some,
    Record.optional_of_member hkey (fun _ _ => rfl) fun _ => nofun,
    Record.optional_of_member hlower (fun x hx => finite?_float (h.1 x hx)) fun _ => nofun,
    Record.optional_of_member hupper (fun x hx => finite?_float (h.2 x hx)) fun _ => nofun]
  rfl

end RangeBucket

theorem BucketsPath.ofJson?_toJson (p : BucketsPath) : ofJson? p.toJson = some p := by
  cases p with
  | single path => rfl
  | named paths =>
      have hpaths : Table.ofJson? string? (paths.toJson .string) = some paths :=
        Table.ofJson?_toJson fun _ _ => rfl
      exact congrArg (Option.map named) hpaths

theorem BucketsPath.isFinite_toJson (p : BucketsPath) : p.toJson.isFinite = true := by
  cases p with
  | single path => rfl
  | named paths =>
      simp only [toJson, Table.toJson, Json.isFinite]
      induction paths.entries with
      | nil => rfl
      | cons e es ih => simp [isFiniteMembers, Json.isFinite, ih]

theorem BucketsPath.toJson_ne_null (p : BucketsPath) : p.toJson ≠ .null := by
  cases p <;> nofun

namespace PipelineKind

theorem contains_name (k : PipelineKind) : names.contains k.name = true := by
  cases k <;> rfl

theorem isFiniteMembers_members (k : PipelineKind) : isFiniteMembers k.members = true := by
  cases k with
  | bucketSort order size => cases size <;> rfl
  | _ => rfl

/-- A kind is read from whatever record has its members. -/
theorem ofRecord?_name {k : PipelineKind} {ms : Members}
    (h : ∀ key ∈ ["script", "order", "size"], ms.lookup key = k.members.lookup key) :
    ofRecord? k.name ⟨ms⟩ = some k := by
  have hscript (script : String) (hk : k.members.lookup "script" = some (.string script)) :
      Record.require ⟨ms⟩ "script" string? = some script :=
    Record.require_of_lookup ((h "script" (by simp)).trans hk) rfl
  cases k with
  | bucketSelector script =>
      rw [name, ofRecord?, hscript script rfl]
      rfl
  | bucketScript script =>
      rw [name, ofRecord?, hscript script rfl]
      rfl
  | bucketSort order size =>
      have horder : Record.getD ⟨ms⟩ "order" (innerChoice SortDirection.ofName?) .asc =
          some order := Record.getD_of_lookup (h "order" (by simp)) (by cases order <;> rfl)
      have hsize : Record.optional ⟨ms⟩ "size" uint32? = some size :=
        Record.optional_of_null (h "size" (by simp)) (fun n _ => uint32?_ofUInt32 n) fun _ => nofun
      rw [name, ofRecord?, horder, hsize]
      rfl
  | _ => rfl

end PipelineKind

namespace Pipeline

/-- The members of a pipeline, its own and those of its kind. -/
def members (p : Pipeline) : Members :=
  [("name", .string p.name), ("type", .string p.kind.name)] ++ p.kind.members ++
    [("buckets_path", ofOption BucketsPath.toJson p.bucketsPath)]

theorem isFinite_toJson (p : Pipeline) : p.toJson.isFinite = true := by
  have hpath : (ofOption BucketsPath.toJson p.bucketsPath).isFinite = true := by
    cases p.bucketsPath with
    | none => rfl
    | some path => exact path.isFinite_toJson
  simp [toJson, Json.isFinite, isFiniteMembers, isFiniteMembers_append,
    p.kind.isFiniteMembers_members, hpath]

theorem ofJson?_toJson (p : Pipeline) : ofJson? p.toJson = some p := by
  have hnodup : (p.members.map (·.1)).Nodup := by
    cases hkind : p.kind <;> simp [members, hkind, PipelineKind.members]
  have htype : p.members.filter (fun m => m.1 == "type") = [("type", .string p.kind.name)] := by
    cases hkind : p.kind <;> simp [members, hkind, PipelineKind.members]
  have hkind : PipelineKind.ofEntries? true p.members = some p.kind := by
    have hmembers : ∀ key ∈ ["script", "order", "size"],
        p.members.lookup key = p.kind.members.lookup key := by
      intro key hkey
      simp only [List.mem_cons, List.not_mem_nil, or_false] at hkey
      rcases hkey with rfl | rfl | rfl <;> simp [members]
    simp only [PipelineKind.ofEntries?, htype, PipelineKind.nameOf?, p.kind.contains_name, if_true,
      Option.bind_eq_bind, Option.bind_some, Record.ofEntries?_of_nodup hnodup]
    exact PipelineKind.ofRecord?_name hmembers
  have hname : Record.require ⟨p.members⟩ "name" string? = some p.name := rfl
  have hpath : Record.optional ⟨p.members⟩ "buckets_path" BucketsPath.ofJson? =
      some p.bucketsPath := by
    refine Record.optional_of_null ?_ (fun path _ => path.ofJson?_toJson) BucketsPath.toJson_ne_null
    cases hkind : p.kind <;> simp [members, hkind, PipelineKind.members]
  have hobject : p.toJson.object? = some p.members := rfl
  simp only [ofJson?, p.isFinite_toJson, if_true, hobject, Option.bind_eq_bind, Option.bind_some,
    Record.ofEntries?_of_nodup hnodup, hname, hkind, hpath]

end Pipeline

namespace FacetSpec

def isFinite (s : FacetSpec) : Bool :=
  s.interval.all (·.isFinite) && s.ranges.all RangeBucket.isFinite

theorem ofJson?_toJson {s : FacetSpec} (h : s.isFinite = true) : ofJson? s.toJson = some s := by
  simp only [isFinite, Bool.and_eq_true, Option.all_eq_true, List.all_eq_true] at h
  have hsize : nullable uint32? (ofOption ofUInt32 s.size) = some s.size :=
    nullable_ofOption (fun n _ => uint32?_ofUInt32 n) fun _ => nofun
  obtain ⟨j, hj, hsize⟩ := exists_written hsize
  have hinterval : nullable finite? (ofOption .float s.interval) = some s.interval :=
    nullable_ofOption (fun x hx => finite?_float (h.1 x hx)) fun _ => nofun
  have horder : choice TermsOrder.ofName? (.string s.order.name) = some s.order := by
    cases s.order <;> rfl
  have hranges : listOf RangeBucket.ofJson? (.array (s.ranges.map RangeBucket.toJson)) =
      some s.ranges := listOf_map fun b hb => RangeBucket.ofJson?_toJson (h.2 b hb)
  have hmetrics : listOf (choice MetricKind.ofName?)
      (.array (s.metrics.map fun m => .string m.name)) = some s.metrics :=
    listOf_map fun m _ => by cases m <;> rfl
  have hpipelines : listOf Pipeline.ofJson? (.array (s.pipelines.map Pipeline.toJson)) =
      some s.pipelines := listOf_map fun p _ => p.ofJson?_toJson
  rw [toJson, hj]
  simp [ofJson?, hsize, hinterval, horder, hranges, hmetrics, hpipelines]

end FacetSpec

/-! ## Intents -/

theorem SortSpec.ofJson?_toJson (s : SortSpec) : ofJson? s.toJson = some s := by
  have hdirection : choice SortDirection.ofName? (.string s.direction.name) =
      some s.direction := by
    cases s.direction <;> rfl
  simp [toJson, ofJson?, hdirection]

namespace QueryInput

def isFinite : QueryInput → Bool
  | text _ => true
  | node q => q.isFinite

theorem ofJson?_toJson {x : QueryInput} (h : x.isFinite = true) : ofJson? x.toJson = some x := by
  cases x with
  | text t => rfl
  | node q => exact congrArg (Option.map node) (Query.ofJson?_toJson h)

theorem toJson_ne_null (x : QueryInput) : x.toJson ≠ .null := by
  cases x <;> nofun

end QueryInput

namespace Intent

def isFinite (i : Intent) : Bool :=
  i.query.all QueryInput.isFinite && i.filters.all Criterion.isFinite &&
    i.queryFilters.all Query.isFinite && i.facets.all FacetSpec.isFinite

theorem ofJson?_toJson {i : Intent} (h : i.isFinite = true) : ofJson? i.toJson = some i := by
  simp only [isFinite, Bool.and_eq_true, Option.all_eq_true, List.all_eq_true] at h
  obtain ⟨⟨⟨hquery, hfilters⟩, hqueryFilters⟩, hfacets⟩ := h
  obtain ⟨start, hj, hstart⟩ := exists_written (uint64?_ofUInt64 i.start)
  obtain ⟨size, hj', hsize⟩ := exists_written (uint64?_ofUInt64 i.size)
  have hquery : nullable QueryInput.ofJson? (ofOption QueryInput.toJson i.query) = some i.query :=
    nullable_ofOption (fun x hx => QueryInput.ofJson?_toJson (hquery x hx))
      QueryInput.toJson_ne_null
  have hsort : listOf SortSpec.ofJson? (.array (i.sort.map SortSpec.toJson)) = some i.sort :=
    listOf_map fun s _ => s.ofJson?_toJson
  have hfilters : listOf Criterion.ofJson? (.array (i.filters.map Criterion.toJson)) =
      some i.filters := listOf_map fun k hk => Criterion.ofJson?_toJson (hfilters k hk)
  have hqueryFilters : listOf Query.ofJson? (.array (i.queryFilters.map Query.toJson)) =
      some i.queryFilters := listOf_map fun q hq => Query.ofJson?_toJson (hqueryFilters q hq)
  have hfacets : listOf FacetSpec.ofJson? (.array (i.facets.map FacetSpec.toJson)) =
      some i.facets := listOf_map fun s hs => FacetSpec.ofJson?_toJson (hfacets s hs)
  have hcontext : Table.ofJson? string? (i.context.toJson .string) = some i.context :=
    Table.ofJson?_toJson fun _ _ => rfl
  rw [toJson, hj, hj']
  simp [ofJson?, memberNames, hstart, hsize, hquery, hsort, hfilters, hqueryFilters, hfacets,
    hcontext]

end Intent

/-- Reading undoes writing, for all intents and all configurations whose numbers are finite. -/
theorem read_as_written :
    (∀ i : Intent, i.isFinite = true → Intent.ofJson? i.toJson = some i) ∧
    ∀ c : Config, c.isFinite = true → Config.ofJson? .strict c.toJson = some c :=
  ⟨fun _ => Intent.ofJson?_toJson, fun _ => Config.ofJson?_toJson⟩

namespace Shop

/-- A search with a query that is ready, numbers in several places and pipelines of both forms. -/
def variedIntent : Intent := { intent with
  query := some (.node (.nested "price"
    (.leaf "price.price" (.range { gte := some (.float .one), lt := some (.integer 9) })
      { boost := .one }) .max { name := some "cheap" }))
  queryFilters := [.filtered none (some (.leaf "color" (.terms [.text "red", .bool true]) {})) {}]
  facets := [
    { field := "price.price", ranges := [{ upper := some .one }, { key := some "dear" }],
      metrics := [.max, .stats] },
    { field := "color", size := some 3, pipelines := [
      { name := "most", kind := .maxBucket, bucketsPath := some (.single "color>_count") },
      { name := "sorted", kind := .bucketSort .desc (some 3),
        bucketsPath := some (.named (.ofList [("count", "_count")])) }] }]
  context := .ofList [("price_group", "0")] }

theorem shop_read_as_written : Intent.ofJson? variedIntent.toJson = some variedIntent ∧
    Config.ofJson? .strict config.toJson = some config :=
  ⟨read_as_written.1 variedIntent (by decide +kernel), read_as_written.2 config (by decide +kernel)⟩

end Shop

end FacetedSearch
