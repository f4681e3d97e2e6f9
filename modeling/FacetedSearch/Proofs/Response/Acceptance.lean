import FacetedSearch.Proofs.Request.Session
import FacetedSearch.Proofs.Response.Facets

/-!
# Responses that are accepted

A response is read exactly if its documents have identifiers and what it says of the facets of the
request leads to buckets. Then every document and every facet of it is reported, and nothing else.
-/

namespace FacetedSearch

open Outcome

/-! ## The shape of a response -/

namespace Json

def HasId (item : Json) (id : String) : Prop := ∃ v, item.get? "_id" = some v ∧ v.TextOf id

/-- The number of documents found, given plainly or as the value of an object. -/
inductive TotalOf : Option Json → UInt64 → Prop
  | absent : TotalOf none 0
  | plain (n : UInt64) : TotalOf (some (.ofUInt64 n)) n
  | value {members n} : members.lookup "value" = some (.ofUInt64 n) →
      TotalOf (some (.object members)) n

inductive ItemsOf : Option Json → List Json → Prop
  | absent : ItemsOf none []
  | null : ItemsOf (some .null) []
  | array (items : List Json) : ItemsOf (some (.array items)) items

/-- A response that has found a number of documents, returns some of them, and says something of
aggregations by their names. -/
structure Response (raw : Json) (total : UInt64) (items : List Json) (sections : Members) : Prop where
  found : ∃ found, raw.get? "hits" = some (.object found) ∧ TotalOf (found.lookup "total") total ∧
    ItemsOf (found.lookup "hits") items
  ids : ∀ item ∈ items, ∃ id, item.HasId id
  sections : raw.get? "aggregations" = none ∧ sections = [] ∨
    raw.get? "aggregations" = some (.object sections)

end Json

/-- A response that leads to buckets wherever it says something of a facet of the request. -/
def CompiledRequest.Understands (r : CompiledRequest) (raw : Json) : Prop :=
  ∃ total items sections, raw.Response total items sections ∧
    ∀ b j, .bucket b ∈ r.aggregations → sections.lookup b.name = some j → j.LeadsToBuckets b.name

/-! ## Documents -/

/-- A hit that reports a document under its identifier, as the backend has it. -/
structure SearchHit.Reports (hit : SearchHit) (item : Json) : Prop where
  id : item.HasId hit.id
  source : ∀ source, item.get? "_source" = some source → hit.source = source

namespace SearchHit

variable {item : Json} {id : String}

theorem idOf_eq_ok {o : Option Json} : idOf o = .ok id ↔ ∃ v, o = some v ∧ v.TextOf id := by
  constructor
  · intro h
    simp only [idOf] at h
    split at h
    · cases h
      exact ⟨_, rfl, .string _⟩
    · cases h
      exact ⟨_, rfl, .int _⟩
    · cases h
      exact ⟨_, rfl, .float _⟩
    · cases h
  · rintro ⟨v, rfl, h⟩
    cases h with
    | string => rfl
    | int => simp only [idOf, Json.compact]
    | float => simp only [idOf, Json.compact]

theorem reports_of_ofJson {hit : SearchHit} (h : ofJson item = .ok hit) : hit.Reports item := by
  cases item with
  | object members =>
      simp only [ofJson, bind_eq_ok] at h
      obtain ⟨id, hid, h⟩ := h
      cases h
      refine ⟨idOf_eq_ok.mp hid, fun source hsource => ?_⟩
      have hlookup : members.lookup "_source" = some source := hsource
      rw [hlookup]
      rfl
  | _ => simp [ofJson] at h

theorem exists_ofJson : (∃ hit, ofJson item = .ok hit) ↔ ∃ id, item.HasId id := by
  constructor
  · rintro ⟨hit, h⟩
    exact ⟨hit.id, (reports_of_ofJson h).id⟩
  · rintro ⟨id, v, hv, htext⟩
    cases item with
    | object members =>
        have hid : idOf (members.lookup "_id") = .ok id := idOf_eq_ok.mpr ⟨v, hv, htext⟩
        simp only [ofJson, hid]
        exact ⟨_, rfl⟩
    | _ => cases hv

end SearchHit

namespace SearchResponse

variable {o : Option Json}

theorem totalOf_int {m : Int} {n : UInt64} (h : (Json.int m).uint64? = some n) :
    totalOf (some (.int m)) = .ok n := by
  simp only [totalOf, h]

theorem totalOf_eq_ok {n : UInt64} : totalOf o = .ok n ↔ Json.TotalOf o n := by
  constructor
  · intro h
    unfold totalOf at h
    split at h
    · cases h
      exact .absent
    · split at h
      · rename_i hvalue
        cases h
        exact .value (Json.bind_uint64?_eq_some.mp hvalue)
      · cases h
    · split at h
      · rename_i hn
        cases h
        rw [Json.uint64?_eq_some.mp hn]
        exact .plain _
      · cases h
    · cases h
    · cases h
  · intro h
    cases h with
    | absent => rfl
    | plain => exact totalOf_int (Json.uint64?_eq_some.mpr rfl)
    | value hvalue => simp only [totalOf, Json.bind_uint64?_eq_some.mpr hvalue]

theorem hitsOf_eq_ok {hits : List SearchHit} :
    hitsOf o = .ok hits ↔ ∃ items, Json.ItemsOf o items ∧ items.mapM SearchHit.ofJson = .ok hits := by
  constructor
  · intro h
    unfold hitsOf at h
    split at h
    · exact ⟨[], .absent, h⟩
    · exact ⟨[], .null, h⟩
    · exact ⟨_, .array _, h⟩
    · cases h
  · rintro ⟨items, hitems, h⟩
    cases hitems with
    | absent => exact h
    | null => exact h
    | array => exact h

theorem sectionsOf_eq_ok {sections : Json.Members} : sectionsOf o = .ok sections ↔
    o = none ∧ sections = [] ∨ o = some (.object sections) := by
  match o with
  | none => simp [sectionsOf, eq_comm]
  | some j => cases j <;> simp [sectionsOf]

theorem foundOf_eq_ok {found : Json.Members} : foundOf o = .ok found ↔ o = some (.object found) := by
  match o with
  | none => simp [foundOf]
  | some j => cases j <;> simp [foundOf]

end SearchResponse

/-! ## Facets -/

/-- What is said of a facet, beside its bucket. -/
def Aggregation.answer? (sections : Json.Members) : Aggregation → Option (Bucket × Json)
  | bucket b => (sections.lookup b.name).map (b, ·)
  | pipeline _ => none

namespace SearchResponse

variable {c : Container} {sections : Json.Members}

/-- The facets are read one by one, whatever is said of pipelines between them. -/
theorem facets_aggregationsOf (as : List Aggregation) :
    (aggregationsOf c sections as).map (·.1) =
      (as.filterMap (Aggregation.answer? sections)).mapM fun e => FacetResult.ofJson e.1 c e.2 := by
  induction as with
  | nil => rfl
  | cons a as ih =>
      cases a with
      | pipeline p =>
          simp only [aggregationsOf, Aggregation.name, Aggregation.answer?, List.filterMap_cons, ← ih]
          cases sections.lookup p.name with
          | none => rfl
          | some j => cases aggregationsOf c sections as <;> rfl
      | bucket b =>
          simp only [aggregationsOf, Aggregation.name, Aggregation.answer?, List.filterMap_cons]
          cases sections.lookup b.name with
          | none => exact ih
          | some j =>
              simp only [Option.map_some, List.mapM_cons, ← ih]
              cases FacetResult.ofJson b c j with
              | error e => rfl
              | ok facet => cases aggregationsOf c sections as <;> rfl

variable {raw : Json} {r : CompiledRequest}

theorem response_of_parse {s : SearchResponse} (h : parse raw r c = .ok s) :
    ∃ total items sections, raw.Response total items sections ∧ s.total = total ∧
      items.mapM SearchHit.ofJson = .ok s.hits ∧
      (r.aggregations.filterMap (Aggregation.answer? sections)).mapM
        (fun e => FacetResult.ofJson e.1 c e.2) = .ok s.facets := by
  cases raw with
  | object root =>
      simp only [parse, bind_eq_ok, foundOf_eq_ok, totalOf_eq_ok, hitsOf_eq_ok, sectionsOf_eq_ok] at h
      obtain ⟨found, hfound, total, htotal, hits, ⟨items, hitems, hhits⟩, sections, hsections,
        ⟨facets, metrics⟩, haggregations, h⟩ := h
      cases h
      refine ⟨total, items, sections, ⟨⟨found, hfound, htotal, hitems⟩, ?_, hsections⟩, rfl, hhits, ?_⟩
      · simp only [← SearchHit.exists_ofJson, ← exists_mapM_eq_ok]
        exact ⟨hits, hhits⟩
      · rw [← facets_aggregationsOf, haggregations]
        rfl
  | _ => cases h

/-- What an answer says it is sorted by is the first clause of the request, whatever was found. -/
theorem sortInfo_of_parse {s : SearchResponse} (h : parse raw r c = .ok s) :
    s.sortInfo = r.sort.head?.map fun clause =>
      { field := clause.key, direction := clause.direction } := by
  cases raw with
  | object root =>
      simp only [parse, bind_eq_ok] at h
      obtain ⟨_, _, _, _, _, _, _, _, _, _, h⟩ := h
      cases h
      rfl
  | _ => cases h

/-- Once a response has the shape of one, all depends on what it says of the facets. -/
theorem facets_parse {total : UInt64} {items : List Json} (h : raw.Response total items sections) :
    (parse raw r c).map (·.facets) = (r.aggregations.filterMap (Aggregation.answer? sections)).mapM
      fun e => FacetResult.ofJson e.1 c e.2 := by
  obtain ⟨⟨found, hfound, htotal, hitems⟩, hids, hsections⟩ := h
  simp only [← SearchHit.exists_ofJson, ← exists_mapM_eq_ok] at hids
  obtain ⟨hits, hhits⟩ := hids
  cases raw with
  | object root =>
      have hfound' : foundOf (root.lookup "hits") = .ok found := foundOf_eq_ok.mpr hfound
      have hsections' : sectionsOf (root.lookup "aggregations") = .ok sections :=
        sectionsOf_eq_ok.mpr hsections
      simp only [parse, bind, Except.bind, hfound', totalOf_eq_ok.mpr htotal,
        hitsOf_eq_ok.mpr ⟨items, hitems, hhits⟩, hsections', ← facets_aggregationsOf]
      cases aggregationsOf c sections r.aggregations <;> rfl
  | _ => cases hfound

/-! ## Acceptance -/

/-- A result with all documents and all facets of a response, and no others. -/
structure Reports (s : SearchResponse) (r : CompiledRequest) (c : Container) (total : UInt64)
    (items : List Json) (sections : Json.Members) : Prop where
  total : s.total = total
  hits : List.Forall₂ (fun item hit => SearchHit.Reports hit item) items s.hits
  facets : List.Forall₂ (fun e facet => ∃ payload, Json.Leads e.1.name e.2 payload ∧
      FacetResult.Reports facet e.1 c payload)
    (r.aggregations.filterMap (Aggregation.answer? sections)) s.facets
  counts : ∀ facet ∈ s.facets, facet.count = facet.options.length ∧
    ∃ options, facet.toJson.get? "options" = some (.array options) ∧
      facet.toJson.get? "count" = some (.int options.length)

theorem reports_of_parse {s : SearchResponse} (h : parse raw r c = .ok s) :
    ∃ total items sections, raw.Response total items sections ∧
      s.Reports r c total items sections := by
  obtain ⟨total, items, sections, hresponse, htotal, hhits, hfacets⟩ := response_of_parse h
  refine ⟨total, items, sections, hresponse, htotal, ?_, ?_, ?_⟩
  · exact (mapM_eq_ok.mp hhits).imp fun _ _ => SearchHit.reports_of_ofJson
  · exact (mapM_eq_ok.mp hfacets).imp fun _ _ => FacetResult.reports_of_ofJson
  · refine forall_mem_of_mapM_eq_ok hfacets fun _ facet hfacet => ?_
    obtain ⟨_, _, hreports⟩ := FacetResult.reports_of_ofJson hfacet
    refine ⟨hreports.count, _, rfl, ?_⟩
    rw [List.length_map, ← hreports.count]
    rfl

theorem exists_parse_iff : (∃ s, parse raw r c = .ok s) ↔ r.Understands raw := by
  have hread : ∀ sections, (∃ facets, (r.aggregations.filterMap (Aggregation.answer? sections)).mapM
      (fun e => FacetResult.ofJson e.1 c e.2) = .ok facets) ↔ ∀ b j, .bucket b ∈ r.aggregations →
        sections.lookup b.name = some j → j.LeadsToBuckets b.name := by
    intro sections
    rw [exists_mapM_eq_ok]
    simp only [FacetResult.exists_ofJson, Prod.forall, List.mem_filterMap]
    refine forall₂_congr fun b j => ?_
    constructor
    · intro h hb hj
      exact h ⟨_, hb, by simp [Aggregation.answer?, hj]⟩
    · rintro h ⟨a, ha, hanswer⟩
      cases a with
      | pipeline p => cases hanswer
      | bucket b' =>
          simp only [Aggregation.answer?, Option.map_eq_some_iff, Prod.mk.injEq] at hanswer
          obtain ⟨_, hj, rfl, rfl⟩ := hanswer
          exact h ha hj
  constructor
  · rintro ⟨s, h⟩
    obtain ⟨total, items, sections, hresponse, _, _, hfacets⟩ := response_of_parse h
    exact ⟨total, items, sections, hresponse, (hread sections).mp ⟨s.facets, hfacets⟩⟩
  · rintro ⟨total, items, sections, hresponse, h⟩
    obtain ⟨facets, hfacets⟩ := (hread sections).mpr h
    rw [← facets_parse hresponse, map_eq_ok] at hfacets
    obtain ⟨s, hs, _⟩ := hfacets
    exact ⟨s, hs⟩

/-- A response is accepted exactly if it is understood, and is else refused as invalid; of one that
is accepted all documents and all facets are reported, in their order. -/
theorem accepts_understood (raw : Json) (r : CompiledRequest) (c : Container) :
    ((∃ s, ofBackend raw r c = .ok s) ↔ r.Understands raw) ∧
    (∀ e, ofBackend raw r c = .error e → ∃ fault, e = .invalidResponse fault) ∧
    ∀ s, ofBackend raw r c = .ok s → ∃ total items sections,
      raw.Response total items sections ∧ s.Reports r c total items sections := by
  simp only [ofBackend, mapError_eq_ok]
  refine ⟨exists_parse_iff, ?_, fun s => reports_of_parse⟩
  intro e he
  cases hparse : parse raw r c with
  | error fault =>
      rw [hparse] at he
      cases he
      exact ⟨fault, rfl⟩
  | ok s =>
      rw [hparse] at he
      cases he

end SearchResponse

namespace Shop

def bucketOf (key : Json) (count : UInt64) : Json :=
  .object [("key", key), ("doc_count", .ofUInt64 count)]

def counted (buckets : List Json) : Json := .object [("buckets", .array buckets)]

/-- An answer inside an object with its number of documents. -/
def beneath (name : String) (inner : Json) : Json :=
  .object [("doc_count", .ofUInt64 2), (name, inner)]

/-- Two lamps with their colours, which are counted inside a filter. -/
def response : Json := .object [
  ("hits", .object [("total", .object [("value", .ofUInt64 2)]),
    ("hits", .array [.object [("_id", .string "lamp-1")], .object [("_id", .int 7)]])]),
  ("aggregations", .object [("color", beneath "color" (counted [bucketOf (.string "red") 2]))])]

theorem isBucket_red : (bucketOf (.string "red") 2).IsBucket :=
  ⟨⟨"red", .plain (fun _ h => nomatch h) rfl (.string _)⟩, 2, rfl⟩

theorem hasBuckets_counted {bs : List Json} (h : ∀ j ∈ bs, j.IsBucket) : (counted bs).HasBuckets :=
  ⟨bs, rfl, h⟩

theorem response_understood : ∃ r k, (config.builder.create intent).1 = .ok r ∧
    (config.builder.resolve "fr" "product").1 = .ok k ∧ r.Understands response ∧
    ∃ s, SearchResponse.ofBackend response r k = .ok s := by
  obtain ⟨r, k, hr, hk⟩ : ∃ r k, (config.builder.create intent).1 = .ok r ∧
      (config.builder.resolve "fr" "product").1 = .ok k := ⟨_, _, rfl, rfl⟩
  have hunderstood : r.Understands response := by
    refine ⟨2, _, _, ⟨⟨_, rfl, .value rfl, .array _⟩, ?_, Or.inr rfl⟩, ?_⟩
    · simp only [List.forall_mem_cons, List.not_mem_nil, false_implies, implies_true, and_true]
      exact ⟨⟨_, _, rfl, .string _⟩, _, _, rfl, .int _⟩
    · intro b j _ hj
      by_cases hname : b.name = "color"
      · rw [hname] at hj ⊢
        cases hj
        refine ⟨counted [bucketOf (.string "red") 2], ?_, hasBuckets_counted ?_⟩
        · exact .step rfl rfl (.here (by simp [counted, Json.get?]))
        · simpa using isBucket_red
      · simp [Table.lookup_cons, hname] at hj
  exact ⟨r, k, hr, hk, hunderstood,
    (SearchResponse.accepts_understood response r k).1.mpr hunderstood⟩

end Shop

end FacetedSearch
