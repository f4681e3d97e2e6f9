import FacetedSearch.Proofs.Container.Fields
import FacetedSearch.Proofs.Field.Labels
import FacetedSearch.Proofs.Request.Filters
import FacetedSearch.Proofs.Request.Wire
import FacetedSearch.Proofs.Response.Acceptance

/-!
# Wrapping and unwrapping

A request may put aggregations of a bucket's own name around the bucket, and the answer is unwrapped
by following the name until there are buckets. The answer to a bucket named `buckets` ends this too
early if anything is around it.
-/

namespace FacetedSearch

open Outcome

/-! ## Wrapped answers -/

namespace Json

variable {name : String} {payload j : Json} {depth : Nat}

/-- A payload inside objects that hold a number of documents and, under a name, the next of them. -/
inductive Inside (name : String) (payload : Json) : Nat → Json → Prop
  | bare : Inside name payload 0 payload
  | level {depth inner j} (count : UInt64) : (∀ key, j.get? key =
        if key = name then some inner
        else if key = "doc_count" then some (.ofUInt64 count) else none) →
      Inside name payload depth inner → Inside name payload (depth + 1) j

theorem Inside.leads (h : Inside name payload depth j) (hname : name ≠ "buckets" ∨ depth = 0)
    (hbuckets : payload.get? "buckets" ≠ none) : Leads name j payload := by
  induction h with
  | bare => exact .here hbuckets
  | level count hj _ ih =>
      have hne : name ≠ "buckets" := hname.resolve_right (Nat.succ_ne_zero _)
      refine .step ?_ (by rw [hj, if_pos rfl]) (ih (Or.inl hne))
      rw [hj, if_neg (Ne.symm hne), if_neg (by decide)]

theorem Inside.get?_buckets_ne_none (h : Inside "buckets" payload depth j)
    (hbuckets : payload.get? "buckets" ≠ none) : j.get? "buckets" ≠ none := by
  cases h with
  | bare => exact hbuckets
  | level count hj _ => simp [hj]

/-- What is inside under the name of the buckets is an object, and so is taken for buckets in
vain. -/
theorem Inside.no_array (h : Inside "buckets" payload (depth + 1) j)
    (hbuckets : payload.get? "buckets" ≠ none) :
    ∀ elements, j.get? "buckets" ≠ some (.array elements) := by
  cases h with
  | level count hj hinner =>
      intro elements helements
      rw [hj, if_pos rfl, Option.some.injEq] at helements
      subst helements
      exact hinner.get?_buckets_ne_none hbuckets rfl

/-- A response that answers one bucket with a payload, which is wrapped as the bucket is in its
request, and says nothing of other aggregations. -/
def Answers (raw : Json) (b : Bucket) (payload : Json) : Prop :=
  ∃ total items j, raw.Response total items [(b.name, j)] ∧ Inside b.name payload b.wrappers j

end Json

/-! ## Answered buckets -/

/-- An option that shows a bucket under the label of its value in a catalog. -/
structure FacetOption.Shows (o : FacetOption) (f : Field) (catalog : String) (j : Json) : Prop where
  value : j.HasKey o.value
  count : j.HasCount o.count
  label : f.HasOptionLabel catalog o.value o.label

/-- A result that shows the buckets of a payload as the options of a field, with their labels in a
catalog. -/
structure FacetResult.Shows (r : FacetResult) (f : Field) (catalog : String) (payload : Json) :
    Prop where
  field : r.field = f.key
  label : f.HasTitle r.label
  type : f.type.ShownAs r.type
  count : r.count = r.options.length
  hasMore : r.hasMore = true ↔
    ∃ n, payload.get? "sum_other_doc_count" = some (.ofUInt64 n) ∧ 0 < n
  options : ∃ elements, payload.get? "buckets" = some (.array elements) ∧
    List.Forall₂ (fun e o => FacetOption.Shows o f catalog e) elements r.options

variable {b : Bucket} {c : Container} {raw payload : Json}

theorem FacetResult.Reports.shows {r : FacetResult} (h : r.Reports b c payload) {f : Field}
    (hname : b.name = f.key) (hf : c.field? b.name = some f) :
    r.Shows f c.catalog.code payload where
  field := h.field.trans hname
  label := Field.hasTitle_iff.mpr (h.known f hf).1.symm
  type := FieldType.shownAs_iff.mpr (h.known f hf).2.symm
  count := h.count
  hasMore := h.hasMore
  options := by
    have hlabel : labelOf? b c = f.optionLabel? c.catalog.code := by
      funext value
      simp only [labelOf?, hf, Option.bind_some]
    obtain ⟨elements, helements, hoptions⟩ := h.options
    rw [hlabel] at hoptions
    refine ⟨elements, helements, hoptions.imp fun e o ho => ?_⟩
    exact ⟨ho.value, ho.count, Field.hasOptionLabel_iff.mpr ho.label.symm⟩

theorem Aggregation.filterMap_answer? {as : List Aggregation}
    (hnames : ((as.filterMap bucket?).map (·.name)).Nodup) (hb : .bucket b ∈ as) (j : Json) :
    as.filterMap (answer? [(b.name, j)]) = [(b, j)] := by
  have hanswer : answer? [(b.name, j)] = fun a => a.bucket?.bind fun b' =>
      if b'.name = b.name then some (b', j) else none := by
    funext a
    cases a with
    | pipeline p => rfl
    | bucket b' =>
        simp only [answer?, bucket?, Option.bind_some, Table.lookup_cons]
        split <;> rfl
  have hmem : b ∈ as.filterMap bucket? := List.mem_filterMap.mpr ⟨_, hb, rfl⟩
  obtain ⟨before, after, hsplit⟩ := List.append_of_mem hmem
  -- No other bucket has the name, and so no other is answered.
  rw [hsplit, List.map_append, List.map_cons, List.nodup_middle, List.nodup_cons,
    ← List.map_append] at hnames
  obtain ⟨hfresh, _⟩ := hnames
  have hother : ∀ b' ∈ before ++ after, (if b'.name = b.name then some (b', j) else none) = none := by
    intro b' hb'
    rw [if_neg]
    intro he
    exact hfresh (he ▸ List.mem_map_of_mem hb')
  obtain ⟨hbefore, hafter⟩ := List.forall_mem_append.mp hother
  rw [hanswer, ← List.filterMap_filterMap, hsplit, List.filterMap_append, List.filterMap_cons,
    if_pos rfl, List.filterMap_eq_nil_iff.mpr hbefore, List.filterMap_eq_nil_iff.mpr hafter]
  rfl

namespace SearchResponse

variable {r : CompiledRequest}

/-- Nothing but the answer to the bucket decides over the response. -/
theorem facets_parse_of_answer {total : UInt64} {items : List Json} {j : Json}
    (hraw : raw.Response total items [(b.name, j)])
    (hnames : ((r.aggregations.filterMap Aggregation.bucket?).map (·.name)).Nodup)
    (hb : .bucket b ∈ r.aggregations) :
    (parse raw r c).map (·.facets) = (FacetResult.ofJson b c j).map fun facet => [facet] := by
  rw [facets_parse hraw, Aggregation.filterMap_answer? hnames hb, List.mapM_cons]
  cases FacetResult.ofJson b c j <;> rfl

variable (hnames : ((r.aggregations.filterMap Aggregation.bucket?).map (·.name)).Nodup)
  (hb : .bucket b ∈ r.aggregations) (hraw : raw.Answers b payload) (hbuckets : payload.HasBuckets)
include hnames hb hraw hbuckets

theorem reports_of_answers (hname : b.name ≠ "buckets" ∨ b.wrappers = 0) :
    ∃ s facet, ofBackend raw r c = .ok s ∧ s.facets = [facet] ∧ facet.Reports b c payload := by
  obtain ⟨total, items, j, hresponse, hinside⟩ := hraw
  have hleads := hinside.leads hname hbuckets.get?_ne_none
  obtain ⟨facet, hfacet, hreports⟩ := FacetResult.exists_reports (c := c) hleads hbuckets
  have hparse := facets_parse_of_answer (c := c) hresponse hnames hb
  rw [hfacet] at hparse
  obtain ⟨s, hs, hfacets⟩ := map_eq_ok.mp hparse
  exact ⟨s, facet, mapError_eq_ok.mpr hs, hfacets, hreports⟩

theorem refused_of_answers (hname : b.name = "buckets") (hwrapped : b.wrappers ≠ 0) :
    ofBackend raw r c = .error (.invalidResponse (.bucketsNotArray "buckets")) := by
  obtain ⟨total, items, j, hresponse, hinside⟩ := hraw
  have hpayload := hbuckets.get?_ne_none
  obtain ⟨depth, hdepth⟩ := Nat.exists_eq_succ_of_ne_zero hwrapped
  -- The outermost wrapper holds the next level under the very name of the buckets.
  rw [hname, hdepth] at hinside
  have hleads : Json.Leads b.name j j := .here (hinside.get?_buckets_ne_none hpayload)
  have hparse := facets_parse_of_answer (c := c) hresponse hnames hb
  rw [FacetResult.ofJson_of_no_array hleads (hinside.no_array hpayload), hname] at hparse
  rw [ofBackend, map_eq_error.mp hparse]
  rfl

end SearchResponse

/-- What a request puts around a bucket is taken off its answer again, and the buckets are shown for
the field that they were asked for, unless the bucket is named `buckets` and something is around
it. -/
theorem Builder.Serves.unwraps_what_it_wraps {c : Config} {b : Builder} (hb : b.Serves c)
    {i : Intent} {r : CompiledRequest}
    (hkeys : ∀ e ∈ c.containers, e.name = i.container → e.KeysDistinct)
    (hr : (b.create i).1 = .ok r) {bucket : Bucket} (hbucket : .bucket bucket ∈ r.aggregations) :
    (∃ w body, bucket.wire .full = .ok w ∧ bucket.core = .ok body ∧
      w.below? bucket.name bucket.wrappers = some body) ∧
    ∃ k, (b.resolve i.catalog i.container).1 = .ok k ∧
      ∃ f ∈ k.fields, bucket.name = f.key ∧ bucket.field = f.code ∧
        ∀ raw payload : Json, raw.Answers bucket payload → payload.HasBuckets →
          (bucket.name ≠ "buckets" ∨ bucket.wrappers = 0 → ∃ s facet,
            SearchResponse.ofBackend raw r k = .ok s ∧ s.facets = [facet] ∧
              facet.Shows f k.catalog.code payload) ∧
          (bucket.name = "buckets" → bucket.wrappers ≠ 0 →
            SearchResponse.ofBackend raw r k =
              .error (.invalidResponse (.bucketsNotArray "buckets"))) := by
  have h := hb.sound
  obtain ⟨k, hk, hr⟩ := create_eq_ok.mp hr
  obtain ⟨x, rfl⟩ := Compiler.compile_eq_ok.mp hr
  refine ⟨?_, k, hk, ?_⟩
  · obtain ⟨w, hw⟩ := (x.checked_aggregations h.queryOf _ hbucket).exists_renders
    obtain ⟨body, hbody, hbelow⟩ := Bucket.below?_wire hw.wire_eq
    exact ⟨w, body, hw.wire_eq, hbody, hbelow⟩
  · obtain ⟨f, hf, _, _, hname, hfield, _⟩ := x.of_bucket_mem hbucket
    obtain ⟨e, he, hcontainer, hrealizes⟩ := h.declares hk
    have hnodup := (h.declares hk).nodup_codes h.valid
    have hfound : k.field? bucket.name = some f := by
      rw [hname]
      exact ((Container.field?_names_iff hnodup).mpr
        (hrealizes.nodup_keys (hkeys e he hcontainer)) f hf).2
    have hnames := Container.nodup_bucket_names x.aggregations_eq
    refine ⟨f, hf, hname, hfield, fun raw payload hraw hbuckets => ⟨fun hnested => ?_, ?_⟩⟩
    · obtain ⟨s, facet, hs, hfacets, hreports⟩ :=
        SearchResponse.reports_of_answers (c := k) hnames hbucket hraw hbuckets hnested
      exact ⟨s, facet, hs, hfacets, hreports.shows hname hfound⟩
    · exact SearchResponse.refused_of_answers hnames hbucket hraw hbuckets

namespace Shop

theorem inside_beneath {name : String} {payload j : Json} {depth : Nat} (hname : name ≠ "doc_count")
    (h : Json.Inside name payload depth j) :
    Json.Inside name payload (depth + 1) (beneath name j) := by
  refine .level 2 (fun key => ?_) h
  simp only [beneath, Json.get?, Table.lookup_cons]
  by_cases hkey : key = name
  · simp [hkey, hname]
  · simp [hkey]

def answerOf (name : String) (j : Json) : Json :=
  .object [("hits", .object []), ("aggregations", .object [(name, j)])]

theorem response_answerOf (name : String) (j : Json) :
    (answerOf name j).Response 0 [] [(name, j)] where
  found := ⟨[], rfl, .absent, .absent⟩
  ids := by simp
  sections := Or.inr rfl

def prices : Json := counted [bucketOf (.int 4) 1]

theorem hasBuckets_prices : prices.HasBuckets := by
  refine hasBuckets_counted ?_
  simp only [List.mem_singleton, forall_eq]
  exact ⟨⟨_, .plain (fun _ h => nomatch h) rfl (.int 4)⟩, 1, rfl⟩

/-- The prices are counted inside a filter and a nested object. -/
theorem prices_unwrapped : ∃ r bucket k f s facet, (config.builder.create intent).1 = .ok r ∧
    .bucket bucket ∈ r.aggregations ∧ bucket.wrappers = 2 ∧
    (config.builder.resolve intent.catalog intent.container).1 = .ok k ∧ f ∈ k.fields ∧
    SearchResponse.ofBackend (answerOf bucket.name
      (beneath bucket.name (beneath bucket.name prices))) r k = .ok s ∧
    s.facets = [facet] ∧ facet.Shows f k.catalog.code prices := by
  obtain ⟨r, bucket, hr, hbucket, hname, hwrappers⟩ : ∃ r bucket,
      (config.builder.create intent).1 = .ok r ∧ .bucket bucket ∈ r.aggregations ∧
      bucket.name = "price__price" ∧ bucket.wrappers = 2 :=
    ⟨_, _, rfl, List.mem_cons_of_mem _ List.mem_cons_self, by decide +kernel, by decide +kernel⟩
  obtain ⟨_, k, hk, f, hf, _, _, h⟩ := serves.unwraps_what_it_wraps keysDistinct hr hbucket
  have hne : bucket.name ≠ "doc_count" := by
    rw [hname]
    decide
  have hinside : Json.Inside bucket.name prices bucket.wrappers
      (beneath bucket.name (beneath bucket.name prices)) := by
    rw [hwrappers]
    exact inside_beneath hne (inside_beneath hne .bare)
  obtain ⟨hshown, _⟩ := h _ prices ⟨0, [], _, response_answerOf _ _, hinside⟩ hasBuckets_prices
  obtain ⟨s, facet, hs, hfacets, hshows⟩ := hshown (Or.inl (by rw [hname]; decide))
  exact ⟨r, bucket, k, f, s, facet, hr, hbucket, hwrappers, hk, hf, hs, hfacets, hshows⟩

/-- Products with a field that is called as the backend calls its buckets. -/
def bucketed : Config := { config with
  containers := [{ product with
    fields := [{ code := "buckets", type := .keyword, filterable := true },
      { code := "color", type := .select, filterable := true }] }] }

def bucketedIntent : Intent where
  catalog := "fr"
  container := "product"
  filters := [.leaf "color" (.equal (some (.text "red")) none)]
  facets := [{ field := "buckets" }, { field := "color" }]

/-- The facet of that field is counted inside a filter, and its answer is refused. -/
theorem buckets_refused : bucketed.check = .ok () ∧ (∀ e ∈ bucketed.containers, e.KeysDistinct) ∧
    ∃ r bucket k raw payload, (bucketed.builder.create bucketedIntent).1 = .ok r ∧
      .bucket bucket ∈ r.aggregations ∧ (bucketed.builder.resolve "fr" "product").1 = .ok k ∧
      Json.Answers raw bucket payload ∧ Json.HasBuckets payload ∧
      SearchResponse.ofBackend raw r k =
        .error (.invalidResponse (.bucketsNotArray "buckets")) := by
  have hkeys : ∀ e ∈ bucketed.containers, e.KeysDistinct := by
    intro e he
    obtain rfl := List.mem_singleton.mp he
    decide +kernel
  obtain ⟨r, bucket, k, hr, hbucket, hnames, hname, hwrappers, hk⟩ : ∃ r bucket k,
      (bucketed.builder.create bucketedIntent).1 = .ok r ∧ .bucket bucket ∈ r.aggregations ∧
      (r.aggregations.filterMap Aggregation.bucket?).map (·.name) = ["buckets", "color"] ∧
      bucket.name = "buckets" ∧ bucket.wrappers = 1 ∧
      (bucketed.builder.resolve "fr" "product").1 = .ok k :=
    ⟨_, _, _, rfl, List.mem_cons_self, by decide +kernel, by decide +kernel, by decide +kernel, rfl⟩
  have hanswers : (answerOf "buckets" (beneath "buckets" prices)).Answers bucket prices := by
    refine ⟨0, [], beneath "buckets" prices, ?_, ?_⟩
    · rw [hname]
      exact response_answerOf _ _
    · rw [hname, hwrappers]
      exact inside_beneath (by decide) .bare
  refine ⟨rfl, hkeys, r, bucket, k, _, prices, hr, hbucket, hk, hanswers, hasBuckets_prices, ?_⟩
  refine SearchResponse.refused_of_answers ?_ hbucket hanswers hasBuckets_prices hname ?_
  · rw [hnames]
    decide
  · rw [hwrappers]
    decide

end Shop

end FacetedSearch
