import FacetedSearch.Proofs.Query.Meaning
import FacetedSearch.Proofs.Request.Compilation
import FacetedSearch.Proofs.Request.Session
import Mathlib.Data.List.Nodup

/-!
# Filters of requests

What is put off for the sake of facets changes no hit: the filter and the post filter of a request
ask together for what the container and the intent ask for. A facet is counted under all of it but
the criteria on its own field.
-/

namespace FacetedSearch

open Outcome

universe u

variable {D : Type u} {I : Interpretation D} {d : D}

/-- What an intent asks of a document in a container, the criteria of one kind alone considered. -/
structure Intent.Asks (i : Intent) (I : Interpretation D) (c : Container)
    (kind : Criterion → Prop) (d : D) : Prop where
  defaultFilters : ∀ q ∈ c.defaultFilters, I.holds q d
  queryFilters : ∀ q ∈ i.queryFilters, I.holds q d
  criteria : ∀ k ∈ i.filters, kind k → I.meets c k d

namespace Intent

variable {i : Intent} {c : Container} {kind kind' : Criterion → Prop}

theorem asks_congr (h : ∀ k ∈ i.filters, kind k ↔ kind' k) :
    i.Asks I c kind d ↔ i.Asks I c kind' d := by
  constructor
  · rintro ⟨hd, hq, hc⟩
    exact ⟨hd, hq, fun k hk hkind => hc k hk ((h k hk).mpr hkind)⟩
  · rintro ⟨hd, hq, hc⟩
    exact ⟨hd, hq, fun k hk hkind => hc k hk ((h k hk).mp hkind)⟩

theorem asks_and : i.Asks I c kind d ∧ (∀ k ∈ i.filters, kind' k → I.meets c k d) ↔
    i.Asks I c (fun k => kind k ∨ kind' k) d := by
  constructor
  · rintro ⟨⟨hd, hq, hc⟩, hc'⟩
    exact ⟨hd, hq, fun k hk hkind => hkind.elim (hc k hk) (hc' k hk)⟩
  · rintro ⟨hd, hq, hc⟩
    exact ⟨⟨hd, hq, fun k hk h => hc k hk (Or.inl h)⟩, fun k hk h => hc k hk (Or.inr h)⟩

end Intent

/-! ## The field of a criterion -/

/-- A criterion that is a test on a field, however it refers to the field. -/
def Criterion.IsOn (k : Criterion) (c : Container) (f : Field) : Prop :=
  ∃ reference, k.field? = some reference ∧ c.field? reference = some f

theorem Container.facetOf?_eq_some {c : Container} {names : List String} {k : Criterion}
    {n : String} : c.facetOf? names k = some n ↔ n ∈ names ∧ ∃ f, k.IsOn c f ∧ f.key = n := by
  simp only [facetOf?, Option.filter_eq_some_iff, Option.bind_eq_some_iff, Option.map_eq_some_iff,
    List.contains_iff_mem, Criterion.IsOn]
  constructor
  · rintro ⟨⟨reference, hr, f, hf, hn⟩, hmem⟩
    exact ⟨hmem, f, ⟨reference, hr, hf⟩, hn⟩
  · rintro ⟨hmem, f, ⟨reference, hr, hf⟩, hn⟩
    exact ⟨⟨reference, hr, f, hf, hn⟩, hmem⟩

/-- Where no two fields share a key, the criteria on a field are those put off for its facet. -/
theorem Container.putOffFor?_eq_key {c : Container} (hc : (c.fields.map Field.key).Nodup)
    {names : List String} {f : Field} (hf : f ∈ c.fields) (hn : f.key ∈ names) {k : Criterion} :
    c.putOffFor? names k .excludeSelf = some f.key ↔ k.IsOn c f := by
  simp only [putOffFor?, facetOf?_eq_some]
  constructor
  · rintro ⟨_, g, ⟨reference, hr, hg⟩, hkey⟩
    obtain rfl := List.inj_on_of_nodup_map hc (Container.field?_mem hg) hf hkey
    exact ⟨reference, hr, hg⟩
  · intro h
    exact ⟨hn, f, h, rfl⟩

/-! ## The filters of a compilation -/

namespace Compilation

variable {k : Compiler} {c : Container} {i : Intent} (x : Compilation k c i)

theorem holds_translated (hq : k.queryOf = Criterion.toQuery) (kind : Criterion → Prop) :
    (∀ t ∈ x.translated, kind t.1 → I.holds t.2 d) ↔
      ∀ criterion ∈ i.filters, kind criterion → I.meets c criterion d := by
  rw [← x.fst_translated, List.forall_mem_map]
  refine forall₂_congr fun t ht => imp_congr_right fun _ => ?_
  simp [Interpretation.meets, x.toQuery_translated hq t ht]

theorem admits_filter (hq : k.queryOf = Criterion.toQuery) :
    I.admits x.parts.filter d ↔ i.Asks I c (fun criterion => x.putOff criterion = none) d := by
  have hmain : I.admits x.parts.filter d ↔ ∀ q ∈ x.parts.main, I.holds q d :=
    I.admits_conjunction x.parts.main d
  simp only [hmain, x.mem_main, or_imp, forall_and]
  constructor
  · rintro ⟨⟨hd, hi⟩, hc⟩
    refine ⟨hd, hi, (x.holds_translated hq _).mp fun t ht hnone => ?_⟩
    exact hc t.2 ⟨t, ht, hnone, rfl⟩
  · rintro ⟨hd, hi, hc⟩
    refine ⟨⟨hd, hi⟩, ?_⟩
    rintro _ ⟨t, ht, hnone, rfl⟩
    exact (x.holds_translated hq _).mpr hc t ht hnone

theorem admits_faceted (hq : k.queryOf = Criterion.toQuery) (p : String → Bool) :
    I.admits (Query.conjunction ((x.parts.faceted.filter fun e => p e.1).map (·.2))) d ↔
      ∀ criterion ∈ i.filters, (∃ n, x.putOff criterion = some n ∧ p n = true) →
        I.meets c criterion d := by
  rw [I.admits_conjunction, List.forall_mem_map, ← x.holds_translated hq]
  simp only [List.mem_filter, x.mem_faceted]
  constructor
  · rintro h t ht ⟨n, hput, hn⟩
    exact h (n, t.2) ⟨⟨t, ht, hput, rfl⟩, hn⟩
  · rintro h e ⟨⟨t, ht, hput, hq⟩, hn⟩
    rw [← hq]
    exact h t ht ⟨e.1, hput, hn⟩

theorem admits_postFilter (hq : k.queryOf = Criterion.toQuery) :
    I.admits x.request.postFilter d ↔
      ∀ criterion ∈ i.filters, x.putOff criterion ≠ none → I.meets c criterion d := by
  have h := x.admits_faceted (I := I) (d := d) hq fun _ => true
  simp only [List.filter_true, and_true, ← Option.ne_none_iff_exists'] at h
  exact h

theorem admits_others (hq : k.queryOf = Criterion.toQuery) (facet : String) :
    I.admits (x.parts.others facet) d ↔ ∀ criterion ∈ i.filters,
      (x.putOff criterion ≠ none ∧ x.putOff criterion ≠ some facet) → I.meets c criterion d := by
  refine (x.admits_faceted hq fun n => n != facet).trans ?_
  refine forall₂_congr fun criterion _ => imp_congr_left ?_
  cases x.putOff criterion <;> simp

/-- A criterion is either put off or not, and so nothing is lost and nothing added. -/
theorem admits_filter_and_postFilter (hq : k.queryOf = Criterion.toQuery) :
    I.admits x.parts.filter d ∧ I.admits x.request.postFilter d ↔
      i.Asks I c (fun _ => True) d := by
  rw [x.admits_filter hq, x.admits_postFilter hq, Intent.asks_and]
  exact Intent.asks_congr fun criterion _ => iff_true_intro (em _)

end Compilation

/-! ## Facets and hits -/

/-- Requests for which a backend finds the same hits in the same order, and returns the same page of
them. Their queries score alike, and what passes the filter of the query and the post filter is the
same. -/
structure CompiledRequest.SameHits (I : Interpretation D) (r r' : CompiledRequest) : Prop where
  indexName : r.indexName = r'.indexName
  start : r.start = r'.start
  size : r.size = r'.size
  query : ∃ scored filter filter', r.query = .filtered scored filter {} ∧
    r'.query = .filtered scored filter' {} ∧ ∀ d,
      I.admits filter d ∧ I.admits r.postFilter d ↔
        I.admits filter' d ∧ I.admits r'.postFilter d
  sort : r.sort = r'.sort

def Config.withFacetMode (c : Config) (mode : FacetFilterMode) : Config :=
  { c with search := { c.search with facetFilterMode := mode } }

theorem Compiler.scored_congr {k k' : Compiler}
    (h : k'.settings.fulltextField = k.settings.fulltextField) (c : Container)
    (q : Option QueryInput) : k'.scored c q = k.scored c q := by
  unfold scored
  rw [h]

namespace Compilation

variable {k k' : Compiler} {c : Container} {i : Intent}

/-- Of the settings a compilation needs the full-text field and the identifier alone; the mode of
facets only changes what it gives. -/
theorem transport (x : Compilation k c i)
    (ht : k'.settings.fulltextField = k.settings.fulltextField)
    (hi : k'.settings.identifierField = k.settings.identifierField)
    (hq : k'.queryOf = k.queryOf) (he : k'.extraFacets = k.extraFacets) :
    Nonempty (Compilation k' c i) := by
  -- The buckets may differ in their filters, but the facets answered are the same.
  obtain ⟨es, hes, _⟩ := Container.aggregations_eq_ok.mp x.aggregations_eq
  have htranslated : k'.translations c i.filters = .ok x.translated := by
    rw [← x.translated_eq]
    simp only [Compiler.translations, hq]
  exact ⟨{
    text := x.text
    scored := x.scored
    extra := x.extra
    translated := x.translated
    sort := x.sort
    aggregations := _
    scored_eq := (Compiler.scored_congr ht c i.query).trans x.scored_eq
    extra_eq := by rw [he]; exact x.extra_eq
    checked_queryFilters := x.checked_queryFilters
    translated_eq := htranslated
    sort_eq := by rw [hi]; exact x.sort_eq
    aggregations_eq := Container.aggregations_eq_ok.mpr ⟨es, hes, rfl⟩ }⟩

theorem sameHits {facets : List FacetSpec} (x : Compilation k c i)
    (y : Compilation k' c { i with facets })
    (ht : k'.settings.fulltextField = k.settings.fulltextField)
    (hi : k'.settings.identifierField = k.settings.identifierField)
    (hq : k.queryOf = Criterion.toQuery) (hq' : k'.queryOf = Criterion.toQuery) :
    x.request.SameHits I y.request where
  indexName := rfl
  start := rfl
  size := rfl
  query := by
    have hscored : x.scored = y.scored := by
      have h := y.scored_eq
      rw [Compiler.scored_congr ht, x.scored_eq] at h
      exact congrArg (·.2) (Except.ok.inj h)
    refine ⟨x.scored, x.parts.filter, y.parts.filter, rfl, by rw [hscored]; rfl, fun d => ?_⟩
    rw [x.admits_filter_and_postFilter hq, y.admits_filter_and_postFilter hq']
    constructor
    · rintro ⟨hd, hq, hc⟩
      exact ⟨hd, hq, hc⟩
    · rintro ⟨hd, hq, hc⟩
      exact ⟨hd, hq, hc⟩
  sort := by
    have h := y.sort_eq
    rw [hi, x.sort_eq] at h
    exact Except.ok.inj h

end Compilation

namespace Builder

variable {c : Config} {mode : FacetFilterMode} {b b' : Builder}

/-- The mode of facets has no part in which containers there are. -/
theorem Sound.resolve_withFacetMode (h : b.Sound c) (h' : b'.Sound (c.withFacetMode mode))
    (catalog container : String) :
    (b'.resolve catalog container).1 = (b.resolve catalog container).1 := by
  rw [h.resolve_fst, h'.resolve_fst]
  rfl

/-- In whichever mode and with whichever facets a request is made, the filter of its query and its
post filter together leave what the container and the intent ask for, and a request that can be made
in one mode can be made in the other. -/
theorem Serves.hits_whatever_facets (hb : b.Serves c) (hb' : b'.Serves (c.withFacetMode mode))
    (i : Intent) (facets : List FacetSpec) (I : Interpretation D) :
    (∀ r, (b.create i).1 = .ok r → ∃ k, c.Declares i.container k ∧
      (b.resolve i.catalog i.container).1 = .ok k ∧
      ∃ scored filter, r.query = .filtered scored filter {} ∧ ∀ d,
        I.admits filter d ∧ I.admits r.postFilter d ↔ i.Asks I k (fun _ => True) d) ∧
    (∀ r r', (b.create i).1 = .ok r → (b'.create { i with facets }).1 = .ok r' →
      r.SameHits I r') ∧
    (b'.compiler.extraFacets = b.compiler.extraFacets →
      ((∃ r, (b.create i).1 = .ok r) ↔ ∃ r', (b'.create i).1 = .ok r')) := by
  have h := hb.sound
  have h' := hb'.sound
  have hresolve := h.resolve_withFacetMode h' i.catalog i.container
  have ht : b'.compiler.settings.fulltextField = b.compiler.settings.fulltextField := by
    rw [h.settings, h'.settings]
    rfl
  have hi : b'.compiler.settings.identifierField = b.compiler.settings.identifierField := by
    rw [h.settings, h'.settings]
    rfl
  have hq : b'.compiler.queryOf = b.compiler.queryOf := by rw [h.queryOf, h'.queryOf]
  refine ⟨fun r hr => ?_, fun r r' hr hr' => ?_, fun he => ?_⟩
  · obtain ⟨k, hk, hr⟩ := create_eq_ok.mp hr
    obtain ⟨x, rfl⟩ := Compiler.compile_eq_ok.mp hr
    exact ⟨k, h.declares hk, hk, x.scored, x.parts.filter, rfl,
      fun d => x.admits_filter_and_postFilter h.queryOf⟩
  · obtain ⟨k, hk, hr⟩ := create_eq_ok.mp hr
    obtain ⟨k', hk', hr'⟩ := create_eq_ok.mp hr'
    rw [hresolve, hk] at hk'
    cases hk'
    obtain ⟨x, rfl⟩ := Compiler.compile_eq_ok.mp hr
    obtain ⟨y, rfl⟩ := Compiler.compile_eq_ok.mp hr'
    exact x.sameHits y ht hi h.queryOf h'.queryOf
  · simp only [create_eq_ok, hresolve, Compiler.compile_eq_ok]
    constructor
    · rintro ⟨_, k, hk, x, rfl⟩
      obtain ⟨y⟩ := x.transport ht hi hq he
      exact ⟨y.request, k, hk, y, rfl⟩
    · rintro ⟨_, k, hk, y, rfl⟩
      obtain ⟨x⟩ := y.transport ht.symm hi.symm hq.symm he.symm
      exact ⟨x.request, k, hk, x, rfl⟩

end Builder

namespace Shop

/-- A document as the values of its fields; of the conditions, equality alone is looked into. -/
def reading : Interpretation (String → Option Scalar) := .ofTest fun field condition d =>
  match condition with
  | .term v => d field = some v
  | _ => (d field).isSome = true

theorem serves_applyAll :
    (config.withFacetMode .applyAll).builder.Serves (config.withFacetMode .applyAll) :=
  .builder (by rfl)

/-- Without facets and with every criterion in the main filter, the same products are found. -/
theorem sameHits_applyAll : ∃ r r', (config.builder.create intent).1 = .ok r ∧
    ((config.withFacetMode .applyAll).builder.create { intent with facets := [] }).1 = .ok r' ∧
    r.SameHits reading r' :=
  ⟨_, _, rfl, rfl,
    (Builder.Serves.hits_whatever_facets serves serves_applyAll intent [] reading).2.1
      _ _ rfl rfl⟩

end Shop

/-! ## Facets and counts -/

namespace Compilation

variable {k : Compiler} {c : Container} {i : Intent} (x : Compilation k c i)

/-- The filter of a bucket is what is put off for other facets, and so leaves out the criteria on
its own field and no others. -/
theorem admits_bucket (hq : k.queryOf = Criterion.toQuery)
    (hm : k.settings.facetFilterMode = .excludeSelf) (hc : (c.fields.map Field.key).Nodup)
    {bucket : Bucket} (hb : .bucket bucket ∈ x.aggregations) :
    ∃ f ∈ c.fields, bucket.name = f.key ∧ bucket.field = f.code ∧ ∀ d,
      (I.admits x.parts.filter d ∧ I.admits bucket.filter d ↔
        i.Asks I c (fun criterion => ¬ criterion.IsOn c f) d) ∧
      (I.admits bucket.filter d ∧
          (∀ criterion ∈ i.filters, criterion.IsOn c f → I.meets c criterion d) ↔
        I.admits x.request.postFilter d) := by
  obtain ⟨f, hf, _, hn, hname, hfield, _, hfilter⟩ := x.of_bucket_mem hb
  have hon : ∀ criterion, criterion.IsOn c f ↔ x.putOff criterion = some f.key := by
    intro criterion
    rw [putOff, hm]
    exact (Container.putOffFor?_eq_key hc hf hn).symm
  refine ⟨f, hf, hname, hfield, fun d => ⟨?_, ?_⟩⟩
  · -- Not on the field: not put off at all, or put off for another facet.
    rw [hfilter, x.admits_filter hq, x.admits_others hq, Intent.asks_and]
    refine Intent.asks_congr fun criterion _ => ?_
    rw [hon]
    cases x.putOff criterion <;> simp
  · -- Put off: for another facet, or for this one.
    rw [hfilter, x.admits_others hq, x.admits_postFilter hq, ← forall₂_and]
    refine forall₂_congr fun criterion _ => ?_
    rw [hon, ← or_imp]
    refine imp_congr_left ?_
    cases x.putOff criterion <;> simp [em']

theorem request_of_applyAll (hm : k.settings.facetFilterMode = .applyAll) :
    (∀ bucket, .bucket bucket ∈ x.aggregations → bucket.filter = none) ∧
      x.request.postFilter = none ∧ x.parts.filter =
        Query.conjunction (c.defaultFilters ++ i.queryFilters ++ x.translated.map (·.2)) := by
  have hparts : x.parts = FilterParts.mk
      (c.defaultFilters ++ i.queryFilters ++ x.translated.map (·.2)) [] := by
    rw [parts, Compiler.parts, hm]
    exact FilterParts.place_none
  refine ⟨fun bucket hb => ?_, ?_, ?_⟩
  · obtain ⟨f, _, _, _, _, _, _, hfilter⟩ := x.of_bucket_mem hb
    rw [hfilter, hparts]
    rfl
  · rw [request, hparts]
    rfl
  · rw [hparts]
    rfl

end Compilation

/-- A facet is counted under all that is asked except on its own field, where facets exclude
themselves; where they do not, the filter of the query holds all that is asked. -/
theorem Builder.Serves.facets_exclude_themselves {c : Config} {b : Builder} (hb : b.Serves c)
    {i : Intent} {r : CompiledRequest}
    (hkeys : ∀ e ∈ c.containers, e.name = i.container → e.KeysDistinct)
    (hr : (b.create i).1 = .ok r) (I : Interpretation D) :
    ∃ k scored filter, c.Declares i.container k ∧
      (b.resolve i.catalog i.container).1 = .ok k ∧ r.query = .filtered scored filter {} ∧
      (c.search.facetFilterMode = .excludeSelf → ∀ bucket, .bucket bucket ∈ r.aggregations →
        ∃ f ∈ k.fields, bucket.name = f.key ∧ bucket.field = f.code ∧ ∀ d,
          (I.admits filter d ∧ I.admits bucket.filter d ↔
            i.Asks I k (fun criterion => ¬ criterion.IsOn k f) d) ∧
          (I.admits bucket.filter d ∧
              (∀ criterion ∈ i.filters, criterion.IsOn k f → I.meets k criterion d) ↔
            I.admits r.postFilter d)) ∧
      (c.search.facetFilterMode = .applyAll →
        (∀ bucket, .bucket bucket ∈ r.aggregations → bucket.filter = none) ∧
        r.postFilter = none ∧
        ∃ qs, List.Forall₂ (fun criterion q => criterion.toQuery k = .ok q) i.filters qs ∧
          filter = Query.conjunction (k.defaultFilters ++ i.queryFilters ++ qs)) := by
  have h := hb.sound
  obtain ⟨k, hk, hr⟩ := create_eq_ok.mp hr
  obtain ⟨x, rfl⟩ := Compiler.compile_eq_ok.mp hr
  refine ⟨k, x.scored, x.parts.filter, h.declares hk, hk, rfl, fun hm bucket hbucket => ?_,
    fun hm => ?_⟩
  · obtain ⟨e, he, hname, hrealizes⟩ := h.declares hk
    exact x.admits_bucket h.queryOf (by rw [h.settings, hm])
      (hrealizes.nodup_keys (hkeys e he hname)) hbucket
  · obtain ⟨hbuckets, hpost, hfilter⟩ := x.request_of_applyAll (by rw [h.settings, hm])
    exact ⟨hbuckets, hpost, _, x.forall₂_toQuery h.queryOf, hfilter⟩

namespace Shop

/-- The colours and the prices are both counted, each without the criterion on it. -/
theorem counted_without_own_criteria : ∃ r k scored filter,
    (config.builder.create intent).1 = .ok r ∧
    (config.builder.resolve intent.catalog intent.container).1 = .ok k ∧
    r.query = .filtered scored filter {} ∧ r.aggregations.length = 2 ∧
    ∀ bucket, .bucket bucket ∈ r.aggregations → ∃ f ∈ k.fields, bucket.field = f.code ∧ ∀ d,
      (reading.admits filter d ∧ reading.admits bucket.filter d ↔
        intent.Asks reading k (fun criterion => ¬ criterion.IsOn k f) d) := by
  obtain ⟨r, hr, hlength⟩ : ∃ r, (config.builder.create intent).1 = .ok r ∧
      r.aggregations.length = 2 := ⟨_, rfl, rfl⟩
  obtain ⟨k, scored, filter, _, hk, hquery, h, _⟩ :=
    serves.facets_exclude_themselves keysDistinct hr reading
  refine ⟨r, k, scored, filter, hr, hk, hquery, hlength, fun bucket hb => ?_⟩
  obtain ⟨f, hf, _, hfield, hd⟩ := h rfl bucket hb
  exact ⟨f, hf, hfield, fun d => (hd d).1⟩

end Shop

end FacetedSearch
