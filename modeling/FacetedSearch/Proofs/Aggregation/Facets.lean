import FacetedSearch.Aggregation.Facet
import FacetedSearch.Proofs.Aggregation.Wire
import FacetedSearch.Proofs.Criterion.Translation

/-!
# Aggregations of facets

Of the facets of one name the first alone is answered, by its bucket and its sibling pipelines.
Which facets are answered, and whether they can be, depends on neither settings nor filters.
-/

namespace FacetedSearch

open Outcome

theorem FacetSpec.checkPipelines_eq_ok {ps : List Pipeline} :
    checkPipelines ps = .ok () ↔ ∀ p ∈ ps, p.check = .ok () := by
  induction ps with
  | nil => simp [checkPipelines]
  | cons p ps ih =>
      simp only [checkPipelines, check_bind_eq_ok, Pipeline.validate, mapError_eq_ok, ih,
        List.forall_mem_cons]

theorem FacetSpec.checkPipelines_failsOnly (ps : List Pipeline) :
    FailsOnly Error.IsRefusal (checkPipelines ps) := by
  induction ps with
  | nil => exact .ok ()
  | cons p ps ih => exact .bind (.mapError fun _ => trivial) fun _ _ => ih

/-- The bucket of an aggregation that is one. -/
def Aggregation.bucket? : Aggregation → Option Bucket
  | bucket b => some b
  | pipeline _ => none

namespace FacetSpec

variable (s : FacetSpec) (settings : SearchSettings) (filters : FacetFilters) (f : Field)

theorem buckets_aggregations : (s.aggregations settings filters f).filterMap Aggregation.bucket? =
    [s.bucket settings filters f] := by
  simp only [aggregations, List.filterMap_cons, Aggregation.bucket?, List.cons.injEq, true_and,
    List.filterMap_eq_nil_iff, List.forall_mem_map]
  exact fun _ _ => trivial

theorem metrics_bucket : (s.bucket settings filters f).metrics =
    s.metrics.map fun k => { name := f.key ++ "_" ++ k.name, field := f.code, kind := k } := by
  simp [Bucket.metrics, bucket, List.filterMap_map, Function.comp_def, SubAggregation.metric?]

theorem pipelines_bucket : (s.bucket settings filters f).pipelines =
    s.pipelines.filter (·.kind.isParent) := by
  simp [Bucket.pipelines, bucket, List.filterMap_map, Function.comp_def, SubAggregation.pipeline?]

/-- The metrics come before the pipelines, which may so take their places on the wire. -/
theorem children_bucket : (s.bucket settings filters f).children =
    (s.bucket settings filters f).metrics.map .metric ++
      (s.bucket settings filters f).pipelines.map .pipeline := by
  rw [metrics_bucket, pipelines_bucket, List.map_map]
  rfl

end FacetSpec

theorem FacetFilters.get?_insert (fs : FacetFilters) (field other : String) (q : Query) :
    (fs.insert field q).get? other =
      if Code.flatten other = Code.flatten field then some q else fs.get? other :=
  Table.get?_insert _ _ _ _

namespace Container

variable {c : Container}

theorem facetField_eq_ok {s : FacetSpec} {f : Field} :
    c.facetField s = .ok f ↔ c.field? s.field = some f ∧ f.filterable = true :=
  requireFilterable_eq_ok

theorem facetField_eq_error {s : FacetSpec} {e : Error} : c.facetField s = .error e ↔
    (c.field? s.field = none ∧ e = .unknownField s.field c.name) ∨
    ∃ f, c.field? s.field = some f ∧ f.filterable = false ∧
      e = .malformedQuery (.notFacetable f.code) :=
  requireFilterable_eq_error

theorem facetField_failsOnly (s : FacetSpec) : FailsOnly Error.IsRefusal (c.facetField s) :=
  requireFilterable_failsOnly s.field fun _ => trivial

/-- The facets that are answered, each with its field, given the names of the facets before
them. -/
def answered (c : Container) (seen : List String) : List FacetSpec → Result (List (FacetSpec × Field))
  | [] => .ok []
  | s :: rest => do
    let f ← c.facetField s
    if seen.contains f.key then answered c seen rest
    else
      FacetSpec.checkPipelines s.pipelines
      let more ← answered c (f.key :: seen) rest
      .ok ((s, f) :: more)

theorem aggregationsAfter_eq (settings : SearchSettings) (filters : FacetFilters)
    (seen : List String) (facets : List FacetSpec) :
    c.aggregationsAfter settings filters seen facets = (c.answered seen facets).map fun es =>
      es.flatMap fun e => e.1.aggregations settings filters e.2 := by
  induction facets generalizing seen with
  | nil => rfl
  | cons s facets ih =>
      simp only [aggregationsAfter, answered]
      cases c.facetField s with
      | error e => rfl
      | ok f =>
          by_cases hseen : seen.contains f.key = true
          · simp only [bind, Except.bind, if_pos hseen, ih]
          · simp only [bind, Except.bind, if_neg hseen, ih]
            cases FacetSpec.checkPipelines s.pipelines with
            | error e => rfl
            | ok _ => cases c.answered (f.key :: seen) facets <;> rfl

/-- A facet goes through in two ways: left out, or answered before the others. -/
theorem answered_cons_eq_ok {seen : List String} {s : FacetSpec} {facets : List FacetSpec}
    {es : List (FacetSpec × Field)} : c.answered seen (s :: facets) = .ok es ↔
      ∃ f, c.facetField s = .ok f ∧
        (f.key ∈ seen ∧ c.answered seen facets = .ok es ∨
          f.key ∉ seen ∧ (∀ p ∈ s.pipelines, p.check = .ok ()) ∧
            ∃ more, c.answered (f.key :: seen) facets = .ok more ∧ es = (s, f) :: more) := by
  rw [answered, bind_eq_ok]
  refine exists_congr fun f => and_congr_right fun _ => ?_
  by_cases hseen : f.key ∈ seen
  · rw [if_pos (List.contains_iff_mem.mpr hseen)]
    simp [hseen]
  · rw [if_neg (mt List.contains_iff_mem.mp hseen), check_bind_eq_ok,
      FacetSpec.checkPipelines_eq_ok, bind_eq_ok]
    simp [hseen, @eq_comm _ es]

theorem of_mem_answered {seen : List String} {facets : List FacetSpec}
    {es : List (FacetSpec × Field)} (h : c.answered seen facets = .ok es) :
    ∀ e ∈ es, e.1 ∈ facets ∧ c.facetField e.1 = .ok e.2 ∧ ∀ p ∈ e.1.pipelines, p.check = .ok () := by
  induction facets generalizing seen es with
  | nil =>
      cases h
      simp
  | cons s facets ih =>
      have hrest : ∀ {seen es}, c.answered seen facets = .ok es → ∀ e ∈ es,
          e.1 ∈ s :: facets ∧ c.facetField e.1 = .ok e.2 ∧ ∀ p ∈ e.1.pipelines, p.check = .ok () :=
        fun h e he => ⟨List.mem_cons_of_mem _ (ih h e he).1, (ih h e he).2⟩
      obtain ⟨f, hf, ⟨_, h⟩ | ⟨_, hp, more, hmore, rfl⟩⟩ := answered_cons_eq_ok.mp h
      · exact hrest h
      · exact List.forall_mem_cons.mpr ⟨⟨List.mem_cons_self, hf, hp⟩, hrest hmore⟩

theorem nodup_keys_answered {seen : List String} {facets : List FacetSpec}
    {es : List (FacetSpec × Field)} (h : c.answered seen facets = .ok es) :
    (es.map (·.2.key)).Nodup ∧ ∀ e ∈ es, e.2.key ∉ seen := by
  induction facets generalizing seen es with
  | nil =>
      cases h
      simp
  | cons s facets ih =>
      obtain ⟨f, _, ⟨_, h⟩ | ⟨hnew, _, more, hmore, rfl⟩⟩ := answered_cons_eq_ok.mp h
      · exact ih h
      · obtain ⟨hnodup, hfresh⟩ := ih hmore
        refine ⟨List.nodup_cons.mpr ⟨?_, hnodup⟩, List.forall_mem_cons.mpr ⟨hnew, ?_⟩⟩
        · intro hmem
          obtain ⟨e, he, hkey⟩ := List.mem_map.mp hmem
          exact hfresh e he (hkey ▸ List.mem_cons_self)
        · exact fun e he hmem => hfresh e he (List.mem_cons_of_mem _ hmem)

/-- A facet is left out only if its name was there before. -/
theorem exists_mem_answered {seen : List String} {facets : List FacetSpec}
    {es : List (FacetSpec × Field)} (h : c.answered seen facets = .ok es) {s : FacetSpec}
    (hs : s ∈ facets) : ∃ f, c.facetField s = .ok f ∧ (f.key ∈ seen ∨ ∃ e ∈ es, e.2.key = f.key) := by
  induction facets generalizing seen es with
  | nil => cases hs
  | cons t facets ih =>
      obtain ⟨g, hg, ⟨hseen, h⟩ | ⟨_, _, more, hmore, rfl⟩⟩ := answered_cons_eq_ok.mp h
      · rcases List.mem_cons.mp hs with rfl | hs
        · exact ⟨g, hg, Or.inl hseen⟩
        · exact ih h hs
      · rcases List.mem_cons.mp hs with rfl | hs
        · exact ⟨g, hg, Or.inr ⟨_, List.mem_cons_self, rfl⟩⟩
        · obtain ⟨f, hf, hkey⟩ := ih hmore hs
          refine ⟨f, hf, ?_⟩
          rcases hkey with hkey | ⟨e, he, hkey⟩
          · rcases List.mem_cons.mp hkey with hkey | hkey
            · exact Or.inr ⟨_, List.mem_cons_self, hkey.symm⟩
            · exact Or.inl hkey
          · exact Or.inr ⟨e, List.mem_cons_of_mem _ he, hkey⟩

theorem answered_failsOnly (seen : List String) (facets : List FacetSpec) :
    FailsOnly Error.IsRefusal (c.answered seen facets) := by
  induction facets generalizing seen with
  | nil => exact .ok []
  | cons s facets ih =>
      simp only [answered]
      refine .bind (facetField_failsOnly s) fun f _ => ?_
      split
      · exact ih seen
      · refine .bind (FacetSpec.checkPipelines_failsOnly _) fun _ _ => ?_
        exact .bind (ih _) fun _ _ => .ok _

variable {settings : SearchSettings} {filters : FacetFilters} {facets : List FacetSpec}

theorem aggregations_eq_ok {as : List Aggregation} :
    c.aggregations settings filters facets = .ok as ↔ ∃ es, c.answered [] facets = .ok es ∧
      es.flatMap (fun e => e.1.aggregations settings filters e.2) = as := by
  rw [aggregations, aggregationsAfter_eq, map_eq_ok]

/-- A bucket is that of a facet, and so on a filterable field, under whose key it finds its
filter. -/
theorem of_bucket_mem_aggregations {as : List Aggregation}
    (h : c.aggregations settings filters facets = .ok as) {b : Bucket} (hb : .bucket b ∈ as) :
    ∃ s ∈ facets, ∃ f, c.field? s.field = some f ∧ f.filterable = true ∧
      b = s.bucket settings filters f := by
  obtain ⟨es, hes, rfl⟩ := aggregations_eq_ok.mp h
  obtain ⟨e, he, hb⟩ := List.mem_flatMap.mp hb
  obtain ⟨hs, hf, _⟩ := of_mem_answered hes e he
  obtain ⟨hf, hfilterable⟩ := facetField_eq_ok.mp hf
  simp only [FacetSpec.aggregations, List.mem_cons, Aggregation.bucket.injEq, List.mem_map,
    reduceCtorEq, and_false, exists_false, or_false] at hb
  exact ⟨e.1, hs, e.2, hf, hfilterable, hb⟩

/-- Each facet asked for has a bucket under its name, if not its own then that of an earlier one. -/
theorem exists_bucket_mem_aggregations {as : List Aggregation}
    (h : c.aggregations settings filters facets = .ok as) {s : FacetSpec} (hs : s ∈ facets) :
    ∃ f, c.field? s.field = some f ∧ ∃ b, .bucket b ∈ as ∧ b.name = f.key := by
  obtain ⟨es, hes, rfl⟩ := aggregations_eq_ok.mp h
  obtain ⟨f, hf, hkey⟩ := exists_mem_answered hes hs
  obtain ⟨e, he, hkey⟩ := hkey.resolve_left List.not_mem_nil
  exact ⟨f, (facetField_eq_ok.mp hf).1, e.1.bucket settings filters e.2,
    List.mem_flatMap.mpr ⟨e, he, List.mem_cons_self⟩, hkey⟩

/-- With other filters the buckets are the same but for their filters, and the pipelines are the
same. -/
theorem aggregations_refilter {filters' : FacetFilters} {as as' : List Aggregation}
    (h : c.aggregations settings filters facets = .ok as)
    (h' : c.aggregations settings filters' facets = .ok as') :
    (∀ p, .pipeline p ∈ as → .pipeline p ∈ as') ∧
    ∀ b, .bucket b ∈ as → .bucket { b with filter := filters'.get? b.name } ∈ as' := by
  obtain ⟨es, hes, rfl⟩ := aggregations_eq_ok.mp h
  obtain ⟨es', hes', rfl⟩ := aggregations_eq_ok.mp h'
  cases hes.symm.trans hes'
  simp only [List.mem_flatMap, FacetSpec.aggregations, List.mem_cons, reduceCtorEq, false_or,
    Aggregation.bucket.injEq, List.mem_map, and_false, exists_false, or_false]
  refine ⟨fun p hp => hp, ?_⟩
  rintro b ⟨e, he, rfl⟩
  exact ⟨e, he, rfl⟩

/-- No two buckets share a name, while a sibling pipeline may have the name of a bucket. -/
theorem nodup_bucket_names {as : List Aggregation}
    (h : c.aggregations settings filters facets = .ok as) :
    ((as.filterMap Aggregation.bucket?).map (·.name)).Nodup := by
  obtain ⟨es, hes, rfl⟩ := aggregations_eq_ok.mp h
  simp only [List.filterMap_flatMap, FacetSpec.buckets_aggregations, ← List.map_eq_flatMap,
    List.map_map]
  exact (nodup_keys_answered hes).1

end Container

theorem Container.checked_of_mem_aggregations {c : Container} {settings : SearchSettings}
    {filters : FacetFilters} {facets : List FacetSpec} {as : List Aggregation}
    (h : c.aggregations settings filters facets = .ok as)
    (hq : ∀ f : Field, ∀ q ∈ filters.get? f.key, q.Checked) : ∀ a ∈ as, a.Checked := by
  intro a ha
  obtain ⟨es, hes, rfl⟩ := aggregations_eq_ok.mp h
  obtain ⟨e, he, ha⟩ := List.mem_flatMap.mp ha
  obtain ⟨_, _, hp⟩ := of_mem_answered hes e he
  rcases List.mem_cons.mp ha with rfl | ha
  · refine ⟨fun p hmem => hp p ?_, hq _⟩
    rw [FacetSpec.pipelines_bucket] at hmem
    exact List.mem_of_mem_filter hmem
  · obtain ⟨p, hmem, rfl⟩ := List.mem_map.mp ha
    exact hp p (List.mem_of_mem_filter hmem)

end FacetedSearch
