import FacetedSearch.Proofs.Request.Compilation
import FacetedSearch.Proofs.Request.Session
import FacetedSearch.Proofs.Request.TextQuery
import FacetedSearch.Proofs.Sort.Order

/-!
# From intents to the wire

A request that compiles is made of checked trees and pipelines only, and so there is a body for it.
One that does not compile is refused.
-/

namespace FacetedSearch

open Outcome

/-! ## Refusals -/

theorem Compiler.compile_failsOnly {k : Compiler} {c : Container} (i : Intent)
    (hq : k.queryOf = Criterion.toQuery) (he : FailsOnly Error.IsRefusal (k.extraFacets c i)) :
    FailsOnly Error.IsRefusal (k.compile c i) := by
  simp only [compile, split_eq]
  refine .bind (.mapError fun _ => trivial) fun _ _ => ?_
  refine .bind he fun _ _ => ?_
  refine .bind (.mapError fun _ => trivial) fun _ _ => ?_
  refine .bind (.map (.mapM fun criterion _ => .map ?_)) fun _ _ => ?_
  · rw [hq]
    exact Criterion.toQuery_failsOnly criterion
  · refine .bind (c.sortOrder_failsOnly _ _ _) fun _ _ => ?_
    refine .bind ?_ fun _ _ => .ok _
    rw [Container.aggregations, Container.aggregationsAfter_eq]
    exact .map (Container.answered_failsOnly _ _)

/-! ## Bodies -/

/-- What a request is rendered to. Each query in it passes its check and is rendered, and so is each
aggregation; the body holds what they are rendered to, of aggregations of one name the last. -/
structure CompiledRequest.Renders (r : CompiledRequest) (w : Json) : Prop where
  body : r.body .full = .ok w
  query : ∃ v, r.query.Renders v ∧ w.get? "query" = some v
  postFilter : ∀ q ∈ r.postFilter, ∃ v, q.Renders v ∧ w.get? "post_filter" = some v
  aggregations : ∀ a ∈ r.aggregations, ∃ v, a.Renders v
  aggs : ∃ own, entriesOf Aggregation.name (·.wire .full) r.aggregations = .ok own ∧
    w.get? "aggs" =
      if r.aggregations.isEmpty then none else some (.object (Json.Members.putAll [] own))

namespace CompiledRequest

variable {r : CompiledRequest}

/-- A body holds its parts under names of their own. -/
theorem exists_body {registry : Registry} {query : Json} {aggs postFilter : Option Json}
    (hquery : registry.assemble r.query = .ok query)
    (haggs : r.aggs registry = .ok aggs)
    (hpostFilter : r.postFilter.mapM registry.assemble = .ok postFilter) :
    ∃ w, r.body registry = .ok w ∧ w.get? "query" = some query ∧ w.get? "aggs" = aggs ∧
      w.get? "post_filter" = postFilter := by
  simp only [body, hquery, haggs, hpostFilter]
  refine ⟨_, rfl, ?_, ?_, ?_⟩
  · rfl
  · cases aggs with
    | some v => rfl
    | none => cases postFilter <;> rfl
  · cases aggs <;> cases postFilter <;> rfl

theorem exists_postFilter (h : ∀ q ∈ r.postFilter, q.Checked) :
    ∃ v, r.postFilter.mapM Registry.full.assemble = .ok v ∧
      ∀ q ∈ r.postFilter, ∃ w, q.Renders w ∧ v = some w := by
  cases hpost : r.postFilter with
  | none => exact ⟨none, rfl, by simp⟩
  | some q =>
      have hq := (h q hpost).renders
      refine ⟨some q.wire, ?_, ?_⟩
      · simp only [Option.mapM_some, hq.assemble]
        rfl
      · simp only [Option.mem_some_iff, forall_eq']
        exact ⟨q.wire, hq, rfl⟩

/-- A request whose parts pass their checks has a body, in which nothing is left to be refused. -/
theorem exists_renders (hquery : r.query.Checked) (hpost : ∀ q ∈ r.postFilter, q.Checked)
    (haggregations : ∀ a ∈ r.aggregations, a.Checked) : ∃ w, r.Renders w := by
  have hrenders : ∀ a ∈ r.aggregations, ∃ v, a.Renders v :=
    fun a ha => (haggregations a ha).exists_renders
  obtain ⟨own, hown⟩ : ∃ own,
      entriesOf Aggregation.name (·.wire .full) r.aggregations = .ok own := by
    refine exists_entriesOf fun a ha => ?_
    obtain ⟨v, hv⟩ := hrenders a ha
    exact ⟨v, hv.wire_eq⟩
  have haggs : r.aggs .full = .ok (if r.aggregations.isEmpty then none
      else some (.object (Json.Members.putAll [] own))) := by
    rw [CompiledRequest.aggs, Aggregation.wireAll_eq_ok.mpr ⟨own, hown, rfl⟩]
    split <;> rfl
  obtain ⟨v, hv, hpostFilter⟩ := exists_postFilter hpost
  obtain ⟨w, hw, hwquery, hwaggs, hwpost⟩ := exists_body hquery.renders.assemble haggs hv
  refine ⟨w, hw, ⟨_, hquery.renders, hwquery⟩, fun q hq => ?_, hrenders, own, hown, hwaggs⟩
  obtain ⟨u, hu, rfl⟩ := hpostFilter q hq
  exact ⟨u, hu, hwpost⟩

end CompiledRequest

/-! ## Checked parts -/

namespace Compilation

variable {k : Compiler} {c : Container} {i : Intent} (x : Compilation k c i)

theorem checked_translated (hq : k.queryOf = Criterion.toQuery) :
    ∀ t ∈ x.translated, t.2.Checked := by
  intro t ht
  exact Criterion.checked_handedOn.toQuery t.1 (x.toQuery_translated hq t ht)

theorem checked_scored : ∀ q ∈ x.scored, q.Checked :=
  Compiler.checked_of_scored x.scored_eq

theorem checked_main (hq : k.queryOf = Criterion.toQuery) (hc : ∀ q ∈ c.defaultFilters, q.Checked) :
    ∀ q ∈ x.parts.main, q.Checked := by
  intro q hmain
  rcases x.mem_main.mp hmain with (hd | hi) | ⟨t, ht, _, rfl⟩
  · exact hc q hd
  · exact x.checked_queryFilters q hi
  · exact x.checked_translated hq t ht

theorem checked_faceted (hq : k.queryOf = Criterion.toQuery) :
    ∀ e ∈ x.parts.faceted, e.2.Checked := by
  intro e he
  obtain ⟨t, ht, _, hte⟩ := x.mem_faceted.mp he
  rw [← hte]
  exact x.checked_translated hq t ht

/-- What is put off passes the check, whichever part of it is asked for. -/
theorem checked_conjunction_faceted (hq : k.queryOf = Criterion.toQuery)
    {es : List (String × Query)} (hes : ∀ e ∈ es, e ∈ x.parts.faceted) :
    ∀ q ∈ Query.conjunction (es.map (·.2)), q.Checked := by
  intro q hmem
  refine Query.checked_of_mem_conjunction (fun p hp => ?_) hmem
  obtain ⟨e, he, rfl⟩ := List.mem_map.mp hp
  exact x.checked_faceted hq e (hes e he)

theorem checked_aggregations (hq : k.queryOf = Criterion.toQuery) :
    ∀ a ∈ x.aggregations, a.Checked := by
  refine Container.checked_of_mem_aggregations x.aggregations_eq fun f q hmem => ?_
  have hothers : q ∈ if f.key ∈ c.facetNames x.facets then x.parts.others f.key else none := by
    rw [← x.get?_facetFilters f]
    exact hmem
  split at hothers
  · exact x.checked_conjunction_faceted hq (fun e he => List.mem_of_mem_filter he) q hothers
  · cases hothers

theorem checked_query (hq : k.queryOf = Criterion.toQuery)
    (hc : ∀ q ∈ c.defaultFilters, q.Checked) : x.request.query.Checked := by
  refine Query.checked_filtered.mpr ⟨x.checked_scored, fun q => ?_⟩
  exact Query.checked_of_mem_conjunction (x.checked_main hq hc)

theorem checked_postFilter (hq : k.queryOf = Criterion.toQuery) :
    ∀ q ∈ x.request.postFilter, q.Checked :=
  x.checked_conjunction_faceted hq fun _ he => he

theorem exists_renders (hq : k.queryOf = Criterion.toQuery)
    (hc : ∀ q ∈ c.defaultFilters, q.Checked) : ∃ w, x.request.Renders w :=
  CompiledRequest.exists_renders (x.checked_query hq hc) (x.checked_postFilter hq)
    (x.checked_aggregations hq)

end Compilation

/-- An intent is refused, or it becomes a request that is rendered for the backend in all its
parts. -/
theorem Builder.Serves.refuses_or_renders {c : Config} {b : Builder} (hb : b.Serves c)
    (he : b.compiler.extraFacets = fun _ _ => .ok []) (i : Intent) :
    (∃ e, (b.create i).1 = .error e ∧ e.IsRefusal) ∨
      ∃ r w, (b.create i).1 = .ok r ∧ r.Renders w := by
  have h := hb.sound
  cases hcreate : (b.create i).1 with
  | error e =>
      have hrefusal : FailsOnly Error.IsRefusal (b.create i).1 := by
        rw [create_fst]
        refine .bind (h.resolve_failsOnly _ _) fun k _ => ?_
        refine Compiler.compile_failsOnly i h.queryOf ?_
        rw [he]
        exact .ok []
      exact Or.inl ⟨e, rfl, hrefusal e hcreate⟩
  | ok r =>
      obtain ⟨k, hk, hr⟩ := create_eq_ok.mp hcreate
      obtain ⟨x, rfl⟩ := Compiler.compile_eq_ok.mp hr
      obtain ⟨w, hw⟩ := x.exists_renders h.queryOf (h.checked_defaultFilters hk)
      exact Or.inr ⟨x.request, w, rfl, hw⟩

namespace Shop

/-- A search for the colour of most lamps, with the colours themselves in the order of their
numbers. -/
def measuredIntent : Intent := { intent with
  facets := [{ field := "color", pipelines := [
    { name := "most", kind := .maxBucket, bucketsPath := some (.single "color>_count") },
    { name := "sorted", kind := .bucketSort .desc none, bucketsPath := some (.single "_count") }] },
    { field := "price.price" }] }

/-- The search is not refused, and so it is rendered, with its post filter and with the filter and
the pipeline of the colours. -/
theorem request_renders : ∃ r w b, (config.builder.create measuredIntent).1 = .ok r ∧
    r.Renders w ∧ r.postFilter.isSome = true ∧ .bucket b ∈ r.aggregations ∧
    b.filter.isSome = true ∧ b.pipelines.map (·.name) = ["sorted"] := by
  obtain ⟨r, b, hr, hpost, hb, hfilter, hpipelines⟩ : ∃ r b,
      (config.builder.create measuredIntent).1 = .ok r ∧ r.postFilter.isSome = true ∧
      .bucket b ∈ r.aggregations ∧ b.filter.isSome = true ∧
      b.pipelines.map (·.name) = ["sorted"] :=
    ⟨_, _, rfl, rfl, List.mem_cons_self, by decide +kernel, rfl⟩
  rcases serves.refuses_or_renders rfl measuredIntent with ⟨e, he, _⟩ | ⟨_, w, hr', hw⟩
  · cases hr.symm.trans he
  · cases hr.symm.trans hr'
    exact ⟨r, w, b, hr, hw, hpost, hb, hfilter, hpipelines⟩

end Shop

end FacetedSearch
