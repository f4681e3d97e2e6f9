import FacetedSearch.Proofs.Request.Compilation
import FacetedSearch.Proofs.Request.Session
import FacetedSearch.Proofs.Request.TextQuery
import FacetedSearch.Proofs.Sort.Order

/-!
# Fields and their uses

A request uses a field only as it is declared to be used, and addresses a field inside a nested
object under the path of that object.
-/

namespace FacetedSearch

open Outcome

/-- What a request is on, in a container with a field for any text. -/
structure CompiledRequest.Respects (r : CompiledRequest) (c : Container) (fulltextField : String)
    (i : Intent) : Prop where
  criteria : ∀ k ∈ i.filters, ∃ q, k.toQuery c = .ok q ∧ q.OnFilterable c.fields
  filters : ∃ scored kept deferred,
    (∀ q ∈ kept ++ deferred, ∃ k ∈ i.filters, k.toQuery c = .ok q) ∧
    r.query = .filtered scored
      (Query.conjunction (c.defaultFilters ++ i.queryFilters ++ kept)) {} ∧
    r.postFilter = Query.conjunction deferred ∧
    ∀ b, .bucket b ∈ r.aggregations → ∃ others, others ⊆ deferred ∧
      b.filter = Query.conjunction others
  text : ∀ t, i.query = some (.text t) → ∃ scored filter, r.query = .filtered scored filter {} ∧
    (Text.isBlank t = true ∧ scored = none ∨
      Text.isBlank t = false ∧ ∃ q, scored = some q ∧ c.IsTextQuery fulltextField t q)
  sort : ∀ s ∈ r.sort, (s.field = SortClause.scoreField ∨ s.field = SortClause.idField ∨
    ∃ f ∈ c.fields, f.sortable = true ∧ s.field = f.code) ∧ Code.NestedUnder s.field s.nestedPath
  facets : ∀ b, .bucket b ∈ r.aggregations → (∃ f ∈ c.fields, f.filterable = true ∧
    b.field = f.code) ∧ Code.NestedUnder b.field b.nestedPath

namespace Compilation

variable {k : Compiler} {c : Container} {i : Intent} (x : Compilation k c i)

theorem criterion_of_mem_translated (hq : k.queryOf = Criterion.toQuery) :
    ∀ t ∈ x.translated, ∃ criterion ∈ i.filters, criterion.toQuery c = .ok t.2 := by
  intro t ht
  refine ⟨t.1, ?_, x.toQuery_translated hq t ht⟩
  rw [← x.fst_translated]
  exact List.mem_map_of_mem ht

theorem respects (hq : k.queryOf = Criterion.toQuery) :
    x.request.Respects c k.settings.fulltextField i where
  criteria := by
    rw [← x.fst_translated, List.forall_mem_map]
    intro t ht
    have h := x.toQuery_translated hq t ht
    exact ⟨t.2, h, Criterion.onFilterable_handedOn.toQuery t.1 h⟩
  filters := by
    refine ⟨x.scored, (x.translated.filter fun t => (x.putOff t.1).isNone).map (·.2),
      x.parts.faceted.map (·.2), fun q hmem => ?_, rfl, rfl, fun b hb => ?_⟩
    · rcases List.mem_append.mp hmem with hmem | hmem
      · obtain ⟨t, ht, rfl⟩ := List.mem_map.mp hmem
        exact x.criterion_of_mem_translated hq t (List.mem_of_mem_filter ht)
      · obtain ⟨e, he, rfl⟩ := List.mem_map.mp hmem
        obtain ⟨t, ht, _, hte⟩ := x.mem_faceted.mp he
        rw [← hte]
        exact x.criterion_of_mem_translated hq t ht
    · obtain ⟨f, _, _, _, _, _, _, hfilter⟩ := x.of_bucket_mem hb
      exact ⟨_, List.map_subset _ (List.filter_subset_self _), hfilter⟩
  text t ht := by
    have h := x.scored_eq
    rw [ht] at h
    refine ⟨x.scored, x.parts.filter, rfl, ?_⟩
    rcases Compiler.scored_text_eq_ok h with h | ⟨hblank, q, hscored, htext, _⟩
    · exact Or.inl h
    · exact Or.inr ⟨hblank, q, hscored, htext⟩
  sort s hs := by
    have h := Container.sortsBy_of_sortOrder x.sort_eq s hs
    exact ⟨h.field, h.nestedUnder⟩
  facets b hb := by
    obtain ⟨f, hf, hfilterable, _, _, hfield, hpath, _⟩ := x.of_bucket_mem hb
    refine ⟨⟨f, hf, hfilterable, hfield⟩, ?_⟩
    rw [hfield, hpath]
    exact f.nestedUnder

end Compilation

/-- Whatever an intent asks for, the request respects what the fields of the container are declared
for. -/
theorem Builder.Serves.respects_declarations {c : Config} {b : Builder} (hb : b.Serves c)
    {i : Intent} {r : CompiledRequest} (hr : (b.create i).1 = .ok r) :
    ∃ k, c.Declares i.container k ∧ (b.resolve i.catalog i.container).1 = .ok k ∧
      r.Respects k c.search.fulltextField i := by
  have h := hb.sound
  obtain ⟨k, hk, hr⟩ := create_eq_ok.mp hr
  obtain ⟨x, rfl⟩ := Compiler.compile_eq_ok.mp hr
  have hrespects := x.respects h.queryOf
  rw [h.settings] at hrespects
  exact ⟨k, h.declares hk, hk, hrespects⟩

/-- Some fields of the shop are found by a text, filtered by and counted. -/
theorem Shop.request_respects : ∃ k r, (config.builder.create intent).1 = .ok r ∧
    config.Declares "product" k ∧ r.Respects k "search" intent := by
  obtain ⟨r, hr⟩ : ∃ r, (config.builder.create intent).1 = .ok r := ⟨_, rfl⟩
  obtain ⟨k, hk, _, hrespects⟩ := serves.respects_declarations hr
  exact ⟨k, r, hr, hk, hrespects⟩

end FacetedSearch
