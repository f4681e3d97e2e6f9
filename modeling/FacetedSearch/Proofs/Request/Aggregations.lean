import FacetedSearch.Proofs.Request.Wire

/-!
# Aggregations that share names

In the body of a request each aggregation has an entry of its own exactly if no two of them share a
name. Buckets never do, but a pipeline may have the name of a bucket or of another pipeline, and then
it takes the other's place.
-/

namespace FacetedSearch

open Outcome

/-- Members with an entry for each aggregation of a list, where the last one of a name stands. -/
structure Aggregation.WrittenAs (as : List Aggregation) (ms : Json.Members) : Prop where
  last : ∃ own, entriesOf name (wire .full) as = .ok own ∧
    ∀ key, ms.lookup key = own.reverse.lookup key
  complete : (∃ own, entriesOf name (wire .full) as = .ok own ∧ own.Perm ms) ↔ (as.map name).Nodup

/-- Members with an entry for each pipeline of a bucket, where the last one of a name stands, and
for the metrics whose names no pipeline has. -/
structure Bucket.WrittenAs (b : Bucket) (ms : Json.Members) : Prop where
  last : ∃ own, entriesOf Pipeline.name Pipeline.wire b.pipelines = .ok own ∧
    ∀ key, ms.lookup key =
      (own.reverse.lookup key).or ((Json.Members.ofEntries b.metricEntries).lookup key)
  complete : (∃ own, entriesOf Pipeline.name Pipeline.wire b.pipelines = .ok own ∧
    own.Subperm ms) ↔ (b.pipelines.map (·.name)).Nodup

theorem Aggregation.writtenAs_putAll {as : List Aggregation} {own : List (String × Json)}
    (h : entriesOf name (wire .full) as = .ok own) : WrittenAs as (Json.Members.putAll [] own) where
  last := by
    refine ⟨own, h, fun key => ?_⟩
    rw [Json.Members.lookup_putAll]
    exact Option.or_none
  complete := by
    rw [← fst_entriesOf h, ← Json.Members.perm_putAll_iff]
    simp only [h, Except.ok.injEq, exists_eq_left']

theorem Bucket.writtenAs_inner {b : Bucket} {inner : Json.Members}
    (hchildren : b.children = b.metrics.map .metric ++ b.pipelines.map .pipeline)
    (h : b.inner = .ok inner) : b.WrittenAs inner := by
  rw [inner_eq hchildren, wireInto_eq_ok] at h
  obtain ⟨own, hown, rfl⟩ := h
  refine ⟨⟨own, hown, fun key => Json.Members.lookup_putAll⟩, ?_⟩
  have hmetrics := Json.Members.nodup_ofEntries b.metricEntries
  rw [← fst_entriesOf hown, ← Json.Members.subperm_putAll_iff _ hmetrics]
  simp only [hown, Except.ok.injEq, exists_eq_left']

/-- All aggregations of a request are in its body, and all pipelines of a bucket inside that
bucket's, exactly as far as they share no names. -/
theorem Builder.Serves.keeps_aggregations {c : Config} {b : Builder} (hb : b.Serves c) {i : Intent}
    {r : CompiledRequest} (hr : (b.create i).1 = .ok r) :
    (∃ w ms, r.body .full = .ok w ∧ Aggregation.WrittenAs r.aggregations ms ∧
      w.get? "aggs" = if r.aggregations.isEmpty then none else some (.object ms)) ∧
    ((r.aggregations.filterMap Aggregation.bucket?).map (·.name)).Nodup ∧
    ∀ bucket, .bucket bucket ∈ r.aggregations → ∃ w body ms, bucket.wire .full = .ok w ∧
      w.below? bucket.name bucket.wrappers = some body ∧ bucket.WrittenAs ms ∧
      body.get? "aggs" = if bucket.children.isEmpty then none else some (.object ms) := by
  have h := hb.sound
  obtain ⟨k, hk, hr⟩ := create_eq_ok.mp hr
  obtain ⟨x, rfl⟩ := Compiler.compile_eq_ok.mp hr
  refine ⟨?_, Container.nodup_bucket_names x.aggregations_eq, fun bucket hbucket => ?_⟩
  · obtain ⟨w, hw⟩ := x.exists_renders h.queryOf (h.checked_defaultFilters hk)
    obtain ⟨own, hown, haggs⟩ := hw.aggs
    exact ⟨w, _, hw.body, Aggregation.writtenAs_putAll hown, haggs⟩
  · obtain ⟨w, hw⟩ := (x.checked_aggregations h.queryOf _ hbucket).exists_renders
    obtain ⟨body, hbody, hbelow⟩ := Bucket.below?_wire hw.wire_eq
    obtain ⟨inner, hinner, haggs⟩ := Bucket.get?_aggs_of_core hbody
    obtain ⟨s, _, f, _, _, hs⟩ := Container.of_bucket_mem_aggregations x.aggregations_eq hbucket
    have hchildren := hs ▸ s.children_bucket _ _ f
    exact ⟨w, body, inner, hw.wire_eq, hbelow, Bucket.writtenAs_inner hchildren hinner, haggs⟩

namespace Shop

theorem measures_kept : ∃ r w ms own, (config.builder.create measuredIntent).1 = .ok r ∧
    r.aggregations.map Aggregation.name = ["color", "most", "price__price"] ∧
    r.body .full = .ok w ∧ w.get? "aggs" = some (.object ms) ∧
    entriesOf Aggregation.name (·.wire .full) r.aggregations = .ok own ∧ own.Perm ms := by
  obtain ⟨r, hr, hnames⟩ : ∃ r, (config.builder.create measuredIntent).1 = .ok r ∧
      r.aggregations.map Aggregation.name = ["color", "most", "price__price"] :=
    ⟨_, rfl, by decide +kernel⟩
  obtain ⟨⟨w, ms, hw, hwritten, haggs⟩, _, _⟩ := serves.keeps_aggregations hr
  have hnonempty : ¬ r.aggregations.isEmpty = true := by
    intro hempty
    rw [List.isEmpty_iff.mp hempty] at hnames
    cases hnames
  rw [if_neg hnonempty] at haggs
  obtain ⟨own, hown, hperm⟩ := hwritten.complete.mpr (by rw [hnames]; decide)
  exact ⟨r, w, ms, own, hr, hnames, hw, haggs, hown, hperm⟩

/-- A search for the number of the most frequent colour, under the name of the colours. -/
def doubledIntent : Intent where
  catalog := "fr"
  container := "product"
  facets := [{ field := "color", pipelines := [
    { name := "color", kind := .maxBucket, bucketsPath := some (.single "color>_count") }] }]

/-- Two aggregations are asked for, and the colours are not among those that are sent. -/
theorem colors_overwritten : ∃ r w, (config.builder.create doubledIntent).1 = .ok r ∧
    r.aggregations.length = 2 ∧ r.body .full = .ok w ∧
    w.get? "aggs" = some (.single "color"
      (.single "max_bucket" (.single "buckets_path" (.string "color>_count")))) :=
  ⟨_, _, rfl, rfl, rfl, rfl⟩

end Shop

end FacetedSearch
