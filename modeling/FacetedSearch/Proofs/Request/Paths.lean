import FacetedSearch.Proofs.Request.Filters

/-!
# Paths to facets

A sibling pipeline reads a facet through the names of its wrappers. The first criterion that a facet
is counted under wraps it once more, and a path that led to it before then ends inside the wrapper.
-/

namespace FacetedSearch

open Outcome

/-! ## Paths -/

/-- The first name on a path. -/
def BucketsPath.firstName (path : String) : String :=
  String.ofList (path.toList.takeWhile (· != '>'))

/-- A pipeline reads from inside a bucket: its path leads through the wrappers to the bucket, and
does not go on with the name of the bucket once more. -/
def Pipeline.Reaches (p : Pipeline) (b : Bucket) : Prop :=
  ∃ rest, p.bucketsPath = some (.single (b.path ++ ">" ++ rest)) ∧
    BucketsPath.firstName rest ≠ b.name

theorem BucketsPath.firstName_append {name rest : String} (h : '>' ∉ name.toList) :
    firstName (name ++ ">" ++ rest) = name := by
  have hname : ∀ c ∈ name.toList, (c != '>') = true := by
    intro c hc
    simpa using fun he : c = '>' => h (he ▸ hc)
  simp only [firstName, String.toList_append, List.append_assoc]
  rw [List.takeWhile_append_of_pos hname]
  simp

namespace Bucket

variable {b b' : Bucket}

theorem path_congr (hname : b'.name = b.name) (hwrappers : b'.wrappers = b.wrappers) :
    b'.path = b.path := by
  rw [path, path, hname, hwrappers]

theorem path_of_wrappers_succ (hname : b'.name = b.name)
    (hwrappers : b'.wrappers = b.wrappers + 1) : b'.path = b.path ++ ">" ++ b.name := by
  rw [path, path, hname, hwrappers, List.replicate_succ' (n := b.wrappers + 1),
    String.intercalate_append_of_ne_nil (by simp) (by simp), String.intercalate_singleton]

theorem wrappers_refilter (b : Bucket) (q : Option Query) :
    { b with filter := q }.wrappers + b.filter.isSome.toNat = b.wrappers + q.isSome.toNat := by
  simp only [wrappers]
  omega

end Bucket

theorem Pipeline.Reaches.congr {p : Pipeline} {b b' : Bucket} (h : p.Reaches b)
    (hname : b'.name = b.name) (hwrappers : b'.wrappers = b.wrappers) : p.Reaches b' := by
  rw [Reaches, Bucket.path_congr hname hwrappers, hname]
  exact h

/-- Behind one more wrapper the path goes on with the name that it may not go on with. -/
theorem Pipeline.Reaches.not_of_wrappers_succ {p : Pipeline} {b b' : Bucket} (h : p.Reaches b)
    (hname : b'.name = b.name) (hwrappers : b'.wrappers = b.wrappers + 1)
    (hseparator : '>' ∉ b.name.toList) : ¬ p.Reaches b' := by
  rintro ⟨rest', hpath', _⟩
  obtain ⟨rest, hpath, hrest⟩ := h
  rw [hpath, Bucket.path_of_wrappers_succ hname hwrappers] at hpath'
  have heq : rest = b.name ++ ">" ++ rest' := by
    have hlists := congrArg String.toList (BucketsPath.single.inj (Option.some.inj hpath'))
    simp only [String.toList_append, List.append_assoc, List.append_cancel_left_eq] at hlists
    exact String.toList_inj.mp (by simpa using hlists)
  exact hrest (heq ▸ BucketsPath.firstName_append hseparator)

/-! ## One more criterion -/

/-- The intent with one more criterion, after the others. -/
def Intent.filteredBy (i : Intent) (criterion : Criterion) : Intent :=
  { i with filters := i.filters ++ [criterion] }

/-- A bucket of a request is counted under no filter so far, and a criterion is on the field of
another facet of the request. -/
def CompiledRequest.Deepens (r : CompiledRequest) (k : Container) (criterion : Criterion)
    (b : Bucket) : Prop :=
  b.filter = none ∧ ∃ f other, criterion.IsOn k f ∧ .bucket other ∈ r.aggregations ∧
    other.name = f.key ∧ f.key ≠ b.name

theorem Query.isSome_conjunction {qs : List Query} : (conjunction qs).isSome = true ↔ qs ≠ [] := by
  match qs with
  | [] => simp [conjunction]
  | [q] => simp [conjunction]
  | q :: q' :: rest => simp [conjunction]

namespace Compilation

variable {k : Compiler} {c : Container} {i : Intent} {criterion : Criterion}

/-- A facet is counted under a filter if a criterion is put off for another. -/
theorem isSome_others (x : Compilation k c i) {facet : String} :
    (x.parts.others facet).isSome = true ↔
      ∃ criterion ∈ i.filters, ∃ other, x.putOff criterion = some other ∧ other ≠ facet := by
  rw [FilterParts.others, Query.isSome_conjunction, ← x.fst_translated]
  simp only [ne_eq, List.map_eq_nil_iff, List.filter_eq_nil_iff, bne_iff_ne, not_forall, not_not,
    x.mem_faceted, List.mem_map, exists_exists_and_eq_and, exists_prop]
  constructor
  · rintro ⟨e, ⟨t, ht, hput, _⟩, hne⟩
    exact ⟨t, ht, e.1, hput, hne⟩
  · rintro ⟨t, ht, other, hput, hne⟩
    exact ⟨(other, t.2), ⟨t, ht, hput, rfl⟩, hne⟩

theorem mem_facetNames_iff (x : Compilation k c i) {name : String} :
    name ∈ c.facetNames x.facets ↔ ∃ b, .bucket b ∈ x.aggregations ∧ b.name = name := by
  constructor
  · intro h
    obtain ⟨s, hs, rfl⟩ := List.mem_map.mp h
    obtain ⟨f, hf, b, hb, hname⟩ := Container.exists_bucket_mem_aggregations x.aggregations_eq hs
    exact ⟨b, hb, by rw [hname, Container.facetName, hf]⟩
  · rintro ⟨b, hb, rfl⟩
    obtain ⟨f, _, _, hmem, hname, _⟩ := x.of_bucket_mem hb
    rw [hname]
    exact hmem

theorem facets_filteredBy (x : Compilation k c i) (y : Compilation k c (i.filteredBy criterion))
    (hextra : k.extraFacets c (i.filteredBy criterion) = k.extraFacets c i) :
    y.facets = x.facets := by
  have h := y.extra_eq
  rw [hextra, x.extra_eq] at h
  rw [facets, facets, Except.ok.inj h]
  rfl

theorem isSome_others_filteredBy (x : Compilation k c i)
    (y : Compilation k c (i.filteredBy criterion)) (hfacets : y.facets = x.facets)
    {facet : String} : (y.parts.others facet).isSome = true ↔
      (x.parts.others facet).isSome = true ∨
        ∃ other, x.putOff criterion = some other ∧ other ≠ facet := by
  have hputOff : y.putOff = x.putOff := by
    funext criterion
    rw [putOff, putOff, hfacets]
  rw [x.isSome_others, y.isSome_others, hputOff]
  simp [Intent.filteredBy, or_and_right, exists_or]

theorem exists_putOff_iff (x : Compilation k c i)
    (hmode : k.settings.facetFilterMode = .excludeSelf) {facet : String} :
    (∃ other, x.putOff criterion = some other ∧ other ≠ facet) ↔
      ∃ f b, criterion.IsOn c f ∧ .bucket b ∈ x.aggregations ∧ b.name = f.key ∧ f.key ≠ facet := by
  simp only [putOff, hmode, Container.putOffFor?, Container.facetOf?_eq_some, x.mem_facetNames_iff]
  constructor
  · rintro ⟨_, ⟨⟨b, hb, hkey⟩, f, hf, rfl⟩, hne⟩
    exact ⟨f, b, hf, hb, hkey, hne⟩
  · rintro ⟨f, b, hf, hb, hkey, hne⟩
    exact ⟨f.key, ⟨⟨b, hb, hkey⟩, f, hf, rfl⟩, hne⟩

theorem aggregations_filteredBy (x : Compilation k c i)
    (y : Compilation k c (i.filteredBy criterion)) (hfacets : y.facets = x.facets) :
    (∀ p, .pipeline p ∈ x.aggregations → .pipeline p ∈ y.aggregations) ∧
    ∀ b, .bucket b ∈ x.aggregations →
      ∃ q, .bucket { b with filter := q } ∈ y.aggregations := by
  have haggregations := y.aggregations_eq
  rw [show (i.filteredBy criterion).facets ++ y.extra = x.facets from hfacets] at haggregations
  obtain ⟨hpipelines, hbuckets⟩ :=
    Container.aggregations_refilter x.aggregations_eq haggregations
  exact ⟨hpipelines, fun b hb => ⟨_, hbuckets b hb⟩⟩

/-- A bucket gets a wrapper by a criterion exactly if it is deepened. -/
theorem exists_bucket_filteredBy (x : Compilation k c i)
    (y : Compilation k c (i.filteredBy criterion)) (hfacets : y.facets = x.facets)
    (hmode : k.settings.facetFilterMode = .excludeSelf) {b : Bucket}
    (hb : .bucket b ∈ x.aggregations) : ∃ b', .bucket b' ∈ y.aggregations ∧
      b' = { b with filter := b'.filter } ∧
      (x.request.Deepens c criterion b → b'.wrappers = b.wrappers + 1) ∧
      (¬ x.request.Deepens c criterion b → b'.wrappers = b.wrappers) := by
  obtain ⟨q, hb'⟩ := (x.aggregations_filteredBy y hfacets).2 b hb
  obtain ⟨f, _, _, _, hname, _, _, hfilter⟩ := x.of_bucket_mem hb
  obtain ⟨f', _, _, _, hname', _, _, hfilter'⟩ := y.of_bucket_mem hb'
  have hsome : q.isSome = true ↔ b.filter.isSome = true ∨
      ∃ other, x.putOff criterion = some other ∧ other ≠ b.name := by
    rw [hfilter, show q = y.parts.others b.name from hname' ▸ hfilter', ← hname]
    exact x.isSome_others_filteredBy y hfacets
  rw [x.exists_putOff_iff hmode] at hsome
  have hwrappers := Bucket.wrappers_refilter b q
  refine ⟨_, hb', rfl, fun h => ?_, fun h => ?_⟩
  · rw [hsome.mpr (Or.inr h.2), h.1] at hwrappers
    exact hwrappers
  · have hsame : q.isSome = b.filter.isSome := by
      rw [Bool.eq_iff_iff, hsome]
      refine or_iff_left_of_imp fun hother => ?_
      by_contra hnone
      exact h ⟨by simpa using hnone, hother⟩
    rw [hsame] at hwrappers
    exact Nat.add_right_cancel hwrappers

end Compilation

/-- A pipeline that reads a facet keeps reading it when one more criterion is given, unless the
criterion is the first that the facet is counted under. Then the pipeline reads it no more. -/
theorem Builder.Serves.reaches_after_filter {c : Config} {b : Builder} (hb : b.Serves c)
    (hmode : c.search.facetFilterMode = .excludeSelf) {i : Intent} {criterion : Criterion}
    {r r' : CompiledRequest}
    (hextra : ∀ k, b.compiler.extraFacets k (i.filteredBy criterion) = b.compiler.extraFacets k i)
    (hr : (b.create i).1 = .ok r) (hr' : (b.create (i.filteredBy criterion)).1 = .ok r') :
    ∃ k, (b.resolve i.catalog i.container).1 = .ok k ∧
      ∀ bucket, .bucket bucket ∈ r.aggregations → ∃ bucket', .bucket bucket' ∈ r'.aggregations ∧
        bucket' = { bucket with filter := bucket'.filter } ∧
        ∀ p, .pipeline p ∈ r.aggregations → .pipeline p ∈ r'.aggregations ∧ (p.Reaches bucket →
          (¬ r.Deepens k criterion bucket → p.Reaches bucket') ∧
          (r.Deepens k criterion bucket → '>' ∉ bucket.name.toList → ¬ p.Reaches bucket')) := by
  have h := hb.sound
  obtain ⟨k, hk, hr⟩ := create_eq_ok.mp hr
  obtain ⟨k', hk', hr'⟩ := create_eq_ok.mp hr'
  cases hk.symm.trans hk'
  obtain ⟨x, rfl⟩ := Compiler.compile_eq_ok.mp hr
  obtain ⟨y, rfl⟩ := Compiler.compile_eq_ok.mp hr'
  have hfacets := x.facets_filteredBy y (hextra k)
  refine ⟨k, hk, fun bucket hbucket => ?_⟩
  obtain ⟨bucket', hbucket', heq, hdeeper, hsame⟩ :=
    x.exists_bucket_filteredBy y hfacets (by rw [h.settings, hmode]) hbucket
  have hname : bucket'.name = bucket.name := by rw [heq]
  have hpipelines := (x.aggregations_filteredBy y hfacets).1
  refine ⟨bucket', hbucket', heq, fun p hp => ⟨hpipelines p hp, fun hreaches => ?_⟩⟩
  exact ⟨fun hkept => hreaches.congr hname (hsame hkept),
    fun hdeepens => hreaches.not_of_wrappers_succ hname (hdeeper hdeepens)⟩

namespace Shop

/-- The number of the most frequent colour. -/
def most : Pipeline where
  name := "most"
  kind := .maxBucket
  bucketsPath := some (.single "color>_count")

def frequentIntent : Intent where
  catalog := "fr"
  container := "product"
  facets := [{ field := "color", pipelines := [most] }, { field := "price.price" }]

theorem most_reaches {bucket : Bucket} (hname : bucket.name = "color")
    (hwrappers : bucket.wrappers = 0) : most.Reaches bucket := by
  refine ⟨"_count", ?_, by rw [hname]; decide⟩
  rw [Bucket.path, hname, hwrappers]
  rfl

/-- A criterion on the colour leaves the colours where they are. -/
theorem most_kept : ∃ r r' bucket bucket',
    (config.builder.create frequentIntent).1 = .ok r ∧
    (config.builder.create (frequentIntent.filteredBy
      (.leaf "color" (.equal (some (.text "red")) none)))).1 = .ok r' ∧
    .bucket bucket ∈ r.aggregations ∧ .bucket bucket' ∈ r'.aggregations ∧
    bucket'.name = bucket.name ∧ .pipeline most ∈ r'.aggregations ∧ most.Reaches bucket ∧
    most.Reaches bucket' := by
  obtain ⟨r, bucket, other, hr, haggregations, hname, hwrappers⟩ : ∃ r bucket other,
      (config.builder.create frequentIntent).1 = .ok r ∧
      r.aggregations = [.bucket bucket, .pipeline most, other] ∧ bucket.name = "color" ∧
      bucket.wrappers = 0 := ⟨_, _, _, rfl, rfl, rfl, rfl⟩
  obtain ⟨r', hr'⟩ : ∃ r', (config.builder.create (frequentIntent.filteredBy
      (.leaf "color" (.equal (some (.text "red")) none)))).1 = .ok r' := ⟨_, rfl⟩
  have hbucket : .bucket bucket ∈ r.aggregations := by simp [haggregations]
  have hreaches := most_reaches hname hwrappers
  obtain ⟨k, _, h⟩ := serves.reaches_after_filter rfl (fun _ => rfl) hr hr'
  obtain ⟨bucket', hbucket', heq, h⟩ := h bucket hbucket
  obtain ⟨hmost, h⟩ := h most (by simp [haggregations])
  refine ⟨r, r', bucket, bucket', hr, hr', hbucket, hbucket', by rw [heq], hmost, hreaches,
    (h hreaches).1 ?_⟩
  -- The criterion is on the colour, and so not on the field of another facet.
  rintro ⟨_, f, _, ⟨_, ⟨⟩, hf⟩, _, _, hne⟩
  rw [hname] at hne
  rcases Container.field?_names hf with hcode | hkey
  · exact hne (by rw [Field.key, hcode]; rfl)
  · exact hne hkey

/-- With a criterion on the price the colours are counted inside a filter, and the path ends
there. -/
theorem most_lost : ∃ r r' bucket bucket' other other',
    (config.builder.create frequentIntent).1 = .ok r ∧
    (config.builder.create (frequentIntent.filteredBy
      (.leaf "price.price" (.range { gt := some (.integer 3) })))).1 = .ok r' ∧
    r.aggregations = [.bucket bucket, .pipeline most, other] ∧
    r'.aggregations = [.bucket bucket', .pipeline most, other'] ∧
    bucket.name = "color" ∧ bucket'.name = "color" ∧ most.Reaches bucket ∧
    ¬ most.Reaches bucket' := by
  obtain ⟨r, bucket, other, hr, haggregations, hname, hwrappers⟩ : ∃ r bucket other,
      (config.builder.create frequentIntent).1 = .ok r ∧
      r.aggregations = [.bucket bucket, .pipeline most, other] ∧ bucket.name = "color" ∧
      bucket.wrappers = 0 := ⟨_, _, _, rfl, rfl, rfl, rfl⟩
  obtain ⟨r', bucket', other', hr', haggregations', hname', hwrappers'⟩ : ∃ r' bucket' other',
      (config.builder.create (frequentIntent.filteredBy
        (.leaf "price.price" (.range { gt := some (.integer 3) })))).1 = .ok r' ∧
      r'.aggregations = [.bucket bucket', .pipeline most, other'] ∧ bucket'.name = "color" ∧
      bucket'.wrappers = 1 := ⟨_, _, _, rfl, rfl, rfl, rfl⟩
  have hreaches := most_reaches hname hwrappers
  refine ⟨r, r', bucket, bucket', other, other', hr, hr', haggregations, haggregations', hname,
    hname', hreaches, ?_⟩
  refine hreaches.not_of_wrappers_succ (hname'.trans hname.symm) ?_ (by rw [hname]; decide)
  rw [hwrappers, hwrappers']

end Shop

end FacetedSearch
