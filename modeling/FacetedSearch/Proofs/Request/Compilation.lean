import FacetedSearch.Proofs.Aggregation.Facets
import FacetedSearch.Request.Compiler

/-!
# Compilations

The steps behind a request that compiles. The queries of the criteria are placed: each goes into the
main filter, or is put off for the one facet that its criterion is on.
-/

namespace FacetedSearch

open Outcome

namespace Container

def facetNames (c : Container) (facets : List FacetSpec) : List String :=
  facets.map fun s => c.facetName s.field

/-- Names of facets are flattened, those of unknown fields too. -/
theorem flatten_of_mem_facetNames (c : Container) (facets : List FacetSpec) :
    ∀ n ∈ c.facetNames facets, Code.flatten n = n := by
  intro n hn
  obtain ⟨s, _, rfl⟩ := List.mem_map.mp hn
  simp only [facetName]
  split
  · exact Code.flatten_flatten _
  · exact Code.flatten_flatten _

/-- The facet of the given names that a criterion is put off for. -/
def putOffFor? (c : Container) (names : List String) (k : Criterion) :
    FacetFilterMode → Option String
  | .excludeSelf => c.facetOf? names k
  | .applyAll => none

end Container

/-! ## Placing queries -/

namespace FilterParts

/-- The parts with queries of criteria added: those that are put off under the name of their facet,
the others in the main part. -/
def place (p : FilterParts) (putOff : Criterion → Option String) (ts : List (Criterion × Query)) :
    FilterParts where
  main := p.main ++ (ts.filter fun t => (putOff t.1).isNone).map (·.2)
  faceted := p.faceted ++ ts.filterMap fun t => (putOff t.1).map (·, t.2)

variable {p : FilterParts} {putOff : Criterion → Option String} {ts : List (Criterion × Query)}

theorem place_nil : p.place putOff [] = p := by simp [place]

theorem place_cons (t : Criterion × Query) :
    p.place putOff (t :: ts) = (p.place putOff [t]).place putOff ts := by
  cases h : putOff t.1 <;> simp [place, h]

theorem place_none : p.place (fun _ => none) ts = { p with main := p.main ++ ts.map (·.2) } := by
  simp [place]

theorem mem_main_place {q : Query} :
    q ∈ (p.place putOff ts).main ↔ q ∈ p.main ∨ ∃ t ∈ ts, putOff t.1 = none ∧ t.2 = q := by
  simp [place, and_assoc]

theorem mem_faceted_place {e : String × Query} :
    e ∈ (p.place putOff ts).faceted ↔
      e ∈ p.faceted ∨ ∃ t ∈ ts, putOff t.1 = some e.1 ∧ t.2 = e.2 := by
  obtain ⟨facet, q⟩ := e
  simp only [place, List.mem_append, List.mem_filterMap, Option.map_eq_some_iff, Prod.mk.injEq]
  refine or_congr_right (exists_congr fun t => and_congr_right fun _ => ?_)
  constructor
  · rintro ⟨_, h, rfl, rfl⟩
    exact ⟨h, rfl⟩
  · rintro ⟨h, rfl⟩
    exact ⟨facet, h, rfl, rfl⟩

/-- The filters of facets with one more. -/
def putOthers (p : FilterParts) (fs : FacetFilters) (facet : String) : FacetFilters :=
  match p.others facet with
  | some q => fs.insert facet q
  | none => fs

theorem get?_putOthers (fs : FacetFilters) {facet name : String}
    (hfacet : Code.flatten facet = facet) (hname : Code.flatten name = name) :
    (p.putOthers fs facet).get? name =
      if name = facet then (p.others facet).or (fs.get? name) else fs.get? name := by
  unfold putOthers
  split
  · rename_i q hq
    rw [FacetFilters.get?_insert, hfacet, hname, hq]
    rfl
  · rename_i hq
    simp [hq]

theorem get?_foldl_putOthers (fs : FacetFilters) {names : List String} {name : String}
    (hnames : ∀ n ∈ names, Code.flatten n = n) (hname : Code.flatten name = name) :
    (names.foldl p.putOthers fs).get? name =
      if name ∈ names then (p.others name).or (fs.get? name) else fs.get? name := by
  induction names generalizing fs with
  | nil => simp
  | cons n names ih =>
      obtain ⟨hn, hrest⟩ := List.forall_mem_cons.mp hnames
      rw [List.foldl_cons, ih _ hrest, get?_putOthers fs hn hname]
      by_cases he : name = n
      · -- A name that comes again is put again, with the same filter.
        subst he
        cases p.others name <;> simp
      · simp [he]

/-- Under the name of a facet stands what is put off for all others, if there is such a facet. -/
theorem get?_facetFilters {names : List String} {name : String}
    (hnames : ∀ n ∈ names, Code.flatten n = n) (hname : Code.flatten name = name) :
    (p.facetFilters names).get? name = if name ∈ names then p.others name else none := by
  have h := get?_foldl_putOthers (p := p) {} hnames hname
  have hempty : ({} : FacetFilters).get? name = none := rfl
  rw [hempty, Option.or_none] at h
  exact h

end FilterParts

namespace Compiler

variable {k : Compiler} {c : Container}

def translations (k : Compiler) (c : Container) (ks : List Criterion) :
    Result (List (Criterion × Query)) :=
  ks.mapM fun criterion => (k.queryOf c criterion).map (criterion, ·)

theorem split_cons {names : List String} {parts : FilterParts} {criterion : Criterion}
    {ks : List Criterion} {q : Query} (hq : k.queryOf c criterion = .ok q) :
    k.split c names parts (criterion :: ks) = k.split c names (parts.place
      (fun criterion => c.putOffFor? names criterion k.settings.facetFilterMode)
      [(criterion, q)]) ks := by
  simp only [split, hq]
  cases hm : k.settings.facetFilterMode with
  | excludeSelf =>
      cases hf : c.facetOf? names criterion <;>
        simp [bind, Except.bind, FilterParts.place, Container.putOffFor?, hf]
  | applyAll => simp [bind, Except.bind, FilterParts.place, Container.putOffFor?]

theorem split_eq (names : List String) (parts : FilterParts) (ks : List Criterion) :
    k.split c names parts ks = (k.translations c ks).map
      (parts.place fun criterion => c.putOffFor? names criterion k.settings.facetFilterMode) := by
  induction ks generalizing parts with
  | nil => simp [split, translations, FilterParts.place_nil, Except.map, pure, Except.pure]
  | cons criterion ks ih =>
      cases hq : k.queryOf c criterion with
      | error e => simp [split, translations, hq, bind, Except.bind, Except.map]
      | ok q =>
          rw [split_cons hq, ih]
          simp only [translations, List.mapM_cons, hq]
          cases List.mapM (fun criterion => (k.queryOf c criterion).map (criterion, ·)) ks with
          | error e => rfl
          | ok ts => exact congrArg Except.ok (FilterParts.place_cons (criterion, q)).symm

theorem of_translations_eq_ok {ks : List Criterion} {ts : List (Criterion × Query)}
    (h : k.translations c ks = .ok ts) :
    ts.map (·.1) = ks ∧ ∀ t ∈ ts, k.queryOf c t.1 = .ok t.2 := by
  induction mapM_eq_ok.mp h with
  | nil => simp
  | @cons criterion t ks ts ht hts ih =>
      obtain ⟨q, hq, rfl⟩ := map_eq_ok.mp ht
      obtain ⟨hfst, hall⟩ := ih (mapM_eq_ok.mpr hts)
      exact ⟨by simp [hfst], List.forall_mem_cons.mpr ⟨hq, hall⟩⟩

end Compiler

/-! ## The steps of a compilation -/

/-- The filters of a request: the container's and the caller's own, and the queries of the criteria
placed with regard to the facets. -/
def Compiler.parts (k : Compiler) (c : Container) (i : Intent) (facets : List FacetSpec)
    (translated : List (Criterion × Query)) : FilterParts :=
  FilterParts.place { main := c.defaultFilters ++ i.queryFilters, faceted := [] }
    (fun criterion => c.putOffFor? (c.facetNames facets) criterion k.settings.facetFilterMode)
    translated

/-- What the steps of a compilation give, each with the step that gives it. -/
structure Compilation (k : Compiler) (c : Container) (i : Intent) where
  text : Option String
  scored : Option Query
  extra : List FacetSpec
  translated : List (Criterion × Query)
  sort : List SortClause
  aggregations : List Aggregation
  scored_eq : k.scored c i.query = .ok (text, scored)
  extra_eq : k.extraFacets c i = .ok extra
  checked_queryFilters : ∀ q ∈ i.queryFilters, q.Checked
  translated_eq : k.translations c i.filters = .ok translated
  sort_eq : c.sortOrder k.settings.identifierField i.sort i.context = .ok sort
  aggregations_eq : c.aggregations k.settings
    ((k.parts c i (i.facets ++ extra) translated).facetFilters (c.facetNames (i.facets ++ extra)))
    (i.facets ++ extra) = .ok aggregations

namespace Compilation

variable {k : Compiler} {c : Container} {i : Intent} (x : Compilation k c i)

def facets : List FacetSpec := i.facets ++ x.extra

def parts : FilterParts := k.parts c i x.facets x.translated

def request : CompiledRequest where
  name := i.name.getD c.name
  indexName := c.indexName
  start := i.start
  size := i.size
  query := .filtered x.scored x.parts.filter {}
  postFilter := x.parts.postFilter
  sort := x.sort
  aggregations := x.aggregations
  spelling := (x.text.map (k.spelling c)).getD .exact

def putOff (criterion : Criterion) : Option String :=
  c.putOffFor? (c.facetNames x.facets) criterion k.settings.facetFilterMode

theorem fst_translated : x.translated.map (·.1) = i.filters :=
  (Compiler.of_translations_eq_ok x.translated_eq).1

theorem queryOf_translated : ∀ t ∈ x.translated, k.queryOf c t.1 = .ok t.2 :=
  (Compiler.of_translations_eq_ok x.translated_eq).2

theorem toQuery_translated (hq : k.queryOf = Criterion.toQuery) :
    ∀ t ∈ x.translated, t.1.toQuery c = .ok t.2 := by
  intro t ht
  rw [← hq]
  exact x.queryOf_translated t ht

theorem forall₂_toQuery (hq : k.queryOf = Criterion.toQuery) : List.Forall₂
    (fun criterion q => criterion.toQuery c = .ok q) i.filters (x.translated.map (·.2)) := by
  rw [← x.fst_translated, List.forall₂_map_left_iff, List.forall₂_map_right_iff, List.forall₂_same]
  exact x.toQuery_translated hq

theorem mem_main {q : Query} : q ∈ x.parts.main ↔ (q ∈ c.defaultFilters ∨ q ∈ i.queryFilters) ∨
    ∃ t ∈ x.translated, x.putOff t.1 = none ∧ t.2 = q := by
  rw [← List.mem_append]
  exact FilterParts.mem_main_place

theorem mem_faceted {e : String × Query} :
    e ∈ x.parts.faceted ↔ ∃ t ∈ x.translated, x.putOff t.1 = some e.1 ∧ t.2 = e.2 := by
  refine FilterParts.mem_faceted_place.trans (or_iff_right ?_)
  simp

theorem get?_facetFilters (f : Field) :
    (x.parts.facetFilters (c.facetNames x.facets)).get? f.key =
      if f.key ∈ c.facetNames x.facets then x.parts.others f.key else none :=
  FilterParts.get?_facetFilters (c.flatten_of_mem_facetNames x.facets) f.flatten_key

/-- A bucket is on a filterable field that is among the facets, and is counted under what is put off
for the other facets. -/
theorem of_bucket_mem {b : Bucket} (hb : .bucket b ∈ x.aggregations) :
    ∃ f ∈ c.fields, f.filterable = true ∧ f.key ∈ c.facetNames x.facets ∧ b.name = f.key ∧
      b.field = f.code ∧ b.nestedPath = f.nestedPath ∧ b.filter = x.parts.others f.key := by
  obtain ⟨s, hs, f, hf, hfilterable, rfl⟩ :=
    Container.of_bucket_mem_aggregations x.aggregations_eq hb
  have hkey : f.key ∈ c.facetNames x.facets := by
    refine List.mem_map.mpr ⟨s, hs, ?_⟩
    simp only [Container.facetName, hf]
  have hfilter := x.get?_facetFilters f
  rw [if_pos hkey] at hfilter
  exact ⟨f, Container.field?_mem hf, hfilterable, hkey, rfl, rfl, rfl, hfilter⟩

end Compilation

theorem Compiler.compile_eq_ok {k : Compiler} {c : Container} {i : Intent} {r : CompiledRequest} :
    k.compile c i = .ok r ↔ ∃ x : Compilation k c i, x.request = r := by
  simp only [compile, bind_eq_ok, mapError_eq_ok, split_eq, map_eq_ok, Except.ok.injEq]
  constructor
  · rintro ⟨⟨text, scored⟩, hscored, extra, hextra, ⟨⟩, hchecked, _, ⟨ts, hts, rfl⟩, sort, hsort, as,
      has, rfl⟩
    exact ⟨⟨text, scored, extra, ts, sort, as, hscored, hextra, Query.checkList_eq_ok.mp hchecked,
      hts, hsort, has⟩, rfl⟩
  · rintro ⟨x, rfl⟩
    exact ⟨(x.text, x.scored), x.scored_eq, x.extra, x.extra_eq, (),
      Query.checkList_eq_ok.mpr x.checked_queryFilters, x.parts, ⟨x.translated, x.translated_eq, rfl⟩,
      x.sort, x.sort_eq, x.aggregations, x.aggregations_eq, rfl⟩

end FacetedSearch
