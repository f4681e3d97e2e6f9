import FacetedSearch.Proofs.Container.Fields
import FacetedSearch.Proofs.Request.Compilation
import FacetedSearch.Proofs.Response.Acceptance
import FacetedSearch.Proofs.Sort.Policy

/-!
# Sort choices

A choice that is offered can be sorted by, and the answer says that it is sorted by that choice;
asking for the clauses of a sort order gives them again.
-/

namespace FacetedSearch

open Outcome

/-- The sort key that asks for what a clause sorts by. -/
def SortClause.toSpec (s : SortClause) : SortSpec := { field := s.key, direction := s.direction }

/-- A field is known under the name of relevance or of the document's id only if that is its
code. -/
theorem Field.key_eq_iff_of_pseudo {f : Field} {name : String}
    (h : name = SortClause.scoreField ∨ name = SortClause.idField) :
    f.key = name ↔ f.code = name := by
  rcases h with rfl | rfl <;> exact Code.flatten_eq_iff (by decide +kernel) (by decide +kernel)

namespace Container

variable {c : Container} {identifier : String}

theorem mem_sortingOptions {option : SortingOption} : option ∈ c.sortingOptions identifier ↔
    (∃ f ∈ c.fields, f.sortable = true ∧ f.code ≠ identifier ∧
      option = { code := f.key, label := f.title }) ∨
    option = { code := SortClause.scoreField, label := "Relevance" } := by
  simp only [sortingOptions, sortableFields, List.mem_append, List.mem_map, List.mem_filter,
    List.mem_singleton, bne_iff_ne, and_assoc, @eq_comm _ _ option]

/-! ## Asking again -/

/-- Without a context no field is replaced. -/
theorem standsFor_empty (c : Container) (reference : String) :
    c.StandsFor .empty reference reference := by
  refine .kept fun target h => ?_
  obtain ⟨_, _, _, hvalue, _⟩ := h
  cases hvalue

section

variable (hkeys : (c.fields.map Field.key).Nodup)
  (hcodes : ∀ f ∈ c.fields, f.code ≠ SortClause.scoreField ∧ f.code ≠ SortClause.idField)
include hkeys hcodes

/-- What a clause sorts by is found again under its key. -/
theorem SortsBy.resolveSort_toSpec {s : SortClause} (h : c.SortsBy s) :
    c.resolveSort .empty s.toSpec = .ok s := by
  cases h with
  | pseudo hfield => exact if_pos hfield
  | @sortable f direction hf hsortable =>
      have hpseudo : ¬ (sortClause f direction).toSpec.IsPseudo := by
        intro hname
        have hcode : f.code = f.key := (Field.key_eq_iff_of_pseudo hname).mp rfl
        exact hname.elim (fun h => (hcodes f hf).1 (hcode.trans h))
          (fun h => (hcodes f hf).2 (hcode.trans h))
      have hfound : c.sortableField? f.key = some f :=
        sortableField?_eq_some.mpr
          ⟨(field?_eq_some_iff_names hkeys).mpr ⟨hf, Or.inr rfl⟩, hsortable⟩
      rw [resolveSort_of_not_pseudo hpseudo (c.standsFor_empty f.key), hfound]
      rfl

theorem sortOrder_toSpecs {clauses : List SortClause} (hne : clauses ≠ [])
    (h : ∀ s ∈ clauses, c.SortsBy s) : c.sortOrder identifier (clauses.map SortClause.toSpec) .empty =
      .ok (clauses ++ (c.tieBreak identifier clauses).toList) := by
  have hmap : (clauses.map SortClause.toSpec).mapM (c.resolveSort .empty) = .ok clauses := by
    rw [mapM_eq_ok, List.forall₂_map_left_iff, List.forall₂_same]
    exact fun s hs => (h s hs).resolveSort_toSpec hkeys hcodes
  rw [sortOrder_of_ne_nil (by simpa using hne), hmap]
  rfl

end

/-- A choice stands for a clause, in either direction. -/
theorem exists_sortsBy_of_mem_sortingOptions {option : SortingOption}
    (h : option ∈ c.sortingOptions identifier) (direction : SortDirection) :
    ∃ s, c.SortsBy s ∧ s.key = option.code ∧ s.direction = direction := by
  rcases mem_sortingOptions.mp h with ⟨f, hf, hsortable, _, rfl⟩ | rfl
  · exact ⟨_, @SortsBy.sortable c f direction hf hsortable, rfl, rfl⟩
  · exact ⟨_, sortsBy_score direction, rfl, rfl⟩

theorem ne_nil_of_sortOrder {specs : List SortSpec} {context : Context} {clauses : List SortClause}
    (h : c.sortOrder identifier specs context = .ok clauses) : clauses ≠ [] := by
  by_cases hspecs : specs = []
  · subst hspecs
    cases h
    simp
  · obtain ⟨own, extra, rfl, _, hextra⟩ := (sortOrder_eq_ok hspecs).mp h
    obtain ⟨s, hs, _⟩ := hextra.exists_score
    exact List.ne_nil_of_mem hs

/-- An answer says that it is sorted by the first clause of the order. -/
theorem sortInfo_of_compile {k : Compiler} {i : Intent} {r : CompiledRequest} {s : SortClause}
    {rest : List SortClause} (hr : k.compile c i = .ok r)
    (horder : c.sortOrder k.settings.identifierField i.sort i.context = .ok (s :: rest))
    {raw : Json} {c' : Container} {found : SearchResponse}
    (hfound : SearchResponse.ofBackend raw r c' = .ok found) :
    found.sortInfo = some { field := s.key, direction := s.direction } := by
  obtain ⟨x, rfl⟩ := Compiler.compile_eq_ok.mp hr
  have hsort : x.sort = s :: rest := Except.ok.inj (x.sort_eq.symm.trans horder)
  rw [SearchResponse.sortInfo_of_parse (mapError_eq_ok.mp hfound), Compilation.request, hsort]
  rfl

/-- Every choice that is offered can be sorted by in both directions, and an answer to a request that
does so says that it is sorted by that choice. What is asked for with the keys of a sort order starts
with that order. -/
theorem choices_usable (hkeys : (c.fields.map Field.key).Nodup)
    (hcodes : ∀ f ∈ c.fields, f.code ≠ "_score" ∧ f.code ≠ "_id") (identifier : String) :
    (∀ option ∈ c.sortingOptions identifier, ∀ direction,
      (∃ first rest, c.sortOrder identifier [{ field := option.code, direction }] .empty =
        .ok (first :: rest) ∧ first.key = option.code) ∧
      ∀ (k : Compiler) (i : Intent) (r : CompiledRequest) (raw : Json) (c' : Container)
        (found : SearchResponse), i.sort = [{ field := option.code, direction }] →
        i.context = .empty → k.compile c i = .ok r → SearchResponse.ofBackend raw r c' = .ok found →
        found.sortInfo = some { field := option.code, direction }) ∧
    ∀ specs clauses, c.sortOrder identifier specs .empty = .ok clauses →
      ∃ more, c.sortOrder identifier
        (clauses.map fun s => { field := s.key, direction := s.direction }) .empty =
          .ok (clauses ++ more) := by
  constructor
  · intro option hoption direction
    obtain ⟨s, hs, hkey, rfl⟩ := exists_sortsBy_of_mem_sortingOptions hoption direction
    have horder : ∀ identifier, c.sortOrder identifier
        [{ field := option.code, direction := s.direction }] .empty =
          .ok (s :: (c.tieBreak identifier [s]).toList) := by
      intro identifier
      rw [← hkey]
      exact sortOrder_toSpecs hkeys hcodes (List.cons_ne_nil s []) (by simpa using hs)
    refine ⟨⟨s, _, horder identifier, hkey⟩, ?_⟩
    intro k i r raw c' found hsort hcontext hr hfound
    have hfirst := horder k.settings.identifierField
    rw [← hsort, ← hcontext] at hfirst
    rw [← hkey]
    exact sortInfo_of_compile hr hfirst hfound
  · intro specs clauses h
    exact ⟨(c.tieBreak identifier clauses).toList,
      sortOrder_toSpecs hkeys hcodes (ne_nil_of_sortOrder h) (sortsBy_of_sortOrder h)⟩

end Container

namespace Shop

/-- All products by falling price, as the shop offers it. -/
def byFallingPrice : Intent where
  catalog := "fr"
  container := "product"
  sort := [{ field := "price__price", direction := .desc }]

/-- A response without documents. -/
def nothingFound : Json := .single "hits" (.object [])

/-- The clause for falling prices. -/
def fallingPrice : SortClause where
  field := "price.price"
  key := "price__price"
  direction := .desc
  missing := some .first
  nestedPath := some "price"

/-- The shop offers the price to sort by; its answer says that it is sorted so, and the clauses of
its sort order can be asked for again. -/
theorem price_offered : ∃ k r found, (config.builder.resolve "fr" "product").1 = .ok k ∧
    { code := "price__price", label := "Price" } ∈ k.sortingOptions "id" ∧
    config.builder.compiler.compile k byFallingPrice = .ok r ∧
    SearchResponse.ofBackend nothingFound r k = .ok found ∧
    found.sortInfo = some { field := "price__price", direction := .desc } ∧
    k.sortOrder "id" byFallingPrice.sort .empty = .ok [fallingPrice, .score .desc] ∧
    ∃ more, k.sortOrder "id" [.mk "price__price" .desc, .mk "_score" .desc] .empty =
      .ok ([fallingPrice, .score .desc] ++ more) := by
  obtain ⟨k, r, found, hk, hr, hfound, horder, hkeys, hcodes, hoption⟩ : ∃ k r found,
      (config.builder.resolve "fr" "product").1 = .ok k ∧
      config.builder.compiler.compile k byFallingPrice = .ok r ∧
      SearchResponse.ofBackend nothingFound r k = .ok found ∧
      k.sortOrder "id" byFallingPrice.sort .empty = .ok [fallingPrice, .score .desc] ∧
      (k.fields.map Field.key).Nodup ∧ (∀ f ∈ k.fields, f.code ≠ "_score" ∧ f.code ≠ "_id") ∧
      { code := "price__price", label := "Price" } ∈ k.sortingOptions "id" := by
    refine ⟨_, _, _, rfl, rfl, rfl, rfl, ?_, ?_, ?_⟩
    · decide +kernel
    · decide +kernel
    · decide +kernel
  obtain ⟨hoffered, hagain⟩ := Container.choices_usable hkeys hcodes "id"
  obtain ⟨_, hsortInfo⟩ := hoffered _ hoption .desc
  exact ⟨k, r, found, hk, hoption, hr, hfound, hsortInfo _ byFallingPrice r _ k found rfl rfl hr hfound,
    horder, hagain _ _ horder⟩

end Shop

end FacetedSearch
