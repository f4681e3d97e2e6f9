import FacetedSearch.Proofs.Criterion.Legality
import FacetedSearch.Proofs.Request.Compilation
import FacetedSearch.Proofs.Request.Session
import FacetedSearch.Proofs.Request.TextQuery

/-!
# Searches for a text

What a search for nothing but a text may fail on, with a configuration that is valid: a field that
is looked in under a blank path, or the blank name of the field for any text.
-/

namespace FacetedSearch

open Outcome

namespace Container

variable {c : Container} {text fulltextField : String}

/-- A text is looked for in a field whose nested object has a blank name. -/
def LooksUnderBlank (c : Container) : Prop :=
  ∃ f ∈ c.textFields, ∃ path ∈ f.nestedPath, Text.isBlank path = true

/-- A text is looked for in the field for any text, and that has a blank name. -/
def LooksInBlank (c : Container) (fulltextField : String) : Prop :=
  c.textFields = [] ∧ Text.isBlank fulltextField = true

theorem leaf?_textMatch_eq (field : String) : Query.leaf? field (.textMatch text none none) =
    if Text.isBlank field then .error (.blankField .textMatch)
    else .ok (.leaf field (.textMatch text none none) {}) := by
  simp only [Query.leaf?, Query.checkLeaf]
  split <;> rfl

theorem textClause_eq (f : Field) : textClause text f =
    f.wrapNested (.leaf f.code (.textMatch text none none) { boost := f.weight }) .max := by
  simp only [textClause, leaf?_textMatch_eq, f.code_not_blank, Bool.false_eq_true, if_false]
  rfl

theorem exists_textClauses_iff : (∃ qs, c.textFields.mapM (textClause text) = .ok qs) ↔
    ¬ c.LooksUnderBlank := by
  simp [exists_mapM_eq_ok, textClause_eq, Field.exists_wrapNested_iff, LooksUnderBlank]

theorem textClauses_failsOnly :
    FailsOnly (· = QueryFault.blankPath) (c.textFields.mapM (textClause text)) := by
  refine .mapM fun f _ => ?_
  rw [textClause_eq, Field.wrapNested]
  cases f.nestedPath with
  | none => exact .ok _
  | some path =>
      simp only [Query.nested?]
      split
      · exact .error rfl
      · exact .ok _

theorem LooksUnderBlank.textQuery (h : c.LooksUnderBlank) :
    c.textQuery fulltextField text = .error .blankPath := by
  rw [Container.textQuery, textFields_eq]
  cases hqs : c.textFields.mapM (textClause text) with
  | ok qs => exact absurd h (exists_textClauses_iff.mp ⟨qs, hqs⟩)
  | error fault =>
      rw [textClauses_failsOnly fault hqs]
      rfl

theorem LooksInBlank.textQuery (h : c.LooksInBlank fulltextField) :
    c.textQuery fulltextField text = .error (.blankField .textMatch) := by
  rw [Container.textQuery, textFields_eq, h.1]
  exact (leaf?_textMatch_eq fulltextField).trans (if_pos h.2)

theorem exists_textQuery (text : String) (hunder : ¬ c.LooksUnderBlank)
    (hin : ¬ c.LooksInBlank fulltextField) :
    ∃ q, c.textQuery fulltextField text = .ok q := by
  obtain ⟨qs, hqs⟩ := exists_textClauses_iff.mpr hunder
  have hlength := (mapM_eq_ok.mp hqs).length_eq
  rw [textQuery, textFields_eq, hqs]
  cases qs with
  | nil =>
      have hblank : Text.isBlank fulltextField = false := by
        simpa [LooksInBlank, List.eq_nil_of_length_eq_zero hlength] using hin
      exact ⟨_, (leaf?_textMatch_eq fulltextField).trans (if_neg (by simp [hblank]))⟩
  | cons q qs => exact ⟨_, rfl⟩

end Container

/-- The intent that is for a text and nothing else. -/
def Intent.ofText (catalog container text : String) : Intent :=
  { catalog, container, query := some (.text text) }

namespace Compiler

variable {k : Compiler} {c : Container} {t : String}

theorem exists_scored_text_iff : (∃ x, k.scored c (some (.text t)) = .ok x) ↔
    Text.isBlank t = true ∨
      ¬ c.LooksUnderBlank ∧ ¬ c.LooksInBlank k.settings.fulltextField := by
  simp only [scored]
  by_cases hblank : Text.isBlank t = true
  · simp [hblank]
  · simp only [hblank, if_false, false_or, Bool.false_eq_true]
    constructor
    · rintro ⟨x, hx⟩
      obtain ⟨q, hq, _⟩ := bind_eq_ok.mp hx
      constructor
      · intro h
        cases h.textQuery.symm.trans hq
      · intro h
        cases h.textQuery.symm.trans hq
    · rintro ⟨hunder, hin⟩
      obtain ⟨q, hq⟩ := Container.exists_textQuery t hunder hin
      exact ⟨(some t, some q), bind_eq_ok.mpr ⟨q, hq, rfl⟩⟩

theorem scored_text_eq_error {fault : QueryFault} :
    k.scored c (some (.text t)) = .error fault ↔ Text.isBlank t = false ∧
      (c.LooksUnderBlank ∧ fault = .blankPath ∨
        c.LooksInBlank k.settings.fulltextField ∧ fault = .blankField .textMatch) := by
  simp only [scored]
  by_cases hblank : Text.isBlank t = true
  · simp [hblank]
  · have hquery : (c.textQuery k.settings.fulltextField t >>= fun q => Except.ok (some t, some q)) =
        .error fault ↔ c.textQuery k.settings.fulltextField t = .error fault := by
      simp [bind_eq_error]
    simp only [hblank, if_false, hquery, Bool.false_eq_true, true_and]
    constructor
    · intro h
      by_cases hunder : c.LooksUnderBlank
      · cases h.symm.trans hunder.textQuery
        exact Or.inl ⟨hunder, rfl⟩
      · by_cases hin : c.LooksInBlank k.settings.fulltextField
        · cases h.symm.trans hin.textQuery
          exact Or.inr ⟨hin, rfl⟩
        · obtain ⟨q, hq⟩ := Container.exists_textQuery t hunder hin
          cases h.symm.trans hq
    · rintro (⟨hunder, rfl⟩ | ⟨hin, rfl⟩)
      · exact hunder.textQuery
      · exact hin.textQuery

/-- After the text there is nothing that can fail. -/
theorem compile_ofText {catalog container : String}
    (hextra : k.extraFacets c (.ofText catalog container t) = .ok []) :
    k.compile c (.ofText catalog container t) =
      ((k.scored c (some (.text t))).mapError .malformedQuery).map fun x =>
        { name := c.name, indexName := c.indexName, start := 0, size := 20
          query := .filtered x.2 (Query.conjunction c.defaultFilters) {}, postFilter := none
          sort := [.score .desc], aggregations := []
          spelling := (x.1.map (k.spelling c)).getD .exact } := by
  simp only [compile, hextra]
  simp only [Intent.ofText]
  cases k.scored c (some (.text t)) with
  | error fault => rfl
  | ok x =>
      rw [List.append_nil]
      rfl

end Compiler

/-- A search for a text is refused exactly if it looks under a blank path or in a field of blank
name, and not for anything else. -/
theorem Builder.Serves.search_text {c : Config} {b : Builder} {catalog container : String}
    {k : Container} (h : b.Serves c)
    (hextra : ∀ k i, b.compiler.extraFacets k i = .ok [])
    (hk : (b.resolve catalog container).1 = .ok k) (t : String) :
    ((∃ r, (b.create (.ofText catalog container t)).1 = .ok r) ↔ Text.isBlank t = true ∨
      ¬ k.LooksUnderBlank ∧ ¬ k.LooksInBlank c.search.fulltextField) ∧
    ∀ e, (b.create (.ofText catalog container t)).1 = .error e ↔ Text.isBlank t = false ∧
      (k.LooksUnderBlank ∧ e = .malformedQuery .blankPath ∨
        k.LooksInBlank c.search.fulltextField ∧ e = .malformedQuery (.blankField .textMatch)) := by
  have hcreate : (b.create (.ofText catalog container t)).1 =
      b.compiler.compile k (.ofText catalog container t) := by
    rw [create_fst, Intent.ofText, hk]
    rfl
  rw [hcreate, Compiler.compile_ofText (hextra _ _), ← h.sound.settings]
  constructor
  · rw [← Compiler.exists_scored_text_iff]
    simp [map_eq_ok, mapError_eq_ok]
  · intro e
    simp only [map_eq_error, mapError_eq_error, Compiler.scored_text_eq_error]
    constructor
    · rintro ⟨fault, ⟨ht, ⟨hunder, rfl⟩ | ⟨hin, rfl⟩⟩, rfl⟩
      · exact ⟨ht, Or.inl ⟨hunder, rfl⟩⟩
      · exact ⟨ht, Or.inr ⟨hin, rfl⟩⟩
    · rintro ⟨ht, ⟨hunder, rfl⟩ | ⟨hin, rfl⟩⟩
      · exact ⟨_, ⟨ht, Or.inl ⟨hunder, rfl⟩⟩, rfl⟩
      · exact ⟨_, ⟨ht, Or.inr ⟨hin, rfl⟩⟩, rfl⟩

namespace Shop

theorem texts_found : ∃ k, (config.builder.resolve "fr" "product").1 = .ok k ∧
    ∀ t, ∃ r, (config.builder.create (.ofText "fr" "product" t)).1 = .ok r := by
  refine ⟨_, rfl, fun t => (serves.search_text (fun _ _ => rfl) rfl t).1.mpr (Or.inr ⟨?_, ?_⟩)⟩
  · rintro ⟨f, hf, path, hpath, _⟩
    obtain rfl := List.mem_singleton.mp hf
    cases hpath
  · rintro ⟨hnone, _⟩
    cases hnone

/-- Products with a searchable field inside a nested object that has no name. -/
def unnamedConfig : Config := { config with
  containers := [{ product with
    fields := [{ code := ".name", type := .text, searchable := true }] }] }

theorem unnamed_refused : ∃ k, Builder.ofConfig? unnamedConfig = .ok unnamedConfig.builder ∧
    (unnamedConfig.builder.resolve "fr" "product").1 = .ok k ∧
    (unnamedConfig.builder.create (.ofText "fr" "product" "lamp")).1 =
      .error (.malformedQuery .blankPath) :=
  ⟨_, rfl, rfl, rfl⟩

end Shop

end FacetedSearch
