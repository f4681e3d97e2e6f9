import FacetedSearch.Proofs.Sort.Choices

/-!
# The identifier among the sort choices

The field that breaks ties is to be no sort choice. The choices leave it out by its code, and ties are
broken by whatever field the identifier refers to, so that it is offered if the identifier is its
flattened code.
-/

namespace FacetedSearch

namespace Container

variable {c : Container} {identifier : String}

/-- A field is found under the name of relevance only if it is its code. -/
theorem code_eq_of_field?_score {f : Field} (h : c.field? SortClause.scoreField = some f) :
    f.code = SortClause.scoreField := by
  rcases field?_names h with hcode | hkey
  · exact hcode
  · exact (Field.key_eq_iff_of_pseudo (Or.inl rfl)).mp hkey

/-- What breaks ties besides relevance is the identifier's field. -/
theorem eq_of_tieBreak {own : List SortClause} {s : SortClause} {f : Field}
    (hf : c.field? identifier = some f) (h : c.tieBreak identifier own = some s)
    (hs : s.field ≠ SortClause.scoreField) : f.sortable = true ∧ s = sortClause f .desc := by
  have hties := c.breaksTies_tieBreak identifier own
  rw [h, Option.toList_some] at hties
  cases hties with
  | relevance => exact absurd rfl hs
  | identifier _ hg hsortable =>
      cases hf.symm.trans hg
      exact ⟨hsortable, (sortClause_eq f .desc).symm⟩

section

variable (hkeys : (c.fields.map Field.key).Nodup)
include hkeys

/-- The key of a sortable field is no choice exactly if the identifier is its code. -/
theorem forall_option_ne_key_iff {f : Field} (hf : f ∈ c.fields) (hsortable : f.sortable = true)
    (hscore : f.code ≠ SortClause.scoreField) :
    (∀ option ∈ c.sortingOptions identifier, option.code ≠ f.key) ↔ f.code = identifier := by
  constructor
  · intro h
    by_contra hne
    exact h _ (mem_sortingOptions.mpr (Or.inl ⟨f, hf, hsortable, hne, rfl⟩)) rfl
  · intro hcode option hoption hkey
    rcases mem_sortingOptions.mp hoption with ⟨g, hg, _, hne, rfl⟩ | rfl
    · cases List.inj_on_of_nodup_map hkeys hg hf hkey
      exact hne hcode
    · exact hscore ((Field.key_eq_iff_of_pseudo (Or.inl rfl)).mp hkey.symm)

/-- No choice refers to a field exactly if it is not sortable or the identifier is its code, and it is
not named like relevance. -/
theorem forall_option_field?_ne_iff {f : Field} (hf : f ∈ c.fields) :
    (∀ option ∈ c.sortingOptions identifier, c.field? option.code ≠ some f) ↔
      (f.sortable = true → f.code = identifier) ∧ f.code ≠ SortClause.scoreField := by
  constructor
  · intro h
    constructor
    · intro hsortable
      by_contra hne
      refine h _ (mem_sortingOptions.mpr (Or.inl ⟨f, hf, hsortable, hne, rfl⟩)) ?_
      exact (field?_eq_some_iff_names hkeys).mpr ⟨hf, Or.inr rfl⟩
    · intro hscore
      refine h _ (mem_sortingOptions.mpr (Or.inr rfl)) ?_
      exact (field?_eq_some_iff_names hkeys).mpr ⟨hf, Or.inl hscore⟩
  · rintro ⟨hown, hscore⟩ option hoption hfound
    rcases mem_sortingOptions.mp hoption with ⟨g, hg, hsortable, hne, rfl⟩ | rfl
    · cases hfound.symm.trans ((field?_eq_some_iff_names hkeys).mpr ⟨hg, Or.inr rfl⟩)
      exact hne (hown hsortable)
    · exact hscore (code_eq_of_field?_score hfound)

/-- The field that the identifier refers to is no choice exactly if it is not sortable or referred to
by its own code, and is not named like relevance. So a field that breaks ties is left out of the
choices exactly if the identifier is its code, and offered if the identifier is only its key. -/
theorem identifier_left_out_iff {identifier : String} {f : Field}
    (hf : c.field? identifier = some f) :
    ((∀ option ∈ c.sortingOptions identifier, c.field? option.code ≠ some f) ↔
      (f.sortable = true → f.code = identifier) ∧ f.code ≠ "_score") ∧
    ∀ own s, c.tieBreak identifier own = some s → s.field ≠ "_score" → s.field = f.code ∧
      ((∀ option ∈ c.sortingOptions identifier, option.code ≠ s.key) ↔ f.code = identifier) := by
  have hmem : f ∈ c.fields := field?_mem hf
  refine ⟨forall_option_field?_ne_iff hkeys hmem, fun own s hties hs => ?_⟩
  obtain ⟨hsortable, rfl⟩ := eq_of_tieBreak hf hties hs
  exact ⟨rfl, forall_option_ne_key_iff hkeys hmem hsortable hs⟩

end

end Container

namespace Shop

/-- Products that are numbered, by a field of the given code. -/
def numbered (code identifier : String) : Config := { config with
  search := { identifierField := identifier }
  containers := [{ product with
    fields := [{ code, type := .int, sortable := true },
      { code := "price.price", type := .price, sortable := true }] }] }

/-- The number is no choice, and ties are broken by it. -/
theorem number_left_out : ∃ k f,
    ((numbered "product.id" "product.id").builder.resolve "fr" "product").1 = .ok k ∧
    k.field? "product.id" = some f ∧ f.sortable = true ∧
    (∀ option ∈ k.sortingOptions "product.id", k.field? option.code ≠ some f) ∧
    k.tieBreak "product.id" [.score .desc] = some (Container.sortClause f .desc) ∧
    ∀ option ∈ k.sortingOptions "product.id", option.code ≠ "product__id" := by
  obtain ⟨k, f, hk, hf, hsortable, hties, hkeys, hcode⟩ : ∃ k f,
      ((numbered "product.id" "product.id").builder.resolve "fr" "product").1 = .ok k ∧
      k.field? "product.id" = some f ∧ f.sortable = true ∧
      k.tieBreak "product.id" [.score .desc] = some (Container.sortClause f .desc) ∧
      (k.fields.map Field.key).Nodup ∧ f.code = "product.id" := by
    refine ⟨_, _, rfl, rfl, rfl, rfl, ?_, rfl⟩
    decide +kernel
  have hscore : f.code ≠ "_score" := by
    rw [hcode]
    decide
  obtain ⟨hnone, hbroken⟩ := Container.identifier_left_out_iff hkeys hf
  have hkey : (Container.sortClause f .desc).key = "product__id" := by
    rw [Container.sortClause, Field.key, hcode]
    rfl
  refine ⟨k, f, hk, hf, hsortable, hnone.mpr ⟨fun _ => hcode, hscore⟩, hties, ?_⟩
  rw [← hkey]
  exact (hbroken _ _ hties hscore).2.mpr hcode

/-- The configuration is valid and names the number by its flattened code; ties are broken by the
number, and yet it is offered. -/
theorem number_offered : (numbered "product.id" "product__id").check = .ok () ∧ ∃ k f,
    ((numbered "product.id" "product__id").builder.resolve "fr" "product").1 = .ok k ∧
    (k.fields.map Field.key).Nodup ∧ k.field? "product__id" = some f ∧
    k.tieBreak "product__id" [.score .desc] = some (Container.sortClause f .desc) ∧
    ∃ option ∈ k.sortingOptions "product__id", k.field? option.code = some f := by
  refine ⟨rfl, _, _, rfl, ?_, rfl, rfl, _, List.mem_cons_self, rfl⟩
  decide +kernel

end Shop

end FacetedSearch
