import FacetedSearch.Proofs.Criterion.Translation
import FacetedSearch.Request.Compiler

/-!
# Text queries

A text is looked for in the searchable fields of a textual type, and in the field for any text only
where a container has no such field.
-/

namespace FacetedSearch

open Outcome

namespace Container

variable {c : Container} {text : String}

theorem textClause_eq_ok {f : Field} {q : Query} (h : textClause text f = .ok q) :
    q.LeafAt f.code (.textMatch text none none) ∧ q.Checked := by
  simp only [textClause, bind_eq_ok, Query.leaf?_eq_ok] at h
  obtain ⟨_, ⟨rfl, hl⟩, hw⟩ := h
  exact ⟨Field.wrapNested_leafAt hw, Field.wrapNested_checked (Query.checked_withLabel.mpr hl) hw⟩

/-- The fields that a text is looked for in. -/
def textFields (c : Container) : List Field :=
  c.fields.filter fun f => f.type.isTextual && f.searchable

theorem textFields_eq : (c.searchableFields.filter fun f => f.type.supports .textMatch) =
    c.textFields := List.filter_filter

/-- A query for a text: a clause for each field that the text is looked for in, or one on the field
for any text where there is no such field. -/
inductive IsTextQuery (c : Container) (fulltextField text : String) : Query → Prop
  | clauses {qs} : c.textFields ≠ [] →
      List.Forall₂ (fun f q => q.LeafAt f.code (.textMatch text none none)) c.textFields qs →
      IsTextQuery c fulltextField text (.bool [] qs [] Query.defaultMinimumShouldMatch {})
  | fallback : c.textFields = [] →
      IsTextQuery c fulltextField text (.leaf fulltextField (.textMatch text none none) {})

theorem textQuery_eq_ok {fulltextField : String} {q : Query}
    (h : c.textQuery fulltextField text = .ok q) :
    c.IsTextQuery fulltextField text q ∧ q.Checked := by
  simp only [textQuery, textFields_eq, bind_eq_ok] at h
  obtain ⟨qs, hqs, h⟩ := h
  have hclauses : List.Forall₂ (fun f q => q.LeafAt f.code (.textMatch text none none))
      c.textFields qs := (mapM_eq_ok.mp hqs).imp fun f q hq => (textClause_eq_ok hq).1
  have hchecked : ∀ q ∈ qs, q.Checked :=
    forall_mem_of_mapM_eq_ok hqs fun f q hq => (textClause_eq_ok hq).2
  split at h
  · rename_i hempty
    obtain rfl := List.isEmpty_iff.mp hempty
    obtain ⟨rfl, hq⟩ := Query.leaf?_eq_ok.mp h
    exact ⟨.fallback (List.forall₂_nil_right_iff.mp hclauses), hq⟩
  · rename_i hne
    obtain rfl := Query.bool?_eq_ok h
    have hfields : c.textFields ≠ [] := by
      intro he
      rw [he, List.forall₂_nil_left_iff] at hclauses
      exact hne (by simp [hclauses])
    exact ⟨.clauses hfields hclauses, Query.checked_bool.mpr ⟨by simp, hchecked, by simp⟩⟩

end Container

namespace Compiler

variable {k : Compiler} {c : Container}

/-- A text that is not blank is scored by a query for it. -/
theorem scored_text_eq_ok {t : String} {text : Option String} {q : Option Query}
    (h : k.scored c (some (.text t)) = .ok (text, q)) :
    (Text.isBlank t = true ∧ q = none) ∨ (Text.isBlank t = false ∧
      ∃ p, q = some p ∧ c.IsTextQuery k.settings.fulltextField t p ∧ p.Checked) := by
  simp only [scored] at h
  split at h
  · rename_i hblank
    cases h
    exact Or.inl ⟨hblank, rfl⟩
  · rename_i hblank
    obtain ⟨p, hp, h⟩ := bind_eq_ok.mp h
    cases h
    exact Or.inr ⟨by simpa using hblank, p, rfl, Container.textQuery_eq_ok hp⟩

theorem checked_of_scored {input : Option QueryInput} {text : Option String} {q : Option Query}
    (h : k.scored c input = .ok (text, q)) : ∀ p ∈ q, p.Checked := by
  match input, h with
  | none, h =>
      cases h
      simp
  | some (.node n), h =>
      simp only [scored, check_bind_eq_ok] at h
      obtain ⟨hn, h⟩ := h
      cases h
      rintro _ ⟨⟩
      exact hn
  | some (.text _), h =>
      rcases scored_text_eq_ok h with ⟨_, rfl⟩ | ⟨_, p, rfl, _, hp⟩
      · simp
      · rintro _ ⟨⟩
        exact hp

end Compiler

end FacetedSearch
