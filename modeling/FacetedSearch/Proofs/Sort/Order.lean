import FacetedSearch.Proofs.Criterion.Translation
import FacetedSearch.Sort.Order

/-!
# Clauses of sort orders

Sort keys, the substitutes that the context puts in their place and the clause that breaks ties all
end on relevance, on the identifier of a document or on a sortable field.
-/

namespace FacetedSearch

open Outcome

namespace Container

variable {c : Container}

/-- The clauses that a sort order may have. -/
inductive SortsBy (c : Container) : SortClause → Prop
  | pseudo {field direction} : field = SortClause.scoreField ∨ field = SortClause.idField →
      SortsBy c (.pseudo field direction)
  | sortable {f direction} : f ∈ c.fields → f.sortable = true → SortsBy c (sortClause f direction)

theorem sortsBy_score (direction : SortDirection) : c.SortsBy (.score direction) :=
  .pseudo (Or.inl rfl)

theorem sortsBy_of_sortableField? {reference : String} {f : Field}
    (h : c.sortableField? reference = some f) (direction : SortDirection) :
    c.SortsBy (sortClause f direction) := by
  obtain ⟨hf, hsortable⟩ := Option.filter_eq_some_iff.mp h
  exact .sortable (field?_mem hf) hsortable

theorem SortsBy.field {s : SortClause} (h : c.SortsBy s) :
    s.field = SortClause.scoreField ∨ s.field = SortClause.idField ∨
      ∃ f ∈ c.fields, f.sortable = true ∧ s.field = f.code := by
  cases h with
  | pseudo hfield => exact hfield.imp_right Or.inl
  | sortable hf hsortable => exact Or.inr (Or.inr ⟨_, hf, hsortable, rfl⟩)

theorem SortsBy.nestedUnder {s : SortClause} (h : c.SortsBy s) :
    Code.NestedUnder s.field s.nestedPath := by
  cases h with
  | pseudo hfield => rcases hfield with rfl | rfl <;> simp [Code.NestedUnder, SortClause.pseudo,
      SortClause.scoreField, SortClause.idField]
  | @sortable f _ _ _ => exact f.nestedUnder

theorem sortsBy_of_resolveSort {context : Context} {spec : SortSpec} {s : SortClause}
    (h : c.resolveSort context spec = .ok s) : c.SortsBy s := by
  simp only [resolveSort] at h
  split at h
  · rename_i hpseudo
    cases h
    exact .pseudo hpseudo
  · split at h
    · rename_i f hf
      cases h
      exact sortsBy_of_sortableField? hf spec.direction
    · cases h

theorem sortsBy_of_tieBreak {identifier : String} {clauses : List SortClause} {s : SortClause}
    (h : s ∈ c.tieBreak identifier clauses) : c.SortsBy s := by
  simp only [tieBreak] at h
  split at h
  · split at h
    · rename_i f hf
      split at h
      · cases h
      · cases h
        exact sortsBy_of_sortableField? hf .desc
    · cases h
  · cases h
    exact sortsBy_score .desc

theorem sortsBy_of_sortOrder {identifier : String} {specs : List SortSpec} {context : Context}
    {clauses : List SortClause} (h : c.sortOrder identifier specs context = .ok clauses) :
    ∀ s ∈ clauses, c.SortsBy s := by
  simp only [sortOrder] at h
  split at h
  · cases h
    simp [sortsBy_score]
  · obtain ⟨resolved, hresolved, h⟩ := bind_eq_ok.mp h
    cases h
    intro s hs
    rcases List.mem_append.mp hs with hs | hs
    · exact forall_mem_of_mapM_eq_ok hresolved (fun _ _ => sortsBy_of_resolveSort) s hs
    · exact sortsBy_of_tieBreak (Option.mem_toList.mp hs)

theorem sortOrder_failsOnly (identifier : String) (specs : List SortSpec) (context : Context) :
    FailsOnly Error.IsRefusal (c.sortOrder identifier specs context) := by
  simp only [sortOrder]
  split
  · exact .ok _
  · refine .bind (.mapM fun spec _ => ?_) fun _ _ => .ok _
    simp only [resolveSort]
    split
    · exact .ok _
    · split
      · exact .ok _
      · exact .error trivial

end Container

end FacetedSearch
