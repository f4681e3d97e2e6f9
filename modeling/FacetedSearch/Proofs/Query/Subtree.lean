import FacetedSearch.Query.Basic
import Mathlib.Logic.Relation

/-! The queries in a query tree, and induction from the queries below a query to the query itself. -/

namespace FacetedSearch.Query

/-- The queries right below a query, in the order in which they are rendered. -/
def children : Query → List Query
  | leaf .. => []
  | bool must should mustNot _ _ => must ++ should ++ mustNot
  | nested _ q _ _ => [q]
  | filtered q f _ => q.toList ++ f.toList

theorem sizeOf_lt_of_mem_children {q c : Query} (h : c ∈ q.children) : sizeOf c < sizeOf q := by
  cases q with
  | leaf _ _ _ => cases h
  | bool must should mustNot _ _ =>
      simp only [children, List.mem_append] at h
      simp only [bool.sizeOf_spec]
      rcases h with (h | h) | h <;> have := List.sizeOf_lt_of_mem h <;> omega
  | nested _ q _ _ =>
      simp only [children, List.mem_singleton] at h
      subst h
      simp only [nested.sizeOf_spec]
      omega
  | filtered q f _ =>
      simp only [children, List.mem_append, Option.mem_toList] at h
      simp only [filtered.sizeOf_spec]
      rcases h with h | h <;> cases h <;> simp only [Option.some.sizeOf_spec] <;> omega

/-- A property of every query that has it if all the queries right below it have it. -/
theorem induction_children {P : Query → Prop} (step : ∀ q, (∀ c ∈ q.children, P c) → P q)
    (q : Query) : P q :=
  step q fun c _ => induction_children step c
termination_by sizeOf q
decreasing_by exact sizeOf_lt_of_mem_children ‹_›

/-- A query is in a tree if it is the whole tree or right below a query in it. -/
def Contains : Query → Query → Prop := Relation.ReflTransGen fun p c => c ∈ p.children

theorem forall_contains_iff {P : Query → Prop} {q : Query} :
    (∀ p, q.Contains p → P p) ↔ P q ∧ ∀ c ∈ q.children, ∀ p, c.Contains p → P p := by
  constructor
  · intro h
    exact ⟨h q .refl, fun c hc p hp => h p (.head hc hp)⟩
  · rintro ⟨hq, hchildren⟩ p hp
    rcases hp.cases_head with rfl | ⟨c, hc, hp⟩
    · exact hq
    · exact hchildren c hc p hp

end FacetedSearch.Query
