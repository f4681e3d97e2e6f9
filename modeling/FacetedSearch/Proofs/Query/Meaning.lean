import FacetedSearch.Criterion.ToQuery

/-!
# What queries mean

An interpretation says for which documents a query holds. All that is asked of it is that `must`
clauses on their own hold together where each of them holds.
-/

namespace FacetedSearch

universe u

/-- A reading of queries as conditions on documents. -/
structure Interpretation (D : Type u) where
  holds : Query → D → Prop
  holds_must : ∀ (q : Query) (qs : List Query) (minimum : String) (l : Label) (d : D),
    holds (.bool (q :: qs) [] [] minimum l) d ↔ ∀ p ∈ q :: qs, holds p d

namespace Interpretation

variable {D : Type u} (I : Interpretation D)

/-- What is restricted by a query that may be absent. -/
def admits (q : Option Query) (d : D) : Prop := ∀ p ∈ q, I.holds p d

/-- What is restricted by a criterion: what its query holds for, and nothing if it has none. -/
def meets (c : Container) (k : Criterion) (d : D) : Prop := ∃ q, k.toQuery c = .ok q ∧ I.holds q d

theorem admits_conjunction (qs : List Query) (d : D) :
    I.admits (Query.conjunction qs) d ↔ ∀ q ∈ qs, I.holds q d := by
  match qs with
  | [] => simp [admits, Query.conjunction]
  | [q] => simp [admits, Query.conjunction]
  | q :: q' :: rest =>
      simp only [admits, Query.conjunction, Option.mem_some_iff, forall_eq']
      exact I.holds_must q (q' :: rest) _ _ d

end Interpretation

/-! ## Readings from the leaves up -/

namespace Query

variable {D : Type u} (test : String → Condition → D → Prop) (d : D)

mutual

/-- The reading of a tree that a reading of its leaves gives: of the `should` clauses one is enough,
and a nested query is read as the query in it. -/
def HoldsBy : Query → Prop
  | leaf field c _ => test field c d
  | bool must should mustNot _ _ =>
    AllHoldBy must ∧ (should = [] ∨ SomeHoldsBy should) ∧ ¬ SomeHoldsBy mustNot
  | nested _ q _ _ => HoldsBy q
  | filtered none none _ => True
  | filtered (some q) none _ => HoldsBy q
  | filtered none (some f) _ => HoldsBy f
  | filtered (some q) (some f) _ => HoldsBy q ∧ HoldsBy f

def AllHoldBy : List Query → Prop
  | [] => True
  | q :: rest => HoldsBy q ∧ AllHoldBy rest

def SomeHoldsBy : List Query → Prop
  | [] => False
  | q :: rest => HoldsBy q ∨ SomeHoldsBy rest

end

theorem allHoldBy_iff {qs : List Query} : AllHoldBy test d qs ↔ ∀ q ∈ qs, HoldsBy test d q := by
  induction qs with
  | nil => simp [AllHoldBy]
  | cons q qs ih => simp only [AllHoldBy, ih, List.forall_mem_cons]

theorem someHoldsBy_iff {qs : List Query} :
    SomeHoldsBy test d qs ↔ ∃ q ∈ qs, HoldsBy test d q := by
  induction qs with
  | nil => simp [SomeHoldsBy]
  | cons q qs ih => simp only [SomeHoldsBy, ih, List.mem_cons, exists_eq_or_imp]

end Query

/-- The interpretation that a reading of leaves gives. -/
def Interpretation.ofTest {D : Type u} (test : String → Condition → D → Prop) :
    Interpretation D where
  holds q d := q.HoldsBy test d
  holds_must q qs minimum l d := by
    simp only [Query.HoldsBy, Query.SomeHoldsBy, Query.allHoldBy_iff, true_or, not_false_eq_true,
      and_true]

end FacetedSearch
