import FacetedSearch.Proofs.Outcome
import FacetedSearch.Query.Basic

/-! Trees that pass the check, and that what the checked constructors make of such trees passes too. -/

namespace FacetedSearch

/-- There is a bound, and there is at most one on each side. -/
structure Bounds.Legal (b : Bounds) : Prop where
  bounded : b.gt ≠ none ∨ b.gte ≠ none ∨ b.lt ≠ none ∨ b.lte ≠ none
  lower : b.gt = none ∨ b.gte = none
  upper : b.lt = none ∨ b.lte = none

theorem Bounds.check_eq_ok {b : Bounds} {field : String} : b.check field = .ok () ↔ b.Legal := by
  have hempty : b.isEmpty = false ↔ b.gt ≠ none ∨ b.gte ≠ none ∨ b.lt ≠ none ∨ b.lte ≠ none := by
    simp only [isEmpty, Bool.and_eq_false_iff, Option.isNone_eq_false_iff, Option.isSome_iff_ne_none,
      or_assoc]
  have hboth : ∀ x y : Option Scalar, (x.isSome && y.isSome) = false ↔ x = none ∨ y = none := by
    simp only [Bool.and_eq_false_iff, Option.isSome_eq_false_iff, Option.isNone_iff_eq_none,
      implies_true]
  constructor
  · intro h
    simp only [check] at h
    split at h
    · cases h
    · rename_i hbounded
      split at h
      · cases h
      · rename_i hlower
        split at h
        · cases h
        · rename_i hupper
          simp only [Bool.not_eq_true] at hbounded hlower hupper
          exact ⟨hempty.mp hbounded, (hboth _ _).mp hlower, (hboth _ _).mp hupper⟩
  · rintro ⟨hbounded, hlower, hupper⟩
    simp only [check, hempty.mpr hbounded, (hboth _ _).mpr hlower, (hboth _ _).mpr hupper,
      Bool.false_eq_true, if_false]

/-- A condition that says something. -/
def Condition.Legal : Condition → Prop
  | phrasePrefix text _ => text.isEmpty = false
  | range bounds => bounds.Legal
  | terms vs => vs ≠ []
  | _ => True

namespace Query

open Outcome

theorem checkLeaf_eq_ok {field : String} {c : Condition} :
    checkLeaf field c = .ok () ↔ Text.isBlank field = false ∧ c.Legal := by
  simp only [checkLeaf]
  split
  · rename_i hblank
    simp [hblank]
  · rename_i hblank
    simp only [Bool.not_eq_true] at hblank
    rw [and_iff_right hblank]
    cases c with
    | phrasePrefix text _ => simp [Condition.Legal]
    | range bounds => exact Bounds.check_eq_ok
    | terms vs => cases vs <;> simp [Condition.Legal]
    | textMatch _ _ _ => simp [Condition.Legal]
    | phrase _ => simp [Condition.Legal]
    | present => simp [Condition.Legal]
    | term _ => simp [Condition.Legal]

def Checked (q : Query) : Prop := q.check = .ok ()

theorem checkList_eq_ok {qs : List Query} : checkList qs = .ok () ↔ ∀ q ∈ qs, q.Checked := by
  induction qs with
  | nil => simp [checkList]
  | cons q qs ih => simp only [checkList, check_bind_eq_ok, ih, List.forall_mem_cons, Checked]

theorem checked_leaf {field : String} {c : Condition} {l : Label} :
    (leaf field c l).Checked ↔ checkLeaf field c = .ok () := by
  simp only [Checked, check]

theorem checked_bool {must should mustNot : List Query} {minimum : String} {l : Label} :
    (bool must should mustNot minimum l).Checked ↔
      (∀ q ∈ must, q.Checked) ∧ (∀ q ∈ should, q.Checked) ∧ ∀ q ∈ mustNot, q.Checked := by
  simp only [Checked, check, check_bind_eq_ok, checkList_eq_ok]

theorem checked_nested {path : String} {q : Query} {mode : ScoreMode} {l : Label} :
    (nested path q mode l).Checked ↔ Text.isBlank path = false ∧ q.Checked := by
  simp only [Checked, check]
  split <;> simp_all

theorem checked_filtered {q f : Option Query} {l : Label} :
    (filtered q f l).Checked ↔ (∀ x ∈ q, x.Checked) ∧ ∀ x ∈ f, x.Checked := by
  cases q <;> cases f <;> simp [Checked, check, check_bind_eq_ok]

theorem checked_withLabel {q : Query} {l : Label} : (q.withLabel l).Checked ↔ q.Checked := by
  cases q with
  | leaf _ _ _ => simp only [withLabel, checked_leaf]
  | bool _ _ _ _ _ => simp only [withLabel, checked_bool]
  | nested _ _ _ _ => simp only [withLabel, checked_nested]
  | filtered _ _ _ => simp only [withLabel, checked_filtered]

/-! ## Checked constructors -/

theorem leaf?_eq_ok {field : String} {c : Condition} {q : Query} :
    leaf? field c = .ok q ↔ q = leaf field c {} ∧ q.Checked := by
  simp only [leaf?, check_bind_eq_ok, Except.ok.injEq]
  constructor
  · rintro ⟨h, rfl⟩
    exact ⟨rfl, checked_leaf.mpr h⟩
  · rintro ⟨rfl, h⟩
    exact ⟨checked_leaf.mp h, rfl⟩

theorem bool?_eq_ok {must should mustNot : List Query} {q : Query}
    (h : bool? must should mustNot = .ok q) :
    q = bool must should mustNot defaultMinimumShouldMatch {} := by
  simp only [bool?] at h
  split at h
  · cases h
  · cases h; rfl

theorem nested?_eq_ok {path : String} {q r : Query} {mode : ScoreMode} :
    nested? path q mode = .ok r ↔ Text.isBlank path = false ∧ r = nested path q mode {} := by
  simp only [nested?]
  split
  · rename_i hp
    simp [hp]
  · rename_i hp
    simp only [hp, true_and, Except.ok.injEq]
    exact eq_comm

/-- A conjunction of checked queries is checked. -/
theorem checked_of_mem_conjunction {qs : List Query} (h : ∀ q ∈ qs, q.Checked) {r : Query}
    (hr : r ∈ conjunction qs) : r.Checked := by
  match qs with
  | [] => cases hr
  | [q] => cases hr; exact h _ List.mem_cons_self
  | q :: q' :: rest =>
      cases hr
      exact checked_bool.mpr ⟨h, by simp, by simp⟩

end Query

end FacetedSearch
