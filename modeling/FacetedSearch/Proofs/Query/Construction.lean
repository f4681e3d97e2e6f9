import FacetedSearch.Proofs.Query.Subtree
import FacetedSearch.Proofs.Query.Validity

/-!
# How valid trees are made

A tree passes the check exactly if each query in it makes sense by itself, and whatever the checked
constructors make of each other's trees passes it, with anything set on it that can be set.
-/

namespace FacetedSearch.Query

open Outcome

/-! ## Query by query -/

/-- A query that makes sense by itself, whatever is below it. -/
inductive MakesSense : Query → Prop
  | leaf {field c l} : Text.isBlank field = false → c.Legal → MakesSense (.leaf field c l)
  | bool {must should mustNot minimum l} : MakesSense (.bool must should mustNot minimum l)
  | nested {path q mode l} : Text.isBlank path = false → MakesSense (.nested path q mode l)
  | filtered {q f l} : MakesSense (.filtered q f l)

theorem checked_iff_children {q : Query} :
    q.Checked ↔ q.MakesSense ∧ ∀ c ∈ q.children, c.Checked := by
  cases q with
  | leaf field c l =>
      rw [checked_leaf, checkLeaf_eq_ok]
      constructor
      · rintro ⟨hfield, hc⟩
        exact ⟨.leaf hfield hc, by simp [children]⟩
      · rintro ⟨hself, _⟩
        cases hself with
        | leaf hfield hc => exact ⟨hfield, hc⟩
  | bool must should mustNot minimum l =>
      simp only [checked_bool, children, List.forall_mem_append, and_assoc]
      exact (and_iff_right MakesSense.bool).symm
  | nested path q mode l =>
      simp only [checked_nested, children, List.forall_mem_singleton]
      constructor
      · rintro ⟨hpath, hq⟩
        exact ⟨.nested hpath, hq⟩
      · rintro ⟨hself, hq⟩
        cases hself with
        | nested hpath => exact ⟨hpath, hq⟩
  | filtered q f l =>
      simp only [checked_filtered, children, List.forall_mem_append, Option.mem_toList]
      exact (and_iff_right MakesSense.filtered).symm

theorem checked_iff {q : Query} : q.Checked ↔ ∀ p, q.Contains p → p.MakesSense := by
  induction q using induction_children with
  | step q ih =>
      rw [checked_iff_children, forall_contains_iff]
      exact and_congr_right fun _ => forall₂_congr ih

/-! ## Construction by construction -/

/-- Nothing that can be set on a query is checked. -/
theorem checked_set {q : Query} {s : Setting} : (q.set s).Checked ↔ q.Checked := by
  cases s with
  | name _ => exact checked_withLabel
  | boost _ => exact checked_withLabel
  | minimumShouldMatch minimum =>
      simp only [set]
      split
      · simp only [checked_bool]
      · simp only [checked_leaf, checkLeaf_eq_ok, Condition.Legal]
      · rfl
  | analyzer analyzer =>
      simp only [set]
      split
      · simp only [checked_leaf, checkLeaf_eq_ok, Condition.Legal]
      · rfl
  | maxExpansions count =>
      simp only [set]
      split
      · simp only [checked_leaf, checkLeaf_eq_ok, Condition.Legal]
      · rfl
  | scoreMode mode =>
      simp only [set]
      split
      · simp only [checked_nested]
      · rfl

/-- The trees that are made by the checked constructors, by the combination of no clauses, by
splitting a query from its filter, and by conjunction, of trees that are made so themselves, and
then set up in any way. -/
inductive Built : Query → Prop
  | leaf {field c q} : leaf? field c = .ok q → Built q
  | terms {field values q} : terms? field values = .ok q → Built q
  | bool {must should mustNot q} : (∀ p ∈ must, Built p) → (∀ p ∈ should, Built p) →
      (∀ p ∈ mustNot, Built p) → bool? must should mustNot = .ok q → Built q
  | noClauses : Built (.bool [] [] [] defaultMinimumShouldMatch {})
  | nested {path p q} : Built p → nested? path p = .ok q → Built q
  | filtered {q f} : (∀ p ∈ q, Built p) → (∀ p ∈ f, Built p) → Built (.filtered q f {})
  | conjunction {qs q} : (∀ p ∈ qs, Built p) → conjunction qs = some q → Built q
  | set {q s} : Built q → Built (q.set s)

theorem Built.checked {q : Query} (h : q.Built) : q.Checked := by
  induction h with
  | leaf h => exact (leaf?_eq_ok.mp h).2
  | terms h => exact (leaf?_eq_ok.mp h).2
  | bool _ _ _ h ihmust ihshould ihmustNot =>
      rw [bool?_eq_ok h]
      exact checked_bool.mpr ⟨ihmust, ihshould, ihmustNot⟩
  | noClauses => exact checked_bool.mpr ⟨by simp, by simp, by simp⟩
  | nested _ h ih =>
      obtain ⟨hpath, rfl⟩ := nested?_eq_ok.mp h
      exact checked_nested.mpr ⟨hpath, ih⟩
  | filtered _ _ ihq ihf => exact checked_filtered.mpr ⟨ihq, ihf⟩
  | conjunction _ h ih => exact checked_of_mem_conjunction ih h
  | set _ ih => exact checked_set.mpr ih

/-- A tree is valid exactly if every query in it makes sense by itself, and else it is malformed;
every tree that is built is valid. -/
theorem valid_throughout (q : Query) :
    (q.validate = .ok () ↔ ∀ p, q.Contains p → p.MakesSense) ∧
    (∀ e, q.validate = .error e → ∃ fault, e = .malformedQuery fault) ∧
    (q.Built → q.validate = .ok ()) := by
  have hvalid : q.validate = .ok () ↔ q.Checked := mapError_eq_ok
  refine ⟨hvalid.trans checked_iff, fun e h => ?_, fun h => hvalid.mpr h.checked⟩
  obtain ⟨fault, _, rfl⟩ := mapError_eq_error.mp h
  exact ⟨fault, rfl⟩

def underFive : Query := .leaf "price.price" (.range { lt := some (.integer 5) }) {}

/-- One of several colors, or a low price that goes by a name. -/
def redOrCheap : Query :=
  .bool [] [.leaf "color" (.terms [.text "red", .text "rust"]) {},
    ((nested "price" underFive .none {}).set (.scoreMode .max)).set (.name "cheap")] []
    defaultMinimumShouldMatch {}

theorem built_redOrCheap : redOrCheap.Built := by
  have hred : terms? "color" [.text "red", .text "rust", .text "red"] =
      .ok (.leaf "color" (.terms [.text "red", .text "rust"]) {}) := rfl
  have hunder : leaf? "price.price" (.range { lt := some (.integer 5) }) = .ok underFive := rfl
  have hprice : nested? "price" underFive = .ok (.nested "price" underFive .none {}) := rfl
  have hcheap := (Built.nested (.leaf hunder) hprice).set (s := .scoreMode .max)
  have hshould := List.forall_mem_cons.mpr ⟨Built.terms hred,
    List.forall_mem_singleton.mpr (hcheap.set (s := .name "cheap"))⟩
  exact .bool (List.forall_mem_nil _) hshould (List.forall_mem_nil _) rfl

theorem redOrCheap_valid : redOrCheap.Built ∧ redOrCheap.validate = .ok () ∧
    ∀ p, redOrCheap.Contains p → p.MakesSense := by
  obtain ⟨hiff, _, hbuilt⟩ := valid_throughout redOrCheap
  have hvalid := hbuilt built_redOrCheap
  exact ⟨built_redOrCheap, hvalid, hiff.mp hvalid⟩

end FacetedSearch.Query
