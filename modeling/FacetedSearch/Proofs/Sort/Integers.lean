import FacetedSearch.Proofs.Number.Integers
import FacetedSearch.Proofs.Sort.Stability

/-!
# Hits in the order of integers

Hits are compared by the binary fractions nearest to their integers. So they come in the order of
the integers except that integers with one nearest fraction stay as they stood, which happens only
beyond `2 ^ 53`.
-/

namespace FacetedSearch

open SortableHit

/-! ## Scalars of a document -/

namespace Json

/-- A scalar stands at a path of a document: the steps lead through objects, and an array on the way
holds what any of its items does. -/
inductive ScalarAt : List String → Json → Json → Prop
  | here {j v} : SortValue.ofJson? j = some v → ScalarAt [] j j
  | item {path items j leaf} : j ∈ items → ScalarAt path j leaf → ScalarAt path (.array items) leaf
  | member {step path members j leaf} : List.lookup step members = some j → ScalarAt path j leaf →
      ScalarAt (step :: path) (.object members) leaf

theorem holdsAt_iff {path : List String} {j : Json} {v : SortValue} :
    j.HoldsAt path v ↔ ∃ leaf, ScalarAt path j leaf ∧ SortValue.ofJson? leaf = some v := by
  constructor
  · intro h
    induction h with
    | scalar h => exact ⟨_, .here h, h⟩
    | item hj _ ih =>
        obtain ⟨leaf, hleaf, hv⟩ := ih
        exact ⟨leaf, .item hj hleaf, hv⟩
    | member hj _ ih =>
        obtain ⟨leaf, hleaf, hv⟩ := ih
        exact ⟨leaf, .member hj hleaf, hv⟩
  · rintro ⟨leaf, hleaf, hv⟩
    induction hleaf with
    | here => exact .scalar hv
    | item hj _ ih => exact .item hj (ih hv)
    | member hj _ ih => exact .member hj (ih hv)

end Json

namespace SortableHit

/-- The one scalar that a hit holds at the path of a field is an integer. -/
def HoldsInteger (hit : SortableHit) (field : String) (n : Int) : Prop :=
  ∀ leaf, hit.source.ScalarAt (Code.steps field) leaf ↔ leaf = .int n

theorem HoldsInteger.values {hit : SortableHit} {field : String} {n : Int}
    (h : hit.HoldsInteger field n) : hit.values field = {.number (Binary64.ofInt n)} := by
  ext v
  simp only [SortableHit.values, Set.mem_ofPred_eq, Json.holdsAt_iff, h _, exists_eq_left,
    SortValue.ofJson?, Option.some.injEq, Set.mem_singleton_iff, eq_comm]

end SortableHit

/-! ## Comparison -/

/-- The order of integers that a direction asks for. -/
def SortDirection.Sorts : SortDirection → Int → Int → Prop
  | .asc, m, n => m ≤ n
  | .desc, m, n => n ≤ m

namespace SortClause

variable {c : SortClause} (hscore : c.field ≠ scoreField) (hid : c.field ≠ idField)
  {a b : SortableHit} {m n : Int}

include hscore hid

theorem value?_of_holdsInteger (h : a.HoldsInteger c.field m) :
    c.value? a = some (.number (Binary64.ofInt m)) := by
  cases hv : c.value? a with
  | none =>
      have hnone := (value?_eq_none hscore hid).mp hv
      rw [h.values] at hnone
      exact absurd hnone (Set.singleton_ne_empty _)
  | some v =>
      have hmem : v ∈ a.values c.field := by
        have hcounts := countsBy_of_value? hscore hid hv
        unfold CountsBy at hcounts
        cases hd : c.direction <;> simp only [hd] at hcounts <;> exact hcounts.1
      rw [h.values] at hmem
      rw [Set.mem_singleton_iff.mp hmem]

theorem compareBy_integers (ha : a.HoldsInteger c.field m) (hb : b.HoldsInteger c.field n) :
    compareBy [c] a b = match c.direction with
      | .asc => (Binary64.ofInt m).totalCompare (Binary64.ofInt n)
      | .desc => ((Binary64.ofInt m).totalCompare (Binary64.ofInt n)).swap := by
  rw [compareBy_cons, compareHits, value?_of_holdsInteger hscore hid ha,
    value?_of_holdsInteger hscore hid hb]
  exact Ordering.then_eq

/-- Hits tie if their integers have one nearest fraction. -/
theorem ties_integers_iff (ha : a.HoldsInteger c.field m) (hb : b.HoldsInteger c.field n) :
    compareBy [c] a b = .eq ↔ Binary64.ofInt m = Binary64.ofInt n := by
  have htotal : (Binary64.ofInt m).totalCompare (Binary64.ofInt n) = .eq ↔
      Binary64.ofInt m = Binary64.ofInt n := by
    rw [Binary64.totalCompare, compare_eq_iff_eq]
    exact ⟨Binary64.orderKey_injective, congrArg Binary64.orderKey⟩
  rw [compareBy_integers hscore hid ha hb, ← htotal]
  cases c.direction with
  | asc => rfl
  | desc => exact Ordering.swap_eq_eq

/-- Of two hits that do not tie, the one that stands first has the integer that is to. -/
theorem ties_or_sorts (ha : a.HoldsInteger c.field m) (hb : b.HoldsInteger c.field n)
    (h : (compareBy [c] a b).isLE) :
    Binary64.ofInt m = Binary64.ofInt n ∨ c.direction.Sorts m n := by
  rw [compareBy_integers hscore hid ha hb] at h
  cases hd : c.direction with
  | asc =>
      rw [hd] at h
      exact Binary64.ofInt_eq_or_le (Int.isLE_compare.mp h)
  | desc =>
      simp only [hd, Ordering.isLE_swap] at h
      exact (Binary64.ofInt_eq_or_le (Int.isGE_compare.mp h)).imp_left Eq.symm

end SortClause

/-! ## Sorting -/

namespace SortClause

/-- Of two hits that hold integers, the first has the one that is to stand first. -/
def SortsIntegers (c : SortClause) (a b : SortableHit) : Prop :=
  ∀ m n, a.HoldsInteger c.field m → b.HoldsInteger c.field n → c.direction.Sorts m n

/-- The same if the two integers have one nearest fraction. -/
def SortsRounded (c : SortClause) (a b : SortableHit) : Prop :=
  ∀ m n, a.HoldsInteger c.field m → b.HoldsInteger c.field n →
    Binary64.ofInt m = Binary64.ofInt n → c.direction.Sorts m n

variable {c : SortClause} (hscore : c.field ≠ "_score") (hid : c.field ≠ "_id")
include hscore hid

theorem sortsRounded_iff (a b : SortableHit) :
    c.SortsRounded a b ↔ (compareBy [c] a b = .eq → c.SortsIntegers a b) := by
  constructor
  · intro h htie m n ha hb
    exact h m n ha hb ((ties_integers_iff hscore hid ha hb).mp htie)
  · intro h m n ha hb hsame
    exact h ((ties_integers_iff hscore hid ha hb).mpr hsame) m n ha hb

/-- Sorted by one clause on a field, hits stand in the order of the fractions nearest to their
integers. They stand in the order of the integers exactly if those with one nearest fraction did so
before, and so they do if no integer is beyond `2 ^ 53`. -/
theorem integers_in_order_iff (hits : List SortableHit) :
    ((order [c] hits).Pairwise fun a b => ∀ m n, a.HoldsInteger c.field m →
      b.HoldsInteger c.field n → Binary64.ofInt m = Binary64.ofInt n ∨ c.direction.Sorts m n) ∧
    ((order [c] hits).Pairwise c.SortsIntegers ↔ hits.Pairwise c.SortsRounded) ∧
    ((∀ hit ∈ hits, ∀ n, hit.HoldsInteger c.field n → n.natAbs ≤ 2 ^ 53) →
      (order [c] hits).Pairwise c.SortsIntegers) := by
  have hrounded : (order [c] hits).Pairwise fun a b => ∀ m n, a.HoldsInteger c.field m →
      b.HoldsInteger c.field n → Binary64.ofInt m = Binary64.ofInt n ∨ c.direction.Sorts m n :=
    (pairwise_order [c] hits).imp fun h m n ha hb => ties_or_sorts hscore hid ha hb h
  have hiff : (order [c] hits).Pairwise c.SortsIntegers ↔ hits.Pairwise c.SortsRounded := by
    -- Hits that tie stand as they stood, and the others are in order anyway.
    rw [List.Pairwise.iff (sortsRounded_iff hscore hid), ← pairwise_ties_order_iff]
    constructor
    · intro h
      exact h.imp fun {a b} hsorts (_ : compareBy [c] a b = .eq) => hsorts
    · intro h
      refine h.and hrounded |>.imp fun {a b} hboth m n ha hb => ?_
      obtain ⟨htied, hsorts⟩ := hboth
      rcases hsorts m n ha hb with hsame | hsorts
      · exact htied ((ties_integers_iff hscore hid ha hb).mpr hsame) m n ha hb
      · exact hsorts
  refine ⟨hrounded, hiff, fun hsmall => hiff.mpr ?_⟩
  refine List.pairwise_of_forall_mem_list fun a ha b hb m n hm hn hsame => ?_
  cases Binary64.ofInt_injective (hsmall a ha m hm) (hsmall b hb n hn) hsame
  cases c.direction <;> exact le_rfl

end SortClause

namespace Shop

def byNumber (direction : SortDirection) : SortClause where
  field := "number"
  key := "number"
  direction
  missing := some direction.missing

/-- A product with a number. -/
def withNumber (n : Int) : SortableHit where
  id := toString n
  score := .one
  source := .single "number" (.int n)

theorem holdsInteger_withNumber (n : Int) : (withNumber n).HoldsInteger "number" n := by
  have hsteps : Code.steps "number" = ["number"] := by decide +kernel
  intro leaf
  rw [hsteps]
  constructor
  · intro h
    cases h with
    | member hj h =>
        cases hj
        cases h
        rfl
  · rintro rfl
    exact .member rfl (.here rfl)

theorem eq_of_holdsInteger_withNumber {m n : Int} (h : (withNumber n).HoldsInteger "number" m) :
    m = n := by
  have hsame := (h (.int n)).mp ((holdsInteger_withNumber n (.int n)).mpr rfl)
  cases hsame
  rfl

/-- Up to `2 ^ 53` the greater number comes first in falling order. -/
theorem numbers_fall :
    (order [byNumber .desc] [withNumber (2 ^ 53 - 1), withNumber (-3), withNumber (2 ^ 53)]).Pairwise
      (byNumber .desc).SortsIntegers := by
  have hbound : ∀ n : Int, n.natAbs ≤ 2 ^ 53 →
      ∀ m, (withNumber n).HoldsInteger "number" m → m.natAbs ≤ 2 ^ 53 := by
    intro n hn m hm
    rwa [eq_of_holdsInteger_withNumber hm]
  obtain ⟨_, _, hsmall⟩ := SortClause.integers_in_order_iff (c := byNumber .desc) (by decide)
    (by decide) [withNumber (2 ^ 53 - 1), withNumber (-3), withNumber (2 ^ 53)]
  apply hsmall
  simp only [List.forall_mem_cons, List.not_mem_nil, false_implies, implies_true, and_true]
  exact ⟨hbound _ (by decide), hbound _ (by decide), hbound _ (by decide)⟩

/-- The number after `2 ^ 53` has the same nearest fraction, and so it stays before `2 ^ 53` in rising
order. -/
theorem neighbours_stay :
    order [byNumber .asc] [withNumber (2 ^ 53 + 1), withNumber (2 ^ 53)] =
      [withNumber (2 ^ 53 + 1), withNumber (2 ^ 53)] ∧
    (withNumber (2 ^ 53 + 1)).HoldsInteger "number" (2 ^ 53 + 1) ∧
    (withNumber (2 ^ 53)).HoldsInteger "number" (2 ^ 53) ∧
    ¬ (order [byNumber .asc] [withNumber (2 ^ 53 + 1), withNumber (2 ^ 53)]).Pairwise
      (byNumber .asc).SortsIntegers := by
  have horder : order [byNumber .asc] [withNumber (2 ^ 53 + 1), withNumber (2 ^ 53)] =
      [withNumber (2 ^ 53 + 1), withNumber (2 ^ 53)] := by
    refine List.mergeSort_of_pairwise (List.pairwise_pair.mpr ?_)
    decide +kernel
  refine ⟨horder, holdsInteger_withNumber _, holdsInteger_withNumber _, ?_⟩
  rw [horder, List.pairwise_pair]
  intro h
  have hle : (2 ^ 53 + 1 : Int) ≤ 2 ^ 53 :=
    h _ _ (holdsInteger_withNumber _) (holdsInteger_withNumber _)
  exact absurd hle (by decide)

end Shop

end FacetedSearch
