import FacetedSearch.Sort.Hits
import Mathlib.Order.Bounds.Basic
import Mathlib.Data.String.Basic

/-!
# The values that documents are ordered by

The values of a document at a path are the scalars found there, through arrays at any level. They
are in one total order, and the least and the greatest of several are so in that order.
-/

namespace FacetedSearch

namespace SortValue

/-! ## Order -/

/-- Booleans come before numbers and numbers before texts. -/
inductive Le : SortValue → SortValue → Prop
  | bool {a b} : a ≤ b → Le (bool a) (bool b)
  | number {x y : Binary64} : x.orderKey ≤ y.orderKey → Le (number x) (number y)
  | text {s t} : s ≤ t → Le (text s) (text t)
  | boolNumber {a x} : Le (bool a) (number x)
  | boolText {a s} : Le (bool a) (text s)
  | numberText {x s} : Le (number x) (text s)

instance : Preorder SortValue where
  le := Le
  le_refl v := by
    cases v with
    | bool a => exact .bool le_rfl
    | number x => exact .number le_rfl
    | text s => exact .text le_rfl
  le_trans u v w huv hvw := by
    -- Two values of one kind are compared as such, and else the kinds decide.
    cases huv <;> cases hvw <;> constructor
    all_goals exact le_trans ‹_› ‹_›

theorem isLE_compare {v w : SortValue} : (v.compare w).isLE ↔ v ≤ w := by
  have hlinear : ∀ {α : Type} [LinearOrder α] {a b : α}, (Ord.compare a b).isLE ↔ a ≤ b := by
    intro α _ a b
    rw [← compare_le_iff_le, Ordering.isLE_iff_ne_gt]
  constructor
  · intro h
    cases v with
    | bool a =>
        cases w with
        | bool b => exact .bool (hlinear.mp h)
        | number y => exact .boolNumber
        | text t => exact .boolText
    | number x =>
        cases w with
        | bool b => cases h
        | number y => exact .number (hlinear.mp h)
        | text t => exact .numberText
    | text s =>
        cases w with
        | bool b => cases h
        | number y => cases h
        | text t => exact .text (hlinear.mp h)
  · intro h
    cases h with
    | bool h => exact hlinear.mpr h
    | number h => exact hlinear.mpr h
    | text h => exact hlinear.mpr h
    | _ => rfl

instance : Std.TransCmp SortValue.compare where
  eq_swap {v w} := by
    cases v <;> cases w <;> first | rfl | exact Std.OrientedOrd.eq_swap
  isLE_trans := by
    simp only [isLE_compare]
    exact le_trans

theorem compare_swap (v w : SortValue) : (v.compare w).swap = w.compare v :=
  Std.OrientedCmp.eq_swap.symm

theorem le_of_isLT {v w : SortValue} (h : (v.compare w).isLT = true) : v ≤ w := by
  rw [← isLE_compare]
  cases hc : v.compare w <;> simp_all

theorem ge_of_not_isLT {v w : SortValue} (h : ¬ (v.compare w).isLT = true) : w ≤ v := by
  rw [← isLE_compare, ← compare_swap]
  cases hc : v.compare w <;> simp_all

/-! ## The least and the greatest -/

/-- What is picked out of a list, two at a time, is one of the list and stands to all the others as
each pick stands to both. -/
theorem foldl_pick {α : Type} {r : α → α → Prop} [Std.Refl r] [IsTrans α r] {pick : α → α → α}
    (hone : ∀ m w, pick m w = m ∨ pick m w = w) (hboth : ∀ m w, r (pick m w) m ∧ r (pick m w) w)
    (m : α) (ws : List α) : ws.foldl pick m ∈ m :: ws ∧ ∀ w ∈ m :: ws, r (ws.foldl pick m) w := by
  induction ws generalizing m with
  | nil => simpa using refl_of r m
  | cons w ws ih =>
      obtain ⟨hmem, hall⟩ := ih (pick m w)
      obtain ⟨hpick, hrest⟩ := List.forall_mem_cons.mp hall
      simp only [List.foldl_cons]
      constructor
      · rcases List.mem_cons.mp hmem with h | h
        · rw [h]
          rcases hone m w with h | h <;> simp [h]
        · simp [h]
      · simp only [List.forall_mem_cons]
        exact ⟨trans_of r hpick (hboth m w).1, trans_of r hpick (hboth m w).2, hrest⟩

theorem least?_eq_none {vs : List SortValue} : least? vs = none ↔ vs = [] := by
  cases vs <;> simp [least?]

theorem greatest?_eq_none {vs : List SortValue} : greatest? vs = none ↔ vs = [] := by
  cases vs <;> simp [greatest?]

theorem isLeast_of_least? {vs : List SortValue} {v : SortValue} (h : least? vs = some v) :
    IsLeast {w | w ∈ vs} v := by
  cases vs with
  | nil => cases h
  | cons m ws =>
      cases h
      refine foldl_pick (r := (· ≤ ·)) (fun m w => ?_) (fun m w => ?_) m ws
      · split <;> simp
      · split
        · rename_i hlt
          exact ⟨le_of_isLT hlt, le_rfl⟩
        · rename_i hlt
          exact ⟨le_rfl, ge_of_not_isLT hlt⟩

theorem isGreatest_of_greatest? {vs : List SortValue} {v : SortValue} (h : greatest? vs = some v) :
    IsGreatest {w | w ∈ vs} v := by
  cases vs with
  | nil => cases h
  | cons m ws =>
      cases h
      refine foldl_pick (r := (· ≥ ·)) (fun m w => ?_) (fun m w => ?_) m ws
      · split <;> simp
      · split
        · rename_i hlt
          exact ⟨le_rfl, le_of_isLT hlt⟩
        · rename_i hlt
          exact ⟨ge_of_not_isLT hlt, le_rfl⟩

end SortValue

/-! ## Documents -/

namespace Json

/-- A document holds a scalar at a path: the steps lead through objects, and an array on the way
holds what any of its items does. -/
inductive HoldsAt : List String → Json → SortValue → Prop
  | scalar {j v} : SortValue.ofJson? j = some v → HoldsAt [] j v
  | item {path items j v} : j ∈ items → HoldsAt path j v → HoldsAt path (.array items) v
  | member {step path members j v} : List.lookup step members = some j → HoldsAt path j v →
      HoldsAt (step :: path) (.object members) v

variable {path : List String} {v : SortValue}

theorem holdsAt_array {items : List Json} :
    HoldsAt path (.array items) v ↔ ∃ j ∈ items, HoldsAt path j v := by
  constructor
  · intro h
    cases h with
    | scalar h => cases h
    | item hj h => exact ⟨_, hj, h⟩
  · rintro ⟨j, hj, h⟩
    exact .item hj h

theorem holdsAt_object {step : String} {members : Members} :
    HoldsAt (step :: path) (.object members) v ↔
      ∃ j, members.lookup step = some j ∧ HoldsAt path j v := by
  constructor
  · intro h
    cases h with
    | member hj h => exact ⟨_, hj, h⟩
  · rintro ⟨j, hj, h⟩
    exact .member hj h

theorem holdsAt_nil {j : Json} (harray : j.array? = none) :
    HoldsAt [] j v ↔ SortValue.ofJson? j = some v := by
  constructor
  · intro h
    cases h with
    | scalar h => exact h
    | item => cases harray
  · exact .scalar

theorem not_holdsAt_cons {step : String} {j : Json} (harray : j.array? = none)
    (hobject : j.object? = none) : ¬ HoldsAt (step :: path) j v := by
  intro h
  cases h with
  | item => cases harray
  | member => cases hobject

end Json

namespace SortValue

open Json

variable {v : SortValue}

mutual

theorem mem_allAt : (path : List String) → (j : Json) → (v ∈ allAt path j ↔ j.HoldsAt path v)
  | path, .array items => by
      simp only [allAt, holdsAt_array]
      exact mem_allAtList path items
  | step :: path, .object members => by
      simp only [allAt, holdsAt_object]
      exact mem_allAtMember step path members
  | [], .null | [], .bool _ | [], .int _ | [], .float _ | [], .string _ | [], .object _ => by
      rw [holdsAt_nil (by rfl)]
      simp only [allAt, Option.mem_toList]
  | _ :: _, .null | _ :: _, .bool _ | _ :: _, .int _ | _ :: _, .float _ | _ :: _, .string _ =>
      iff_of_false (by simp [allAt]) (not_holdsAt_cons rfl rfl)

theorem mem_allAtList : (path : List String) → (items : List Json) →
    (v ∈ allAtList path items ↔ ∃ j ∈ items, j.HoldsAt path v)
  | _, [] => by simp [allAtList]
  | path, j :: items => by
      simp only [allAtList, List.mem_append, List.mem_cons, exists_eq_or_imp, mem_allAt path j,
        mem_allAtList path items]

theorem mem_allAtMember : (step : String) → (path : List String) → (members : Members) →
    (v ∈ allAtMember step path members ↔ ∃ j, members.lookup step = some j ∧ j.HoldsAt path v)
  | _, _, [] => by simp [allAtMember]
  | step, path, (k, j) :: members => by
      simp only [allAtMember, Table.lookup_cons]
      by_cases h : k = step
      · simp [h, mem_allAt path j]
      · simp [h, Ne.symm h, mem_allAtMember step path members]

end

end SortValue

end FacetedSearch
