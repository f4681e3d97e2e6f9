import FacetedSearch.Query.Scalar
import Mathlib.Data.List.Induction

/-! Values that are the same, and what is left of a list once repeated values are dropped. -/

namespace FacetedSearch

/-- Equal numbers are either one number or the two zeros, and a number equals both zeros or none. -/
theorem Binary64.eqv_congr {x y : Binary64} (h : x.eqv y = true) (z : Binary64) :
    z.eqv x = z.eqv y := by
  have hzero : ∀ w : Binary64, w.magnitude = 0 →
      (z.eqv w = true ↔ z.isNaN = false ∧ w.isNaN = false ∧ z.magnitude = 0) := by
    intro w hw
    simp only [eqv, Bool.and_eq_true, Bool.or_eq_true, Bool.not_eq_true', beq_iff_eq, hw, and_true,
      and_assoc]
    refine and_congr_right fun _ => and_congr_right fun _ => or_iff_right_of_imp fun hbits => ?_
    rw [magnitude, hbits, ← magnitude, hw]
  simp only [eqv, Bool.and_eq_true, Bool.or_eq_true, Bool.not_eq_true', beq_iff_eq] at h
  obtain ⟨⟨hx, hy⟩, hbits | ⟨hx', hy'⟩⟩ := h
  · rw [eqv, eqv, hx, hy, magnitude, magnitude, magnitude, hbits]
  · rw [Bool.eq_iff_iff, hzero x hx', hzero y hy', hx, hy]

namespace Scalar

variable {vs : List Scalar} {v w : Scalar}

theorem same_congr (h : v.same w = true) (u : Scalar) : u.same v = u.same w := by
  cases v <;> cases w <;> simp only [same, beq_iff_eq, Bool.false_eq_true] at h
  · rw [h]
  · rw [h]
  · cases u with
    | float z => exact Binary64.eqv_congr h z
    | bool _ => rfl
    | integer _ => rfl
    | text _ => rfl
  · rw [h]

theorem distinct_concat (vs : List Scalar) (v : Scalar) : distinct (vs ++ [v]) =
    if (distinct vs).any (same v) then distinct vs else distinct vs ++ [v] := by
  simp only [distinct, List.foldl_append, List.foldl_cons, List.foldl_nil]
  rfl

theorem mem_of_mem_distinct (h : v ∈ distinct vs) : v ∈ vs := by
  induction vs using List.reverseRecOn with
  | nil => exact h
  | append_singleton vs w ih =>
      rw [distinct_concat] at h
      split at h
      · exact List.mem_append_left _ (ih h)
      · rcases List.mem_append.mp h with h | h
        · exact List.mem_append_left _ (ih h)
        · exact List.mem_append_right _ h

/-- What is dropped equals something that is kept. -/
theorem exists_mem_distinct (h : v ∈ vs) : ∃ w ∈ distinct vs, w = v ∨ v.same w = true := by
  induction vs using List.reverseRecOn with
  | nil => cases h
  | append_singleton vs u ih =>
      rw [distinct_concat]
      rcases List.mem_append.mp h with h | h
      · obtain ⟨w, hw, hvw⟩ := ih h
        refine ⟨w, ?_, hvw⟩
        split
        · exact hw
        · exact List.mem_append_left _ hw
      · obtain rfl := List.mem_singleton.mp h
        split
        · rename_i hrepeated
          obtain ⟨w, hw, hvw⟩ := List.any_eq_true.mp hrepeated
          exact ⟨w, hw, Or.inr hvw⟩
        · exact ⟨v, List.mem_append_right _ List.mem_cons_self, Or.inl rfl⟩

theorem distinct_eq_nil : distinct vs = [] ↔ vs = [] := by
  constructor
  · intro h
    refine List.eq_nil_iff_forall_not_mem.mpr fun v hv => ?_
    obtain ⟨w, hw, _⟩ := exists_mem_distinct hv
    rw [h] at hw
    cases hw
  · rintro rfl
    rfl

end Scalar

end FacetedSearch
