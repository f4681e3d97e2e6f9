import FacetedSearch.Proofs.Query.Scalar
import FacetedSearch.Proofs.Query.Validity

/-!
# Lists of values without repetitions

A query for one of several values keeps the first occurrence of each value, in the order of the
list. Values are equal only within their kind, and numbers as numbers.
-/

namespace FacetedSearch

namespace Scalar

/-! ## Equal values -/

/-- Values are equal if they are the same and no NaN, or the two zeros. -/
inductive Equals : Scalar → Scalar → Prop
  | bool {b} : Equals (bool b) (bool b)
  | integer {n} : Equals (integer n) (integer n)
  | text {s} : Equals (text s) (text s)
  | float {x : Binary64} : x.isNaN = false → Equals (float x) (float x)
  | zeros {x y : Binary64} : x.magnitude = 0 → y.magnitude = 0 → Equals (float x) (float y)

variable {vs : List Scalar} {u v w : Scalar}

theorem Equals.refl (h : ∀ x, v = Scalar.float x → x.isNaN = false) : v.Equals v := by
  cases v with
  | bool b => exact .bool
  | integer n => exact .integer
  | text s => exact .text
  | float x => exact .float (h x rfl)

theorem Equals.symm (h : v.Equals w) : w.Equals v := by
  cases h with
  | bool => exact .bool
  | integer => exact .integer
  | text => exact .text
  | float hx => exact .float hx
  | zeros hx hy => exact .zeros hy hx

theorem isNaN_of_magnitude_eq_zero {x : Binary64} (h : x.magnitude = 0) : x.isNaN = false := by
  simp [Binary64.isNaN, h]

theorem Equals.same (h : v.Equals w) : v.same w = true := by
  cases h with
  | bool => simp [Scalar.same]
  | integer => simp [Scalar.same]
  | text => simp [Scalar.same]
  | float hx => simp [Scalar.same, Binary64.eqv, hx]
  | zeros hx hy =>
      simp [Scalar.same, Binary64.eqv, isNaN_of_magnitude_eq_zero hx, isNaN_of_magnitude_eq_zero hy,
        hx, hy]

theorem equals_of_eqv {x y : Binary64} (h : x.eqv y = true) : (float x).Equals (float y) := by
  simp only [Binary64.eqv, Bool.and_eq_true, Bool.or_eq_true, Bool.not_eq_true', beq_iff_eq] at h
  obtain ⟨⟨hx, _⟩, hbits | ⟨hx', hy'⟩⟩ := h
  · cases x
    cases y
    cases hbits
    exact .float hx
  · exact .zeros hx' hy'

theorem equals_of_same (h : v.same w = true) : v.Equals w := by
  cases v <;> cases w <;> simp only [Scalar.same, beq_iff_eq, Bool.false_eq_true] at h
  · rw [h]
    exact .bool
  · rw [h]
    exact .integer
  · exact equals_of_eqv h
  · rw [h]
    exact .text

theorem same_iff : v.same w = true ↔ v.Equals w := ⟨equals_of_same, Equals.same⟩

instance : DecidableRel Equals := fun _ _ => decidable_of_iff _ same_iff

/-! ## First occurrences -/

/-- A value is new at a position of a list if it equals none before that position. -/
def NewAt (values : List Scalar) (e : Scalar × Nat) : Prop :=
  ∀ w ∈ values.take e.2, ¬ w.Equals e.1

instance (values : List Scalar) : DecidablePred (NewAt values) := fun e =>
  inferInstanceAs (Decidable (∀ w ∈ values.take e.2, ¬ w.Equals e.1))

/-- The values of a list that are new where they stand. -/
def firsts (values : List Scalar) : List Scalar :=
  (values.zipIdx.filter (NewAt values)).map Prod.fst

/-- What comes later makes no value less new. -/
theorem newAt_concat {e : Scalar × Nat} (he : e ∈ vs.zipIdx) :
    NewAt (vs ++ [v]) e ↔ NewAt vs e := by
  obtain ⟨hlt, _⟩ := List.getElem?_eq_some_iff.mp (List.mem_zipIdx_iff_getElem?.mp he)
  rw [NewAt, NewAt, List.take_append_of_le_length (Nat.le_of_lt hlt)]

theorem newAt_last : NewAt (vs ++ [v]) (v, vs.length) ↔ ∀ w ∈ vs, ¬ w.Equals v := by
  rw [NewAt, List.take_left]

theorem firsts_concat (vs : List Scalar) (v : Scalar) :
    firsts (vs ++ [v]) = firsts vs ++ if ∀ w ∈ vs, ¬ w.Equals v then [v] else [] := by
  have hvs : vs.zipIdx.filter (NewAt (vs ++ [v])) = vs.zipIdx.filter (NewAt vs) :=
    List.filter_congr fun e he => decide_eq_decide.mpr (newAt_concat he)
  rw [firsts, List.zipIdx_append, List.filter_append, List.map_append, hvs, ← firsts,
    List.zipIdx_singleton, Nat.zero_add]
  congr 1
  by_cases hnew : ∀ w ∈ vs, ¬ w.Equals v
  · rw [if_pos hnew, List.filter_cons_of_pos (by simpa using newAt_last.mpr hnew)]
    rfl
  · rw [if_neg hnew, List.filter_cons_of_neg (by simpa using mt newAt_last.mp hnew)]
    rfl

/-- A value equals one that was kept if it equals one that was there. -/
theorem exists_equals_mem_distinct :
    (∃ w ∈ distinct vs, v.same w = true) ↔ ∃ w ∈ vs, w.Equals v := by
  constructor
  · rintro ⟨w, hw, hvw⟩
    exact ⟨w, mem_of_mem_distinct hw, (same_iff.mp hvw).symm⟩
  · rintro ⟨w, hw, hwv⟩
    obtain ⟨u, hu, rfl | hwu⟩ := exists_mem_distinct hw
    · exact ⟨u, hu, hwv.symm.same⟩
    · exact ⟨u, hu, by rw [← same_congr hwu]; exact hwv.symm.same⟩

theorem distinct_eq_firsts (vs : List Scalar) : distinct vs = firsts vs := by
  induction vs using List.reverseRecOn with
  | nil => rfl
  | append_singleton vs v ih =>
      rw [distinct_concat, firsts_concat, ← ih]
      by_cases hrepeated : ∃ w ∈ vs, w.Equals v
      · rw [if_pos (List.any_eq_true.mpr (exists_equals_mem_distinct.mpr hrepeated)),
          if_neg (by simpa using hrepeated), List.append_nil]
      · rw [if_neg fun h => hrepeated (exists_equals_mem_distinct.mp (List.any_eq_true.mp h)),
          if_pos (by simpa using hrepeated)]

theorem pairwise_distinct (vs : List Scalar) :
    (distinct vs).Pairwise fun v w => ¬ v.Equals w := by
  induction vs using List.reverseRecOn with
  | nil => exact .nil
  | append_singleton vs v ih =>
      rw [distinct_concat]
      split
      · exact ih
      · rename_i hnew
        refine List.pairwise_append.mpr ⟨ih, List.pairwise_singleton _ _, fun w hw u hu hwu => ?_⟩
        rw [List.mem_singleton.mp hu] at hwu
        exact hnew (List.any_eq_true.mpr ⟨w, hw, hwu.symm.same⟩)

/-- Where no value equals an earlier one, all are kept. -/
theorem distinct_of_pairwise (h : vs.Pairwise fun v w => ¬ v.Equals w) : distinct vs = vs := by
  induction vs using List.reverseRecOn with
  | nil => rfl
  | append_singleton vs v ih =>
      obtain ⟨hvs, _, hnew⟩ := List.pairwise_append.mp h
      rw [distinct_concat, ih hvs, if_neg]
      intro hany
      obtain ⟨w, hw, hvw⟩ := List.any_eq_true.mp hany
      exact hnew w hw v List.mem_cons_self (same_iff.mp hvw).symm

end Scalar

namespace Query

variable {field : String} {values : List Scalar}

theorem terms?_eq_ok {q : Query} : terms? field values = .ok q ↔
    Text.isBlank field = false ∧ values ≠ [] ∧
      q = .leaf field (.terms (Scalar.distinct values)) {} := by
  rw [terms?, leaf?_eq_ok, and_comm, ← and_assoc]
  refine and_congr_left fun hq => ?_
  rw [hq, checked_leaf, checkLeaf_eq_ok, Condition.Legal, ne_eq, Scalar.distinct_eq_nil]

/-- A query for one of several values is refused exactly if its field is blank or there is no value.
Else it is for the first occurrences: no two of them are equal, and each value equals one of them.
Made of these it is the same query. -/
theorem terms_keep_first_occurrences (field : String) (values : List Scalar)
    (hnumbers : ∀ x, Scalar.float x ∈ values → x.isNaN = false) :
    ((∃ fault, terms? field values = .error fault) ↔ Text.isBlank field = true ∨ values = []) ∧
    ∀ q, terms? field values = .ok q → ∃ kept, q = .leaf field (.terms kept) {} ∧
      kept = Scalar.firsts values ∧
      kept.Pairwise (fun v w => ¬ v.Equals w) ∧
      (∀ v ∈ values, ∃ w ∈ kept, v.Equals w) ∧
      terms? field kept = .ok q := by
  constructor
  · have hok : (∃ q, terms? field values = .ok q) ↔ Text.isBlank field = false ∧ values ≠ [] := by
      simp only [terms?_eq_ok, exists_and_left, exists_eq, and_true]
    have hfault : (∃ fault, terms? field values = .error fault) ↔
        ¬ ∃ q, terms? field values = .ok q := by
      cases terms? field values <;> simp
    rw [hfault, hok, not_and_or, Bool.not_eq_false, not_ne_iff]
  · intro q hq
    obtain ⟨hfield, hne, rfl⟩ := terms?_eq_ok.mp hq
    refine ⟨_, rfl, Scalar.distinct_eq_firsts values, Scalar.pairwise_distinct values,
      fun v hv => ?_, ?_⟩
    · have hrefl : v.Equals v := .refl fun x hx => hnumbers x (hx ▸ hv)
      obtain ⟨w, hw, hvw⟩ := Scalar.exists_equals_mem_distinct.mpr ⟨v, hv, hrefl⟩
      exact ⟨w, hw, Scalar.same_iff.mp hvw⟩
    · have hdistinct := Scalar.distinct_of_pairwise (Scalar.pairwise_distinct values)
      exact terms?_eq_ok.mpr ⟨hfield, mt Scalar.distinct_eq_nil.mp hne, by rw [hdistinct]⟩

/-- Of two zeros, two numbers one, a float and a text of that look, the second zero and the second
one go. -/
theorem terms_keep_first_zero_and_one :
    (∀ x, Scalar.float x ∈ [Scalar.float (.neg .zero), .integer 1, .float .one, .text "1",
        .float .zero, .integer 1] → x.isNaN = false) ∧
    ∃ q kept, terms? "size" [.float (.neg .zero), .integer 1, .float .one, .text "1", .float .zero,
        .integer 1] = .ok q ∧ q = .leaf "size" (.terms kept) {} ∧
      kept = [.float (.neg .zero), .integer 1, .float .one, .text "1"] ∧
      terms? "size" kept = .ok q := by
  have hnumbers : ∀ x, Scalar.float x ∈ [Scalar.float (.neg .zero), .integer 1, .float .one,
      .text "1", .float .zero, .integer 1] → x.isNaN = false := by
    intro x hx
    simp only [List.mem_cons, Scalar.float.injEq, reduceCtorEq, List.not_mem_nil, or_false,
      false_or] at hx
    rcases hx with rfl | rfl | rfl <;> decide +kernel
  refine ⟨hnumbers, ?_⟩
  obtain ⟨hrefused, hkept⟩ := terms_keep_first_occurrences "size" _ hnumbers
  cases hq : terms? "size" [.float (.neg .zero), .integer 1, .float .one, .text "1", .float .zero,
      .integer 1] with
  | error fault =>
      rcases hrefused.mp ⟨fault, hq⟩ with hblank | hnil
      · exact absurd hblank (by decide +kernel)
      · cases hnil
  | ok q =>
      obtain ⟨kept, hleaf, hfirsts, -, -, hagain⟩ := hkept q hq
      exact ⟨q, kept, rfl, hleaf, hfirsts.trans (by decide +kernel), hagain⟩

end Query

end FacetedSearch
