import FacetedSearch.Proofs.Field.Code
import Mathlib.Data.Set.Function

/-!
# Codes read back from their flattened form

Flattening writes a pair of underscores for each point, and reading back takes the pairs from the
left. So a code comes back unless an underscore in it stands before another one or before a point:
there a pair is taken one place too early.
-/

namespace FacetedSearch.Code

variable {c d : Char} {cs : List Char}

/-! ## Character by character -/

theorem flattenChars_point (cs : List Char) :
    flattenChars ('.' :: cs) = '_' :: '_' :: flattenChars cs := if_pos rfl

theorem flattenChars_cons_of_ne (h : c ≠ '.') (cs : List Char) :
    flattenChars (c :: cs) = c :: flattenChars cs := if_neg h

theorem head?_flattenChars :
    (flattenChars cs).head? = some '_' ↔ cs.head? = some '_' ∨ cs.head? = some '.' := by
  cases cs with
  | nil => simp [flattenChars]
  | cons c cs =>
      by_cases hpoint : c = '.'
      · simp [hpoint, flattenChars_point]
      · simp [hpoint, flattenChars_cons_of_ne hpoint]

theorem unflattenChars_pair (cs : List Char) :
    unflattenChars ('_' :: '_' :: cs) = '.' :: unflattenChars cs := by
  simp [unflattenChars]

theorem unflattenChars_cons_of_ne (h : c ≠ '_') (cs : List Char) :
    unflattenChars (c :: cs) = c :: unflattenChars cs := by
  cases cs with
  | nil => rfl
  | cons d cs => simp [unflattenChars, h]

/-- An underscore that no other one follows stays. -/
theorem unflattenChars_underscore (h : cs.head? ≠ some '_') :
    unflattenChars ('_' :: cs) = '_' :: unflattenChars cs := by
  cases cs with
  | nil => rfl
  | cons d cs =>
      have hd : d ≠ '_' := by simpa using h
      simp [unflattenChars, hd]

/-! ## Codes without ambiguous underscores -/

/-- No underscore stands before another one or before a point. -/
def Plain (cs : List Char) : Prop := ¬ ['_', '_'] <:+: cs ∧ ¬ ['_', '.'] <:+: cs

theorem underscore_infix_cons :
    ['_', d] <:+: c :: cs ↔ (c = '_' ∧ cs.head? = some d) ∨ ['_', d] <:+: cs := by
  rw [List.infix_cons_iff, List.cons_prefix_cons, eq_comm]
  cases cs with
  | nil => simp
  | cons e cs => simp [List.cons_prefix_cons, eq_comm]

theorem plain_nil : Plain [] := by simp [Plain]

theorem plain_cons_of_ne (h : c ≠ '_') : Plain (c :: cs) ↔ Plain cs := by
  simp only [Plain, underscore_infix_cons, h, false_and, false_or]

theorem plain_underscore :
    Plain ('_' :: cs) ↔ (flattenChars cs).head? ≠ some '_' ∧ Plain cs := by
  simp only [Plain, underscore_infix_cons, true_and, not_or, ne_eq, head?_flattenChars]
  exact and_and_and_comm

theorem unflattenChars_flattenChars_iff : unflattenChars (flattenChars cs) = cs ↔ Plain cs := by
  induction cs with
  | nil => exact iff_of_true rfl plain_nil
  | cons c cs ih =>
      by_cases hpoint : c = '.'
      · subst hpoint
        rw [flattenChars_point, unflattenChars_pair, plain_cons_of_ne (by decide), ← ih,
          List.cons_inj_right]
      · rw [flattenChars_cons_of_ne hpoint]
        by_cases hunder : c = '_'
        · subst hunder
          rw [plain_underscore, ← ih]
          by_cases hhead : (flattenChars cs).head? = some '_'
          · -- The underscore is taken for the first of a pair, and a point is read for it.
            obtain ⟨rest, hrest⟩ := List.head?_eq_some_iff.mp hhead
            simp [hrest, unflattenChars_pair]
          · simp [unflattenChars_underscore hhead, hhead]
        · rw [unflattenChars_cons_of_ne hunder, plain_cons_of_ne hunder, ← ih, List.cons_inj_right]

theorem flattenChars_unflattenChars (cs : List Char) :
    flattenChars (unflattenChars cs) = flattenChars cs := by
  fun_induction unflattenChars cs with
  | case1 => rfl
  | case2 c => rfl
  | case3 c d rest hpair ih =>
      obtain ⟨rfl, rfl⟩ := hpair
      rw [flattenChars_point, flattenChars_cons_of_ne (by decide),
        flattenChars_cons_of_ne (by decide), ih]
  | case4 c d rest _ ih =>
      simp only [flattenChars] at ih ⊢
      rw [ih]

/-! ## Texts -/

theorem unflatten_flatten_iff {code : String} :
    unflatten (flatten code) = code ↔ Plain code.toList := by
  rw [← unflattenChars_flattenChars_iff, ← String.toList_inj]
  simp only [unflatten, flatten, String.toList_ofList]

theorem flatten_unflatten (key : String) : flatten (unflatten key) = flatten key := by
  simp only [unflatten, flatten, String.toList_ofList, flattenChars_unflattenChars]

theorem point_not_mem_flatten (code : String) : '.' ∉ (flatten code).toList := by
  simpa only [flatten, String.toList_ofList] using point_not_mem_flattenChars code.toList

/-- A code is read back from its flattened form exactly if no underscore in it stands before another
one or before a point, and of such codes no two have one form; what is read from any key has the
form of the key, and no form has a point. -/
theorem flattening_undone :
    (∀ code, unflatten (flatten code) = code ↔
      ¬ "__".toList <:+: code.toList ∧ ¬ "_.".toList <:+: code.toList) ∧
    (∀ key, flatten (unflatten key) = flatten key) ∧
    (∀ code, '.' ∉ (flatten code).toList) ∧
    Set.InjOn flatten
      {code | ¬ "__".toList <:+: code.toList ∧ ¬ "_.".toList <:+: code.toList} := by
  refine ⟨fun code => unflatten_flatten_iff, flatten_unflatten, point_not_mem_flatten, ?_⟩
  intro code hcode other hother h
  calc code = unflatten (flatten code) := (unflatten_flatten_iff.mpr hcode).symm
    _ = unflatten (flatten other) := by rw [h]
    _ = other := unflatten_flatten_iff.mpr hother

/-- Where an underscore stands before a point, the point and the underscore change places. -/
example : unflatten (flatten "size_.eu") = "size._eu" := by decide +kernel

end FacetedSearch.Code
