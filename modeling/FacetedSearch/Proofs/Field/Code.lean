import FacetedSearch.Field.Basic
import Mathlib.Data.List.TakeWhile

/-! Flattened codes have no points, and a field lies under the part of its code before the first one. -/

namespace FacetedSearch

namespace Code

theorem point_not_mem_flattenChars (cs : List Char) : '.' ∉ flattenChars cs := by
  induction cs with
  | nil => simp [flattenChars]
  | cons c cs ih =>
      simp only [flattenChars]
      split
      · simpa using ih
      · rename_i hc
        simp only [List.mem_cons, not_or]
        exact ⟨Ne.symm hc, ih⟩

theorem flattenChars_of_no_point {cs : List Char} (h : '.' ∉ cs) : flattenChars cs = cs := by
  induction cs with
  | nil => rfl
  | cons c cs ih =>
      simp only [List.mem_cons, not_or] at h
      simp only [flattenChars, if_neg (Ne.symm h.1), ih h.2]

theorem flatten_flatten (code : String) : flatten (flatten code) = flatten code := by
  have h := flattenChars_of_no_point (point_not_mem_flattenChars code.toList)
  simp only [flatten, String.toList_ofList, h]

/-! ## Spellings -/

/-- A code that is declared may be written as it stands or flattened. -/
inductive Respelled (declared : String → Prop) : String → String → Prop
  | same {reference} : Respelled declared reference reference
  | flattened {code} : declared code → Respelled declared code (flatten code)
  | dotted {code} : declared code → Respelled declared (flatten code) code

/-- What has no two underscores in a row after flattening had no point before. -/
theorem flattenChars_eq_self {cs : List Char} (h : ¬ ['_', '_'] <:+: flattenChars cs) :
    flattenChars cs = cs := by
  induction cs with
  | nil => rfl
  | cons c cs ih =>
      simp only [flattenChars] at h ⊢
      split
      · rename_i hc
        rw [if_pos hc] at h
        exact absurd (List.prefix_append ['_', '_'] _).isInfix h
      · rename_i hc
        rw [if_neg hc] at h
        rw [ih fun hcs => h (List.infix_cons hcs)]

theorem flatten_eq_iff {code key : String} (h : ¬ ['_', '_'] <:+: key.toList)
    (hkey : '.' ∉ key.toList) : flatten code = key ↔ code = key := by
  constructor
  · rintro rfl
    rw [flatten, String.toList_ofList] at h
    rw [flatten, flattenChars_eq_self h, String.ofList_toList]
  · rintro rfl
    rw [flatten, flattenChars_of_no_point hkey, String.ofList_toList]

/-! ## Nested paths -/

/-- What a code is nested under: nothing if it has no point, else the part before its first point. -/
def NestedUnder (code : String) : Option String → Prop
  | none => '.' ∉ code.toList
  | some path => '.' ∉ path.toList ∧ ∃ rest, code = path ++ "." ++ rest

theorem split?_of_no_point {code : String} (h : '.' ∉ code.toList) : split? code = none := by
  have hdrop : code.toList.dropWhile (· != '.') = [] := by
    rw [List.dropWhile_eq_nil_iff]
    intro c hc
    simpa using fun he : c = '.' => h (he ▸ hc)
  simp only [split?, hdrop]

theorem split?_append {path rest : String} (h : '.' ∉ path.toList) :
    split? (path ++ "." ++ rest) = some (path, rest) := by
  have hpath : ∀ c ∈ path.toList, (c != '.') = true := by
    intro c hc
    simpa using fun he : c = '.' => h (he ▸ hc)
  have hcode : (path ++ "." ++ rest).toList = path.toList ++ '.' :: rest.toList := by simp
  have hdrop : (path ++ "." ++ rest).toList.dropWhile (· != '.') = '.' :: rest.toList := by
    rw [hcode, List.dropWhile_append_of_pos hpath]
    simp
  have htake : (path ++ "." ++ rest).toList.takeWhile (· != '.') = path.toList := by
    rw [hcode, List.takeWhile_append_of_pos hpath]
    simp
  simp only [split?, hdrop, htake, String.ofList_toList]

theorem nestedUnder_iff {code : String} {path : Option String} :
    NestedUnder code path ↔ (split? code).map (·.1) = path := by
  constructor
  · intro h
    cases path with
    | none => rw [split?_of_no_point h, Option.map_none]
    | some path =>
        obtain ⟨hpath, rest, rfl⟩ := h
        rw [split?_append hpath, Option.map_some]
  · rintro rfl
    by_cases h : '.' ∈ code.toList
    · obtain ⟨path, rest, hcode, hpath⟩ := List.eq_append_cons_of_mem h
      have hsplit : code = String.ofList path ++ "." ++ String.ofList rest := by
        apply String.toList_inj.mp
        simp [hcode]
      have hpath' : '.' ∉ (String.ofList path).toList := by simpa using hpath
      rw [hsplit, split?_append hpath']
      exact ⟨hpath', _, rfl⟩
    · rw [split?_of_no_point h]
      exact h

end Code

theorem Field.flatten_key (f : Field) : Code.flatten f.key = f.key := Code.flatten_flatten f.code

theorem Field.nestedUnder (f : Field) : Code.NestedUnder f.code f.nestedPath :=
  Code.nestedUnder_iff.mpr rfl

end FacetedSearch
