import FacetedSearch.Request.Response
import Mathlib.Algebra.Order.Floor.Div
import Mathlib.Order.Bounds.Basic
import Mathlib.Order.Interval.Set.Defs

/-!
# Pages

Pages part the positions of a result: each position is on one page, the current page of a request
that starts there. Words of 64 bits hold the numbers of all pages, but for a start at the last word
with one document a page.
-/

namespace FacetedSearch.Pagination

/-! ## Exact arithmetic -/

/-- The page that a position is on, counted from one. -/
def pageOf (size position : Nat) : Nat := if size = 0 then 1 else position / size + 1

/-- The number of pages of a result, of which there is always one. -/
def pageCount (size total : Nat) : Nat := if size = 0 then 1 else max (total ⌈/⌉ size) 1

/-- The positions on a page. -/
def positions (size page : Nat) : Set Nat := Set.Ico ((page - 1) * size) (page * size)

section

variable {size : Nat} (hsize : 0 < size)

include hsize

theorem pageOf_eq (position : Nat) : pageOf size position = position / size + 1 :=
  if_neg (Nat.ne_of_gt hsize)

theorem pageCount_eq (total : Nat) : pageCount size total = max (total ⌈/⌉ size) 1 :=
  if_neg (Nat.ne_of_gt hsize)

theorem mem_positions_iff {page position : Nat} :
    position ∈ positions size page ↔ page = pageOf size position := by
  rw [positions, Set.mem_Ico, pageOf_eq hsize]
  cases page with
  | zero => simp
  | succ n =>
      rw [Nat.add_sub_cancel, ← Nat.le_div_iff_mul_le hsize, ← Nat.div_lt_iff_lt_mul hsize]
      omega

theorem pageCount_le_iff {total k : Nat} : pageCount size total ≤ k ↔ 1 ≤ k ∧ total ≤ k * size := by
  rw [pageCount_eq hsize, Nat.max_le, ceilDiv_le_iff_le_mul hsize, Nat.mul_comm, and_comm]

theorem isLeast_pageCount (total : Nat) :
    IsLeast {k | 1 ≤ k ∧ total ≤ k * size} (pageCount size total) := by
  constructor
  · exact (pageCount_le_iff hsize).mp le_rfl
  · intro k hk
    exact (pageCount_le_iff hsize).mpr hk

/-- The page of a position is there if something stands before the page after it, or if it is the
first. -/
theorem pageOf_le_pageCount_iff {position total : Nat} :
    pageOf size position ≤ pageCount size total ↔
      position / size * size < total ∨ total = 0 ∧ position < size := by
  have hfirst : position / size = 0 ↔ position < size := Nat.div_eq_zero_iff_lt hsize
  rw [pageOf_eq hsize, Nat.succ_le_iff, ← Nat.not_le, pageCount_le_iff hsize]
  by_cases hposition : position < size
  · rw [hfirst.mpr hposition, Nat.zero_mul]
    omega
  · have hpositive : 1 ≤ position / size := Nat.pos_of_ne_zero (mt hfirst.mp hposition)
    simp only [hpositive, hposition, true_and, and_false, or_false, Nat.not_le]

theorem pageOf_le_pageCount {position total : Nat} (h : position < total) :
    pageOf size position ≤ pageCount size total :=
  (pageOf_le_pageCount_iff hsize).mpr (Or.inl (Nat.lt_of_le_of_lt (Nat.div_mul_le_self _ _) h))

theorem ceilDiv_eq (total : Nat) :
    total ⌈/⌉ size = if total % size = 0 then total / size else total / size + 1 := by
  refine eq_of_forall_ge_iff fun k => ?_
  rw [ceilDiv_le_iff_le_mul hsize]
  split
  · rename_i hwhole
    have hmul : size * (total / size) = total := Nat.mul_div_cancel' (Nat.dvd_of_mod_eq_zero hwhole)
    calc total ≤ size * k ↔ size * (total / size) ≤ size * k := by rw [hmul]
      _ ↔ total / size ≤ k := Nat.mul_le_mul_left_iff hsize
  · rename_i hrest
    have hne : total ≠ k * size := by
      rintro rfl
      exact hrest (Nat.mul_mod_left k size)
    rw [Nat.succ_le_iff, Nat.div_lt_iff_lt_mul hsize, Nat.mul_comm]
    omega

end

/-! ## Words -/

variable {start size total : UInt64}

/-- The quotient of two words is the last word only if it is divided by one. -/
theorem toNat_div_add_one (h : ¬ (start.toNat = 2 ^ 64 - 1 ∧ size.toNat = 1)) :
    (start / size + 1).toNat = start.toNat / size.toNat + 1 := by
  have hstart := start.toNat_lt
  have hquotient : start.toNat / size.toNat + 1 < 2 ^ 64 := by
    rcases Nat.lt_or_ge size.toNat 2 with hlt | hge
    · have hsize : size.toNat = 0 ∨ size.toNat = 1 := by omega
      rcases hsize with hzero | hone
      · simp [hzero]
      · rw [hone, Nat.div_one]
        omega
    · have hhalf := Nat.div_le_div_left (a := start.toNat) hge Nat.two_pos
      omega
  rw [UInt64.toNat_add, UInt64.toNat_div]
  exact Nat.mod_eq_of_lt hquotient

theorem toNat_pages (hsize : 0 < size.toNat) :
    (pages total size).toNat = total.toNat ⌈/⌉ size.toNat := by
  have hwhole : total % size = 0 ↔ total.toNat % size.toNat = 0 := by
    rw [← UInt64.toNat_inj, UInt64.toNat_mod]
    rfl
  rw [pages, ceilDiv_eq hsize]
  by_cases hrest : total.toNat % size.toNat = 0
  · rw [if_pos (hwhole.mpr hrest), if_pos hrest, UInt64.toNat_div]
  · have hone : size.toNat ≠ 1 := by
      intro hone
      rw [hone, Nat.mod_one] at hrest
      exact hrest rfl
    rw [if_neg (mt hwhole.mp hrest), if_neg hrest]
    exact toNat_div_add_one fun h => hone h.2

theorem toNat_currentPage (h : ¬ (start.toNat = 2 ^ 64 - 1 ∧ size.toNat = 1)) :
    (of start size total).currentPage.toNat = pageOf size.toNat start.toNat := by
  by_cases hsize : size = 0
  · simp [of, pageOf, hsize]
  · have hne : size.toNat ≠ 0 := fun h => hsize (UInt64.toNat_inj.mp h)
    simp only [of, pageOf, if_neg hsize, if_neg hne]
    exact toNat_div_add_one h

theorem toNat_lastPage :
    (of start size total).lastPage.toNat = pageCount size.toNat total.toNat := by
  by_cases hsize : size = 0
  · simp [of, pageCount, hsize]
  · have hne : size.toNat ≠ 0 := fun h => hsize (UInt64.toNat_inj.mp h)
    simp only [of, pageCount, if_neg hsize, if_neg hne, UInt64.toNat_max,
      toNat_pages (Nat.pos_of_ne_zero hne)]
    rfl

/-- The pages of a result are computed without overflow. The current page holds the start, the last
page is the first that the result fits up to, and each position of the result is on just one page,
the current page of a request that starts there. -/
theorem pages_part_positions (start size total : UInt64)
    (h : ¬ (start.toNat = 2 ^ 64 - 1 ∧ size.toNat = 1)) :
    let p := of start size total
    p.pageSize = size ∧ p.totalCount = total ∧
    p.currentPage.toNat = pageOf size.toNat start.toNat ∧
    p.lastPage.toNat = pageCount size.toNat total.toNat ∧
    (0 < size.toNat →
      (p.currentPage.toNat - 1) * size.toNat ≤ start.toNat ∧
      start.toNat < p.currentPage.toNat * size.toNat ∧
      IsLeast {k | 1 ≤ k ∧ total.toNat ≤ k * size.toNat} p.lastPage.toNat ∧
      (∀ i : UInt64, i < total → ∀ page,
        (1 ≤ page ∧ page ≤ p.lastPage.toNat ∧ i.toNat ∈ positions size.toNat page) ↔
          page = (of i size total).currentPage.toNat) ∧
      (p.currentPage ≤ p.lastPage ↔
        start.toNat / size.toNat * size.toNat < total.toNat ∨ total = 0 ∧ start < size)) := by
  intro p
  have hcurrent : p.currentPage.toNat = pageOf size.toNat start.toNat := toNat_currentPage h
  have hlast : p.lastPage.toNat = pageCount size.toNat total.toNat := toNat_lastPage
  have hfields : p.pageSize = size ∧ p.totalCount = total := by
    by_cases hsize : size = 0 <;> simp [p, of, hsize]
  refine ⟨hfields.1, hfields.2, hcurrent, hlast, fun hsize => ?_⟩
  obtain ⟨hge, hlt⟩ := (mem_positions_iff hsize).mpr hcurrent
  refine ⟨hge, hlt, hlast ▸ isLeast_pageCount hsize _, fun i hi page => ?_, ?_⟩
  · have hi' : i.toNat < total.toNat := UInt64.lt_iff_toNat_lt.mp hi
    have htotal := total.toNat_lt
    have hpage : (of i size total).currentPage.toNat = pageOf size.toNat i.toNat :=
      toNat_currentPage fun hmax => by omega
    rw [hpage, hlast, mem_positions_iff hsize]
    constructor
    · rintro ⟨_, _, hon⟩
      exact hon
    · rintro rfl
      refine ⟨?_, pageOf_le_pageCount hsize hi', rfl⟩
      rw [pageOf_eq hsize]
      exact Nat.succ_pos _
  · rw [UInt64.le_iff_toNat_le, hcurrent, hlast, pageOf_le_pageCount_iff hsize,
      UInt64.lt_iff_toNat_lt, ← UInt64.toNat_inj]
    rfl

/-- By tens, the last position that a word counts is on the last page and on no other. -/
theorem last_word_on_last_page :
    let p := of 18446744073709551615 10 18446744073709551615
    ¬ ((18446744073709551615 : UInt64).toNat = 2 ^ 64 - 1 ∧ (10 : UInt64).toNat = 1) ∧
    p.lastPage.toNat = 1844674407370955162 ∧
    (p.currentPage ≤ p.lastPage ↔
      (18446744073709551615 : UInt64).toNat / (10 : UInt64).toNat * (10 : UInt64).toNat <
        (18446744073709551615 : UInt64).toNat ∨
      (18446744073709551615 : UInt64) = 0 ∧ (18446744073709551615 : UInt64) < 10) ∧
    ∀ page, (1 ≤ page ∧ page ≤ p.lastPage.toNat ∧
      (18446744073709551614 : UInt64).toNat ∈ positions (10 : UInt64).toNat page) ↔
        page = (of 18446744073709551614 10 18446744073709551615).currentPage.toNat := by
  intro p
  have h : ¬ ((18446744073709551615 : UInt64).toNat = 2 ^ 64 - 1 ∧ (10 : UInt64).toNat = 1) := by
    decide
  obtain ⟨_, _, _, _, hpages⟩ := pages_part_positions _ _ 18446744073709551615 h
  obtain ⟨_, _, _, honly, hseen⟩ := hpages (by decide)
  exact ⟨h, by decide +kernel, hseen, honly 18446744073709551614 (by decide)⟩

end FacetedSearch.Pagination
