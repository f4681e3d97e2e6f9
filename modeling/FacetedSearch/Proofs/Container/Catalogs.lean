import FacetedSearch.Proofs.Request.Session
import Mathlib.Data.List.Nodup

/-!
# Catalogs under their names

A catalog is found under its code and under its number as long as no catalog declared before it takes
the name over. A valid configuration repeats no code and no number, but the code of one catalog may
read as the number of another.
-/

namespace FacetedSearch

open Outcome

/-! ## Numbers as texts -/

namespace Numeral

theorem value_toDigits (n : Nat) : value (Nat.toDigits 10 n) = n := by
  have h : value (Nat.toDigits 10 n) = Nat.ofDigitChars 10 (Nat.toDigits 10 n) 0 := by
    simp only [value, Nat.ofDigitChars, Nat.mul_comm]
  rw [h, Nat.ofDigitChars_ten_toDigits]

theorem natural?_toDigits (n : Nat) : natural? (Nat.toDigits 10 n) = some n := by
  have hdigits : ∀ c ∈ Nat.toDigits 10 n, c.isDigit = true := fun c hc =>
    Nat.isDigit_of_mem_toDigits (by omega) (by omega) hc
  simp [natural?, value_toDigits, Nat.toDigits_ne_nil, List.all_eq_true.mpr hdigits]

/-- A number is read back from its decimal text. -/
theorem uint64?_toString (n : UInt64) : uint64? (toString n) = some n := by
  have htext : (toString n).toList = Nat.toDigits 10 n.toNat := Nat.toList_repr
  have hnatural := natural?_toDigits n.toNat
  obtain ⟨c, cs, hcs⟩ := List.exists_cons_of_ne_nil (@Nat.toDigits_ne_nil n.toNat 10)
  have hdigit : c.isDigit = true :=
    Nat.isDigit_of_mem_toDigits (by omega) (by omega) (hcs ▸ List.mem_cons_self)
  -- The text starts with a digit, and so has no sign.
  have hminus : c ≠ '-' := by rintro rfl; cases hdigit
  have hplus : c ≠ '+' := by rintro rfl; cases hdigit
  rw [hcs] at htext hnatural
  simp only [uint64?, htext]
  split
  · rename_i h
    cases h
    exact absurd rfl hminus
  · have hsign : sign (c :: cs) = (false, c :: cs) := by
      unfold sign
      split <;> simp_all
    rw [hsign, hnatural]
    simp [Option.filter, n.toNat_lt]

end Numeral

/-! ## Declared catalogs -/

namespace Config

theorem checkCatalogs_eq_ok {seen cs : List Catalog} : checkCatalogs seen cs = .ok () ↔
    (∀ c ∈ cs, Text.isBlank c.code = false) ∧
      (∀ c ∈ cs, ∀ d ∈ seen, d.id ≠ c.id ∧ d.code ≠ c.code) ∧
      cs.Pairwise fun d c => d.id ≠ c.id ∧ d.code ≠ c.code := by
  induction cs generalizing seen with
  | nil => simp [checkCatalogs]
  | cons c cs ih =>
      simp only [checkCatalogs, List.forall_mem_cons, List.pairwise_cons]
      split
      · rename_i hblank
        simp [hblank]
      · rename_i hblank
        simp only [Bool.not_eq_true] at hblank
        split
        · rename_i hid
          obtain ⟨d, hd, he⟩ : ∃ d ∈ seen, d.id = c.id := by simpa using hid
          simp only [reduceCtorEq, false_iff]
          exact fun h => (h.2.1.1 d hd).1 he
        · rename_i hid
          simp only [List.any_eq_true, beq_iff_eq, not_exists, not_and] at hid
          split
          · rename_i hcode
            obtain ⟨d, hd, he⟩ : ∃ d ∈ seen, d.code = c.code := by simpa using hcode
            simp only [reduceCtorEq, false_iff]
            exact fun h => (h.2.1.1 d hd).2 he
          · rename_i hcode
            simp only [List.any_eq_true, beq_iff_eq, not_exists, not_and] at hcode
            simp only [ih, List.forall_mem_cons]
            constructor
            · rintro ⟨hcs, hfresh, hpairs⟩
              exact ⟨⟨hblank, hcs⟩, ⟨fun d hd => ⟨hid d hd, hcode d hd⟩, fun e he => (hfresh e he).2⟩,
                fun e he => (hfresh e he).1, hpairs⟩
            · rintro ⟨⟨_, hcs⟩, ⟨_, hseen⟩, hc, hpairs⟩
              exact ⟨hcs, fun e he => ⟨hc e he, hseen e he⟩, hpairs⟩

theorem pairwise_catalogs {c : Config} (h : c.check = .ok ()) :
    c.catalogs.Pairwise fun a b => a.id ≠ b.id ∧ a.code ≠ b.code := by
  simp only [check, check_bind_eq_ok] at h
  exact (checkCatalogs_eq_ok.mp h.1).2.2

end Config

/-! ## Looking up -/

namespace Store

variable {s : Store} {c : Catalog} {before after : List Catalog} {identifier : String}

theorem catalog_eq_ok_iff_find? :
    s.catalog identifier = .ok c ↔ s.catalogs.find? (·.isNamed identifier) = some c := by
  simp only [catalog]
  split
  · rename_i hfind
    simp [hfind]
  · rename_i hfind
    simp [hfind]

/-- A catalog that an identifier names is found unless an earlier one is named by it too. -/
theorem catalog_eq_ok_iff (hs : s.catalogs = before ++ c :: after) (hc : c ∉ before)
    (hname : c.isNamed identifier = true) :
    s.catalog identifier = .ok c ↔ ∀ d ∈ before, d.isNamed identifier = false := by
  rw [catalog_eq_ok_iff_find?, hs, find?_eq_some_iff_before hc hname]

variable (hs : s.catalogs = before ++ c :: after)
  (hpairs : s.catalogs.Pairwise fun a b => a.id ≠ b.id ∧ a.code ≠ b.code)
include hs hpairs

theorem ne_of_mem_before : ∀ d ∈ before, d.id ≠ c.id ∧ d.code ≠ c.code := by
  rw [hs, List.pairwise_append] at hpairs
  exact fun d hd => hpairs.2.2 d hd c List.mem_cons_self

theorem catalog_code_eq_ok_iff :
    s.catalog c.code = .ok c ↔ ∀ d ∈ before, Numeral.uint64? c.code ≠ some d.id := by
  have hne := ne_of_mem_before hs hpairs
  rw [catalog_eq_ok_iff hs (fun hc => (hne c hc).1 rfl) (by simp [Catalog.isNamed])]
  refine forall₂_congr fun d hd => ?_
  simp [Catalog.isNamed, (hne d hd).2]

theorem catalog_number_eq_ok_iff :
    s.catalog (toString c.id) = .ok c ↔ ∀ d ∈ before, d.code ≠ toString c.id := by
  have hne := ne_of_mem_before hs hpairs
  rw [catalog_eq_ok_iff hs (fun hc => (hne c hc).1 rfl)
    (by simp [Catalog.isNamed, Numeral.uint64?_toString])]
  refine forall₂_congr fun d hd => ?_
  simp [Catalog.isNamed, Numeral.uint64?_toString, (hne d hd).1.symm]

end Store

/-- In the store of a valid configuration each catalog is found under its code unless the code reads
as the number of an earlier one, and under its number unless that is the code of an earlier one; all
are found under both exactly if neither is ever the case. -/
theorem Store.catalogs_under_own_names {config : Config} {s : Store}
    (hs : Store.ofConfig? config = .ok s) :
    (∀ before c after, config.catalogs = before ++ c :: after →
      (s.catalog c.code = .ok c ↔ ∀ d ∈ before, Numeral.uint64? c.code ≠ some d.id) ∧
      (s.catalog (toString c.id) = .ok c ↔ ∀ d ∈ before, d.code ≠ toString c.id)) ∧
    ((∀ c ∈ config.catalogs, s.catalog c.code = .ok c ∧ s.catalog (toString c.id) = .ok c) ↔
      config.catalogs.Pairwise fun d c =>
        Numeral.uint64? c.code ≠ some d.id ∧ d.code ≠ toString c.id) := by
  obtain ⟨hvalid, rfl⟩ := Store.ofConfig?_eq_ok.mp hs
  have hpairs := Config.pairwise_catalogs hvalid
  have hnames : ∀ before c after, config.catalogs = before ++ c :: after →
      (config.store.catalog c.code = .ok c ↔ ∀ d ∈ before, Numeral.uint64? c.code ≠ some d.id) ∧
      (config.store.catalog (toString c.id) = .ok c ↔ ∀ d ∈ before, d.code ≠ toString c.id) :=
    fun before c after hsplit =>
      ⟨catalog_code_eq_ok_iff hsplit hpairs, catalog_number_eq_ok_iff hsplit hpairs⟩
  refine ⟨hnames, fun h => ?_, fun h c hc => ?_⟩
  · rw [List.pairwise_iff_getElem]
    intro i j hi hj hij
    have hsplit : config.catalogs =
        config.catalogs.take j ++ config.catalogs[j] :: config.catalogs.drop (j + 1) := by
      rw [← List.drop_eq_getElem_cons hj, List.take_append_drop]
    have hmem : config.catalogs[i] ∈ config.catalogs.take j :=
      List.mem_take_iff_getElem.mpr ⟨i, by omega, rfl⟩
    obtain ⟨hcode, hnumber⟩ := hnames _ _ _ hsplit
    obtain ⟨hfound, hfound'⟩ := h _ (List.getElem_mem hj)
    exact ⟨hcode.mp hfound _ hmem, hnumber.mp hfound' _ hmem⟩
  · obtain ⟨before, after, hsplit⟩ := List.append_of_mem hc
    obtain ⟨hcode, hnumber⟩ := hnames _ _ _ hsplit
    rw [hsplit, List.pairwise_append] at h
    have hbefore := fun d hd => h.2.2 d hd c List.mem_cons_self
    exact ⟨hcode.mpr fun d hd => (hbefore d hd).1, hnumber.mpr fun d hd => (hbefore d hd).2⟩

namespace Shop

/-- A catalog whose code reads as the number of the other one, declared before it. -/
def codeBeforeNumber : Config := { config with
  catalogs := [{ id := 1, code := "02" }, { id := 2, code := "fr" }] }

/-- Both catalogs are found under both of their names. -/
theorem catalogs_found : ∃ s, Store.ofConfig? codeBeforeNumber = .ok s ∧
    ∀ c ∈ codeBeforeNumber.catalogs, s.catalog c.code = .ok c ∧ s.catalog (toString c.id) = .ok c := by
  obtain ⟨s, hs⟩ : ∃ s, Store.ofConfig? codeBeforeNumber = .ok s := ⟨_, rfl⟩
  refine ⟨s, hs, (Store.catalogs_under_own_names hs).2.mpr ?_⟩
  decide +kernel

/-- The same catalogs declared the other way round. -/
def numberBeforeCode : Config := { config with
  catalogs := [{ id := 2, code := "fr" }, { id := 1, code := "02" }] }

/-- The configuration is valid, and the code of one of its catalogs names the other. -/
theorem code_read_as_number : ∃ s, Store.ofConfig? numberBeforeCode = .ok s ∧
    { id := 1, code := "02" } ∈ numberBeforeCode.catalogs ∧
    s.catalog "02" = .ok { id := 2, code := "fr" } := by
  refine ⟨_, rfl, by decide, ?_⟩
  rfl

end Shop

end FacetedSearch
