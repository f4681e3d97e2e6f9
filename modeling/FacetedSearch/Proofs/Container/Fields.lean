import FacetedSearch.Proofs.Field.Code
import FacetedSearch.Proofs.Request.Session
import Mathlib.Data.List.Nodup

/-!
# Fields under their names

A field is found under its code and under its key as long as no field declared after it takes the
name over. A valid configuration declares no code twice, but it may declare two codes of one key,
and then one of the two fields cannot be reached.
-/

namespace FacetedSearch

open Outcome

/-! ## Declared codes -/

namespace Config

theorem checkFields_eq_ok {container : String} {seen : List String} {ds : List FieldDefinition} :
    checkFields container seen ds = .ok () ↔ (∀ d ∈ ds, Text.isBlank d.code = false) ∧
      (∀ d ∈ ds, d.code ∉ seen) ∧ (ds.map (·.code)).Nodup := by
  induction ds generalizing seen with
  | nil => simp [checkFields]
  | cons d ds ih =>
      simp only [checkFields, List.forall_mem_cons, List.map_cons, List.nodup_cons]
      split
      · rename_i hblank
        simp [hblank]
      · rename_i hblank
        simp only [Bool.not_eq_true] at hblank
        split
        · rename_i hseen
          simp only [List.contains_iff_mem] at hseen
          simp [hseen]
        · rename_i hseen
          simp only [List.contains_iff_mem] at hseen
          simp only [ih, List.mem_cons, not_or, forall₂_and, List.mem_map, not_exists, not_and]
          constructor
          · rintro ⟨hds, ⟨hne, hfresh⟩, hnodup⟩
            exact ⟨⟨hblank, hds⟩, ⟨hseen, hfresh⟩, hne, hnodup⟩
          · rintro ⟨⟨_, hds⟩, ⟨_, hfresh⟩, hne, hnodup⟩
            exact ⟨hds, ⟨hne, hfresh⟩, hnodup⟩

theorem Declares.nodup_codes {c : Config} (hc : c.check = .ok ()) {name : String} {k : Container}
    (hk : c.Declares name k) : (k.fields.map (·.code)).Nodup := by
  obtain ⟨d, hd, _, hr⟩ := hk
  obtain ⟨_, hfields, _⟩ := checks_of_mem_containers hc hd
  obtain ⟨_, _, hnodup⟩ := checkFields_eq_ok.mp hfields
  rw [hr.codes_eq]
  exact hnodup

end Config

/-! ## Looking up -/

namespace Container

variable {c : Container} {f : Field} {before after : List Field} {reference : String}

/-- A field that a reference names is found unless a later field is named by it too. -/
theorem field?_eq_some_iff (hc : c.fields = before ++ f :: after) (hf : f ∉ after)
    (hname : f.code = reference ∨ f.key = reference) :
    c.field? reference = some f ↔ ∀ g ∈ after, g.code ≠ reference ∧ g.key ≠ reference := by
  have hreverse : c.fields.reverse = after.reverse ++ f :: before.reverse := by simp [hc]
  rw [field?, hreverse, find?_eq_some_iff_before (by simpa using hf) (by simpa using hname)]
  simp

variable (hnodup : (c.fields.map (·.code)).Nodup)
include hnodup

theorem code_ne_of_mem_after (hc : c.fields = before ++ f :: after) :
    ∀ g ∈ after, g.code ≠ f.code := by
  rw [hc, List.map_append, List.map_cons, List.nodup_middle, List.nodup_cons] at hnodup
  obtain ⟨hfresh, _⟩ := hnodup
  intro g hg he
  exact hfresh (List.mem_append_right _ (he ▸ List.mem_map_of_mem hg))

theorem field?_code_eq_some_iff (hc : c.fields = before ++ f :: after) :
    c.field? f.code = some f ↔ ∀ g ∈ after, g.key ≠ f.code := by
  have hcode := code_ne_of_mem_after hnodup hc
  rw [field?_eq_some_iff hc (fun hf => hcode f hf rfl) (Or.inl rfl)]
  exact forall₂_congr fun g hg => and_iff_right (hcode g hg)

/-- A later field whose code is the key has the key for its own, and so only keys are compared. -/
theorem field?_key_eq_some_iff (hc : c.fields = before ++ f :: after) :
    c.field? f.key = some f ↔ ∀ g ∈ after, g.key ≠ f.key := by
  have hcode := code_ne_of_mem_after hnodup hc
  rw [field?_eq_some_iff hc (fun hf => hcode f hf rfl) (Or.inr rfl)]
  refine forall₂_congr fun g _ => and_iff_right_of_imp fun hkey hcode => hkey ?_
  rw [Field.key, hcode, Field.flatten_key]

/-- All fields are found under both names exactly if no two of them share a key. -/
theorem field?_names_iff : (∀ f ∈ c.fields, c.field? f.code = some f ∧ c.field? f.key = some f) ↔
    (c.fields.map Field.key).Nodup := by
  constructor
  · intro h
    refine hnodup.of_map.map_on fun f hf g hg hkey => ?_
    obtain ⟨_, hf⟩ := h f hf
    obtain ⟨_, hg⟩ := h g hg
    rw [hkey, hg] at hf
    cases hf
    rfl
  · intro hkeys f hf
    obtain ⟨before, after, hc⟩ := List.append_of_mem hf
    rw [hc, List.map_append, List.map_cons, List.nodup_middle, List.nodup_cons] at hkeys
    obtain ⟨hfresh, _⟩ := hkeys
    have hkey : ∀ g ∈ after, g.key ≠ f.key := by
      intro g hg he
      exact hfresh (List.mem_append_right _ (he ▸ List.mem_map_of_mem hg))
    refine ⟨(field?_code_eq_some_iff hnodup hc).mpr fun g hg he => hkey g hg ?_,
      (field?_key_eq_some_iff hnodup hc).mpr hkey⟩
    rw [← g.flatten_key, he, Field.key]

omit hnodup in
/-- Where no two fields share a key, a field is found under whatever names it. -/
theorem field?_eq_some_iff_names (hkeys : (c.fields.map Field.key).Nodup) :
    c.field? reference = some f ↔ f ∈ c.fields ∧ (f.code = reference ∨ f.key = reference) := by
  constructor
  · intro h
    exact ⟨field?_mem h, field?_names h⟩
  · rintro ⟨hf, hname⟩
    have hcodes : (c.fields.map (·.code)).Nodup := by
      refine List.Nodup.of_map Code.flatten ?_
      rwa [List.map_map]
    obtain ⟨hcode, hkey⟩ := (field?_names_iff hcodes).mpr hkeys f hf
    rcases hname with rfl | rfl
    · exact hcode
    · exact hkey

end Container

/-- In a container of a valid configuration each field is found under its own code unless a later
field has it for its key, and under its own key unless a later field has the same; none is lost
exactly if no two fields share a key. -/
theorem Builder.Serves.fields_under_own_names {c : Config} {b : Builder} (hb : b.Serves c)
    {catalog name : String} {k : Container} (hk : (b.resolve catalog name).1 = .ok k) :
    (∀ before f after, k.fields = before ++ f :: after →
      (k.field? f.code = some f ↔ ∀ g ∈ after, g.key ≠ f.code) ∧
      (k.field? f.key = some f ↔ ∀ g ∈ after, g.key ≠ f.key)) ∧
    ((∀ f ∈ k.fields, k.field? f.code = some f ∧ k.field? f.key = some f) ↔
      (k.fields.map Field.key).Nodup) := by
  have h := hb.sound
  have hnodup := (h.declares hk).nodup_codes h.valid
  refine ⟨fun before f after hc => ⟨?_, ?_⟩, ?_⟩
  · exact Container.field?_code_eq_some_iff hnodup hc
  · exact Container.field?_key_eq_some_iff hnodup hc
  · exact Container.field?_names_iff hnodup

namespace Shop

/-- All fields of the shop's products are found under both of their names. -/
theorem fields_found : ∃ k, (config.builder.resolve "fr" "product").1 = .ok k ∧
    k.fields.length = 3 ∧
    ∀ f ∈ k.fields, k.field? f.code = some f ∧ k.field? f.key = some f := by
  obtain ⟨k, hk, hlength, hkeys⟩ : ∃ k, (config.builder.resolve "fr" "product").1 = .ok k ∧
      k.fields.length = 3 ∧ k.fields.map Field.key = ["name", "color", "price__price"] := by
    refine ⟨_, rfl, rfl, ?_⟩
    decide +kernel
  refine ⟨k, hk, hlength, (serves.fields_under_own_names hk).2.mpr ?_⟩
  rw [hkeys]
  decide

/-- Sizes once as a plain field and once as a field of a nested object, whose codes have one key. -/
def sizes : Config := { config with
  containers := [{ product with
    fields := [{ code := "size__eu", type := .keyword }, { code := "size.eu", type := .select }] }] }

/-- The configuration is valid, and the field that is declared first is not found under its own
code, nor under its key. -/
theorem size_taken_over : sizes.check = .ok () ∧ ∃ k f,
    (sizes.builder.resolve "fr" "product").1 = .ok k ∧ f ∈ k.fields ∧ f.code = "size__eu" ∧
      (k.field? f.code).map (·.code) = some "size.eu" ∧
      (k.field? f.key).map (·.code) = some "size.eu" := by
  refine ⟨rfl, _, _, rfl, List.mem_cons_self, rfl, ?_, ?_⟩
  · decide +kernel
  · decide +kernel

end Shop

end FacetedSearch
