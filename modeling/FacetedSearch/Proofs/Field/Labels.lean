import FacetedSearch.Proofs.Field.Code
import FacetedSearch.Proofs.Json.Parts

/-!
# What is shown of a field

A facet is shown under the label of its field and in the way of the field's type, and a value of it
under the label that is declared for the value in the catalog. Where nothing is declared, the field
is called after its code and the value is shown as it stands.
-/

namespace FacetedSearch

theorem Table.get?_eq_some_iff_mem {α : Type} {t : Table α} {key : String} {value : α} :
    t.get? key = some value ↔ (key, value) ∈ t.entries := by
  have hkeys : (t.entries.map (·.1)).Nodup := List.pairwise_map.mpr (t.sorted.imp String.ne_of_lt)
  exact Record.lookup_eq_some_iff_mem (Record.occurrences_le_one hkeys key)

/-- The label of a field: the one that is declared, or else the capitalized path of the object that
the field is in, or the capitalized code of a field that is in none. -/
inductive Field.HasTitle (f : Field) : String → Prop
  | declared {label} : f.label = some label → HasTitle f label
  | nested {path} : f.label = none → Code.NestedUnder f.code (some path) →
      HasTitle f (Text.capitalize path)
  | flat : f.label = none → Code.NestedUnder f.code none → HasTitle f (Text.capitalize f.code)

/-- The label of a value of a field in a catalog: the one that is declared for both, or else the
value itself. -/
inductive Field.HasOptionLabel (f : Field) (catalog value : String) : String → Prop
  | declared {labels label} : (catalog, labels) ∈ f.optionLabels.entries →
      (value, label) ∈ labels.entries → HasOptionLabel f catalog value label
  | plain : (∀ labels label, (catalog, labels) ∈ f.optionLabels.entries →
      (value, label) ∉ labels.entries) → HasOptionLabel f catalog value value

/-- How a facet on a type is shown: categories as such, numbers by a slider, all else by boxes to
check. -/
inductive FieldType.ShownAs : FieldType → FacetType → Prop
  | category : ShownAs .category .category
  | slider {t} : t.isNumeric = true → ShownAs t .slider
  | checkbox {t} : t ≠ .category → t.isNumeric = false → ShownAs t .checkbox

namespace Field

variable {f : Field} {catalog value label : String}

theorem hasTitle_iff : f.HasTitle label ↔ f.title = label := by
  constructor
  · intro h
    cases h with
    | declared hlabel => rw [title, hlabel, Option.getD_some]
    | nested hlabel hpath =>
        have hnested : f.nestedPath = some _ := Code.nestedUnder_iff.mp hpath
        rw [title, hlabel, Option.getD_none, defaultLabel, hnested, Option.getD_some]
    | flat hlabel hpath =>
        have hnested : f.nestedPath = none := Code.nestedUnder_iff.mp hpath
        rw [title, hlabel, Option.getD_none, defaultLabel, hnested, Option.getD_none]
  · rintro rfl
    rw [title]
    cases hlabel : f.label with
    | some label => exact .declared hlabel
    | none =>
        have hpath := f.nestedUnder
        rw [Option.getD_none, defaultLabel]
        cases hnested : f.nestedPath with
        | some path => exact .nested hlabel (hnested ▸ hpath)
        | none => exact .flat hlabel (hnested ▸ hpath)

theorem optionLabel?_eq_some : f.optionLabel? catalog value = some label ↔
    ∃ labels, (catalog, labels) ∈ f.optionLabels.entries ∧ (value, label) ∈ labels.entries := by
  simp only [optionLabel?, Option.bind_eq_some_iff, Table.get?_eq_some_iff_mem]

theorem hasOptionLabel_iff :
    f.HasOptionLabel catalog value label ↔ (f.optionLabel? catalog value).getD value = label := by
  constructor
  · intro h
    cases h with
    | declared hlabels hlabel =>
        rw [optionLabel?_eq_some.mpr ⟨_, hlabels, hlabel⟩, Option.getD_some]
    | plain hnone =>
        have hlabel : f.optionLabel? catalog value = none := by
          rw [Option.eq_none_iff_forall_ne_some]
          intro label h
          obtain ⟨labels, hlabels, hmem⟩ := optionLabel?_eq_some.mp h
          exact hnone labels label hlabels hmem
        rw [hlabel, Option.getD_none]
  · rintro rfl
    cases h : f.optionLabel? catalog value with
    | some label =>
        obtain ⟨labels, hlabels, hlabel⟩ := optionLabel?_eq_some.mp h
        exact .declared hlabels hlabel
    | none =>
        refine .plain fun labels label hlabels hlabel => ?_
        cases h.symm.trans (optionLabel?_eq_some.mpr ⟨labels, hlabels, hlabel⟩)

end Field

theorem FieldType.shownAs_iff {t : FieldType} {shown : FacetType} :
    t.ShownAs shown ↔ t.facetType = shown := by
  constructor
  · intro h
    cases h with
    | category => rfl
    | slider hnumeric =>
        have hcategory : t ≠ .category := by
          rintro rfl
          cases hnumeric
        rw [facetType, if_neg hcategory, if_pos hnumeric]
    | checkbox hcategory hnumeric => simp [facetType, hcategory, hnumeric]
  · rintro rfl
    by_cases hcategory : t = .category
    · rw [hcategory]
      exact .category
    · cases hnumeric : t.isNumeric with
      | true => simpa [facetType, hcategory, hnumeric] using ShownAs.slider hnumeric
      | false => simpa [facetType, hcategory, hnumeric] using ShownAs.checkbox hcategory hnumeric

end FacetedSearch
