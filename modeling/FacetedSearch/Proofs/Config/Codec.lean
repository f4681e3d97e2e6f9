import FacetedSearch.Config.Basic
import FacetedSearch.Proofs.Query.Codec

/-!
# Configurations read back

What is written of a configuration whose numbers are all finite is read as that configuration.
-/

namespace FacetedSearch

open Json

attribute [local simp] Table.lookup_cons Record.ofEntries?_of_nodup Record.require Record.getD
  Record.optional Record.listD record? string? bool? nullable_string
  Atoms.strict_reads

/-! ## Fields -/

namespace FieldDefinition

def isFinite (d : FieldDefinition) : Bool := d.weight.isFinite

theorem ofJson?_toJson {d : FieldDefinition} (h : d.isFinite = true) :
    ofJson? .strict d.toJson = some d := by
  have htype : choice FieldType.ofName? (.string d.type.name) = some d.type :=
    d.type.ofName?_name
  have hlabels : Table.ofJson? (Table.ofJson? string?) (labelsToJson d.optionLabels) =
      some d.optionLabels :=
    Table.ofJson?_toJson fun _ _ => Table.ofJson?_toJson fun _ _ => rfl
  simp [toJson, ofJson?, memberNames, labelsOfJson?, htype, hlabels, finite?_float h]

end FieldDefinition

theorem SortOverride.ofJson?_toJson (o : SortOverride) : ofJson? .strict o.toJson = some o := by
  have htargets : Table.ofJson? string? (o.targets.toJson .string) = some o.targets :=
    Table.ofJson?_toJson fun _ _ => rfl
  simp [toJson, ofJson?, htargets]

theorem Catalog.ofJson?_toJson (c : Catalog) : ofJson? .strict c.toJson = some c := by
  obtain ⟨j, hj, hid⟩ := exists_written (uint64?_ofUInt64 c.id)
  rw [toJson, hj]
  simp [ofJson?, hid]

/-! ## Containers -/

namespace ContainerDefinition

def isFinite (d : ContainerDefinition) : Bool :=
  d.defaultFilters.all Query.isFinite && d.fields.all FieldDefinition.isFinite

theorem ofJson?_toJson {d : ContainerDefinition} (h : d.isFinite = true) :
    ofJson? .strict d.toJson = some d := by
  simp only [isFinite, Bool.and_eq_true, List.all_eq_true] at h
  have hcatalogs : listOf string? (.array (d.catalogs.map .string)) = some d.catalogs :=
    listOf_map fun _ _ => rfl
  have hfilters : listOf (Query.ofTagged? .strict) (.array (d.defaultFilters.map Query.toJson)) =
      some d.defaultFilters :=
    listOf_map fun q hq => Query.ofJson?_toJson (h.1 q hq)
  have hfields : listOf (FieldDefinition.ofJson? .strict)
      (.array (d.fields.map FieldDefinition.toJson)) = some d.fields :=
    listOf_map fun f hf => FieldDefinition.ofJson?_toJson (h.2 f hf)
  have hoverrides : listOf (SortOverride.ofJson? .strict)
      (.array (d.sortOverrides.map SortOverride.toJson)) = some d.sortOverrides :=
    listOf_map fun o _ => o.ofJson?_toJson
  simp [toJson, ofJson?, hcatalogs, hfilters, hfields, hoverrides]

end ContainerDefinition

/-! ## Settings -/

theorem LoggingSettings.ofJson?_toJson (s : LoggingSettings) :
    ofJson? .strict s.toJson = some s := by
  simp [toJson, ofJson?]

namespace SearchSettings

def isFinite (s : SearchSettings) : Bool := s.defaultHistogramInterval.isFinite

theorem ofJson?_toJson {s : SearchSettings} (h : s.isFinite = true) :
    ofJson? .strict s.toJson = some s := by
  have hmode : choice FacetFilterMode.ofName? (.string s.facetFilterMode.name) =
      some s.facetFilterMode := by
    cases s.facetFilterMode <;> rfl
  obtain ⟨j, hj, hsize⟩ := exists_written (uint32?_ofUInt32 s.defaultFacetSize)
  rw [toJson, hj]
  simp [ofJson?, finite?_float h, hmode, hsize]

end SearchSettings

namespace Config

def isFinite (c : Config) : Bool :=
  c.search.isFinite && c.containers.all ContainerDefinition.isFinite

theorem ofJson?_toJson {c : Config} (h : c.isFinite = true) :
    ofJson? .strict c.toJson = some c := by
  simp only [isFinite, Bool.and_eq_true, List.all_eq_true] at h
  have hcatalogs : listOf (Catalog.ofJson? .strict) (.array (c.catalogs.map Catalog.toJson)) =
      some c.catalogs := listOf_map fun k _ => k.ofJson?_toJson
  have hcontainers : listOf (ContainerDefinition.ofJson? .strict)
      (.array (c.containers.map ContainerDefinition.toJson)) = some c.containers :=
    listOf_map fun d hd => ContainerDefinition.ofJson?_toJson (h.2 d hd)
  obtain ⟨j, hj, hlogging⟩ := exists_written c.logging.ofJson?_toJson
  obtain ⟨j', hj', hsearch⟩ := exists_written (SearchSettings.ofJson?_toJson h.1)
  rw [toJson, hj, hj']
  simp [ofJson?, hlogging, hsearch, hcatalogs, hcontainers]

end Config

end FacetedSearch
