import FacetedSearch.Proofs.Container.Catalogs
import FacetedSearch.Proofs.Container.Fields

/-!
# What makes a configuration valid

The checks walk the declarations in their order and carry what they have seen. Together they ask
for nothing but conditions on each declaration, on each two of a kind, and on the catalogs that the
containers name.
-/

namespace FacetedSearch

open Outcome

/-- A container that may be declared beside the catalogs of some codes. -/
structure ContainerDefinition.Lawful (codes : List String) (d : ContainerDefinition) : Prop where
  name : Text.isBlank d.name = false
  entity : Text.isBlank d.entity = false
  catalogs : ∀ code ∈ d.catalogs, code ∈ codes
  fields : ∀ f ∈ d.fields, Text.isBlank f.code = false
  fields_distinct : d.fields.Pairwise fun f g => f.code ≠ g.code
  defaultFilters : ∀ q ∈ d.defaultFilters, q.validate = .ok ()

/-- A configuration whose declarations are in order, each by itself and each beside the others. -/
structure Config.Lawful (c : Config) : Prop where
  catalogs : ∀ catalog ∈ c.catalogs, Text.isBlank catalog.code = false
  ids_distinct : c.catalogs.Pairwise fun a b => a.id ≠ b.id
  codes_distinct : c.catalogs.Pairwise fun a b => a.code ≠ b.code
  containers : ∀ d ∈ c.containers, d.Lawful (c.catalogs.map (·.code))
  names_distinct : c.containers.Pairwise fun d e => d.name ≠ e.name
  interval : c.search.defaultHistogramInterval.isPositive = true

namespace Config

theorem checkAvailability_eq_ok {d : ContainerDefinition} {codes : List String} :
    checkAvailability d codes = .ok () ↔ ∀ code ∈ d.catalogs, code ∈ codes := by
  simp only [checkAvailability]
  split
  · rename_i code hfind
    have hunknown : code ∉ codes := by simpa using List.find?_some hfind
    simp only [reduceCtorEq, false_iff]
    exact fun h => hunknown (h code (List.mem_of_find?_eq_some hfind))
  · rename_i hfind
    simpa using hfind

theorem checkFilters_eq_ok {container : String} {filters : List Query} :
    checkFilters container filters = .ok () ↔ ∀ q ∈ filters, q.validate = .ok () := by
  simp only [checkFilters, mapError_eq_ok, Query.checkList_eq_ok, Query.validate, Query.Checked]

theorem checkSearch_eq_ok {s : SearchSettings} (h : s.defaultHistogramInterval.isNaN = false) :
    checkSearch s = .ok () ↔ s.defaultHistogramInterval.isPositive = true := by
  simp [checkSearch, h]

theorem checkContainer_eq_ok {d : ContainerDefinition} {codes : List String} :
    (Text.isBlank d.name = false ∧ Text.isBlank d.entity = false ∧
      checkAvailability d codes = .ok () ∧ checkFields d.name [] d.fields = .ok () ∧
      checkFilters d.name d.defaultFilters = .ok ()) ↔ d.Lawful codes := by
  simp only [checkAvailability_eq_ok, checkFields_eq_ok, checkFilters_eq_ok, List.not_mem_nil,
    not_false_eq_true, implies_true, true_and, List.Nodup, List.pairwise_map]
  constructor
  · rintro ⟨hname, hentity, hcatalogs, ⟨hfields, hdistinct⟩, hfilters⟩
    exact ⟨hname, hentity, hcatalogs, hfields, hdistinct, hfilters⟩
  · rintro ⟨hname, hentity, hcatalogs, hfields, hdistinct, hfilters⟩
    exact ⟨hname, hentity, hcatalogs, ⟨hfields, hdistinct⟩, hfilters⟩

theorem check_eq_ok {c : Config} (h : c.search.defaultHistogramInterval.isNaN = false) :
    c.check = .ok () ↔ c.Lawful := by
  simp only [check, check_bind_eq_ok, checkCatalogs_eq_ok, checkContainers_eq_ok,
    checkContainer_eq_ok, checkSearch_eq_ok h, List.not_mem_nil, false_implies, not_false_eq_true,
    implies_true, true_and, List.Nodup, List.pairwise_map, List.pairwise_and_iff]
  constructor
  · rintro ⟨⟨hcatalogs, hids, hcodes⟩, ⟨hcontainers, hnames⟩, hinterval⟩
    exact ⟨hcatalogs, hids, hcodes, hcontainers, hnames, hinterval⟩
  · rintro ⟨hcatalogs, hids, hcodes, hcontainers, hnames, hinterval⟩
    exact ⟨⟨hcatalogs, hids, hcodes⟩, ⟨hcontainers, hnames⟩, hinterval⟩

/-- A configuration is valid exactly if it is lawful, and else it is refused as a configuration. -/
theorem valid_iff_lawful {c : Config} (h : c.search.defaultHistogramInterval.isNaN = false) :
    (c.validate = .ok () ↔ c.Lawful) ∧
    ∀ e, c.validate = .error e → ∃ fault, e = .config fault := by
  have hvalid : c.validate = .ok () ↔ c.check = .ok () := mapError_eq_ok
  refine ⟨hvalid.trans (check_eq_ok h), fun e he => ?_⟩
  obtain ⟨fault, _, rfl⟩ := mapError_eq_error.mp he
  exact ⟨fault, rfl⟩

end Config

namespace Shop

/-- The shop's configuration is lawful, and with its container declared twice it is refused. -/
theorem config_lawful : config.search.defaultHistogramInterval.isNaN = false ∧ config.Lawful ∧
    ∃ fault,
      { config with containers := [product, product] }.validate = .error (.config fault) := by
  have hnumber : config.search.defaultHistogramInterval.isNaN = false := by decide
  refine ⟨hnumber, (Config.valid_iff_lawful hnumber).1.mp rfl, ?_⟩
  obtain ⟨hiff, herror⟩ := Config.valid_iff_lawful
    (c := { config with containers := [product, product] }) hnumber
  cases hvalid : { config with containers := [product, product] }.validate with
  | ok _ => simpa using (hiff.mp hvalid).names_distinct
  | error e =>
      obtain ⟨fault, rfl⟩ := herror e hvalid
      exact ⟨fault, rfl⟩

end Shop

end FacetedSearch
