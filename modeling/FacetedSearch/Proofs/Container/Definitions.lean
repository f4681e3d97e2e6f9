import FacetedSearch.Proofs.Container.Fields

/-!
# Definitions and their containers

In a valid configuration a definition is found by its name in every catalog that it is available in,
and all its fields can be built, so that a container is refused only where none is declared.
-/

namespace FacetedSearch

open Outcome

theorem ContainerDefinition.isAvailableIn_iff {d : ContainerDefinition} {code : String} :
    d.isAvailableIn code = true ↔ d.catalogs = [] ∨ code ∈ d.catalogs := by
  simp [isAvailableIn]

theorem Field.exists_ofDefinition? {d : FieldDefinition} (h : Text.isBlank d.code = false) :
    ∃ f, Field.ofDefinition? d = .ok f :=
  ⟨_, dif_pos h⟩

theorem Config.exists_field {c : Config} (h : c.check = .ok ()) {d : ContainerDefinition}
    (hd : d ∈ c.containers) : ∀ fd ∈ d.fields, ∃ f, Field.ofDefinition? fd = .ok f := by
  obtain ⟨_, hfields, _⟩ := checks_of_mem_containers h hd
  intro fd hfd
  exact Field.exists_ofDefinition? ((checkFields_eq_ok.mp hfields).1 fd hfd)

namespace Store

variable {config : Config} (hvalid : config.check = .ok ())
include hvalid

theorem definition?_eq_some_iff {catalog : Catalog} {name : String} {d : ContainerDefinition} :
    config.store.definition? catalog name = some d ↔
      d ∈ config.containers ∧ d.name = name ∧ d.isAvailableIn catalog.code = true := by
  simp only [definition?, Option.filter_eq_some_iff, Config.store]
  constructor
  · rintro ⟨hfind, havailable⟩
    exact ⟨List.mem_of_find?_eq_some hfind, by simpa using List.find?_some hfind, havailable⟩
  · rintro ⟨hd, rfl, havailable⟩
    refine ⟨?_, havailable⟩
    cases hfind : config.containers.find? (·.name == d.name) with
    | none => simpa using List.find?_eq_none.mp hfind d hd
    | some e =>
        have hname : e.name = d.name := by simpa using List.find?_some hfind
        rw [Config.eq_of_name_eq hvalid (List.mem_of_find?_eq_some hfind) hd hname]

theorem exists_container_iff {catalog : Catalog} {name : String} :
    (∃ k, config.store.container catalog name = .ok k) ↔
      ∃ d ∈ config.containers, d.name = name ∧ d.isAvailableIn catalog.code = true := by
  constructor
  · rintro ⟨k, hk⟩
    obtain ⟨d, _, hfound, _, _⟩ := container_eq_ok.mp hk
    exact ⟨d, (definition?_eq_some_iff hvalid).mp hfound⟩
  · rintro ⟨d, hd⟩
    have hfound := (definition?_eq_some_iff hvalid).mpr hd
    obtain ⟨fields, hfields⟩ := exists_mapM_eq_ok.mpr (Config.exists_field hvalid hd.1)
    exact ⟨_, container_eq_ok.mpr ⟨d, fields, hfound, hfields, rfl⟩⟩

theorem container_eq_error {catalog : Catalog} {name : String} {e : Error}
    (h : config.store.container catalog name = .error e) :
    e = .unknownContainer catalog.code name := by
  cases hfound : config.store.definition? catalog name with
  | none =>
      simp only [container, hfound] at h
      cases h
      rfl
  | some d =>
      have hd := (definition?_eq_some_iff hvalid).mp hfound
      obtain ⟨k, hk⟩ := (exists_container_iff hvalid).mpr ⟨d, hd⟩
      rw [hk] at h
      cases h

end Store

theorem Binary64.raisedToOne_eq (x : Binary64) :
    x.raisedToOne = if x.isNaN ∨ x.orderKey < one.orderKey then one else x := by
  by_cases h : x.isNaN = true <;> simp [raisedToOne, h]

theorem Container.Realizes.definitions_eq {k : Container} {d : ContainerDefinition}
    (h : k.Realizes d) : k.fields.map (·.toFieldDefinition) =
      d.fields.map fun fd => { fd with weight := fd.weight.raisedToOne } := by
  rw [eq_comm, ← List.forall₂_eq_eq_eq, List.forall₂_map_left_iff, List.forall₂_map_right_iff]
  exact h.fields.imp fun _ _ => Eq.symm

/-- The store of a valid configuration has a container under a name in a catalog exactly if one is
declared there, with all that its definition declares, and refuses every other name as unknown. -/
theorem Store.containers_as_declared {config : Config} {s : Store}
    (hs : Store.ofConfig? config = .ok s) (catalog : Catalog) (name : String) :
    ((∃ k, s.container catalog name = .ok k) ↔ ∃ d ∈ config.containers,
      d.name = name ∧ (d.catalogs = [] ∨ catalog.code ∈ d.catalogs)) ∧
    (∀ k, s.container catalog name = .ok k → ∀ d ∈ config.containers, d.name = name →
      k.name = name ∧ k.catalog = catalog ∧
      k.indexName = config.search.indexPrefix ++ catalog.code ++ "_" ++ d.entity ∧
      k.defaultFilters = d.defaultFilters ∧ k.sortOverrides = d.sortOverrides ∧
      k.fields.map (·.toFieldDefinition) = d.fields.map fun fd =>
        { fd with weight :=
            if fd.weight.isNaN ∨ fd.weight.orderKey < Binary64.one.orderKey then .one
            else fd.weight }) ∧
    (∀ e, s.container catalog name = .error e → e = .unknownContainer catalog.code name) ∧
    ∀ d ∈ config.containers, ∀ fd ∈ d.fields, ∃ f, Field.ofDefinition? fd = .ok f := by
  obtain ⟨hvalid, rfl⟩ := Store.ofConfig?_eq_ok.mp hs
  refine ⟨?_, fun k hk d hd hname => ?_, fun e => container_eq_error hvalid,
    fun d hd => Config.exists_field hvalid hd⟩
  · simp only [← ContainerDefinition.isAvailableIn_iff]
    exact exists_container_iff hvalid
  · obtain ⟨d', hd', hname', hrealizes, hcatalog, hindex⟩ := exists_definition hk
    obtain rfl := Config.eq_of_name_eq hvalid hd' hd (hname'.trans hname.symm)
    refine ⟨hrealizes.name.trans hname, hcatalog, hindex, hrealizes.defaultFilters,
      hrealizes.sortOverrides, ?_⟩
    simp only [← Binary64.raisedToOne_eq]
    exact hrealizes.definitions_eq

namespace Shop

/-- Products that are available in one of two catalogs, with a field of weight one half. -/
def french : ContainerDefinition := { product with
  catalogs := ["fr"]
  fields := [{ code := "name", type := .text, searchable := true, weight := .ofRatio false 1 2 },
    { code := "price.price", type := .price, sortable := true }] }

def bilingual : Config where
  catalogs := [{ id := 1, code := "fr" }, { id := 2, code := "en" }]
  containers := [{ name := "category", entity := "category" }, french]

/-- The products are found in their catalog, with the weight raised, and unknown in the other. -/
theorem products_in_french : ∃ s, Store.ofConfig? bilingual = .ok s ∧
    (∃ k, s.container { id := 1, code := "fr" } "product" = .ok k ∧ k.indexName = "fr_product" ∧
      k.fields.map (·.weight) = [.one, .one]) ∧
    s.container { id := 2, code := "en" } "product" = .error (.unknownContainer "en" "product") := by
  obtain ⟨s, hs⟩ : ∃ s, Store.ofConfig? bilingual = .ok s := ⟨_, rfl⟩
  obtain ⟨hfound, hholds, _⟩ := Store.containers_as_declared hs { id := 1, code := "fr" } "product"
  obtain ⟨hfound', _, herror, _⟩ :=
    Store.containers_as_declared hs { id := 2, code := "en" } "product"
  have hmem : french ∈ bilingual.containers := by simp [bilingual]
  obtain ⟨k, hk⟩ := hfound.mpr ⟨french, hmem, rfl, by decide⟩
  obtain ⟨_, _, hindex, _, _, hfields⟩ := hholds k hk french hmem rfl
  refine ⟨s, hs, ⟨k, hk, hindex, ?_⟩, ?_⟩
  · have hweights := congrArg (List.map (·.weight)) hfields
    rw [List.map_map, List.map_map] at hweights
    refine hweights.trans ?_
    decide +kernel
  · have hnone : ¬ ∃ d ∈ bilingual.containers,
        d.name = "product" ∧ (d.catalogs = [] ∨ "en" ∈ d.catalogs) := by
      simp [bilingual, french, product]
    cases h : s.container { id := 2, code := "en" } "product" with
    | error e => rw [herror e h]
    | ok k' => exact absurd (hfound'.mp ⟨k', h⟩) hnone

end Shop

end FacetedSearch
