import FacetedSearch.Proofs.Container.Store
import FacetedSearch.Request.Compiler

/-!
# Builders in use

However a builder of a configuration has been used, it resolves containers as the store of the
configuration does.
-/

namespace FacetedSearch

open Outcome

/-- The new builder on the containers of a configuration. -/
def Config.builder (c : Config) : Builder where
  compiler := { settings := c.search }
  source := c.store.source

theorem Builder.ofConfig?_eq_ok {c : Config} {b : Builder} :
    ofConfig? c = .ok b ↔ c.check = .ok () ∧ b = c.builder := by
  simp only [ofConfig?, bind_eq_ok, Store.ofConfig?_eq_ok, Except.ok.injEq]
  constructor
  · rintro ⟨_, ⟨hc, rfl⟩, rfl⟩
    exact ⟨hc, rfl⟩
  · rintro ⟨hc, rfl⟩
    exact ⟨c.store, ⟨hc, rfl⟩, rfl⟩

/-- The builders of a configuration: a new one, and what becomes of it when a collaborator other
than the translation of criteria is replaced and when it is used. -/
inductive Builder.Serves (c : Config) : Builder → Prop
  | new {b} : Builder.ofConfig? c = .ok b → Serves c b
  | withRegistry {b} (registry : Registry) : Serves c b →
      Serves c { b with compiler := { b.compiler with registry } }
  | withSpelling {b} (spelling : Container → String → Spelling) : Serves c b →
      Serves c { b with compiler := { b.compiler with spelling } }
  | withExtraFacets {b} (extraFacets : Container → Intent → Result (List FacetSpec)) : Serves c b →
      Serves c { b with compiler := { b.compiler with extraFacets } }
  | resolve {b} (catalog container : String) : Serves c b → Serves c (b.resolve catalog container).2
  | create {b} (i : Intent) : Serves c b → Serves c (b.create i).2
  | invalidate {b} : Serves c b → Serves c b.invalidate

/-- What is kept while a builder of a configuration is in use. -/
structure Builder.Sound (c : Config) (b : Builder) : Prop where
  valid : c.check = .ok ()
  settings : b.compiler.settings = c.search
  queryOf : b.compiler.queryOf = Criterion.toQuery
  source : b.source = c.store.source
  cache : b.cache.Agrees b.source

namespace Builder

variable {c : Config} {b : Builder}

theorem Serves.builder (h : c.check = .ok ()) : c.builder.Serves c :=
  .new (ofConfig?_eq_ok.mpr ⟨h, rfl⟩)

theorem Sound.resolve (h : b.Sound c) (catalog container : String) :
    (b.resolve catalog container).2.Sound c where
  valid := h.valid
  settings := h.settings
  queryOf := h.queryOf
  source := h.source
  cache := h.cache.resolve.2

theorem Serves.sound (h : b.Serves c) : b.Sound c := by
  induction h with
  | new h =>
      obtain ⟨hc, rfl⟩ := ofConfig?_eq_ok.mp h
      exact ⟨hc, rfl, rfl, rfl, Resolved.agrees_empty⟩
  | withRegistry _ _ ih => exact { ih with }
  | withSpelling _ _ ih => exact { ih with }
  | withExtraFacets _ _ ih => exact { ih with }
  | resolve catalog container _ ih => exact ih.resolve catalog container
  | create i _ ih => exact ih.resolve i.catalog i.container
  | invalidate _ ih => exact { ih with cache := Resolved.agrees_empty }

theorem Sound.resolve_fst (h : b.Sound c) (catalog container : String) :
    (b.resolve catalog container).1 = (c.store.source.resolve (catalog, container)).1 := by
  -- What the cache holds is what the source would answer, and so it makes no difference.
  rw [← h.source]
  exact h.cache.resolve.1

theorem Sound.declares (h : b.Sound c) {catalog container : String} {k : Container}
    (hk : (b.resolve catalog container).1 = .ok k) : c.Declares container k := by
  rw [h.resolve_fst] at hk
  obtain ⟨_, _, hk⟩ := Source.resolve_eq_ok hk
  exact Store.exists_realizes hk

theorem Sound.checked_defaultFilters (h : b.Sound c) {catalog container : String} {k : Container}
    (hk : (b.resolve catalog container).1 = .ok k) : ∀ q ∈ k.defaultFilters, q.Checked := by
  obtain ⟨d, hd, _, hr⟩ := h.declares hk
  rw [hr.defaultFilters]
  exact Config.checked_of_mem_defaultFilters h.valid hd

theorem Sound.resolve_failsOnly (h : b.Sound c) (catalog container : String) :
    FailsOnly Error.IsRefusal (b.resolve catalog container).1 := by
  rw [h.resolve_fst]
  exact Source.resolve_failsOnly Store.catalog_failsOnly Store.container_failsOnly

theorem create_fst (b : Builder) (i : Intent) :
    (b.create i).1 = (b.resolve i.catalog i.container).1 >>= fun k => b.compiler.compile k i := rfl

theorem create_eq_ok {i : Intent} {r : CompiledRequest} :
    (b.create i).1 = .ok r ↔
      ∃ k, (b.resolve i.catalog i.container).1 = .ok k ∧ b.compiler.compile k i = .ok r := by
  rw [create_fst, bind_eq_ok]

end Builder

/-! ## A shop -/

namespace Shop

/-- Products with a field inside a nested object, of which only those that are visible are found. -/
def product : ContainerDefinition where
  name := "product"
  entity := "product"
  defaultFilters := [.leaf "visible" .present {}]
  fields := [
    { code := "name", type := .text, searchable := true },
    { code := "color", type := .select, filterable := true },
    { code := "price.price", type := .price, filterable := true, sortable := true }]

def config : Config where
  catalogs := [{ id := 1, code := "fr" }]
  containers := [product]

/-- A search whose first criterion is on the field of its facet, and whose second refers to the
nested field by the flattened code. -/
def intent : Intent where
  catalog := "fr"
  container := "product"
  query := some (.text "lamp")
  filters := [
    .leaf "color" (.equal (some (.text "red")) none),
    .leaf "price__price" (.range { gt := some (.integer 3) })]
  facets := [{ field := "color" }, { field := "price.price" }]

theorem check_config : config.check = .ok () := by rfl

theorem serves : config.builder.Serves config := .builder check_config

theorem keysDistinct : ∀ e ∈ config.containers, e.name = intent.container → e.KeysDistinct := by
  intro e he _
  obtain rfl := List.mem_singleton.mp he
  decide +kernel

end Shop

end FacetedSearch
