import FacetedSearch.Container.Cache
import FacetedSearch.Proofs.Query.Validity
import Mathlib.Data.List.Nodup

/-!
# Containers of a configuration

A container that is resolved is what a definition of the configuration declares, and a cache that
holds what the source answers changes no answer.
-/

namespace FacetedSearch

open Outcome

/-- Of the members of a list that pass, one is found if it is the first. -/
theorem find?_eq_some_iff_before {α : Type} {p : α → Bool} {x : α} {before after : List α}
    (hx : x ∉ before) (hp : p x = true) :
    (before ++ x :: after).find? p = some x ↔ ∀ y ∈ before, p y = false := by
  have hfind : (before ++ x :: after).find? p = (before.find? p).or (some x) := by
    simp [List.find?_append, hp]
  rw [hfind]
  cases hearlier : before.find? p with
  | none =>
      rw [List.find?_eq_none] at hearlier
      simpa using hearlier
  | some y =>
      have hy : y ∈ before := List.mem_of_find?_eq_some hearlier
      have hpy : p y = true := List.find?_some hearlier
      simp only [Option.some_or, Option.some.injEq]
      constructor
      · rintro rfl
        exact absurd hy hx
      · intro h
        rw [h y hy] at hpy
        cases hpy

/-! ## Valid configurations -/

namespace Config

theorem checkContainers_eq_ok {codes seen : List String} {ds : List ContainerDefinition} :
    checkContainers codes seen ds = .ok () ↔
      (∀ d ∈ ds, Text.isBlank d.name = false ∧ Text.isBlank d.entity = false ∧
        checkAvailability d codes = .ok () ∧ checkFields d.name [] d.fields = .ok () ∧
        checkFilters d.name d.defaultFilters = .ok ()) ∧
      (∀ d ∈ ds, d.name ∉ seen) ∧ (ds.map (·.name)).Nodup := by
  induction ds generalizing seen with
  | nil => simp [checkContainers]
  | cons d ds ih =>
      simp only [checkContainers, List.forall_mem_cons, List.map_cons, List.nodup_cons]
      split
      · rename_i hblank
        simp only [Bool.or_eq_true] at hblank
        rcases hblank with hblank | hblank <;> simp [hblank]
      · rename_i hblank
        simp only [Bool.or_eq_true, not_or, Bool.not_eq_true] at hblank
        split
        · rename_i hseen
          simp only [List.contains_iff_mem] at hseen
          simp [hseen]
        · rename_i hseen
          simp only [List.contains_iff_mem] at hseen
          simp only [check_bind_eq_ok, ih, List.mem_cons, not_or, forall₂_and, List.mem_map,
            not_exists, not_and]
          constructor
          · rintro ⟨ha, hf, hd, hds, ⟨hne, hfresh⟩, hnodup⟩
            exact ⟨⟨⟨hblank.1, hblank.2, ha, hf, hd⟩, hds⟩, ⟨hseen, hfresh⟩, hne, hnodup⟩
          · rintro ⟨⟨⟨_, _, ha, hf, hd⟩, hds⟩, ⟨_, hfresh⟩, hne, hnodup⟩
            exact ⟨ha, hf, hd, hds, ⟨hne, hfresh⟩, hnodup⟩

theorem checks_of_mem_containers {c : Config} (h : c.check = .ok ()) {d : ContainerDefinition}
    (hd : d ∈ c.containers) : checkAvailability d (c.catalogs.map (·.code)) = .ok () ∧
      checkFields d.name [] d.fields = .ok () ∧ checkFilters d.name d.defaultFilters = .ok () := by
  simp only [check, check_bind_eq_ok] at h
  obtain ⟨_, hcontainers, _⟩ := h
  exact ((checkContainers_eq_ok.mp hcontainers).1 d hd).2.2

theorem eq_of_name_eq {c : Config} (h : c.check = .ok ()) {d e : ContainerDefinition}
    (hd : d ∈ c.containers) (he : e ∈ c.containers) (hname : d.name = e.name) : d = e := by
  simp only [check, check_bind_eq_ok] at h
  obtain ⟨_, hcontainers, _⟩ := h
  obtain ⟨_, _, hnodup⟩ := checkContainers_eq_ok.mp hcontainers
  exact List.inj_on_of_nodup_map hnodup hd he hname

theorem checked_of_mem_defaultFilters {c : Config} (h : c.check = .ok ()) {d : ContainerDefinition}
    (hd : d ∈ c.containers) : ∀ q ∈ d.defaultFilters, q.Checked := by
  obtain ⟨_, _, hfilters⟩ := checks_of_mem_containers h hd
  simp only [checkFilters, mapError_eq_ok, Query.checkList_eq_ok] at hfilters
  exact hfilters

def store (c : Config) : Store where
  indexPrefix := c.search.indexPrefix
  catalogs := c.catalogs
  containers := c.containers

end Config

theorem Store.ofConfig?_eq_ok {c : Config} {s : Store} :
    Store.ofConfig? c = .ok s ↔ c.check = .ok () ∧ s = c.store := by
  simp only [ofConfig?, check_bind_eq_ok, Config.validate, mapError_eq_ok, Except.ok.injEq,
    Config.store]
  exact and_congr_right fun _ => eq_comm

/-! ## Containers and their definitions -/

theorem Field.ofDefinition?_eq_ok {d : FieldDefinition} {f : Field}
    (h : ofDefinition? d = .ok f) :
    f.toFieldDefinition = { d with weight := d.weight.raisedToOne } := by
  simp only [ofDefinition?] at h
  split at h
  · cases h; rfl
  · cases h

/-- A container with the filters, overrides and fields that a definition declares. -/
structure Container.Realizes (k : Container) (d : ContainerDefinition) : Prop where
  name : k.name = d.name
  defaultFilters : k.defaultFilters = d.defaultFilters
  sortOverrides : k.sortOverrides = d.sortOverrides
  fields : List.Forall₂ (fun fd f => f.toFieldDefinition =
    { fd with weight := fd.weight.raisedToOne }) d.fields k.fields

/-- No two fields share a key. -/
def ContainerDefinition.KeysDistinct (d : ContainerDefinition) : Prop :=
  (d.fields.map fun f => Code.flatten f.code).Nodup

instance (d : ContainerDefinition) : Decidable d.KeysDistinct :=
  inferInstanceAs (Decidable (List.Nodup _))

theorem Container.Realizes.codes_eq {k : Container} {d : ContainerDefinition}
    (h : k.Realizes d) : k.fields.map (·.code) = d.fields.map (·.code) := by
  rw [eq_comm, ← List.forall₂_eq_eq_eq, List.forall₂_map_left_iff, List.forall₂_map_right_iff]
  refine h.fields.imp fun fd f hf => ?_
  rw [hf]

theorem Container.Realizes.nodup_keys {k : Container} {d : ContainerDefinition}
    (h : k.Realizes d) (hd : d.KeysDistinct) : (k.fields.map Field.key).Nodup := by
  have hkeys : k.fields.map Field.key = (k.fields.map (·.code)).map Code.flatten := by
    rw [List.map_map]
    rfl
  rw [hkeys, h.codes_eq, List.map_map]
  exact hd

/-- A container that a definition of the configuration declares under the name. -/
def Config.Declares (c : Config) (name : String) (k : Container) : Prop :=
  ∃ d ∈ c.containers, d.name = name ∧ k.Realizes d

namespace Store

variable {s : Store}

theorem container_eq_ok {catalog : Catalog} {name : String} {k : Container} :
    s.container catalog name = .ok k ↔ ∃ d fields, s.definition? catalog name = some d ∧
      d.fields.mapM Field.ofDefinition? = .ok fields ∧
      k = { name := d.name, catalog, indexName := s.indexName catalog d.entity,
            defaultFilters := d.defaultFilters, fields, sortOverrides := d.sortOverrides } := by
  simp only [container]
  split
  · rename_i hnone
    simp [hnone]
  · rename_i d hd
    rw [bind_eq_ok]
    constructor
    · rintro ⟨fields, hfields, hk⟩
      cases hk
      exact ⟨d, fields, hd, hfields, rfl⟩
    · rintro ⟨d', fields, hd', hfields, rfl⟩
      cases hd.symm.trans hd'
      exact ⟨fields, hfields, rfl⟩

theorem exists_definition {catalog : Catalog} {name : String} {k : Container}
    (h : s.container catalog name = .ok k) : ∃ d ∈ s.containers, d.name = name ∧ k.Realizes d ∧
      k.catalog = catalog ∧ k.indexName = s.indexName catalog d.entity := by
  obtain ⟨d, fields, hd, hfields, rfl⟩ := container_eq_ok.mp h
  simp only [definition?, Option.filter_eq_some_iff] at hd
  have hname : d.name = name := by simpa using List.find?_some hd.1
  refine ⟨d, List.mem_of_find?_eq_some hd.1, hname, ⟨rfl, rfl, rfl, ?_⟩, rfl, rfl⟩
  exact (mapM_eq_ok.mp hfields).imp fun _ _ => Field.ofDefinition?_eq_ok

theorem exists_realizes {catalog : Catalog} {name : String} {k : Container}
    (h : s.container catalog name = .ok k) :
    ∃ d ∈ s.containers, d.name = name ∧ k.Realizes d := by
  obtain ⟨d, hd, hname, hrealizes, _⟩ := exists_definition h
  exact ⟨d, hd, hname, hrealizes⟩

theorem catalog_failsOnly (identifier : String) :
    FailsOnly Error.IsRefusal (s.catalog identifier) := by
  simp only [catalog]
  split
  · exact .ok _
  · exact .error trivial

theorem container_failsOnly (catalog : Catalog) (name : String) :
    FailsOnly Error.IsRefusal (s.container catalog name) := by
  simp only [container]
  split
  · exact .error trivial
  · refine .bind (.mapM fun d _ => ?_) fun _ _ => .ok _
    simp only [Field.ofDefinition?]
    split
    · exact .ok _
    · exact .error trivial

end Store

/-! ## Sources and caches -/

namespace Source

variable {s : Source} {key : ContainerKey}

theorem resolve_eq_ok {k : Container} (h : (s.resolve key).1 = .ok k) :
    ∃ catalog, s.catalog key.1 = .ok catalog ∧ s.container catalog key.2 = .ok k := by
  simp only [resolve] at h
  split at h
  · cases h
  · rename_i catalog hc
    exact ⟨catalog, hc, h⟩

theorem resolve_failsOnly {p : Error → Prop} (hc : ∀ i, FailsOnly p (s.catalog i))
    (hk : ∀ c name, FailsOnly p (s.container c name)) : FailsOnly p (s.resolve key).1 := by
  simp only [resolve]
  split
  · rename_i e he
    exact .error (hc _ e he)
  · exact hk _ _

end Source

namespace Resolved

/-- What is kept is what the source answers. -/
def Agrees (r : Resolved) (s : Source) : Prop := ∀ e ∈ r.entries, (s.resolve e.1).1 = .ok e.2

variable {r : Resolved} {s : Source} {key : ContainerKey}

theorem agrees_empty : empty.Agrees s := by
  intro e he
  simp [empty] at he

theorem Agrees.get? (h : r.Agrees s) {k : Container} (hk : r.get? key = some k) :
    (s.resolve key).1 = .ok k := by
  obtain ⟨before, after, he, _⟩ := List.lookup_eq_some_iff.mp hk
  exact h (key, k) (by simp [he])

theorem Agrees.add (h : r.Agrees s) {k : Container} (hk : (s.resolve key).1 = .ok k) :
    (r.add key k).Agrees s := by
  intro e he
  simp only [Resolved.add] at he
  split at he
  · exact h e he
  · rcases List.mem_append.mp he with he | he
    · exact h e he
    · obtain rfl := List.mem_singleton.mp he
      exact hk

/-- Through such a cache the answer is the source's own, and the cache that is left agrees with the
source again. -/
theorem Agrees.resolve (h : r.Agrees s) :
    (r.resolve s key).result = (s.resolve key).1 ∧ (r.resolve s key).cache.Agrees s := by
  simp only [Resolved.resolve]
  split
  · rename_i k hk
    exact ⟨(h.get? hk).symm, h⟩
  · split
    · rename_i k calls hk
      have hk' : (s.resolve key).1 = .ok k := by rw [hk]
      exact ⟨hk'.symm, h.add hk'⟩
    · rename_i e calls he
      exact ⟨by rw [he], h⟩

end Resolved

end FacetedSearch
