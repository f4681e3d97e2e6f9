import FacetedSearch.Proofs.Container.Catalogs

/-!
# Index names

The name of an index joins the code of a catalog and an entity by an underscore. It tells catalogs
apart for one entity and entities for one catalog, but underscores in a code and in an entity may
add up, and then two catalogs share an index.
-/

namespace FacetedSearch

open Outcome

/-! ## Joined names -/

section Joined

variable {α : Type} {sep : α} {a b x y : List α}

theorem eq_or_overlap_of_append {rest : List α} (hb : b = a ++ rest)
    (hx : sep :: x = rest ++ sep :: y) :
    (a = b ∧ x = y) ∨ ∃ r, b = a ++ sep :: r ∧ x = r ++ sep :: y := by
  cases rest with
  | nil => exact Or.inl ⟨by simpa using hb.symm, (List.cons.inj hx).2⟩
  | cons r rest =>
      obtain ⟨rfl, hrest⟩ := List.cons.inj hx
      exact Or.inr ⟨rest, hb, hrest⟩

/-- Two lists are joined to the same at different occurrences of the separator if what lies between
these belongs to the first part of one and to the second part of the other. -/
theorem append_cons_eq_append_cons_iff : a ++ sep :: x = b ++ sep :: y ↔ (a = b ∧ x = y) ∨
    (∃ r, b = a ++ sep :: r ∧ x = r ++ sep :: y) ∨ ∃ r, a = b ++ sep :: r ∧ y = r ++ sep :: x := by
  constructor
  · intro h
    rcases List.append_eq_append_iff.mp h with ⟨rest, hb, hx⟩ | ⟨rest, ha, hy⟩
    · exact (eq_or_overlap_of_append hb hx).imp_right Or.inl
    · exact (eq_or_overlap_of_append ha hy).imp (fun h => ⟨h.1.symm, h.2.symm⟩) Or.inr
  · rintro (⟨rfl, rfl⟩ | ⟨r, rfl, rfl⟩ | ⟨r, rfl, rfl⟩) <;> simp

end Joined

/-- The first code ends before an underscore of the second, and the first entity starts with what
follows it there. -/
def Overlaps (code entity code' entity' : String) : Prop :=
  ∃ rest, code' = code ++ "_" ++ rest ∧ entity = rest ++ "_" ++ entity'

variable {code entity code' entity' : String}

theorem toList_joined (code entity : String) :
    (code ++ "_" ++ entity).toList = code.toList ++ '_' :: entity.toList := by
  simp

theorem overlaps_iff : Overlaps code entity code' entity' ↔ ∃ r,
    code'.toList = code.toList ++ '_' :: r ∧ entity.toList = r ++ '_' :: entity'.toList := by
  constructor
  · rintro ⟨rest, rfl, rfl⟩
    exact ⟨rest.toList, toList_joined _ _, toList_joined _ _⟩
  · rintro ⟨r, hcode, hentity⟩
    refine ⟨String.ofList r, String.toList_inj.mp ?_, String.toList_inj.mp ?_⟩
    · rw [toList_joined, String.toList_ofList, hcode]
    · rw [toList_joined, String.toList_ofList, hentity]

theorem joined_eq_iff : code ++ "_" ++ entity = code' ++ "_" ++ entity' ↔
    (code = code' ∧ entity = entity') ∨ Overlaps code entity code' entity' ∨
      Overlaps code' entity' code entity := by
  rw [← String.toList_inj, toList_joined, toList_joined, append_cons_eq_append_cons_iff,
    overlaps_iff, overlaps_iff, String.toList_inj, String.toList_inj]

/-- Then one of the codes is longer than the other, and one of the entities too. -/
theorem Overlaps.ne (h : Overlaps code entity code' entity') : code ≠ code' ∧ entity ≠ entity' := by
  obtain ⟨rest, hcode, hentity⟩ := h
  have hsep : "_".length = 1 := rfl
  have hcode := congrArg String.length hcode
  have hentity := congrArg String.length hentity
  rw [String.length_append, String.length_append] at hcode hentity
  constructor
  · rintro rfl
    omega
  · rintro rfl
    omega

/-! ## Indexes of a configuration -/

theorem Config.eq_of_code_eq {c : Config} (h : c.check = .ok ()) {a b : Catalog}
    (ha : a ∈ c.catalogs) (hb : b ∈ c.catalogs) (hcode : a.code = b.code) : a = b := by
  have hnodup : (c.catalogs.map (·.code)).Nodup :=
    List.pairwise_map.mpr ((pairwise_catalogs h).imp And.right)
  exact List.inj_on_of_nodup_map hnodup ha hb hcode

namespace Store

variable {s : Store}

theorem exists_definition_of_resolve {key : ContainerKey} {k : Container}
    (h : (s.source.resolve key).1 = .ok k) : ∃ d ∈ s.containers, d.name = key.2 ∧
      k.catalog ∈ s.catalogs ∧ k.indexName = s.indexName k.catalog d.entity := by
  obtain ⟨catalog, hcatalog, hk⟩ := Source.resolve_eq_ok h
  obtain ⟨d, hd, hname, _, rfl, hindex⟩ := exists_definition hk
  refine ⟨d, hd, hname, ?_, hindex⟩
  exact List.mem_of_find?_eq_some (catalog_eq_ok_iff_find?.mp hcatalog)

theorem indexName_eq_iff {c c' : Catalog} {entity entity' : String} :
    s.indexName c entity = s.indexName c' entity' ↔ (c.code = c'.code ∧ entity = entity') ∨
      Overlaps c.code entity c'.code entity' ∨ Overlaps c'.code entity' c.code entity := by
  rw [← joined_eq_iff]
  simp only [indexName, String.append_assoc, String.append_right_inj]

end Store

/-- Two containers of a valid configuration have one index exactly if they are in one catalog and of
one entity, or the codes of their catalogs and their entities overlap; so catalogs never share the
index of one entity, nor entities the index of one catalog. -/
theorem Store.indexes_apart {config : Config} {s : Store} (hs : Store.ofConfig? config = .ok s)
    {key key' : ContainerKey} {k k' : Container} (hk : (s.source.resolve key).1 = .ok k)
    (hk' : (s.source.resolve key').1 = .ok k') :
    ∃ d ∈ config.containers, ∃ d' ∈ config.containers, d.name = key.2 ∧ d'.name = key'.2 ∧
      (k.indexName = k'.indexName ↔ (k.catalog = k'.catalog ∧ d.entity = d'.entity) ∨
        Overlaps k.catalog.code d.entity k'.catalog.code d'.entity ∨
        Overlaps k'.catalog.code d'.entity k.catalog.code d.entity) ∧
      (k.indexName = k'.indexName → (k.catalog = k'.catalog ↔ d.entity = d'.entity)) := by
  obtain ⟨hvalid, rfl⟩ := Store.ofConfig?_eq_ok.mp hs
  obtain ⟨d, hd, hname, hcatalog, hindex⟩ := exists_definition_of_resolve hk
  obtain ⟨d', hd', hname', hcatalog', hindex'⟩ := exists_definition_of_resolve hk'
  have hcode : k.catalog.code = k'.catalog.code ↔ k.catalog = k'.catalog :=
    ⟨Config.eq_of_code_eq hvalid hcatalog hcatalog', congrArg Catalog.code⟩
  have hiff : k.indexName = k'.indexName ↔ (k.catalog = k'.catalog ∧ d.entity = d'.entity) ∨
      Overlaps k.catalog.code d.entity k'.catalog.code d'.entity ∨
      Overlaps k'.catalog.code d'.entity k.catalog.code d.entity := by
    rw [hindex, hindex', indexName_eq_iff, hcode]
  refine ⟨d, hd, d', hd', hname, hname', hiff, fun h => ?_⟩
  rcases hiff.mp h with ⟨hc, he⟩ | hover | hover
  · exact iff_of_true hc he
  · exact iff_of_false (fun hc => hover.ne.1 (hcode.mpr hc)) hover.ne.2
  · exact iff_of_false (fun hc => hover.ne.1 (hcode.mpr hc).symm) hover.ne.2.symm

namespace Shop

/-- Products in two catalogs of which one is for businesses, and products for businesses. -/
def business : Config where
  catalogs := [{ id := 1, code := "fr" }, { id := 2, code := "fr_b2b" }]
  containers := [{ name := "product", entity := "product" },
    { name := "business", entity := "b2b_product" }]

theorem check_business : business.check = .ok () := by rfl

/-- The products of the two catalogs have indexes of their own. -/
theorem products_apart : ∃ s k k', Store.ofConfig? business = .ok s ∧
    (s.source.resolve ("fr", "product")).1 = .ok k ∧
    (s.source.resolve ("2", "product")).1 = .ok k' ∧ k.catalog ≠ k'.catalog ∧
    k.indexName ≠ k'.indexName := by
  have hs : Store.ofConfig? business = .ok business.store :=
    Store.ofConfig?_eq_ok.mpr ⟨check_business, rfl⟩
  obtain ⟨k, hk, hc⟩ : ∃ k, (business.store.source.resolve ("fr", "product")).1 = .ok k ∧
      k.catalog.code = "fr" := ⟨_, rfl, rfl⟩
  obtain ⟨k', hk', hc'⟩ : ∃ k, (business.store.source.resolve ("2", "product")).1 = .ok k ∧
      k.catalog.code = "fr_b2b" := ⟨_, rfl, rfl⟩
  have hne : k.catalog ≠ k'.catalog := by
    intro h
    rw [h, hc'] at hc
    revert hc
    decide
  refine ⟨_, k, k', hs, hk, hk', hne, fun hindex => hne ?_⟩
  obtain ⟨d, hd, d', hd', hname, hname', _, hsame⟩ := Store.indexes_apart hs hk hk'
  obtain rfl := Config.eq_of_name_eq check_business hd hd' (hname.trans hname'.symm)
  exact (hsame hindex).mpr rfl

/-- The products for businesses have one index with the products of the other catalog. -/
theorem index_shared : ∃ s k k', Store.ofConfig? business = .ok s ∧
    (s.source.resolve ("fr", "business")).1 = .ok k ∧
    (s.source.resolve ("fr_b2b", "product")).1 = .ok k' ∧
    k.indexName = "fr_b2b_product" ∧ k'.indexName = "fr_b2b_product" ∧
    k.catalog = { id := 1, code := "fr" } ∧ k'.catalog = { id := 2, code := "fr_b2b" } :=
  ⟨_, _, _, rfl, rfl, rfl, rfl, rfl, rfl, rfl⟩

end Shop

end FacetedSearch
