import FacetedSearch.Proofs.Container.Fields
import FacetedSearch.Proofs.Request.Compilation
import FacetedSearch.Proofs.Sort.Policy

/-!
# Respelled intents

In a container whose fields have keys of their own it makes no difference to a request whether its
intent refers to a field by the code of the field or by the flattened code.
-/

namespace FacetedSearch

open Outcome

/-! ## References -/

namespace Code.Respelled

variable {declared : String → Prop} {r r' : String}

theorem flatten_eq (h : Respelled declared r r') : flatten r = flatten r' := by
  cases h with
  | same => rfl
  | flattened _ => exact (flatten_flatten r).symm
  | dotted _ => exact flatten_flatten r'

/-- A name that no other code is flattened to is written in one way only. -/
theorem eq_iff (h : Respelled declared r r') {key : String} (hpair : ¬ ['_', '_'] <:+: key.toList)
    (hpoint : '.' ∉ key.toList) : r = key ↔ r' = key := by
  rw [← flatten_eq_iff hpair hpoint, h.flatten_eq, flatten_eq_iff hpair hpoint]

end Code.Respelled

/-- A container that knows the declared codes, and no two fields of which share a key. -/
structure Container.Tells (c : Container) (declared : String → Prop) : Prop where
  codes : (c.fields.map (·.code)).Nodup
  keys : (c.fields.map Field.key).Nodup
  knows : ∀ code, declared code → ∃ f ∈ c.fields, f.code = code

namespace Container.Tells

variable {c : Container} {declared : String → Prop} {r r' : String} (hc : c.Tells declared)
include hc

theorem eq_or_found (h : Code.Respelled declared r r') :
    r = r' ∨ ∃ f, c.field? r = some f ∧ c.field? r' = some f := by
  have hfound : ∀ code, declared code →
      ∃ f, c.field? code = some f ∧ c.field? (Code.flatten code) = some f := by
    intro code hcode
    obtain ⟨f, hf, rfl⟩ := hc.knows code hcode
    exact ⟨f, (field?_names_iff hc.codes).mpr hc.keys f hf⟩
  cases h with
  | same => exact Or.inl rfl
  | flattened hcode => exact Or.inr (hfound _ hcode)
  | dotted hcode =>
      obtain ⟨f, hf, hf'⟩ := hfound _ hcode
      exact Or.inr ⟨f, hf', hf⟩

theorem field?_eq (h : Code.Respelled declared r r') : c.field? r = c.field? r' := by
  rcases hc.eq_or_found h with rfl | ⟨f, hf, hf'⟩
  · rfl
  · rw [hf, hf']

/-- An unknown field is reported in one way, since only known fields are respelled. -/
theorem requireField_eq (h : Code.Respelled declared r r') :
    c.requireField r = c.requireField r' := by
  rcases hc.eq_or_found h with rfl | ⟨f, hf, hf'⟩
  · rfl
  · rw [requireField_eq_ok.mpr hf, requireField_eq_ok.mpr hf']

theorem facetName_eq (h : Code.Respelled declared r r') : c.facetName r = c.facetName r' := by
  rw [facetName, facetName, hc.field?_eq h, h.flatten_eq]

end Container.Tells

/-! ## Errors -/

/-- One fault, up to the spelling of the reference it quotes. -/
inductive QueryFault.Respelled (declared : String → Prop) : QueryFault → QueryFault → Prop
  | same {fault} : Respelled declared fault fault
  | notFilterable {r r'} : Code.Respelled declared r r' →
      Respelled declared (.notFilterable r) (.notFilterable r')
  | needsOneEquality {r r'} : Code.Respelled declared r r' →
      Respelled declared (.needsOneEquality r) (.needsOneEquality r')

instance (declared : String → Prop) : Std.Refl (QueryFault.Respelled declared) := ⟨fun _ => .same⟩

/-- One error, up to the spelling of the reference it quotes. -/
inductive Error.Respelled (declared : String → Prop) : Error → Error → Prop
  | same {e} : Respelled declared e e
  | unsortable {r r'} : Code.Respelled declared r r' →
      Respelled declared (.unsortableField r) (.unsortableField r')
  | malformed {fault fault'} : fault.Respelled declared fault' →
      Respelled declared (.malformedQuery fault) (.malformedQuery fault')

instance (declared : String → Prop) : Std.Refl (Error.Respelled declared) := ⟨fun _ => .same⟩

/-! ## Criteria -/

/-- A criterion with some of its references respelled. -/
inductive Criterion.Respelled (declared : String → Prop) : Criterion → Criterion → Prop
  | leaf {r r' test} : Code.Respelled declared r r' →
      Respelled declared (leaf r test) (leaf r' test)
  | bool {must should mustNot must' should' mustNot'} :
      List.Forall₂ (Respelled declared) must must' →
      List.Forall₂ (Respelled declared) should should' →
      List.Forall₂ (Respelled declared) mustNot mustNot' →
      Respelled declared (bool must should mustNot) (bool must' should' mustNot')

theorem Test.query?_agree {declared : String → Prop} {f : Field} {r r' : String} {t : Test}
    (h : Code.Respelled declared r r') :
    Agree (QueryFault.Respelled declared) (t.query? f r) (t.query? f r') := by
  have hcondition : Agree (QueryFault.Respelled declared) (t.condition? r) (t.condition? r') := by
    cases t with
    | equal eq oneOf =>
        cases eq <;> cases oneOf
        · exact .error (.needsOneEquality h)
        · exact .ok _
        · exact .ok _
        · exact .error (.needsOneEquality h)
    | range bounds => exact .ok _
    | textMatch text => exact .ok _
    | present => exact .ok _
  exact hcondition.bind fun _ => .refl _

variable {declared : String → Prop} {c : Container}

theorem Container.Tells.filterableField_agree (hc : c.Tells declared) {r r' : String}
    (h : Code.Respelled declared r r') :
    Agree (Error.Respelled declared) (c.filterableField r) (c.filterableField r') := by
  simp only [filterableField, hc.requireField_eq h]
  refine Agree.bind (.refl _) fun f => ?_
  split
  · exact .ok f
  · exact .error (.malformed (.notFilterable h))

namespace Criterion

mutual

theorem toQuery_agree (hc : c.Tells declared) : (k k' : Criterion) → k.Respelled declared k' →
    Agree (Error.Respelled declared) (toQuery c k) (toQuery c k')
  | leaf r test, _, .leaf h => by
      simp only [toQuery]
      refine (hc.filterableField_agree h).bind fun f => ?_
      exact (Test.query?_agree h).mapError fun _ _ => .malformed
  | bool must should mustNot, _, .bool hm hs hn => by
      simp only [toQuery]
      refine (toQueries_agree hc must _ hm).bind fun _ => ?_
      refine (toQueries_agree hc should _ hs).bind fun _ => ?_
      refine (toQueries_agree hc mustNot _ hn).bind fun _ => ?_
      exact .refl _

theorem toQueries_agree (hc : c.Tells declared) : (ks ks' : List Criterion) →
    List.Forall₂ (Respelled declared) ks ks' →
    Agree (Error.Respelled declared) (toQueries c ks) (toQueries c ks')
  | [], _, .nil => .refl _
  | k :: ks, _, .cons h hs => by
      simp only [toQueries]
      refine (toQuery_agree hc k _ h).bind fun _ => ?_
      exact (toQueries_agree hc ks _ hs).bind fun _ => .ok _

end

theorem facetOf?_eq (hc : c.Tells declared) {k k' : Criterion} (h : k.Respelled declared k')
    (names : List String) : c.facetOf? names k = c.facetOf? names k' := by
  cases h with
  | leaf h => simp only [Container.facetOf?, field?, Option.bind_some, hc.field?_eq h]
  | bool _ _ _ => rfl

end Criterion

/-! ## Sort keys and facets -/

def SortSpec.Respelled (declared : String → Prop) (s t : SortSpec) : Prop :=
  ∃ r, Code.Respelled declared s.field r ∧ t = { s with field := r }

def FacetSpec.Respelled (declared : String → Prop) (s t : FacetSpec) : Prop :=
  ∃ r, Code.Respelled declared s.field r ∧ t = { s with field := r }

namespace Container.Tells

variable (hc : c.Tells declared)
include hc

theorem sortableField?_eq {r r' : String} (h : Code.Respelled declared r r') :
    c.sortableField? r = c.sortableField? r' := by
  rw [sortableField?, sortableField?, hc.field?_eq h]

theorem resolveSort_agree {s t : SortSpec} (h : s.Respelled declared t) (context : Context) :
    Agree (Error.Respelled declared) (c.resolveSort context s) (c.resolveSort context t) := by
  obtain ⟨r, hr, rfl⟩ := h
  have hscore : s.field = SortClause.scoreField ↔ r = SortClause.scoreField :=
    hr.eq_iff (by decide +kernel) (by decide)
  have hid : s.field = SortClause.idField ↔ r = SortClause.idField :=
    hr.eq_iff (by decide +kernel) (by decide)
  by_cases hpseudo : s.IsPseudo
  · -- Both pseudo fields are written in one way only.
    have hfield : s.field = r := by
      rcases hpseudo with h | h
      · rw [h, hscore.mp h]
      · rw [h, hid.mp h]
    rw [← hfield]
    exact .refl _
  · have hpseudo' : ¬ SortSpec.IsPseudo { s with field := r } := by
      rw [SortSpec.IsPseudo, ← hscore, ← hid]
      exact hpseudo
    have htarget : c.sortableField? (c.sortTarget context s.field) =
        c.sortableField? (c.sortTarget context r) := by
      have hoverride : c.sortOverride? s.field = c.sortOverride? r := by
        simp only [sortOverride?, SortOverride.isFor, hr.flatten_eq]
      simp only [sortTarget, hoverride]
      cases (c.sortOverride? r).bind fun o => o.target? context with
      | none => exact hc.sortableField?_eq hr
      | some target => rfl
    rw [resolveSort_of_not_pseudo hpseudo (c.standsFor_sortTarget context _),
      resolveSort_of_not_pseudo hpseudo' (c.standsFor_sortTarget context _)]
    simp only [htarget]
    split
    · exact .ok _
    · exact .error (.unsortable hr)

theorem sortOrder_agree {ss ts : List SortSpec}
    (h : List.Forall₂ (SortSpec.Respelled declared) ss ts) (identifier : String)
    (context : Context) : Agree (Error.Respelled declared)
      (c.sortOrder identifier ss context) (c.sortOrder identifier ts context) := by
  cases h with
  | nil => exact .ok _
  | cons h hs =>
      rw [sortOrder_of_ne_nil (List.cons_ne_nil _ _), sortOrder_of_ne_nil (List.cons_ne_nil _ _)]
      refine Agree.bind (.mapM ?_) fun own => .ok _
      exact (List.Forall₂.cons h hs).imp fun _ _ h => hc.resolveSort_agree h context

theorem facetNames_eq {ss ts : List FacetSpec}
    (h : List.Forall₂ (FacetSpec.Respelled declared) ss ts) : c.facetNames ss = c.facetNames ts := by
  induction h with
  | nil => rfl
  | cons h _ ih =>
      obtain ⟨r, hr, rfl⟩ := h
      rw [facetNames, facetNames, List.map_cons, List.map_cons, hc.facetName_eq hr]
      exact congrArg _ ih

theorem aggregationsAfter_respelled {ss ts : List FacetSpec}
    (h : List.Forall₂ (FacetSpec.Respelled declared) ss ts) (settings : SearchSettings)
    (filters : FacetFilters) (seen : List String) :
    c.aggregationsAfter settings filters seen ss = c.aggregationsAfter settings filters seen ts := by
  induction h generalizing seen with
  | nil => rfl
  | @cons s t _ _ h _ ih =>
      obtain ⟨r, hr, rfl⟩ := h
      have hfield : c.facetField s = c.facetField { s with field := r } := by
        rw [facetField, facetField, hc.requireField_eq hr]
      simp only [aggregationsAfter, hfield, ih]
      rfl

end Container.Tells

/-! ## Intents -/

/-- An intent with some of the references in its sort keys, criteria and facets respelled. -/
inductive Intent.Respelled (declared : String → Prop) (i : Intent) : Intent → Prop
  | mk {sort filters facets} : List.Forall₂ (SortSpec.Respelled declared) i.sort sort →
      List.Forall₂ (Criterion.Respelled declared) i.filters filters →
      List.Forall₂ (FacetSpec.Respelled declared) i.facets facets →
      Respelled declared i { i with sort, filters, facets }

namespace Compiler

variable {k : Compiler} (hq : k.queryOf = Criterion.toQuery) (hc : c.Tells declared)
include hq hc

theorem split_agree {ks ks' : List Criterion}
    (h : List.Forall₂ (Criterion.Respelled declared) ks ks') (names : List String)
    (parts : FilterParts) : Agree (Error.Respelled declared)
      (k.split c names parts ks) (k.split c names parts ks') := by
  induction h generalizing parts with
  | nil => exact .ok parts
  | cons h _ ih =>
      simp only [split, hq]
      refine (Criterion.toQuery_agree hc _ _ h).bind fun q => ?_
      rw [Criterion.facetOf?_eq hc h]
      split
      · exact ih _
      · exact ih _

theorem compile_agree {i j : Intent} (h : i.Respelled declared j)
    (hextra : k.extraFacets c i = k.extraFacets c j) :
    Agree (Error.Respelled declared) (k.compile c i) (k.compile c j) := by
  obtain ⟨hsort, hfilters, hfacets⟩ := h
  simp only [compile, hextra]
  refine Agree.bind (.refl _) fun scored => ?_
  refine Agree.bind (.refl _) fun extra => ?_
  have hall : List.Forall₂ (FacetSpec.Respelled declared) (i.facets ++ extra) (_ ++ extra) :=
    List.rel_append hfacets (List.forall₂_same.mpr fun s _ => ⟨s.field, .same, rfl⟩)
  have hnames := hc.facetNames_eq hall
  simp only [Container.facetNames] at hnames
  rw [hnames]
  refine Agree.bind (.refl _) fun _ => ?_
  refine (split_agree hq hc hfilters _ _).bind fun parts => ?_
  refine (hc.sortOrder_agree hsort _ _).bind fun sort => ?_
  rw [Container.aggregations, hc.aggregationsAfter_respelled hall]
  exact .refl _

end Compiler

/-- A code of a field that the configuration declares for the containers of a name. -/
def Config.DeclaresCode (c : Config) (name code : String) : Prop :=
  ∃ d ∈ c.containers, d.name = name ∧ ∃ f ∈ d.fields, f.code = code

/-- The names of containers are unique, and so the fields of the container that is resolved are all
that are declared under its name. -/
theorem Config.Declares.tells {c : Config} (hc : c.check = .ok ()) {name : String} {k : Container}
    (hk : c.Declares name k) (hkeys : ∀ d ∈ c.containers, d.name = name → d.KeysDistinct) :
    k.Tells (c.DeclaresCode name) := by
  have hcodes := hk.nodup_codes hc
  obtain ⟨d, hd, hname, hr⟩ := hk
  refine ⟨hcodes, hr.nodup_keys (hkeys d hd hname), ?_⟩
  rintro code ⟨e, he, hename, hcode⟩
  obtain rfl := eq_of_name_eq hc he hd (hename.trans hname.symm)
  rwa [← List.mem_map, ← hr.codes_eq, List.mem_map] at hcode

/-- Where the fields of the container have keys of their own, an intent compiles to one request
whether its sort keys, criteria of any depth and facets refer to declared fields by code or
flattened, or is refused with one error, up to the spelling of the reference that it quotes. -/
theorem Builder.Serves.respelling_changes_no_request {c : Config} {b : Builder} (hb : b.Serves c)
    {i j : Intent} (h : i.Respelled (c.DeclaresCode i.container) j)
    (hkeys : ∀ d ∈ c.containers, d.name = i.container → d.KeysDistinct)
    (hextra : ∀ k, b.compiler.extraFacets k i = b.compiler.extraFacets k j) :
    Agree (Error.Respelled (c.DeclaresCode i.container)) (b.create i).1 (b.create j).1 := by
  have hsame : j.catalog = i.catalog ∧ j.container = i.container := by
    obtain ⟨_, _, _⟩ := h
    exact ⟨rfl, rfl⟩
  rw [create_fst, create_fst, hsame.1, hsame.2]
  cases hk : (b.resolve i.catalog i.container).1 with
  | error e => exact .error .same
  | ok k =>
      have htells := (hb.sound.declares hk).tells hb.sound.valid hkeys
      exact Compiler.compile_agree hb.sound.queryOf htells h (hextra k)

namespace Shop

/-- A search that sorts and filters by the nested field and has a facet on it. -/
def byPrice : Intent := { intent with
  sort := [{ field := "price.price", direction := .desc }, { field := "_score" }]
  filters := [
    .leaf "price.price" (.range { gt := some (.integer 3) }),
    .bool [] [.leaf "color" .present, .leaf "price.price" .present] []]
  facets := [{ field := "price.price" }, { field := "price__price" }] }

/-- The same search with the code flattened at some places and not at others. -/
def byPriceFlattened : Intent := { byPrice with
  sort := [{ field := "price__price", direction := .desc }, { field := "_score" }]
  filters := [
    .leaf "price__price" (.range { gt := some (.integer 3) }),
    .bool [] [.leaf "color" .present, .leaf "price__price" .present] []]
  facets := [{ field := "price__price" }, { field := "price.price" }] }

theorem byPrice_respelled :
    byPrice.Respelled (config.DeclaresCode byPrice.container) byPriceFlattened := by
  have hcode : config.DeclaresCode "product" "price.price" :=
    ⟨product, List.mem_cons_self, rfl, _,
      List.mem_cons_of_mem _ (List.mem_cons_of_mem _ List.mem_cons_self), rfl⟩
  have hflattened : Code.Respelled (config.DeclaresCode "product") "price.price" "price__price" :=
    .flattened hcode
  have hdotted : Code.Respelled (config.DeclaresCode "product") "price__price" "price.price" :=
    .dotted hcode
  refine .mk ?_ ?_ ?_
  · exact .cons ⟨_, hflattened, rfl⟩ (.cons ⟨_, .same, rfl⟩ .nil)
  · exact .cons (.leaf hflattened)
      (.cons (.bool .nil (.cons (.leaf .same) (.cons (.leaf hflattened) .nil)) .nil) .nil)
  · exact .cons ⟨_, hflattened, rfl⟩ (.cons ⟨_, hdotted, rfl⟩ .nil)

/-- Both spellings compile, to one request. -/
theorem byPrice_either_way : ∃ r, (config.builder.create byPrice).1 = .ok r ∧
    (config.builder.create byPriceFlattened).1 = .ok r := by
  obtain ⟨r, hr⟩ : ∃ r, (config.builder.create byPrice).1 = .ok r := ⟨_, rfl⟩
  have h := serves.respelling_changes_no_request byPrice_respelled keysDistinct fun _ => rfl
  rw [hr] at h
  generalize (config.builder.create byPriceFlattened).1 = outcome at h ⊢
  cases h
  exact ⟨r, hr, rfl⟩

end Shop

end FacetedSearch
