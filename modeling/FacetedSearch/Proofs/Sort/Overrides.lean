import FacetedSearch.Proofs.Sort.Policy

/-!
# Sort overrides

Of the overrides for a field only the one declared first is asked for a target. A later one that has
a target for the context is passed over if the first has none, and the sort is on the field itself.
-/

namespace FacetedSearch

open Outcome

/-- The override is for the field that a reference names and has a target for the context. -/
def SortOverride.Applies (o : SortOverride) (context : Context) (reference target : String) : Prop :=
  Code.flatten o.field = Code.flatten reference ∧
    ∃ value, context.get? o.contextKey = some value ∧ o.targets.get? value = some target

theorem SortOverride.applies_iff {o : SortOverride} {context : Context}
    {reference target : String} : o.Applies context reference target ↔
      o.isFor reference = true ∧ o.target? context = some target := by
  simp [Applies, isFor, target?, Option.bind_eq_some_iff]

namespace Container

variable {c : Container} {context : Context} {reference : String}

/-- What a reference to a sort field is to mean: a target of an override that applies, or the field
itself if none does. -/
inductive Means (c : Container) (context : Context) (reference : String) : String → Prop
  | replaced {o target} : o ∈ c.sortOverrides → o.Applies context reference target →
      Means c context reference target
  | kept : (∀ o ∈ c.sortOverrides, ∀ target, ¬ o.Applies context reference target) →
      Means c context reference reference

/-- The first override for a field does not apply, and a later one does. -/
def PassesOver (c : Container) (context : Context) (reference : String) : Prop :=
  ∃ before first after, c.sortOverrides = before ++ first :: after ∧
    (∀ o ∈ before, Code.flatten o.field ≠ Code.flatten reference) ∧
    Code.flatten first.field = Code.flatten reference ∧
    (∀ target, ¬ first.Applies context reference target) ∧
    ∃ o ∈ after, ∃ target, o.Applies context reference target

/-! ## The override that is asked -/

theorem sortOverride?_eq_some {o : SortOverride} : c.sortOverride? reference = some o ↔
    ∃ before after, c.sortOverrides = before ++ o :: after ∧
      (∀ p ∈ before, Code.flatten p.field ≠ Code.flatten reference) ∧
      Code.flatten o.field = Code.flatten reference := by
  simp only [sortOverride?, SortOverride.isFor, List.find?_eq_some_iff_append, beq_iff_eq,
    Bool.not_eq_true', beq_eq_false_iff_ne, ne_eq]
  constructor
  · rintro ⟨hfor, before, after, hsplit, hbefore⟩
    exact ⟨before, after, hsplit, hbefore, hfor⟩
  · rintro ⟨before, after, hsplit, hbefore, hfor⟩
    exact ⟨hfor, before, after, hsplit, hbefore⟩

theorem sortOverride?_eq_none : c.sortOverride? reference = none ↔
    ∀ o ∈ c.sortOverrides, Code.flatten o.field ≠ Code.flatten reference := by
  simp [sortOverride?, SortOverride.isFor]

theorem sortTarget_of_some {o : SortOverride} (h : c.sortOverride? reference = some o) :
    c.sortTarget context reference = (o.target? context).getD reference := by
  simp [sortTarget, h]

theorem sortTarget_of_none (h : c.sortOverride? reference = none) :
    c.sortTarget context reference = reference := by
  simp [sortTarget, h]

theorem target?_eq_none {o : SortOverride} (hfor : Code.flatten o.field = Code.flatten reference) :
    o.target? context = none ↔ ∀ target, ¬ o.Applies context reference target := by
  simp [SortOverride.applies_iff, SortOverride.isFor, hfor, Option.eq_none_iff_forall_ne_some]

theorem PassesOver.sortTarget (h : c.PassesOver context reference) :
    c.sortTarget context reference = reference := by
  obtain ⟨before, first, after, hsplit, hbefore, hfirst, hnone, _⟩ := h
  rw [sortTarget_of_some (sortOverride?_eq_some.mpr ⟨before, after, hsplit, hbefore, hfirst⟩),
    (target?_eq_none hfirst).mpr hnone]
  rfl

theorem means_sortTarget (h : ¬ c.PassesOver context reference) :
    c.Means context reference (c.sortTarget context reference) := by
  cases hfirst : c.sortOverride? reference with
  | none =>
      rw [sortTarget_of_none hfirst]
      refine .kept fun o ho target happlies => ?_
      exact sortOverride?_eq_none.mp hfirst o ho happlies.1
  | some first =>
      rw [sortTarget_of_some hfirst]
      obtain ⟨before, after, hsplit, hbefore, hfor⟩ := sortOverride?_eq_some.mp hfirst
      cases htarget : first.target? context with
      | some target =>
          refine .replaced (o := first) (by simp [hsplit]) (SortOverride.applies_iff.mpr ?_)
          exact ⟨by simpa [SortOverride.isFor] using hfor, htarget⟩
      | none =>
          have hnone := (target?_eq_none hfor).mp htarget
          refine .kept fun o ho target happlies => ?_
          rw [hsplit, List.mem_append, List.mem_cons] at ho
          rcases ho with ho | rfl | ho
          · exact hbefore o ho happlies.1
          · exact hnone target happlies
          · exact h ⟨before, first, after, hsplit, hbefore, hfor, hnone, o, ho, target, happlies⟩

/-! ## Sort orders -/

theorem ClauseOf.on_sortTarget {s : SortSpec} {clause : SortClause}
    (h : c.ClauseOf context s clause) (hs : ¬ s.IsPseudo) :
    ∃ f, c.field? (c.sortTarget context s.field) = some f ∧ f.sortable = true ∧
      clause.field = f.code ∧ clause.key = Code.flatten f.code ∧
      clause.direction = s.direction := by
  cases h with
  | pseudo hpseudo => exact absurd hpseudo hs
  | sortable _ htarget hf hsortable =>
      rw [htarget.unique (c.standsFor_sortTarget context s.field)] at hf
      exact ⟨_, hf, hsortable, rfl, rfl, rfl⟩

theorem unsortable_iff {s : SortSpec} (hs : ¬ s.IsPseudo) : c.Unsortable context s ↔
    ∀ f, c.field? (c.sortTarget context s.field) = some f → f.sortable = false := by
  have htarget := c.standsFor_sortTarget context s.field
  constructor
  · intro h f hf
    exact h.2 _ f htarget hf
  · refine fun h => ⟨hs, fun target f htarget' hf => h f ?_⟩
    rwa [← htarget'.unique htarget]

theorem sortOrder_singleton_eq_error {identifier : String} {s : SortSpec} :
    c.sortOrder identifier [s] context = .error (.unsortableField s.field) ↔
      c.Unsortable context s := by
  rw [sortOrder_eq_error]
  constructor
  · rintro ⟨before, s', after, hsplit, _, hs', _⟩
    cases before with
    | nil => cases hsplit; exact hs'
    | cons b before => cases before <;> cases hsplit
  · intro h
    exact ⟨[], s, [], rfl, by simp, h, rfl⟩

/-- A sort key is sorted on what the overrides mean by its field, unless an override that applies is
passed over, and then on the field itself; it is refused if that is not sortable. -/
theorem sorts_on_what_overrides_mean (c : Container) (identifier : String) (context : Context)
    {specs : List SortSpec} {i : Nat} {s : SortSpec} (hs : specs[i]? = some s)
    (hscore : s.field ≠ "_score") (hid : s.field ≠ "_id") :
    ∃ target, (¬ c.PassesOver context s.field → c.Means context s.field target) ∧
      (c.PassesOver context s.field → target = s.field) ∧
      (∀ clauses, c.sortOrder identifier specs context = .ok clauses →
        ∃ clause f, clauses[i]? = some clause ∧ c.field? target = some f ∧ f.sortable = true ∧
          clause.field = f.code ∧ clause.key = Code.flatten f.code ∧
          clause.direction = s.direction) ∧
      (c.sortOrder identifier [s] context = .error (.unsortableField s.field) ↔
        ∀ f, c.field? target = some f → f.sortable = false) := by
  have hpseudo : ¬ s.IsPseudo := not_or.mpr ⟨hscore, hid⟩
  refine ⟨c.sortTarget context s.field, means_sortTarget, PassesOver.sortTarget,
    fun clauses hclauses => ?_, sortOrder_singleton_eq_error.trans (unsortable_iff hpseudo)⟩
  have hne : specs ≠ [] := by rintro rfl; cases hs
  obtain ⟨own, extra, rfl, hown, _⟩ := (sortOrder_eq_ok hne).mp hclauses
  obtain ⟨hi, rfl⟩ := List.getElem?_eq_some_iff.mp hs
  have hi' : i < own.length := hown.length_eq ▸ hi
  obtain ⟨f, hf⟩ := (List.forall₂_iff_get.mp hown |>.2 i hi hi').on_sortTarget hpseudo
  refine ⟨own[i], f, ?_, hf⟩
  rw [List.getElem?_append_left hi', List.getElem?_eq_getElem hi']

end Container

namespace Shop

def byGroup : SortOverride where
  field := "price.list"
  contextKey := "group"
  targets := .ofList [("0", "price.special")]

def byCurrency : SortOverride where
  field := "price.list"
  contextKey := "currency"
  targets := .ofList [("usd", "price.dollar")]

/-- Products with a price of their own for some customers and one for payments in dollars. -/
def variouslyPriced : Container where
  name := "product"
  catalog := { id := 1, code := "fr" }
  indexName := "fr_product"
  fields := [
    { code := "price.list", type := .price, sortable := true, code_not_blank := by rfl },
    { code := "price.special", type := .price, sortable := true, code_not_blank := by rfl },
    { code := "price.dollar", type := .price, sortable := true, code_not_blank := by rfl }]
  sortOverrides := [byGroup, byCurrency]

/-- A special price is what is sorted by for the customers who have one, in whatever they pay. -/
theorem special_price_sorted_by :
    let context : Context := .ofList [("currency", "usd"), ("group", "0")]
    let order := variouslyPriced.sortOrder "id" [.mk "_score" .desc, .mk "price__list" .desc]
      context
    ¬ variouslyPriced.PassesOver context "price__list" ∧ (∃ clauses, order = .ok clauses) ∧
    ∃ target, variouslyPriced.Means context "price__list" target ∧
      ∀ clauses, order = .ok clauses → ∃ clause f, clauses[1]? = some clause ∧
        variouslyPriced.field? target = some f ∧ clause.field = f.code := by
  intro context order
  have htarget : variouslyPriced.sortTarget context "price__list" ≠ "price__list" := by
    decide +kernel
  have hpasses : ¬ variouslyPriced.PassesOver context "price__list" :=
    fun h => htarget h.sortTarget
  have hs : ([.mk "_score" .desc, .mk "price__list" .desc] : List SortSpec)[1]? =
      some (.mk "price__list" .desc) := rfl
  obtain ⟨target, hmeans, _, hclauses, _⟩ :=
    variouslyPriced.sorts_on_what_overrides_mean "id" context hs (by decide) (by decide)
  refine ⟨hpasses, ⟨_, rfl⟩, target, hmeans hpasses, fun clauses h => ?_⟩
  obtain ⟨clause, f, hclause, hf, _, hfield, _⟩ := hclauses clauses h
  exact ⟨clause, f, hclause, hf, hfield⟩

/-- Customers who pay in dollars and belong to no group have the price sorted by that is not in
dollars, though only the price in dollars is meant and it is sortable. -/
theorem dollar_price_passed_over :
    let context : Context := .ofList [("currency", "usd")]
    (∃ f, variouslyPriced.field? "price.dollar" = some f ∧ f.sortable = true) ∧
    variouslyPriced.Means context "price.list" "price.dollar" ∧
    (∀ target, variouslyPriced.Means context "price.list" target → target = "price.dollar") ∧
    variouslyPriced.sortOrder "id" [{ field := "price.list" }] context = .ok [
      { field := "price.list", key := "price__list", direction := .asc, missing := some .last,
        nestedPath := some "price" }, .score .desc] := by
  intro context
  have hcurrency : byCurrency.Applies context "price.list" "price.dollar" := ⟨rfl, "usd", rfl, rfl⟩
  have hmem : byCurrency ∈ variouslyPriced.sortOverrides := by simp [variouslyPriced]
  refine ⟨⟨_, rfl, rfl⟩, .replaced hmem hcurrency, fun target h => ?_, rfl⟩
  cases h with
  | replaced ho happlies =>
      obtain ⟨_, htarget⟩ := SortOverride.applies_iff.mp happlies
      rcases List.mem_pair.mp ho with rfl | rfl
      · cases htarget
      · cases htarget
        rfl
  | kept hnone => exact absurd hcurrency (hnone _ hmem _)

end Shop

end FacetedSearch
