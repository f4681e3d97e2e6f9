import FacetedSearch.Proofs.Sort.Overrides
import FacetedSearch.Proofs.Sort.Stability
import Mathlib.Data.List.Pairwise

/-!
# Rising and falling order

A sort field gives one clause in each direction. Both count a hit by the same value if the hit has
no more than one there, and then the two orders are the reverse of each other: falling order turns
the comparison of values around, and moves the hits without one from the end to the front.
-/

namespace FacetedSearch

namespace SortClause

/-! ## The value of a hit -/

/-- The values of a document among which a clause chooses. -/
def candidates (c : SortClause) (hit : SortableHit) : Set SortValue :=
  if c.field = scoreField then {.number hit.score}
  else if c.field = idField then {.text hit.id}
  else hit.values c.field

variable {c up down : SortClause} {hit a b : SortableHit} {v : SortValue}

theorem candidates_congr (h : down.field = up.field) : down.candidates hit = up.candidates hit := by
  simp only [candidates, h]

theorem CountsBy.mem_values (h : c.CountsBy hit v) : v ∈ hit.values c.field := by
  cases hd : c.direction with
  | asc =>
      simp only [CountsBy, hd] at h
      exact h.1
  | desc =>
      simp only [CountsBy, hd] at h
      exact h.1

theorem value?_of_pseudo (hit : SortableHit) (h : c.field = scoreField ∨ c.field = idField) :
    ∃ v, c.value? hit = some v ∧ c.candidates hit = {v} := by
  by_cases hscore : c.field = scoreField
  · exact ⟨_, if_pos hscore, if_pos hscore⟩
  · have hid := h.resolve_left hscore
    exact ⟨_, (if_neg hscore).trans (if_pos hid), (if_neg hscore).trans (if_pos hid)⟩

theorem mem_candidates_of_value? (h : c.value? hit = some v) : v ∈ c.candidates hit := by
  by_cases hpseudo : c.field = scoreField ∨ c.field = idField
  · obtain ⟨w, hw, hcandidates⟩ := value?_of_pseudo hit hpseudo
    cases hw.symm.trans h
    rw [hcandidates, Set.mem_singleton_iff]
  · obtain ⟨hscore, hid⟩ := not_or.mp hpseudo
    rw [candidates, if_neg hscore, if_neg hid]
    exact (countsBy_of_value? hscore hid h).mem_values

theorem value?_eq_none_iff : c.value? hit = none ↔ c.candidates hit = ∅ := by
  by_cases hpseudo : c.field = scoreField ∨ c.field = idField
  · obtain ⟨w, hw, hcandidates⟩ := value?_of_pseudo hit hpseudo
    simp [hw, hcandidates]
  · obtain ⟨hscore, hid⟩ := not_or.mp hpseudo
    rw [candidates, if_neg hscore, if_neg hid]
    exact value?_eq_none hscore hid

/-- Where there is but one value to choose, the direction does not matter. -/
theorem value?_congr (h : down.field = up.field) (hsingle : (up.candidates hit).Subsingleton) :
    down.value? hit = up.value? hit := by
  cases hup : up.value? hit with
  | none => exact value?_eq_none_iff.mpr ((candidates_congr h).trans (value?_eq_none_iff.mp hup))
  | some v =>
      cases hdown : down.value? hit with
      | none =>
          have hempty := (candidates_congr h).symm.trans (value?_eq_none_iff.mp hdown)
          cases hup.symm.trans (value?_eq_none_iff.mpr hempty)
      | some w =>
          have hw : w ∈ up.candidates hit := candidates_congr h ▸ mem_candidates_of_value? hdown
          rw [hsingle hw (mem_candidates_of_value? hup)]

/-! ## Clauses in the two directions -/

/-- Clauses on one field in the two directions, each of which puts the hits without a value where
its direction does, unless no hit is without one. -/
structure Mirrored (up down : SortClause) : Prop where
  field : down.field = up.field
  rising : up.direction = .asc
  falling : down.direction = .desc
  missing : (up.field = scoreField ∨ up.field = idField) ∨
    up.missing = some .last ∧ down.missing = some .first

theorem Mirrored.compareValues (h : up.Mirrored down) {x y : Option SortValue}
    (hmissing : x.isSome ∧ y.isSome ∨ up.missing = some .last ∧ down.missing = some .first) :
    down.compareValues x y = (up.compareValues x y).swap := by
  cases x with
  | none =>
      cases y with
      | none => rfl
      | some w =>
          obtain ⟨hlast, hfirst⟩ := hmissing.resolve_left (by simp)
          simp [SortClause.compareValues, hlast, hfirst]
  | some v =>
      cases y with
      | none =>
          obtain ⟨hlast, hfirst⟩ := hmissing.resolve_left (by simp)
          simp [SortClause.compareValues, hlast, hfirst]
      | some w => simp only [SortClause.compareValues, h.rising, h.falling]

theorem Mirrored.compareHits (h : up.Mirrored down) (ha : (up.candidates a).Subsingleton)
    (hb : (up.candidates b).Subsingleton) :
    down.compareHits a b = (up.compareHits a b).swap := by
  rw [SortClause.compareHits, value?_congr h.field ha, value?_congr h.field hb]
  refine h.compareValues (h.missing.imp_left fun hpseudo => ?_)
  obtain ⟨v, hv, -⟩ := value?_of_pseudo a hpseudo
  obtain ⟨w, hw, -⟩ := value?_of_pseudo b hpseudo
  simp [hv, hw]

end SortClause

namespace SortableHit

variable {up down : SortClause} {hits : List SortableHit}

theorem compareBy_singleton (c : SortClause) (a b : SortableHit) :
    compareBy [c] a b = c.compareHits a b :=
  Ordering.then_eq

theorem eq_of_tie {clauses : List SortClause} {a b : SortableHit}
    (hties : hits.Pairwise fun a b => compareBy clauses a b ≠ .eq) (ha : a ∈ hits) (hb : b ∈ hits)
    (h : compareBy clauses a b = .eq) : a = b := by
  by_contra hne
  have : Std.Symm fun a b => compareBy clauses a b ≠ .eq :=
    ⟨fun a b hab hba => hab ((ties_equivalence clauses).symm hba)⟩
  exact hties.forall ha hb hne h

theorem order_mirrored (h : up.Mirrored down)
    (hsingle : ∀ hit ∈ hits, (up.candidates hit).Subsingleton)
    (hties : hits.Pairwise fun a b => up.compareHits a b ≠ .eq) :
    order [down] hits = (order [up] hits).reverse := by
  have hturn : ∀ a ∈ hits, ∀ b ∈ hits, compareBy [down] a b = compareBy [up] b a := by
    intro a ha b hb
    rw [← compareBy_swap [up] a b, compareBy_singleton, compareBy_singleton]
    exact h.compareHits (hsingle a ha) (hsingle b hb)
  have hup : ∀ hit ∈ order [up] hits, hit ∈ hits := fun hit => (order_perm [up] hits).mem_iff.mp
  have hsorted : (order [up] hits).reverse.Pairwise fun a b => (compareBy [down] a b).isLE := by
    refine List.pairwise_reverse.mpr ((pairwise_order [up] hits).imp_of_mem ?_)
    intro a b ha hb hab
    rw [hturn b (hup b hb) a (hup a ha)]
    exact hab
  have hperm : (order [down] hits).Perm (order [up] hits).reverse :=
    (order_perm [down] hits).trans ((order_perm [up] hits).symm.trans (List.reverse_perm _).symm)
  refine List.Perm.eq_of_pairwise (fun a b ha hb hab hba => ?_) (pairwise_order [down] hits) hsorted
    hperm
  have ha : a ∈ hits := (order_perm [down] hits).mem_iff.mp ha
  have hb : b ∈ hits := hup b (List.mem_reverse.mp hb)
  rw [hturn a ha b hb] at hab
  rw [hturn b hb a ha] at hba
  simp only [← compareBy_singleton] at hties
  exact eq_of_tie hties ha hb (eq_of_isLE_of_isLE hba hab)

end SortableHit

namespace Container

variable {c : Container} {context : Context} {reference : String}

theorem ClauseOf.mirrored {up down : SortClause}
    (hup : c.ClauseOf context { field := reference, direction := .asc } up)
    (hdown : c.ClauseOf context { field := reference, direction := .desc } down) :
    up.Mirrored down := by
  cases hup with
  | pseudo hpseudo =>
      cases hdown with
      | pseudo => exact ⟨rfl, rfl, rfl, Or.inl hpseudo⟩
      | sortable hfield => exact absurd hpseudo hfield
  | sortable hfield htarget hf =>
      cases hdown with
      | pseudo hpseudo => exact absurd hpseudo hfield
      | sortable _ htarget' hf' =>
          obtain rfl := htarget.unique htarget'
          cases hf.symm.trans hf'
          exact ⟨rfl, rfl, rfl, Or.inr ⟨rfl, rfl⟩⟩

theorem sortOrder_singleton {s : SortSpec} {clause : SortClause}
    (h : c.ClauseOf context s clause) (identifier : String) :
    ∃ rest, c.sortOrder identifier [s] context = .ok (clause :: rest) :=
  ⟨_, (sortOrder_eq_ok (by simp)).mpr
    ⟨[clause], _, rfl, .cons h .nil, breaksTies_tieBreak c identifier [clause]⟩⟩

/-- Sorting by one reference is refused in both directions or in none. Its two clauses are on one
field. Hits with at most one value there compare in falling order as they do the other way around in
rising order, and if no two of them tie, then each order is the reverse of the other. -/
theorem descending_mirrors_ascending (c : Container) (identifier : String) (context : Context)
    (reference : String) :
    (∃ e, c.sortOrder identifier [{ field := reference, direction := .asc }] context = .error e ∧
      c.sortOrder identifier [{ field := reference, direction := .desc }] context = .error e) ∨
    ∃ up ups down downs,
      c.sortOrder identifier [{ field := reference, direction := .asc }] context =
        .ok (up :: ups) ∧
      c.sortOrder identifier [{ field := reference, direction := .desc }] context =
        .ok (down :: downs) ∧
      down.field = up.field ∧
      (∀ a b, (up.candidates a).Subsingleton → (up.candidates b).Subsingleton →
        down.compareHits a b = (up.compareHits a b).swap) ∧
      ∀ hits, (∀ hit ∈ hits, (up.candidates hit).Subsingleton) →
        hits.Pairwise (fun a b => up.compareHits a b ≠ .eq) →
        SortableHit.order [down] hits = (SortableHit.order [up] hits).reverse := by
  have hrefused : ∀ direction, c.Unsortable context { field := reference, direction } →
      c.sortOrder identifier [{ field := reference, direction }] context =
        .error (.unsortableField reference) := fun _ => sortOrder_singleton_eq_error.mpr
  rcases c.clauseOf_or_unsortable context { field := reference, direction := .asc } with
    ⟨up, hup⟩ | hunsortable
  · rcases c.clauseOf_or_unsortable context { field := reference, direction := .desc } with
      ⟨down, hdown⟩ | hunsortable
    · obtain ⟨ups, hups⟩ := sortOrder_singleton hup identifier
      obtain ⟨downs, hdowns⟩ := sortOrder_singleton hdown identifier
      have hmirrored := hup.mirrored hdown
      exact Or.inr ⟨up, ups, down, downs, hups, hdowns, hmirrored.field,
        fun a b => hmirrored.compareHits, fun hits => SortableHit.order_mirrored hmirrored⟩
    -- What a key stands for does not depend on its direction.
    · exact Or.inl ⟨_, hrefused .asc hunsortable, hrefused .desc hunsortable⟩
  · exact Or.inl ⟨_, hrefused .asc hunsortable, hrefused .desc hunsortable⟩

-- With two prices a product may come before another one in both directions.
example :
    let price (direction : SortDirection) : SortClause :=
      { field := "price", key := "price", direction, missing := some direction.missing }
    let hit (source : Json) : SortableHit := { id := "", score := .one, source }
    ∀ direction, (price direction).compareHits (hit (.single "price" (.array [.int 3, .int 7])))
      (hit (.single "price" (.int 5))) = .lt := by
  intro _ _ direction
  cases direction <;> decide +kernel

end Container

namespace Shop

/-- A product with one price, one whose price is null and one without a price. -/
def singlePriced : List SortableHit := [
  { id := "a", score := .one, source := .single "price" (.single "price" (.int 5)) },
  { id := "b", score := .one, source := .object [] },
  { id := "c", score := .one, source := .single "price" (.array [.single "price" (.int 3)]) }]

/-- By falling price the products stand the other way around. -/
theorem prices_mirrored :
    (∀ hit ∈ singlePriced, (hit.values "price.price").Subsingleton) ∧ ∃ up ups down downs,
      priced.sortOrder "id" [{ field := "price__price", direction := .asc }] .empty =
        .ok (up :: ups) ∧
      priced.sortOrder "id" [{ field := "price__price", direction := .desc }] .empty =
        .ok (down :: downs) ∧
      SortableHit.order [down] singlePriced = (SortableHit.order [up] singlePriced).reverse := by
  have hsingle : ∀ hit ∈ singlePriced, (hit.values "price.price").Subsingleton := by
    have hall : ∀ hit ∈ singlePriced,
        ∀ v ∈ SortValue.allAt (Code.steps "price.price") hit.source,
        ∀ w ∈ SortValue.allAt (Code.steps "price.price") hit.source, v = w := by
      decide +kernel
    intro hit hhit v hv w hw
    rw [hit.values_eq] at hv hw
    exact hall hit hhit v hv w hw
  refine ⟨hsingle, ?_⟩
  rcases Container.descending_mirrors_ascending priced "id" .empty "price__price" with
    ⟨e, he, _⟩ | ⟨up, ups, down, downs, hup, hdown, _, _, hmirror⟩
  · cases he
  · refine ⟨up, ups, down, downs, hup, hdown, hmirror singlePriced ?_ ?_⟩
    · cases hup
      exact hsingle
    · cases hup
      decide +kernel

end Shop

end FacetedSearch
