import FacetedSearch.Proofs.Sort.Order
import FacetedSearch.Proofs.Sort.Value

/-!
# Hits in order

Clauses compare hits by a total preorder, so that sorting by them puts no hit before a lesser one.
Hits without a value at the first field stand together, where the direction places them, and the
others stand in the order of their least or their greatest value.
-/

namespace FacetedSearch

namespace SortClause

/-! ## Comparison -/

/-- The first of two values, either of which may be missing, may stand before the second. -/
def Precedes (c : SortClause) : Option SortValue → Option SortValue → Prop
  | some v, some w => match c.direction with
    | .asc => v ≤ w
    | .desc => w ≤ v
  | none, none => True
  | none, some _ => c.missing = some .first
  | some _, none => c.missing ≠ some .first

theorem isLE_compareValues {c : SortClause} {x y : Option SortValue} :
    (c.compareValues x y).isLE ↔ c.Precedes x y := by
  cases x with
  | none =>
      cases y with
      | none => simp [compareValues, Precedes]
      | some w =>
          simp only [compareValues, Precedes]
          split <;> simp_all
  | some v =>
      cases y with
      | none =>
          simp only [compareValues, Precedes]
          split <;> simp_all
      | some w =>
          cases hd : c.direction with
          | asc =>
              simp only [compareValues, Precedes, hd]
              exact SortValue.isLE_compare
          | desc =>
              simp only [compareValues, Precedes, hd, SortValue.compare_swap]
              exact SortValue.isLE_compare

theorem Precedes.trans {c : SortClause} {x y z : Option SortValue} (hxy : c.Precedes x y)
    (hyz : c.Precedes y z) : c.Precedes x z := by
  cases x with
  | none => cases y <;> cases z <;> simp_all [Precedes]
  | some u =>
      cases y with
      | none => cases z <;> simp_all [Precedes]
      | some v =>
          cases z with
          | none => simp_all [Precedes]
          | some w =>
              cases hd : c.direction with
              | asc =>
                  simp only [Precedes, hd] at hxy hyz ⊢
                  exact hxy.trans hyz
              | desc =>
                  simp only [Precedes, hd] at hxy hyz ⊢
                  exact hyz.trans hxy

theorem compareValues_swap (c : SortClause) (x y : Option SortValue) :
    (c.compareValues x y).swap = c.compareValues y x := by
  cases x with
  | none =>
      cases y with
      | none => rfl
      | some w =>
          simp only [compareValues]
          split <;> rfl
  | some v =>
      cases y with
      | none =>
          simp only [compareValues]
          split <;> rfl
      | some w =>
          cases hd : c.direction <;> simp only [compareValues, hd, SortValue.compare_swap]

instance (c : SortClause) : Std.TransCmp c.compareHits where
  eq_swap := (c.compareValues_swap _ _).symm
  isLE_trans := by
    simp only [compareHits, isLE_compareValues]
    exact Precedes.trans

end SortClause

namespace SortableHit

instance (clauses : List SortClause) : Std.TransCmp (compareBy clauses) := by
  induction clauses with
  | nil => exact { eq_swap := rfl, isLE_trans := fun _ _ => rfl }
  | cons c clauses ih =>
      exact inferInstanceAs (Std.TransCmp (compareLex c.compareHits (compareBy clauses)))

theorem order_perm (clauses : List SortClause) (hits : List SortableHit) :
    (order clauses hits).Perm hits :=
  List.mergeSort_perm hits _

theorem pairwise_order (clauses : List SortClause) (hits : List SortableHit) :
    (order clauses hits).Pairwise fun a b => (compareBy clauses a b).isLE := by
  refine List.pairwise_mergeSort (fun a b c => Std.TransCmp.isLE_trans) (fun a b => ?_) hits
  have hswap : compareBy clauses b a = (compareBy clauses a b).swap := Std.OrientedCmp.eq_swap
  rw [hswap]
  cases compareBy clauses a b <;> rfl

theorem pairwise_order_cons (c : SortClause) (clauses : List SortClause) (hits : List SortableHit) :
    (order (c :: clauses) hits).Pairwise fun a b => c.Precedes (c.value? a) (c.value? b) := by
  refine (pairwise_order (c :: clauses) hits).imp fun {a b} h => ?_
  rw [← SortClause.isLE_compareValues]
  change ((c.compareHits a b).then (compareBy clauses a b)).isLE at h
  rcases Ordering.isLE_then_iff_or.mp h with h | ⟨h, _⟩
  · exact Ordering.isLE_of_eq_lt h
  · exact Ordering.isLE_of_eq_eq h

end SortableHit

/-! ## Hits with and without a value -/

/-- The values of a document at the path of a field. -/
def SortableHit.values (hit : SortableHit) (field : String) : Set SortValue :=
  {v | hit.source.HoldsAt (Code.steps field) v}

theorem SortableHit.values_eq (hit : SortableHit) (field : String) :
    hit.values field = {v | v ∈ SortValue.allAt (Code.steps field) hit.source} :=
  Set.ext fun _ => (SortValue.mem_allAt _ _).symm

namespace SortClause

/-- What a document with several values counts by. -/
def CountsBy (c : SortClause) (hit : SortableHit) (v : SortValue) : Prop :=
  match c.direction with
  | .asc => IsLeast (hit.values c.field) v
  | .desc => IsGreatest (hit.values c.field) v

theorem CountsBy.precedes {c : SortClause} {hit : SortableHit} {v w : SortValue}
    (hv : c.CountsBy hit v) (hw : c.CountsBy hit w) : c.Precedes (some v) (some w) := by
  cases hd : c.direction with
  | asc =>
      simp only [CountsBy, Precedes, hd] at hv hw ⊢
      exact hv.2 hw.1
  | desc =>
      simp only [CountsBy, Precedes, hd] at hv hw ⊢
      exact hv.2 hw.1

variable {c : SortClause} (hscore : c.field ≠ scoreField) (hid : c.field ≠ idField)

include hscore hid

theorem value?_of_field (hit : SortableHit) : c.value? hit =
    match c.direction with
    | .asc => SortValue.least? (SortValue.allAt (Code.steps c.field) hit.source)
    | .desc => SortValue.greatest? (SortValue.allAt (Code.steps c.field) hit.source) :=
  (if_neg hscore).trans (if_neg hid)

theorem value?_eq_none {hit : SortableHit} : c.value? hit = none ↔ hit.values c.field = ∅ := by
  rw [value?_of_field hscore hid, hit.values_eq, Set.eq_empty_iff_forall_notMem]
  simp only [Set.mem_ofPred_eq, ← List.eq_nil_iff_forall_not_mem]
  cases c.direction with
  | asc => exact SortValue.least?_eq_none
  | desc => exact SortValue.greatest?_eq_none

theorem countsBy_of_value? {hit : SortableHit} {v : SortValue} (h : c.value? hit = some v) :
    c.CountsBy hit v := by
  rw [value?_of_field hscore hid] at h
  rw [CountsBy, hit.values_eq]
  cases hd : c.direction with
  | asc =>
      simp only [hd] at h ⊢
      exact SortValue.isLeast_of_least? h
  | desc =>
      simp only [hd] at h ⊢
      exact SortValue.isGreatest_of_greatest? h

theorem exists_countsBy {hit : SortableHit} (h : c.value? hit ≠ none) : ∃ v, c.CountsBy hit v := by
  obtain ⟨v, hv⟩ := Option.ne_none_iff_exists'.mp h
  exact ⟨v, countsBy_of_value? hscore hid hv⟩

/-- Hits that have values and stand in order do so by what they count by. -/
theorem pairwise_countsBy {hits : List SortableHit} (hsome : ∀ hit ∈ hits, c.value? hit ≠ none)
    (h : hits.Pairwise fun a b => c.Precedes (c.value? a) (c.value? b)) :
    hits.Pairwise fun a b => ∀ v w, c.CountsBy a v → c.CountsBy b w →
      c.Precedes (some v) (some w) := by
  refine h.imp_of_mem fun {a b} ha hb h v w hv hw => ?_
  obtain ⟨v', hv'⟩ := Option.ne_none_iff_exists'.mp (hsome a ha)
  obtain ⟨w', hw'⟩ := Option.ne_none_iff_exists'.mp (hsome b hb)
  rw [hv', hw'] at h
  have hfirst := hv.precedes (countsBy_of_value? hscore hid hv')
  have hlast := (countsBy_of_value? hscore hid hw').precedes hw
  exact (hfirst.trans h).trans hlast

end SortClause

namespace SortableHit

/-- What never comes back after it has ended is a prefix. -/
theorem exists_prefix {α : Type} {p : α → Prop} {xs : List α}
    (h : xs.Pairwise fun a b => p b → p a) :
    ∃ pre post, xs = pre ++ post ∧ (∀ a ∈ pre, p a) ∧ ∀ a ∈ post, ¬ p a := by
  induction xs with
  | nil => exact ⟨[], [], rfl, by simp, by simp⟩
  | cons x xs ih =>
      obtain ⟨hx, hxs⟩ := List.pairwise_cons.mp h
      by_cases hp : p x
      · obtain ⟨pre, post, rfl, hpre, hpost⟩ := ih hxs
        exact ⟨x :: pre, post, rfl, List.forall_mem_cons.mpr ⟨hp, hpre⟩, hpost⟩
      · exact ⟨[], x :: xs, rfl, by simp,
          List.forall_mem_cons.mpr ⟨hp, fun a ha hpa => hp (hx a ha hpa)⟩⟩

theorem order_missing_last {c : SortClause} (hlast : c.missing = some .last)
    (clauses : List SortClause) (hits : List SortableHit) :
    ∃ found without, order (c :: clauses) hits = found ++ without ∧
      (∀ hit ∈ found, c.value? hit ≠ none) ∧ (∀ hit ∈ without, c.value? hit = none) ∧
      found.Pairwise fun a b => c.Precedes (c.value? a) (c.value? b) := by
  have hordered := pairwise_order_cons c clauses hits
  have hkeep : (order (c :: clauses) hits).Pairwise fun a b =>
      c.value? b ≠ none → c.value? a ≠ none := by
    refine hordered.imp fun {a b} h hb ha => ?_
    obtain ⟨w, hw⟩ := Option.ne_none_iff_exists'.mp hb
    simp [ha, hw, SortClause.Precedes, hlast] at h
  obtain ⟨found, without, hsplit, hfound, hwithout⟩ := exists_prefix hkeep
  rw [hsplit] at hordered
  exact ⟨found, without, hsplit, hfound, fun hit hhit => not_not.mp (hwithout hit hhit),
    (List.pairwise_append.mp hordered).1⟩

theorem order_missing_first {c : SortClause} (hfirst : c.missing = some .first)
    (clauses : List SortClause) (hits : List SortableHit) :
    ∃ without found, order (c :: clauses) hits = without ++ found ∧
      (∀ hit ∈ without, c.value? hit = none) ∧ (∀ hit ∈ found, c.value? hit ≠ none) ∧
      found.Pairwise fun a b => c.Precedes (c.value? a) (c.value? b) := by
  have hordered := pairwise_order_cons c clauses hits
  have hkeep : (order (c :: clauses) hits).Pairwise fun a b =>
      c.value? b = none → c.value? a = none := by
    refine hordered.imp fun {a b} h hb => ?_
    by_contra ha
    obtain ⟨v, hv⟩ := Option.ne_none_iff_exists'.mp ha
    simp [hb, hv, SortClause.Precedes, hfirst] at h
  obtain ⟨without, found, hsplit, hwithout, hfound⟩ := exists_prefix hkeep
  rw [hsplit] at hordered
  exact ⟨without, found, hsplit, hwithout, hfound, (List.pairwise_append.mp hordered).2.1⟩

end SortableHit

namespace Container

theorem SortsBy.missing {c : Container} {s : SortClause} (h : c.SortsBy s)
    (hscore : s.field ≠ SortClause.scoreField) (hid : s.field ≠ SortClause.idField) :
    s.missing = some s.direction.missing := by
  cases h with
  | pseudo hfield => exact absurd hfield (not_or.mpr ⟨hscore, hid⟩)
  | sortable => rfl

/-- Sorting by the clauses of a sort order whose first is on a field keeps the hits, parts those
with a value at the field from those without one, and puts the former in the order of their least
values ascending or of their greatest descending. -/
theorem hits_in_order {c : Container} {identifier : String} {specs : List SortSpec}
    {context : Context} {first : SortClause} {rest : List SortClause}
    (h : c.sortOrder identifier specs context = .ok (first :: rest))
    (hscore : first.field ≠ "_score") (hid : first.field ≠ "_id") (hits : List SortableHit) :
    (SortableHit.order (first :: rest) hits).Perm hits ∧
    (first.direction = .asc → ∃ found without,
      SortableHit.order (first :: rest) hits = found ++ without ∧
      (∀ hit ∈ without, hit.values first.field = ∅) ∧
      (∀ hit ∈ found, ∃ v, IsLeast (hit.values first.field) v) ∧
      found.Pairwise fun a b => ∀ v w, IsLeast (a.values first.field) v →
        IsLeast (b.values first.field) w → v ≤ w) ∧
    (first.direction = .desc → ∃ without found,
      SortableHit.order (first :: rest) hits = without ++ found ∧
      (∀ hit ∈ without, hit.values first.field = ∅) ∧
      (∀ hit ∈ found, ∃ v, IsGreatest (hit.values first.field) v) ∧
      found.Pairwise fun a b => ∀ v w, IsGreatest (a.values first.field) v →
        IsGreatest (b.values first.field) w → w ≤ v) := by
  have hmissing := (sortsBy_of_sortOrder h first List.mem_cons_self).missing hscore hid
  refine ⟨SortableHit.order_perm _ hits, fun hd => ?_, fun hd => ?_⟩
  · rw [hd] at hmissing
    obtain ⟨found, without, hsplit, hfound, hwithout, hordered⟩ :=
      SortableHit.order_missing_last hmissing rest hits
    refine ⟨found, without, hsplit, fun hit hhit => ?_, fun hit hhit => ?_, ?_⟩
    · exact (SortClause.value?_eq_none hscore hid).mp (hwithout hit hhit)
    · simpa [SortClause.CountsBy, hd] using SortClause.exists_countsBy hscore hid (hfound hit hhit)
    · simpa [SortClause.CountsBy, SortClause.Precedes, hd] using
        SortClause.pairwise_countsBy hscore hid hfound hordered
  · rw [hd] at hmissing
    obtain ⟨without, found, hsplit, hwithout, hfound, hordered⟩ :=
      SortableHit.order_missing_first hmissing rest hits
    refine ⟨without, found, hsplit, fun hit hhit => ?_, fun hit hhit => ?_, ?_⟩
    · exact (SortClause.value?_eq_none hscore hid).mp (hwithout hit hhit)
    · simpa [SortClause.CountsBy, hd] using SortClause.exists_countsBy hscore hid (hfound hit hhit)
    · simpa [SortClause.CountsBy, SortClause.Precedes, hd] using
        SortClause.pairwise_countsBy hscore hid hfound hordered

end Container

namespace Shop

/-- Products that are sorted by a price inside a nested object. -/
def priced : Container where
  name := "product"
  catalog := { id := 1, code := "fr" }
  indexName := "product_fr"
  fields := [{ code := "price.price", type := .price, sortable := true, code_not_blank := by rfl }]

/-- A product with two prices, one without a price, one with a single price and one whose price is
null. -/
def hits : List SortableHit := [
  { id := "a", score := .one, source := .single "price" (.array [.single "price" (.int 7),
    .single "price" (.int 3)]) },
  { id := "b", score := .one, source := .object [] },
  { id := "c", score := .one, source := .single "price" (.single "price" (.int 5)) },
  { id := "d", score := .one, source := .single "price" (.single "price" .null) }]

/-- By falling price, the products without one come first. -/
theorem hits_by_falling_price :
    let price : SortClause :=
      { field := "price.price", key := "price__price", direction := .desc, missing := some .first,
        nestedPath := some "price" }
    priced.sortOrder "id" [{ field := "price__price", direction := .desc }] .empty =
      .ok [price, .score .desc] ∧
    ∃ without found, SortableHit.order [price, .score .desc] hits = without ++ found ∧
      (∀ hit ∈ without, hit.values "price.price" = ∅) ∧
      (∀ hit ∈ found, ∃ v, IsGreatest (hit.values "price.price") v) ∧
      found.Pairwise fun a b => ∀ v w, IsGreatest (a.values "price.price") v →
        IsGreatest (b.values "price.price") w → w ≤ v := by
  intro price
  have h : priced.sortOrder "id" [{ field := "price__price", direction := .desc }] .empty =
      .ok [price, .score .desc] := by rfl
  exact ⟨h, (Container.hits_in_order h (by decide) (by decide) hits).2.2 rfl⟩

end Shop

end FacetedSearch
