import FacetedSearch.Proofs.Sort.Hits

/-!
# Stable sorting

The comparison of hits by several clauses is a total preorder, and hits in the order of the clauses
are the only rearrangement in which no hit stands before a lesser one and ties stand as they stood.
-/

namespace FacetedSearch

namespace SortableHit

variable {clauses : List SortClause} {a b c : SortableHit}

/-! ## Comparison by several clauses -/

theorem compareBy_cons (first : SortClause) (clauses : List SortClause) (a b : SortableHit) :
    compareBy (first :: clauses) a b = (first.compareHits a b).then (compareBy clauses a b) := rfl

/-- The first clause that tells two hits apart decides. -/
theorem compareBy_eq_find? (clauses : List SortClause) (a b : SortableHit) :
    compareBy clauses a b =
      ((clauses.map fun c => c.compareHits a b).find? (· != .eq)).getD .eq := by
  induction clauses with
  | nil => rfl
  | cons first clauses ih =>
      rw [compareBy_cons, List.map_cons]
      cases h : first.compareHits a b with
      | lt => rfl
      | gt => rfl
      | eq => rw [Ordering.eq_then, ih, List.find?_cons_of_neg (by simp)]

theorem compareBy_swap (clauses : List SortClause) (a b : SortableHit) :
    (compareBy clauses a b).swap = compareBy clauses b a :=
  Std.OrientedCmp.eq_swap.symm

theorem isLE_or_isLE (clauses : List SortClause) (a b : SortableHit) :
    (compareBy clauses a b).isLE ∨ (compareBy clauses b a).isLE := by
  rw [← compareBy_swap clauses a b]
  cases compareBy clauses a b <;> simp

theorem eq_of_isLE_of_isLE (hab : (compareBy clauses a b).isLE)
    (hba : (compareBy clauses b a).isLE) : compareBy clauses a b = .eq := by
  rw [← compareBy_swap clauses a b] at hba
  cases h : compareBy clauses a b <;> simp_all

theorem ties_equivalence (clauses : List SortClause) :
    Equivalence fun a b => compareBy clauses a b = .eq where
  refl _ := Std.ReflCmp.compare_self
  symm h := Std.OrientedCmp.eq_symm h
  trans hab hbc := Std.TransCmp.eq_trans hab hbc

/-! ## Stable sorts -/

/-- Whether no clause tells two hits apart. -/
def ties (clauses : List SortClause) (a b : SortableHit) : Bool := compareBy clauses a b == .eq

theorem ties_iff : ties clauses a b = true ↔ compareBy clauses a b = .eq := by
  simp [ties]

/-- A rearrangement of hits in which no hit stands before a lesser one, and the hits that tie with
any given one stand as they stood. -/
structure IsStableSort (clauses : List SortClause) (hits result : List SortableHit) : Prop where
  perm : result.Perm hits
  sorted : result.Pairwise fun a b => (compareBy clauses a b).isLE
  stable : ∀ hit, result.filter (ties clauses hit) = hits.filter (ties clauses hit)

theorem filter_order (clauses : List SortClause) (hits : List SortableHit) (hit : SortableHit) :
    (order clauses hits).filter (ties clauses hit) = hits.filter (ties clauses hit) := by
  have hties : (hits.filter (ties clauses hit)).Pairwise
      fun a b => (compareBy clauses a b).isLE = true := by
    refine List.pairwise_of_forall_mem_list ?_
    intro a ha b hb
    have ha := ties_iff.mp (List.mem_filter.mp ha).2
    have hb := ties_iff.mp (List.mem_filter.mp hb).2
    have hab := (ties_equivalence clauses).trans ((ties_equivalence clauses).symm ha) hb
    simp [hab]
  -- What is sorted already is a sublist of the sorted list.
  have hsub : (hits.filter (ties clauses hit)).Sublist (order clauses hits) := by
    refine List.sublist_mergeSort (fun a b c => Std.TransCmp.isLE_trans) ?_ hties
      List.filter_sublist
    intro a b
    simpa using isLE_or_isLE clauses a b
  have hfilter := hsub.filter (ties clauses hit)
  rw [List.filter_filter, funext fun other => Bool.and_self (ties clauses hit other)] at hfilter
  refine (hfilter.eq_of_length ?_).symm
  exact (((order_perm clauses hits).filter _).length_eq).symm

theorem isStableSort_order (clauses : List SortClause) (hits : List SortableHit) :
    IsStableSort clauses hits (order clauses hits) where
  perm := order_perm clauses hits
  sorted := pairwise_order clauses hits
  stable := filter_order clauses hits

theorem ties_self (clauses : List SortClause) (a : SortableHit) : ties clauses a a = true :=
  ties_iff.mpr ((ties_equivalence clauses).refl a)

theorem mem_of_filter_ties {xs ys : List SortableHit}
    (h : ∀ hit, xs.filter (ties clauses hit) = ys.filter (ties clauses hit)) (ha : a ∈ xs) :
    a ∈ ys := by
  have hmem : a ∈ xs.filter (ties clauses a) := List.mem_filter.mpr ⟨ha, ties_self clauses a⟩
  rw [h a] at hmem
  exact (List.mem_filter.mp hmem).1

theorem isLE_of_mem_cons {xs : List SortableHit}
    (h : (a :: xs).Pairwise fun a b => (compareBy clauses a b).isLE) (hb : b ∈ a :: xs) :
    (compareBy clauses a b).isLE := by
  rcases List.mem_cons.mp hb with rfl | hb
  · exact Std.ReflCmp.isLE_rfl
  · exact (List.pairwise_cons.mp h).1 b hb

/-- Two lists in order with the same ties in the same sequence are one list. -/
theorem eq_of_filter_ties {xs ys : List SortableHit}
    (hxs : xs.Pairwise fun a b => (compareBy clauses a b).isLE)
    (hys : ys.Pairwise fun a b => (compareBy clauses a b).isLE)
    (h : ∀ hit, xs.filter (ties clauses hit) = ys.filter (ties clauses hit)) : xs = ys := by
  induction xs generalizing ys with
  | nil =>
      refine (List.eq_nil_iff_forall_not_mem.mpr fun b hb => ?_).symm
      exact List.not_mem_nil (mem_of_filter_ties (fun hit => (h hit).symm) hb)
  | cons a xs ih =>
      have ha : a ∈ ys := mem_of_filter_ties h List.mem_cons_self
      cases ys with
      | nil => cases ha
      | cons b ys =>
          have hb : b ∈ a :: xs := mem_of_filter_ties (fun hit => (h hit).symm) List.mem_cons_self
          -- Each head stands before the other in one of the lists, and so they tie.
          have hab : ties clauses a b = true :=
            ties_iff.mpr (eq_of_isLE_of_isLE (isLE_of_mem_cons hxs hb) (isLE_of_mem_cons hys ha))
          have hheads := h a
          rw [List.filter_cons_of_pos (ties_self clauses a), List.filter_cons_of_pos hab] at hheads
          obtain ⟨rfl, _⟩ := List.cons.inj hheads
          refine congrArg (a :: ·) (ih hxs.tail hys.tail fun hit => ?_)
          have htails := h hit
          simp only [List.filter_cons] at htails
          split at htails
          · exact (List.cons.inj htails).2
          · exact htails

theorem order_eq_iff (clauses : List SortClause) (hits result : List SortableHit) :
    order clauses hits = result ↔ IsStableSort clauses hits result := by
  have horder := isStableSort_order clauses hits
  constructor
  · rintro rfl
    exact horder
  · intro h
    exact eq_of_filter_ties horder.sorted h.sorted fun hit =>
      (horder.stable hit).trans (h.stable hit).symm

/-- What holds along a list between hits that tie holds along the ties of each hit. -/
theorem pairwise_ties_iff {R : SortableHit → SortableHit → Prop} {hits : List SortableHit} :
    hits.Pairwise (fun a b => compareBy clauses a b = .eq → R a b) ↔
      ∀ hit, (hits.filter (ties clauses hit)).Pairwise R := by
  simp only [List.pairwise_filter, ties_iff]
  constructor
  · intro h hit
    refine h.imp fun {a b} hR ha hb => hR ?_
    exact (ties_equivalence clauses).trans ((ties_equivalence clauses).symm ha) hb
  · intro h
    refine List.pairwise_iff_forall_sublist.mpr fun {a b} hsub htie => ?_
    exact List.pairwise_iff_forall_sublist.mp (h a) hsub ((ties_equivalence clauses).refl a) htie

/-- Sorting changes nothing between hits that tie. -/
theorem pairwise_ties_order_iff {R : SortableHit → SortableHit → Prop} (hits : List SortableHit) :
    (order clauses hits).Pairwise (fun a b => compareBy clauses a b = .eq → R a b) ↔
      hits.Pairwise fun a b => compareBy clauses a b = .eq → R a b := by
  rw [pairwise_ties_iff, pairwise_ties_iff]
  simp only [filter_order]

/-- Comparing by the first clause that tells two hits apart is a total preorder, whatever the
clauses, and the hits in their order are the one stable sort of the hits. -/
theorem order_sorts_stably (clauses : List SortClause) :
    (∀ a b, compareBy clauses a b =
      ((clauses.map fun c => c.compareHits a b).find? (· != .eq)).getD .eq) ∧
    (∀ c ∈ clauses, ∀ a b, (c.compareHits a b).isLE ↔ c.Precedes (c.value? a) (c.value? b)) ∧
    (∀ a b, compareBy clauses b a = (compareBy clauses a b).swap) ∧
    (∀ a b c, (compareBy clauses a b).isLE → (compareBy clauses b c).isLE →
      (compareBy clauses a c).isLE) ∧
    (Equivalence fun a b => compareBy clauses a b = .eq) ∧
    ∀ hits result, order clauses hits = result ↔ IsStableSort clauses hits result := by
  exact ⟨compareBy_eq_find? clauses, fun c _ a b => SortClause.isLE_compareValues,
    fun a b => (compareBy_swap clauses a b).symm, fun a b c => Std.TransCmp.isLE_trans,
    ties_equivalence clauses, order_eq_iff clauses⟩

end SortableHit

end FacetedSearch
