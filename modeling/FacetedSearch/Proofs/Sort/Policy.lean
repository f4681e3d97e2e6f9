import FacetedSearch.Proofs.Sort.Order

/-!
# What a sort order consists of

A sort order has one clause for each sort key, and then at most one that breaks ties. It is refused
exactly if some key stands for no sortable field, and the first such key is reported.
-/

namespace FacetedSearch

open Outcome

/-- Sorts by relevance or by the backend's identifier. -/
def SortSpec.IsPseudo (s : SortSpec) : Prop :=
  s.field = SortClause.scoreField ∨ s.field = SortClause.idField

theorem SortSpec.IsPseudo.flatten_field {s : SortSpec} (h : s.IsPseudo) :
    Code.flatten s.field = s.field := by
  rcases h with h | h <;> rw [h] <;> rfl

namespace Container

variable {c : Container} {context : Context}

/-! ## Sort keys -/

/-- The first override for a field has a target for the value in the context. -/
def Replaces (c : Container) (context : Context) (reference target : String) : Prop :=
  ∃ o value, c.sortOverride? reference = some o ∧ context.get? o.contextKey = some value ∧
    o.targets.get? value = some target

/-- What a reference to a sort field stands for in a context: the target in its place, or else the
reference itself. -/
inductive StandsFor (c : Container) (context : Context) (reference : String) : String → Prop
  | replaced {target} : c.Replaces context reference target → StandsFor c context reference target
  | kept : (∀ target, ¬ c.Replaces context reference target) →
      StandsFor c context reference reference

theorem replaces_iff {reference target : String} : c.Replaces context reference target ↔
    ((c.sortOverride? reference).bind fun o => o.target? context) = some target := by
  simp only [Replaces, SortOverride.target?, Option.bind_eq_some_iff, exists_and_left]

theorem standsFor_sortTarget (c : Container) (context : Context) (reference : String) :
    c.StandsFor context reference (c.sortTarget context reference) := by
  cases h : (c.sortOverride? reference).bind fun o => o.target? context with
  | none =>
      simp only [sortTarget, h, Option.getD_none]
      exact .kept fun target => by simp [replaces_iff, h]
  | some target =>
      simp only [sortTarget, h, Option.getD_some]
      exact .replaced (replaces_iff.mpr h)

theorem StandsFor.unique {reference target target' : String}
    (h : c.StandsFor context reference target) (h' : c.StandsFor context reference target') :
    target = target' := by
  cases h with
  | replaced h =>
      cases h' with
      | replaced h' =>
          exact Option.some_inj.mp ((replaces_iff.mp h).symm.trans (replaces_iff.mp h'))
      | kept hnone => exact absurd h (hnone _)
  | kept hnone =>
      cases h' with
      | replaced h' => exact absurd h' (hnone _)
      | kept => rfl

/-- The clause that a sort key becomes. -/
inductive ClauseOf (c : Container) (context : Context) (s : SortSpec) : SortClause → Prop
  | pseudo : s.IsPseudo → ClauseOf c context s
      { field := s.field, key := Code.flatten s.field, direction := s.direction, missing := none }
  | sortable {target f} : ¬ s.IsPseudo → c.StandsFor context s.field target →
      c.field? target = some f → f.sortable = true → ClauseOf c context s
        { field := f.code
          key := Code.flatten f.code
          direction := s.direction
          missing := some (match s.direction with | .asc => .last | .desc => .first)
          nestedPath := f.nestedPath }

/-- A sort key that stands for no sortable field. -/
def Unsortable (c : Container) (context : Context) (s : SortSpec) : Prop :=
  ¬ s.IsPseudo ∧ ∀ target f, c.StandsFor context s.field target → c.field? target = some f →
    f.sortable = false

theorem sortableField?_eq_some {reference : String} {f : Field} :
    c.sortableField? reference = some f ↔ c.field? reference = some f ∧ f.sortable = true :=
  Option.filter_eq_some_iff

theorem sortableField?_eq_none {reference : String} :
    c.sortableField? reference = none ↔ ∀ f, c.field? reference = some f → f.sortable = false := by
  simp [sortableField?, Option.filter_eq_none_iff]

theorem sortClause_eq (f : Field) (direction : SortDirection) : sortClause f direction =
    { field := f.code
      key := Code.flatten f.code
      direction
      missing := some (match direction with | .asc => .last | .desc => .first)
      nestedPath := f.nestedPath } := by
  cases direction <;> rfl

theorem resolveSort_of_not_pseudo {s : SortSpec} {target : String} (hpseudo : ¬ s.IsPseudo)
    (htarget : c.StandsFor context s.field target) : c.resolveSort context s =
      match c.sortableField? target with
      | some f => .ok (sortClause f s.direction)
      | none => .error (.unsortableField s.field) := by
  rw [htarget.unique (c.standsFor_sortTarget context s.field)]
  exact if_neg hpseudo

theorem ClauseOf.resolveSort {s : SortSpec} {clause : SortClause}
    (h : c.ClauseOf context s clause) : c.resolveSort context s = .ok clause := by
  cases h with
  | pseudo hpseudo =>
      rw [hpseudo.flatten_field]
      exact if_pos hpseudo
  | sortable hpseudo htarget hf hsortable =>
      rw [resolveSort_of_not_pseudo hpseudo htarget,
        sortableField?_eq_some.mpr ⟨hf, hsortable⟩, ← sortClause_eq]

theorem Unsortable.resolveSort {s : SortSpec} (h : c.Unsortable context s) :
    c.resolveSort context s = .error (.unsortableField s.field) := by
  have htarget := c.standsFor_sortTarget context s.field
  rw [resolveSort_of_not_pseudo h.1 htarget,
    sortableField?_eq_none.mpr fun f hf => h.2 _ f htarget hf]

theorem clauseOf_or_unsortable (c : Container) (context : Context) (s : SortSpec) :
    (∃ clause, c.ClauseOf context s clause) ∨ c.Unsortable context s := by
  have htarget := c.standsFor_sortTarget context s.field
  by_cases hpseudo : s.IsPseudo
  · exact Or.inl ⟨_, .pseudo hpseudo⟩
  · cases hf : c.sortableField? (c.sortTarget context s.field) with
    | some f =>
        obtain ⟨hf, hsortable⟩ := sortableField?_eq_some.mp hf
        exact Or.inl ⟨_, .sortable hpseudo htarget hf hsortable⟩
    | none =>
        refine Or.inr ⟨hpseudo, fun target f htarget' hfield => ?_⟩
        rw [htarget'.unique htarget] at hfield
        exact sortableField?_eq_none.mp hf f hfield

theorem resolveSort_eq_ok {s : SortSpec} {clause : SortClause} :
    c.resolveSort context s = .ok clause ↔ c.ClauseOf context s clause := by
  refine ⟨fun h => ?_, ClauseOf.resolveSort⟩
  rcases c.clauseOf_or_unsortable context s with ⟨clause', h'⟩ | hunsortable
  · cases h.symm.trans h'.resolveSort
    exact h'
  · cases h.symm.trans hunsortable.resolveSort

theorem resolveSort_eq_error {s : SortSpec} {e : Error} : c.resolveSort context s = .error e ↔
    c.Unsortable context s ∧ e = .unsortableField s.field := by
  constructor
  · intro h
    rcases c.clauseOf_or_unsortable context s with ⟨clause', h'⟩ | hunsortable
    · cases h.symm.trans h'.resolveSort
    · cases h.symm.trans hunsortable.resolveSort
      exact ⟨hunsortable, rfl⟩
  · rintro ⟨hunsortable, rfl⟩
    exact hunsortable.resolveSort

theorem not_unsortable_iff {s : SortSpec} :
    ¬ c.Unsortable context s ↔ ∃ clause, c.resolveSort context s = .ok clause := by
  constructor
  · intro h
    obtain ⟨clause, hclause⟩ := (c.clauseOf_or_unsortable context s).resolve_right h
    exact ⟨clause, hclause.resolveSort⟩
  · rintro ⟨clause, hclause⟩ h
    cases hclause.symm.trans h.resolveSort

/-! ## Breaking ties -/

/-- What is added to the clauses of the sort keys: relevance, or the identifier where relevance is
sorted by already, unless that is not sortable or sorted by too. -/
inductive BreaksTies (c : Container) (identifier : String) (own : List SortClause) :
    List SortClause → Prop
  | relevance : (∀ s ∈ own, s.field ≠ SortClause.scoreField) → BreaksTies c identifier own
      [{ field := SortClause.scoreField, key := SortClause.scoreField, direction := .desc }]
  | identifier {f} : (∃ s ∈ own, s.field = SortClause.scoreField) →
      c.field? identifier = some f → f.sortable = true → (∀ s ∈ own, s.field ≠ f.code) →
      BreaksTies c identifier own
        [{ field := f.code
           key := Code.flatten f.code
           direction := .desc
           missing := some .first
           nestedPath := f.nestedPath }]
  | nothing : (∃ s ∈ own, s.field = SortClause.scoreField) →
      (∀ f, c.field? identifier = some f → f.sortable = true → ∃ s ∈ own, s.field = f.code) →
      BreaksTies c identifier own []

theorem breaksTies_tieBreak (c : Container) (identifier : String) (own : List SortClause) :
    c.BreaksTies identifier own (c.tieBreak identifier own).toList := by
  have hscore : own.any (·.isScore) = true ↔ ∃ s ∈ own, s.field = SortClause.scoreField := by
    simp [SortClause.isScore]
  by_cases hany : own.any (·.isScore) = true
  · rw [tieBreak, if_pos hany]
    cases hf : c.sortableField? identifier with
    | none =>
        refine .nothing (hscore.mp hany) fun f hfield hsortable => ?_
        rw [sortableField?_eq_none.mp hf f hfield] at hsortable
        cases hsortable
    | some f =>
        obtain ⟨hfield, hsortable⟩ := sortableField?_eq_some.mp hf
        by_cases hused : own.any (·.field == f.code) = true
        · simp only [if_pos hused]
          refine .nothing (hscore.mp hany) fun f' hfield' _ => ?_
          cases hfield.symm.trans hfield'
          simpa using hused
        · simp only [if_neg hused, sortClause_eq]
          exact .identifier (hscore.mp hany) hfield hsortable (by simpa using hused)
  · rw [tieBreak, if_neg hany]
    exact .relevance (by simpa [SortClause.isScore] using hany)

theorem BreaksTies.unique {identifier : String} {own extra extra' : List SortClause}
    (h : c.BreaksTies identifier own extra) (h' : c.BreaksTies identifier own extra') :
    extra = extra' := by
  cases h with
  | relevance hnone =>
      cases h' with
      | relevance => rfl
      | identifier hsome => obtain ⟨s, hs, hscore⟩ := hsome; exact absurd hscore (hnone s hs)
      | nothing hsome => obtain ⟨s, hs, hscore⟩ := hsome; exact absurd hscore (hnone s hs)
  | identifier hsome hfield hsortable hfresh =>
      cases h' with
      | relevance hnone => obtain ⟨s, hs, hscore⟩ := hsome; exact absurd hscore (hnone s hs)
      | identifier _ hfield' => cases hfield.symm.trans hfield'; rfl
      | nothing _ hused =>
          obtain ⟨s, hs, hcode⟩ := hused _ hfield hsortable
          exact absurd hcode (hfresh s hs)
  | nothing hsome hused =>
      cases h' with
      | relevance hnone => obtain ⟨s, hs, hscore⟩ := hsome; exact absurd hscore (hnone s hs)
      | identifier _ hfield hsortable hfresh =>
          obtain ⟨s, hs, hcode⟩ := hused _ hfield hsortable
          exact absurd hcode (hfresh s hs)
      | nothing => rfl

theorem BreaksTies.exists_score {identifier : String} {own extra : List SortClause}
    (h : c.BreaksTies identifier own extra) :
    ∃ s ∈ own ++ extra, s.field = SortClause.scoreField := by
  have hown : (∃ s ∈ own, s.field = SortClause.scoreField) →
      ∃ s ∈ own ++ extra, s.field = SortClause.scoreField :=
    fun ⟨s, hs, hscore⟩ => ⟨s, List.mem_append_left _ hs, hscore⟩
  cases h with
  | relevance => exact ⟨_, List.mem_append_right _ List.mem_cons_self, rfl⟩
  | identifier hsome => exact hown hsome
  | nothing hsome => exact hown hsome

theorem BreaksTies.field_ne {identifier : String} {own extra : List SortClause}
    (h : c.BreaksTies identifier own extra) : ∀ s ∈ extra, ∀ p ∈ own, p.field ≠ s.field := by
  cases h with
  | relevance hnone => simpa using hnone
  | identifier _ _ _ hfresh => simpa using hfresh
  | nothing => simp

/-! ## Sort orders -/

variable {identifier : String} {specs : List SortSpec}

theorem sortOrder_nil (c : Container) (identifier : String) (context : Context) :
    c.sortOrder identifier [] context = .ok [.score .desc] := rfl

theorem sortOrder_of_ne_nil (h : specs ≠ []) : c.sortOrder identifier specs context =
    specs.mapM (c.resolveSort context) >>= fun own =>
      .ok (own ++ (c.tieBreak identifier own).toList) :=
  if_neg (by simpa using h)

theorem sortOrder_eq_ok {clauses : List SortClause} (h : specs ≠ []) :
    c.sortOrder identifier specs context = .ok clauses ↔ ∃ own extra, clauses = own ++ extra ∧
      List.Forall₂ (c.ClauseOf context) specs own ∧ c.BreaksTies identifier own extra := by
  rw [sortOrder_of_ne_nil h, bind_eq_ok]
  simp only [mapM_eq_ok, resolveSort_eq_ok]
  constructor
  · rintro ⟨own, hown, hclauses⟩
    cases hclauses
    exact ⟨own, _, rfl, hown, c.breaksTies_tieBreak identifier own⟩
  · rintro ⟨own, extra, rfl, hown, hextra⟩
    exact ⟨own, hown, by rw [hextra.unique (c.breaksTies_tieBreak identifier own)]⟩

theorem sortOrder_eq_error {e : Error} : c.sortOrder identifier specs context = .error e ↔
    ∃ before s after, specs = before ++ s :: after ∧ (∀ p ∈ before, ¬ c.Unsortable context p) ∧
      c.Unsortable context s ∧ e = .unsortableField s.field := by
  by_cases h : specs = []
  · subst h
    simp [sortOrder_nil]
  · have hmap : c.sortOrder identifier specs context = .error e ↔
        specs.mapM (c.resolveSort context) = .error e := by
      rw [sortOrder_of_ne_nil h, bind_eq_error]
      simp
    simp only [hmap, mapM_eq_error, resolveSort_eq_error, not_unsortable_iff]

/-- The clauses of a sort order are those of its keys in their order and one that breaks ties. Some
clause is on relevance, and none is added on a field that a key is on. -/
theorem sortOrder_policy (c : Container) (identifier : String) (specs : List SortSpec)
    (context : Context) :
    (∀ e, c.sortOrder identifier specs context = .error e ↔ ∃ before s after,
      specs = before ++ s :: after ∧ (∀ p ∈ before, ¬ c.Unsortable context p) ∧
        c.Unsortable context s ∧ e = .unsortableField s.field) ∧
    (∀ clauses, c.sortOrder identifier specs context = .ok clauses ↔
      (specs = [] ∧ clauses = [{ field := "_score", key := "_score", direction := .desc }]) ∨
      (specs ≠ [] ∧ ∃ own extra, clauses = own ++ extra ∧
        List.Forall₂ (c.ClauseOf context) specs own ∧ c.BreaksTies identifier own extra)) ∧
    ∀ clauses, c.sortOrder identifier specs context = .ok clauses →
      (∃ s ∈ clauses, s.field = "_score") ∧
      ∀ s ∈ clauses.drop specs.length, ∀ p ∈ clauses.take specs.length, p.field ≠ s.field := by
  refine ⟨fun e => sortOrder_eq_error, fun clauses => ?_, fun clauses hclauses => ?_⟩
  · by_cases h : specs = []
    · subst h
      simp only [sortOrder_nil, Except.ok.injEq, eq_comm, true_and, ne_eq, not_true_eq_false,
        false_and, or_false]
      rfl
    · simp only [h, false_and, false_or, ne_eq, not_false_eq_true, true_and, sortOrder_eq_ok h]
  · by_cases h : specs = []
    · subst h
      cases hclauses
      exact ⟨⟨_, List.mem_cons_self, rfl⟩, by simp⟩
    · obtain ⟨own, extra, rfl, hown, hextra⟩ := (sortOrder_eq_ok h).mp hclauses
      refine ⟨hextra.exists_score, ?_⟩
      rw [hown.length_eq, List.drop_left, List.take_left]
      exact hextra.field_ne

end Container

end FacetedSearch
