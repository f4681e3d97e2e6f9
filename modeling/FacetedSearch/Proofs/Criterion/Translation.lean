import FacetedSearch.Criterion.ToQuery
import FacetedSearch.Proofs.Field.Code
import FacetedSearch.Proofs.Query.Validity

/-!
# Queries of criteria

A criterion that is translated becomes a tree that passes the check, whose leaves are on filterable
fields of a fitting type and stand under the nested path of their field.
-/

namespace FacetedSearch

open Outcome

/-! ## Leaves -/

/-- A leaf with a condition on a code: bare if the code has no point, and else in a nested query on
the path that the code is nested under. -/
inductive Query.LeafAt (code : String) (c : Condition) : Query → Prop
  | bare {l} : Code.NestedUnder code none → LeafAt code c (.leaf code c l)
  | under {path mode l l'} : Code.NestedUnder code (some path) →
      LeafAt code c (.nested path (.leaf code c l) mode l')

namespace Field

theorem wrapNested_eq_ok {f : Field} {q r : Query} {mode : ScoreMode}
    (h : f.wrapNested q mode = .ok r) :
    (f.nestedPath = none ∧ r = q) ∨
      ∃ path, f.nestedPath = some path ∧ Text.isBlank path = false ∧ r = .nested path q mode {} := by
  simp only [wrapNested] at h
  split at h
  · rename_i path hp
    obtain ⟨hb, hr⟩ := Query.nested?_eq_ok.mp h
    exact Or.inr ⟨path, hp, hb, hr⟩
  · rename_i hp
    cases h
    exact Or.inl ⟨hp, rfl⟩

theorem wrapNested_checked {f : Field} {q r : Query} {mode : ScoreMode} (hq : q.Checked)
    (h : f.wrapNested q mode = .ok r) : r.Checked := by
  rcases wrapNested_eq_ok h with ⟨_, rfl⟩ | ⟨path, _, hb, rfl⟩
  · exact hq
  · exact Query.checked_nested.mpr ⟨hb, hq⟩

theorem wrapNested_leafAt {f : Field} {c : Condition} {l : Label} {r : Query} {mode : ScoreMode}
    (h : f.wrapNested (.leaf f.code c l) mode = .ok r) : r.LeafAt f.code c := by
  have hunder := f.nestedUnder
  rcases wrapNested_eq_ok h with ⟨hp, rfl⟩ | ⟨path, hp, _, rfl⟩
  · rw [hp] at hunder
    exact .bare hunder
  · rw [hp] at hunder
    exact .under hunder

theorem ensureSupports_eq_ok {f : Field} {k : Query.Kind} :
    f.ensureSupports k = .ok () ↔ f.type.supports k = true := by
  simp only [ensureSupports]
  split <;> simp_all

end Field

/-- A reference names the last declared of the fields whose code it is, as it stands or flattened. -/
def Container.Names (c : Container) (reference : String) (f : Field) : Prop :=
  (f.code = reference ∨ f.key = reference) ∧ ∃ before after, c.fields = before ++ f :: after ∧
    ∀ g ∈ after, g.code ≠ reference ∧ g.key ≠ reference

theorem Container.field?_eq_some {c : Container} {reference : String} {f : Field} :
    c.field? reference = some f ↔ c.Names reference f := by
  rw [field?, List.find?_eq_some_iff_append, Names]
  simp only [Bool.or_eq_true, beq_iff_eq, Bool.not_or, Bool.and_eq_true, Bool.not_eq_true',
    beq_eq_false_iff_ne]
  refine and_congr_right fun _ => ⟨?_, ?_⟩
  · rintro ⟨later, earlier, hsplit, hlater⟩
    refine ⟨earlier.reverse, later.reverse, ?_, fun g hg => hlater g (List.mem_reverse.mp hg)⟩
    simpa using congrArg List.reverse hsplit
  · rintro ⟨before, after, hsplit, hafter⟩
    refine ⟨after.reverse, before.reverse, ?_, fun g hg => hafter g (List.mem_reverse.mp hg)⟩
    simp [hsplit]

theorem Container.field?_eq_none {c : Container} {reference : String} :
    c.field? reference = none ↔ ∀ f ∈ c.fields, f.code ≠ reference ∧ f.key ≠ reference := by
  simp [field?]

theorem Container.requireField_eq_ok {c : Container} {reference : String} {f : Field} :
    c.requireField reference = .ok f ↔ c.field? reference = some f := by
  simp only [requireField]
  split <;> simp_all

theorem Container.requireField_failsOnly (c : Container) (reference : String) :
    FailsOnly Error.IsRefusal (c.requireField reference) := by
  simp only [requireField]
  split
  · exact .ok _
  · exact .error trivial

/-- A reference is taken to a filterable field in two places, which differ in their errors. -/
theorem Container.requireFilterable_eq_ok {c : Container} {reference : String} {f : Field}
    {e : Field → Error} :
    (do let g ← c.requireField reference; if g.filterable then .ok g else .error (e g)) =
      (.ok f : Result Field) ↔ c.field? reference = some f ∧ f.filterable = true := by
  simp only [bind_eq_ok, requireField_eq_ok]
  constructor
  · rintro ⟨g, hg, h⟩
    split at h
    · rename_i hf
      cases h
      exact ⟨hg, hf⟩
    · cases h
  · rintro ⟨hg, hf⟩
    exact ⟨f, hg, by simp [hf]⟩

theorem Container.requireFilterable_eq_error {c : Container} {reference : String}
    {unfit : Field → Error} {e : Error} :
    (do let g ← c.requireField reference; if g.filterable then .ok g else .error (unfit g)) =
      (.error e : Result Field) ↔
      (c.field? reference = none ∧ e = .unknownField reference c.name) ∨
      ∃ f, c.field? reference = some f ∧ f.filterable = false ∧ e = unfit f := by
  simp only [requireField]
  cases c.field? reference with
  | none => simp [bind, Except.bind, @eq_comm _ e]
  | some f => by_cases hf : f.filterable = true <;> simp [bind, Except.bind, hf, @eq_comm _ e]

theorem Container.requireFilterable_failsOnly {c : Container} (reference : String)
    {e : Field → Error} (he : ∀ f, (e f).IsRefusal) : FailsOnly Error.IsRefusal
      (do let g ← c.requireField reference; if g.filterable then .ok g else .error (e g)) := by
  refine .bind (c.requireField_failsOnly reference) fun f _ => ?_
  split
  · exact .ok f
  · exact .error (he f)

theorem Container.filterableField_eq_ok {c : Container} {reference : String} {f : Field} :
    c.filterableField reference = .ok f ↔ c.field? reference = some f ∧ f.filterable = true :=
  requireFilterable_eq_ok

theorem Container.filterableField_eq_error {c : Container} {reference : String} {e : Error} :
    c.filterableField reference = .error e ↔
      (c.field? reference = none ∧ e = .unknownField reference c.name) ∨
      ∃ f, c.field? reference = some f ∧ f.filterable = false ∧
        e = .malformedQuery (.notFilterable reference) :=
  requireFilterable_eq_error

theorem Container.filterableField_failsOnly (c : Container) (reference : String) :
    FailsOnly Error.IsRefusal (c.filterableField reference) :=
  requireFilterable_failsOnly reference fun _ => trivial

/-- What is behind the query of a test: the condition, which the field's type supports, on the code
of the field. -/
theorem Test.query?_eq_ok {t : Test} {f : Field} {reference : String} {q : Query} :
    t.query? f reference = .ok q ↔ ∃ c, t.condition? reference = .ok c ∧
      f.type.supports c.kind = true ∧ (Query.leaf f.code c {}).Checked ∧
      f.wrapNested (.leaf f.code c {}) = .ok q := by
  rw [query?, bind_eq_ok]
  refine exists_congr fun c => and_congr_right fun _ => ?_
  rw [check_bind_eq_ok, Field.ensureSupports_eq_ok, bind_eq_ok]
  refine and_congr_right fun _ => ?_
  simp only [Query.leaf?_eq_ok]
  constructor
  · rintro ⟨_, ⟨rfl, hl⟩, hq⟩
    exact ⟨hl, hq⟩
  · rintro ⟨hl, hq⟩
    exact ⟨_, ⟨rfl, hl⟩, hq⟩

/-! ## Trees -/

namespace Criterion

variable {c : Container}

theorem toQuery_leaf_eq_ok {reference : String} {test : Test} {q : Query} :
    toQuery c (leaf reference test) = .ok q ↔
      ∃ f, c.field? reference = some f ∧ f.filterable = true ∧ test.query? f reference = .ok q := by
  simp only [toQuery, bind_eq_ok, Container.filterableField_eq_ok, mapError_eq_ok, and_assoc]

theorem toQuery_bool_eq_ok {must should mustNot : List Criterion} {q : Query}
    (h : toQuery c (bool must should mustNot) = .ok q) :
    ∃ ms ss ns, toQueries c must = .ok ms ∧ toQueries c should = .ok ss ∧
      toQueries c mustNot = .ok ns ∧ q = .bool ms ss ns Query.defaultMinimumShouldMatch {} := by
  simp only [toQuery, bind_eq_ok, mapError_eq_ok] at h
  obtain ⟨ms, hm, ss, hs, ns, hn, hq⟩ := h
  exact ⟨ms, ss, ns, hm, hs, hn, Query.bool?_eq_ok hq⟩

theorem toQueries_eq_nil {ks : List Criterion} {qs : List Query}
    (h : toQueries c ks = .ok qs) : qs = [] ↔ ks = [] := by
  cases ks with
  | nil =>
      simp only [toQueries] at h
      cases h
      simp
  | cons k ks =>
      simp only [toQueries, bind_eq_ok] at h
      obtain ⟨q, _, qs, _, h⟩ := h
      cases h
      simp

/-- A property that translation hands on from the queries of tests to their combinations. -/
structure HandedOn (c : Container) (P : Query → Prop) : Prop where
  leaf : ∀ {reference test q}, toQuery c (leaf reference test) = .ok q → P q
  bool : ∀ {must should mustNot}, (∀ q ∈ must, P q) → (∀ q ∈ should, P q) →
    (∀ q ∈ mustNot, P q) → P (.bool must should mustNot Query.defaultMinimumShouldMatch {})

mutual

theorem HandedOn.toQuery {P : Query → Prop} (hP : HandedOn c P) :
    (k : Criterion) → ∀ {q}, toQuery c k = .ok q → P q
  | .leaf _ _, _, h => hP.leaf h
  | .bool must should mustNot, _, h => by
      obtain ⟨ms, ss, ns, hm, hs, hn, rfl⟩ := toQuery_bool_eq_ok h
      exact hP.bool (HandedOn.toQueries hP must hm) (HandedOn.toQueries hP should hs)
        (HandedOn.toQueries hP mustNot hn)

theorem HandedOn.toQueries {P : Query → Prop} (hP : HandedOn c P) :
    (ks : List Criterion) → ∀ {qs}, toQueries c ks = .ok qs → ∀ q ∈ qs, P q
  | [], _, h => by
      simp only [Criterion.toQueries] at h
      cases h
      simp
  | k :: ks, _, h => by
      simp only [Criterion.toQueries, bind_eq_ok] at h
      obtain ⟨q, hq, qs, hqs, h⟩ := h
      cases h
      exact List.forall_mem_cons.mpr ⟨HandedOn.toQuery hP k hq, HandedOn.toQueries hP ks hqs⟩

end

theorem checked_handedOn : HandedOn c Query.Checked where
  leaf h := by
    obtain ⟨f, _, _, hq⟩ := toQuery_leaf_eq_ok.mp h
    obtain ⟨cond, _, _, hl, hw⟩ := Test.query?_eq_ok.mp hq
    exact Field.wrapNested_checked hl hw
  bool hm hs hn := Query.checked_bool.mpr ⟨hm, hs, hn⟩

end Criterion

/-- A tree of combinations over leaves on filterable fields, whose types support the conditions. -/
inductive Query.OnFilterable (fields : List Field) : Query → Prop
  | leaf {f c q} : f ∈ fields → f.filterable = true → f.type.supports c.kind = true →
      LeafAt f.code c q → OnFilterable fields q
  | bool {must should mustNot minimum l} : (∀ q ∈ must, OnFilterable fields q) →
      (∀ q ∈ should, OnFilterable fields q) → (∀ q ∈ mustNot, OnFilterable fields q) →
      OnFilterable fields (.bool must should mustNot minimum l)

namespace Criterion

variable {c : Container}

theorem onFilterable_handedOn : HandedOn c (Query.OnFilterable c.fields) where
  leaf h := by
    obtain ⟨f, hf, hfilterable, hq⟩ := toQuery_leaf_eq_ok.mp h
    obtain ⟨cond, _, hs, _, hw⟩ := Test.query?_eq_ok.mp hq
    exact .leaf (Container.field?_mem hf) hfilterable hs (Field.wrapNested_leafAt hw)
  bool := .bool

/-! ## Refusals -/

mutual

theorem toQuery_failsOnly : (k : Criterion) → FailsOnly Error.IsRefusal (toQuery c k)
  | leaf reference test => by
      simp only [toQuery]
      exact .bind (c.filterableField_failsOnly reference) fun _ _ => .mapError fun _ => trivial
  | bool must should mustNot => by
      simp only [toQuery]
      refine .bind (toQueries_failsOnly must) fun _ _ => ?_
      refine .bind (toQueries_failsOnly should) fun _ _ => ?_
      exact .bind (toQueries_failsOnly mustNot) fun _ _ => .mapError fun _ => trivial

theorem toQueries_failsOnly : (ks : List Criterion) → FailsOnly Error.IsRefusal (toQueries c ks)
  | [] => by
      simp only [toQueries]
      exact .ok []
  | k :: ks => by
      simp only [toQueries]
      exact .bind (toQuery_failsOnly k) fun _ _ => .bind (toQueries_failsOnly ks) fun _ _ => .ok _

end

end Criterion

end FacetedSearch
