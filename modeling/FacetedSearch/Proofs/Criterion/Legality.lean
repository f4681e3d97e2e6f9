import FacetedSearch.Proofs.Criterion.Translation
import FacetedSearch.Proofs.Query.Scalar

/-!
# Legal criteria

A criterion has a query exactly if each test in it is fit for the field it is on and each
combination in it combines something. Else the first test or empty combination that is not legal is
reported.
-/

namespace FacetedSearch

open Outcome

/-! ## Tests -/

/-- A test that makes sense on a field. -/
def Test.Legal (f : Field) : Test → Prop
  | equal eq oneOf => (eq = none ↔ oneOf ≠ none) ∧ oneOf ≠ some []
  | range bounds => (f.type.isNumeric = true ∨ f.type = .date) ∧ bounds.Legal
  | textMatch _ => f.type.isTextual = true
  | present => True

theorem Field.exists_wrapNested_iff {f : Field} {q : Query} {mode : ScoreMode} :
    (∃ r, f.wrapNested q mode = .ok r) ↔ ∀ path ∈ f.nestedPath, Text.isBlank path = false := by
  simp only [wrapNested]
  cases f.nestedPath with
  | none => simp
  | some path => simp [Query.nested?_eq_ok]

namespace Test

variable {f : Field} {reference : String} {t : Test}

theorem legal_iff : t.Legal f ↔
    ∃ c, t.condition? reference = .ok c ∧ f.type.supports c.kind = true ∧ c.Legal := by
  cases t with
  | equal eq oneOf =>
      cases eq <;> cases oneOf <;>
        simp [Legal, condition?, Condition.Legal, Condition.kind, FieldType.supports,
          Scalar.distinct_eq_nil]
  | range bounds =>
      simp [Legal, condition?, Condition.Legal, Condition.kind, FieldType.supports]
  | textMatch text =>
      simp [Legal, condition?, Condition.Legal, Condition.kind, FieldType.supports]
  | present =>
      simp [Legal, condition?, Condition.Legal, Condition.kind, FieldType.supports]

theorem exists_query?_iff : (∃ q, t.query? f reference = .ok q) ↔
    t.Legal f ∧ ∀ path ∈ f.nestedPath, Text.isBlank path = false := by
  simp only [query?_eq_ok, Query.checked_leaf, Query.checkLeaf_eq_ok, f.code_not_blank, true_and]
  constructor
  · rintro ⟨q, c, hc, hs, hl, hq⟩
    exact ⟨legal_iff.mpr ⟨c, hc, hs, hl⟩, Field.exists_wrapNested_iff.mp ⟨q, hq⟩⟩
  · rintro ⟨ht, hpath⟩
    obtain ⟨c, hc, hs, hl⟩ := legal_iff.mp ht
    obtain ⟨q, hq⟩ := Field.exists_wrapNested_iff.mpr hpath
    exact ⟨q, c, hc, hs, hl, hq⟩

end Test

namespace Criterion

variable {c : Container}

/-- A criterion whose tests are on filterable fields that they are fit for, none of them under a
blank path, and whose combinations have members. -/
inductive Legal (c : Container) : Criterion → Prop
  | leaf {reference test f} : c.Names reference f → f.filterable = true →
      (∀ path ∈ f.nestedPath, Text.isBlank path = false) → test.Legal f →
      Legal c (leaf reference test)
  | bool {must should mustNot} : must ≠ [] ∨ should ≠ [] ∨ mustNot ≠ [] →
      (∀ k ∈ must, Legal c k) → (∀ k ∈ should, Legal c k) → (∀ k ∈ mustNot, Legal c k) →
      Legal c (bool must should mustNot)

theorem exists_toQuery_leaf_iff {reference : String} {test : Test} :
    (∃ q, toQuery c (leaf reference test) = .ok q) ↔ (leaf reference test).Legal c := by
  simp only [toQuery_leaf_eq_ok, Container.field?_eq_some]
  constructor
  · rintro ⟨q, f, hf, hfilterable, hq⟩
    obtain ⟨ht, hpath⟩ := Test.exists_query?_iff.mp ⟨q, hq⟩
    exact .leaf hf hfilterable hpath ht
  · rintro ⟨hf, hfilterable, hpath, ht⟩
    obtain ⟨q, hq⟩ := Test.exists_query?_iff.mpr ⟨ht, hpath⟩
    exact ⟨q, _, hf, hfilterable, hq⟩

theorem exists_bool?_iff {must should mustNot : List Criterion} {ms ss ns : List Query}
    (hm : toQueries c must = .ok ms) (hs : toQueries c should = .ok ss)
    (hn : toQueries c mustNot = .ok ns) : (∃ q, Query.bool? ms ss ns = .ok q) ↔
      must ≠ [] ∨ should ≠ [] ∨ mustNot ≠ [] := by
  rw [ne_eq, ne_eq, ne_eq, ← toQueries_eq_nil hm, ← toQueries_eq_nil hs, ← toQueries_eq_nil hn]
  cases ms <;> cases ss <;> cases ns <;> simp [Query.bool?]

mutual

theorem exists_toQuery_iff : (k : Criterion) → ((∃ q, toQuery c k = .ok q) ↔ k.Legal c)
  | leaf _ _ => exists_toQuery_leaf_iff
  | bool must should mustNot => by
      simp only [toQuery, bind_eq_ok, mapError_eq_ok]
      constructor
      · rintro ⟨q, ms, hm, ss, hs, ns, hn, hq⟩
        exact .bool ((exists_bool?_iff hm hs hn).mp ⟨q, hq⟩)
          ((exists_toQueries_iff must).mp ⟨ms, hm⟩) ((exists_toQueries_iff should).mp ⟨ss, hs⟩)
          ((exists_toQueries_iff mustNot).mp ⟨ns, hn⟩)
      · intro h
        cases h with
        | bool hmembers hm hs hn =>
            obtain ⟨ms, hm⟩ := (exists_toQueries_iff must).mpr hm
            obtain ⟨ss, hs⟩ := (exists_toQueries_iff should).mpr hs
            obtain ⟨ns, hn⟩ := (exists_toQueries_iff mustNot).mpr hn
            obtain ⟨q, hq⟩ := (exists_bool?_iff hm hs hn).mpr hmembers
            exact ⟨q, ms, hm, ss, hs, ns, hn, hq⟩

theorem exists_toQueries_iff :
    (ks : List Criterion) → ((∃ qs, toQueries c ks = .ok qs) ↔ ∀ k ∈ ks, k.Legal c)
  | [] => by simp [toQueries]
  | k :: ks => by
      rw [List.forall_mem_cons, ← exists_toQuery_iff k, ← exists_toQueries_iff ks]
      simp only [toQueries, bind_eq_ok]
      constructor
      · rintro ⟨_, q, hq, qs, hqs, _⟩
        exact ⟨⟨q, hq⟩, qs, hqs⟩
      · rintro ⟨⟨q, hq⟩, qs, hqs⟩
        exact ⟨_, q, hq, qs, hqs, rfl⟩

end

/-! ## The first offence -/

mutual

/-- The tests in a criterion and the combinations without members, from left to right. -/
def atoms : Criterion → List Criterion
  | leaf reference test => [leaf reference test]
  | bool must should mustNot =>
    if must.isEmpty && should.isEmpty && mustNot.isEmpty then [bool must should mustNot]
    else atomsOf must ++ atomsOf should ++ atomsOf mustNot

def atomsOf : List Criterion → List Criterion
  | [] => []
  | k :: rest => atoms k ++ atomsOf rest

end

/-- The kind of error by which a criterion without criteria in it is refused. -/
inductive RefusedWith (c : Container) : Criterion → Error → Prop
  | unknown {reference test} : (∀ f ∈ c.fields, f.code ≠ reference ∧ f.key ≠ reference) →
      RefusedWith c (leaf reference test) (.unknownField reference c.name)
  | unfit {reference test f fault} : c.Names reference f →
      RefusedWith c (leaf reference test) (.malformedQuery fault)
  | empty : RefusedWith c (bool [] [] []) (.malformedQuery .noClauses)

theorem refusedWith_leaf {reference : String} {test : Test} {e : Error}
    (h : toQuery c (leaf reference test) = .error e) : (leaf reference test).RefusedWith c e := by
  simp only [toQuery, bind_eq_error, mapError_eq_error] at h
  rcases h with h | ⟨f, hf, fault, _, rfl⟩
  · rcases Container.filterableField_eq_error.mp h with ⟨hunknown, rfl⟩ | ⟨f, hf, _, rfl⟩
    · exact .unknown (Container.field?_eq_none.mp hunknown)
    · exact .unfit (Container.field?_eq_some.mp hf)
  · obtain ⟨hf, _⟩ := Container.filterableField_eq_ok.mp hf
    exact .unfit (Container.field?_eq_some.mp hf)

mutual

theorem mem_atoms : (k : Criterion) → ∀ a ∈ k.atoms,
    (∃ reference test, a = leaf reference test) ∨ a = bool [] [] []
  | leaf reference test, a, h => by
      rw [atoms] at h
      exact Or.inl ⟨reference, test, List.mem_singleton.mp h⟩
  | bool must should mustNot, a, h => by
      simp only [atoms] at h
      split at h
      · rename_i hempty
        simp only [Bool.and_eq_true, List.isEmpty_iff, and_assoc] at hempty
        obtain ⟨rfl, rfl, rfl⟩ := hempty
        exact Or.inr (List.mem_singleton.mp h)
      · simp only [List.mem_append, or_assoc] at h
        rcases h with h | h | h
        · exact mem_atomsOf must a h
        · exact mem_atomsOf should a h
        · exact mem_atomsOf mustNot a h

theorem mem_atomsOf : (ks : List Criterion) → ∀ a ∈ atomsOf ks,
    (∃ reference test, a = leaf reference test) ∨ a = bool [] [] []
  | [], a, h => by
      simp only [atomsOf] at h
      cases h
  | k :: ks, a, h => by
      simp only [atomsOf] at h
      rcases List.mem_append.mp h with h | h
      · exact mem_atoms k a h
      · exact mem_atomsOf ks a h

end

mutual

/-- What is reported of a criterion is what is reported of the first of its atoms that is refused. -/
theorem fault?_toQuery : (k : Criterion) →
    fault? (toQuery c k) = k.atoms.findSome? fun a => fault? (toQuery c a)
  | leaf reference test => by simp [atoms]
  | bool must should mustNot => by
      simp only [atoms]
      split
      · simp
      · rename_i hmembers
        have hbool : ∀ ms, toQueries c must = .ok ms → ∀ ss, toQueries c should = .ok ss →
            ∀ ns, toQueries c mustNot = .ok ns →
            fault? ((Query.bool? ms ss ns).mapError Error.malformedQuery) = none := by
          intro ms hm ss hs ns hn
          simp only [fault?_eq_none, mapError_eq_ok]
          refine (exists_bool?_iff hm hs hn).mpr ?_
          simpa [or_iff_not_imp_left] using hmembers
        rw [List.findSome?_append, List.findSome?_append, ← fault?_toQueries must,
          ← fault?_toQueries should, ← fault?_toQueries mustNot, Option.or_assoc]
        calc fault? (toQuery c (bool must should mustNot))
          _ = (fault? (toQueries c must)).or ((fault? (toQueries c should)).or
                ((fault? (toQueries c mustNot)).or none)) := by
              rw [toQuery]
              exact fault?_bind fun ms hm => fault?_bind fun ss hs => fault?_bind (hbool ms hm ss hs)
          _ = _ := by rw [Option.or_none]

theorem fault?_toQueries : (ks : List Criterion) →
    fault? (toQueries c ks) = (atomsOf ks).findSome? fun a => fault? (toQuery c a)
  | [] => rfl
  | k :: ks => by
      rw [atomsOf, List.findSome?_append, ← fault?_toQuery k, ← fault?_toQueries ks]
      calc fault? (toQueries c (k :: ks))
        _ = (fault? (toQuery c k)).or ((fault? (toQueries c ks)).or none) := by
            rw [toQueries]
            exact fault?_bind fun _ _ => fault?_bind fun _ _ => rfl
        _ = _ := by rw [Option.or_none]

end

/-- An error is that of the first atom that is not legal. -/
theorem toQuery_eq_error {k : Criterion} {e : Error} : toQuery c k = .error e ↔
    ∃ before offender after, k.atoms = before ++ offender :: after ∧
      (∀ a ∈ before, a.Legal c) ∧ toQuery c offender = .error e := by
  rw [← fault?_eq_some, fault?_toQuery, List.findSome?_eq_some_iff]
  simp only [fault?_eq_some, fault?_eq_none, exists_toQuery_iff]
  constructor
  · rintro ⟨before, offender, after, hsplit, herror, hbefore⟩
    exact ⟨before, offender, after, hsplit, hbefore, herror⟩
  · rintro ⟨before, offender, after, hsplit, hbefore, herror⟩
    exact ⟨before, offender, after, hsplit, herror, hbefore⟩

theorem not_legal_of_error {k : Criterion} {e : Error} (h : toQuery c k = .error e) :
    ¬ k.Legal c := by
  intro hlegal
  obtain ⟨q, hq⟩ := (exists_toQuery_iff k).mpr hlegal
  rw [h] at hq
  cases hq

end Criterion

/-- A criterion has a query exactly if it is legal. Else the error is that of the first of its tests
and empty combinations that is not: the field is unknown, or else the query is malformed. A query
that a criterion has passes the check, with all queries in it. -/
theorem Criterion.accepts_the_legal (c : Container) (k : Criterion) :
    ((∃ q, k.toQuery c = .ok q) ↔ k.Legal c) ∧
    (∀ e, k.toQuery c = .error e ↔ ∃ before offender after, k.atoms = before ++ offender :: after ∧
      (∀ a ∈ before, a.Legal c) ∧ ¬ offender.Legal c ∧ offender.toQuery c = .error e ∧
      offender.RefusedWith c e) ∧
    ∀ q, k.toQuery c = .ok q → q.Checked := by
  refine ⟨exists_toQuery_iff k, fun e => ?_, fun q => checked_handedOn.toQuery k⟩
  rw [toQuery_eq_error]
  constructor
  · rintro ⟨before, offender, after, hsplit, hbefore, herror⟩
    have hrefused : offender.RefusedWith c e := by
      rcases mem_atoms k offender (by simp [hsplit]) with ⟨reference, test, rfl⟩ | rfl
      · exact refusedWith_leaf herror
      · cases herror
        exact .empty
    exact ⟨before, offender, after, hsplit, hbefore, not_legal_of_error herror, herror, hrefused⟩
  · rintro ⟨before, offender, after, hsplit, hbefore, _, herror, _⟩
    exact ⟨before, offender, after, hsplit, hbefore, herror⟩

/-- The empty combination comes before the test on a field that may be unknown. -/
example (c : Container) :
    (Criterion.bool [.bool [] [] []] [.leaf "size" .present] []).toQuery c =
      .error (.malformedQuery .noClauses) := rfl

end FacetedSearch
