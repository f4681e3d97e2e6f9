import FacetedSearch.Criterion.Basic
import FacetedSearch.Proofs.Query.Codec

/-!
# Criteria read back

What is written of a criterion whose numbers are all finite is read as that criterion.
-/

namespace FacetedSearch

open Json

attribute [local simp] Table.lookup_cons List.lookup_append lookup_member?

/-! ## Tests -/

namespace Test

def isFinite : Test → Bool
  | equal eq oneOf => eq.all Scalar.isFinite && oneOf.all fun vs => vs.all Scalar.isFinite
  | range b => b.isFinite
  | _ => true

/-- No name of a member is written twice. -/
theorem nodup_keys (t : Test) (field : Json) :
    ((("field", field) :: t.members).map (·.1)).Nodup := by
  cases t with
  | equal eq oneOf => cases eq <;> cases oneOf <;> simp [members, member?]
  | range b =>
      have hsub : ("field" :: b.members.map (·.1)).Sublist ("field" :: Bounds.names) :=
        Bounds.keys_members.cons_cons _
      simpa [members] using hsub.nodup (by decide)
  | textMatch text => simp [members]
  | present => simp [members]

end Test

namespace Criterion

theorem testOf?_eq (field : String) {t : Test} (h : t.isFinite = true) :
    testOf? t.name (.object (("field", .string field) :: t.members)) = some (leaf field t) := by
  have hrecord (names : List String) : Record.ofEntries? names
      (("field", .string field) :: t.members) = some ⟨("field", .string field) :: t.members⟩ :=
    Record.ofEntries?_of_nodup (t.nodup_keys _) names
  have hfield : Record.require ⟨("field", .string field) :: t.members⟩ "field" Json.string? =
      some field := rfl
  cases t with
  | equal eq oneOf =>
      simp only [Test.isFinite, Bool.and_eq_true, Option.all_eq_true, List.all_eq_true] at h
      have heq : Record.optional ⟨("field", .string field) :: (Test.equal eq oneOf).members⟩ "eq"
          Scalar.ofJson? = some eq :=
        Record.optional_of_member (by simp [Test.members])
          (fun v hv => Scalar.ofJson?_toJson (h.1 v hv)) Scalar.toJson_ne_null
      have honeOf : Record.optional ⟨("field", .string field) :: (Test.equal eq oneOf).members⟩ "in"
          (listOf Scalar.ofJson?) = some oneOf :=
        Record.optional_of_member (by simp [Test.members])
          (fun vs hvs => listOf_map fun v hv => Scalar.ofJson?_toJson (h.2 vs hvs v hv))
          fun _ => nofun
      simp only [Test.name, testOf?, record?, hrecord, Option.bind_eq_bind, Option.bind_some,
        hfield, heq, honeOf]
  | range b =>
      have hfinite : (Json.object (("field", .string field) :: b.members)).isFinite = true := by
        simpa [Json.isFinite, isFiniteMembers, b.isFiniteMembers_members, Test.isFinite] using h
      have hbounds : Bounds.ofRecord? id ⟨("field", .string field) :: b.members⟩ = some b := by
        refine Bounds.ofRecord?_of_lookup fun key hkey => ?_
        have hne : key ≠ "field" := by
          rintro rfl
          exact absurd hkey (by decide)
        rw [Option.map_id_apply, Table.lookup_cons, if_neg hne]
      simp only [Test.members] at hrecord hfield
      simp only [Test.name, Test.members, testOf?, hfinite, if_true, object?, hrecord,
        Option.bind_eq_bind, Option.bind_some, hfield, hbounds]
  | textMatch text =>
      simp only [Test.name, testOf?, record?, hrecord]
      rfl
  | present =>
      simp only [Test.name, testOf?, record?, hrecord]
      rfl

/-! ## Trees -/

mutual

def isFinite : Criterion → Bool
  | leaf _ test => test.isFinite
  | bool must should mustNot => areFinite must && areFinite should && areFinite mustNot

def areFinite : List Criterion → Bool
  | [] => true
  | k :: rest => k.isFinite && areFinite rest

end

theorem clausesOf?_eq {must should mustNot : List Criterion} {m s n : Parsed}
    (hmust : m.criteria = some must) (hshould : s.criteria = some should)
    (hmustNot : n.criteria = some mustNot) :
    (Record.ofEntries? clauseNames [("_must", m), ("_should", s), ("_not", n)]).bind clausesOf? =
      some (bool must should mustNot) := by
  rw [Record.ofEntries?_of_nodup (by simp), Option.bind_some, clausesOf?]
  simp [Record.getD, hmust, hshould, hmustNot]

mutual

theorem criterion_parse : (k : Criterion) → k.isFinite = true →
    (parse k.toJson).criterion = some k
  | .leaf field test, h => by
      have hname : test.name ≠ "boolFilter" := by
        cases test <;> simp [Test.name]
      simp only [toJson, single, parse, parseEntries, ofEntries?, if_neg hname]
      exact testOf?_eq field h
  | .bool must should mustNot, h => by
      simp only [isFinite, Bool.and_eq_true] at h
      have hread := clausesOf?_eq (criteria_parse must h.1.1) (criteria_parse should h.1.2)
        (criteria_parse mustNot h.2)
      simp only [toJson, single, parse, parseEntries, ofEntries?, if_true] at hread ⊢
      exact hread

theorem criteria_parse : (ks : List Criterion) → areFinite ks = true →
    (parse (.array (toJsonList ks))).criteria = some ks
  | [], _ => rfl
  | k :: ks, h => by
      simp only [areFinite, Bool.and_eq_true] at h
      have hks := criteria_parse ks h.2
      simp only [parse] at hks
      simp [toJsonList, parse, parseList, List.mapM_cons, criterion_parse k h.1, hks]

end

theorem ofJson?_toJson {k : Criterion} (h : k.isFinite = true) : ofJson? k.toJson = some k :=
  criterion_parse k h

end Criterion

end FacetedSearch
