import FacetedSearch.Proofs.Criterion.Translation
import FacetedSearch.Proofs.Query.Values

/-!
# Integers that criteria are given

An integer that a criterion is given as a value reaches the leaf of the query that the criterion
means, and is shown there as in any other query.
-/

namespace FacetedSearch

open Json Outcome

namespace Criterion

/-- The names of the members of a test on equality, in their order. -/
def equalNames : List String := ["field", "eq", "in"]

/-- An integer is given for a field of a container in a value that is taken for a criterion, or in
one inside it. -/
inductive GivenAt (c : Container) (field : String) (n : Int) : Query.Role → Json → Prop
  | eq {j reference f} : c.Names reference f → f.code = field →
      ("field", .string reference) ∈ j.membersAs equalNames →
      ("eq", .int n) ∈ j.membersAs equalNames → GivenAt c field n .value (.single "equalFilter" j)
  | oneOf {j reference f vs} : c.Names reference f → f.code = field →
      ("field", .string reference) ∈ j.membersAs equalNames →
      ("in", .array vs) ∈ j.membersAs equalNames → .int n ∈ vs →
      GivenAt c field n (.element false) (.single "equalFilter" j)
  | bound {ms reference f name} : c.Names reference f → f.code = field →
      ("field", .string reference) ∈ ms → name ∈ Bounds.names → (name, .int n) ∈ ms →
      GivenAt c field n (.bound name) (.single "rangeFilter" (.object ms))
  | inside {j name js k role} : name ∈ clauseNames → (name, .array js) ∈ j.membersAs clauseNames →
      k ∈ js → GivenAt c field n role k → GivenAt c field n role (.single "boolFilter" j)

variable {c : Container} {field : String} {n : Int} {role : Query.Role} {j : Json} {k : Criterion}
  {q : Query}

/-! ## Tests -/

theorem contains_of_wrapNested {f : Field} {p : Query} {mode : ScoreMode}
    (h : f.wrapNested p mode = .ok q) : q.Contains p := by
  rcases Field.wrapNested_eq_ok h with ⟨_, rfl⟩ | ⟨path, _, _, rfl⟩
  · exact .refl
  · exact .single List.mem_cons_self

/-- The query of a test has a leaf with the test's condition on the field that is named. -/
theorem exists_leaf {reference : String} {f : Field} {test : Test} (hf : c.Names reference f)
    (hq : toQuery c (leaf reference test) = .ok q) :
    ∃ cond, test.condition? reference = .ok cond ∧ q.Contains (.leaf f.code cond {}) := by
  obtain ⟨f', hf', _, hq⟩ := toQuery_leaf_eq_ok.mp hq
  obtain ⟨cond, hcond, _, _, hwrap⟩ := Test.query?_eq_ok.mp hq
  cases (Container.field?_eq_some.mpr hf).symm.trans hf'
  exact ⟨cond, hcond, contains_of_wrapNested hwrap⟩

/-- What is read as a test on equality has the members of one under their names. -/
theorem exists_equal (hk : testOf? "equalFilter" j = some k) : ∃ r field eq oneOf,
    k = leaf field (.equal eq oneOf) ∧ Record.require r "field" Json.string? = some field ∧
      Record.optional r "eq" Scalar.ofJson? = some eq ∧
      Record.optional r "in" (listOf Scalar.ofJson?) = some oneOf ∧
      ∀ name ∈ equalNames, ∀ v, r.members.lookup name = some v ↔
        (name, v) ∈ j.membersAs equalNames := by
  simp only [testOf?, Option.bind_eq_bind, Option.bind_eq_some_iff] at hk
  obtain ⟨r, hr, field, hfield, eq, heq, oneOf, honeOf, hk⟩ := hk
  cases hk
  exact ⟨r, field, eq, oneOf, rfl, hfield, heq, honeOf,
    fun name hname v => lookup_record? hr (by decide) hname⟩

theorem ofJson?_int (n : Int) : Scalar.ofJson? (.int n) = some (Scalar.ofInt n) := by
  have hfinite : (Json.int n).isFinite = true := rfl
  rw [Scalar.ofJson?, if_pos hfinite, Scalar.ofAtom?_int]

theorem asksFor_of_eq {reference : String} {f : Field} (hf : c.Names reference f)
    (hfield : ("field", .string reference) ∈ j.membersAs equalNames)
    (hn : ("eq", .int n) ∈ j.membersAs equalNames) (hk : testOf? "equalFilter" j = some k)
    (hq : toQuery c k = .ok q) :
    ∃ p, q.Contains p ∧ p.AsksFor f.code (Scalar.ofInt n) .value := by
  obtain ⟨r, _, eq, oneOf, rfl, hr, heq, _, hlookup⟩ := exists_equal hk
  rw [Record.require_lookup ((hlookup "field" (by decide) _).mpr hfield)] at hr
  cases hr
  rw [Record.optional, Record.getD_lookup ((hlookup "eq" (by decide) _).mpr hn), nullable,
    ofJson?_int] at heq
  · cases heq
    obtain ⟨cond, hcond, hleaf⟩ := exists_leaf hf hq
    cases oneOf with
    | none =>
        cases hcond
        exact ⟨_, hleaf, .value⟩
    | some vs => cases hcond
  · intro hnull
    cases hnull

theorem asksFor_of_oneOf {reference : String} {f : Field} {vs : List Json}
    (hf : c.Names reference f) (hfield : ("field", .string reference) ∈ j.membersAs equalNames)
    (hvs : ("in", .array vs) ∈ j.membersAs equalNames) (hn : .int n ∈ vs)
    (hk : testOf? "equalFilter" j = some k) (hq : toQuery c k = .ok q) :
    ∃ p, q.Contains p ∧ p.AsksFor f.code (Scalar.ofInt n) (.element false) := by
  obtain ⟨r, _, eq, oneOf, rfl, hr, _, honeOf, hlookup⟩ := exists_equal hk
  rw [Record.require_lookup ((hlookup "field" (by decide) _).mpr hfield)] at hr
  cases hr
  rw [Record.optional, Record.getD_lookup ((hlookup "in" (by decide) _).mpr hvs),
    nullable] at honeOf
  · obtain ⟨ss, hss, rfl⟩ := Option.map_eq_some_iff.mp honeOf
    obtain ⟨s, hs, hread⟩ := exists_mem_of_mapM hss hn
    cases (ofJson?_int n).symm.trans hread
    obtain ⟨cond, hcond, hleaf⟩ := exists_leaf hf hq
    cases eq with
    | none =>
        cases hcond
        exact ⟨_, hleaf, .element (l := {}) (Scalar.ofInt_mem_distinct hs)⟩
    | some v => cases hcond
  · intro hnull
    cases hnull

theorem asksFor_of_bound {reference : String} {f : Field} {ms : Members} {name : String}
    (hf : c.Names reference f) (hfield : ("field", .string reference) ∈ ms)
    (hname : name ∈ Bounds.names) (hn : (name, .int n) ∈ ms)
    (hk : testOf? "rangeFilter" (.object ms) = some k) (hq : toQuery c k = .ok q) :
    ∃ p, q.Contains p ∧ p.AsksFor f.code (Scalar.ofInt n) (.bound name) := by
  have hfinite : (Json.object ms).isFinite = true := by
    by_contra h
    simp [testOf?, h] at hk
  simp only [testOf?, if_pos hfinite, object?, Option.bind_eq_bind, Option.bind_some,
    Option.bind_eq_some_iff] at hk
  obtain ⟨r, hr, _, hreference, b, hb, hk⟩ := hk
  cases hk
  have hlookup {key : String} {v : Json} (hkey : key ∈ "field" :: Bounds.names)
      (hv : (key, v) ∈ ms) : r.members.lookup key = some v :=
    (Record.lookup_ofEntries? hr hkey).mpr hv
  rw [Record.require_lookup (hlookup List.mem_cons_self hfield)] at hreference
  cases hreference
  obtain ⟨cond, hcond, hleaf⟩ := exists_leaf hf hq
  cases hcond
  exact ⟨_, hleaf, .bound (Bounds.mem_members_of_ofRecord? hb hname
    (hlookup (List.mem_cons_of_mem _ hname) hn) rfl)⟩

/-! ## Combinations -/

theorem parseEntries_eq_map (ms : Members) :
    parseEntries ms = ms.map fun m => (m.1, parse m.2) := by
  induction ms with
  | nil => rfl
  | cons m ms ih => rw [parseEntries, ih, List.map_cons]

theorem parseList_eq_map (items : List Json) : parseList items = items.map parse := by
  induction items with
  | nil => rfl
  | cons j items ih => rw [parseList, ih, List.map_cons]

/-- What is read as the clauses of a combination has them under their names. -/
theorem exists_clauses (hk : (parse j).clauses = some k) : ∃ r must should mustNot,
    k = bool must should mustNot ∧ Record.getD r "_must" Parsed.criteria [] = some must ∧
      r.getD "_should" Parsed.criteria [] = some should ∧
      r.getD "_not" Parsed.criteria [] = some mustNot ∧
      ∀ name ∈ clauseNames, ∀ v, (name, v) ∈ j.membersAs clauseNames →
        r.members.lookup name = some (parse v) := by
  obtain ⟨r, hr, hlookup⟩ : ∃ r, clausesOf? r = some k ∧ ∀ name ∈ clauseNames, ∀ v,
      (name, v) ∈ j.membersAs clauseNames → r.members.lookup name = some (parse v) := by
    cases j with
    | object ms =>
        obtain ⟨r, hr, hk⟩ := Option.bind_eq_some_iff.mp hk
        refine ⟨r, hk, fun name hname v hv => (Record.lookup_ofEntries? hr hname).mpr ?_⟩
        rw [parseEntries_eq_map]
        exact List.mem_map.mpr ⟨_, hv, rfl⟩
    | array items =>
        obtain ⟨r, hr, hk⟩ := Option.bind_eq_some_iff.mp hk
        refine ⟨r, hk, fun name hname v hv => (Record.lookup_ofItems? hr (by decide)).mpr ?_⟩
        rw [parseList_eq_map, List.zip_map_right]
        exact List.mem_map.mpr ⟨_, hv, rfl⟩
    | _ => cases hk
  simp only [clausesOf?, Option.bind_eq_bind, Option.bind_eq_some_iff] at hr
  obtain ⟨must, hmust, should, hshould, mustNot, hmustNot, hr⟩ := hr
  cases hr
  exact ⟨r, must, should, mustNot, rfl, hmust, hshould, hmustNot, hlookup⟩

theorem exists_of_mem_criteria {js : List Json} {ks : List Criterion} {v : Json}
    (h : (parse (.array js)).criteria = some ks) (hv : v ∈ js) :
    ∃ k ∈ ks, (parse v).criterion = some k := by
  change (parseList js).mapM Parsed.criterion = some ks at h
  rw [parseList_eq_map] at h
  exact exists_mem_of_mapM h (List.mem_map.mpr ⟨v, hv, rfl⟩)

theorem exists_of_mem_toQueries {ks : List Criterion} {qs : List Query}
    (h : toQueries c ks = .ok qs) (hk : k ∈ ks) : ∃ q ∈ qs, toQuery c k = .ok q := by
  induction ks generalizing qs with
  | nil => cases hk
  | cons k' ks ih =>
      simp only [toQueries, bind_eq_ok] at h
      obtain ⟨q, hq, qs, hqs, h⟩ := h
      cases h
      rcases List.mem_cons.mp hk with rfl | hk
      · exact ⟨q, List.mem_cons_self, hq⟩
      · obtain ⟨q', hq', hk'⟩ := ih hqs hk
        exact ⟨q', List.mem_cons_of_mem _ hq', hk'⟩

/-- What is inside a combination is read as a criterion of its own, with a query right below that of
the combination. -/
theorem exists_child {name : String} {js : List Json} {v : Json} (hname : name ∈ clauseNames)
    (hjs : (name, .array js) ∈ j.membersAs clauseNames) (hv : v ∈ js)
    (hk : (parse j).clauses = some k) (hq : toQuery c k = .ok q) :
    ∃ k' q', (parse v).criterion = some k' ∧ toQuery c k' = .ok q' ∧ q' ∈ q.children := by
  obtain ⟨r, must, should, mustNot, rfl, hmust, hshould, hmustNot, hlookup⟩ := exists_clauses hk
  obtain ⟨ms, ss, ns, hms, hss, hns, rfl⟩ := toQuery_bool_eq_ok hq
  have hlists : ∀ name ∈ clauseNames, ∃ ks qs, r.getD name Parsed.criteria [] = some ks ∧
      toQueries c ks = .ok qs ∧ qs ⊆ ms ++ ss ++ ns := by
    simp only [clauseNames, List.forall_mem_cons, hmust, hshould, hmustNot]
    exact ⟨⟨must, ms, rfl, hms, by simp⟩, ⟨should, ss, rfl, hss, by simp⟩,
      ⟨mustNot, ns, rfl, hns, by simp⟩, by simp⟩
  obtain ⟨ks, qs, hks, hqs, hsub⟩ := hlists name hname
  rw [Record.getD_lookup (hlookup name hname _ hjs)] at hks
  obtain ⟨k', hk', hread⟩ := exists_of_mem_criteria hks hv
  obtain ⟨q', hq', hquery⟩ := exists_of_mem_toQueries hqs hk'
  exact ⟨k', q', hread, hquery, hsub hq'⟩

theorem ofJson?_single (name : String) (j : Json) : ofJson? (.single name j) =
    if name = "boolFilter" then (parse j).clauses else testOf? name j := by
  have hjson : (parse j).json = j := by
    cases j <;> rfl
  simp only [ofJson?, single, parse, parseEntries, ofEntries?, hjson]

/-- An integer that is given is asked for by a leaf of the query that the criterion means. -/
theorem GivenAt.exists_asksFor (h : GivenAt c field n role j) (hk : ofJson? j = some k)
    (hq : toQuery c k = .ok q) :
    ∃ p, q.Contains p ∧ p.AsksFor field (Scalar.ofInt n) role := by
  induction h generalizing k q with
  | eq hf hcode hfield hn =>
      rw [ofJson?_single, if_neg (by decide)] at hk
      exact hcode ▸ asksFor_of_eq hf hfield hn hk hq
  | oneOf hf hcode hfield hvs hn =>
      rw [ofJson?_single, if_neg (by decide)] at hk
      exact hcode ▸ asksFor_of_oneOf hf hfield hvs hn hk hq
  | bound hf hcode hfield hname hn =>
      rw [ofJson?_single, if_neg (by decide)] at hk
      exact hcode ▸ asksFor_of_bound hf hfield hname hn hk hq
  | inside hname hjs hv _ ih =>
      rw [ofJson?_single, if_pos rfl] at hk
      obtain ⟨k', q', hread, hquery, hchild⟩ := exists_child hname hjs hv hk hq
      obtain ⟨p, hp, hasks⟩ := ih hread hquery
      exact ⟨p, .head hchild hp, hasks⟩

end Criterion

/-! ## Queries and criteria -/

namespace Query

/-- An integer that a query, or a criterion that has a query, is given for a field is shown for that
field in the rendered query exactly if it fits 64 signed bits, and else the nearest float is shown.
A list of values is meant to be one that the label beside it does not write over. -/
theorem integers_shown_iff (field : String) (n : Int) (role : Role) (hspared : role.Spared field) :
    (∀ j q, ofJson? j = some q → GivenAt field n role false j → ∃ w,
      Registry.full.render q = .ok w ∧ (q.validate = .ok () → Registry.full.assemble q = .ok w) ∧
      (Shows field (.int n) role w ↔ -2 ^ 63 ≤ n ∧ n < 2 ^ 63) ∧
      (¬ (-2 ^ 63 ≤ n ∧ n < 2 ^ 63) → Shows field (.float (Binary64.ofInt n)) role w)) ∧
    ∀ c j k q, Criterion.ofJson? j = some k → k.toQuery c = .ok q →
      Criterion.GivenAt c field n role j → ∃ w,
      Registry.full.assemble q = .ok w ∧
      (Shows field (.int n) role w ↔ -2 ^ 63 ≤ n ∧ n < 2 ^ 63) ∧
      (¬ (-2 ^ 63 ≤ n ∧ n < 2 ^ 63) → Shows field (.float (Binary64.ofInt n)) role w) := by
  have hassemble {q : Query} (h : q.validate = .ok ()) : Registry.full.assemble q = .ok q.wire := by
    simp only [Registry.assemble, check_bind_eq_ok]
    exact ⟨h, render_full q⟩
  constructor
  · intro j q hq h
    obtain ⟨p, hp, hasks⟩ := h.exists_asksFor (read?_of_ofJson? hq)
    exact ⟨q.wire, render_full q, hassemble, shows_iff_fits hp hasks hspared⟩
  · intro c j k q hk hq h
    obtain ⟨p, hp, hasks⟩ := h.exists_asksFor hk hq
    have hchecked : q.Checked := Criterion.checked_handedOn.toQuery k hq
    exact ⟨q.wire, hassemble (mapError_eq_ok.mpr hchecked), shows_iff_fits hp hasks hspared⟩

end Query

namespace Shop

/-- Products that are filtered by their number. -/
def numberFiltered : Container where
  name := "product"
  catalog := { id := 1, code := "fr" }
  indexName := "product_fr"
  fields := [{ code := "id", type := .int, filterable := true, code_not_blank := by rfl }]

/-- One of a list of numbers that is given inside a combination, and a number that a criterion is
given, are shown up to the greatest. -/
theorem greatest_numbers_shown :
    (∃ q w, Query.ofJson? (.object [("type", .string "bool"), ("must", .array [.array
        [.string "terms", .string "id", .array [.int 1, .int 9223372036854775807]]])]) = some q ∧
      Registry.full.assemble q = .ok w ∧
      Query.Shows "id" (.int 9223372036854775807) (.element false) w) ∧
    ∃ k q w, Criterion.ofJson? (.single "equalFilter" (.object [("field", .string "id"),
        ("eq", .int 9223372036854775807)])) = some k ∧ k.toQuery numberFiltered = .ok q ∧
      Registry.full.assemble q = .ok w ∧
      Query.Shows "id" (.int 9223372036854775807) .value w := by
  constructor
  · obtain ⟨q, hq, hvalid⟩ : ∃ q, Query.ofJson? (.object [("type", .string "bool"),
        ("must", .array [.array [.string "terms", .string "id",
          .array [.int 1, .int 9223372036854775807]]])]) = some q ∧ q.validate = .ok () :=
      ⟨_, rfl, rfl⟩
    have hlist : Query.GivenAt "id" 9223372036854775807 (.element false) true
        (.array [.string "terms", .string "id", .array [.int 1, .int 9223372036854775807]]) := by
      have hvalues : Json.int 9223372036854775807 ∈ [Json.int 1, .int 9223372036854775807] := by simp
      refine .element ⟨.string "terms", ?_, rfl⟩ ?_ ?_ hvalues ?_ <;>
        simp [Query.membersOf, membersAs, Query.memberNames]
    have hmust : "must" ∈ ["must", "should", "must_not"] := List.mem_cons_self
    have hgiven : Query.GivenAt "id" 9223372036854775807 (.element false) false
        (.object [("type", .string "bool"), ("must", .array [.array
          [.string "terms", .string "id", .array [.int 1, .int 9223372036854775807]]])]) :=
      .inside (k := .bool) ⟨_, List.mem_cons_self, rfl⟩
        (.clause hmust (List.mem_cons_of_mem _ List.mem_cons_self) List.mem_cons_self) hlist
    obtain ⟨w, _, hw, hshown, _⟩ := (Query.integers_shown_iff "id" 9223372036854775807
      (.element false) ⟨by decide, fun _ => rfl⟩).1 _ q hq hgiven
    exact ⟨q, w, hq, hw hvalid, hshown.mpr (by decide)⟩
  · obtain ⟨k, q, hk, hq⟩ : ∃ k q, Criterion.ofJson? (.single "equalFilter" (.object
        [("field", .string "id"), ("eq", .int 9223372036854775807)])) = some k ∧
        k.toQuery numberFiltered = .ok q := ⟨_, _, rfl, rfl⟩
    have hgiven : Criterion.GivenAt numberFiltered "id" 9223372036854775807 .value
        (.single "equalFilter" (.object [("field", .string "id"),
          ("eq", .int 9223372036854775807)])) :=
      .eq (Container.field?_eq_some.mp (rfl : numberFiltered.field? "id" = some _)) rfl
        List.mem_cons_self (List.mem_cons_of_mem _ List.mem_cons_self)
    obtain ⟨w, hw, hshown, _⟩ := (Query.integers_shown_iff "id" 9223372036854775807 .value
      trivial).2 numberFiltered _ k q hk hq hgiven
    exact ⟨k, q, w, hk, hq, hw, hshown.mpr (by decide)⟩

/-- A number past the greatest is not shown, but a float in its place, which another number is
rounded to as well. -/
theorem great_number_rounded : ∃ q w, Query.ofJson? (.object [("type", .string "term"),
      ("field", .string "id"), ("value", .int 9223372036854775809)]) = some q ∧
    Registry.full.assemble q = .ok w ∧
    w = .single "term" (.single "id" (.object [
      ("value", .float (Binary64.ofInt 9223372036854775808)), ("boost", .float .one)])) ∧
    ¬ Query.Shows "id" (.int 9223372036854775809) .value w := by
  obtain ⟨q, hq, hvalid, hwire⟩ : ∃ q, Query.ofJson? (.object [("type", .string "term"),
      ("field", .string "id"), ("value", .int 9223372036854775809)]) = some q ∧
      Registry.full.assemble q = .ok q.wire ∧
      q.wire = .single "term" (.single "id" (.object [
        ("value", .float (Binary64.ofInt 9223372036854775809)), ("boost", .float .one)])) :=
    ⟨_, rfl, rfl, rfl⟩
  have hsame : Binary64.ofInt 9223372036854775809 = Binary64.ofInt 9223372036854775808 := by
    decide +kernel
  refine ⟨q, q.wire, hq, hvalid, hsame ▸ hwire, fun hshown => ?_⟩
  exact absurd (q.allInts_wire _ hshown.hasPart) (by decide)

end Shop

end FacetedSearch
