import FacetedSearch.Proofs.Json.Parts
import FacetedSearch.Proofs.Number.Integers
import FacetedSearch.Proofs.Query.Codec
import FacetedSearch.Proofs.Query.Distinct
import FacetedSearch.Proofs.Query.Payload

/-!
# Integers that queries are asked for

An integer that is given as a value to compare with is looked up where its query is read, and shown
where the query is rendered. It stays an integer if it fits 64 signed bits, and else becomes the
nearest float.
-/

namespace FacetedSearch

open Json

/-! ## Integers as scalars -/

theorem Binary64.magnitude_ofInt_ne_zero {n : Int} (h : n ≠ 0) : (ofInt n).magnitude ≠ 0 := by
  intro hzero
  have hkey : -1 ≤ (ofInt n).orderKey ∧ (ofInt n).orderKey ≤ 0 := by
    simp only [orderKey, hzero]
    split <;> omega
  rcases Int.lt_or_gt_of_ne h with hn | hn
  · have hle := orderKey_ofInt_mono (show n ≤ -1 by omega)
    have hone : (ofInt (-1)).orderKey < -1 := by decide +kernel
    omega
  · have hle := orderKey_ofInt_mono (show 1 ≤ n by omega)
    have hone : 0 < (ofInt 1).orderKey := by decide +kernel
    omega

namespace Scalar

/-- An integer has at most 64 signed bits. -/
def Fits (n : Int) : Prop := -2 ^ 63 ≤ n ∧ n < 2 ^ 63

instance : DecidablePred Fits := fun n => inferInstanceAs (Decidable (-2 ^ 63 ≤ n ∧ n < 2 ^ 63))

/-- What an integer is read as. -/
def ofInt (n : Int) : Scalar :=
  if Fits n then .integer (Int64.ofInt n) else .float (Binary64.ofInt n)

theorem ofAtom?_int (n : Int) : ofAtom? (.int n) = some (ofInt n) := by
  by_cases h : Fits n
  · rw [ofAtom?, ofInt, if_pos h]
    exact if_pos h
  · rw [ofAtom?, ofInt, if_neg h]
    exact if_neg h

theorem ofInt_toJson_of_fits {n : Int} (h : Fits n) : (ofInt n).toJson = .int n := by
  rw [ofInt, if_pos h, toJson, Int64.toInt_ofInt_of_le h.1 h.2]

theorem ofInt_toJson_of_not_fits {n : Int} (h : ¬ Fits n) :
    (ofInt n).toJson = .float (Binary64.ofInt n) := by
  rw [ofInt, if_neg h, toJson]

/-- What equals an integer is read from the same number. -/
theorem eq_of_equals_ofInt {n : Int} {s : Scalar} (h : (ofInt n).Equals s) : s = ofInt n := by
  by_cases hn : Fits n
  · rw [ofInt, if_pos hn] at h ⊢
    cases h
    rfl
  · rw [ofInt, if_neg hn] at h ⊢
    cases h with
    | float => rfl
    | zeros hzero =>
        refine absurd hzero (Binary64.magnitude_ofInt_ne_zero ?_)
        rintro rfl
        exact hn (by decide)

theorem ofInt_mem_distinct {n : Int} {vs : List Scalar} (h : ofInt n ∈ vs) :
    ofInt n ∈ distinct vs := by
  obtain ⟨s, hs, heq | hsame⟩ := exists_mem_distinct h
  · exact heq ▸ hs
  · exact eq_of_equals_ofInt (same_iff.mp hsame) ▸ hs

end Scalar

theorem Bounds.mem_members {b : Bounds} {name : String} {v : Json} : (name, v) ∈ b.members ↔
    (∃ s ∈ b.gt, name = "gt" ∧ v = s.toJson) ∨ (∃ s ∈ b.gte, name = "gte" ∧ v = s.toJson) ∨
      (∃ s ∈ b.lt, name = "lt" ∧ v = s.toJson) ∨ ∃ s ∈ b.lte, name = "lte" ∧ v = s.toJson := by
  have hmember (key : String) (o : Option Scalar) :
      (name, v) ∈ member? key Scalar.toJson o ↔ ∃ s ∈ o, name = key ∧ v = s.toJson := by
    cases o <;> simp [member?]
  simp only [members, List.mem_append, hmember, or_assoc]

/-- A bound that is given as an integer is set. -/
theorem Bounds.mem_members_of_ofRecord? {β : Type} {json : β → Json} {r : Record β} {b : Bounds}
    {name : String} {p : β} {n : Int} (h : ofRecord? json r = some b) (hname : name ∈ names)
    (hlookup : r.members.lookup name = some p) (hp : json p = .int n) :
    (name, (Scalar.ofInt n).toJson) ∈ b.members := by
  have hread {key : String} {o : Option Scalar} (hkey : name = key)
      (ho : r.getD key (fun b => nullable Scalar.ofAtom? (json b)) none = some o) :
      o = some (Scalar.ofInt n) := by
    rw [← hkey, Record.getD_of_lookup (a := some (Scalar.ofInt n)) hlookup
      (by rw [hp, nullable, Scalar.ofAtom?_int]; rfl; nofun)] at ho
    exact (Option.some.inj ho).symm
  simp only [ofRecord?, Option.bind_eq_bind, Option.bind_eq_some_iff] at h
  obtain ⟨gt, hgt, gte, hgte, lt, hlt, lte, hlte, h⟩ := h
  cases h
  rw [mem_members]
  simp only [names, List.mem_cons, List.not_mem_nil, or_false] at hname
  rcases hname with hname | hname | hname | hname
  · exact Or.inl ⟨_, hread hname hgt, hname, rfl⟩
  · exact Or.inr (Or.inl ⟨_, hread hname hgte, hname, rfl⟩)
  · exact Or.inr (Or.inr (Or.inl ⟨_, hread hname hlt, hname, rfl⟩))
  · exact Or.inr (Or.inr (Or.inr ⟨_, hread hname hlte, hname, rfl⟩))

namespace Query

/-! ## Values of queries -/

/-- What a value is to a query: the one that is asked for, one of several of a query with or without
a name, or the bound of a name. -/
inductive Role where
  | value
  | element (named : Bool)
  | bound (name : String)

/-- A leaf asks for a scalar. -/
inductive AsksFor (field : String) (s : Scalar) : Role → Query → Prop
  | value {l} : AsksFor field s .value (.leaf field (.term s) l)
  | element {vs l} : s ∈ vs →
      AsksFor field s (.element l.name.isSome) (.leaf field (.terms vs) l)
  | bound {b name l} : (name, s.toJson) ∈ b.members →
      AsksFor field s (.bound name) (.leaf field (.range b) l)

/-! ## Reading -/

/-- What a value is read as, positions standing for its own kind and for those inside it or not. -/
def read? (outer inner : Bool) : Json → Option Query
  | .object entries => ofEntries? outer (parseEntries inner entries)
  | .array items => ofItems? outer (parseList inner items)
  | _ => none

theorem query_parse (inner : Bool) (j : Json) : (parse inner j).query = read? inner inner j := by
  cases j <;> rfl

theorem read?_of_ofJson? {j : Json} {q : Query} (h : ofJson? j = some q) :
    read? false true j = some q := by
  simp only [ofJson?, ofTagged?] at h
  split at h
  · cases h
  · exact h

theorem parseList_eq_map (inner : Bool) (items : List Json) :
    parseList inner items = items.map (parse inner) := by
  induction items with
  | nil => rfl
  | cons j items ih => rw [parseList, ih, List.map_cons]

/-- The members of a value that is taken for a query of a kind. -/
def membersOf (k : Kind) (j : Json) : Members := j.membersAs ("type" :: memberNames k)

/-- A value says that it is a query of a kind. -/
def IsOfKind (positions : Bool) (k : Kind) (j : Json) : Prop :=
  ∃ tag, ("type", tag) ∈ membersOf k j ∧ kindOf? positions tag = some k

theorem nodup_names (k : Kind) : ("type" :: memberNames k).Nodup := by
  cases k <;> simp [memberNames]

variable {outer inner : Bool} {k : Kind} {j : Json} {q : Query}

theorem IsOfKind.ne_null (h : IsOfKind outer k j) : j ≠ .null := by
  rintro rfl
  obtain ⟨tag, htag, _⟩ := h
  cases htag

theorem exists_record_object {ms : Members} (hq : ofEntries? outer (parseEntries inner ms) = some q)
    (hk : IsOfKind outer k (.object ms)) : ∃ r, ofRecord? k r = some q ∧
      ∀ name ∈ memberNames k, ∀ p, r.members.lookup name = some p ↔
        ∃ v, (name, v) ∈ ms ∧ parse inner v = p := by
  obtain ⟨t, ht, hkind⟩ := hk
  have hmem : ("type", parse inner t) ∈ (parseEntries inner ms).filter fun e => e.1 == "type" := by
    rw [parseEntries_eq_map]
    exact List.mem_filter.mpr ⟨List.mem_map.mpr ⟨_, ht, rfl⟩, by simp⟩
  simp only [ofEntries?] at hq
  split at hq
  · rename_i key tag htag
    rw [htag] at hmem
    cases List.mem_singleton.mp hmem
    simp only [json_parse, hkind, Option.bind_eq_bind, Option.bind_some] at hq
    obtain ⟨r, hr, hq⟩ := Option.bind_eq_some_iff.mp hq
    refine ⟨r, hq, fun name hname p => ?_⟩
    have hne : name ≠ "type" := fun heq => (List.nodup_cons.mp (nodup_names k)).1 (heq ▸ hname)
    rw [Record.lookup_ofEntries? hr hname, List.mem_filter, parseEntries_eq_map, List.mem_map]
    simp [hne]
  · cases hq

theorem exists_record_array {items : List Json}
    (hq : ofItems? outer (parseList inner items) = some q) (hk : IsOfKind outer k (.array items)) :
    ∃ r, ofRecord? k r = some q ∧ ∀ name ∈ memberNames k, ∀ p, r.members.lookup name = some p ↔
      ∃ v, (name, v) ∈ membersOf k (.array items) ∧ parse inner v = p := by
  obtain ⟨t, ht, hkind⟩ := hk
  obtain ⟨hfresh, hnodup⟩ := List.nodup_cons.mp (nodup_names k)
  cases items with
  | nil => cases hq
  | cons tag rest =>
      have hmembers : membersOf k (.array (tag :: rest)) =
          ("type", tag) :: (memberNames k).zip rest := rfl
      have hrest {v : Json} : ("type", v) ∉ (memberNames k).zip rest := fun hv =>
        hfresh (List.of_mem_zip hv).1
      rw [hmembers, List.mem_cons, or_iff_left hrest] at ht
      cases ht
      simp only [parseList, ofItems?, json_parse, hkind, Option.bind_eq_bind,
        Option.bind_some] at hq
      have hrange : k ≠ .range := by
        rintro rfl
        cases hq
      rw [if_neg hrange] at hq
      obtain ⟨r, hr, hq⟩ := Option.bind_eq_some_iff.mp hq
      refine ⟨r, hq, fun name hname p => ?_⟩
      have hne : name ≠ "type" := fun heq => hfresh (heq ▸ hname)
      rw [Record.lookup_ofItems? hr hnodup, parseList_eq_map, List.zip_map_right, List.mem_map,
        hmembers]
      simp [hne]

/-- What is read as a query of a kind has the members of the kind under their names. -/
theorem exists_record (hq : read? outer inner j = some q) (hk : IsOfKind outer k j) :
    ∃ r, ofRecord? k r = some q ∧ ∀ name ∈ memberNames k, ∀ p, r.members.lookup name = some p ↔
      ∃ v, (name, v) ∈ membersOf k j ∧ parse inner v = p := by
  cases j with
  | object ms => exact exists_record_object hq hk
  | array items => exact exists_record_array hq hk
  | _ => cases hq

/-! ### Values that are given -/

/-- What is inside a value that says that it is a query of a kind. -/
inductive Inside (j : Json) : Kind → Json → Prop
  | clause {name js c} : name ∈ ["must", "should", "must_not"] →
      (name, .array js) ∈ membersOf .bool j → c ∈ js → Inside j .bool c
  | nested {c} : ("query", c) ∈ membersOf .nested j → Inside j .nested c
  | filtered {name c} : name ∈ ["query", "filter"] → (name, c) ∈ membersOf .filtered j →
      Inside j .filtered c

/-- An integer is given for a field in a value that is taken for a query, or in one inside it. -/
inductive GivenAt (field : String) (n : Int) : Role → Bool → Json → Prop
  | value {positions j} : IsOfKind positions .term j →
      ("field", .string field) ∈ membersOf .term j → ("value", .int n) ∈ membersOf .term j →
      GivenAt field n .value positions j
  | element {positions j vs named} : IsOfKind positions .terms j →
      ("field", .string field) ∈ membersOf .terms j → ("values", .array vs) ∈ membersOf .terms j →
      .int n ∈ vs → (named = true ↔ ∃ s, ("name", .string s) ∈ membersOf .terms j) →
      GivenAt field n (.element named) positions j
  | bound {positions j name} : IsOfKind positions .range j →
      ("field", .string field) ∈ membersOf .range j → name ∈ Bounds.names →
      (name, .int n) ∈ membersOf .range j → GivenAt field n (.bound name) positions j
  | inside {positions j k c role} : IsOfKind positions k j → Inside j k c →
      GivenAt field n role true c → GivenAt field n role positions j

variable {field : String} {n : Int} {role : Role}

theorem GivenAt.ne_null (h : GivenAt field n role outer j) : j ≠ .null := by
  cases h with
  | value hk => exact hk.ne_null
  | element hk => exact hk.ne_null
  | bound hk => exact hk.ne_null
  | inside hk => exact hk.ne_null

theorem exists_of_mem_queries {js : List Json} {qs : List Query} {c : Json}
    (h : (parse inner (.array js)).queries = some qs) (hc : c ∈ js) :
    ∃ p ∈ qs, read? inner inner c = some p := by
  change (parseList inner js).mapM Parsed.query = some qs at h
  rw [parseList_eq_map] at h
  obtain ⟨p, hp, hread⟩ := exists_mem_of_mapM h (List.mem_map.mpr ⟨c, hc, rfl⟩)
  exact ⟨p, hp, (query_parse inner c).symm.trans hread⟩

theorem nullableQuery_parse (h : j ≠ .null) :
    nullableQuery (parse inner j) = (read? inner inner j).map some := by
  rw [nullableQuery, json_parse, query_parse]
  split
  · exact absurd rfl h
  · rfl

/-- What is inside a value is read as a query right below the one that the value is read as. -/
theorem Inside.exists_child {c : Json} (hc : Inside j k c) (hnull : c ≠ .null)
    (hk : IsOfKind outer k j) (hq : read? outer inner j = some q) :
    ∃ p ∈ q.children, read? inner inner c = some p := by
  obtain ⟨r, hr, hlookup⟩ := exists_record hq hk
  cases hc with
  | @clause name js _ hname hjs hc =>
      simp only [ofRecord?, Option.bind_eq_bind, Option.bind_eq_some_iff] at hr
      obtain ⟨must, hmust, should, hshould, mustNot, hmustNot, _, _, _, _, hq⟩ := hr
      cases hq
      have hlists : ∀ name ∈ ["must", "should", "must_not"], name ∈ memberNames .bool ∧
          ∃ qs, r.getD name Parsed.queries [] = some qs ∧ qs ⊆ must ++ should ++ mustNot := by
        simp only [List.forall_mem_cons, hmust, hshould, hmustNot]
        simp [memberNames]
      obtain ⟨hname, qs, hqs, hsub⟩ := hlists name hname
      rw [Record.getD_lookup ((hlookup name hname _).mpr ⟨_, hjs, rfl⟩)] at hqs
      obtain ⟨p, hp, hread⟩ := exists_of_mem_queries hqs hc
      exact ⟨p, hsub hp, hread⟩
  | nested hquery =>
      simp only [ofRecord?, Option.bind_eq_bind, Option.bind_eq_some_iff] at hr
      obtain ⟨_, _, p, hp, _, _, _, _, hq⟩ := hr
      cases hq
      rw [Record.require_lookup ((hlookup _ (by simp [memberNames]) _).mpr ⟨_, hquery, rfl⟩),
        query_parse] at hp
      exact ⟨p, List.mem_singleton_self p, hp⟩
  | @filtered name _ hname hquery =>
      simp only [ofRecord?, Option.bind_eq_bind, Option.bind_eq_some_iff] at hr
      obtain ⟨scored, hscored, filter, hfilter, _, _, hq⟩ := hr
      cases hq
      have hqueries : ∀ name ∈ ["query", "filter"], name ∈ memberNames .filtered ∧
          ∃ o, r.getD name nullableQuery none = some o ∧
            o.toList ⊆ scored.toList ++ filter.toList := by
        simp only [List.forall_mem_cons, hscored, hfilter]
        simp [memberNames]
      obtain ⟨hname, o, ho, hsub⟩ := hqueries name hname
      rw [Record.getD_lookup ((hlookup name hname _).mpr ⟨_, hquery, rfl⟩),
        nullableQuery_parse hnull] at ho
      obtain ⟨p, hp, rfl⟩ := Option.map_eq_some_iff.mp ho
      exact ⟨p, hsub (List.mem_singleton_self p), hp⟩

/-- A query has a name if it is read from a value that has one. -/
theorem name_isSome_iff {r : Record Parsed} {l : Label} (hl : labelOf? r = some l)
    (hlookup : ∀ p, r.members.lookup "name" = some p ↔
      ∃ v, ("name", v) ∈ membersOf k j ∧ parse inner v = p) :
    l.name.isSome = true ↔ ∃ s, ("name", .string s) ∈ membersOf k j := by
  simp only [labelOf?, Option.bind_eq_bind, Option.bind_eq_some_iff] at hl
  obtain ⟨name, hname, _, _, hl⟩ := hl
  cases hl
  constructor
  · intro h
    cases hp : r.members.lookup "name" with
    | none =>
        rw [Record.getD, hp] at hname
        cases hname
        cases h
    | some p =>
        obtain ⟨v, hv, rfl⟩ := (hlookup p).mp hp
        rw [Record.getD_lookup hp, json_parse] at hname
        cases v with
        | string s => exact ⟨s, hv⟩
        | null =>
            cases hname
            cases h
        | _ => cases hname
  · rintro ⟨s, hs⟩
    rw [Record.getD_lookup ((hlookup _).mpr ⟨_, hs, rfl⟩), json_parse] at hname
    cases hname
    rfl

/-- What gives a field is read as a leaf on the field. -/
theorem exists_leaf (hq : read? outer inner j = some q) (hk : IsOfKind outer k j)
    (hname : "field" ∈ memberNames k) (hfield : ("field", .string field) ∈ membersOf k j) :
    ∃ r c l, q = leaf field c l ∧ conditionOf? k r = some c ∧ labelOf? r = some l ∧
      ∀ name ∈ memberNames k, ∀ p, r.members.lookup name = some p ↔
        ∃ v, (name, v) ∈ membersOf k j ∧ parse inner v = p := by
  obtain ⟨r, hr, hlookup⟩ := exists_record hq hk
  have hleaf : ofRecord? k r = (do
      let field ← r.require "field" (fun p => p.json.string?)
      let c ← conditionOf? k r
      let l ← labelOf? r
      some (leaf field c l)) := by
    cases k <;> first | rfl | exact absurd hname (by decide)
  simp only [hleaf, Option.bind_eq_bind, Option.bind_eq_some_iff] at hr
  obtain ⟨_, hread, c, hc, l, hl, hq⟩ := hr
  rw [Record.require_lookup ((hlookup _ hname _).mpr ⟨_, hfield, rfl⟩), json_parse] at hread
  cases hread
  cases hq
  exact ⟨r, c, l, rfl, hc, hl, hlookup⟩

/-- An integer that is given is asked for by a leaf of the query that is read, as the scalar that it
is read as. -/
theorem GivenAt.exists_asksFor (h : GivenAt field n role outer j)
    (hq : read? outer true j = some q) :
    ∃ p, q.Contains p ∧ p.AsksFor field (Scalar.ofInt n) role := by
  induction h generalizing q with
  | inside hk hc h ih =>
      obtain ⟨p, hp, hread⟩ := hc.exists_child h.ne_null hk hq
      obtain ⟨leaf, hleaf, hasks⟩ := ih hread
      exact ⟨leaf, .head hp hleaf, hasks⟩
  | value hk hfield hvalue =>
      obtain ⟨r, c, l, rfl, hc, _, hlookup⟩ := exists_leaf hq hk (by decide) hfield
      obtain ⟨s, hs, rfl⟩ := Option.map_eq_some_iff.mp hc
      rw [Record.require_lookup ((hlookup _ (by decide) _).mpr ⟨_, hvalue, rfl⟩), json_parse,
        Scalar.ofAtom?_int] at hs
      cases hs
      exact ⟨_, .refl, .value⟩
  | @element _ _ vs named hk hfield hvalues hn hnamed =>
      obtain ⟨r, c, l, rfl, hc, hl, hlookup⟩ := exists_leaf hq hk (by decide) hfield
      obtain ⟨ss, hss, rfl⟩ := Option.map_eq_some_iff.mp hc
      rw [Record.require_lookup ((hlookup _ (by decide) _).mpr ⟨_, hvalues, rfl⟩),
        json_parse] at hss
      obtain ⟨s, hs, hread⟩ := exists_mem_of_mapM hss hn
      cases (Scalar.ofAtom?_int n).symm.trans hread
      have hname := name_isSome_iff hl (hlookup "name" (by decide))
      obtain rfl : named = l.name.isSome := Bool.eq_iff_iff.mpr (hnamed.trans hname.symm)
      exact ⟨_, .refl, .element hs⟩
  | bound hk hfield hname hn =>
      obtain ⟨r, c, l, rfl, hc, _, hlookup⟩ := exists_leaf hq hk (by decide) hfield
      obtain ⟨b, hb, rfl⟩ := Option.map_eq_some_iff.mp hc
      have hnames : ∀ name ∈ Bounds.names, name ∈ memberNames .range := by decide
      exact ⟨_, .refl, .bound (Bounds.mem_members_of_ofRecord? hb hname
        ((hlookup _ (hnames _ hname) _).mpr ⟨_, hn, rfl⟩) (json_parse _ _))⟩

/-! ## Rendering -/

/-- A rendered query shows a value for a field. -/
def Shows (field : String) (v : Json) : Role → Json → Prop
  | .value, w => ∃ ms, w.HasPart (.single "term" (.single field (.object ms))) ∧
      ("value", v) ∈ ms
  | .element _, w => ∃ ms vs, w.HasPart (.single "terms" (.object ms)) ∧
      ms.lookup field = some (.array vs) ∧ v ∈ vs
  | .bound name, w => ∃ ms, w.HasPart (.single "range" (.single field (.object ms))) ∧
      (name, v) ∈ ms

/-- The list of values is not written over by the label beside it. -/
def Role.Spared (field : String) : Role → Prop
  | .element named => field ≠ "boost" ∧ (field = "_name" → named = false)
  | _ => True

theorem Shows.of_hasPart {v w w' : Json} (h : Shows field v role w) (hw : w'.HasPart w) :
    Shows field v role w' := by
  cases role with
  | value =>
      obtain ⟨ms, hms, hv⟩ := h
      exact ⟨ms, hw.trans hms, hv⟩
  | element named =>
      obtain ⟨ms, vs, hms, hvs, hv⟩ := h
      exact ⟨ms, vs, hw.trans hms, hvs, hv⟩
  | bound name =>
      obtain ⟨ms, hms, hv⟩ := h
      exact ⟨ms, hw.trans hms, hv⟩

theorem Shows.hasPart {v w : Json} (h : Shows field v role w) : w.HasPart v := by
  cases role with
  | value =>
      obtain ⟨ms, hms, hv⟩ := h
      exact hms.trans (.single (.single (.member hv .refl)))
  | element named =>
      obtain ⟨ms, vs, hms, hvs, hv⟩ := h
      exact hms.trans (.single (.member (Members.mem_of_lookup hvs) (.item hv .refl)))
  | bound name =>
      obtain ⟨ms, hms, hv⟩ := h
      exact hms.trans (.single (.single (.member hv .refl)))

theorem hasPart_of_clauses (key : String) {c : Query} {qs : List Query} {ms : Members}
    (hc : c ∈ qs) (hsub : ∀ m ∈ clauses key (qs.map wire), m ∈ ms) :
    (Json.object ms).HasPart c.wire := by
  cases qs with
  | nil => cases hc
  | cons q qs => exact .listed (hsub _ List.mem_cons_self) (List.mem_map_of_mem hc)

theorem hasPart_wire_of_mem_children {c : Query} (h : c ∈ q.children) : q.wire.HasPart c.wire := by
  cases q with
  | leaf field cond l => cases h
  | bool must should mustNot minimum l =>
      simp only [wire, wires_eq_map]
      simp only [children, List.mem_append] at h
      rcases h with (h | h) | h
      · exact .single (hasPart_of_clauses "must" h fun m hm => by simp [hm])
      · exact .single (hasPart_of_clauses "should" h fun m hm => by simp [hm])
      · exact .single (hasPart_of_clauses "must_not" h fun m hm => by simp [hm])
  | nested path q mode l =>
      obtain rfl := List.mem_singleton.mp h
      simp only [wire]
      exact .single (.member (List.mem_cons_of_mem _ List.mem_cons_self) .refl)
  | filtered q f l =>
      cases q with
      | none =>
          cases f with
          | none => cases h
          | some f =>
              obtain rfl := List.mem_singleton.mp h
              simp only [wire]
              exact .single (.member List.mem_cons_self .refl)
      | some q =>
          cases f with
          | none =>
              obtain rfl := List.mem_singleton.mp h
              simp only [wire]
              exact .refl
          | some f =>
              simp only [children, Option.toList_some, List.mem_append, List.mem_singleton] at h
              simp only [wire]
              rcases h with rfl | rfl
              · exact .single (.listed List.mem_cons_self List.mem_cons_self)
              · exact .single (.listed (List.mem_cons_of_mem _ List.mem_cons_self)
                  List.mem_cons_self)

theorem hasPart_wire_of_contains {p : Query} (h : q.Contains p) : q.wire.HasPart p.wire := by
  induction h with
  | refl => exact .refl
  | tail _ hc ih => exact ih.trans (hasPart_wire_of_mem_children hc)

theorem AsksFor.shows {s : Scalar} (h : q.AsksFor field s role) (hspared : role.Spared field) :
    Shows field s.toJson role q.wire := by
  cases h with
  | value =>
      simp only [wire]
      exact ⟨_, .refl, List.mem_cons_self⟩
  | @element vs l hs =>
      simp only [wire]
      refine ⟨_, vs.map Scalar.toJson, .refl, ?_, List.mem_map_of_mem hs⟩
      have hbeside : l.wire.lookup field = none :=
        Label.lookup_wire_eq_none.mpr ⟨hspared.1, fun h => by simpa using hspared.2 h⟩
      rw [(Json.Members.holds_ofEntries l.nodup_wire).lookup, hbeside, if_pos rfl, Option.none_or]
  | bound hs =>
      simp only [wire]
      exact ⟨_, .refl, List.mem_append_left _ hs⟩

end Query

/-! ## Integers of rendered queries -/

theorem Scalar.allInts_toJson (s : Scalar) : s.toJson.AllInts Fits := by
  cases s with
  | integer n => exact allInts_int.mpr ⟨n.le_toInt, n.toInt_lt⟩
  | bool b => exact allInts_bool
  | float x => exact allInts_float
  | text s => exact allInts_string

theorem Bounds.allInts_members {b : Bounds} {m : String × Json} (h : m ∈ b.members) :
    m.2.AllInts Scalar.Fits := by
  obtain ⟨s, -, -, hs⟩ | ⟨s, -, -, hs⟩ | ⟨s, -, -, hs⟩ | ⟨s, -, -, hs⟩ := mem_members.mp h <;>
    exact hs ▸ s.allInts_toJson

theorem Label.allInts_wire (l : Label) : ∀ m ∈ l.wire, m.2.AllInts Scalar.Fits := by
  rw [wire, List.forall_mem_cons]
  exact ⟨allInts_float, allInts_member? fun name _ => allInts_string⟩

theorem Condition.allInts_wire (c : Condition) (field : String) (l : Label) :
    (c.wire field l).AllInts Scalar.Fits := by
  cases c with
  | textMatch text minimum analyzer =>
      simp only [wire, onField, allInts_single, allInts_object, List.cons_append,
        List.forall_mem_cons, List.forall_mem_append, allInts_string, true_and]
      exact ⟨⟨allInts_member? fun _ _ => allInts_string, allInts_member? fun _ _ => allInts_string⟩,
        l.allInts_wire⟩
  | phrasePrefix text maxExpansions =>
      have hcount : Scalar.Fits maxExpansions.toNat := by
        have := maxExpansions.toNat_lt
        exact ⟨by omega, by omega⟩
      simp only [wire, allInts_single, allInts_object]
      intro m hm
      rcases List.mem_cons.mp (mem_of_mem_ofEntries hm) with rfl | hm
      · simp [ofUInt32, hcount]
      · exact allInts_member? (fun name _ => allInts_string) m hm
  | phrase text => simpa [wire, onField] using l.allInts_wire
  | present => simpa [wire] using l.allInts_wire
  | range b =>
      simp only [wire, onField, allInts_single, allInts_object, List.forall_mem_append]
      exact ⟨fun m => Bounds.allInts_members, l.allInts_wire⟩
  | term v => simpa [wire, onField, v.allInts_toJson] using l.allInts_wire
  | terms vs =>
      simp only [wire, allInts_single, allInts_object]
      intro m hm
      rcases List.mem_cons.mp (mem_of_mem_ofEntries hm) with rfl | hm
      · simp [Scalar.allInts_toJson]
      · exact l.allInts_wire m hm

namespace Query

theorem allInts_wire (q : Query) : q.wire.AllInts Scalar.Fits := by
  induction q using induction_children with
  | step q ih =>
      cases q with
      | leaf field c l =>
          simp only [wire]
          exact c.allInts_wire field l
      | bool must should mustNot minimum l =>
          simp only [children, List.forall_mem_append] at ih
          have hclauses {key : String} {qs : List Query}
              (h : ∀ q ∈ qs, q.wire.AllInts Scalar.Fits) :
              ∀ m ∈ clauses key (qs.map wire), m.2.AllInts Scalar.Fits := by
            cases qs with
            | nil => simp [clauses]
            | cons q qs => simpa [clauses] using h
          simp only [wire, wires_eq_map, allInts_single, allInts_object, List.forall_mem_append]
          refine ⟨⟨⟨⟨hclauses ih.1.1, hclauses ih.1.2⟩, ?_⟩, hclauses ih.2⟩, l.allInts_wire⟩
          split <;> simp
      | nested path q mode l =>
          simp only [wire, allInts_single, allInts_object, List.forall_mem_append,
            List.forall_mem_cons, allInts_string]
          simpa [ih q (by simp [children])] using l.allInts_wire
      | filtered q f l =>
          simp only [children, List.forall_mem_append, Option.mem_toList] at ih
          cases q with
          | none =>
              cases f with
              | none => simpa [wire] using l.allInts_wire
              | some f => simpa [wire, ih.2 f rfl] using l.allInts_wire
          | some q =>
              cases f with
              | none => simpa [wire] using ih.1 q rfl
              | some f => simpa [wire, ih.1 q rfl, ih.2 f rfl] using l.allInts_wire

/-- A rendered query shows an integer that it is asked for if that fits 64 signed bits, and else the
nearest float. -/
theorem shows_iff_fits {q p : Query} {field : String} {n : Int} {role : Role} (hp : q.Contains p)
    (h : p.AsksFor field (Scalar.ofInt n) role) (hspared : role.Spared field) :
    (Shows field (.int n) role q.wire ↔ Scalar.Fits n) ∧
      (¬ Scalar.Fits n → Shows field (.float (Binary64.ofInt n)) role q.wire) := by
  have hshown : Shows field (Scalar.ofInt n).toJson role q.wire :=
    (h.shows hspared).of_hasPart (hasPart_wire_of_contains hp)
  refine ⟨⟨fun hn => q.allInts_wire n hn.hasPart, fun hn => ?_⟩, fun hn => ?_⟩
  · rw [Scalar.ofInt_toJson_of_fits hn] at hshown
    exact hshown
  · rw [Scalar.ofInt_toJson_of_not_fits hn] at hshown
    exact hshown

end Query

end FacetedSearch
