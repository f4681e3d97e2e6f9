import FacetedSearch.Proofs.Json.Record
import FacetedSearch.Proofs.Query.Leaf
import FacetedSearch.Proofs.Query.Subtree
import FacetedSearch.Query.Codec

/-!
# Queries read back

What is written of a query whose numbers are all finite is read as that query, both on its own and
inside another.
-/

namespace FacetedSearch

open Json

attribute [local simp] Table.lookup_cons List.lookup_append lookup_member?

/-! ## Finite numbers -/

namespace Json

theorem isFiniteMembers_append (ms ns : Members) :
    isFiniteMembers (ms ++ ns) = (isFiniteMembers ms && isFiniteMembers ns) := by
  induction ms with
  | nil => rfl
  | cons m ms ih => simp [isFiniteMembers, ih, Bool.and_assoc]

theorem isFiniteList_map {α : Type} (encode : α → Json) (xs : List α) :
    isFiniteList (xs.map encode) = xs.all fun a => (encode a).isFinite := by
  induction xs with
  | nil => rfl
  | cons a xs ih => simp [isFiniteList, ih]

theorem keys_member? {α : Type} {key : String} {encode : α → Json} {o : Option α} :
    ((member? key encode o).map (·.1)).Sublist [key] := by
  cases o <;> simp [member?]

theorem isFiniteMembers_member? {α : Type} (key : String) (encode : α → Json) (o : Option α) :
    isFiniteMembers (member? key encode o) = o.all fun a => (encode a).isFinite := by
  cases o <;> simp [member?, isFiniteMembers]

end Json

/-! ## Scalars -/

namespace Scalar

def isFinite : Scalar → Bool
  | float x => x.isFinite
  | _ => true

theorem isFinite_toJson (s : Scalar) : s.toJson.isFinite = s.isFinite := by
  cases s <;> simp [toJson, isFinite, Json.isFinite]

theorem toJson_ne_null (s : Scalar) : s.toJson ≠ .null := by
  cases s <;> simp [toJson]

/-- A scalar of 64 signed bits fits its own range, and so is not read as a float. -/
theorem ofAtom?_toJson (s : Scalar) : ofAtom? s.toJson = some s := by
  cases s with
  | integer n =>
      have hn : -2 ^ 63 ≤ n.toInt ∧ n.toInt < 2 ^ 63 := ⟨n.le_toInt, n.toInt_lt⟩
      rw [toJson, ofAtom?, if_pos hn, Int64.ofInt_toInt]
  | _ => rfl

theorem ofJson?_toJson {s : Scalar} (h : s.isFinite = true) : ofJson? s.toJson = some s := by
  rw [ofJson?, if_pos (s.isFinite_toJson.trans h), ofAtom?_toJson]

end Scalar

namespace Bounds

variable {b : Bounds}

theorem keys_members : (b.members.map (·.1)).Sublist names := by
  simp only [members, List.map_append]
  exact ((keys_member?.append keys_member?).append keys_member?).append keys_member?

/-- Bounds are read from whatever record has just them under their names. -/
theorem ofRecord?_of_lookup {β : Type} {json : β → Json} {r : Record β}
    (h : ∀ key ∈ names, (r.members.lookup key).map json = b.members.lookup key) :
    ofRecord? json r = some b := by
  have hread (key : String) (o : Option Scalar) (hkey : key ∈ names)
      (ho : b.members.lookup key = o.map Scalar.toJson) :
      r.getD key (fun b => nullable Scalar.ofAtom? (json b)) none = some o :=
    getD_nullable ((h key hkey).trans ho) (fun v _ => v.ofAtom?_toJson) Scalar.toJson_ne_null
  rw [ofRecord?, hread "gt" b.gt (by simp [names]) (by simp [members]),
    hread "gte" b.gte (by simp [names]) (by simp [members]),
    hread "lt" b.lt (by simp [names]) (by simp [members]),
    hread "lte" b.lte (by simp [names]) (by simp [members])]
  rfl

def isFinite (b : Bounds) : Bool :=
  b.gt.all Scalar.isFinite && b.gte.all Scalar.isFinite && b.lt.all Scalar.isFinite &&
    b.lte.all Scalar.isFinite

theorem isFiniteMembers_members (b : Bounds) : isFiniteMembers b.members = b.isFinite := by
  simp [members, isFinite, isFiniteMembers_append, isFiniteMembers_member?, Scalar.isFinite_toJson,
    Bool.and_assoc]

end Bounds

/-! ## Leaves -/

namespace Label

theorem isFiniteMembers_members (l : Label) : isFiniteMembers l.members = l.boost.isFinite := by
  cases hname : l.name <;> simp [members, isFiniteMembers, isFinite, ofOption, hname]

end Label

namespace Condition

def isFinite : Condition → Bool
  | range b => b.isFinite
  | term v => v.isFinite
  | terms vs => vs.all Scalar.isFinite
  | _ => true

theorem isFiniteMembers_members (c : Condition) : isFiniteMembers c.members = c.isFinite := by
  cases c with
  | textMatch text minimum analyzer =>
      cases minimum <;> cases analyzer <;> rfl
  | range b => exact b.isFiniteMembers_members
  | term v => simp [members, isFiniteMembers, isFinite, v.isFinite_toJson]
  | terms vs =>
      simp [members, isFiniteMembers, Json.isFinite, isFinite, isFiniteList_map,
        Scalar.isFinite_toJson]
  | _ => rfl

/-- No name of a member is written twice. -/
theorem nodup_keys (c : Condition) (field : Json) (l : Label) :
    ("type" :: (("field", field) :: c.members ++ l.members).map (·.1)).Nodup := by
  cases c with
  | range b =>
      have hsub : ("type" :: "field" :: (b.members.map (·.1) ++ ["name", "boost"])).Sublist
          ("type" :: "field" :: (Bounds.names ++ ["name", "boost"])) :=
        ((Bounds.keys_members.append_right _).cons_cons _).cons_cons _
      simpa [members, Label.members] using hsub.nodup (by decide)
  | _ => simp [members, Label.members]

theorem lookup_members {c : Condition} {key : String} (h : key ∈ ["field", "name", "boost"]) :
    c.members.lookup key = none := by
  simp only [List.mem_cons, List.not_mem_nil, or_false] at h
  rcases h with rfl | rfl | rfl <;> cases c <;> simp [members, Bounds.members]

end Condition

namespace Query

/-! ## Members of what is read -/

theorem json_parse (inner : Bool) (j : Json) : (parse inner j).json = j := by
  cases j <;> rfl

theorem parseEntries_eq_map (inner : Bool) (ms : Members) :
    parseEntries inner ms = ms.map fun m => (m.1, parse inner m.2) := by
  induction ms with
  | nil => rfl
  | cons m ms ih => rw [parseEntries, ih, List.map_cons]

theorem lookup_parseEntries (inner : Bool) (ms : Members) (key : String) :
    (parseEntries inner ms).lookup key = (ms.lookup key).map (parse inner) := by
  induction ms with
  | nil => rfl
  | cons m ms ih =>
      rw [parseEntries, Table.lookup_cons, Table.lookup_cons, ih]
      split <;> rfl

theorem keys_parseEntries (inner : Bool) (ms : Members) :
    (parseEntries inner ms).map (·.1) = ms.map (·.1) := by
  simp [parseEntries_eq_map]

/-- The kind is found among the members, and the others are read as it says. -/
theorem ofEntries?_kind {k : Kind} {ms : Members} (h : ("type" :: ms.map (·.1)).Nodup)
    (outer inner : Bool) :
    ofEntries? outer (parseEntries inner (("type", .string k.name) :: ms)) =
      ofRecord? k ⟨parseEntries inner ms⟩ := by
  obtain ⟨hfresh, hnodup⟩ := List.nodup_cons.mp h
  have hkeys : ∀ e ∈ parseEntries inner ms, e.1 ≠ "type" := by
    rw [← keys_parseEntries inner] at hfresh
    exact fun e he hkey => hfresh (List.mem_map.mpr ⟨e, he, hkey⟩)
  have htag : (parseEntries inner ms).filter (fun e => e.1 == "type") = [] := by
    simpa [List.filter_eq_nil_iff] using hkeys
  have hrest : (parseEntries inner ms).filter (fun e => e.1 != "type") = parseEntries inner ms := by
    simpa [List.filter_eq_self] using hkeys
  have hrecord : Record.ofEntries? (memberNames k) (parseEntries inner ms) =
      some ⟨parseEntries inner ms⟩ :=
    Record.ofEntries?_of_nodup (by rwa [keys_parseEntries]) _
  simp [ofEntries?, parseEntries, htag, hrest, hrecord, json_parse, kindOf?, Kind.ofName?_name]

variable {inner : Bool} {ms : Members}

/-- A member that is written is read by what it is written as. -/
theorem require_eq {α : Type} {name : String} {decode : Parsed → Option α} {j : Json} {a : α}
    (h : ms.lookup name = some j) (hdecode : decode (parse inner j) = some a) :
    Record.require ⟨parseEntries inner ms⟩ name decode = some a :=
  Record.require_of_lookup (by rw [lookup_parseEntries, h]; rfl) hdecode

theorem getD_eq {α : Type} {name : String} {decode : Parsed → Option α} {default : α} {j : Json}
    {a : α} (h : ms.lookup name = some j) (hdecode : decode (parse inner j) = some a) :
    Record.getD ⟨parseEntries inner ms⟩ name decode default = some a :=
  Record.getD_of_lookup (by rw [lookup_parseEntries, h]; rfl) hdecode

theorem nullable_string_parse (o : Option String) :
    nullable string? (parse inner (ofOption .string o)).json = some o := by
  rw [json_parse, nullable_string]

theorem labelOf?_eq {l : Label} (hname : ms.lookup "name" = some (ofOption .string l.name))
    (hboost : ms.lookup "boost" = some (.float l.boost)) :
    labelOf? ⟨parseEntries inner ms⟩ = some l := by
  rw [labelOf?, getD_eq hname (nullable_string_parse l.name), getD_eq hboost (a := l.boost) rfl]
  rfl

theorem conditionOf?_eq (inner : Bool) (field : Json) (c : Condition) (l : Label) :
    conditionOf? c.kind ⟨parseEntries inner (("field", field) :: c.members ++ l.members)⟩ =
      some c := by
  generalize hms : ("field", field) :: c.members ++ l.members = ms
  cases c with
  | textMatch text minimum analyzer =>
      rw [Condition.kind, conditionOf?,
        require_eq (j := .string text) (a := text) (by simp [← hms, Condition.members]) rfl,
        getD_eq (by simp [← hms, Condition.members]) (nullable_string_parse minimum),
        getD_eq (by simp [← hms, Condition.members]) (nullable_string_parse analyzer)]
      rfl
  | phrasePrefix text n =>
      rw [Condition.kind, conditionOf?,
        require_eq (j := .string text) (a := text) (by simp [← hms, Condition.members]) rfl,
        getD_eq (j := ofUInt32 n) (a := n) (by simp [← hms, Condition.members])
          (by rw [json_parse, uint32?_ofUInt32])]
      rfl
  | phrase text =>
      rw [Condition.kind, conditionOf?,
        require_eq (j := .string text) (a := text) (by simp [← hms, Condition.members]) rfl]
      rfl
  | present => rfl
  | range b =>
      have hb : ∀ key ∈ Bounds.names,
          ((parseEntries inner ms).lookup key).map Parsed.json = b.members.lookup key := by
        intro key hkey
        have hkeys : key ≠ "field" ∧ key ≠ "name" ∧ key ≠ "boost" := by
          simp only [Bounds.names, List.mem_cons, List.not_mem_nil, or_false] at hkey
          rcases hkey with rfl | rfl | rfl | rfl <;> decide
        rw [lookup_parseEntries, Option.map_map, ← hms]
        simp [Condition.members, Label.members, hkeys, Function.comp_def, json_parse]
      simp only [Condition.kind, conditionOf?, Bounds.ofRecord?_of_lookup hb]
      rfl
  | term v =>
      rw [Condition.kind, conditionOf?, require_eq (j := v.toJson) (a := v)
        (by simp [← hms, Condition.members]) (by rw [json_parse, Scalar.ofAtom?_toJson])]
      rfl
  | terms vs =>
      rw [Condition.kind, conditionOf?, require_eq (j := .array (vs.map Scalar.toJson)) (a := vs)
        (by simp [← hms, Condition.members]) (listOf_map fun v _ => v.ofAtom?_toJson)]
      rfl

/-! ## Trees -/

mutual

def isFinite : Query → Bool
  | leaf _ c l => c.isFinite && l.boost.isFinite
  | bool must should mustNot _ l =>
    areFinite must && areFinite should && areFinite mustNot && l.boost.isFinite
  | nested _ q _ l => q.isFinite && l.boost.isFinite
  | filtered none none l => l.boost.isFinite
  | filtered (some q) none l => q.isFinite && l.boost.isFinite
  | filtered none (some f) l => f.isFinite && l.boost.isFinite
  | filtered (some q) (some f) l => q.isFinite && f.isFinite && l.boost.isFinite

def areFinite : List Query → Bool
  | [] => true
  | q :: rest => q.isFinite && areFinite rest

end

mutual

theorem isFinite_toJson : (q : Query) → q.toJson.isFinite = q.isFinite
  | .leaf field c l => by
      simp [toJson, isFinite, Json.isFinite, isFiniteMembers, isFiniteMembers_append,
        c.isFiniteMembers_members, l.isFiniteMembers_members]
  | .bool must should mustNot minimum l => by
      simp [toJson, isFinite, Json.isFinite, isFiniteMembers, isFiniteList_toJsonList must,
        isFiniteList_toJsonList should, isFiniteList_toJsonList mustNot,
        l.isFiniteMembers_members, Bool.and_assoc]
  | .nested path q mode l => by
      simp [toJson, isFinite, Json.isFinite, isFiniteMembers, isFinite_toJson q,
        l.isFiniteMembers_members]
  | .filtered none none l => by
      simp [toJson, isFinite, Json.isFinite, isFiniteMembers, l.isFiniteMembers_members]
  | .filtered (some q) none l => by
      simp [toJson, isFinite, Json.isFinite, isFiniteMembers, isFinite_toJson q,
        l.isFiniteMembers_members]
  | .filtered none (some f) l => by
      simp [toJson, isFinite, Json.isFinite, isFiniteMembers, isFinite_toJson f,
        l.isFiniteMembers_members]
  | .filtered (some q) (some f) l => by
      simp [toJson, isFinite, Json.isFinite, isFiniteMembers, isFinite_toJson q,
        isFinite_toJson f, l.isFiniteMembers_members, Bool.and_assoc]

theorem isFiniteList_toJsonList : (qs : List Query) → isFiniteList (toJsonList qs) = areFinite qs
  | [] => rfl
  | q :: qs => by
      simp [toJsonList, isFiniteList, areFinite, isFinite_toJson q, isFiniteList_toJsonList qs]

end

/-- A query is written as an object that is read as it, whichever positions are taken for kinds. -/
def ReadBack (q : Query) : Prop :=
  ∃ ms, q.toJson = .object ms ∧ ∀ outer inner, ofEntries? outer (parseEntries inner ms) = some q

namespace ReadBack

variable {q : Query} {qs : List Query}

theorem parse (h : q.ReadBack) (inner : Bool) : (parse inner q.toJson).query = some q := by
  obtain ⟨ms, hms, hread⟩ := h
  rw [hms]
  exact hread inner inner

theorem ne_null (h : q.ReadBack) : q.toJson ≠ .null := by
  obtain ⟨ms, hms, _⟩ := h
  rw [hms]
  nofun

theorem nullable (h : q.ReadBack) (inner : Bool) :
    nullableQuery (Query.parse inner q.toJson) = some (some q) := by
  rw [nullableQuery, json_parse, h.parse]
  split
  · rename_i hnull
    exact absurd hnull h.ne_null
  · rfl

theorem queries (h : ∀ q ∈ qs, q.ReadBack) (inner : Bool) :
    (Query.parse inner (.array (toJsonList qs))).queries = some qs := by
  change (parseList inner (toJsonList qs)).mapM Parsed.query = some qs
  induction qs with
  | nil => rfl
  | cons q qs ih =>
      obtain ⟨hq, hqs⟩ := List.forall_mem_cons.mp h
      simp [toJsonList, parseList, List.mapM_cons, hq.parse, ih hqs]

end ReadBack

theorem ReadBack.of_record {q : Query} (ms : Members)
    (hq : q.toJson = .object (("type", .string q.kind.name) :: ms))
    (hkeys : ("type" :: ms.map (·.1)).Nodup)
    (h : ∀ inner, ofRecord? q.kind ⟨parseEntries inner ms⟩ = some q) : q.ReadBack :=
  ⟨_, hq, fun outer inner => (ofEntries?_kind hkeys outer inner).trans (h inner)⟩

theorem readBack_leaf (field : String) (c : Condition) (l : Label) :
    (leaf field c l).ReadBack := by
  refine .of_record (("field", .string field) :: c.members ++ l.members) rfl
    (c.nodup_keys _ l) fun inner => ?_
  have hfield : Record.require
      ⟨parseEntries inner (("field", .string field) :: c.members ++ l.members)⟩ "field"
      (fun p => p.json.string?) = some field := require_eq (j := .string field) (by simp) rfl
  have hl : labelOf? ⟨parseEntries inner (("field", .string field) :: c.members ++ l.members)⟩ =
      some l := labelOf?_eq (by simp [c.lookup_members, Label.members])
        (by simp [c.lookup_members, Label.members])
  have hkind (r : Record Parsed) : ofRecord? c.kind r = (do
      let field ← r.require "field" (fun p => p.json.string?)
      let c ← conditionOf? c.kind r
      let l ← labelOf? r
      some (leaf field c l)) := by
    cases c <;> rfl
  simp only [kind, hkind, hfield, conditionOf?_eq, hl]
  rfl

theorem readBack_bool {must should mustNot : List Query} (minimum : String) (l : Label)
    (hmust : ∀ q ∈ must, q.ReadBack) (hshould : ∀ q ∈ should, q.ReadBack)
    (hmustNot : ∀ q ∈ mustNot, q.ReadBack) :
    (bool must should mustNot minimum l).ReadBack := by
  refine .of_record ([("must", .array (toJsonList must)), ("should", .array (toJsonList should)),
      ("must_not", .array (toJsonList mustNot)), ("minimum_should_match", .string minimum)] ++
      l.members) rfl (by simp [Label.members]) fun inner => ?_
  rw [kind, ofRecord?, getD_eq (by simp) (ReadBack.queries hmust inner),
    getD_eq (by simp) (ReadBack.queries hshould inner),
    getD_eq (by simp) (ReadBack.queries hmustNot inner),
    getD_eq (j := .string minimum) (a := minimum) (by simp) rfl,
    labelOf?_eq (l := l) (by simp [Label.members]) (by simp [Label.members])]
  rfl

theorem readBack_nested {q : Query} (path : String) (mode : ScoreMode) (l : Label)
    (hq : q.ReadBack) : (nested path q mode l).ReadBack := by
  refine .of_record ([("path", .string path), ("query", q.toJson),
      ("score_mode", .string mode.name)] ++ l.members) rfl (by simp [Label.members]) fun inner => ?_
  rw [kind, ofRecord?, require_eq (j := .string path) (a := path) (by simp) rfl,
    require_eq (by simp) (hq.parse inner),
    getD_eq (j := .string mode.name) (a := mode) (by simp) (ScoreMode.ofName?_name mode),
    labelOf?_eq (l := l) (by simp [Label.members]) (by simp [Label.members])]
  rfl

theorem readBack_filtered {q f : Option Query} (l : Label) (hq : ∀ p ∈ q, p.ReadBack)
    (hf : ∀ p ∈ f, p.ReadBack) : (filtered q f l).ReadBack := by
  have hnullable (o : Option Query) (ho : ∀ p ∈ o, p.ReadBack) (inner : Bool) :
      nullableQuery (parse inner (ofOption toJson o)) = some o := by
    cases o with
    | none => rfl
    | some p => exact (ho p rfl).nullable inner
  refine .of_record ([("query", ofOption toJson q), ("filter", ofOption toJson f)] ++ l.members)
    (by cases q <;> cases f <;> rfl) (by simp [Label.members]) fun inner => ?_
  rw [kind, ofRecord?, getD_eq (by simp) (hnullable q hq inner),
    getD_eq (by simp) (hnullable f hf inner),
    labelOf?_eq (l := l) (by simp [Label.members]) (by simp [Label.members])]
  rfl

theorem readBack (q : Query) : q.ReadBack := by
  induction q using induction_children with
  | step q ih =>
      cases q with
      | leaf field c l => exact readBack_leaf field c l
      | bool must should mustNot minimum l =>
          simp only [children, List.forall_mem_append] at ih
          obtain ⟨⟨hmust, hshould⟩, hmustNot⟩ := ih
          exact readBack_bool minimum l hmust hshould hmustNot
      | nested path q mode l => exact readBack_nested path mode l (ih q (by simp [children]))
      | filtered q f l =>
          simp only [children, List.forall_mem_append, Option.mem_toList] at ih
          exact readBack_filtered l ih.1 ih.2

/-- A query whose numbers are finite is read as it was written. -/
theorem ofJson?_toJson {q : Query} (h : q.isFinite = true) : ofJson? q.toJson = some q := by
  have hfinite : q.toJson.isFinite = true := q.isFinite_toJson.trans h
  obtain ⟨ms, hms, hread⟩ := q.readBack
  rw [hms] at hfinite ⊢
  simp only [ofJson?, ofTagged?, hfinite]
  exact hread false true

end Query

end FacetedSearch
