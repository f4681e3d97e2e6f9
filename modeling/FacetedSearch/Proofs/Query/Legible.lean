import FacetedSearch.Proofs.Query.Leaf
import FacetedSearch.Proofs.Query.Normal

/-!
# What a rendered query says

Two trees are rendered to the same JSON exactly if they have one normal form.
-/

namespace FacetedSearch

open Json

attribute [local simp] Table.lookup_cons List.lookup_append lookup_member? Label.lookup_wire

theorem ScoreMode.name_inj {m n : ScoreMode} (h : m.name = n.name) : m = n := by
  have hname := congrArg ofName? h
  simpa only [ofName?_name, Option.some.injEq] using hname

/-- No condition is written under the key of a combination. -/
theorem Condition.key_ne {c : Condition} {key : String}
    (h : key ∈ ["bool", "nested", "match_all", "constant_score"]) : key ≠ c.key := by
  simp only [List.mem_cons, List.not_mem_nil, or_false] at h
  rcases h with rfl | rfl | rfl | rfl <;> cases c <;> simp [Condition.key]

/-! ## Trees -/

namespace Query

/-- A tree in normal form that can be read back from what it is rendered to. -/
inductive Readable : Query → Prop
  | leaf {field c l} : l.boost.isFinite = true → (∀ s ∈ c.scalars, s.toJson.isFinite = true) →
      c.StandsApart field → Readable (.leaf field c l)
  | bool {must should mustNot minimum l} : l.boost.isFinite = true →
      (should = [] → minimum = defaultMinimumShouldMatch) → (∀ q ∈ must, Readable q) →
      (∀ q ∈ should, Readable q) → (∀ q ∈ mustNot, Readable q) →
      Readable (.bool must should mustNot minimum l)
  | nested {path q mode l} : l.boost.isFinite = true → Readable q →
      Readable (.nested path q mode l)
  | matchAll {l} : l.boost.isFinite = true → Readable (.filtered none none l)
  | filter {f l} : l.boost.isFinite = true → Readable f → Readable (.filtered none (some f) l)
  | both {q f l} : l.boost.isFinite = true → Readable q → Readable f →
      Readable (.filtered (some q) (some f) l)

/-- Every number in the tree is finite, and no field has the name of a member that is written
beside it. -/
structure Legible (q : Query) : Prop where
  boost : ∀ p, q.Contains p → p.label.boost.isFinite = true
  scalars : ∀ field c l, q.Contains (.leaf field c l) → ∀ s ∈ c.scalars, s.toJson.isFinite = true
  terms : ∀ field values l, q.Contains (.leaf field (.terms values) l) →
    field ≠ "boost" ∧ field ≠ "_name"
  phrasePrefix : ∀ field text n l, q.Contains (.leaf field (.phrasePrefix text n) l) →
    field ≠ "_name"

theorem Legible.child {q c : Query} (h : q.Legible) (hc : c ∈ q.children) : c.Legible where
  boost p hp := h.boost p (.head hc hp)
  scalars field cond l hp := h.scalars field cond l (.head hc hp)
  terms field values l hp := h.terms field values l (.head hc hp)
  phrasePrefix field text n l hp := h.phrasePrefix field text n l (.head hc hp)

theorem Legible.standsApart {field : String} {c : Condition} {l : Label}
    (h : (Query.leaf field c l).Legible) : c.StandsApart field := by
  cases c with
  | phrasePrefix text n => exact h.phrasePrefix field text n l .refl
  | terms values => exact h.terms field values l .refl
  | _ => trivial

theorem Legible.readable_normal {q : Query} : q.Legible → q.normal.Readable := by
  induction q using induction_children with
  | step q ih =>
      intro h
      have hboost := h.boost q .refl
      have hchildren : ∀ c ∈ q.children, c.normal.Readable := fun c hc => ih c hc (h.child hc)
      clear ih
      cases q with
      | leaf field c l =>
          simp only [normal]
          exact .leaf hboost (h.scalars field c l .refl) h.standsApart
      | bool must should mustNot minimum l =>
          simp only [children, List.forall_mem_append] at hchildren
          simp only [normal, normals_eq_map]
          refine .bool hboost ?_ ?_ ?_ ?_
          · simp +contextual
          · exact List.forall_mem_map.mpr hchildren.1.1
          · exact List.forall_mem_map.mpr hchildren.1.2
          · exact List.forall_mem_map.mpr hchildren.2
      | nested path q mode l =>
          simp only [normal]
          exact .nested hboost (hchildren q (by simp [children]))
      | filtered q f l =>
          simp only [children, List.forall_mem_append, Option.mem_toList] at hchildren
          cases q with
          | none =>
              cases f with
              | none =>
                  simp only [normal]
                  exact .matchAll hboost
              | some f =>
                  simp only [normal]
                  exact .filter hboost (hchildren.2 f rfl)
          | some q =>
              cases f with
              | none =>
                  simp only [normal]
                  exact hchildren.1 q rfl
              | some f =>
                  simp only [normal]
                  exact .both hboost (hchildren.1 q rfl) (hchildren.2 f rfl)

/-- A tree is legible if the query itself is and all those right below it are. -/
theorem Legible.of_children {q : Query} (hboost : q.label.boost.isFinite = true)
    (hleaf : ∀ field c l, q = .leaf field c l →
      (∀ s ∈ c.scalars, s.toJson.isFinite = true) ∧ c.StandsApart field)
    (hchildren : ∀ c ∈ q.children, c.Legible) : q.Legible where
  boost p hp := by
    rcases hp.cases_head with rfl | ⟨c, hc, hp⟩
    · exact hboost
    · exact (hchildren c hc).boost p hp
  scalars field cond l hp := by
    rcases hp.cases_head with rfl | ⟨c, hc, hp⟩
    · exact (hleaf field cond l rfl).1
    · exact (hchildren c hc).scalars field cond l hp
  terms field values l hp := by
    rcases hp.cases_head with rfl | ⟨c, hc, hp⟩
    · exact (hleaf field (.terms values) l rfl).2
    · exact (hchildren c hc).terms field values l hp
  phrasePrefix field text n l hp := by
    rcases hp.cases_head with rfl | ⟨c, hc, hp⟩
    · exact (hleaf field (.phrasePrefix text n) l rfl).2
    · exact (hchildren c hc).phrasePrefix field text n l hp

/-! ## Members of combinations -/

/-- What the wire of a query is under. -/
def key : Query → String
  | leaf _ c _ => c.key
  | bool .. => "bool"
  | nested .. => "nested"
  | filtered none none _ => "match_all"
  | filtered none (some _) _ => "constant_score"
  | filtered (some _) _ _ => "bool"

theorem Readable.wire_eq_single {q : Query} (h : q.Readable) : ∃ v, q.wire = .single q.key v := by
  cases h with
  | leaf =>
      simp only [wire, key]
      exact Condition.wire_eq_single _ _ _
  | _ =>
      simp only [wire, key]
      exact ⟨_, rfl⟩

theorem Readable.key_eq {q u : Query} (hq : q.Readable) (hu : u.Readable)
    (h : Same q.wire u.wire) : q.key = u.key := by
  obtain ⟨v, hv⟩ := hq.wire_eq_single
  obtain ⟨w, hw⟩ := hu.wire_eq_single
  rw [hv, hw] at h
  exact h.single.1

theorem lookup_clauses (key other : String) (ws : List Json) : (clauses key ws).lookup other =
    if other = key then if ws = [] then none else some (.array ws) else none := by
  cases ws <;> simp [clauses]

theorem lookup_minimum (other : String) (v : Json) (ws : List Json) :
    (if ws = [] then [] else [("minimum_should_match", v)] : Members).lookup other =
      if other = "minimum_should_match" then if ws = [] then none else some v else none := by
  cases ws <;> simp

attribute [local simp] lookup_clauses lookup_minimum

theorem forall₂_of_clauses {ws ws' : List Json}
    (h : Option.Rel Same (if ws = [] then none else some (.array ws))
      (if ws' = [] then none else some (.array ws'))) : List.Forall₂ Same ws ws' := by
  cases ws <;> cases ws' <;> simp at h
  · exact .nil
  · exact h.items

section

variable {l l' : Label}

theorem bool_same {must should mustNot must' should' mustNot' : List Query}
    {minimum minimum' : String} (hl : l.boost.isFinite = true)
    (h : Same (bool must should mustNot minimum l).wire
      (bool must' should' mustNot' minimum' l').wire) :
    List.Forall₂ Same (wires must) (wires must') ∧ List.Forall₂ Same (wires should) (wires should') ∧
      List.Forall₂ Same (wires mustNot) (wires mustNot') ∧
      (should ≠ [] → should' ≠ [] → minimum = minimum') ∧ l = l' := by
  simp only [wire] at h
  have hm := h.single.2
  refine ⟨forall₂_of_clauses (by simpa using hm.lookup "must"),
    forall₂_of_clauses (by simpa using hm.lookup "should"),
    forall₂_of_clauses (by simpa using hm.lookup "must_not"), fun hsome hsome' => ?_, ?_⟩
  · exact Same.string
      (by simpa [wires_eq_map, hsome, hsome'] using hm.lookup "minimum_should_match")
  · exact Label.eq_of_same hl (by simpa using hm.lookup "boost") (by simpa using hm.lookup "_name")

theorem nested_same {path path' : String} {q q' : Query} {mode mode' : ScoreMode}
    (hl : l.boost.isFinite = true)
    (h : Same (nested path q mode l).wire (nested path' q' mode' l').wire) :
    path = path' ∧ Same q.wire q'.wire ∧ mode = mode' ∧ l = l' := by
  simp only [wire] at h
  have hm := h.single.2
  have hpath : path = path' := Same.string (by simpa using hm.lookup "path")
  have hquery : Same q.wire q'.wire := by simpa using hm.lookup "query"
  have hmode : mode = mode' :=
    ScoreMode.name_inj (Same.string (by simpa using hm.lookup "score_mode"))
  have hlabel := Label.eq_of_same hl (by simpa using hm.lookup "boost")
    (by simpa using hm.lookup "_name")
  exact ⟨hpath, hquery, hmode, hlabel⟩

theorem matchAll_same (hl : l.boost.isFinite = true)
    (h : Same (filtered none none l).wire (filtered none none l').wire) : l = l' := by
  simp only [wire] at h
  have hm := h.single.2
  exact Label.eq_of_same hl (by simpa using hm.lookup "boost") (by simpa using hm.lookup "_name")

theorem filter_same {f f' : Query} (hl : l.boost.isFinite = true)
    (h : Same (filtered none (some f) l).wire (filtered none (some f') l').wire) :
    Same f.wire f'.wire ∧ l = l' := by
  simp only [wire] at h
  have hm := h.single.2
  have hfilter : Same f.wire f'.wire := by simpa using hm.lookup "filter"
  have hlabel := Label.eq_of_same hl (by simpa using hm.lookup "boost")
    (by simpa using hm.lookup "_name")
  exact ⟨hfilter, hlabel⟩

theorem both_same {q f q' f' : Query} (hl : l.boost.isFinite = true)
    (h : Same (filtered (some q) (some f) l).wire (filtered (some q') (some f') l').wire) :
    Same q.wire q'.wire ∧ Same f.wire f'.wire ∧ l = l' := by
  simp only [wire] at h
  have hm := h.single.2
  have hquery : Same (.array [q.wire]) (.array [q'.wire]) := by simpa using hm.lookup "must"
  have hfilter : Same (.array [f.wire]) (.array [f'.wire]) := by simpa using hm.lookup "filter"
  have hlabel := Label.eq_of_same hl (by simpa using hm.lookup "boost")
    (by simpa using hm.lookup "_name")
  exact ⟨hquery.item, hfilter.item, hlabel⟩

end

/-! ## Reading back -/

theorem eq_of_wires_same {qs qs' : List Query}
    (ih : ∀ q ∈ qs, ∀ {u : Query}, u.Readable → Same q.wire u.wire → q = u)
    (hqs' : ∀ q ∈ qs', q.Readable) (h : List.Forall₂ Same (wires qs) (wires qs')) : qs = qs' := by
  rw [wires_eq_map, wires_eq_map, List.forall₂_map_left_iff, List.forall₂_map_right_iff] at h
  induction h with
  | nil => rfl
  | cons hwire _ ihrest =>
      obtain ⟨hq, hqs⟩ := List.forall_mem_cons.mp ih
      obtain ⟨hq', hqs'⟩ := List.forall_mem_cons.mp hqs'
      rw [hq hq' hwire, ihrest hqs hqs']

/-- A tree in normal form is read back from what it is rendered to. -/
theorem Readable.eq_of_same {t u : Query} (ht : t.Readable) (hu : u.Readable)
    (h : Same t.wire u.wire) : t = u := by
  induction ht generalizing u with
  | leaf hl hc hfield =>
      have hkey := Readable.key_eq (.leaf hl hc hfield) hu h
      cases hu with
      | leaf _ _ hfield' =>
          simp only [wire] at h
          obtain ⟨rfl, rfl, rfl⟩ := Condition.eq_of_wire_same hl hc hfield hfield' h
          rfl
      | _ => exact absurd hkey.symm (Condition.key_ne (by simp [key]))
  | @bool must should mustNot minimum l hl hminimum hm hs hn ihm ihs ihn =>
      have hkey := Readable.key_eq (.bool hl hminimum hm hs hn) hu h
      cases hu with
      | leaf => exact absurd hkey (Condition.key_ne (by simp [key]))
      | @bool must' should' mustNot' minimum' l' _ hminimum' hm' hs' hn' =>
          obtain ⟨hmust, hshould, hmustNot, hcount, rfl⟩ := bool_same hl h
          obtain rfl : must = must' := eq_of_wires_same ihm hm' hmust
          obtain rfl : should = should' := eq_of_wires_same ihs hs' hshould
          obtain rfl : mustNot = mustNot' := eq_of_wires_same ihn hn' hmustNot
          have heq : minimum = minimum' := by
            by_cases hnone : should = []
            · rw [hminimum hnone, hminimum' hnone]
            · exact hcount hnone hnone
          rw [heq]
      | both =>
          -- Both are under one key; only the other has a filter.
          simp only [wire] at h
          have hfilter := h.single.2.lookup_eq_none "filter"
          simp at hfilter
      | _ => simp [key] at hkey
  | nested hl hq ih =>
      have hkey := Readable.key_eq (.nested hl hq) hu h
      cases hu with
      | leaf => exact absurd hkey (Condition.key_ne (by simp [key]))
      | nested _ hq' =>
          obtain ⟨rfl, hquery, rfl, rfl⟩ := nested_same hl h
          rw [ih hq' hquery]
      | _ => simp [key] at hkey
  | matchAll hl =>
      have hkey := Readable.key_eq (.matchAll hl) hu h
      cases hu with
      | leaf => exact absurd hkey (Condition.key_ne (by simp [key]))
      | matchAll =>
          obtain rfl := matchAll_same hl h
          rfl
      | _ => simp [key] at hkey
  | filter hl hf ih =>
      have hkey := Readable.key_eq (.filter hl hf) hu h
      cases hu with
      | leaf => exact absurd hkey (Condition.key_ne (by simp [key]))
      | filter _ hf' =>
          obtain ⟨hfilter, rfl⟩ := filter_same hl h
          rw [ih hf' hfilter]
      | _ => simp [key] at hkey
  | both hl hq hf ihq ihf =>
      have hkey := Readable.key_eq (.both hl hq hf) hu h
      cases hu with
      | leaf => exact absurd hkey (Condition.key_ne (by simp [key]))
      | bool =>
          simp only [wire] at h
          have hfilter := h.single.2.lookup_eq_none "filter"
          simp at hfilter
      | both _ hq' hf' =>
          obtain ⟨hquery, hfilter, rfl⟩ := both_same hl h
          rw [ihq hq' hquery, ihf hf' hfilter]
      | _ => simp [key] at hkey

/-- Two trees in which every number is finite, and no field could be mistaken for a member beside it,
are rendered to the same JSON exactly if they have the same normal form. -/
theorem rendered_same_iff_normal_eq {t u : Query} (ht : t.Legible) (hu : u.Legible) {v w : Json}
    (hv : Registry.full.render t = .ok v) (hw : Registry.full.render u = .ok w) :
    v.Same w ↔ t.normal = u.normal := by
  rw [render_full] at hv hw
  cases hv
  cases hw
  constructor
  · intro h
    rw [← wire_normal t, ← wire_normal u] at h
    exact ht.readable_normal.eq_of_same hu.readable_normal h
  · intro h
    rw [← wire_normal t, ← wire_normal u, h]
    exact .refl _

/-- Two different trees are rendered to the same JSON: the node around the first is forgotten, and so
is its minimum, which counts no clause. -/
theorem forgets_wrapper_and_idle_minimum :
    let visible := bool [leaf "visible" .present {}] [] [] "1" {}
    let wrapped :=
      filtered (some (bool [leaf "visible" .present {}] [] [] "2" {})) none { name := some "outer" }
    wrapped.Legible ∧ visible.Legible ∧ ∃ v w, Registry.full.render wrapped = .ok v ∧
      Registry.full.render visible = .ok w ∧ v.Same w := by
  have hleaf : (leaf "visible" .present {}).Legible :=
    .of_children rfl (by rintro _ _ _ ⟨⟩; simp [Condition.scalars, Condition.StandsApart])
      (by simp [children])
  have hbool : ∀ minimum, (bool [leaf "visible" .present {}] [] [] minimum {}).Legible := fun _ =>
    .of_children rfl (by simp) (by simpa [children] using hleaf)
  have hwrapped : (filtered (some (bool [leaf "visible" .present {}] [] [] "2" {})) none
      { name := some "outer" }).Legible :=
    .of_children rfl (by simp) (by simpa [children] using hbool "2")
  refine ⟨hwrapped, hbool "1", _, _, render_full _, render_full _, ?_⟩
  exact (rendered_same_iff_normal_eq hwrapped (hbool "1") (render_full _) (render_full _)).mpr
    (by simp [normal, normals, defaultMinimumShouldMatch])

end Query

end FacetedSearch
