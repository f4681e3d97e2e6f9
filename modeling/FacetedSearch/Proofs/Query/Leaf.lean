import FacetedSearch.Proofs.Json.Same
import FacetedSearch.Query.Registry

/-!
# What a rendered leaf says

The wire of a leaf says what its field, its condition and its label are, unless its field has the
name of a member that is written beside it.
-/

namespace FacetedSearch

open Json

attribute [local simp] Table.lookup_cons List.lookup_append lookup_member?

/-! ## Labels -/

theorem Label.lookup_wire (l : Label) (key : String) : l.wire.lookup key =
    if key = "boost" then some (.float l.boost)
    else if key = "_name" then l.name.map .string else none := by
  simp only [wire, Table.lookup_cons, lookup_member?]

attribute [local simp] Label.lookup_wire

theorem Label.eq_of_same {l l' : Label} (hl : l.boost.isFinite = true)
    (hboost : Same (.float l.boost) (.float l'.boost))
    (hname : Option.Rel Same (l.name.map .string) (l'.name.map .string)) : l = l' := by
  have hb : l.boost = l'.boost := hboost.float hl
  have hn : l.name = l'.name := rel_string hname
  cases l
  cases l'
  simp_all

/-! ## Values -/

theorem Scalar.eq_of_same {a b : Scalar} (ha : a.toJson.isFinite = true)
    (h : a.toJson.Same b.toJson) : a = b := by
  have hnull : a.toJson.isNull = false := by
    cases a <;> simp_all [toJson, isNull, Json.isFinite]
  have heq : a.toJson = b.toJson := by
    cases a <;> exact h.atom hnull rfl rfl
  cases a <;> cases b <;> simp_all [toJson, Int64.toInt_inj]

theorem Scalar.eq_of_forall₂ {vs ws : List Scalar} (hvs : ∀ s ∈ vs, s.toJson.isFinite = true)
    (h : List.Forall₂ Same (vs.map toJson) (ws.map toJson)) : vs = ws := by
  rw [List.forall₂_map_left_iff, List.forall₂_map_right_iff] at h
  induction h with
  | nil => rfl
  | cons hvw _ ih =>
      obtain ⟨hv, hvs⟩ := List.forall_mem_cons.mp hvs
      rw [eq_of_same hv hvw, ih hvs]

namespace Condition

/-- The values that a condition compares with. -/
def scalars : Condition → List Scalar
  | range b => b.gt.toList ++ b.gte.toList ++ b.lt.toList ++ b.lte.toList
  | term v => [v]
  | terms vs => vs
  | _ => []

theorem bounds_eq_of_same {b b' : Bounds} {ms ns : Members}
    (hb : ∀ s ∈ (range b).scalars, s.toJson.isFinite = true)
    (hms : ∀ key ∈ ["gt", "gte", "lt", "lte"], ms.lookup key = none)
    (hns : ∀ key ∈ ["gt", "gte", "lt", "lte"], ns.lookup key = none)
    (h : Same (.object (b.members ++ ms)) (.object (b'.members ++ ns))) : b = b' := by
  simp only [List.forall_mem_cons] at hms hns
  obtain ⟨mgt, mgte, mlt, mlte, _⟩ := hms
  obtain ⟨ngt, ngte, nlt, nlte, _⟩ := hns
  simp only [scalars, List.forall_mem_append, Option.mem_toList] at hb
  obtain ⟨⟨⟨fgt, fgte⟩, flt⟩, flte⟩ := hb
  have hgt : b.gt = b'.gt := rel_map (fun a ha _ => Scalar.eq_of_same (fgt a ha))
    (by simpa [Bounds.members, mgt, ngt] using h.lookup "gt")
  have hgte : b.gte = b'.gte := rel_map (fun a ha _ => Scalar.eq_of_same (fgte a ha))
    (by simpa [Bounds.members, mgte, ngte] using h.lookup "gte")
  have hlt : b.lt = b'.lt := rel_map (fun a ha _ => Scalar.eq_of_same (flt a ha))
    (by simpa [Bounds.members, mlt, nlt] using h.lookup "lt")
  have hlte : b.lte = b'.lte := rel_map (fun a ha _ => Scalar.eq_of_same (flte a ha))
    (by simpa [Bounds.members, mlte, nlte] using h.lookup "lte")
  cases b
  cases b'
  simp_all

/-! ## Leaves -/

/-- The field is told from the members that are written beside it. -/
def StandsApart (field : String) : Condition → Prop
  | terms _ => field ≠ "boost" ∧ field ≠ "_name"
  | phrasePrefix .. => field ≠ "_name"
  | _ => True

theorem ofEntries_label {field : String} {v : Json} {l : Label}
    (h : field ≠ "boost" ∧ field ≠ "_name") :
    Members.ofEntries ((field, v) :: l.wire) = (field, v) :: l.wire := by
  refine Members.ofEntries_of_nodup ?_
  cases hn : l.name <;> simp [Label.wire, member?, hn, h.1, h.2]

theorem ofEntries_name {field : String} {v : Json} {name : Option String} (h : field ≠ "_name") :
    Members.ofEntries ((field, v) :: member? "_name" .string name) =
      (field, v) :: member? "_name" .string name := by
  refine Members.ofEntries_of_nodup ?_
  cases name <;> simp [member?, h]

/-- What the wire of a leaf is under. -/
def key : Condition → String
  | textMatch .. => "match"
  | phrasePrefix .. => "match_phrase_prefix"
  | phrase _ => "match_phrase"
  | present => "exists"
  | range _ => "range"
  | term _ => "term"
  | terms _ => "terms"

theorem wire_eq_single (c : Condition) (field : String) (l : Label) :
    ∃ v, c.wire field l = .single c.key v := by
  cases c <;> exact ⟨_, rfl⟩

theorem onField_same {key field field' : String} {ms ns : Members}
    (h : Same (onField key field ms) (onField key field' ns)) :
    field = field' ∧ Same (.object ms) (.object ns) :=
  h.single.2.single

section

variable {field field' : String} {l l' : Label}

theorem textMatch_same {text text' : String} {minimum minimum' analyzer analyzer' : Option String}
    (hl : l.boost.isFinite = true) (h : Same ((textMatch text minimum analyzer).wire field l)
      ((textMatch text' minimum' analyzer').wire field' l')) :
    field = field' ∧ textMatch text minimum analyzer = textMatch text' minimum' analyzer' ∧
      l = l' := by
  obtain ⟨rfl, hm⟩ := onField_same h
  have htext : text = text' := Same.string (by simpa using hm.lookup "query")
  have hminimum : minimum = minimum' :=
    rel_string (by simpa using hm.lookup "minimum_should_match")
  have hanalyzer : analyzer = analyzer' := rel_string (by simpa using hm.lookup "analyzer")
  have hlabel := Label.eq_of_same hl (by simpa using hm.lookup "boost")
    (by simpa using hm.lookup "_name")
  exact ⟨rfl, by rw [htext, hminimum, hanalyzer], hlabel⟩

theorem phrasePrefix_same {text text' : String} {count count' : UInt32}
    (hl : l.boost.isFinite = true) (hfield : field ≠ "_name") (hfield' : field' ≠ "_name")
    (h : Same ((phrasePrefix text count).wire field l)
      ((phrasePrefix text' count').wire field' l')) :
    field = field' ∧ phrasePrefix text count = phrasePrefix text' count' ∧ l = l' := by
  -- The boost is inside the parameters and the name beside them.
  have hm := h.single.2
  rw [ofEntries_name hfield, ofEntries_name hfield'] at hm
  have hbeside : (member? "_name" .string l'.name).lookup field = none := by
    rw [lookup_member?, if_neg hfield]
  obtain ⟨rfl, hparams⟩ := hm.beside hbeside
  have htext : text = text' := Same.string (by simpa using hparams.lookup "query")
  have hcount : (count.toNat : Int) = count'.toNat :=
    Same.int (by simpa [ofUInt32] using hparams.lookup "max_expansions")
  have hlabel := Label.eq_of_same hl (by simpa using hparams.lookup "boost")
    (by simpa [hfield.symm] using hm.lookup "_name")
  exact ⟨rfl, by rw [htext, UInt32.toNat_inj.mp (Int.ofNat_inj.mp hcount)], hlabel⟩

theorem phrase_same {text text' : String} (hl : l.boost.isFinite = true)
    (h : Same ((phrase text).wire field l) ((phrase text').wire field' l')) :
    field = field' ∧ phrase text = phrase text' ∧ l = l' := by
  obtain ⟨rfl, hm⟩ := onField_same h
  have htext : text = text' := Same.string (by simpa using hm.lookup "query")
  have hlabel := Label.eq_of_same hl (by simpa using hm.lookup "boost")
    (by simpa using hm.lookup "_name")
  exact ⟨rfl, by rw [htext], hlabel⟩

theorem present_same (hl : l.boost.isFinite = true)
    (h : Same (present.wire field l) (present.wire field' l')) : field = field' ∧ l = l' := by
  have hm := h.single.2
  have hfield : field = field' := Same.string (by simpa using hm.lookup "field")
  have hlabel := Label.eq_of_same hl (by simpa using hm.lookup "boost")
    (by simpa using hm.lookup "_name")
  exact ⟨hfield, hlabel⟩

theorem range_same {b b' : Bounds} (hl : l.boost.isFinite = true)
    (hb : ∀ s ∈ (range b).scalars, s.toJson.isFinite = true)
    (h : Same ((range b).wire field l) ((range b').wire field' l')) :
    field = field' ∧ range b = range b' ∧ l = l' := by
  obtain ⟨rfl, hm⟩ := onField_same h
  have hbounds : b = b' := bounds_eq_of_same hb (by simp) (by simp) hm
  have hlabel := Label.eq_of_same hl (by simpa [Bounds.members] using hm.lookup "boost")
    (by simpa [Bounds.members] using hm.lookup "_name")
  exact ⟨rfl, by rw [hbounds], hlabel⟩

theorem term_same {value value' : Scalar} (hl : l.boost.isFinite = true)
    (hvalue : value.toJson.isFinite = true)
    (h : Same ((term value).wire field l) ((term value').wire field' l')) :
    field = field' ∧ term value = term value' ∧ l = l' := by
  obtain ⟨rfl, hm⟩ := onField_same h
  have heq : value = value' := Scalar.eq_of_same hvalue (by simpa using hm.lookup "value")
  have hlabel := Label.eq_of_same hl (by simpa using hm.lookup "boost")
    (by simpa using hm.lookup "_name")
  exact ⟨rfl, by rw [heq], hlabel⟩

theorem terms_same {values values' : List Scalar} (hl : l.boost.isFinite = true)
    (hvalues : ∀ s ∈ values, s.toJson.isFinite = true)
    (hfield : field ≠ "boost" ∧ field ≠ "_name") (hfield' : field' ≠ "boost" ∧ field' ≠ "_name")
    (h : Same ((terms values).wire field l) ((terms values').wire field' l')) :
    field = field' ∧ terms values = terms values' ∧ l = l' := by
  have hm := h.single.2
  rw [ofEntries_label hfield, ofEntries_label hfield'] at hm
  have hbeside : l'.wire.lookup field = none := by
    rw [Label.lookup_wire, if_neg hfield.1, if_neg hfield.2]
  obtain ⟨rfl, harray⟩ := hm.beside hbeside
  have heq : values = values' := Scalar.eq_of_forall₂ hvalues harray.items
  have hlabel := Label.eq_of_same hl (by simpa [hfield.1.symm] using hm.lookup "boost")
    (by simpa [hfield.2.symm] using hm.lookup "_name")
  exact ⟨rfl, by rw [heq], hlabel⟩

/-- The wire of a leaf tells all of it. -/
theorem eq_of_wire_same {c c' : Condition} (hl : l.boost.isFinite = true)
    (hc : ∀ s ∈ c.scalars, s.toJson.isFinite = true) (hfield : c.StandsApart field)
    (hfield' : c'.StandsApart field') (h : Same (c.wire field l) (c'.wire field' l')) :
    field = field' ∧ c = c' ∧ l = l' := by
  have hkey : c.key = c'.key := by
    obtain ⟨v, hv⟩ := c.wire_eq_single field l
    obtain ⟨w, hw⟩ := c'.wire_eq_single field' l'
    rw [hv, hw] at h
    exact h.single.1
  cases c with
  | textMatch =>
      cases c' with
      | textMatch => exact textMatch_same hl h
      | _ => simp [key] at hkey
  | phrasePrefix =>
      cases c' with
      | phrasePrefix => exact phrasePrefix_same hl hfield hfield' h
      | _ => simp [key] at hkey
  | phrase =>
      cases c' with
      | phrase => exact phrase_same hl h
      | _ => simp [key] at hkey
  | present =>
      cases c' with
      | present =>
          obtain ⟨rfl, rfl⟩ := present_same hl h
          exact ⟨rfl, rfl, rfl⟩
      | _ => simp [key] at hkey
  | range =>
      cases c' with
      | range => exact range_same hl hc h
      | _ => simp [key] at hkey
  | term value =>
      cases c' with
      | term => exact term_same hl (hc value List.mem_cons_self) h
      | _ => simp [key] at hkey
  | terms =>
      cases c' with
      | terms => exact terms_same hl hc hfield hfield' h
      | _ => simp [key] at hkey

end

end Condition

end FacetedSearch
