import FacetedSearch.Proofs.Query.Leaf
import FacetedSearch.Proofs.Query.Rendering

/-!
# Payloads under their fields

A list of values and a phrase prefix are written under their field, and members with names of their
own beside it. The payload is found under the field exactly if the field has none of those names.
-/

namespace FacetedSearch

open Outcome

/-! ## A field and members beside it -/

namespace Json.Members

/-- Members that have a payload under a field and others beside it, which a field of their name
gives way to. -/
structure Holds (ms : Members) (field : String) (payload : Json) (beside : Members) : Prop where
  distinct : (ms.map (·.1)).Nodup
  lookup : ∀ key, ms.lookup key =
    (beside.lookup key).or (if key = field then some payload else none)

variable {ms beside : Members} {field : String} {payload : Json}

theorem holds_ofEntries (h : (beside.map (·.1)).Nodup) :
    (ofEntries ((field, payload) :: beside)).Holds field payload beside where
  distinct := nodup_ofEntries _
  lookup key := by
    have hput : ofEntries ((field, payload) :: beside) = putAll [(field, payload)] beside := rfl
    rw [hput, lookup_putAll, lookup_reverse h, Table.lookup_cons, List.lookup_nil]

/-- The payload is found unless there is something else of the name of the field. -/
theorem Holds.payload_iff (h : ms.Holds field payload beside)
    (hne : beside.lookup field ≠ some payload) :
    ms.lookup field = some payload ↔ beside.lookup field = none := by
  rw [h.lookup, if_pos rfl]
  cases hlookup : beside.lookup field with
  | none => simp
  | some v =>
      rw [hlookup] at hne
      simpa using fun hv : v = payload => hne (by rw [hv])

end Json.Members

theorem Label.nodup_wire (l : Label) : (l.wire.map (·.1)).Nodup := by
  cases hname : l.name <;> simp [wire, Json.member?, hname]

theorem Label.lookup_wire_eq_none {l : Label} {field : String} :
    l.wire.lookup field = none ↔ field ≠ "boost" ∧ (field = "_name" → l.name = none) := by
  rw [lookup_wire]
  split
  · rename_i hboost
    simp [hboost]
  · rename_i hboost
    simp [hboost]

namespace Query

variable {field : String} {l : Label}

theorem assemble_leaf {c : Condition} (h : (leaf field c l).validate = .ok ()) :
    Registry.full.assemble (leaf field c l) = .ok (c.wire field l) := by
  simp only [Registry.assemble, check_bind_eq_ok]
  refine ⟨h, ?_⟩
  rw [render_full, wire]

theorem terms_holds {values : List Scalar} (h : (leaf field (.terms values) l).validate = .ok ()) :
    ∃ ms, Registry.full.assemble (leaf field (.terms values) l) =
      .ok (.single "terms" (.object ms)) ∧
      Json.Members.Holds ms field (.array (values.map Scalar.toJson)) l.wire :=
  ⟨_, assemble_leaf h, Json.Members.holds_ofEntries l.nodup_wire⟩

/-- What a phrase prefix has under its field. -/
def phrasePrefixParams (l : Label) (text : String) (count : UInt32) : Json :=
  .object [("query", .string text), ("boost", .float l.boost),
    ("max_expansions", Json.ofUInt32 count)]

theorem phrasePrefix_holds {text : String} {count : UInt32}
    (h : (leaf field (.phrasePrefix text count) l).validate = .ok ()) :
    ∃ ms, Registry.full.assemble (leaf field (.phrasePrefix text count) l) =
      .ok (.single "match_phrase_prefix" (.object ms)) ∧
      Json.Members.Holds ms field (phrasePrefixParams l text count)
        (Json.member? "_name" .string l.name) := by
  refine ⟨_, assemble_leaf h, Json.Members.holds_ofEntries ?_⟩
  cases l.name <;> simp [Json.member?]

/-- A valid list of values is found under its field unless that is `boost`, or `_name` where a name
is set, and a valid phrase prefix unless its field is `_name` and a name is set. -/
theorem payload_under_field (field : String) (l : Label) :
    (∀ values, (leaf field (.terms values) l).validate = .ok () →
      ∃ ms, Registry.full.assemble (leaf field (.terms values) l) =
          .ok (.single "terms" (.object ms)) ∧
        Json.Members.Holds ms field (.array (values.map Scalar.toJson)) l.wire ∧
        (ms.lookup field = some (.array (values.map Scalar.toJson)) ↔
          field ≠ "boost" ∧ (field = "_name" → l.name = none))) ∧
    ∀ text count, (leaf field (.phrasePrefix text count) l).validate = .ok () →
      ∃ ms, Registry.full.assemble (leaf field (.phrasePrefix text count) l) =
          .ok (.single "match_phrase_prefix" (.object ms)) ∧
        Json.Members.Holds ms field (phrasePrefixParams l text count)
          (Json.member? "_name" .string l.name) ∧
        (ms.lookup field = some (phrasePrefixParams l text count) ↔
          (field = "_name" → l.name = none)) := by
  constructor
  · intro values h
    obtain ⟨ms, hms, hholds⟩ := terms_holds h
    refine ⟨ms, hms, hholds, ?_⟩
    rw [hholds.payload_iff, Label.lookup_wire_eq_none]
    -- What the label has is a number or a text, and no list.
    rw [Label.lookup_wire]
    split
    · simp
    · split
      · cases l.name <;> simp
      · simp
  · intro text count h
    obtain ⟨ms, hms, hholds⟩ := phrasePrefix_holds h
    refine ⟨ms, hms, hholds, ?_⟩
    rw [hholds.payload_iff, Json.lookup_member?]
    · simp
    · rw [Json.lookup_member?]
      split
      · cases l.name <;> simp [phrasePrefixParams]
      · simp

/-- Colors that go by a name are found under their field. -/
theorem colors_under_field : (leaf "color" (.terms [.text "red", .text "grey"])
      { name := some "colors" }).validate = .ok () ∧
    ∃ ms, Registry.full.assemble (leaf "color" (.terms [.text "red", .text "grey"])
        { name := some "colors" }) = .ok (.single "terms" (.object ms)) ∧
      ms.lookup "color" = some (.array [.string "red", .string "grey"]) := by
  have hvalid : (leaf "color" (.terms [.text "red", .text "grey"])
      { name := some "colors" }).validate = .ok () := rfl
  obtain ⟨ms, hms, _, hiff⟩ := (payload_under_field "color" { name := some "colors" }).1 _ hvalid
  exact ⟨hvalid, ms, hms, hiff.mpr ⟨by decide, by decide⟩⟩

/-- The checked constructors take both fields. The boost is written in place of the values, and the
name in place of the phrase. -/
theorem payloads_overwritten :
    (∃ q, terms? "boost" [.text "red", .text "grey"] = .ok q ∧ q.validate = .ok () ∧
      Registry.full.assemble q = .ok (.single "terms" (.single "boost" (.float .one))) ∧
      ¬ ∃ ms, Registry.full.assemble q = .ok (.single "terms" (.object ms)) ∧
        ms.lookup "boost" = some (.array [.string "red", .string "grey"])) ∧
    ∃ q, (leaf? "_name" (.phrasePrefix "la" 10)).map (·.set (.name "lamps")) = .ok q ∧
      q.validate = .ok () ∧
      Registry.full.assemble q =
        .ok (.single "match_phrase_prefix" (.single "_name" (.string "lamps"))) := by
  refine ⟨⟨_, rfl, rfl, rfl, ?_⟩, _, rfl, rfl, rfl⟩
  rintro ⟨ms, hms, hvalues⟩
  have hboost : Registry.full.assemble (leaf "boost" (.terms [.text "red", .text "grey"]) {}) =
      .ok (.single "terms" (.object [("boost", .float .one)])) := rfl
  cases hms.symm.trans hboost
  cases hvalues

end Query

end FacetedSearch
