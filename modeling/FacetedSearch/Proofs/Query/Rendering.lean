import FacetedSearch.Proofs.Query.Dispatch

/-! The full registry renders every tree, and so assembles every tree that passes its check. -/

namespace FacetedSearch

open Outcome

theorem Registry.through_full (k : Query.Kind) (own : Unit → Result Json) :
    full.through k own = own () := by
  rw [through, slot_full]

namespace Query

mutual

/-- What the full registry renders a query to. -/
def wire : Query → Json
  | leaf field c l => c.wire field l
  | bool must should mustNot minimum l =>
    .single "bool" (.object (clauses "must" (wires must) ++ clauses "should" (wires should) ++
      (if (wires should).isEmpty then [] else [("minimum_should_match", .string minimum)]) ++
      clauses "must_not" (wires mustNot) ++ l.wire))
  | nested path q mode l =>
    .single "nested" (.object ([("path", .string path), ("query", wire q),
      ("score_mode", .string mode.name)] ++ l.wire))
  | filtered none none l => .single "match_all" (.object l.wire)
  | filtered (some q) none _ => wire q
  | filtered none (some f) l => .single "constant_score" (.object (("filter", wire f) :: l.wire))
  | filtered (some q) (some f) l =>
    .single "bool" (.object ([("must", .array [wire q]), ("filter", .array [wire f])] ++ l.wire))

def wires : List Query → List Json
  | [] => []
  | q :: rest => wire q :: wires rest

end

mutual

theorem form_full : (q : Query) → q.form .full = .ok q.wire
  | leaf _ _ _ => by simp only [form, wire]
  | bool must should mustNot _ _ => by
      simp only [form, wire, forms_full must, forms_full should, forms_full mustNot]
      rfl
  | nested _ q _ _ => by
      simp only [form, wire, Registry.through_full, form_full q]
      rfl
  | filtered none none _ => by simp only [form, wire]
  | filtered (some q) none _ => by
      simp only [form, wire, Registry.through_full]
      exact form_full q
  | filtered none (some f) _ => by
      simp only [form, wire, Registry.through_full, form_full f]
      rfl
  | filtered (some q) (some f) _ => by
      simp only [form, wire, Registry.through_full, form_full q, form_full f]
      rfl

theorem forms_full : (qs : List Query) → forms .full qs = .ok (wires qs)
  | [] => by simp only [forms, wires]
  | q :: rest => by
      simp only [forms, wires, Registry.through_full, form_full q, forms_full rest]
      rfl

end

theorem render_full (q : Query) : Registry.full.render q = .ok q.wire :=
  (Registry.through_full _ _).trans (form_full q)

theorem wires_eq_map (qs : List Query) : wires qs = qs.map wire := by
  induction qs with
  | nil => simp only [wires, List.map_nil]
  | cons q qs ih => simp only [wires, ih, List.map_cons]

/-- A query that passes its check, and what it is rendered to. -/
structure Renders (q : Query) (w : Json) : Prop where
  check : q.check = .ok ()
  render : Registry.full.render q = .ok w
  assemble : Registry.full.assemble q = .ok w

theorem Checked.renders {q : Query} (h : q.Checked) : q.Renders q.wire where
  check := h
  render := render_full q
  assemble := check_bind_eq_ok.mpr ⟨mapError_eq_ok.mpr h, render_full q⟩

end Query

end FacetedSearch
