import FacetedSearch.Query.Basic

/-!
# Rendering queries

A registry says for each kind of query how it is rendered for the backend: in its own form, or as a
constant. A query renders if all its nodes that are reached have an entry.
-/

namespace FacetedSearch

/-- How the queries of one kind are rendered. -/
inductive Renderer where
  /-- In the form that the backend defines for the kind. -/
  | own
  /-- Always as the same value, whatever the query. -/
  | constant (wire : Json)

/-- A renderer for some of the kinds. -/
structure Registry where
  slot : Query.Kind → Option Renderer

namespace Registry

/-- The registry without entries. -/
def empty : Registry := ⟨fun _ => none⟩

/-- Set the renderer of a kind. -/
def set (r : Registry) (k : Query.Kind) (renderer : Renderer) : Registry :=
  ⟨fun j => if j = k then some renderer else r.slot j⟩

/-- The registry in which the given kinds have their own form. -/
def ofKinds (ks : List Query.Kind) : Registry := ks.foldl (fun r k => r.set k .own) empty

/-- The registry in which every kind has its own form. -/
def full : Registry := ofKinds Query.Kind.all

def supports (r : Registry) (k : Query.Kind) : Bool := (r.slot k).isSome

/-- The kinds with an entry, in the order of kinds. -/
def kinds (r : Registry) : List Query.Kind := Query.Kind.all.filter r.supports

/-- The wire of a query of a kind, given its own form. -/
def through (r : Registry) (k : Query.Kind) (own : Unit → Result Json) : Result Json :=
  match r.slot k with
  | none => .error (.unsupportedQuery k)
  | some (.constant wire) => .ok wire
  | some .own => own ()

end Registry

/-- The members that any rendered query ends with. -/
def Label.wire (l : Label) : Json.Members :=
  ("boost", .float l.boost) :: Json.member? "_name" .string l.name

namespace Condition

/-- The parameters of a field, under the field and the name of the query. -/
def onField (key field : String) (params : Json.Members) : Json :=
  .single key (.single field (.object params))

/-- The form of a leaf. A list of values and a phrase prefix carry their label, or a part of it,
beside the field; there a field of the same name gives way to it. -/
def wire (field : String) (l : Label) : Condition → Json
  | textMatch text minimum analyzer =>
    onField "match" field (("query", .string text) ::
      Json.member? "minimum_should_match" .string minimum ++
        Json.member? "analyzer" .string analyzer ++ l.wire)
  | phrasePrefix text maxExpansions =>
    let params := .object [("query", .string text), ("boost", .float l.boost),
      ("max_expansions", Json.ofUInt32 maxExpansions)]
    .single "match_phrase_prefix" (.object (Json.Members.ofEntries
      ((field, params) :: Json.member? "_name" .string l.name)))
  | phrase text => onField "match_phrase" field (("query", .string text) :: l.wire)
  | present => .single "exists" (.object (("field", .string field) :: l.wire))
  | range bounds => onField "range" field (bounds.members ++ l.wire)
  | term value => onField "term" field (("value", value.toJson) :: l.wire)
  | terms values =>
    .single "terms" (.object (Json.Members.ofEntries
      ((field, .array (values.map Scalar.toJson)) :: l.wire)))

end Condition

namespace Query

/-- A list of rendered clauses, left out if it is empty. -/
def clauses (key : String) : List Json → Json.Members
  | [] => []
  | ws => [(key, .array ws)]

mutual

/-- The form that the backend defines for the query, its children rendered through the registry. -/
def form (r : Registry) : Query → Result Json
  | leaf field c l => .ok (c.wire field l)
  | bool must should mustNot minimum l => do
    let must ← forms r must
    let should ← forms r should
    let mustNot ← forms r mustNot
    .ok (.single "bool" (.object (clauses "must" must ++ clauses "should" should ++
      (if should.isEmpty then [] else [("minimum_should_match", .string minimum)]) ++
      clauses "must_not" mustNot ++ l.wire)))
  | nested path q mode l => do
    let w ← r.through q.kind fun _ => form r q
    .ok (.single "nested" (.object ([("path", .string path), ("query", w),
      ("score_mode", .string mode.name)] ++ l.wire)))
  | filtered none none l => .ok (.single "match_all" (.object l.wire))
  | filtered (some q) none _ => r.through q.kind fun _ => form r q
  | filtered none (some f) l => do
    let w ← r.through f.kind fun _ => form r f
    .ok (.single "constant_score" (.object (("filter", w) :: l.wire)))
  | filtered (some q) (some f) l => do
    let v ← r.through q.kind fun _ => form r q
    let w ← r.through f.kind fun _ => form r f
    .ok (.single "bool"
      (.object ([("must", .array [v]), ("filter", .array [w])] ++ l.wire)))

/-- The queries of a list, rendered through the registry. -/
def forms (r : Registry) : List Query → Result (List Json)
  | [] => .ok []
  | q :: rest => do
    let w ← r.through q.kind fun _ => form r q
    let ws ← forms r rest
    .ok (w :: ws)

end

end Query

namespace Registry

/-- Render a query without checking it. -/
def render (r : Registry) (q : Query) : Result Json := r.through q.kind fun _ => q.form r

/-- Check a query, then render it. -/
def assemble (r : Registry) (q : Query) : Result Json := do
  q.validate
  r.render q

/-- Render a query in the form of a kind, whatever the registry has for that kind. -/
def renderAs (r : Registry) (k : Query.Kind) (q : Query) : Result Json :=
  if q.kind = k then q.form r else .error (.unsupportedQuery q.kind)

end Registry

end FacetedSearch
