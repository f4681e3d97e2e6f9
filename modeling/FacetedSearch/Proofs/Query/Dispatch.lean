import FacetedSearch.Proofs.Outcome
import FacetedSearch.Proofs.Query.Subtree
import FacetedSearch.Proofs.Query.Validity
import FacetedSearch.Query.Registry

/-!
# Which queries are rendered

A registry is filled kind by kind, and of the renderers registered for one kind the last one stands.
Rendering walks a tree in pre-order, past everything below a query that is rendered as a constant.
It fails at the first query on its way that has no renderer, and for no other reason.
-/

namespace FacetedSearch

open Outcome

namespace Registry

/-! ## Registrations -/

/-- The registry after some registrations, each of a renderer for a kind. -/
def register (r : Registry) (steps : List (Query.Kind × Renderer)) : Registry :=
  steps.foldl (fun r step => r.set step.1 step.2) r

/-- The last registration for a kind stands, and where there is none what was there before. -/
theorem slot_register (r : Registry) (steps : List (Query.Kind × Renderer)) (k : Query.Kind) :
    (r.register steps).slot k = (steps.reverse.lookup k).or (r.slot k) := by
  unfold register
  induction steps generalizing r with
  | nil => rfl
  | cons step steps ih =>
      obtain ⟨j, renderer⟩ := step
      rw [List.foldl_cons, ih, List.reverse_cons, List.lookup_append, Option.or_assoc]
      congr 1
      by_cases hk : k = j
      · simp [set, hk]
      · have hkey : (k == j) = false := beq_eq_false_iff_ne.mpr hk
        simp [set, List.lookup_cons, hk, hkey]

theorem slot_ofKinds (ks : List Query.Kind) (k : Query.Kind) :
    (ofKinds ks).slot k = if k ∈ ks then some .own else none := by
  have hregister : ofKinds ks = empty.register (ks.map (·, .own)) := by
    rw [ofKinds, register, List.foldl_map]
  rw [hregister, slot_register, empty, Option.or_none, ← List.map_reverse]
  by_cases hk : k ∈ ks
  · rw [if_pos hk]
    exact List.lookup_graph (fun _ => Renderer.own) (List.mem_reverse.mpr hk)
  · rw [if_neg hk, List.lookup_eq_none_iff, List.forall_mem_map]
    intro j hj
    rw [bne_iff_ne]
    rintro rfl
    exact hk (List.mem_reverse.mp hj)

theorem slot_full (k : Query.Kind) : full.slot k = some .own := by
  rw [full, slot_ofKinds, if_pos k.mem_all]

/-! ## The queries on the way -/

/-- A query is reached if it is the root, or right below a query that is reached and has its own
form. -/
def Reaches (r : Registry) : Query → Query → Prop :=
  Relation.ReflTransGen fun p c => r.slot p.kind = some .own ∧ c ∈ p.children

/-- The queries that are reached, each before those below it. -/
def reached (r : Registry) (q : Query) : List Query :=
  q :: match r.slot q.kind with
    | some .own => q.children.attach.flatMap fun c => reached r c.1
    | _ => []
termination_by sizeOf q
decreasing_by exact Query.sizeOf_lt_of_mem_children c.2

variable {r s : Registry} {q p c : Query}

theorem reached_of_own (h : r.slot q.kind = some .own) :
    r.reached q = q :: q.children.flatMap r.reached := by
  rw [reached, h]
  simp

theorem reached_of_not_own (h : r.slot q.kind ≠ some .own) : r.reached q = [q] := by
  rw [reached]
  split
  · contradiction
  · rfl

theorem self_mem_reached : q ∈ r.reached q := by
  rw [reached]
  exact List.mem_cons_self

theorem mem_reached_child (hp : r.slot p.kind = some .own) (hc : c ∈ p.children) :
    p ∈ r.reached q → c ∈ r.reached q := by
  induction q using Query.induction_children with
  | step q ih =>
      by_cases hq : r.slot q.kind = some .own
      · simp only [reached_of_own hq, List.mem_cons, List.mem_flatMap]
        rintro (rfl | ⟨b, hb, hpb⟩)
        · exact Or.inr ⟨c, hc, self_mem_reached⟩
        · exact Or.inr ⟨b, hb, ih b hb hpb⟩
      · rw [reached_of_not_own hq, List.mem_singleton]
        rintro rfl
        exact absurd hp hq

theorem mem_reached : p ∈ r.reached q ↔ r.Reaches q p := by
  constructor
  · induction q using Query.induction_children with
    | step q ih =>
        by_cases hq : r.slot q.kind = some .own
        · simp only [reached_of_own hq, List.mem_cons, List.mem_flatMap]
          rintro (rfl | ⟨c, hc, hp⟩)
          · exact .refl
          · exact .head ⟨hq, hc⟩ (ih c hc hp)
        · rw [reached_of_not_own hq, List.mem_singleton]
          rintro rfl
          exact .refl
  · intro h
    induction h with
    | refl => exact self_mem_reached
    | tail _ hstep ih => exact mem_reached_child hstep.1 hstep.2 ih

/-! ## The outcome of a walk -/

/-- The outcome of a walk along some queries: a result if all of them have a renderer, and else the
error for the first that has none. -/
def Walk (r : Registry) {α : Type} (visited : List Query) (x : Result α) : Prop :=
  match visited.find? fun p => !r.supports p.kind with
  | none => ∃ a, x = .ok a
  | some p => x = .error (.unsupportedQuery p.kind)

namespace Walk

variable {α β : Type} {x : Result α} {visited later : List Query}

theorem ok (a : α) : r.Walk [] (.ok a : Result α) := ⟨a, rfl⟩

theorem bind {f : α → Result β} (hx : r.Walk visited x) (hf : ∀ a, r.Walk later (f a)) :
    r.Walk (visited ++ later) (x >>= f) := by
  simp only [Walk, List.find?_append] at hx ⊢
  cases h : visited.find? fun p => !r.supports p.kind with
  | none =>
      simp only [h] at hx
      obtain ⟨a, rfl⟩ := hx
      exact hf a
  | some p =>
      simp only [h] at hx
      subst hx
      rfl

theorem then_ok {f : α → β} (hx : r.Walk visited x) :
    r.Walk visited (x >>= fun a => .ok (f a)) := by
  simpa using hx.bind fun a => ok (f a)

theorem exists_ok_iff (hx : r.Walk visited x) :
    (∃ a, x = .ok a) ↔ ∀ p ∈ visited, r.supports p.kind = true := by
  simp only [Walk] at hx
  split at hx
  · rename_i h
    simpa [hx] using h
  · rename_i p h
    subst hx
    have hp := List.find?_some h
    have hmem := List.mem_of_find?_eq_some h
    simp only [reduceCtorEq, exists_false, false_iff]
    intro hall
    simp [hall p hmem] at hp

theorem eq_error_iff (hx : r.Walk visited x) {e : Error} :
    x = .error e ↔ ∃ p, visited.find? (fun p => !r.supports p.kind) = some p ∧
      e = .unsupportedQuery p.kind := by
  simp only [Walk] at hx
  split at hx
  · rename_i h
    obtain ⟨a, rfl⟩ := hx
    simp [h]
  · rename_i p h
    subst hx
    simp [h, eq_comm]

end Walk

theorem walk_render (h : r.Walk (q.children.flatMap r.reached) (q.form r)) :
    r.Walk (r.reached q) (r.render q) := by
  simp only [render, through]
  cases hslot : r.slot q.kind with
  | none =>
      rw [reached_of_not_own (by simp [hslot])]
      simp [Walk, supports, hslot]
  | some renderer =>
      cases renderer with
      | constant wire =>
          rw [reached_of_not_own (by simp [hslot])]
          simp [Walk, supports, hslot]
      | own =>
          rw [reached_of_own hslot]
          simpa [Walk, supports, hslot] using h

theorem walk_forms {qs : List Query} (h : ∀ q ∈ qs, r.Walk (r.reached q) (r.render q)) :
    r.Walk (qs.flatMap r.reached) (Query.forms r qs) := by
  induction qs with
  | nil =>
      simp only [Query.forms]
      exact .ok []
  | cons q qs ih =>
      obtain ⟨hq, hqs⟩ := List.forall_mem_cons.mp h
      simp only [Query.forms, List.flatMap_cons]
      exact hq.bind fun w => (ih hqs).then_ok

theorem walk_reached (r : Registry) (q : Query) : r.Walk (r.reached q) (r.render q) := by
  induction q using Query.induction_children with
  | step q ih =>
      refine walk_render ?_
      cases q with
      | leaf field c l =>
          simp only [Query.form]
          exact .ok _
      | bool must should mustNot minimum l =>
          simp only [Query.children, List.forall_mem_append] at ih
          simp only [Query.form, Query.children, List.flatMap_append, List.append_assoc]
          refine (walk_forms ih.1.1).bind fun ms => ?_
          refine (walk_forms ih.1.2).bind fun ss => ?_
          exact (walk_forms ih.2).then_ok
      | nested path q mode l =>
          have hq := ih q (by simp [Query.children])
          simp only [Query.form, Query.children, List.flatMap_singleton]
          exact hq.then_ok
      | filtered q f l =>
          simp only [Query.children, List.forall_mem_append, Option.mem_toList] at ih
          simp only [Query.children, List.flatMap_append]
          cases q with
          | none =>
              cases f with
              | none =>
                  simp only [Query.form]
                  exact .ok _
              | some f =>
                  simp only [Query.form, Option.toList_some, List.flatMap_singleton]
                  exact (ih.2 f rfl).then_ok
          | some q =>
              cases f with
              | none =>
                  simp only [Query.form, Option.toList_some, List.flatMap_singleton,
                    Option.toList_none, List.flatMap_nil, List.append_nil]
                  exact ih.1 q rfl
              | some f =>
                  simp only [Query.form, Option.toList_some, List.flatMap_singleton]
                  exact (ih.1 q rfl).bind fun v => (ih.2 f rfl).then_ok

/-! ## Checks and other registries -/

theorem form_congr (h : ∀ c ∈ q.children, r.render c = s.render c) : q.form r = q.form s := by
  have hforms : ∀ qs : List Query, (∀ c ∈ qs, r.render c = s.render c) →
      Query.forms r qs = Query.forms s qs := by
    intro qs hqs
    induction qs with
    | nil => simp only [Query.forms]
    | cons c qs ih =>
        obtain ⟨hc, hqs⟩ := List.forall_mem_cons.mp hqs
        simp only [render] at hc
        simp only [Query.forms, hc, ih hqs]
  simp only [render] at h
  cases q with
  | leaf _ _ _ => simp only [Query.form]
  | bool must should mustNot _ _ =>
      simp only [Query.children, List.forall_mem_append] at h
      simp only [Query.form, hforms must h.1.1, hforms should h.1.2, hforms mustNot h.2]
  | nested _ q _ _ => simp only [Query.form, h q (by simp [Query.children])]
  | filtered q f _ =>
      cases q <;> cases f <;> simp_all [Query.children, Query.form]

/-- Only the renderers of the queries that are reached matter. -/
theorem render_congr : (∀ p, r.Reaches q p → r.slot p.kind = s.slot p.kind) →
    r.render q = s.render q := by
  induction q using Query.induction_children with
  | step q ih =>
      intro h
      have hq := h q .refl
      simp only [render, through, ← hq]
      split
      · rfl
      · rfl
      · rename_i hown
        exact form_congr fun c hc => ih c hc fun p hp => h p (.head ⟨hown, hc⟩ hp)

theorem Reaches.contains (h : r.Reaches q p) : q.Contains p := by
  induction h with
  | refl => exact .refl
  | tail _ hstep ih => exact ih.tail hstep.2

theorem assemble_of_checked (h : q.Checked) : r.assemble q = r.render q := by
  have hv : q.validate = .ok () := mapError_eq_ok.mpr h
  rw [assemble, hv]
  rfl

theorem assemble_of_fault {f : QueryFault} (h : q.check = .error f) :
    r.assemble q = .error (.malformedQuery f) := by
  rw [assemble, Query.validate, h]
  rfl

theorem assemble_malformed_iff :
    (∃ f, r.assemble q = .error (.malformedQuery f)) ↔ ¬ q.Checked := by
  constructor
  · rintro ⟨f, hf⟩ hq
    rw [assemble_of_checked hq, (walk_reached r q).eq_error_iff] at hf
    obtain ⟨p, _, hp⟩ := hf
    cases hp
  · intro hq
    cases h : q.check with
    | ok u => exact absurd h hq
    | error f => exact ⟨f, assemble_of_fault h⟩

/-- Rendering succeeds if every query that is reached has a renderer, and else names the kind of the
first that has none. A tree that fails its check is refused before, whatever the registry. And
only the renderers of the kinds in a tree matter to it, each of which is the last one that was
registered for its kind. -/
theorem dispatch_exact (r : Registry) (q : Query) :
    ((∃ w, r.render q = .ok w) ↔ ∀ p, r.Reaches q p → r.supports p.kind = true) ∧
    (∀ p, p ∈ r.reached q ↔ r.Reaches q p) ∧
    (∀ e, r.render q = .error e ↔ ∃ p, (r.reached q).find? (fun p => !r.supports p.kind) = some p ∧
      e = .unsupportedQuery p.kind) ∧
    ((∃ f, r.assemble q = .error (.malformedQuery f)) ↔ ¬ q.Checked) ∧
    (q.Checked → r.assemble q = r.render q) ∧
    (∀ s : Registry, (∀ p, q.Contains p → r.slot p.kind = s.slot p.kind) →
      r.render q = s.render q) ∧
    ∀ steps k, (r.register steps).slot k = (steps.reverse.lookup k).or (r.slot k) := by
  have hwalk := walk_reached r q
  refine ⟨?_, fun p => mem_reached, fun e => hwalk.eq_error_iff, assemble_malformed_iff,
    assemble_of_checked, fun s h => render_congr fun p hp => h p hp.contains, slot_register r⟩
  rw [hwalk.exists_ok_iff]
  exact forall_congr' fun p => by rw [mem_reached]

end Registry

end FacetedSearch
