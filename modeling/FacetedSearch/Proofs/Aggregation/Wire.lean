import FacetedSearch.Aggregation.Basic
import FacetedSearch.Proofs.Json.Entries
import FacetedSearch.Proofs.Query.Rendering

/-!
# Aggregations on the wire

Aggregations that pass their checks have bodies, which are put under the aggregations' names one
after the other. The body of a bucket may be further down, below aggregations of the same name.
-/

namespace FacetedSearch

open Outcome

/-! ## Entries -/

section

variable {α : Type} {name : α → String} {body : α → Result Json} {xs : List α}

/-- The bodies of items under their names. -/
def entriesOf (name : α → String) (body : α → Result Json) (xs : List α) :
    Result (List (String × Json)) :=
  xs.mapM fun x => (body x).map (name x, ·)

theorem exists_entriesOf (h : ∀ x ∈ xs, ∃ w, body x = .ok w) :
    ∃ es, entriesOf name body xs = .ok es := by
  refine exists_mapM_eq_ok.mpr fun x hx => ?_
  obtain ⟨w, hw⟩ := h x hx
  exact ⟨_, map_eq_ok.mpr ⟨w, hw, rfl⟩⟩

theorem fst_entriesOf {es : List (String × Json)} (h : entriesOf name body xs = .ok es) :
    es.map (·.1) = xs.map name := by
  induction mapM_eq_ok.mp h with
  | nil => rfl
  | cons he hes ih =>
      obtain ⟨w, _, rfl⟩ := map_eq_ok.mp he
      rw [List.map_cons, List.map_cons, ih (mapM_eq_ok.mpr hes)]

/-- To write items among members one after the other is to write all their entries. -/
theorem wireInto_eq (xs : List α) (ms : Json.Members) :
    wireInto name body ms xs = (entriesOf name body xs).map ms.putAll := by
  induction xs generalizing ms with
  | nil => rfl
  | cons x xs ih =>
      simp only [wireInto, entriesOf, List.mapM_cons]
      cases body x with
      | error e => rfl
      | ok w =>
          refine (ih (ms.put (name x) w)).trans ?_
          simp only [entriesOf]
          cases xs.mapM fun x => (body x).map (name x, ·) <;> rfl

theorem wireInto_eq_ok {ms ms' : Json.Members} : wireInto name body ms xs = .ok ms' ↔
    ∃ es, entriesOf name body xs = .ok es ∧ ms.putAll es = ms' := by
  rw [wireInto_eq, map_eq_ok]

theorem wireInto_append (xs ys : List α) (ms : Json.Members) : wireInto name body ms (xs ++ ys) =
    wireInto name body ms xs >>= fun ms => wireInto name body ms ys := by
  induction xs generalizing ms with
  | nil => rfl
  | cons x xs ih =>
      simp only [List.cons_append, wireInto, ih]
      cases body x <;> rfl

theorem wireInto_map {β : Type} (f : β → α) (ys : List β) (ms : Json.Members) :
    wireInto name body ms (ys.map f) =
      wireInto (fun y => name (f y)) (fun y => body (f y)) ms ys := by
  induction ys generalizing ms with
  | nil => rfl
  | cons y ys ih => simp only [List.map_cons, wireInto, ih]

end

/-! ## Bodies -/

/-- The pipelines and the filter of the aggregation pass their checks. -/
def Aggregation.Checked : Aggregation → Prop
  | bucket b => (∀ p ∈ b.pipelines, p.check = .ok ()) ∧ ∀ q ∈ b.filter, q.Checked
  | pipeline p => p.check = .ok ()

/-- A pipeline that passes its check, and what it is rendered to. -/
structure Pipeline.Renders (p : Pipeline) (w : Json) : Prop where
  check : p.check = .ok ()
  wire : p.wire = .ok w

theorem Pipeline.exists_renders {p : Pipeline} (h : p.check = .ok ()) : ∃ w, p.Renders w := by
  obtain ⟨w, hw⟩ : ∃ w, p.wire = .ok w := by
    simp only [wire, validate, h, Except.mapError]
    cases hpath : p.bucketsPath with
    | none => simp [check, hpath] at h
    | some path => exact ⟨_, rfl⟩
  exact ⟨w, h, hw⟩

/-- What a bucket is rendered to. The query in its filter and the pipelines inside it pass their
checks and are rendered too. -/
structure Bucket.Renders (b : Bucket) (w : Json) : Prop where
  wire : b.wire .full = .ok w
  filter : ∀ q ∈ b.filter, ∃ v, q.Renders v ∧ w.get? "filter" = some v
  pipelines : ∀ p ∈ b.pipelines, ∃ v, p.Renders v

def Aggregation.Renders : Aggregation → Json → Prop
  | bucket b => b.Renders
  | pipeline p => p.Renders

namespace Bucket

variable {b : Bucket}

theorem mem_pipelines {p : Pipeline} : p ∈ b.pipelines ↔ .pipeline p ∈ b.children := by
  rw [pipelines, List.mem_filterMap]
  constructor
  · rintro ⟨a, ha, hp⟩
    cases a with
    | metric m => cases hp
    | pipeline p' =>
        cases hp
        exact ha
  · intro h
    exact ⟨_, h, rfl⟩

def metricEntries (b : Bucket) : List (String × Json) := b.metrics.map fun m => (m.name, m.wire)

/-- Where the metrics come first, the pipelines are put over them. -/
theorem inner_eq (h : b.children = b.metrics.map .metric ++ b.pipelines.map .pipeline) :
    b.inner = wireInto Pipeline.name Pipeline.wire (Json.Members.ofEntries b.metricEntries)
      b.pipelines := by
  have hentries : entriesOf Metric.name (fun m => .ok m.wire) b.metrics = .ok b.metricEntries := by
    refine mapM_eq_ok.mpr ?_
    rw [metricEntries, List.forall₂_map_right_iff, List.forall₂_same]
    exact fun _ _ => rfl
  have hmetrics : wireInto Metric.name (fun m => .ok m.wire) [] b.metrics =
      .ok (Json.Members.ofEntries b.metricEntries) := wireInto_eq_ok.mpr ⟨_, hentries, rfl⟩
  simp only [inner, h, wireInto_append, wireInto_map]
  exact congrArg (· >>= _) hmetrics

theorem exists_inner (h : ∀ p ∈ b.pipelines, p.check = .ok ()) : ∃ inner, b.inner = .ok inner := by
  obtain ⟨own, hown⟩ : ∃ own,
      entriesOf SubAggregation.name SubAggregation.wire b.children = .ok own := by
    refine exists_entriesOf fun a ha => ?_
    cases a with
    | metric m => exact ⟨_, rfl⟩
    | pipeline p =>
        obtain ⟨w, hw⟩ := Pipeline.exists_renders (h p (mem_pipelines.mpr ha))
        exact ⟨w, hw.wire⟩
  exact ⟨_, wireInto_eq_ok.mpr ⟨own, hown, rfl⟩⟩

/-- What is inside a bucket is left out of its body if there is nothing inside. -/
theorem get?_aggs_of_core {body : Json} (h : b.core = .ok body) :
    ∃ inner, b.inner = .ok inner ∧ body.get? "aggs" =
      if b.children.isEmpty then none else some (.object inner) := by
  simp only [core, bind_eq_ok] at h
  obtain ⟨inner, hinner, h⟩ := h
  cases h
  refine ⟨inner, hinner, ?_⟩
  have hkind : "aggs" ≠ b.kind.name := by cases b.kind <;> simp [BucketKind.name]
  simp only [Json.get?, Table.lookup_cons, if_neg hkind]
  split <;> rfl

end Bucket

namespace Aggregation

theorem Checked.exists_renders {a : Aggregation} (h : a.Checked) : ∃ w, a.Renders w := by
  cases a with
  | pipeline p => exact Pipeline.exists_renders h
  | bucket b =>
      obtain ⟨hp, hf⟩ := h
      have hpipelines := fun p hmem => Pipeline.exists_renders (hp p hmem)
      obtain ⟨inner, hinner⟩ := Bucket.exists_inner hp
      cases hq : b.filter with
      | none =>
          obtain ⟨w, hw⟩ : ∃ w, b.wire .full = .ok w := by
            simp only [Bucket.wire, Bucket.core, hinner, hq]
            exact ⟨_, rfl⟩
          exact ⟨w, hw, by simp [hq], hpipelines⟩
      | some q =>
          have hfilter := (hf q hq).renders
          obtain ⟨body, hw⟩ : ∃ body, b.wire .full = .ok (b.wrap "filter" q.wire body) := by
            simp only [Bucket.wire, Bucket.core, hinner, hq, hfilter.assemble]
            exact ⟨_, rfl⟩
          refine ⟨_, hw, ?_, hpipelines⟩
          simp only [hq, Option.mem_some_iff, forall_eq']
          exact ⟨q.wire, hfilter, rfl⟩

theorem Renders.wire_eq {a : Aggregation} {w : Json} (h : a.Renders w) : a.wire .full = .ok w := by
  cases a with
  | bucket b => exact Bucket.Renders.wire h
  | pipeline p => exact Pipeline.Renders.wire h

theorem wireAll_eq_ok {registry : Registry} {as : List Aggregation} {w : Json} :
    wireAll registry as = .ok w ↔ ∃ es, entriesOf name (wire registry) as = .ok es ∧
      .object (Json.Members.putAll [] es) = w := by
  simp only [wireAll, map_eq_ok, wireInto_eq_ok, exists_exists_and_eq_and]

end Aggregation

/-! ## Wrapped buckets -/

/-- Follow the aggregations of a name some steps down. -/
def Json.below? (name : String) : Nat → Json → Option Json
  | 0, j => some j
  | depth + 1, j => ((j.get? "aggs").bind (·.get? name)).bind (below? name depth)

namespace Bucket

variable {b : Bucket}

theorem below?_wrap {key : String} (hkey : key ≠ "aggs") (params body : Json) (depth : Nat) :
    (b.wrap key params body).below? b.name (depth + 1) = body.below? b.name depth := by
  simp [Json.below?, wrap, Json.get?, Json.single, Table.lookup_cons, Ne.symm hkey]

theorem below?_wire {registry : Registry} {w : Json} (h : b.wire registry = .ok w) :
    ∃ body, b.core = .ok body ∧ w.below? b.name b.wrappers = some body := by
  simp only [wire, bind_eq_ok] at h
  obtain ⟨body, hbody, h⟩ := h
  refine ⟨body, hbody, ?_⟩
  have hnested : ∀ path, (b.wrap "nested" path body).below? b.name 1 = some body :=
    fun path => below?_wrap (by decide) _ _ 0
  cases hpath : b.nestedPath <;> cases hfilter : b.filter <;>
    simp only [hpath, hfilter, bind_eq_ok, Except.ok.injEq] at h
  · subst h
    simp [wrappers, hpath, hfilter, Json.below?]
  · obtain ⟨q, _, rfl⟩ := h
    simp only [wrappers, hpath, hfilter]
    exact below?_wrap (by decide) _ _ 0
  · subst h
    simp only [wrappers, hpath, hfilter]
    exact hnested _
  · obtain ⟨q, _, rfl⟩ := h
    simp only [wrappers, hpath, hfilter]
    exact (below?_wrap (by decide) _ _ 1).trans (hnested _)

end Bucket

end FacetedSearch
