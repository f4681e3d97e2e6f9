import FacetedSearch.Proofs.Aggregation.Facets
import FacetedSearch.Proofs.Config.Validity

/-!
# What facets are answered by

The aggregations of facets are built in one pass over them that carries the names it has met. Each
facet is checked on its own, given the names before it, and the first that does not pass is the one
that is reported. When all pass, the first facet of each name is answered in its place, by its
bucket and then its sibling pipelines.
-/

namespace FacetedSearch

open Outcome

namespace FacetSpec

def name (s : FacetSpec) : String := Code.flatten s.field

/-- The facets that are the first of their names. -/
def firsts (facets : List FacetSpec) : List FacetSpec :=
  facets.eraseDupsBy fun s t => s.name == t.name

theorem firsts_cons (s : FacetSpec) (facets : List FacetSpec) :
    firsts (s :: facets) = s :: firsts (facets.filter fun t => t.name ≠ s.name) := by
  simp only [firsts, List.eraseDupsBy_cons, beq_eq_false_iff_ne, ne_comm]

theorem mem_firsts {s : FacetSpec} {before after : List FacetSpec}
    (h : ∀ t ∈ before, t.name ≠ s.name) : s ∈ firsts (before ++ s :: after) := by
  match before with
  | [] => exact firsts_cons s after ▸ List.mem_cons_self
  | t :: before =>
      obtain ⟨ht, hbefore⟩ := List.forall_mem_cons.mp h
      have hkept : (before ++ s :: after).filter (fun u => u.name ≠ t.name) =
          before.filter (fun u => u.name ≠ t.name) ++
            s :: after.filter fun u => u.name ≠ t.name := by
        simp [ht.symm]
      rw [List.cons_append, firsts_cons, hkept]
      exact List.mem_cons_of_mem _ (mem_firsts fun u hu => hbefore u (List.mem_of_mem_filter hu))
termination_by before.length
decreasing_by exact Nat.lt_succ_of_le (List.length_filter_le _ _)

theorem checkPipelines_eq_error {ps : List Pipeline} {e : Error} :
    checkPipelines ps = .error e ↔ ∃ earlier p later, ps = earlier ++ p :: later ∧
      (∀ q ∈ earlier, q.validate = .ok ()) ∧ p.validate = .error e := by
  have hmapM : checkPipelines ps = (ps.mapM Pipeline.validate).map fun _ => () := by
    induction ps with
    | nil => rfl
    | cons p ps ih =>
        rw [checkPipelines, ih, List.mapM_cons]
        cases p.validate with
        | error e => rfl
        | ok _ => cases ps.mapM Pipeline.validate <;> rfl
  simp only [hmapM, map_eq_error, mapM_eq_error, Unique.exists_iff, PUnit.default_eq_unit]

/-- How the values of a field are put into buckets: numbers into the ranges asked for, or else into
a histogram, of the interval asked for if that is positive; dates by the calendar; all else by
value. -/
inductive GroupsBy (s : FacetSpec) (settings : SearchSettings) (f : Field) : BucketKind → Prop
  | ranges : f.type.isNumeric = true → s.ranges ≠ [] → GroupsBy s settings f (.range s.ranges)
  | interval {i} : f.type.isNumeric = true → s.ranges = [] → s.interval = some i →
      i.isPositive = true → GroupsBy s settings f (.histogram i 1)
  | defaultInterval : f.type.isNumeric = true → s.ranges = [] →
      (∀ i ∈ s.interval, i.isPositive = false) →
      GroupsBy s settings f (.histogram settings.defaultHistogramInterval 1)
  | calendar : f.type = .date →
      GroupsBy s settings f (.dateHistogram (s.calendarInterval.getD "month"))
  | values : f.type.isNumeric = false → f.type ≠ .date →
      GroupsBy s settings f (.terms (s.size.getD settings.defaultFacetSize) s.order)

variable {s : FacetSpec} {settings : SearchSettings} {f : Field}

theorem groupsBy_bucketKind : s.GroupsBy settings f (s.bucketKind settings f) := by
  unfold bucketKind
  split
  · rename_i hnumeric
    split
    · rename_i hempty
      have hranges : s.ranges = [] := List.isEmpty_iff.mp hempty
      cases hasked : s.interval.filter (·.isPositive) with
      | some i =>
          obtain ⟨hinterval, hpositive⟩ := Option.filter_eq_some_iff.mp hasked
          exact .interval hnumeric hranges hinterval hpositive
      | none =>
          refine .defaultInterval hnumeric hranges fun i hi => ?_
          simpa using Option.filter_eq_none_iff.mp hasked i hi
    · rename_i hempty
      exact .ranges hnumeric (mt List.isEmpty_iff.mpr hempty)
  · rename_i hnumeric
    split
    · rename_i hdate
      exact .calendar hdate
    · rename_i hdate
      exact .values (eq_false_of_ne_true hnumeric) hdate

/-- An interval that was asked for is kept only if it is positive. -/
theorem GroupsBy.isPositive {kind : BucketKind} (h : s.GroupsBy settings f kind)
    (hdefault : settings.defaultHistogramInterval.isPositive = true) {interval : Binary64}
    {minDocCount : UInt64} (hkind : kind = .histogram interval minDocCount) :
    interval.isPositive = true := by
  cases h with
  | interval _ _ _ hpositive =>
      cases hkind
      exact hpositive
  | defaultInterval =>
      cases hkind
      exact hdefault
  | ranges => cases hkind
  | calendar => cases hkind
  | values => cases hkind

end FacetSpec

namespace Container

variable {c : Container}

/-- Whichever way a facet refers to its field, the field's key is the name of the facet. -/
theorem key_eq_name {s : FacetSpec} {f : Field} (h : c.field? s.field = some f) :
    f.key = s.name := by
  rcases field?_names h with hcode | hkey
  · rw [Field.key, hcode, FacetSpec.name]
  · rw [FacetSpec.name, ← hkey, Field.flatten_key]

/-! ## Refusals -/

/-- How a facet is refused behind other facets. Its field is looked at in any case, its pipelines
only if it is the first of its name. -/
inductive Refuses (c : Container) (before : List FacetSpec) (s : FacetSpec) : Error → Prop
  | unknown : c.field? s.field = none → Refuses c before s (.unknownField s.field c.name)
  | notFilterable {f} : c.field? s.field = some f → f.filterable = false →
      Refuses c before s (.malformedQuery (.notFacetable f.code))
  | pipeline {f earlier p later e} : c.field? s.field = some f → f.filterable = true →
      (∀ t ∈ before, t.name ≠ s.name) → s.pipelines = earlier ++ p :: later →
      (∀ q ∈ earlier, q.validate = .ok ()) → p.validate = .error e → Refuses c before s e

/-- What one facet has to pass, given the names before it. -/
def checkFacet (c : Container) (seen : List String) (s : FacetSpec) : Result Unit := do
  let f ← c.facetField s
  if seen.contains f.key then .ok () else FacetSpec.checkPipelines s.pipelines

theorem checkFacet_eq_error {before : List FacetSpec} {s : FacetSpec} {e : Error} :
    c.checkFacet (before.map FacetSpec.name).reverse s = .error e ↔ c.Refuses before s e := by
  have hseen {f : Field} (hf : c.field? s.field = some f) :
      (before.map FacetSpec.name).reverse.contains f.key = true ↔
        ∃ t ∈ before, t.name = s.name := by
    rw [List.contains_iff_mem, List.mem_reverse, List.mem_map, key_eq_name hf]
  rw [checkFacet, bind_eq_error]
  constructor
  · rintro (h | ⟨f, hf, h⟩)
    · rcases facetField_eq_error.mp h with ⟨hf, rfl⟩ | ⟨f, hf, hfilterable, rfl⟩
      · exact .unknown hf
      · exact .notFilterable hf hfilterable
    · obtain ⟨hf, hfilterable⟩ := facetField_eq_ok.mp hf
      split at h
      · cases h
      · rename_i hnew
        have hfresh : ∀ t ∈ before, t.name ≠ s.name :=
          fun t ht hname => hnew ((hseen hf).mpr ⟨t, ht, hname⟩)
        obtain ⟨earlier, p, later, hps, hearlier, hp⟩ := FacetSpec.checkPipelines_eq_error.mp h
        exact .pipeline hf hfilterable hfresh hps hearlier hp
  · intro h
    cases h with
    | unknown hf => exact Or.inl (facetField_eq_error.mpr (Or.inl ⟨hf, rfl⟩))
    | notFilterable hf hfilterable =>
        exact Or.inl (facetField_eq_error.mpr (Or.inr ⟨_, hf, hfilterable, rfl⟩))
    | @pipeline f _ _ _ _ hf hfilterable hfresh hps hearlier hp =>
        refine Or.inr ⟨f, facetField_eq_ok.mpr ⟨hf, hfilterable⟩, ?_⟩
        rw [if_neg (mt (hseen hf).mp (by simpa using hfresh))]
        exact FacetSpec.checkPipelines_eq_error.mpr ⟨_, _, _, hps, hearlier, hp⟩

theorem answered_congr {seen seen' : List String} (h : ∀ n, n ∈ seen ↔ n ∈ seen')
    (facets : List FacetSpec) : c.answered seen facets = c.answered seen' facets := by
  induction facets generalizing seen seen' with
  | nil => rfl
  | cons s facets ih =>
      have hnext (f : Field) : c.answered (f.key :: seen) facets =
          c.answered (f.key :: seen') facets :=
        ih fun n => by rw [List.mem_cons, List.mem_cons, h n]
      simp only [answered, List.contains_iff_mem, h, ih h, hnext]

theorem fault?_answered_cons (seen : List String) (s : FacetSpec) (facets : List FacetSpec) :
    fault? (c.answered seen (s :: facets)) =
      (fault? (c.checkFacet seen s)).or (fault? (c.answered (s.name :: seen) facets)) := by
  simp only [answered, checkFacet]
  cases hf : c.facetField s with
  | error e => rfl
  | ok f =>
      have hname := key_eq_name (facetField_eq_ok.mp hf).1
      by_cases hseen : seen.contains f.key = true
      · -- The pass goes on with the names it has, and adding one of them again changes nothing.
        have hmem : s.name ∈ seen := hname ▸ List.contains_iff_mem.mp hseen
        have hsame : c.answered (s.name :: seen) facets = c.answered seen facets :=
          answered_congr (fun n => List.mem_cons.trans (or_iff_right_of_imp (· ▸ hmem))) facets
        simp only [bind, Except.bind, if_pos hseen, hsame]
        rfl
      · simp only [bind, Except.bind, if_neg hseen, ← hname]
        cases FacetSpec.checkPipelines s.pipelines with
        | error e => rfl
        | ok _ => cases c.answered (f.key :: seen) facets <;> rfl

/-- The error is that of the first facet that does not pass. -/
theorem answered_eq_error {seen : List String} {facets : List FacetSpec} {e : Error} :
    c.answered seen facets = .error e ↔ ∃ before s after, facets = before ++ s :: after ∧
      (∃ es, c.answered seen before = .ok es) ∧
      c.checkFacet ((before.map FacetSpec.name).reverse ++ seen) s = .error e := by
  simp only [← fault?_eq_some, ← fault?_eq_none]
  induction facets generalizing seen with
  | nil => simp [answered, fault?]
  | cons t facets ih =>
      -- The names of the facets before the one at fault are met one by one, the latest in front.
      rw [fault?_answered_cons, Option.or_eq_some_iff, ih]
      constructor
      · rintro (ht | ⟨ht, before, s, after, rfl, hbefore, hs⟩)
        · exact ⟨[], t, facets, rfl, rfl, ht⟩
        · refine ⟨t :: before, s, after, rfl, ?_, by simpa using hs⟩
          rw [fault?_answered_cons, ht, hbefore]
          rfl
      · rintro ⟨before, s, after, hsplit, hbefore, hs⟩
        cases before with
        | nil =>
            cases hsplit
            exact Or.inl hs
        | cons b before =>
            cases hsplit
            rw [fault?_answered_cons, Option.or_eq_none_iff] at hbefore
            exact Or.inr ⟨hbefore.1, before, s, after, rfl, hbefore.2, by simpa using hs⟩

/-! ## Answers -/

theorem map_fst_answered {seen : List String} {facets : List FacetSpec}
    {es : List (FacetSpec × Field)} (h : c.answered seen facets = .ok es) :
    es.map (·.1) = FacetSpec.firsts (facets.filter fun s => s.name ∉ seen) := by
  induction facets generalizing seen es with
  | nil =>
      cases h
      rfl
  | cons s facets ih =>
      obtain ⟨f, hf, hcases⟩ := answered_cons_eq_ok.mp h
      rw [key_eq_name (facetField_eq_ok.mp hf).1] at hcases
      obtain ⟨hseen, h⟩ | ⟨hnew, _, more, hmore, rfl⟩ := hcases
      · rw [ih h, List.filter_cons_of_neg (by simpa using hseen)]
      · rw [List.filter_cons_of_pos (by simpa using hnew), FacetSpec.firsts_cons,
          List.filter_filter, List.map_cons, ih hmore]
        simp

theorem firsts_answered {facets : List FacetSpec} {es : List (FacetSpec × Field)}
    (h : c.answered [] facets = .ok es) : es.map (·.1) = FacetSpec.firsts facets := by
  simpa using map_fst_answered h

theorem exists_answered_iff {facets : List FacetSpec} :
    (∃ es, c.answered [] facets = .ok es) ↔
      (∀ s ∈ facets, ∃ f, c.field? s.field = some f ∧ f.filterable = true) ∧
      ∀ s ∈ FacetSpec.firsts facets, ∀ p ∈ s.pipelines, p.validate = .ok () := by
  constructor
  · rintro ⟨es, hes⟩
    refine ⟨fun s hs => ?_, fun s hs p hp => mapError_eq_ok.mpr ?_⟩
    · obtain ⟨f, hf, _⟩ := exists_mem_answered hes hs
      exact ⟨f, facetField_eq_ok.mp hf⟩
    · obtain ⟨e, he, rfl⟩ := List.mem_map.mp (firsts_answered hes ▸ hs)
      exact (of_mem_answered hes e he).2.2 p hp
  · rintro ⟨hfields, hpipelines⟩
    cases hes : c.answered [] facets with
    | ok es => exact ⟨es, rfl⟩
    | error e =>
        obtain ⟨before, s, after, rfl, _, hs⟩ := answered_eq_error.mp hes
        rw [List.append_nil, checkFacet_eq_error] at hs
        obtain ⟨f, hf, hfilterable⟩ := hfields s (List.mem_append_right _ List.mem_cons_self)
        cases hs with
        | unknown hnone => cases hnone.symm.trans hf
        | notFilterable hg hnot =>
            cases hg.symm.trans hf
            cases hnot.symm.trans hfilterable
        | @pipeline _ _ p _ _ _ _ hnew hps _ hp =>
            have hmem : p ∈ s.pipelines := hps ▸ List.mem_append_right _ List.mem_cons_self
            cases hp.symm.trans (hpipelines s (FacetSpec.mem_firsts hnew) p hmem)

/-- How a facet is answered: a bucket on its field, of the kind for it, under its name and its
filter, which has inside it first one metric for each that was asked for and then the pipelines that
run inside buckets; and beside the bucket the other pipelines. -/
structure Answers (c : Container) (settings : SearchSettings) (filters : FacetFilters)
    (s : FacetSpec) (b : Bucket) (siblings : List Pipeline) : Prop where
  field : ∃ f, c.field? s.field = some f ∧ f.filterable = true ∧ b.field = f.code ∧
    b.nestedPath = f.nestedPath ∧ s.GroupsBy settings f b.kind
  name : b.name = s.name
  filter : b.filter = filters.filters.get? s.name
  children : b.children =
    s.metrics.map (fun k =>
      .metric { name := s.name ++ "_" ++ k.name, field := b.field, kind := k }) ++
    (s.pipelines.filter (·.kind.isParent)).map .pipeline
  siblings : siblings = s.pipelines.filter fun p => !p.kind.isParent

theorem answers_bucket {filters : FacetFilters} {s : FacetSpec} {f : Field}
    (settings : SearchSettings) (h : c.facetField s = .ok f) :
    c.Answers settings filters s (s.bucket settings filters f)
      (s.pipelines.filter fun p => !p.kind.isParent) := by
  obtain ⟨hf, hfilterable⟩ := facetField_eq_ok.mp h
  have hname := key_eq_name hf
  have hfilter : filters.get? f.key = filters.filters.get? s.name := by
    rw [FacetFilters.get?, f.flatten_key, hname]
  refine ⟨⟨f, hf, hfilterable, rfl, rfl, FacetSpec.groupsBy_bucketKind⟩, hname, hfilter, ?_, rfl⟩
  rw [← hname]
  rfl

variable {settings : SearchSettings} {filters : FacetFilters} {facets : List FacetSpec}

theorem exists_aggregations_iff :
    (∃ as, c.aggregations settings filters facets = .ok as) ↔
      ∃ es, c.answered [] facets = .ok es := by
  simp only [aggregations_eq_ok]
  exact ⟨fun ⟨_, es, hes, _⟩ => ⟨es, hes⟩, fun ⟨es, hes⟩ => ⟨_, es, hes, rfl⟩⟩

theorem aggregations_eq_error {e : Error} :
    c.aggregations settings filters facets = .error e ↔
      ∃ before s after, facets = before ++ s :: after ∧
        (∃ as, c.aggregations settings filters before = .ok as) ∧ c.Refuses before s e := by
  simp only [exists_aggregations_iff, ← checkFacet_eq_error]
  rw [aggregations, aggregationsAfter_eq, map_eq_error, answered_eq_error]
  simp only [List.append_nil]

theorem exists_answers {as : List Aggregation}
    (h : c.aggregations settings filters facets = .ok as) :
    ∃ answers : List (Bucket × List Pipeline),
      List.Forall₂ (fun s a => c.Answers settings filters s a.1 a.2) (FacetSpec.firsts facets)
        answers ∧
      as = answers.flatMap fun a => .bucket a.1 :: a.2.map .pipeline := by
  obtain ⟨es, hes, rfl⟩ := aggregations_eq_ok.mp h
  refine ⟨es.map fun e => (e.1.bucket settings filters e.2,
    e.1.pipelines.filter fun p => !p.kind.isParent), ?_, ?_⟩
  · rw [← firsts_answered hes, List.forall₂_map_left_iff, List.forall₂_map_right_iff,
      List.forall₂_same]
    exact fun e he => answers_bucket settings (of_mem_answered hes e he).2.1
  · simp only [List.flatMap_map, FacetSpec.aggregations]

/-- Facets are answered exactly if all are on filterable fields and the first of each name has valid
pipelines; else the error is that of the first facet that is refused. The first facets of their
names are answered in their order, each by one bucket and its sibling pipelines, and under the
settings of a valid configuration no histogram has an interval that is not positive. -/
theorem facets_answered_in_order {config : Config} (hvalid : config.validate = .ok ())
    (hnumber : config.search.defaultHistogramInterval.isNaN = false) (c : Container)
    (filters : FacetFilters) (facets : List FacetSpec) :
    ((∃ as, c.aggregations config.search filters facets = .ok as) ↔
      (∀ s ∈ facets, ∃ f, c.field? s.field = some f ∧ f.filterable = true) ∧
      ∀ s ∈ FacetSpec.firsts facets, ∀ p ∈ s.pipelines, p.validate = .ok ()) ∧
    (∀ e, c.aggregations config.search filters facets = .error e ↔
      ∃ before s after, facets = before ++ s :: after ∧
        (∃ as, c.aggregations config.search filters before = .ok as) ∧ c.Refuses before s e) ∧
    ∀ as, c.aggregations config.search filters facets = .ok as →
      (∃ answers : List (Bucket × List Pipeline),
        List.Forall₂ (fun s a => c.Answers config.search filters s a.1 a.2)
          (FacetSpec.firsts facets) answers ∧
        as = answers.flatMap fun a => .bucket a.1 :: a.2.map .pipeline) ∧
      ((as.filterMap Aggregation.bucket?).map (·.name)).Nodup ∧
      ∀ b interval minDocCount, .bucket b ∈ as → b.kind = .histogram interval minDocCount →
        interval.isPositive = true := by
  refine ⟨exists_aggregations_iff.trans exists_answered_iff, fun e => aggregations_eq_error,
    fun as has => ⟨exists_answers has, nodup_bucket_names has, ?_⟩⟩
  intro b interval minDocCount hb hkind
  have hdefault := ((Config.valid_iff_lawful hnumber).1.mp hvalid).interval
  obtain ⟨s, _, f, _, _, rfl⟩ := of_bucket_mem_aggregations has hb
  exact FacetSpec.groupsBy_bucketKind.isPositive hdefault hkind

end Container

namespace Shop

/-- The colours with how many there are and which is the most frequent, then the prices twice, the
second time with a pipeline that reads nothing. -/
def facets : List FacetSpec := [
  { field := "color", metrics := [.cardinality], pipelines := [
    { name := "most", kind := .maxBucket, bucketsPath := some (.single "color>_count") },
    { name := "sorted", kind := .bucketSort .asc none, bucketsPath := some (.single "_count") }] },
  { field := "price__price" },
  { field := "price.price", pipelines := [{ name := "dearest", kind := .maxBucket }] }]

/-- The prices are answered once, and their second pipeline is passed over. -/
theorem facets_answered : ∃ k as, (config.builder.resolve "fr" "product").1 = .ok k ∧
    k.aggregations config.search {} facets = .ok as ∧
    as.map Aggregation.name = ["color", "most", "price__price"] ∧
    ∃ answers : List (Bucket × List Pipeline),
      List.Forall₂ (fun s a => k.Answers config.search {} s a.1 a.2) (FacetSpec.firsts facets)
        answers ∧
      as = answers.flatMap fun a => .bucket a.1 :: a.2.map .pipeline := by
  obtain ⟨k, as, hk, has, hnames⟩ : ∃ k as, (config.builder.resolve "fr" "product").1 = .ok k ∧
      k.aggregations config.search {} facets = .ok as ∧
      as.map Aggregation.name = ["color", "most", "price__price"] :=
    ⟨_, _, rfl, rfl, by decide +kernel⟩
  have hvalid : config.validate = .ok () := rfl
  obtain ⟨_, _, hkept⟩ := Container.facets_answered_in_order hvalid (by decide) k {} facets
  exact ⟨k, as, hk, has, hnames, (hkept as has).1⟩

end Shop

end FacetedSearch
