import FacetedSearch.Proofs.Container.Store
import Mathlib.Data.List.Induction

/-!
# Answers by history

A cache and a scope over it answer by what was done with them before, while the source behind them
may change. A cache goes by what went through it since it was invalidated, a scope by what it
answered since it was opened.
-/

namespace FacetedSearch

/-- What may be done with a cache, a scope over it and the source behind them. -/
inductive Step where
  /-- Resolve a key through the cache. -/
  | resolve (key : ContainerKey)
  /-- Resolve a key in the scope. -/
  | resolveIn (key : ContainerKey)
  | invalidate
  /-- Begin a new scope. -/
  | openScope
  /-- Put another source in the place of the present one. -/
  | replace (source : Source)

/-- What is answered to a key, and what the source was asked for it. -/
structure Answer where
  result : Result Container
  calls : Calls := {}

/-- A step that was taken, with its answer if it asks for one. -/
structure Event where
  step : Step
  answer : Option Answer

/-- A cache and a scope over it, with the source behind them. -/
structure Resolver where
  source : Source
  cache : Resolved := .empty
  scope : Resolved := .empty

namespace Resolver

/-- Take a step: what becomes of the resolver, and what is answered. -/
def step (r : Resolver) : Step → Resolver × Option Answer
  | .resolve key =>
    let x := r.cache.resolve r.source key
    ({ r with cache := x.cache }, some { result := x.result, calls := x.calls })
  | .resolveIn key =>
    let (x, scope) := r.scope.resolveIn r.cache r.source key
    ({ r with cache := x.cache, scope }, some { result := x.result, calls := x.calls })
  | .invalidate => ({ r with cache := .empty }, none)
  | .openScope => ({ r with scope := .empty }, none)
  | .replace source => ({ r with source }, none)

/-- Take a step and note it, the latest first. -/
def advance (x : Resolver × List Event) (s : Step) : Resolver × List Event :=
  let (r, answer) := x.1.step s
  (r, { step := s, answer } :: x.2)

/-- Take steps on a new resolver, and note them. -/
def run (source : Source) (steps : List Step) : Resolver × List Event :=
  steps.foldl advance ({ source }, [])

end Resolver

/-! ## What was done before -/

namespace Event

/-- The container that was answered to a key in the scope. -/
def inScope? (key : ContainerKey) : Event → Option Container
  | ⟨.resolveIn k, some a⟩ => if k = key then a.result.toOption else none
  | _ => none

/-- The container that was answered to a key through the cache. A key that the scope knows does not
go through the cache. -/
def throughCache? (key : ContainerKey) (known : Option Container) : Event → Option Container
  | ⟨.resolve k, some a⟩ => if k = key then a.result.toOption else none
  | ⟨.resolveIn k, some a⟩ => if k = key ∧ known.isNone then a.result.toOption else none
  | _ => none

def opensScope : Event → Bool
  | ⟨.openScope, _⟩ => true
  | _ => false

def invalidates : Event → Bool
  | ⟨.invalidate, _⟩ => true
  | _ => false

def source? : Event → Option Source
  | ⟨.replace source, _⟩ => some source
  | _ => none

end Event

namespace History

/-- The earliest thing that was given since the last event that ends what was before it, in a
history with the latest event first. -/
def earliest? {α : Type} (ends : Event → Bool) (gives : Event → List Event → Option α) :
    List Event → Option α
  | [] => none
  | e :: before => if ends e then none else (earliest? ends gives before).or (gives e before)

theorem earliest?_cons_of_none {α : Type} {ends : Event → Bool}
    {gives : Event → List Event → Option α} {e : Event} {past : List Event}
    (hends : ends e = false) (hgives : gives e past = none) :
    earliest? ends gives (e :: past) = earliest? ends gives past := by
  rw [earliest?, if_neg (by simp [hends]), hgives, Option.or_none]

/-- The first answer to a key in the present scope. -/
def inScope? (past : List Event) (key : ContainerKey) : Option Container :=
  earliest? Event.opensScope (fun e _ => e.inScope? key) past

/-- The first answer to a key through the cache since it was last invalidated. -/
def throughCache? (past : List Event) (key : ContainerKey) : Option Container :=
  earliest? Event.invalidates (fun e before => e.throughCache? key (inScope? before key)) past

/-- The source that was put in last. -/
def source (first : Source) (past : List Event) : Source :=
  (past.findSome? Event.source?).getD first

end History

/-- What a source answers: the container only if there is the catalog. -/
def Source.answer (s : Source) (key : ContainerKey) : Answer where
  result := s.catalog key.1 >>= fun catalog => s.container catalog key.2
  calls := { catalog := 1, container := (s.catalog key.1).isOk.toNat }

namespace History

/-- The answer to a key through the cache, as the history has it. -/
def answer (first : Source) (past : List Event) (key : ContainerKey) : Answer :=
  match throughCache? past key with
  | some c => { result := .ok c }
  | none => (source first past).answer key

/-- The answer to a key in the scope, as the history has it. -/
def answerIn (first : Source) (past : List Event) (key : ContainerKey) : Answer :=
  match inScope? past key with
  | some c => { result := .ok c }
  | none => answer first past key

end History

/-! ## What is kept -/

theorem Source.resolve_eq (s : Source) (key : ContainerKey) :
    s.resolve key = ((s.answer key).result, (s.answer key).calls) := by
  simp only [resolve, answer]
  cases s.catalog key.1 <;> rfl

namespace Resolved

variable {cache scope : Resolved} {s : Source} {key k : ContainerKey} {c : Container}

theorem get?_add :
    (cache.add key c).get? k = (cache.get? k).or (if key = k then some c else none) := by
  unfold add
  split
  · rename_i hkey
    by_cases h : key = k
    · subst h
      obtain ⟨c', hc'⟩ := Option.isSome_iff_exists.mp hkey
      simp [hc']
    · simp [h]
  · simp only [get?, List.lookup_append]
    congr 1
    by_cases h : key = k
    · simp [h]
    · have hk : (k == key) = false := by simpa using Ne.symm h
      simp [List.lookup_cons, hk, h]

theorem nodup_add (h : (cache.entries.map (·.1)).Nodup) :
    ((cache.add key c).entries.map (·.1)).Nodup := by
  unfold add
  split
  · exact h
  · rename_i hkey
    have hfresh : key ∉ cache.entries.map (·.1) := by
      intro hmem
      obtain ⟨e, he, rfl⟩ := List.mem_map.mp hmem
      exact hkey (by simpa [get?] using ⟨_, he⟩)
    rw [List.map_append]
    refine List.nodup_append.mpr ⟨h, List.nodup_singleton key, fun a ha b hb => ?_⟩
    obtain rfl := List.mem_singleton.mp hb
    exact fun he => hfresh (he ▸ ha)

/-- Keep a container under a key if there is one. -/
def keep (cache : Resolved) (key : ContainerKey) : Result Container → Resolved
  | .ok c => cache.add key c
  | .error _ => cache

theorem get?_keep {x : Result Container} :
    (cache.keep key x).get? k = (cache.get? k).or (if key = k then x.toOption else none) := by
  cases x with
  | ok c => exact get?_add
  | error e => simp [keep, Except.toOption]

theorem nodup_keep {x : Result Container} (h : (cache.entries.map (·.1)).Nodup) :
    ((cache.keep key x).entries.map (·.1)).Nodup := by
  cases x with
  | ok c => exact nodup_add h
  | error e => exact h

/-- To keep what is known under the key already changes nothing that can be seen. -/
theorem get?_eq_or (h : cache.get? key = some c) :
    cache.get? k = (cache.get? k).or (if key = k then some c else none) := by
  by_cases hk : key = k
  · rw [← hk, h]
    rfl
  · rw [if_neg hk, Option.or_none]

/-! ## Resolving -/

theorem resolve_of_some (h : cache.get? key = some c) :
    cache.resolve s key = { result := .ok c, cache } := by
  simp only [resolve, h]

theorem resolve_of_none (h : cache.get? key = none) : cache.resolve s key =
    { result := (s.answer key).result, cache := cache.keep key (s.answer key).result,
      calls := (s.answer key).calls } := by
  simp only [resolve, h, Source.resolve_eq]
  cases (s.answer key).result <;> rfl

theorem resolveIn_of_some (h : scope.get? key = some c) :
    scope.resolveIn cache s key = ({ result := .ok c, cache }, scope) := by
  simp only [resolveIn, h]

theorem resolveIn_of_none (h : scope.get? key = none) : scope.resolveIn cache s key =
    (cache.resolve s key, scope.keep key (cache.resolve s key).result) := by
  simp only [resolveIn, h]
  cases (cache.resolve s key).result <;> rfl

/-- What is resolved through a cache is known to it afterwards, if there was an answer. -/
theorem get?_resolve (cache : Resolved) (s : Source) (key k : ContainerKey) :
    (cache.resolve s key).cache.get? k = (cache.get? k).or
      (if key = k then (cache.resolve s key).result.toOption else none) := by
  cases h : cache.get? key with
  | some c =>
      rw [resolve_of_some h]
      exact get?_eq_or h
  | none =>
      rw [resolve_of_none h]
      exact get?_keep

theorem nodup_resolve (h : (cache.entries.map (·.1)).Nodup) :
    ((cache.resolve s key).cache.entries.map (·.1)).Nodup := by
  cases hkey : cache.get? key with
  | some c =>
      rw [resolve_of_some hkey]
      exact h
  | none =>
      rw [resolve_of_none hkey]
      exact nodup_keep h

theorem get?_scope_resolveIn (scope cache : Resolved) (s : Source) (key k : ContainerKey) :
    (scope.resolveIn cache s key).2.get? k = (scope.get? k).or
      (if key = k then (scope.resolveIn cache s key).1.result.toOption else none) := by
  cases h : scope.get? key with
  | some c =>
      rw [resolveIn_of_some h]
      exact get?_eq_or h
  | none =>
      rw [resolveIn_of_none h]
      exact get?_keep

/-- A key that the scope knows leaves the cache alone. -/
theorem get?_cache_resolveIn (scope cache : Resolved) (s : Source) (key k : ContainerKey) :
    (scope.resolveIn cache s key).1.cache.get? k = (cache.get? k).or
      (if key = k ∧ (scope.get? k).isNone then (scope.resolveIn cache s key).1.result.toOption
        else none) := by
  cases h : scope.get? key with
  | some c =>
      rw [resolveIn_of_some h, if_neg, Option.or_none]
      rintro ⟨rfl, hnone⟩
      simp [h] at hnone
  | none =>
      rw [resolveIn_of_none h]
      refine (get?_resolve cache s key k).trans ?_
      by_cases hk : key = k
      · simp [← hk, h]
      · simp [hk]

theorem nodup_resolveIn (h : (cache.entries.map (·.1)).Nodup) :
    ((scope.resolveIn cache s key).1.cache.entries.map (·.1)).Nodup := by
  cases hkey : scope.get? key with
  | some c =>
      rw [resolveIn_of_some hkey]
      exact h
  | none =>
      rw [resolveIn_of_none hkey]
      exact nodup_resolve h

/-! ## Failing -/

theorem resolve_of_error {e : Error} (h : (cache.resolve s key).result = .error e) :
    (cache.resolve s key).cache = cache := by
  cases hkey : cache.get? key with
  | some c =>
      rw [resolve_of_some hkey]
  | none =>
      rw [resolve_of_none hkey] at h ⊢
      simp only at h ⊢
      rw [h]
      rfl

theorem resolveIn_of_error {e : Error} (h : (scope.resolveIn cache s key).1.result = .error e) :
    (scope.resolveIn cache s key).1.cache = cache ∧ (scope.resolveIn cache s key).2 = scope := by
  cases hkey : scope.get? key with
  | some c =>
      rw [resolveIn_of_some hkey]
      exact ⟨rfl, rfl⟩
  | none =>
      rw [resolveIn_of_none hkey] at h ⊢
      simp only at h ⊢
      rw [h]
      exact ⟨resolve_of_error h, rfl⟩

end Resolved

/-! ## What a history tells -/

/-- A resolver that knows what its history tells. -/
structure Resolver.Follows (r : Resolver) (first : Source) (past : List Event) : Prop where
  source : r.source = History.source first past
  cache : ∀ key, r.cache.get? key = History.throughCache? past key
  scope : ∀ key, r.scope.get? key = History.inScope? past key
  keys : (r.cache.entries.map (·.1)).Nodup

namespace Resolver

variable {r : Resolver} {first : Source} {past : List Event}

theorem follows_new (source : Source) : ({ source } : Resolver).Follows source [] where
  source := rfl
  cache _ := rfl
  scope _ := rfl
  keys := List.nodup_nil

theorem Follows.advance (h : r.Follows first past) (s : Step) :
    (Resolver.advance (r, past) s).1.Follows first (Resolver.advance (r, past) s).2 := by
  obtain ⟨hsource, hcache, hscope, hkeys⟩ := h
  have hscope' (e : Event) (hopens : e.opensScope = false) (hnone : ∀ k, e.inScope? k = none)
      (k : ContainerKey) : r.scope.get? k = History.inScope? (e :: past) k :=
    (hscope k).trans (History.earliest?_cons_of_none hopens (hnone k)).symm
  have hcache' (e : Event) (hends : e.invalidates = false)
      (hnone : ∀ k known, e.throughCache? k known = none) (k : ContainerKey) :
      r.cache.get? k = History.throughCache? (e :: past) k :=
    (hcache k).trans (History.earliest?_cons_of_none hends (hnone k _)).symm
  cases s with
  | resolve key =>
      refine ⟨hsource, fun k => ?_, hscope' _ rfl fun _ => rfl, Resolved.nodup_resolve hkeys⟩
      have hk := Resolved.get?_resolve r.cache r.source key k
      rw [hcache] at hk
      exact hk
  | resolveIn key =>
      refine ⟨hsource, fun k => ?_, fun k => ?_, Resolved.nodup_resolveIn hkeys⟩
      · have hk := Resolved.get?_cache_resolveIn r.scope r.cache r.source key k
        rw [hcache, hscope] at hk
        exact hk
      · have hk := Resolved.get?_scope_resolveIn r.scope r.cache r.source key k
        rw [hscope] at hk
        exact hk
  | invalidate => exact ⟨hsource, fun _ => rfl, hscope' _ rfl fun _ => rfl, List.nodup_nil⟩
  | openScope => exact ⟨hsource, hcache' _ rfl fun _ _ => rfl, fun _ => rfl, hkeys⟩
  | replace source =>
      exact ⟨rfl, hcache' _ rfl fun _ _ => rfl, hscope' _ rfl fun _ => rfl, hkeys⟩

theorem run_concat (source : Source) (steps : List Step) (s : Step) :
    run source (steps ++ [s]) = Resolver.advance (run source steps) s :=
  List.foldl_concat ..

theorem follows_run (source : Source) (steps : List Step) :
    (run source steps).1.Follows source (run source steps).2 := by
  induction steps using List.reverseRecOn with
  | nil => exact follows_new source
  | append_singleton steps s ih =>
      rw [run_concat]
      exact ih.advance s

theorem run_steps (source : Source) (steps : List Step) :
    (run source steps).2.map (·.step) = steps.reverse := by
  induction steps using List.reverseRecOn with
  | nil => rfl
  | append_singleton steps s ih =>
      rw [run_concat, List.reverse_concat, ← ih]
      rfl

theorem Follows.answer (h : r.Follows first past) (key : ContainerKey) :
    (r.step (.resolve key)).2 = some (History.answer first past key) := by
  simp only [step, History.answer, ← h.cache, ← h.source]
  cases hkey : r.cache.get? key with
  | some c => rw [Resolved.resolve_of_some hkey]
  | none => rw [Resolved.resolve_of_none hkey]

theorem Follows.answerIn (h : r.Follows first past) (key : ContainerKey) :
    (r.step (.resolveIn key)).2 = some (History.answerIn first past key) := by
  simp only [step, History.answerIn, ← h.scope]
  cases hkey : r.scope.get? key with
  | some c => rw [Resolved.resolveIn_of_some hkey]
  | none =>
      rw [Resolved.resolveIn_of_none hkey]
      exact h.answer key

theorem step_of_error {s : Step} {a : Answer} {e : Error} (ha : (r.step s).2 = some a)
    (he : a.result = .error e) : (r.step s).1 = r := by
  cases s with
  | resolve key =>
      obtain rfl := Option.some.inj ha
      simp only [step, Resolved.resolve_of_error he]
  | resolveIn key =>
      obtain rfl := Option.some.inj ha
      simp only [step, (Resolved.resolveIn_of_error he).1, (Resolved.resolveIn_of_error he).2]
  | invalidate => cases ha
  | openScope => cases ha
  | replace source => cases ha

/-- After any steps the cache and the scope hold, and answer by, what was answered before. -/
theorem answers_by_history (first : Source) (steps : List Step) :
    let r := (run first steps).1
    let past := (run first steps).2
    past.map (·.step) = steps.reverse ∧
    (∀ key, (r.step (.resolve key)).2 = some (History.answer first past key)) ∧
    (∀ key, (r.step (.resolveIn key)).2 = some (History.answerIn first past key)) ∧
    (∀ key, r.cache.get? key = History.throughCache? past key) ∧
    (r.cache.entries.map (·.1)).Nodup ∧
    (∀ key, r.scope.get? key = History.inScope? past key) ∧
    ∀ s a e, (r.step s).2 = some a → a.result = .error e → (r.step s).1 = r :=
  have h := follows_run first steps
  ⟨run_steps first steps, h.answer, h.answerIn, h.cache, h.keys, h.scope,
    fun _ _ _ => step_of_error⟩

/-- A store with one container. -/
def stocked : Store where
  indexPrefix := "shop_"
  catalogs := [{ id := 1, code := "fr" }]
  containers := [{ name := "product", entity := "product" }]

/-- The container is resolved in the scope, then the cache is invalidated and the catalog taken
away. -/
def removal : List Step :=
  [.resolveIn ("fr", "product"), .invalidate, .replace { stocked with catalogs := [] }.source]

theorem known_in_scope_alone :
    let r := (run stocked.source removal).1
    (∃ c, stocked.source.container { id := 1, code := "fr" } "product" = .ok c ∧
      (r.step (.resolveIn ("fr", "product"))).2 = some { result := .ok c }) ∧
    (r.step (.resolve ("fr", "product"))).2 =
      some { result := .error (.unknownCatalog "fr"), calls := { catalog := 1 } } ∧
    (r.step (.resolve ("fr", "product"))).1 = r := by
  obtain ⟨-, hcache, hscope, -, -, -, hfail⟩ := answers_by_history stocked.source removal
  have hrefused := hcache ("fr", "product")
  exact ⟨⟨_, rfl, hscope ("fr", "product")⟩, hrefused, hfail _ _ _ hrefused rfl⟩

end Resolver

end FacetedSearch
