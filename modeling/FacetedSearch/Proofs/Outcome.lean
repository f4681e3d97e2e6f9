import FacetedSearch.Error
import Mathlib.Data.List.Forall2

/-! What the outcome of several steps says of each of them. -/

namespace FacetedSearch

namespace Outcome

variable {ε ε' α β : Type}

/-! ## Success -/

theorem bind_eq_ok {x : Except ε α} {f : α → Except ε β} {b : β} :
    x >>= f = .ok b ↔ ∃ a, x = .ok a ∧ f a = .ok b := by
  cases x with
  | error e => simp [bind, Except.bind]
  | ok a => simp [bind, Except.bind]

/-- A step that is done for its check alone. -/
theorem check_bind_eq_ok {x : Except ε Unit} {y : Except ε β} {b : β} :
    (x >>= fun _ => y) = .ok b ↔ x = .ok () ∧ y = .ok b := by
  rw [bind_eq_ok]
  exact ⟨fun ⟨(), hx, hy⟩ => ⟨hx, hy⟩, fun ⟨hx, hy⟩ => ⟨(), hx, hy⟩⟩

/-- Errors may be renamed without changing what succeeds. -/
theorem mapError_eq_ok {rename : ε → ε'} {x : Except ε α} {a : α} :
    x.mapError rename = .ok a ↔ x = .ok a := by
  cases x with
  | error e => simp [Except.mapError]
  | ok a' => simp [Except.mapError]

theorem map_eq_ok {x : Except ε α} {f : α → β} {b : β} :
    x.map f = .ok b ↔ ∃ a, x = .ok a ∧ f a = b := by
  cases x <;> simp [Except.map]

theorem mapM_eq_ok {f : α → Except ε β} {xs : List α} {ys : List β} :
    xs.mapM f = .ok ys ↔ List.Forall₂ (fun x y => f x = .ok y) xs ys := by
  induction xs generalizing ys with
  | nil => cases ys <;> simp [pure, Except.pure]
  | cons x xs ih =>
      rw [List.mapM_cons, bind_eq_ok]
      simp only [bind_eq_ok, ih, List.forall₂_cons_left_iff]
      constructor
      · rintro ⟨y, hy, ys', hys, h⟩
        cases h
        exact ⟨y, ys', hy, hys, rfl⟩
      · rintro ⟨y, ys', hy, hys, rfl⟩
        exact ⟨y, hy, ys', hys, rfl⟩

theorem exists_mapM_eq_ok {f : α → Except ε β} {xs : List α} :
    (∃ ys, xs.mapM f = .ok ys) ↔ ∀ x ∈ xs, ∃ y, f x = .ok y := by
  induction xs with
  | nil => simp [pure, Except.pure]
  | cons x xs ih =>
      rw [List.forall_mem_cons, ← ih]
      simp only [mapM_eq_ok, List.forall₂_cons_left_iff]
      constructor
      · rintro ⟨_, y, ys, hy, hys, _⟩
        exact ⟨⟨y, hy⟩, ys, hys⟩
      · rintro ⟨⟨y, hy⟩, ys, hys⟩
        exact ⟨y :: ys, y, ys, hy, hys, rfl⟩

theorem forall_mem_of_mapM_eq_ok {f : α → Except ε β} {p : β → Prop} {xs : List α} {ys : List β}
    (h : xs.mapM f = .ok ys) (hp : ∀ x y, f x = .ok y → p y) : ∀ y ∈ ys, p y := by
  induction mapM_eq_ok.mp h with
  | nil => simp
  | cons hy hys ih => exact List.forall_mem_cons.mpr ⟨hp _ _ hy, ih (mapM_eq_ok.mpr hys)⟩

/-! ## Failure -/

theorem bind_eq_error {x : Except ε α} {f : α → Except ε β} {e : ε} :
    x >>= f = .error e ↔ x = .error e ∨ ∃ a, x = .ok a ∧ f a = .error e := by
  cases x with
  | error e' => simp [bind, Except.bind]
  | ok a => simp [bind, Except.bind]

theorem map_eq_error {x : Except ε α} {f : α → β} {e : ε} : x.map f = .error e ↔ x = .error e := by
  cases x <;> simp [Except.map]

theorem mapError_eq_error {rename : ε → ε'} {x : Except ε α} {e' : ε'} :
    x.mapError rename = .error e' ↔ ∃ e, x = .error e ∧ rename e = e' := by
  cases x <;> simp [Except.mapError]

/-- Of several steps the first that fails is reported. -/
theorem mapM_eq_error {f : α → Except ε β} {xs : List α} {e : ε} :
    xs.mapM f = .error e ↔ ∃ before x after, xs = before ++ x :: after ∧
      (∀ p ∈ before, ∃ y, f p = .ok y) ∧ f x = .error e := by
  induction xs with
  | nil => simp [pure, Except.pure]
  | cons x xs ih =>
      have hstep : (x :: xs).mapM f = .error e ↔
          f x = .error e ∨ (∃ y, f x = .ok y) ∧ xs.mapM f = .error e := by
        rw [List.mapM_cons, bind_eq_error]
        simp [bind_eq_error, pure, Except.pure]
      rw [hstep, ih]
      constructor
      · rintro (hx | ⟨hx, before, p, after, rfl, hbefore, hp⟩)
        · exact ⟨[], x, xs, rfl, by simp, hx⟩
        · exact ⟨x :: before, p, after, rfl, List.forall_mem_cons.mpr ⟨hx, hbefore⟩, hp⟩
      · rintro ⟨before, p, after, hsplit, hbefore, hp⟩
        cases before with
        | nil =>
            cases hsplit
            exact Or.inl hp
        | cons b before =>
            cases hsplit
            obtain ⟨hx, hbefore⟩ := List.forall_mem_cons.mp hbefore
            exact Or.inr ⟨hx, before, p, after, rfl, hbefore, hp⟩

/-- The error of an outcome that is one. -/
def fault? : Except ε α → Option ε
  | .ok _ => none
  | .error e => some e

theorem fault?_eq_some {x : Except ε α} {e : ε} : fault? x = some e ↔ x = .error e := by
  cases x <;> simp [fault?]

theorem fault?_eq_none {x : Except ε α} : fault? x = none ↔ ∃ a, x = .ok a := by
  cases x <;> simp [fault?]

/-- A step that fails in one way, whatever the step before it gives. -/
theorem fault?_bind {x : Except ε α} {f : α → Except ε β} {o : Option ε}
    (h : ∀ a, x = .ok a → fault? (f a) = o) : fault? (x >>= f) = (fault? x).or o := by
  cases x with
  | error e => rfl
  | ok a => exact h a rfl

/-- If it fails, then with an error of a kind. -/
def FailsOnly (p : ε → Prop) (x : Except ε α) : Prop := ∀ e, x = .error e → p e

namespace FailsOnly

variable {p : ε → Prop} {x : Except ε α}

theorem ok (a : α) : FailsOnly p (.ok a : Except ε α) := fun _ h => nomatch h

theorem error {e : ε} (h : p e) : FailsOnly p (.error e : Except ε α) := by
  intro e' he
  cases he
  exact h

theorem bind {f : α → Except ε β} (hx : FailsOnly p x)
    (hf : ∀ a, x = .ok a → FailsOnly p (f a)) : FailsOnly p (x >>= f) := by
  intro e he
  cases x with
  | error e' => cases he; exact hx _ rfl
  | ok a => exact hf a rfl e he

theorem mapError {rename : ε → ε'} {q : ε' → Prop} (h : ∀ e, q (rename e)) :
    FailsOnly q (x.mapError rename) := by
  intro e he
  cases x with
  | error e' => cases he; exact h e'
  | ok a => cases he

theorem map {f : α → β} (hx : FailsOnly p x) : FailsOnly p (x.map f) := by
  intro e he
  cases x with
  | error e' => cases he; exact hx _ rfl
  | ok a => cases he

theorem mapM {f : α → Except ε β} {xs : List α} (h : ∀ x ∈ xs, FailsOnly p (f x)) :
    FailsOnly p (xs.mapM f) := by
  induction xs with
  | nil => exact ok []
  | cons x xs ih =>
      rw [List.mapM_cons]
      refine bind (h x List.mem_cons_self) fun y _ => ?_
      exact bind (ih fun x' hx' => h x' (List.mem_cons_of_mem _ hx')) fun ys _ => ok _

end FailsOnly

/-! ## Two runs -/

/-- Two outcomes with one result, or with errors that stand in a relation. -/
inductive Agree (R : ε → ε → Prop) : Except ε α → Except ε α → Prop
  | ok (a : α) : Agree R (.ok a) (.ok a)
  | error {e e'} : R e e' → Agree R (.error e) (.error e')

namespace Agree

variable {R : ε → ε → Prop}

theorem refl [Std.Refl R] : (x : Except ε α) → Agree R x x
  | .ok a => .ok a
  | .error e => .error (Std.Refl.refl e)

theorem bind {x y : Except ε α} {f g : α → Except ε β} (h : Agree R x y)
    (hfg : ∀ a, Agree R (f a) (g a)) : Agree R (x >>= f) (y >>= g) := by
  cases h with
  | ok a => exact hfg a
  | error he => exact .error he

theorem mapError {R' : ε' → ε' → Prop} {rename : ε → ε'} {x y : Except ε α} (h : Agree R x y)
    (hrename : ∀ e e', R e e' → R' (rename e) (rename e')) :
    Agree R' (x.mapError rename) (y.mapError rename) := by
  cases h with
  | ok a => exact .ok a
  | error he => exact .error (hrename _ _ he)

theorem mapM {γ : Type} {f : α → Except ε γ} {g : β → Except ε γ} {xs : List α} {ys : List β}
    (h : List.Forall₂ (fun x y => Agree R (f x) (g y)) xs ys) : Agree R (xs.mapM f) (ys.mapM g) := by
  induction h with
  | nil => exact .ok []
  | cons h _ ih =>
      rw [List.mapM_cons, List.mapM_cons]
      exact h.bind fun _ => ih.bind fun _ => .ok _

end Agree

end Outcome

/-- The errors by which a request is refused: what it names is not there or not fit for its use, or
a query or a pipeline in it is malformed. -/
def Error.IsRefusal : Error → Prop
  | .unknownCatalog _ | .unknownContainer .. | .unknownField .. | .unsortableField _
  | .malformedQuery _ | .invalidPipeline _ => True
  | .unsupportedQuery _ | .invalidResponse _ | .config _ => False

end FacetedSearch
