import FacetedSearch.Proofs.Json.Entries
import Mathlib.Data.List.Forall2

/-!
# Values that are one JSON value

The order of the members of an object means nothing, and JSON has no infinities and no NaN: they
are null. Two values that differ in nothing else are the same.
-/

namespace FacetedSearch.Json

def isNull : Json → Bool
  | .null => true
  | .float x => !x.isFinite
  | _ => false

/-- Objects are compared key by key. -/
inductive Same : Json → Json → Prop
  | refl (v : Json) : Same v v
  | null {v w : Json} : v.isNull = true → w.isNull = true → Same v w
  | array {vs ws : List Json} : List.Forall₂ Same vs ws → Same (.array vs) (.array ws)
  | object {ms ns : Members} : (∀ key, Option.Rel Same (ms.lookup key) (ns.lookup key)) →
      Same (.object ms) (.object ns)

/-! ## Members -/

theorem lookup_member? {α : Type} (key other : String) (encode : α → Json) (o : Option α) :
    (member? key encode o).lookup other = if other = key then o.map encode else none := by
  cases o with
  | none => simp [member?]
  | some a => simp [member?, Table.lookup_cons]

namespace Same

variable {v w : Json} {ms ns : Members}

theorem lookup (h : Same (.object ms) (.object ns)) (key : String) :
    Option.Rel Same (ms.lookup key) (ns.lookup key) := by
  cases h with
  | refl => cases ms.lookup key <;> constructor; exact .refl _
  | null h => cases h
  | object h => exact h key

theorem of_lookup (h : Same (.object ms) (.object ns)) {key : String}
    (hv : ms.lookup key = some v) (hw : ns.lookup key = some w) : Same v w := by
  have hrel := h.lookup key
  rw [hv, hw] at hrel
  cases hrel
  assumption

theorem lookup_eq_none (h : Same (.object ms) (.object ns)) (key : String) :
    ms.lookup key = none ↔ ns.lookup key = none := by
  have hrel := h.lookup key
  cases hv : ms.lookup key <;> cases hw : ns.lookup key <;> simp [hv, hw] at hrel ⊢

/-- A member in front is told from those beside it by its key. -/
theorem beside {key key' : String} (h : Same (.object ((key, v) :: ms)) (.object ((key', w) :: ns)))
    (hns : ns.lookup key = none) : key = key' ∧ Same v w := by
  have hkey : key = key' := by
    have hnone := h.lookup_eq_none key
    simpa [Table.lookup_cons, hns] using hnone
  subst hkey
  exact ⟨rfl, h.of_lookup List.lookup_cons_self List.lookup_cons_self⟩

theorem single {key key' : String} (h : Same (.single key v) (.single key' w)) :
    key = key' ∧ Same v w :=
  h.beside rfl

theorem items {vs ws : List Json} (h : Same (.array vs) (.array ws)) : List.Forall₂ Same vs ws := by
  cases h with
  | refl => exact List.forall₂_same.mpr fun v _ => .refl v
  | null h => cases h
  | array h => exact h

theorem item (h : Same (.array [v]) (.array [w])) : Same v w := by
  cases h.items
  assumption

/-- Atoms other than null are the same only if they are equal. -/
theorem atom (h : Same v w) (hnull : v.isNull = false) (harray : v.array? = none)
    (hobject : v.object? = none) : v = w := by
  cases h with
  | refl => rfl
  | null h => rw [h] at hnull; cases hnull
  | array => cases harray
  | object => cases hobject

theorem string {s t : String} (h : Same (.string s) (.string t)) : s = t := by
  simpa using h.atom rfl rfl rfl

theorem int {m n : Int} (h : Same (.int m) (.int n)) : m = n := by
  simpa using h.atom rfl rfl rfl

theorem float {x y : Binary64} (hx : x.isFinite = true) (h : Same (.float x) (.float y)) :
    x = y := by
  simpa using h.atom (by simp [isNull, hx]) rfl rfl

end Same

theorem rel_map {α : Type} {encode : α → Json} {o o' : Option α}
    (hencode : ∀ a ∈ o, ∀ b, Same (encode a) (encode b) → a = b)
    (h : Option.Rel Same (o.map encode) (o'.map encode)) : o = o' := by
  match o, o', h with
  | none, none, _ => rfl
  | some a, some b, .some h => rw [hencode a rfl b h]

theorem rel_string {o o' : Option String}
    (h : Option.Rel Same (o.map .string) (o'.map .string)) : o = o' :=
  rel_map (fun _ _ _ => Same.string) h

end FacetedSearch.Json
