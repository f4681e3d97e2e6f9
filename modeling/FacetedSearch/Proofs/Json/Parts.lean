import FacetedSearch.Proofs.Json.Entries
import FacetedSearch.Proofs.Json.Record
import Mathlib.Logic.Relation

/-!
# Members and parts of JSON values

The members of a value that is taken for a record, by name in an object and by position in an array,
are just what is looked up in the record. The parts of a value are the value itself and the parts of
its items and members.
-/

namespace FacetedSearch

/-! ## Members of records -/

namespace Record

variable {β : Type} {names : List String} {name : String} {b : β} {r : Record β}

theorem lookup_eq_some_iff_mem {entries : List (String × β)} (h : occurrences name entries ≤ 1) :
    entries.lookup name = some b ↔ (name, b) ∈ entries := by
  induction entries with
  | nil => simp
  | cons e entries ih =>
      rw [Table.lookup_cons, List.mem_cons]
      by_cases he : name = e.1
      · -- The key is not there a second time.
        have hnone : ∀ e' ∈ entries, e'.1 ≠ name := by
          simpa [occurrences, List.filter_cons, he, List.filter_eq_nil_iff] using h
        have hrest : (name, b) ∉ entries := fun hmem => hnone _ hmem rfl
        rw [if_pos he, or_iff_left hrest, Option.some.injEq, Prod.ext_iff, and_iff_right he,
          eq_comm]
      · have hrest : occurrences name entries ≤ 1 := by
          simpa [occurrences, List.filter_cons, Ne.symm he] using h
        have hne : (name, b) ≠ e := fun heq => he (congrArg Prod.fst heq)
        rw [if_neg he, ih hrest, or_iff_right hne]

theorem lookup_ofEntries? {entries : List (String × β)} (h : ofEntries? names entries = some r)
    (hname : name ∈ names) : r.members.lookup name = some b ↔ (name, b) ∈ entries := by
  simp only [ofEntries?] at h
  split at h
  · rename_i hall
    cases h
    exact lookup_eq_some_iff_mem (of_decide_eq_true (List.all_eq_true.mp hall name hname))
  · cases h

theorem keys_zip_sublist (names : List String) (items : List β) :
    ((names.zip items).map (·.1)).Sublist names := by
  induction names generalizing items with
  | nil => simp
  | cons name names ih =>
      cases items with
      | nil => simp
      | cons item items => simpa using ih items

theorem lookup_ofItems? {items : List β} (h : ofItems? names items = some r)
    (hnames : names.Nodup) : r.members.lookup name = some b ↔ (name, b) ∈ names.zip items := by
  simp only [ofItems?] at h
  split at h
  · cases h
    have hkeys := (keys_zip_sublist names items).nodup hnames
    exact lookup_eq_some_iff_mem (occurrences_le_one hkeys name)
  · cases h

theorem require_lookup {α : Type} {decode : β → Option α} (h : r.members.lookup name = some b) :
    r.require name decode = decode b := by
  rw [require, h, Option.bind_some]

theorem getD_lookup {α : Type} {decode : β → Option α} {default : α}
    (h : r.members.lookup name = some b) : r.getD name decode default = decode b := by
  rw [getD, h]

end Record

namespace Json

variable {names : List String} {name : String}

/-- The members of a value, which an array has under the leading names. -/
def membersAs (names : List String) : Json → Members
  | .object ms => ms
  | .array items => names.zip items
  | _ => []

theorem lookup_record? {j v : Json} {r : Record Json} (h : j.record? names = some r)
    (hnames : names.Nodup) (hname : name ∈ names) :
    r.members.lookup name = some v ↔ (name, v) ∈ j.membersAs names := by
  cases j with
  | object ms => exact Record.lookup_ofEntries? h hname
  | array items => exact Record.lookup_ofItems? h hnames
  | _ => cases h

theorem exists_mem_of_mapM {α β : Type} {f : α → Option β} {xs : List α} {ys : List β}
    (h : xs.mapM f = some ys) {x : α} (hx : x ∈ xs) : ∃ y ∈ ys, f x = some y := by
  induction xs generalizing ys with
  | nil => cases hx
  | cons a xs ih =>
      simp only [List.mapM_cons, Option.bind_eq_bind, Option.bind_eq_some_iff] at h
      obtain ⟨b, hb, bs, hbs, h⟩ := h
      cases h
      rcases List.mem_cons.mp hx with rfl | hx
      · exact ⟨b, List.mem_cons_self, hb⟩
      · obtain ⟨y, hy, hxy⟩ := ih hbs hx
        exact ⟨y, List.mem_cons_of_mem _ hy, hxy⟩

/-! ## Parts -/

/-- The items of an array and the values of an object. -/
def parts : Json → List Json
  | .array items => items
  | .object ms => ms.map (·.2)
  | _ => []

/-- A value is a part of another if it is the whole or right in a part of it. -/
def HasPart : Json → Json → Prop := Relation.ReflTransGen fun j p => p ∈ j.parts

variable {j p v : Json} {ms : Members} {items : List Json} {key : String}

theorem HasPart.trans (h : j.HasPart v) (hp : v.HasPart p) : j.HasPart p :=
  Relation.ReflTransGen.trans h hp

theorem HasPart.item (hv : v ∈ items) (hp : v.HasPart p) : (array items).HasPart p :=
  Relation.ReflTransGen.head hv hp

theorem HasPart.member (hv : (key, v) ∈ ms) (hp : v.HasPart p) : (object ms).HasPart p :=
  Relation.ReflTransGen.head (List.mem_map.mpr ⟨_, hv, rfl⟩) hp

theorem HasPart.listed (hitems : (key, array items) ∈ ms) (hv : v ∈ items) :
    (object ms).HasPart v :=
  .member hitems (.item hv .refl)

theorem HasPart.single (hp : v.HasPart p) : (single key v).HasPart p :=
  .member List.mem_cons_self hp

/-! ## Integers -/

/-- Every integer in a value has a property. -/
def AllInts (P : Int → Prop) (j : Json) : Prop := ∀ n, j.HasPart (.int n) → P n

variable {P : Int → Prop}

theorem allInts_iff : j.AllInts P ↔ (∀ n, j = .int n → P n) ∧ ∀ p ∈ j.parts, p.AllInts P := by
  constructor
  · intro h
    refine ⟨fun n hn => h n (hn ▸ .refl), fun p hp n hn => h n (.head hp hn)⟩
  · rintro ⟨hself, hparts⟩ n hn
    rcases Relation.ReflTransGen.cases_head hn with heq | ⟨p, hp, hn⟩
    · exact hself n heq
    · exact hparts p hp n hn

@[simp]
theorem allInts_int {n : Int} : (int n).AllInts P ↔ P n := by
  rw [allInts_iff]
  simp [parts]

@[simp]
theorem allInts_float {x : Binary64} : (float x).AllInts P := by
  rw [allInts_iff]
  simp [parts]

@[simp]
theorem allInts_string {s : String} : (string s).AllInts P := by
  rw [allInts_iff]
  simp [parts]

@[simp]
theorem allInts_bool {b : Bool} : (bool b).AllInts P := by
  rw [allInts_iff]
  simp [parts]

@[simp]
theorem allInts_array : (array items).AllInts P ↔ ∀ v ∈ items, v.AllInts P := by
  rw [allInts_iff]
  simp [parts]

@[simp]
theorem allInts_object : (object ms).AllInts P ↔ ∀ m ∈ ms, m.2.AllInts P := by
  rw [allInts_iff, parts, List.forall_mem_map]
  simp

@[simp]
theorem allInts_single : (single key v).AllInts P ↔ v.AllInts P := by
  simp [single]

theorem allInts_member? {α : Type} {encode : α → Json} {o : Option α}
    (h : ∀ a ∈ o, (encode a).AllInts P) : ∀ m ∈ member? key encode o, m.2.AllInts P := by
  cases o <;> simp_all [member?]

/-- What entries are reduced to are some of them. -/
theorem mem_of_mem_ofEntries {es : List (String × Json)} {e : String × Json}
    (h : e ∈ Members.ofEntries es) : e ∈ es := by
  have hlookup : (Members.ofEntries es).lookup e.1 = some e.2 :=
    (Record.lookup_eq_some_iff_mem
      (Record.occurrences_le_one (Members.nodup_ofEntries es) e.1)).mpr h
  have hput : Members.ofEntries es = Members.putAll [] es := rfl
  rw [hput, Members.lookup_putAll, List.lookup_nil, Option.or_none] at hlookup
  exact List.mem_reverse.mp (Members.mem_of_lookup hlookup)

end Json

end FacetedSearch
