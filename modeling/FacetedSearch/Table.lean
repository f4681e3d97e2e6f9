import FacetedSearch.Json.Record

/-!
# Tables

A finite map from texts, kept in the order of its keys. Main statement: a key that was set is found
with its value, and no other key is touched.
-/

namespace FacetedSearch

/-- Entries in the strict order of their keys. -/
structure Table (α : Type) where
  entries : List (String × α)
  sorted : entries.Pairwise fun a b => a.1 < b.1

namespace Table

variable {α : Type}

/-- The table without entries. -/
def empty : Table α := ⟨[], .nil⟩

instance : Inhabited (Table α) := ⟨empty⟩

/-- Set a key among ordered entries. -/
def insertEntry (key : String) (value : α) : List (String × α) → List (String × α)
  | [] => [(key, value)]
  | (k, v) :: rest =>
    if key = k then (key, value) :: rest
    else if key < k then (key, value) :: (k, v) :: rest
    else (k, v) :: insertEntry key value rest

theorem mem_insertEntry {key : String} {value : α} {es : List (String × α)} {e : String × α}
    (h : e ∈ insertEntry key value es) : e = (key, value) ∨ e ∈ es := by
  induction es with
  | nil => simpa [insertEntry] using h
  | cons m rest ih =>
    obtain ⟨k, v⟩ := m
    simp only [insertEntry] at h
    split at h
    · rcases List.mem_cons.1 h with h | h
      · exact .inl h
      · exact .inr (List.mem_cons_of_mem _ h)
    · split at h
      · rcases List.mem_cons.1 h with h | h
        · exact .inl h
        · exact .inr h
      · rcases List.mem_cons.1 h with h | h
        · exact .inr (h ▸ List.mem_cons_self)
        · exact (ih h).imp_right (List.mem_cons_of_mem _)

theorem sorted_insertEntry {key : String} {value : α} {es : List (String × α)}
    (h : es.Pairwise fun a b => a.1 < b.1) :
    (insertEntry key value es).Pairwise fun a b => a.1 < b.1 := by
  induction es with
  | nil => simp [insertEntry]
  | cons m rest ih =>
    obtain ⟨k, v⟩ := m
    obtain ⟨hk, hrest⟩ := List.pairwise_cons.1 h
    simp only [insertEntry]
    split
    · next heq => subst heq; exact List.pairwise_cons.2 ⟨hk, hrest⟩
    · next hne =>
      split
      · next hlt =>
        refine List.pairwise_cons.2 ⟨fun e he => ?_, h⟩
        rcases List.mem_cons.1 he with rfl | he
        · exact hlt
        · exact String.lt_trans hlt (hk e he)
      · next hnot =>
        refine List.pairwise_cons.2 ⟨fun e he => ?_, ih hrest⟩
        rcases mem_insertEntry he with rfl | he
        · exact String.not_le.1 fun hle => hne (String.le_antisymm hle (String.not_lt.1 hnot))
        · exact hk e he

/-- Set a key. -/
def insert (key : String) (value : α) (t : Table α) : Table α :=
  ⟨insertEntry key value t.entries, sorted_insertEntry t.sorted⟩

/-- The table of some entries, a later one of a key in place of an earlier one. -/
def ofList (es : List (String × α)) : Table α := es.foldl (fun t e => t.insert e.1 e.2) empty

/-- The value of a key. -/
def get? (t : Table α) (key : String) : Option α := t.entries.lookup key

def keys (t : Table α) : List String := t.entries.map (·.1)

def values (t : Table α) : List α := t.entries.map (·.2)

/-- The table as a JSON object. -/
def toJson (encode : α → Json) (t : Table α) : Json :=
  .object (t.entries.map fun e => (e.1, encode e.2))

/-- A table from a JSON object. -/
def ofJson? (decode : Json → Option α) : Json → Option (Table α)
  | .object entries => (entries.mapM fun e => (decode e.2).map (e.1, ·)).map ofList
  | _ => none

theorem lookup_cons (k other : String) (v : α) (es : List (String × α)) :
    List.lookup other ((k, v) :: es) = if other = k then some v else es.lookup other := by
  by_cases h : other = k
  · simp [h]
  · have hb : (other == k) = false := by simpa using h
    simp [List.lookup_cons, hb, h]

theorem lookup_insertEntry (key other : String) (value : α) (es : List (String × α)) :
    (insertEntry key value es).lookup other =
      if other = key then some value else es.lookup other := by
  induction es with
  | nil => simp [insertEntry, lookup_cons]
  | cons m rest ih =>
    obtain ⟨k, v⟩ := m
    simp only [insertEntry]
    split
    · next hk => subst hk; simp only [lookup_cons]; split <;> rfl
    · next hne =>
      split
      · simp only [lookup_cons]
      · simp only [lookup_cons, ih]
        by_cases h : other = k
        · simp [h, Ne.symm hne]
        · simp [h]

theorem get?_insert (key other : String) (value : α) (t : Table α) :
    (t.insert key value).get? other = if other = key then some value else t.get? other :=
  lookup_insertEntry key other value t.entries

end Table

end FacetedSearch
