import FacetedSearch.Table
import Mathlib.Data.List.Nodup
import Mathlib.Data.List.Perm.Subperm

/-!
# Members from entries

Entries are put among members one after the other, so that of those of one key the last one stands.
Each entry stands on its own exactly if no two of them share a key.
-/

namespace FacetedSearch.Json.Members

variable {ms : Members} {es : List (String × Json)} {key : String} {value : Json}

def putAll (ms : Members) (es : List (String × Json)) : Members :=
  es.foldl (fun ms e => put e.1 e.2 ms) ms

/-- Entries of new keys are put behind what is there. -/
theorem putAll_of_nodup (ms : Members) (h : ((ms ++ es).map (·.1)).Nodup) : ms.putAll es = ms ++ es := by
  unfold putAll
  induction es generalizing ms with
  | nil => simp
  | cons e es ih =>
      have hfresh : e.1 ∉ ms.map (·.1) := by
        simp only [List.map_append, List.map_cons, List.nodup_append] at h
        exact fun hmem => h.2.2 _ hmem _ List.mem_cons_self rfl
      rw [List.foldl_cons, put_of_not_mem hfresh, ih _ (by simpa using h)]
      simp

/-- Entries without a repeated key are members as they stand. -/
theorem ofEntries_of_nodup (h : (es.map (·.1)).Nodup) : ofEntries es = es :=
  putAll_of_nodup [] h

theorem nodup_put (h : (ms.map (·.1)).Nodup) : ((put key value ms).map (·.1)).Nodup := by
  by_cases hkey : key ∈ ms.map (·.1)
  · rw [keys_put_of_mem hkey]
    exact h
  · rw [put_of_not_mem hkey, List.map_append]
    refine List.nodup_append.mpr ⟨h, List.nodup_singleton key, fun k hk other hother => ?_⟩
    rw [List.mem_singleton.mp hother]
    rintro rfl
    exact hkey hk

theorem nodup_putAll (ms : Members) (h : (ms.map (·.1)).Nodup) : ((ms.putAll es).map (·.1)).Nodup := by
  unfold putAll
  induction es generalizing ms with
  | nil => exact h
  | cons e es ih => exact ih _ (nodup_put h)

theorem nodup_ofEntries (es : List (String × Json)) : ((ofEntries es).map (·.1)).Nodup :=
  nodup_putAll [] List.nodup_nil

/-- The last entry of a key stands, and what was there stands where there is none. -/
theorem lookup_putAll : (ms.putAll es).lookup key = (es.reverse.lookup key).or (ms.lookup key) := by
  unfold putAll
  induction es generalizing ms with
  | nil => rfl
  | cons e es ih =>
      rw [List.foldl_cons, ih, List.reverse_cons, List.lookup_append, Option.or_assoc]
      congr 1
      -- What remains is that the first entry is put over what was there.
      by_cases hkey : key = e.1
      · rw [hkey, lookup_put_self, Table.lookup_cons, if_pos rfl]
        rfl
      · rw [lookup_put_of_ne hkey, Table.lookup_cons, if_neg hkey]
        rfl

theorem mem_of_lookup (h : ms.lookup key = some value) : (key, value) ∈ ms := by
  obtain ⟨before, after, rfl, _⟩ := List.lookup_eq_some_iff.mp h
  exact List.mem_append_right _ List.mem_cons_self

theorem lookup_reverse_of_mem (h : (es.map (·.1)).Nodup) {e : String × Json} (he : e ∈ es) :
    es.reverse.lookup e.1 = some e.2 := by
  obtain ⟨before, after, rfl⟩ := List.append_of_mem he
  rw [List.map_append, List.map_cons, List.nodup_middle, List.nodup_cons] at h
  obtain ⟨hfresh, _⟩ := h
  refine List.lookup_eq_some_iff.mpr ⟨after.reverse, before.reverse, by simp, fun e' he' => ?_⟩
  rw [bne_iff_ne]
  intro hkey
  have hafter : e.1 ∈ after.map (·.1) := List.mem_map.mpr ⟨e', List.mem_reverse.mp he', hkey.symm⟩
  exact hfresh (List.mem_append_right _ hafter)

theorem lookup_reverse (h : (es.map (·.1)).Nodup) : es.reverse.lookup key = es.lookup key := by
  cases hlookup : es.lookup key with
  | none =>
      rw [List.lookup_eq_none_iff] at hlookup ⊢
      exact fun e he => hlookup e (List.mem_reverse.mp he)
  | some v => exact lookup_reverse_of_mem h (mem_of_lookup hlookup)

/-- All entries stand beside each other exactly if no two of them share a key, whatever was there. -/
theorem subperm_putAll_iff (ms : Members) (hms : (ms.map (·.1)).Nodup) :
    es.Subperm (ms.putAll es) ↔ (es.map (·.1)).Nodup := by
  constructor
  · rintro ⟨own, hperm, hsub⟩
    exact (hperm.map _).nodup ((hsub.map _).nodup (nodup_putAll ms hms))
  · intro h
    refine List.subperm_of_subset (List.Nodup.of_map _ h) fun e he => mem_of_lookup ?_
    rw [lookup_putAll, lookup_reverse_of_mem h he]
    rfl

theorem perm_putAll_iff : es.Perm (putAll [] es) ↔ (es.map (·.1)).Nodup := by
  constructor
  · intro h
    exact (subperm_putAll_iff [] List.nodup_nil).mp h.subperm
  · intro h
    rw [putAll_of_nodup [] h]
    rfl

end FacetedSearch.Json.Members
