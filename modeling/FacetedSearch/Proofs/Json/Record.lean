import FacetedSearch.Proofs.Json.Same
import FacetedSearch.Table
import Mathlib.Data.List.Induction

/-!
# Reading back what is written

Each accessor of records takes what is written of a value back to the value.
-/

namespace FacetedSearch

/-! ## Records -/

namespace Record

variable {α β : Type} {r : Record β} {name : String}

theorem occurrences_le_one {entries : List (String × β)} (h : (entries.map (·.1)).Nodup)
    (key : String) : occurrences key entries ≤ 1 := by
  induction entries with
  | nil => simp [occurrences]
  | cons e entries ih =>
      obtain ⟨hfresh, hnodup⟩ := List.nodup_cons.mp h
      simp only [occurrences, List.filter_cons]
      split
      · rename_i he
        have hnone : entries.filter (fun e => e.1 == key) = [] := by
          refine List.filter_eq_nil_iff.mpr fun e' he' hkey => hfresh ?_
          simp only [beq_iff_eq] at he hkey
          exact List.mem_map.mpr ⟨e', he', hkey.trans he.symm⟩
        simp [hnone]
      · exact ih hnodup

/-- Whatever the names wanted are, entries without repeated keys are a record. -/
theorem ofEntries?_of_nodup {entries : List (String × β)} (h : (entries.map (·.1)).Nodup)
    (names : List String) : ofEntries? names entries = some ⟨entries⟩ := by
  simp [ofEntries?, occurrences_le_one h]

theorem require_of_lookup {decode : β → Option α} {b : β} {a : α}
    (h : r.members.lookup name = some b) (hdecode : decode b = some a) :
    r.require name decode = some a := by
  rw [require, h]
  exact hdecode

theorem getD_of_lookup {decode : β → Option α} {default : α} {b : β} {a : α}
    (h : r.members.lookup name = some b) (hdecode : decode b = some a) :
    r.getD name decode default = some a := by
  rw [getD, h]
  exact hdecode

end Record

/-! ## Atoms -/

namespace Json

variable {α : Type}

theorem uint64?_ofUInt64 (n : UInt64) : uint64? (ofUInt64 n) = some n := by
  have hn : (n.toNat : Int) < 2 ^ 64 := by exact_mod_cast n.toNat_lt
  rw [ofUInt64, uint64?, if_pos ⟨Int.natCast_nonneg _, hn⟩, Int.toNat_natCast, UInt64.ofNat_toNat]

theorem uint32?_ofUInt32 (n : UInt32) : uint32? (ofUInt32 n) = some n := by
  have hn : (n.toNat : Int) < 2 ^ 32 := by exact_mod_cast n.toNat_lt
  rw [ofUInt32, uint32?, if_pos ⟨Int.natCast_nonneg _, hn⟩, Int.toNat_natCast, UInt32.ofNat_toNat]

theorem finite?_float {x : Binary64} (h : x.isFinite = true) : finite? (.float x) = some x := by
  simp [finite?, float?, Option.filter, h]

theorem nullable_encode {decode : Json → Option α} {encode : α → Json} {a : α}
    (h : decode (encode a) = some a) (hnull : encode a ≠ .null) :
    nullable decode (encode a) = some (some a) := by
  unfold nullable
  split
  · contradiction
  · rw [h]
    rfl

/-- A value is not mistaken for its absence, if it is never written as null. -/
theorem nullable_ofOption {decode : Json → Option α} {encode : α → Json} {o : Option α}
    (h : ∀ a ∈ o, decode (encode a) = some a) (hnull : ∀ a, encode a ≠ .null) :
    nullable decode (ofOption encode o) = some o := by
  cases o with
  | none => rfl
  | some a => exact nullable_encode (h a rfl) (hnull a)

/-- What is written of a value, taken for no more than something that the value is read from. -/
theorem exists_written {decode : Json → Option α} {encode : α → Json} {a : α}
    (h : decode (encode a) = some a) : ∃ j, encode a = j ∧ decode j = some a :=
  ⟨_, rfl, h⟩

theorem Atoms.strict_reads : strict.tagging = .strict ∧ strict.bool? = Json.bool? ∧
    strict.text? = string? ∧ strict.uint32? = Json.uint32? ∧ strict.uint64? = Json.uint64? ∧
    strict.number? = finite? ∧ strict.record? = Json.record? ∧
    ∀ {α : Type} (named : String → Option α), strict.choice named = Json.choice named :=
  ⟨rfl, rfl, rfl, rfl, rfl, rfl, rfl, fun _ => rfl⟩

/-- A member that is written only if it is there is read with its absence as the default. -/
theorem getD_nullable {β : Type} {r : Record β} {name : String} {json : β → Json}
    {decode : Json → Option α} {encode : α → Json} {o : Option α}
    (h : (r.members.lookup name).map json = o.map encode)
    (hdecode : ∀ a ∈ o, decode (encode a) = some a) (hnull : ∀ a, encode a ≠ .null) :
    r.getD name (fun b => nullable decode (json b)) none = some o := by
  unfold Record.getD
  cases hlookup : r.members.lookup name with
  | none =>
      rw [hlookup] at h
      rw [Option.map_eq_none_iff.mp h.symm]
  | some b =>
      rw [hlookup] at h
      obtain ⟨a, ha, hb⟩ := Option.map_eq_some_iff.mp h.symm
      simp only [← hb, nullable_encode (hdecode a ha) (hnull a), ha]

theorem nullable_string (o : Option String) :
    nullable string? (ofOption .string o) = some o :=
  nullable_ofOption (fun _ _ => rfl) fun _ => nofun

theorem listOf_map {decode : Json → Option α} {encode : α → Json} {xs : List α}
    (h : ∀ a ∈ xs, decode (encode a) = some a) :
    listOf decode (.array (xs.map encode)) = some xs := by
  simp only [listOf]
  induction xs with
  | nil => rfl
  | cons a xs ih =>
      obtain ⟨ha, hxs⟩ := List.forall_mem_cons.mp h
      simp [List.mapM_cons, ha, ih hxs]

end Json

namespace Record

variable {α : Type} {r : Record Json} {name : String} {decode : Json → Option α}
  {encode : α → Json}

/-- A member that is left out in its absence. -/
theorem optional_of_member {o : Option α} (h : r.members.lookup name = o.map encode)
    (hdecode : ∀ a ∈ o, decode (encode a) = some a) (hnull : ∀ a, encode a ≠ .null) :
    r.optional name decode = some o := by
  have hmember : (r.members.lookup name).map id = o.map encode := by rw [h, Option.map_id_apply]
  exact Json.getD_nullable hmember hdecode hnull

/-- A member that is null in its absence. -/
theorem optional_of_null {o : Option α} (h : r.members.lookup name = some (Json.ofOption encode o))
    (hdecode : ∀ a ∈ o, decode (encode a) = some a) (hnull : ∀ a, encode a ≠ .null) :
    r.optional name decode = some o :=
  getD_of_lookup h (Json.nullable_ofOption hdecode hnull)

end Record

/-! ## Tables -/

namespace Table

variable {α : Type}

theorem insertEntry_of_lt {key : String} {value : α} {es : List (String × α)}
    (h : ∀ e ∈ es, e.1 < key) : insertEntry key value es = es ++ [(key, value)] := by
  induction es with
  | nil => rfl
  | cons e es ih =>
      obtain ⟨he, hes⟩ := List.forall_mem_cons.mp h
      have hne : key ≠ e.1 := fun h => String.lt_irrefl _ (h ▸ he)
      rw [insertEntry, if_neg hne, if_neg (String.lt_asymm he), ih hes]
      rfl

/-- Entries in order are set one behind the other. -/
theorem entries_ofList {es : List (String × α)} (h : es.Pairwise fun a b => a.1 < b.1) :
    (ofList es).entries = es := by
  induction es using List.reverseRecOn with
  | nil => rfl
  | append_singleton es e ih =>
      obtain ⟨hes, _, hlt⟩ := List.pairwise_append.mp h
      have hbelow : ∀ e' ∈ es, e'.1 < e.1 := fun e' he' => hlt e' he' e List.mem_cons_self
      rw [ofList, List.foldl_concat]
      exact (congrArg (insertEntry e.1 e.2) (ih hes)).trans (insertEntry_of_lt hbelow)

theorem eq_of_entries {s t : Table α} (h : s.entries = t.entries) : s = t := by
  cases s
  cases t
  simpa using h

theorem ofJson?_toJson {decode : Json → Option α} {encode : α → Json} {t : Table α}
    (h : ∀ a ∈ t.values, decode (encode a) = some a) :
    ofJson? decode (t.toJson encode) = some t := by
  have hentries : (t.entries.map fun e => (e.1, encode e.2)).mapM
      (fun e => (decode e.2).map (e.1, ·)) = some t.entries := by
    simp only [values, List.forall_mem_map] at h
    generalize t.entries = es at h
    induction es with
    | nil => rfl
    | cons e es ih =>
        obtain ⟨he, hes⟩ := List.forall_mem_cons.mp h
        simp [List.mapM_cons, he, ih hes]
  rw [toJson, ofJson?, hentries]
  exact congrArg some (eq_of_entries (entries_ofList t.sorted))

end Table

end FacetedSearch
