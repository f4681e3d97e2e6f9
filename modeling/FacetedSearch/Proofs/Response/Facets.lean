import FacetedSearch.Proofs.Outcome
import FacetedSearch.Request.Response

/-!
# Facets of responses

What the backend says under the name of a facet is read exactly if it leads to buckets with keys and
counts, and then the result reports those buckets.
-/

namespace FacetedSearch

open Outcome

namespace Json

variable {j : Json}

theorem uint64?_eq_some {n : UInt64} : j.uint64? = some n ↔ j = .ofUInt64 n := by
  cases j with
  | int m =>
      simp only [uint64?, ofUInt64, int.injEq]
      constructor
      · intro h
        split at h
        · rename_i hm
          obtain rfl := Option.some.inj h
          have hlt : m.toNat < UInt64.size := by
            rw [UInt64.size]
            omega
          rw [UInt64.toNat_ofNat_of_lt' hlt]
          omega
        · cases h
      · rintro rfl
        have hn := n.toNat_lt
        rw [if_pos (by omega)]
        simp
  | _ => simp [uint64?, ofUInt64]

theorem bind_uint64?_eq_some {o : Option Json} {n : UInt64} :
    o.bind uint64? = some n ↔ o = some (.ofUInt64 n) := by
  simp only [Option.bind_eq_some_iff, uint64?_eq_some, exists_eq_right]

theorem bind_array?_eq_some {o : Option Json} {js : List Json} :
    o.bind array? = some js ↔ o = some (.array js) := by
  cases o with
  | none => simp
  | some j => cases j <;> simp [array?]

/-- A text or a number as text, the number as it is written in JSON. -/
inductive TextOf : Json → String → Prop
  | string (s : String) : TextOf (.string s) s
  | int (n : Int) : TextOf (.int n) (Json.int n).compact
  | float (x : Binary64) : TextOf (.float x) (Json.float x).compact

/-! ## Buckets -/

/-- The key of a bucket as text. The text that the backend gives for it comes first. -/
inductive HasKey (j : Json) : String → Prop
  | asString {s} : j.get? "key_as_string" = some (.string s) → HasKey j s
  | plain {v s} : (∀ t, j.get? "key_as_string" ≠ some (.string t)) → j.get? "key" = some v →
      v.TextOf s → HasKey j s
  | bool {b} : (∀ t, j.get? "key_as_string" ≠ some (.string t)) → j.get? "key" = some (.bool b) →
      HasKey j (Json.bool b).compact

def HasCount (j : Json) (n : UInt64) : Prop := j.get? "doc_count" = some (.ofUInt64 n)

def IsBucket (j : Json) : Prop := (∃ s, j.HasKey s) ∧ ∃ n, j.HasCount n

theorem valueOf_eq_ok {facet s : String} : FacetOption.valueOf facet j = .ok s ↔ j.HasKey s := by
  constructor
  · intro h
    simp only [FacetOption.valueOf] at h
    split at h
    · rename_i hs
      cases h
      exact .asString hs
    · rename_i hk hs
      cases h
      exact .plain hs hk (.string _)
    · rename_i hk hs
      cases h
      exact .plain hs hk (.int _)
    · rename_i hk hs
      cases h
      exact .plain hs hk (.float _)
    · rename_i hk hs
      cases h
      exact .bool hs hk
    · rename_i hk hs
      cases h
      exact .bool hs hk
    · cases h
  · intro h
    cases h with
    | asString hs => simp only [FacetOption.valueOf, hs]
    | plain hs hk hv => cases hv <;> simp only [FacetOption.valueOf, hk, compact]
    | @bool b hs hk => cases b <;> simp only [FacetOption.valueOf, hk, compact]

end Json

/-- An option that reports a bucket, under the label for its value if there is one. -/
structure FacetOption.Reports (o : FacetOption) (label? : String → Option String) (j : Json) :
    Prop where
  value : j.HasKey o.value
  count : j.HasCount o.count
  label : o.label = (label? o.value).getD o.value

namespace FacetOption

variable {facet : String} {label? : String → Option String} {j : Json}

theorem ofJson_eq_ok {o : FacetOption} :
    ofJson facet label? j = .ok o ↔ o.Reports label? j := by
  simp only [ofJson, bind_eq_ok, Json.valueOf_eq_ok]
  constructor
  · rintro ⟨value, hvalue, h⟩
    split at h
    · rename_i count hcount
      cases h
      exact ⟨hvalue, Json.bind_uint64?_eq_some.mp hcount, rfl⟩
    · cases h
  · rintro ⟨hvalue, hcount, hlabel⟩
    refine ⟨o.value, hvalue, ?_⟩
    rw [Json.bind_uint64?_eq_some.mpr hcount]
    simp only [← hlabel]

theorem exists_ofJson : (∃ o, ofJson facet label? j = .ok o) ↔ j.IsBucket := by
  simp only [ofJson_eq_ok]
  constructor
  · rintro ⟨o, h⟩
    exact ⟨⟨o.value, h.value⟩, o.count, h.count⟩
  · rintro ⟨⟨value, hvalue⟩, count, hcount⟩
    exact ⟨{ label := (label? value).getD value, value, count }, hvalue, hcount, rfl⟩

end FacetOption

/-! ## The way to the buckets -/

namespace Json

/-- The entries of a name lead from a value to the first one that has buckets. -/
inductive Leads (name : String) : Json → Json → Prop
  | here {j} : j.get? "buckets" ≠ none → Leads name j j
  | step {j next inner} : j.get? "buckets" = none → j.get? name = some next →
      Leads name next inner → Leads name j inner

def HasBuckets (j : Json) : Prop :=
  ∃ elements, j.get? "buckets" = some (.array elements) ∧ ∀ e ∈ elements, e.IsBucket

theorem HasBuckets.get?_ne_none {j : Json} (h : j.HasBuckets) : j.get? "buckets" ≠ none := by
  obtain ⟨elements, helements, _⟩ := h
  rw [helements]
  exact Option.some_ne_none _

def LeadsToBuckets (j : Json) (name : String) : Prop :=
  ∃ payload, Leads name j payload ∧ payload.HasBuckets

end Json

namespace FacetResult

variable {name : String} {inner : Json}

theorem unwrapMember?_eq (members : Json.Members) :
    unwrapMember? name members = (members.lookup name).bind (unwrap? name) := by
  induction members with
  | nil => rfl
  | cons m members ih =>
      obtain ⟨k, j⟩ := m
      simp only [unwrapMember?, ih, Table.lookup_cons, eq_comm (a := name)]
      split <;> rfl

mutual

theorem leads_of_unwrap? : (j : Json) → unwrap? name j = some inner → Json.Leads name j inner
  | .object members, h => by
      simp only [unwrap?] at h
      split at h
      · rename_i hbuckets
        cases h
        exact .here (Option.isSome_iff_ne_none.mp hbuckets)
      · rename_i hbuckets
        obtain ⟨next, hnext, hleads⟩ := leads_of_unwrapMember? members h
        exact .step (Option.not_isSome_iff_eq_none.mp hbuckets) hnext hleads
  | .null, h | .bool _, h | .int _, h | .float _, h | .string _, h | .array _, h => by
      simp [unwrap?] at h

theorem leads_of_unwrapMember? : (members : List (String × Json)) →
    unwrapMember? name members = some inner →
    ∃ next, members.lookup name = some next ∧ Json.Leads name next inner
  | [], h => by simp [unwrapMember?] at h
  | (k, j) :: members, h => by
      simp only [unwrapMember?] at h
      simp only [Table.lookup_cons, eq_comm (a := name)]
      split at h
      · rename_i hk
        rw [if_pos hk]
        exact ⟨j, rfl, leads_of_unwrap? j h⟩
      · rename_i hk
        rw [if_neg hk]
        exact leads_of_unwrapMember? members h

end

theorem unwrap?_eq_some {j : Json} : unwrap? name j = some inner ↔ Json.Leads name j inner := by
  constructor
  · exact leads_of_unwrap? j
  · intro h
    induction h with
    | @here j hbuckets =>
        cases j with
        | object members =>
            have hsome : (members.lookup "buckets").isSome = true :=
              Option.isSome_iff_ne_none.mpr hbuckets
            simp only [unwrap?, if_pos hsome]
        | _ => exact absurd rfl hbuckets
    | @step j next inner hbuckets hnext _ ih =>
        cases j with
        | object members =>
            have hnone : members.lookup "buckets" = none := hbuckets
            have hsome : members.lookup name = some next := hnext
            simp [unwrap?, unwrapMember?_eq, hnone, hsome, ih]
        | _ => cases hnext

/-! ## Results -/

/-- A result that reports the buckets of a payload, for the facet of the field that goes by the
bucket's name. -/
structure Reports (r : FacetResult) (b : Bucket) (c : Container) (payload : Json) : Prop where
  field : r.field = b.name
  known : ∀ f, c.field? b.name = some f → r.label = f.title ∧ r.type = f.type.facetType
  unknown : c.field? b.name = none → r.label = b.name ∧ r.type = .checkbox
  count : r.count = r.options.length
  hasMore : r.hasMore = true ↔
    ∃ n, payload.get? "sum_other_doc_count" = some (.ofUInt64 n) ∧ 0 < n
  options : ∃ elements, payload.get? "buckets" = some (.array elements) ∧
    List.Forall₂ (fun e o => FacetOption.Reports o (labelOf? b c) e) elements r.options

variable {b : Bucket} {c : Container} {j payload : Json} {elements : List Json}

theorem reports_report {options : List FacetOption}
    (helements : payload.get? "buckets" = some (.array elements))
    (hoptions : elements.mapM (FacetOption.ofJson b.name (labelOf? b c)) = .ok options) :
    (report b c payload options).Reports b c payload where
  field := rfl
  known f hf := by simp only [report, hf, and_self]
  unknown hnone := by simp only [report, hnone, and_self]
  count := rfl
  hasMore := by
    simp only [report, ← Json.bind_uint64?_eq_some]
    cases (payload.get? "sum_other_doc_count").bind Json.uint64? <;> simp
  options := by
    refine ⟨elements, helements, ?_⟩
    exact (mapM_eq_ok.mp hoptions).imp fun _ _ => FacetOption.ofJson_eq_ok.mp

theorem ofJson_eq (h : Json.Leads b.name j payload)
    (helements : payload.get? "buckets" = some (.array elements)) :
    ofJson b c j = (elements.mapM (FacetOption.ofJson b.name (labelOf? b c))).map
      (report b c payload) := by
  simp only [ofJson, unwrap?_eq_some.mpr h, Json.bind_array?_eq_some.mpr helements]

theorem ofJson_of_no_array (h : Json.Leads b.name j payload)
    (hnone : ∀ elements, payload.get? "buckets" ≠ some (.array elements)) :
    ofJson b c j = .error (.bucketsNotArray b.name) := by
  have hbind : (payload.get? "buckets").bind Json.array? = none := by
    rw [Option.eq_none_iff_forall_ne_some]
    intro elements he
    exact hnone elements (Json.bind_array?_eq_some.mp he)
  simp only [ofJson, unwrap?_eq_some.mpr h, hbind]

theorem exists_payload {r : FacetResult} (h : ofJson b c j = .ok r) :
    ∃ payload elements, Json.Leads b.name j payload ∧ payload.get? "buckets" = some (.array elements) ∧
      ∃ options, elements.mapM (FacetOption.ofJson b.name (labelOf? b c)) = .ok options ∧
        report b c payload options = r := by
  simp only [ofJson] at h
  split at h
  · cases h
  · rename_i payload hpayload
    split at h
    · cases h
    · rename_i elements helements
      exact ⟨payload, elements, unwrap?_eq_some.mp hpayload,
        Json.bind_array?_eq_some.mp helements, map_eq_ok.mp h⟩

theorem reports_of_ofJson {r : FacetResult} (h : ofJson b c j = .ok r) :
    ∃ payload, Json.Leads b.name j payload ∧ r.Reports b c payload := by
  obtain ⟨payload, elements, hleads, helements, options, hoptions, rfl⟩ := exists_payload h
  exact ⟨payload, hleads, reports_report helements hoptions⟩

theorem exists_options (h : ∀ e ∈ elements, e.IsBucket) :
    ∃ options, elements.mapM (FacetOption.ofJson b.name (labelOf? b c)) = .ok options := by
  rw [exists_mapM_eq_ok]
  exact fun e he => FacetOption.exists_ofJson.mpr (h e he)

theorem exists_reports (h : Json.Leads b.name j payload) (hbuckets : payload.HasBuckets) :
    ∃ r, ofJson b c j = .ok r ∧ r.Reports b c payload := by
  obtain ⟨elements, helements, hall⟩ := hbuckets
  obtain ⟨options, hoptions⟩ := exists_options (b := b) (c := c) hall
  refine ⟨report b c payload options, ?_, reports_report helements hoptions⟩
  rw [ofJson_eq h helements, hoptions]
  rfl

theorem exists_ofJson : (∃ r, ofJson b c j = .ok r) ↔ j.LeadsToBuckets b.name := by
  constructor
  · rintro ⟨r, h⟩
    obtain ⟨payload, elements, hleads, helements, options, hoptions, _⟩ := exists_payload h
    refine ⟨payload, hleads, elements, helements, fun e he => ?_⟩
    exact FacetOption.exists_ofJson.mp (exists_mapM_eq_ok.mp ⟨options, hoptions⟩ e he)
  · rintro ⟨payload, hleads, hbuckets⟩
    obtain ⟨r, h, _⟩ := exists_reports (c := c) hleads hbuckets
    exact ⟨r, h⟩

end FacetResult

end FacetedSearch
