import FacetedSearch.Proofs.Criterion.Translation
import FacetedSearch.Proofs.Query.Meaning
import FacetedSearch.Proofs.Query.Scalar
import FacetedSearch.Proofs.Request.Session

/-!
# What criteria mean

A reading of tests gives criteria a meaning on their own, before any query is made of them. The query
of a criterion holds for the same documents as the criterion.
-/

namespace FacetedSearch

open Outcome

universe u

variable {D : Type u}

/-- What it means for a document that a field passes a test. Equal values are not told apart. -/
structure Reading (D : Type u) where
  equals : String → Scalar → D → Prop
  within : String → Bounds → D → Prop
  contains : String → String → D → Prop
  present : String → D → Prop
  equals_congr : ∀ {code v w d}, v.same w = true → (equals code v d ↔ equals code w d)

/-! ## Criteria -/

/-- A test holds for the field of a code. A list of values is a choice of one of them. -/
def Test.Holds (R : Reading D) (code : String) (d : D) : Test → Prop
  | equal eq oneOf => (∀ v ∈ eq, R.equals code v d) ∧ ∀ vs ∈ oneOf, ∃ v ∈ vs, R.equals code v d
  | range bounds => R.within code bounds d
  | textMatch text => R.contains code text d
  | present => R.present code d

namespace Criterion

variable (R : Reading D) (c : Container) (d : D)

mutual

/-- A criterion holds: a test for the field that its reference names, and a combination if all of
`must` hold, one of `should` if there is any, and none of `mustNot`. -/
def Holds : Criterion → Prop
  | leaf reference test => ∃ f, c.Names reference f ∧ test.Holds R f.code d
  | bool must should mustNot =>
    AllHold must ∧ (should ≠ [] → SomeHolds should) ∧ ¬ SomeHolds mustNot

def AllHold : List Criterion → Prop
  | [] => True
  | k :: rest => Holds k ∧ AllHold rest

def SomeHolds : List Criterion → Prop
  | [] => False
  | k :: rest => Holds k ∨ SomeHolds rest

end

end Criterion

/-! ## Queries -/

/-- A meaning of queries that goes with a reading of tests: a list of values is a choice, a nested
query means the query in it, and a combination of which one `should` clause has to hold means that
all of `must` hold, one of `should` if there is any, and none of `mustNot`. -/
structure Reading.Extends (R : Reading D) (holds : Query → D → Prop) : Prop where
  term : ∀ {code v l d}, holds (.leaf code (.term v) l) d ↔ R.equals code v d
  terms : ∀ {code vs l d}, holds (.leaf code (.terms vs) l) d ↔ ∃ v ∈ vs, R.equals code v d
  range : ∀ {code b l d}, holds (.leaf code (.range b) l) d ↔ R.within code b d
  textMatch : ∀ {code text l d},
    holds (.leaf code (.textMatch text none none) l) d ↔ R.contains code text d
  present : ∀ {code l d}, holds (.leaf code .present l) d ↔ R.present code d
  nested : ∀ {path q mode l d}, holds (.nested path q mode l) d ↔ holds q d
  bool : ∀ {must should mustNot l d}, holds (.bool must should mustNot "1" l) d ↔
    (∀ q ∈ must, holds q d) ∧ (should ≠ [] → ∃ q ∈ should, holds q d) ∧ ¬ ∃ q ∈ mustNot, holds q d

/-! ## The query of a criterion -/

variable {R : Reading D} {holds : Query → D → Prop} {c : Container} {d : D}

/-- Dropping repeated values changes no choice. -/
theorem Reading.equals_distinct {code : String} {vs : List Scalar} :
    (∃ v ∈ Scalar.distinct vs, R.equals code v d) ↔ ∃ v ∈ vs, R.equals code v d := by
  constructor
  · rintro ⟨v, hv, h⟩
    exact ⟨v, Scalar.mem_of_mem_distinct hv, h⟩
  · rintro ⟨v, hv, h⟩
    obtain ⟨w, hw, rfl | hsame⟩ := Scalar.exists_mem_distinct hv
    · exact ⟨w, hw, h⟩
    · exact ⟨w, hw, (R.equals_congr hsame).mp h⟩

namespace Reading.Extends

theorem wrapNested (hR : R.Extends holds) {f : Field} {q r : Query} {mode : ScoreMode}
    (h : f.wrapNested q mode = .ok r) : holds r d ↔ holds q d := by
  rcases Field.wrapNested_eq_ok h with ⟨_, rfl⟩ | ⟨path, _, _, rfl⟩
  · rfl
  · exact hR.nested

theorem condition (hR : R.Extends holds) {t : Test} {reference code : String} {l : Label}
    {cond : Condition} (h : t.condition? reference = .ok cond) :
    holds (.leaf code cond l) d ↔ t.Holds R code d := by
  cases t with
  | equal eq oneOf =>
      cases eq with
      | none =>
          cases oneOf with
          | none => cases h
          | some vs =>
              cases h
              rw [hR.terms, R.equals_distinct]
              simp [Test.Holds]
      | some v =>
          cases oneOf with
          | none =>
              cases h
              rw [hR.term]
              simp [Test.Holds]
          | some vs => cases h
  | range bounds => cases h; exact hR.range
  | textMatch text => cases h; exact hR.textMatch
  | present => cases h; exact hR.present

theorem leaf (hR : R.Extends holds) {reference : String} {test : Test} {q : Query}
    (h : Criterion.toQuery c (.leaf reference test) = .ok q) :
    holds q d ↔ (Criterion.leaf reference test).Holds R c d := by
  obtain ⟨f, hf, _, hq⟩ := Criterion.toQuery_leaf_eq_ok.mp h
  obtain ⟨cond, hcond, _, _, hw⟩ := Test.query?_eq_ok.mp hq
  rw [hR.wrapNested hw, hR.condition hcond, Criterion.Holds]
  constructor
  · intro ht
    exact ⟨f, Container.field?_eq_some.mp hf, ht⟩
  · rintro ⟨g, hg, ht⟩
    rw [← Container.field?_eq_some, hf] at hg
    cases hg
    exact ht

mutual

theorem toQuery (hR : R.Extends holds) :
    (k : Criterion) → ∀ {q}, k.toQuery c = .ok q → (holds q d ↔ k.Holds R c d)
  | .leaf _ _, _, h => hR.leaf h
  | .bool must should mustNot, _, h => by
      obtain ⟨ms, ss, ns, hm, hs, hn, rfl⟩ := Criterion.toQuery_bool_eq_ok h
      obtain ⟨hmust, _⟩ := toQueries hR must hm
      obtain ⟨_, hshould⟩ := toQueries hR should hs
      obtain ⟨_, hmustNot⟩ := toQueries hR mustNot hn
      rw [Query.defaultMinimumShouldMatch, hR.bool, Criterion.Holds, hmust, hshould, hmustNot,
        ne_eq, ne_eq, Criterion.toQueries_eq_nil hs]

theorem toQueries (hR : R.Extends holds) :
    (ks : List Criterion) → ∀ {qs}, Criterion.toQueries c ks = .ok qs →
      ((∀ q ∈ qs, holds q d) ↔ Criterion.AllHold R c d ks) ∧
      ((∃ q ∈ qs, holds q d) ↔ Criterion.SomeHolds R c d ks)
  | [], _, h => by
      simp only [Criterion.toQueries] at h
      cases h
      simp [Criterion.AllHold, Criterion.SomeHolds]
  | k :: ks, _, h => by
      simp only [Criterion.toQueries, bind_eq_ok] at h
      obtain ⟨q, hq, qs, hqs, h⟩ := h
      cases h
      obtain ⟨hall, hsome⟩ := toQueries hR ks hqs
      rw [List.forall_mem_cons, List.exists_mem_cons_iff, Criterion.AllHold, Criterion.SomeHolds,
        toQuery hR k hq, hall, hsome]
      exact ⟨Iff.rfl, Iff.rfl⟩

end

end Reading.Extends

/-- The meaning of leaves that a reading of tests gives. A phrase is looked for like other text. -/
def Reading.test (R : Reading D) (code : String) : Condition → D → Prop
  | .textMatch text _ _ | .phrasePrefix text _ | .phrase text => R.contains code text
  | .present => R.present code
  | .range bounds => R.within code bounds
  | .term v => R.equals code v
  | .terms vs => fun d => ∃ v ∈ vs, R.equals code v d

theorem Reading.extends_holdsBy (R : Reading D) : R.Extends fun q d => q.HoldsBy R.test d where
  term := by simp [Query.HoldsBy, Reading.test]
  terms := by simp [Query.HoldsBy, Reading.test]
  range := by simp [Query.HoldsBy, Reading.test]
  textMatch := by simp [Query.HoldsBy, Reading.test]
  present := by simp [Query.HoldsBy, Reading.test]
  nested := by simp [Query.HoldsBy]
  bool := by
    intro must should mustNot l d
    rw [Query.HoldsBy, Query.allHoldBy_iff, Query.someHoldsBy_iff, Query.someHoldsBy_iff,
      or_iff_not_imp_left]

/-- Each reading of tests extends to queries, and however it does, the query of a criterion holds
for a document exactly if the criterion does. -/
theorem Criterion.query_keeps_meaning (R : Reading D) {k : Criterion} {q : Query}
    (h : k.toQuery c = .ok q) : (∃ holds, R.Extends holds) ∧
      ∀ holds, R.Extends holds → ∀ d, (holds q d ↔ k.Holds R c d) :=
  ⟨⟨_, R.extends_holdsBy⟩, fun _ hR _ => hR.toQuery k h⟩

/-- Documents as the values under each code, of which some value has to pass the test. A range is one
of integers. -/
def Reading.ofValues : Reading (String → List Scalar) where
  equals code v d := ∃ u ∈ d code, u.same v = true
  within code b d := ∃ n, .integer n ∈ d code ∧
    (∀ m, b.gt = some (.integer m) → m < n) ∧ (∀ m, b.gte = some (.integer m) → m ≤ n) ∧
    (∀ m, b.lt = some (.integer m) → n < m) ∧ ∀ m, b.lte = some (.integer m) → n ≤ m
  contains code text d := ∃ s, .text s ∈ d code ∧ text.toList <:+: s.toList
  present code d := d code ≠ []
  equals_congr h := by simp only [Scalar.same_congr h]

namespace Shop

/-- Something blue or red, and not dear. -/
def cheap : Criterion :=
  .bool
    [.bool [] [.leaf "color" (.equal none (some [.text "blue", .text "red", .text "blue"])),
      .leaf "color" (.textMatch "violet")] []]
    []
    [.leaf "price__price" (.range { gt := some (.integer 100) })]

/-- A red product of a price. -/
def redAt (n : Int64) : String → List Scalar
  | "color" => [.text "red"]
  | "price.price" => [.integer n]
  | _ => []

/-- The criterion that is translated finds a red product for its color unless it is dear. -/
theorem cheap_found : ∃ k q, (config.builder.resolve "fr" "product").1 = .ok k ∧
    cheap.toQuery k = .ok q ∧
    q.HoldsBy Reading.ofValues.test (redAt 5) ∧ ¬ q.HoldsBy Reading.ofValues.test (redAt 500) := by
  obtain ⟨k, hk, color, price, hcolor, hprice, hcolors, hprices, q, hq⟩ : ∃ k,
      (config.builder.resolve "fr" "product").1 = .ok k ∧ ∃ color price,
      k.field? "color" = some color ∧ k.field? "price__price" = some price ∧
      color.code = "color" ∧ price.code = "price.price" ∧ ∃ q, cheap.toQuery k = .ok q :=
    ⟨_, rfl, _, _, rfl, rfl, rfl, rfl, _, rfl⟩
  have h := (Criterion.query_keeps_meaning Reading.ofValues hq).2 _ (Reading.extends_holdsBy _)
  have hholds : ∀ n : Int64, cheap.Holds Reading.ofValues k (redAt n) ↔ ¬ 100 < n := by
    intro n
    simp only [cheap, Criterion.Holds, Criterion.AllHold, Criterion.SomeHolds, Test.Holds,
      ← Container.field?_eq_some, hcolor, hprice, Option.some.injEq, exists_eq_left', hcolors,
      hprices, Reading.ofValues, redAt]
    simp [Scalar.same]
  refine ⟨k, q, hk, hq, (h _).mpr ((hholds 5).mpr ?_), fun hdear => ?_⟩
  · decide
  · exact (hholds 500).mp ((h _).mp hdear) (by decide)

end Shop

end FacetedSearch
