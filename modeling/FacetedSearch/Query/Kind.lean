/-!
# Kinds of queries

The ten kinds of nodes that a query tree is built from.
-/

namespace FacetedSearch.Query

/-- The kind of a query node. -/
inductive Kind where
  | bool
  | textMatch
  | phrasePrefix
  | phrase
  | present
  | range
  | term
  | terms
  | nested
  | filtered
  deriving DecidableEq, Repr, Inhabited

namespace Kind

/-- All kinds, in their order. -/
def all : List Kind :=
  [bool, textMatch, phrasePrefix, phrase, present, range, term, terms, nested, filtered]

/-- Position of the kind in `all`. -/
def index : Kind → Nat
  | bool => 0
  | textMatch => 1
  | phrasePrefix => 2
  | phrase => 3
  | present => 4
  | range => 5
  | term => 6
  | terms => 7
  | nested => 8
  | filtered => 9

/-- The name of the kind, as it is written in JSON. -/
def name : Kind → String
  | bool => "bool"
  | textMatch => "match"
  | phrasePrefix => "match_phrase_prefix"
  | phrase => "phrase"
  | present => "exists"
  | range => "range"
  | term => "term"
  | terms => "terms"
  | nested => "nested"
  | filtered => "filtered"

/-- The kind of a name. -/
def ofName? (s : String) : Option Kind := all.find? fun k => k.name == s

theorem mem_all (k : Kind) : k ∈ all := by cases k <;> simp [all]

theorem ofName?_name (k : Kind) : ofName? k.name = some k := by cases k <;> rfl

theorem getElem?_all_index (k : Kind) : all[k.index]? = some k := by cases k <;> rfl

end Kind

end FacetedSearch.Query
