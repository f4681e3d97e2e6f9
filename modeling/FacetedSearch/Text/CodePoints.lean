/-!
# Tables of code points

How properties of characters are kept as tables: closed ranges of code points for a class, and runs
of code points at equal steps that a mapping moves by one distance.
-/

namespace FacetedSearch.Text

/-- Whether a character is in one of some closed ranges of code points. -/
def isWithin (ranges : List (Nat × Nat)) (c : Char) : Bool :=
  ranges.any fun (first, last) => first ≤ c.toNat && c.toNat ≤ last

/-- Code points from the first to the last by steps, each of which is moved by a distance. -/
structure Run where
  first : Nat
  last : Nat
  step : Nat
  distance : Int

namespace Run

def contains (r : Run) (n : Nat) : Bool :=
  r.first ≤ n && n ≤ r.last && (n - r.first) % r.step == 0

/-- Where the first run with a character moves it. -/
def move? (runs : List Run) (c : Char) : Option Char :=
  (runs.find? (·.contains c.toNat)).map fun r => Char.ofNat ((c.toNat : Int) + r.distance).toNat

end Run

end FacetedSearch.Text
