import FacetedSearch.Json.Record
import FacetedSearch.Number.Layout

/-!
# Scalars

A single value that a field is compared with.
-/

namespace FacetedSearch

/-- A value compared with a field. -/
inductive Scalar where
  | bool (b : Bool)
  | integer (n : Int64)
  | float (x : Binary64)
  | text (s : String)
  deriving DecidableEq, Repr

namespace Scalar

/-- Equality of values: of one kind only, and floats as numbers. -/
def same : Scalar → Scalar → Bool
  | bool a, bool b => a == b
  | integer m, integer n => m == n
  | float x, float y => x.eqv y
  | text s, text t => s == t
  | _, _ => false

/-- The values without those that equal an earlier one. -/
def distinct (values : List Scalar) : List Scalar :=
  values.foldl (fun kept v => if kept.any (same v) then kept else kept ++ [v]) []

/-- Numbers are shown positionally, whole ones without a fraction. -/
def numbers : Layout where
  positional _ := true
  fraction := false
  tie := .up

def display : Scalar → String
  | bool true => "true"
  | bool false => "false"
  | integer n => toString n.toInt
  | float x => numbers.render x
  | text s => s

/-- The name of the value's kind. -/
def kindName : Scalar → String
  | bool _ => "bool"
  | integer _ => "integer"
  | float _ => "float"
  | text _ => "text"

def toJson : Scalar → Json
  | bool b => .bool b
  | integer n => .int n.toInt
  | float x => .float x
  | text s => .string s

/-- The scalar of any atom. An integer that fits 64 signed bits stays one; any other number becomes
a float. -/
def ofAtom? : Json → Option Scalar
  | .bool b => some (bool b)
  | .int n =>
    if -2 ^ 63 ≤ n ∧ n < 2 ^ 63 then some (integer (Int64.ofInt n))
    else some (float (Binary64.ofInt n))
  | .float x => some (float x)
  | .string s => some (text s)
  | _ => none

/-- The scalar of an atom, which is finite if it is a number. -/
def ofJson? (j : Json) : Option Scalar := if j.isFinite then ofAtom? j else none

end Scalar

end FacetedSearch
