import FacetedSearch.Number.Binary64

/-!
# Reading decimals

A decimal numeral is read in two steps: its leading digits, as far as they fit 64 bits, become the
nearest binary number, and that is then multiplied or divided by the nearest power of ten. Each
step rounds once.
-/

namespace FacetedSearch.Binary64

/-- The nearest number to `10 ^ n`. -/
def powerOfTen (n : Nat) : Binary64 := ofRatio false (10 ^ n) 1

/-- Divide by `10 ^ n`, in steps of at most 308 powers; `fuel` bounds the steps. -/
def scaleDown : Nat → Binary64 → Nat → Binary64
  | 0, x, _ => x
  | fuel + 1, x, n =>
    if n ≤ 308 then x.div (powerOfTen n)
    else if x.magnitude = 0 then x
    else scaleDown fuel (x.div (powerOfTen 308)) (n - 308)

/-- The number `significand * 10 ^ exponent`; nothing if it is too large. -/
def scaled? (significand : Nat) (exponent : Int) : Option Binary64 :=
  let x := ofRatio false significand 1
  if 0 ≤ exponent then
    if exponent ≤ 308 then
      let y := x.mul (powerOfTen exponent.toNat)
      if y.isFinite then some y else none
    else if x.magnitude = 0 then some x else none
  else some (scaleDown 5 x (-exponent).toNat)

end FacetedSearch.Binary64
