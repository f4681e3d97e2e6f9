/-!
# Binary64

A number of the 64-bit binary interchange format, kept as its bits. Everything the library needs
of such a number (its exact value, equality, the total order, rounding a quotient to the nearest)
is computed on naturals and integers, so that it can be reasoned about.
-/

namespace FacetedSearch

-- Powers of naturals and of integers are those of the core library, whatever else is imported.
attribute [instance (20000), default_instance 20000] instPowNat

/-- A number of the 64-bit binary format, as its bits. -/
structure Binary64 where
  bits : UInt64
  deriving DecidableEq, Repr, Inhabited

namespace Binary64

/-- The sign bit. -/
def negative (x : Binary64) : Bool := decide (2 ^ 63 ≤ x.bits.toNat)

/-- The bits below the sign: exponent and fraction, which order numbers of one sign. -/
def magnitude (x : Binary64) : Nat := x.bits.toNat % 2 ^ 63

/-- The magnitude of the infinities; the magnitudes above it are the NaNs. -/
def infinite : Nat := 0x7FF * 2 ^ 52

/-- Neither an infinity nor a NaN. -/
def isFinite (x : Binary64) : Bool := decide (x.magnitude < infinite)

/-- Not a number. -/
def isNaN (x : Binary64) : Bool := decide (infinite < x.magnitude)

/-- Assemble a number from its sign and its magnitude. -/
def ofMagnitude (negative : Bool) (magnitude : Nat) : Binary64 :=
  ⟨UInt64.ofNat (if negative then 2 ^ 63 + magnitude else magnitude)⟩

/-- Positive zero. -/
def zero : Binary64 := ⟨0⟩

/-- One. -/
def one : Binary64 := ⟨0x3FF0000000000000⟩

/-- The same number with the other sign. -/
def neg (x : Binary64) : Binary64 := ofMagnitude (!x.negative) x.magnitude

/-! ## Exact value: `significand * 2 ^ exponent` -/

/-- The integer significand of a finite number. -/
def significand (x : Binary64) : Nat :=
  if x.magnitude < 2 ^ 52 then x.magnitude else x.magnitude % 2 ^ 52 + 2 ^ 52

/-- The binary exponent that goes with `significand`. -/
def exponent (x : Binary64) : Int :=
  if x.magnitude < 2 ^ 52 then -1074 else (x.magnitude / 2 ^ 52 : Nat) - 1075

/-- Whether the gap to the next smaller magnitude is half the gap to the next larger one. -/
def narrowBelow (x : Binary64) : Bool :=
  decide (x.magnitude % 2 ^ 52 = 0 ∧ 2 ^ 53 ≤ x.magnitude)

/-! ## Comparison -/

/-- Numeric equality: a NaN equals nothing, and the two zeros are equal. -/
def eqv (x y : Binary64) : Bool :=
  !x.isNaN && !y.isNaN && (x.bits == y.bits || (x.magnitude == 0 && y.magnitude == 0))

/-- Greater than zero; no NaN is. -/
def isPositive (x : Binary64) : Bool := !x.isNaN && !x.negative && decide (0 < x.magnitude)

/-- Place of the number in the total order: negative NaNs first, `-0.0` before `0.0`,
positive NaNs last. -/
def orderKey (x : Binary64) : Int :=
  if x.negative then -(x.magnitude : Int) - 1 else x.magnitude

/-- The total order on numbers. -/
def totalCompare (x y : Binary64) : Ordering := compare x.orderKey y.orderKey

/-- The number itself if it is above one, else one. -/
def raisedToOne (x : Binary64) : Binary64 :=
  if x.isNaN then one else if x.orderKey < one.orderKey then one else x

/-! ## Rounding -/

/-- `num / den` rounded to the nearest integer, a tie to the even one. -/
def roundDiv (num den : Nat) : Nat :=
  let q := num / den
  let r := num % den
  if 2 * r < den then q else if den < 2 * r then q + 1 else q + q % 2

/-- Largest `e` with `2 ^ e ≤ num / den`. -/
def log2Ratio (num den : Nat) : Int :=
  let e : Int := (num.log2 : Int) - den.log2
  if den * 2 ^ e.toNat ≤ num * 2 ^ (-e).toNat then e else e - 1

/-- The magnitude nearest to `num / den`, a tie to the even one; what is too large becomes
infinite. -/
def nearestMagnitude (num den : Nat) : Nat :=
  if num = 0 then 0 else
    let e := max (log2Ratio num den - 52) (-1074)
    let m := roundDiv (num * 2 ^ (-e).toNat) (den * 2 ^ e.toNat)
    min ((e + 1074).toNat * 2 ^ 52 + m) infinite

/-- The number nearest to the quotient of two naturals, with a sign. -/
def ofRatio (negative : Bool) (num den : Nat) : Binary64 :=
  ofMagnitude negative (nearestMagnitude num den)

/-- The number nearest to an integer. -/
def ofInt (n : Int) : Binary64 := ofRatio (decide (n < 0)) n.natAbs 1

/-- Product of two finite numbers, rounded once. -/
def mul (x y : Binary64) : Binary64 :=
  let e := x.exponent + y.exponent
  ofRatio (x.negative != y.negative)
    (x.significand * y.significand * 2 ^ e.toNat) (2 ^ (-e).toNat)

/-- Quotient of a finite number and a finite nonzero one, rounded once. -/
def div (x y : Binary64) : Binary64 :=
  let e := x.exponent - y.exponent
  ofRatio (x.negative != y.negative)
    (x.significand * 2 ^ e.toNat) (y.significand * 2 ^ (-e).toNat)

end Binary64

end FacetedSearch
