import FacetedSearch.Number.Binary64

/-!
# Shortest decimals

The fewest decimal digits that read back to a given binary number, the nearest of those, found by
exact arithmetic on naturals.
-/

namespace FacetedSearch

/-- The decimal `digits * 10 ^ exponent`. -/
structure Decimal where
  digits : Nat
  exponent : Int
  deriving DecidableEq, Repr

/-- Which of two equally near decimals is taken. -/
inductive Tie where
  | toEven
  | up
  deriving DecidableEq, Repr

namespace Decimal

/-- Compare `a * 10 ^ i` with `n * 2 ^ j` exactly. -/
def compareBinary (a : Nat) (i : Int) (n : Nat) (j : Int) : Ordering :=
  compare (a * 10 ^ i.toNat * 2 ^ (-j).toNat) (n * 2 ^ j.toNat * 10 ^ (-i).toNat)

/-- Whether `d` lies among the reals that round to the finite number `x`: between the midpoints to
its neighbours, the ends included if its significand is even. -/
def readsBack (x : Binary64) (d : Decimal) : Bool :=
  let below := 4 * x.significand - (if x.narrowBelow then 1 else 2)
  let above := 4 * x.significand + 2
  let ends := x.significand % 2 == 0
  let low := compareBinary d.digits d.exponent below (x.exponent - 2)
  let high := compareBinary d.digits d.exponent above (x.exponent - 2)
  (low == .gt || (ends && low == .eq)) && (high == .lt || (ends && high == .eq))

/-- Number of decimal digits of a natural. -/
def width (n : Nat) : Nat := (Nat.toDigits 10 n).length

/-- Least `k` with `|x| < 10 ^ k`, for a finite nonzero `x`. -/
def scale (x : Binary64) : Int :=
  let whole := x.significand * 2 ^ x.exponent.toNat / 2 ^ (-x.exponent).toNat
  if whole = 0 then
    1 - (width ((2 ^ (-x.exponent).toNat - 1) / x.significand) : Int)
  else width whole

/-- The decimal of at most `n` digits nearest to `x` among those that read back to it. -/
def withDigits? (x : Binary64) (tie : Tie) (n : Nat) : Option Decimal :=
  let grid := scale x - n
  let lower := x.significand * 2 ^ x.exponent.toNat * 10 ^ (-grid).toNat /
    (2 ^ (-x.exponent).toNat * 10 ^ grid.toNat)
  let down : Decimal := ⟨lower, grid⟩
  let up : Decimal := ⟨lower + 1, grid⟩
  match readsBack x down, readsBack x up with
  | false, false => none
  | true, false => some down
  | false, true => some up
  | true, true =>
    match compareBinary (2 * lower + 1) grid (2 * x.significand) x.exponent, tie with
    | .gt, _ => some down
    | .lt, _ => some up
    | .eq, .up => some up
    | .eq, .toEven => some (if lower % 2 = 0 then down else up)

/-- Drop trailing zeros of the digits, at most `fuel` of them. -/
def strip : Nat → Decimal → Decimal
  | 0, d => d
  | fuel + 1, d =>
    if d.digits % 10 = 0 ∧ d.digits ≠ 0 then strip fuel ⟨d.digits / 10, d.exponent + 1⟩ else d

/-- The exact decimal value of a finite number. -/
def exact (x : Binary64) : Decimal :=
  ⟨x.significand * 2 ^ x.exponent.toNat * 5 ^ (-x.exponent).toNat, -((-x.exponent).toNat : Int)⟩

/-- The shortest decimal that reads back to the finite number `x`, its sign left aside; the
nearest one if there are several. -/
def shortest (tie : Tie) (x : Binary64) : Decimal :=
  if x.magnitude = 0 then ⟨0, 0⟩ else
    let d := ((List.range 17).findSome? fun n => withDigits? x tie (n + 1)).getD (exact x)
    strip (width d.digits) d

end Decimal

end FacetedSearch
