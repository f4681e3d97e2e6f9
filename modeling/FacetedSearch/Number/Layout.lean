import FacetedSearch.Number.Shortest

/-!
# Layout of decimals

How the digits of a number are laid out as text: a record of the format's decisions and the one
function that follows it.
-/

namespace FacetedSearch

/-- The decisions of a number format. -/
structure Layout where
  /-- The powers of ten of the leading digit that are written positionally. -/
  positional : Int → Bool
  /-- Whether a whole number keeps a fraction, as in `12.0`. -/
  fraction : Bool
  /-- Which of two equally near decimals is taken. -/
  tie : Tie

namespace Layout

/-- The decimal digits of a natural. -/
def digits (n : Nat) : List Char := Nat.toDigits 10 n

/-- Positional text of `d`, the point set after, inside or before the digits. -/
def plain (l : Layout) (d : Decimal) : List Char :=
  let ds := digits d.digits
  if 0 ≤ d.exponent then
    ds ++ List.replicate d.exponent.toNat '0' ++ (if l.fraction then ['.', '0'] else [])
  else
    let places := (-d.exponent).toNat
    if places < ds.length then
      ds.take (ds.length - places) ++ '.' :: ds.drop (ds.length - places)
    else
      '0' :: '.' :: (List.replicate (places - ds.length) '0' ++ ds)

/-- Text of `d` with one digit before the point and a signed exponent. -/
def scientific (d : Decimal) : List Char :=
  let ds := digits d.digits
  let power := d.exponent + ds.length - 1
  let mantissa := match ds with
    | [] => []
    | [c] => [c]
    | c :: rest => c :: '.' :: rest
  mantissa ++ 'e' :: (if power < 0 then '-' else '+') :: digits power.natAbs

/-- Text of a finite number. -/
def render (l : Layout) (x : Binary64) : String :=
  let d := Decimal.shortest l.tie x
  let body := if l.positional (d.exponent + (digits d.digits).length - 1) then l.plain d
    else scientific d
  String.ofList (if x.negative then '-' :: body else body)

end Layout

end FacetedSearch
