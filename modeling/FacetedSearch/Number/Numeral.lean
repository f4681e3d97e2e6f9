import FacetedSearch.Number.Binary64

/-!
# Numerals

Texts that name numbers: integers with or without a sign, and decimals with a point and an exponent,
each read as the nearest binary number.
-/

namespace FacetedSearch

/-- The number nearest to `digits * 10 ^ exponent`, a tie to the even one. -/
def Binary64.ofDecimal (negative : Bool) (digits : Nat) (exponent : Int) : Binary64 :=
  let power : Int := (Nat.toDigits 10 digits).length + exponent
  if digits = 0 ∨ power < -330 then ofMagnitude negative 0
  else if 310 < power then ofMagnitude negative infinite
  else ofRatio negative (digits * 10 ^ exponent.toNat) (10 ^ (-exponent).toNat)

namespace Numeral

/-- The number that decimal digits name. -/
def value (ds : List Char) : Nat := ds.foldl (fun n c => n * 10 + (c.toNat - '0'.toNat)) 0

/-- The number that a text of decimal digits names, of at least one. -/
def natural? (ds : List Char) : Option Nat :=
  if !ds.isEmpty && ds.all Char.isDigit then some (value ds) else none

/-- Whether a sign in front is a minus, and the text after the sign. -/
def sign : List Char → Bool × List Char
  | '-' :: cs => (true, cs)
  | '+' :: cs => (false, cs)
  | cs => (false, cs)

/-- An integer, with or without a sign. -/
def integer? (cs : List Char) : Option Int :=
  let (negative, ds) := sign cs
  (natural? ds).map fun n => if negative then -(n : Int) else n

/-- An integer of 64 bits with a sign. -/
def int64? (s : String) : Option Int :=
  (integer? s.toList).filter fun n => decide (-2 ^ 63 ≤ n ∧ n < 2 ^ 63)

/-- A natural of 64 bits, with or without a plus in front. -/
def uint64? (s : String) : Option UInt64 :=
  match s.toList with
  | '-' :: _ => none
  | cs => ((natural? (sign cs).2).filter fun n => decide (n < 2 ^ 64)).map UInt64.ofNat

/-- The exponent that a text ends with, zero for the empty text. -/
def exponent? : List Char → Option Int
  | [] => some 0
  | c :: cs => if c = 'e' ∨ c = 'E' then integer? cs else none

/-- A decimal: digits, a point among or beside them, and an exponent. -/
def decimal? (negative : Bool) (cs : List Char) : Option Binary64 := do
  let whole := cs.takeWhile Char.isDigit
  let (places, rest) := match cs.dropWhile Char.isDigit with
    | '.' :: cs => (cs.takeWhile Char.isDigit, cs.dropWhile Char.isDigit)
    | cs => ([], cs)
  if whole.isEmpty && places.isEmpty then none
  else
    let exponent ← exponent? rest
    some (.ofDecimal negative (value (whole ++ places)) (exponent - places.length))

/-- A decimal, an infinity or no number at all, each by its name in letters of either case. -/
def real? (s : String) : Option Binary64 :=
  let (negative, cs) := sign s.toList
  match String.ofList (cs.map Char.toLower) with
  | "inf" | "infinity" => some (.ofMagnitude negative Binary64.infinite)
  | "nan" => some (.ofMagnitude negative (Binary64.infinite + 2 ^ 51))
  | _ => decimal? negative cs

end Numeral

end FacetedSearch
