import FacetedSearch.Json.Basic
import FacetedSearch.Number.Decimal

/-!
# Reading JSON text

Objects keep every entry in the order of the text, repeated keys included. What follows the grammar
but cannot be held in a value is read as an infinity, which the reader of the value refuses if it
looks there: a number too large for the 64-bit binary format, a text or an object with a key that
has an unpaired surrogate, and an array or object inside 127 others.
-/

namespace FacetedSearch.Json

namespace Reader

/-- Least nesting that cannot be held. -/
def depthLimit : Nat := 128

/-- What stands for a value that cannot be held. -/
def unreadable : Json := .float (Binary64.ofMagnitude false Binary64.infinite)

def isBlank (c : Char) : Bool := c == ' ' || c == '\n' || c == '\t' || c == '\r'

def skipBlanks (cs : List Char) : List Char := cs.dropWhile isBlank

/-- Remove an expected text. -/
def expect : List Char → List Char → Option (List Char)
  | [], rest => some rest
  | c :: more, d :: rest => if c = d then expect more rest else none
  | _ :: _, [] => none

/-! ## Numbers -/

def digitValue (c : Char) : Nat := c.toNat - '0'.toNat

/-- Append digits to a significand as long as it fits 64 bits; what is left over is returned. -/
def accumulate (significand : Nat) : List Char → Nat × List Char
  | [] => (significand, [])
  | c :: rest =>
    let next := significand * 10 + digitValue c
    if next < 2 ^ 64 then accumulate next rest else (significand, c :: rest)

/-- The digits in front of a text. -/
def takeDigits (cs : List Char) : List Char × List Char :=
  (cs.takeWhile Char.isDigit, cs.dropWhile Char.isDigit)

/-- The exponent in front of a text, zero if there is none; nothing if it lacks digits. -/
def takeExponent (cs : List Char) : Option (Option Int × List Char) :=
  match cs with
  | c :: rest =>
    if c = 'e' ∨ c = 'E' then
      let (negative, rest) := match rest with
        | '-' :: rest => (true, rest)
        | '+' :: rest => (false, rest)
        | rest => (false, rest)
      match takeDigits rest with
      | ([], _) => none
      | (ds, rest) =>
        let n : Int := ds.foldl (fun n c => n * 10 + digitValue c) (0 : Nat)
        some (some (if negative then -n else n), rest)
    else some (none, cs)
  | [] => some (none, [])

/-- The fraction digits in front of a text; nothing if a point has no digit after it. -/
def takeFraction (cs : List Char) : Option (Option (List Char) × List Char) :=
  match cs with
  | '.' :: rest =>
    match takeDigits rest with
    | ([], _) => none
    | (ds, rest) => some (some ds, rest)
  | _ => some (none, cs)

/-- The number with the given parts. It is an integer if it has neither fraction nor exponent, is
not `-0` and fits 64 bits, with or without sign. -/
def number (negative : Bool) (whole : List Char) (fraction : Option (List Char))
    (exponent : Option Int) : Json :=
  let (m, dropped) := accumulate 0 whole
  let signed : Int := if negative then -(m : Int) else m
  if fraction.isNone && exponent.isNone && dropped.isEmpty &&
      (if negative then decide (0 < m ∧ m ≤ 2 ^ 63) else true) then
    .int signed
  else
    let places := fraction.getD []
    let (m, unread) := accumulate m places
    let power : Int := dropped.length - ((places.length - unread.length : Nat) : Int) +
      exponent.getD 0
    match Binary64.scaled? m power with
    | some size => .float (if negative then size.neg else size)
    | none => unreadable

/-- Read a number. -/
def readNumber (cs : List Char) : Option (Json × List Char) := do
  let (negative, cs) := match cs with
    | '-' :: rest => (true, rest)
    | _ => (false, cs)
  let (whole, cs) := takeDigits cs
  match whole with
  | [] => none
  | '0' :: _ :: _ => none
  | _ =>
    let (fraction, cs) ← takeFraction cs
    let (exponent, cs) ← takeExponent cs
    some (number negative whole fraction exponent, cs)

/-! ## Strings -/

def hexValue? (c : Char) : Option Nat :=
  if c.isDigit then some (c.toNat - '0'.toNat)
  else if 'a' ≤ c ∧ c ≤ 'f' then some (c.toNat - 'a'.toNat + 10)
  else if 'A' ≤ c ∧ c ≤ 'F' then some (c.toNat - 'A'.toNat + 10)
  else none

/-- Read four hexadecimal digits. -/
def readHex (cs : List Char) : Option (Nat × List Char) :=
  match cs with
  | a :: b :: c :: d :: rest => do
    let a ← hexValue? a
    let b ← hexValue? b
    let c ← hexValue? c
    let d ← hexValue? d
    some (((a * 16 + b) * 16 + c) * 16 + d, rest)
  | _ => none

/-- The second surrogate of a pair, in front of a text as an escape. -/
def takeLow (cs : List Char) : Option (Nat × List Char) := do
  let rest ← expect ['\\', 'u'] cs
  let (low, rest) ← readHex rest
  if 0xDC00 ≤ low ∧ low ≤ 0xDFFF then some (low, rest) else none

/-- Read what follows a backslash. A surrogate that is not in a pair is no character. -/
def readEscape (cs : List Char) : Option (Option Char × List Char) :=
  match cs with
  | '"' :: rest => some ('"', rest)
  | '\\' :: rest => some ('\\', rest)
  | '/' :: rest => some ('/', rest)
  | 'b' :: rest => some ('\x08', rest)
  | 'f' :: rest => some ('\x0c', rest)
  | 'n' :: rest => some ('\n', rest)
  | 'r' :: rest => some ('\r', rest)
  | 't' :: rest => some ('\t', rest)
  | 'u' :: rest => do
    let (high, rest) ← readHex rest
    if high < 0xD800 ∨ 0xDFFF < high then some (Char.ofNat high, rest)
    else if 0xDBFF < high then some (none, rest)
    else match takeLow rest with
      | some (low, rest) =>
        some (Char.ofNat (0x10000 + (high - 0xD800) * 0x400 + (low - 0xDC00)), rest)
      | none => some (none, rest)
  | _ => none

/-- Read the rest of a string after its opening quote, which is no text if it has an unpaired
surrogate; `done` holds what was read, last first, and `fuel` bounds the characters. -/
def readString : Nat → Option (List Char) → List Char → Option (Option String × List Char)
  | 0, _, _ => none
  | fuel + 1, done, cs =>
    match cs with
    | [] => none
    | '"' :: rest => some (done.map fun cs => String.ofList cs.reverse, rest)
    | '\\' :: rest =>
      match readEscape rest with
      | some (c, rest) => readString fuel (c.bind fun c => done.map (c :: ·)) rest
      | none => none
    | c :: rest => if c.toNat < 0x20 then none else readString fuel (done.map (c :: ·)) rest

/-! ## Values -/

/-- An array or object, given the nesting that is still allowed around its elements. -/
def within (depth : Nat) (j : Json) : Json := if depth = 0 then unreadable else j

/-- A string as a value. -/
def stringValue : Option String → Json
  | some s => .string s
  | none => unreadable

mutual

/-- Read a value; `depth` is the nesting that is still allowed and `fuel` bounds the steps. -/
def readValue : Nat → Nat → List Char → Option (Json × List Char)
  | 0, _, _ => none
  | fuel + 1, depth, cs =>
    match skipBlanks cs with
    | 'n' :: rest => (expect ['u', 'l', 'l'] rest).map ((.null, ·))
    | 't' :: rest => (expect ['r', 'u', 'e'] rest).map ((.bool true, ·))
    | 'f' :: rest => (expect ['a', 'l', 's', 'e'] rest).map ((.bool false, ·))
    | '"' :: rest => (readString fuel (some []) rest).map fun (s, rest) => (stringValue s, rest)
    | '[' :: rest =>
      match skipBlanks rest with
      | ']' :: rest => some (within (depth - 1) (.array []), rest)
      | rest => readItems fuel (depth - 1) [] rest
    | '\x7b' :: rest =>
      match skipBlanks rest with
      | '\x7d' :: rest => some (within (depth - 1) (.object []), rest)
      | rest => readMembers fuel (depth - 1) (some []) rest
    | cs => readNumber cs

/-- Read the elements of an array up to its end. -/
def readItems : Nat → Nat → List Json → List Char → Option (Json × List Char)
  | 0, _, _, _ => none
  | fuel + 1, depth, done, cs =>
    match readValue fuel depth cs with
    | none => none
    | some (j, rest) =>
      match skipBlanks rest with
      | ',' :: rest => readItems fuel depth (j :: done) rest
      | ']' :: rest => some (within depth (.array (j :: done).reverse), rest)
      | _ => none

/-- Read the members of an object up to its end; there are none to hold after a key that is no
text. -/
def readMembers :
    Nat → Nat → Option (List (String × Json)) → List Char → Option (Json × List Char)
  | 0, _, _, _ => none
  | fuel + 1, depth, done, cs =>
    match skipBlanks cs with
    | '"' :: rest =>
      match readString fuel (some []) rest with
      | none => none
      | some (k, rest) =>
        match skipBlanks rest with
        | ':' :: rest =>
          match readValue fuel depth rest with
          | none => none
          | some (j, rest) =>
            let done := k.bind fun k => done.map ((k, j) :: ·)
            match skipBlanks rest with
            | ',' :: rest => readMembers fuel depth done rest
            | '\x7d' :: rest =>
              let members := (done.map fun ms => Json.object ms.reverse).getD unreadable
              some (within depth members, rest)
            | _ => none
        | _ => none
    | _ => none

end

end Reader

/-- The value that a text holds, blanks around it aside. What cannot be held is an infinity in
it. -/
def ofText? (text : String) : Option Json :=
  let cs := text.toList
  match Reader.readValue (2 * cs.length + 2) Reader.depthLimit cs with
  | some (j, rest) => if (Reader.skipBlanks rest).isEmpty then some j else none
  | none => none

/-- The value that a text holds if all of it can be held. -/
def wholeOfText? (text : String) : Option Json := (ofText? text).filter isFinite

end FacetedSearch.Json
