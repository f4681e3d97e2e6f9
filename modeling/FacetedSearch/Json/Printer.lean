import FacetedSearch.Json.Basic
import FacetedSearch.Number.Layout

/-!
# JSON text

The text of a value: without blanks, or with one member a line and two blanks of indentation a
level.
-/

namespace FacetedSearch.Json

/-- Floats keep a fraction; they are written positionally from `10 ^ -5` up to below `10 ^ 16`. -/
def numbers : Layout where
  positional power := decide (-5 ≤ power ∧ power < 16)
  fraction := true
  tie := .toEven

/-- Text of a number. -/
def floatText (x : Binary64) : String := if x.isFinite then numbers.render x else "null"

/-- A hexadecimal digit, in lower case. -/
def hexDigit (n : Nat) : Char := Nat.digitChar (n % 16)

/-- A character inside a quoted text. -/
def escape (c : Char) : List Char :=
  match c with
  | '"' => ['\\', '"']
  | '\\' => ['\\', '\\']
  | '\n' => ['\\', 'n']
  | '\r' => ['\\', 'r']
  | '\t' => ['\\', 't']
  | '\x08' => ['\\', 'b']
  | '\x0c' => ['\\', 'f']
  | c =>
    if c.toNat < 0x20 then ['\\', 'u', '0', '0', hexDigit (c.toNat / 16), hexDigit c.toNat] else [c]

/-- A quoted text. -/
def quote (s : String) : String := String.ofList ('"' :: s.toList.flatMap escape ++ ['"'])

mutual

/-- Text without blanks. -/
def compact : Json → String
  | .null => "null"
  | .bool true => "true"
  | .bool false => "false"
  | .int n => toString n
  | .float x => floatText x
  | .string s => quote s
  | .array items => "[" ++ compactList items ++ "]"
  | .object members => "\x7b" ++ compactMembers members ++ "\x7d"

def compactList : List Json → String
  | [] => ""
  | [j] => compact j
  | j :: rest => compact j ++ "," ++ compactList rest

def compactMembers : List (String × Json) → String
  | [] => ""
  | [(k, j)] => quote k ++ ":" ++ compact j
  | (k, j) :: rest => quote k ++ ":" ++ compact j ++ "," ++ compactMembers rest

end

/-- A line break and the indentation of a level. -/
def newline (level : Nat) : String := "\n" ++ String.ofList (List.replicate (2 * level) ' ')

mutual

/-- Text with a line for each element and member, at a level of indentation. -/
def prettyAt (level : Nat) : Json → String
  | .array [] => "[]"
  | .array items => "[" ++ prettyList (level + 1) items ++ newline level ++ "]"
  | .object [] => "\x7b\x7d"
  | .object members => "\x7b" ++ prettyMembers (level + 1) members ++ newline level ++ "\x7d"
  | j => compact j

def prettyList (level : Nat) : List Json → String
  | [] => ""
  | [j] => newline level ++ prettyAt level j
  | j :: rest => newline level ++ prettyAt level j ++ "," ++ prettyList level rest

def prettyMembers (level : Nat) : List (String × Json) → String
  | [] => ""
  | [(k, j)] => newline level ++ quote k ++ ": " ++ prettyAt level j
  | (k, j) :: rest =>
    newline level ++ quote k ++ ": " ++ prettyAt level j ++ "," ++ prettyMembers level rest

end

/-- Text with a line for each element and member. -/
def pretty (j : Json) : String := prettyAt 0 j

end FacetedSearch.Json
