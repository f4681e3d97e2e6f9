import FacetedSearch.Text.CodePoints

/-!
# Blank text

The white space of Unicode, 25 characters, and the texts that hold nothing else.
-/

namespace FacetedSearch.Text

/-- Closed ranges of code points with the property White_Space, ascending and apart. -/
def blankRanges : List (Nat × Nat) :=
  [(0x09, 0x0D), (0x20, 0x20), (0x85, 0x85), (0xA0, 0xA0), (0x1680, 0x1680), (0x2000, 0x200A),
   (0x2028, 0x2029), (0x202F, 0x202F), (0x205F, 0x205F), (0x3000, 0x3000)]

/-- Whether a character is white space. -/
def isBlankChar (c : Char) : Bool := isWithin blankRanges c

/-- Whether a text is empty or holds white space only. -/
def isBlank (s : String) : Bool := s.toList.all isBlankChar

/-- The text without white space at either end. -/
def trim (cs : List Char) : List Char :=
  ((cs.dropWhile isBlankChar).reverse.dropWhile isBlankChar).reverse

end FacetedSearch.Text
