/-!
# Field codes

A field code is a path whose steps are parted by points. Its flattened form writes two underscores
for each point, so that it can serve as a key.
-/

namespace FacetedSearch.Code

/-- Write two underscores for each point. -/
def flattenChars : List Char → List Char
  | [] => []
  | c :: rest => if c = '.' then '_' :: '_' :: flattenChars rest else c :: flattenChars rest

/-- Write a point for each pair of underscores, the pairs taken from the left. -/
def unflattenChars : List Char → List Char
  | [] => []
  | [c] => [c]
  | c :: d :: rest =>
    if c = '_' ∧ d = '_' then '.' :: unflattenChars rest else c :: unflattenChars (d :: rest)

/-- The flattened form of a code. -/
def flatten (code : String) : String := String.ofList (flattenChars code.toList)

/-- The code that a flattened form stands for. -/
def unflatten (key : String) : String := String.ofList (unflattenChars key.toList)

/-- The part of a code before its first point and the part after it. -/
def split? (code : String) : Option (String × String) :=
  match code.toList.dropWhile (· != '.') with
  | [] => none
  | _ :: rest => some (String.ofList (code.toList.takeWhile (· != '.')), String.ofList rest)

/-- The steps of a path. -/
def stepsChars : List Char → List (List Char)
  | [] => [[]]
  | c :: rest =>
    if c = '.' then [] :: stepsChars rest
    else match stepsChars rest with
      | [] => [[c]]
      | step :: steps => (c :: step) :: steps

/-- The steps of a code. -/
def steps (code : String) : List String := (stepsChars code.toList).map String.ofList

end FacetedSearch.Code
