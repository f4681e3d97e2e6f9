/-!
# Paths

The paths of files, compared by their components: a point and nothing between two slashes lead
nowhere, so that `./c` and `c` are one path.
-/

namespace FacetedSearch

/-- A path without the components that lead nowhere. -/
structure Path where
  absolute : Bool
  components : List String
  /-- Whether it ends the way that only a folder can be named. -/
  isFolder : Bool
  deriving DecidableEq, Repr

namespace Path

/-- The parts of a text between its slashes. -/
def segments : List Char → List (List Char)
  | [] => [[]]
  | c :: cs =>
    match segments cs with
    | [] => [[c]]
    | s :: rest => if c = '/' then [] :: s :: rest else (c :: s) :: rest

/-- Whether a segment leads nowhere. -/
def isIdle (segment : List Char) : Bool := segment = [] || segment = ['.']

/-- The component that leads up. -/
def parent : String := ".."

/-- The path that a text names. -/
def ofText (text : String) : Path :=
  let ss := segments text.toList
  let last := ss.getLastD []
  { absolute := text.toList.head? = some '/',
    components := (ss.filter fun s => !isIdle s).map String.ofList,
    isFolder := isIdle last || String.ofList last = parent }

/-- The text of a path. -/
def toText (p : Path) : String :=
  (if p.absolute then "/" else "") ++ "/".intercalate p.components

/-- The last component, if that is a name. -/
def name? (p : Path) : Option String := p.components.getLast?.filter (· != parent)

/-- The path of the file whose name is longer by an ending. -/
def extend? (p : Path) (ending : String) : Option Path :=
  p.name?.map fun name =>
    { p with components := p.components.dropLast ++ [name ++ ending], isFolder := false }

end Path

end FacetedSearch
