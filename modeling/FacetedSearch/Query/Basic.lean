import FacetedSearch.Error
import FacetedSearch.Query.Scalar
import FacetedSearch.Text.Blank

/-!
# Query trees

A query is a condition on one field, or a combination of queries. The checked constructors refuse a
node whose own parts make no sense; `Query.check` does so for a whole tree.
-/

namespace FacetedSearch

/-- How the scores of nested documents are folded into the score of their parent. -/
inductive ScoreMode where
  | none
  | avg
  | max
  | min
  | sum
  deriving DecidableEq, Repr, Inhabited

namespace ScoreMode

def all : List ScoreMode := [none, avg, max, min, sum]

def name : ScoreMode → String
  | none => "none"
  | avg => "avg"
  | max => "max"
  | min => "min"
  | sum => "sum"

def ofName? (s : String) : Option ScoreMode := all.find? fun m => m.name == s

theorem ofName?_name (m : ScoreMode) : ofName? m.name = some m := by cases m <;> rfl

end ScoreMode

/-- The bounds of a range. -/
structure Bounds where
  gt : Option Scalar := none
  gte : Option Scalar := none
  lt : Option Scalar := none
  lte : Option Scalar := none
  deriving DecidableEq, Repr

/-- What any query carries: a name for the backend to report, and the factor of its score. -/
structure Label where
  name : Option String := none
  boost : Binary64 := .one
  deriving DecidableEq, Repr, Inhabited

/-- A condition on the values of one field. -/
inductive Condition where
  /-- Some of the words of a text occur. -/
  | textMatch (text : String) (minimumShouldMatch analyzer : Option String)
  /-- A phrase occurs whose last word may go on. -/
  | phrasePrefix (text : String) (maxExpansions : UInt32)
  /-- A phrase occurs. -/
  | phrase (text : String)
  /-- There is a value. -/
  | present
  /-- A value lies within bounds. -/
  | range (bounds : Bounds)
  /-- A value equals the given one. -/
  | term (value : Scalar)
  /-- A value equals one of the given ones. -/
  | terms (values : List Scalar)
  deriving DecidableEq, Repr

/-- A query tree. -/
inductive Query where
  /-- A condition on a field. -/
  | leaf (field : String) (condition : Condition) (label : Label)
  /-- All of `must`, enough of `should` and none of `mustNot`. -/
  | bool (must should mustNot : List Query) (minimumShouldMatch : String) (label : Label)
  /-- A query on the documents nested under a path. -/
  | nested (path : String) (query : Query) (scoreMode : ScoreMode) (label : Label)
  /-- A scored query together with a filter that is not scored. -/
  | filtered (query filter : Option Query) (label : Label)
  deriving Inhabited

/-- The kind of a leaf with this condition. -/
def Condition.kind : Condition → Query.Kind
  | textMatch .. => .textMatch
  | phrasePrefix .. => .phrasePrefix
  | phrase _ => .phrase
  | present => .present
  | range _ => .range
  | term _ => .term
  | terms _ => .terms

namespace Bounds

def isEmpty (b : Bounds) : Bool :=
  b.gt.isNone && b.gte.isNone && b.lt.isNone && b.lte.isNone

/-- At least one bound, and at most one on each side. -/
def check (b : Bounds) (field : String) : Except QueryFault Unit :=
  if b.isEmpty then .error (.noBounds field)
  else if b.gt.isSome && b.gte.isSome then .error (.twoLowerBounds field)
  else if b.lt.isSome && b.lte.isSome then .error (.twoUpperBounds field)
  else .ok ()

/-- The bounds that are set, under their names. -/
def members (b : Bounds) : Json.Members :=
  Json.member? "gt" Scalar.toJson b.gt ++ Json.member? "gte" Scalar.toJson b.gte ++
    Json.member? "lt" Scalar.toJson b.lt ++ Json.member? "lte" Scalar.toJson b.lte

end Bounds

namespace Query

/-- How many `should` clauses have to hold, where nothing else is said. -/
def defaultMinimumShouldMatch : String := "1"

/-- How many words a phrase prefix stands for, where nothing else is said. -/
def defaultMaxExpansions : UInt32 := 10

def kind : Query → Kind
  | leaf _ c _ => c.kind
  | bool .. => .bool
  | nested .. => .nested
  | filtered .. => .filtered

def label : Query → Label
  | leaf _ _ l | bool _ _ _ _ l | nested _ _ _ l | filtered _ _ l => l

def withLabel (l : Label) : Query → Query
  | leaf f c _ => leaf f c l
  | bool m s n k _ => bool m s n k l
  | nested p q s _ => nested p q s l
  | filtered q f _ => filtered q f l

/-- What a leaf has to satisfy: a field, and a condition that says something. -/
def checkLeaf (field : String) (c : Condition) : Except QueryFault Unit :=
  if Text.isBlank field then .error (.blankField c.kind)
  else match c with
    | .phrasePrefix text _ => if text.isEmpty then .error (.emptyText field) else .ok ()
    | .range bounds => bounds.check field
    | .terms [] => .error (.noValues field)
    | _ => .ok ()

mutual

/-- Check a whole tree; the first fault in the order of its nodes is reported. -/
def check : Query → Except QueryFault Unit
  | leaf f c _ => checkLeaf f c
  | bool must should mustNot _ _ => do
    checkList must
    checkList should
    checkList mustNot
  | nested path q _ _ => if Text.isBlank path then .error .blankPath else check q
  | filtered none none _ => .ok ()
  | filtered (some q) none _ => check q
  | filtered none (some f) _ => check f
  | filtered (some q) (some f) _ => do
    check q
    check f

def checkList : List Query → Except QueryFault Unit
  | [] => .ok ()
  | q :: rest => do
    check q
    checkList rest

end

/-- The outcome of `check` as a result. -/
def validate (q : Query) : Result Unit := q.check.mapError .malformedQuery

/-! ## Checked constructors -/

/-- A leaf whose condition makes sense. -/
def leaf? (field : String) (c : Condition) : Except QueryFault Query := do
  checkLeaf field c
  .ok (leaf field c {})

/-- A leaf for a list of values, repeated ones dropped. -/
def terms? (field : String) (values : List Scalar) : Except QueryFault Query :=
  leaf? field (.terms (Scalar.distinct values))

/-- A combination of at least one clause. -/
def bool? (must should mustNot : List Query) : Except QueryFault Query :=
  if must.isEmpty && should.isEmpty && mustNot.isEmpty then .error .noClauses
  else .ok (bool must should mustNot defaultMinimumShouldMatch {})

/-- A query under a path that is not blank. -/
def nested? (path : String) (q : Query) (scoreMode : ScoreMode := .none) :
    Except QueryFault Query :=
  if Text.isBlank path then .error .blankPath else .ok (nested path q scoreMode {})

/-- All of the given queries: nothing for none of them, and the query itself for one. -/
def conjunction : List Query → Option Query
  | [] => none
  | [q] => some q
  | qs => some (bool qs [] [] defaultMinimumShouldMatch {})

end Query

/-- What may be set on a query once it is made. -/
inductive Setting where
  | name (name : String)
  | boost (boost : Binary64)
  | minimumShouldMatch (minimum : String)
  | analyzer (analyzer : String)
  | maxExpansions (count : UInt32)
  | scoreMode (mode : ScoreMode)
  deriving DecidableEq, Repr

/-- Set something on a query. One that has no such thing stays as it is. -/
def Query.set (q : Query) : Setting → Query
  | .name name => q.withLabel { q.label with name := some name }
  | .boost boost => q.withLabel { q.label with boost }
  | .minimumShouldMatch minimum =>
    match q with
    | bool must should mustNot _ l => bool must should mustNot minimum l
    | leaf f (.textMatch text _ analyzer) l => leaf f (.textMatch text (some minimum) analyzer) l
    | q => q
  | .analyzer analyzer =>
    match q with
    | leaf f (.textMatch text minimum _) l => leaf f (.textMatch text minimum (some analyzer)) l
    | q => q
  | .maxExpansions count =>
    match q with
    | leaf f (.phrasePrefix text _) l => leaf f (.phrasePrefix text count) l
    | q => q
  | .scoreMode mode =>
    match q with
    | nested path q _ l => nested path q mode l
    | q => q

end FacetedSearch
