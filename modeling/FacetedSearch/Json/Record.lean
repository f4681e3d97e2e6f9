import FacetedSearch.Json.Basic

/-!
# Reading values as records

A record is written as an object of its members or as an array of them in their order. Here are the
accessors that the readers of all types are built from: each either finds what it wants or refuses
the value.
-/

namespace FacetedSearch

/-- The members of a record, found under their names. -/
structure Record (β : Type) where
  members : List (String × β)

namespace Record

variable {α β : Type}

/-- How often a key occurs among some entries. -/
def occurrences (key : String) (entries : List (String × β)) : Nat :=
  (entries.filter fun e => e.1 == key).length

/-- The entries of an object as a record; no name may occur twice, and other keys are ignored. -/
def ofEntries? (names : List String) (entries : List (String × β)) : Option (Record β) :=
  if names.all fun name => decide (occurrences name entries ≤ 1) then some ⟨entries⟩ else none

/-- A list of values as a record of the leading names. -/
def ofItems? (names : List String) (items : List β) : Option (Record β) :=
  if items.length ≤ names.length then some ⟨names.zip items⟩ else none

/-- A member that must be there. -/
def require (r : Record β) (name : String) (decode : β → Option α) : Option α :=
  (r.members.lookup name).bind decode

/-- A member with a value for its absence. -/
def getD (r : Record β) (name : String) (decode : β → Option α) (default : α) : Option α :=
  match r.members.lookup name with
  | some j => decode j
  | none => some default

end Record

namespace Json

variable {α : Type}

/-- Read an object, or an array of at most as many values, as a record. -/
def record? (names : List String) : Json → Option (Record Json)
  | .object entries => Record.ofEntries? names entries
  | .array items => Record.ofItems? names items
  | _ => none

/-- Null, or a value. -/
def nullable (decode : Json → Option α) : Json → Option (Option α)
  | .null => some none
  | j => (decode j).map some

/-- A list of values. -/
def listOf (decode : Json → Option α) : Json → Option (List α)
  | .array items => items.mapM decode
  | _ => none

/-- A number that is neither infinite nor undefined. -/
def finite? (j : Json) : Option Binary64 := j.float?.filter Binary64.isFinite

/-- A non-negative integer of 32 bits. -/
def uint32? : Json → Option UInt32
  | .int n => if 0 ≤ n ∧ n < 2 ^ 32 then some (UInt32.ofNat n.toNat) else none
  | _ => none

/-- One of several named alternatives: its name, alone or as the only key of an object that holds
null. -/
def choice (named : String → Option α) : Json → Option α
  | .string s => named s
  | .object [(s, .null)] => named s
  | _ => none

/-- One of several named alternatives, as it is read inside an object whose kind is one of its
members: with an empty object in the place of null, too. -/
def innerChoice (named : String → Option α) : Json → Option α
  | .object [(s, .object [])] => named s
  | j => choice named j

/-- How objects are read whose kind is one of their members. -/
structure Tagging where
  /-- Whether the kind of an object inside another may be given by its position. -/
  positions : Bool
  /-- Whether every number in the object has to be finite. -/
  finite : Bool

/-- How such objects are read from JSON text. -/
def Tagging.strict : Tagging := ⟨true, true⟩

/-- How a record and its atoms are read. -/
structure Atoms where
  tagging : Tagging
  bool? : Json → Option Bool
  text? : Json → Option String
  uint32? : Json → Option UInt32
  uint64? : Json → Option UInt64
  number? : Json → Option Binary64
  choice : {α : Type} → (String → Option α) → Json → Option α
  record? : List String → Json → Option (Record Json)

/-- Each atom is read from a value of its own kind only. -/
def Atoms.strict : Atoms where
  tagging := .strict
  bool? := Json.bool?
  text? := Json.string?
  uint32? := Json.uint32?
  uint64? := Json.uint64?
  number? := Json.finite?
  choice := Json.choice
  record? := Json.record?

/-- The only entry of an object. -/
def variant? : Json → Option (String × Json)
  | .object [entry] => some entry
  | _ => none

end Json

namespace Record

variable {α : Type}

/-- A member that may be null or absent. -/
def optional (r : Record Json) (name : String) (decode : Json → Option α) : Option (Option α) :=
  r.getD name (Json.nullable decode) none

/-- A list that may be absent. -/
def listD (r : Record Json) (name : String) (decode : Json → Option α) : Option (List α) :=
  r.getD name (Json.listOf decode) []

end Record

end FacetedSearch
