import FacetedSearch.Number.Binary64

/-!
# JSON values

A JSON value whose objects keep the order of their members and whose numbers keep integers and
binary fractions apart.
-/

namespace FacetedSearch

/-- A JSON value. -/
inductive Json where
  | null
  | bool (b : Bool)
  | int (n : Int)
  | float (x : Binary64)
  | string (s : String)
  | array (items : List Json)
  | object (members : List (String × Json))
  deriving Inhabited

namespace Json

/-- The members of an object. -/
abbrev Members := List (String × Json)

/-- Give `key` a value: in its place if it is there, at the end if it is new. -/
def Members.put (key : String) (value : Json) : Members → Members
  | [] => [(key, value)]
  | (k, v) :: rest => if k = key then (k, value) :: rest else (k, v) :: Members.put key value rest

/-- The members of a list of entries, a later entry of a key taking the place of an earlier one. -/
def Members.ofEntries (entries : List (String × Json)) : Members :=
  entries.foldl (fun ms (k, v) => Members.put k v ms) []

/-! ## Views of a value, each empty if the value is of another kind -/

def bool? : Json → Option Bool
  | .bool b => some b
  | _ => none

def string? : Json → Option String
  | .string s => some s
  | _ => none

def array? : Json → Option (List Json)
  | .array items => some items
  | _ => none

def object? : Json → Option Members
  | .object members => some members
  | _ => none

/-- A non-negative integer of 64 bits. -/
def uint64? : Json → Option UInt64
  | .int n => if 0 ≤ n ∧ n < 2 ^ 64 then some (UInt64.ofNat n.toNat) else none
  | _ => none

/-- Any number, an integer rounded to the nearest binary fraction. -/
def float? : Json → Option Binary64
  | .int n => some (Binary64.ofInt n)
  | .float x => some x
  | _ => none

/-- The member of an object under a key. -/
def get? (j : Json) (key : String) : Option Json :=
  match j with
  | .object members => members.lookup key
  | _ => none

def ofUInt64 (n : UInt64) : Json := .int n.toNat

def ofUInt32 (n : UInt32) : Json := .int n.toNat

/-- An object with one member. -/
def single (key : String) (value : Json) : Json := .object [(key, value)]

/-- The value, or null in its absence. -/
def ofOption {α : Type} (encode : α → Json) : Option α → Json
  | some a => encode a
  | none => .null

/-- A member, or none in its absence. -/
def member? {α : Type} (key : String) (encode : α → Json) : Option α → Members
  | some a => [(key, encode a)]
  | none => []

mutual

/-- The value with every object's repeated keys reduced to one: the last value, at the place of the
first. -/
def distinctKeys : Json → Json
  | .array items => .array (distinctKeysList items)
  | .object members => .object (Members.ofEntries (distinctKeysMembers members))
  | j => j

def distinctKeysList : List Json → List Json
  | [] => []
  | j :: rest => distinctKeys j :: distinctKeysList rest

def distinctKeysMembers : List (String × Json) → List (String × Json)
  | [] => []
  | (k, j) :: rest => (k, distinctKeys j) :: distinctKeysMembers rest

end

mutual

/-- Whether every number in the value is finite. -/
def isFinite : Json → Bool
  | .float x => x.isFinite
  | .array items => isFiniteList items
  | .object members => isFiniteMembers members
  | _ => true

def isFiniteList : List Json → Bool
  | [] => true
  | j :: rest => isFinite j && isFiniteList rest

def isFiniteMembers : List (String × Json) → Bool
  | [] => true
  | (_, j) :: rest => isFinite j && isFiniteMembers rest

end

/-! ## Members -/

theorem Members.lookup_put_self (key : String) (value : Json) (ms : Members) :
    (Members.put key value ms).lookup key = some value := by
  induction ms with
  | nil => simp [put]
  | cons m rest ih =>
    obtain ⟨k, v⟩ := m
    by_cases h : k = key
    · simp [put, h]
    · have h' : (key == k) = false := by simpa using Ne.symm h
      simp [put, h, List.lookup_cons, h', ih]

theorem Members.lookup_put_of_ne {key other : String} (h : other ≠ key) (value : Json)
    (ms : Members) : (Members.put key value ms).lookup other = ms.lookup other := by
  induction ms with
  | nil =>
    have h' : (other == key) = false := by simpa using h
    simp [put, List.lookup_cons, h']
  | cons m rest ih =>
    obtain ⟨k, v⟩ := m
    by_cases hk : k = key
    · subst hk
      have h' : (other == k) = false := by simpa using h
      simp [put, List.lookup_cons, h']
    · simp only [put, hk, if_false, List.lookup_cons, ih]

/-- A new key goes to the end. -/
theorem Members.put_of_not_mem {key : String} {value : Json} {ms : Members}
    (h : key ∉ ms.map (·.1)) : Members.put key value ms = ms ++ [(key, value)] := by
  induction ms with
  | nil => rfl
  | cons m rest ih =>
    simp only [List.map_cons, List.mem_cons, not_or] at h
    simp [put, Ne.symm h.1, ih h.2]

/-- Writing to a present key moves nothing. -/
theorem Members.keys_put_of_mem {key : String} {value : Json} {ms : Members}
    (h : key ∈ ms.map (·.1)) : (Members.put key value ms).map (·.1) = ms.map (·.1) := by
  induction ms with
  | nil => simp at h
  | cons m rest ih =>
    obtain ⟨k, v⟩ := m
    by_cases hk : k = key
    · simp [put, hk]
    · simp only [List.map_cons, List.mem_cons] at h
      simp [put, hk, ih (h.resolve_left (Ne.symm hk))]

end Json

end FacetedSearch
