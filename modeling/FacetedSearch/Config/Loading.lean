import FacetedSearch.Config.Basic
import FacetedSearch.Config.Settings

/-!
# Loading a configuration

A configuration is read from a file, if one is named, and from the environment, which goes over the
file. Of the forms that such files may have, JSON alone is read here. A value is converted to the
kind that is wanted wherever that makes sense.
-/

namespace FacetedSearch

/-- The integer nearest to a number, a half away from zero, within 64 bits without sign. -/
def Binary64.toUInt64 (x : Binary64) : UInt64 :=
  if x.isNaN || x.negative then 0
  else if !x.isFinite then .ofNat (2 ^ 64 - 1)
  else
    let num := x.significand * 2 ^ x.exponent.toNat
    let den := 2 ^ (-x.exponent).toNat
    .ofNat (min ((2 * num + den) / (2 * den)) (2 ^ 64 - 1))

namespace Conversion

/-- Whether a word says yes. -/
def isYes (word : String) : Bool := ["true", "on", "yes"].contains word

/-- Whether a word says no. -/
def isNo (word : String) : Bool := ["false", "off", "no"].contains word

/-- An integer that needs more than 64 bits with a sign counts as a fraction. -/
def narrow : Json → Json
  | .int n => if -2 ^ 63 ≤ n ∧ n < 2 ^ 63 then .int n else .float (Binary64.ofInt n)
  | j => j

def bool? (j : Json) : Option Bool :=
  match narrow j with
  | .bool b => some b
  | .int n => some (n != 0)
  | .float x => some (x.magnitude != 0)
  | .string s =>
    let word := Text.lowercase s
    if isYes word || word == "1" then some true
    else if isNo word || word == "0" then some false
    else none
  | _ => none

/-- The text of a number in positional notation. -/
def numberText (x : Binary64) : String :=
  if x.isNaN then "NaN"
  else if x.isFinite then Scalar.numbers.render x
  else if x.negative then "-inf" else "inf"

def text? (j : Json) : Option String :=
  match narrow j with
  | .bool true => some "true"
  | .bool false => some "false"
  | .int n => some (toString n)
  | .float x => some (numberText x)
  | .string s => some s
  | _ => none

def uint64? (j : Json) : Option UInt64 :=
  match narrow j with
  | .bool b => some (if b then 1 else 0)
  | .int n => if 0 ≤ n then some (.ofNat n.toNat) else none
  | .float x => some x.toUInt64
  | .string s =>
    let word := Text.lowercase s
    if isYes word then some 1 else if isNo word then some 0 else Numeral.uint64? s
  | _ => none

/-- An integer of 32 bits; a larger one is none. -/
def uint32? (j : Json) : Option UInt32 :=
  ((uint64? j).filter fun n => decide (n.toNat < 2 ^ 32)).map UInt64.toUInt32

def number? (j : Json) : Option Binary64 :=
  match narrow j with
  | .bool b => some (if b then .one else .zero)
  | .int n => some (Binary64.ofInt n)
  | .float x => some x
  | .string s =>
    let word := Text.lowercase s
    if isYes word then some .one else if isNo word then some .zero else Numeral.real? s
  | _ => none

/-- One of several named alternatives, its name in letters of either case, alone or as the only key
of a table. -/
def choice {α : Type} (named : String → Option α) : Json → Option α
  | .string s => named (Text.lowercase s)
  | .object [(s, _)] => named (Text.lowercase s)
  | _ => none

/-- A record from a table or from a list of its values; what a list has too much is ignored. -/
def record? (names : List String) : Json → Option (Record Json)
  | .object entries => Record.ofEntries? names entries
  | .array items => some ⟨names.zip items⟩
  | _ => none

end Conversion

/-- Each atom is converted from a value of another kind where that makes sense. -/
def Json.Atoms.lenient : Json.Atoms where
  tagging := ⟨false, false⟩
  bool? := Conversion.bool?
  text? := Conversion.text?
  uint32? := Conversion.uint32?
  uint64? := Conversion.uint64?
  number? := Conversion.number?
  choice := Conversion.choice
  record? := Conversion.record?

namespace Config

/-- The ending of the names of configuration files. -/
def fileExtension : String := ".json"

/-- Whether a name has the ending, and more than that. -/
def hasExtension (name : String) : Bool := fileExtension.toList.isSuffixOf name.toList &&
  decide (fileExtension.length < name.length)

/-- The paths at which a configuration file may be found. -/
def candidates (path : String) : List String :=
  path :: (((Path.ofText path).extend? fileExtension).map Path.toText).toList

/-- The text of a configuration file. A file of just that path needs the ending; if there is none,
the ending may be left out of the path. -/
def fileText? (files : Files) (path : String) : Option String :=
  let p := Path.ofText path
  match files.at? p with
  | some text => if (p.name?.map hasExtension).getD false then some text else none
  | none => (p.extend? fileExtension).bind files.at?

/-- The settings of a file, if one is named, and of the environment. -/
def settings (files : Files) (path : Option String) (env : Environment) :
    Except ConfigFault Json := do
  let tree ← match path with
    | some path =>
      match fileText? files path with
      | some text => Settings.addText (.object []) text
      | none => .error .unreadable
    | none => .ok (.object [])
  Settings.addEnvironment tree env

/-- Load a configuration; it is not validated. -/
def load? (files : Files) (path : Option String) (env : Environment) : Result Config :=
  match settings files path env with
  | .ok tree =>
    match ofJson? .lenient tree with
    | some c => .ok c
    | none => .error (.config .unreadable)
  | .error fault => .error (.config fault)

end Config

end FacetedSearch
