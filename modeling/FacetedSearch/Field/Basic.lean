import FacetedSearch.Error
import FacetedSearch.Field.Code
import FacetedSearch.Table
import FacetedSearch.Text.Blank
import FacetedSearch.Text.Uppercase

/-!
# Fields

What is known of a field of a container: its code, its type and what it may be used for.
-/

namespace FacetedSearch

/-- The labels of option values. -/
abbrev OptionLabels := Table String

/-- A field as it is declared. -/
structure FieldDefinition where
  code : String
  type : FieldType
  label : Option String := none
  searchable : Bool := false
  filterable : Bool := false
  sortable : Bool := false
  usedForRules : Bool := false
  spellchecked : Bool := false
  weight : Binary64 := .one
  /-- The labels of option values, by the code of the catalog they hold for. -/
  optionLabels : Table OptionLabels := .empty

/-- A declared field whose code is not blank. -/
structure Field extends FieldDefinition where
  code_not_blank : Text.isBlank code = false

namespace Field

/-- A field of the given definition; weights below one are raised to one. -/
def ofDefinition? (d : FieldDefinition) : Result Field :=
  if h : Text.isBlank d.code = false then
    .ok { d with weight := d.weight.raisedToOne, code_not_blank := h }
  else .error (.malformedQuery .blankCode)

/-- A field that may be used for nothing yet. -/
def new? (code : String) (type : FieldType) : Result Field := ofDefinition? { code, type }

/-- Set the weight, raised to one if it is below. -/
def withWeight (f : Field) (weight : Binary64) : Field :=
  { f with weight := weight.raisedToOne }

/-- Set the option labels of a catalog in place of earlier ones. -/
def withOptionLabels (f : Field) (catalog : String) (labels : OptionLabels) : Field :=
  { f with optionLabels := f.optionLabels.insert catalog labels }

/-- The path of the nested object that holds the field: the code before its first point. -/
def nestedPath (f : Field) : Option String := (Code.split? f.code).map (·.1)

/-- The code inside the nested object: what follows the first point. -/
def nestedCode (f : Field) : Option String := (Code.split? f.code).map (·.2)

def isNested (f : Field) : Bool := f.nestedPath.isSome

/-- The flattened form of the code. -/
def key (f : Field) : String := Code.flatten f.code

/-- The nested path, or else the code, with a capital. -/
def defaultLabel (f : Field) : String := Text.capitalize (f.nestedPath.getD f.code)

/-- The label to show. -/
def title (f : Field) : String := f.label.getD f.defaultLabel

/-- The label of an option value in a catalog. -/
def optionLabel? (f : Field) (catalog value : String) : Option String :=
  (f.optionLabels.get? catalog).bind fun labels => labels.get? value

end Field

end FacetedSearch
