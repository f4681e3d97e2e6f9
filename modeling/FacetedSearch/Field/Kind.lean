import FacetedSearch.Query.Kind

/-!
# Types of fields

What a field holds decides which queries make sense on it and how a facet on it is shown.
-/

namespace FacetedSearch

/-- The type of a field's values. -/
inductive FieldType where
  | text
  | keyword
  | select
  | int
  | float
  | boolean
  | price
  | stock
  | category
  | reference
  | image
  | object
  | date
  | location
  deriving DecidableEq, Repr, Inhabited

/-- How a facet is shown. -/
inductive FacetType where
  | checkbox
  | slider
  | category
  deriving DecidableEq, Repr

def FacetType.name : FacetType → String
  | checkbox => "checkbox"
  | slider => "slider"
  | category => "category"

namespace FieldType

def all : List FieldType :=
  [text, keyword, select, int, float, boolean, price, stock, category, reference, image, object,
   date, location]

def name : FieldType → String
  | text => "text"
  | keyword => "keyword"
  | select => "select"
  | int => "int"
  | float => "float"
  | boolean => "boolean"
  | price => "price"
  | stock => "stock"
  | category => "category"
  | reference => "reference"
  | image => "image"
  | object => "object"
  | date => "date"
  | location => "location"

def ofName? (s : String) : Option FieldType := all.find? fun t => t.name == s

theorem ofName?_name (t : FieldType) : ofName? t.name = some t := by cases t <;> rfl

/-- Whether the values are numbers. -/
def isNumeric : FieldType → Bool
  | int | float | price | stock => true
  | _ => false

/-- Whether the values are texts that can be matched. -/
def isTextual : FieldType → Bool
  | text | keyword | select | reference => true
  | _ => false

/-- Whether a query of a kind is meaningful on the type: text is matched on textual types only, and
ranges need an order. -/
def supports (t : FieldType) : Query.Kind → Bool
  | .textMatch | .phrasePrefix | .phrase => t.isTextual
  | .range => t.isNumeric || t == date
  | _ => true

/-- How a facet on the type is shown. -/
def facetType (t : FieldType) : FacetType :=
  if t = category then .category else if t.isNumeric then .slider else .checkbox

end FieldType

end FacetedSearch
