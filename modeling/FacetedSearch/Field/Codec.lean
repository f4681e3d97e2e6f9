import FacetedSearch.Field.Basic

/-!
# Field definitions as JSON
-/

namespace FacetedSearch.FieldDefinition

/-- The names of the members, in their order. -/
def memberNames : List String :=
  ["code", "type", "label", "searchable", "filterable", "sortable", "used_for_rules",
   "spellchecked", "weight", "option_labels"]

def labelsToJson (labels : Table OptionLabels) : Json := labels.toJson (Table.toJson .string)

def labelsOfJson? (a : Json.Atoms) : Json → Option (Table OptionLabels) :=
  Table.ofJson? (Table.ofJson? a.text?)

def toJson (d : FieldDefinition) : Json :=
  .object [("code", .string d.code), ("type", .string d.type.name),
    ("label", Json.ofOption .string d.label), ("searchable", .bool d.searchable),
    ("filterable", .bool d.filterable), ("sortable", .bool d.sortable),
    ("used_for_rules", .bool d.usedForRules), ("spellchecked", .bool d.spellchecked),
    ("weight", .float d.weight), ("option_labels", labelsToJson d.optionLabels)]

def ofJson? (a : Json.Atoms) (j : Json) : Option FieldDefinition := do
  let r ← a.record? memberNames j
  let code ← r.require "code" a.text?
  let type ← r.require "type" (a.choice FieldType.ofName?)
  let label ← r.optional "label" a.text?
  let searchable ← r.getD "searchable" a.bool? false
  let filterable ← r.getD "filterable" a.bool? false
  let sortable ← r.getD "sortable" a.bool? false
  let usedForRules ← r.getD "used_for_rules" a.bool? false
  let spellchecked ← r.getD "spellchecked" a.bool? false
  let weight ← r.getD "weight" a.number? .one
  let optionLabels ← r.getD "option_labels" (labelsOfJson? a) .empty
  some { code, type, label, searchable, filterable, sortable, usedForRules, spellchecked, weight,
         optionLabels }

end FacetedSearch.FieldDefinition
