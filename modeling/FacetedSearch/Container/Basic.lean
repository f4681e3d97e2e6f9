import FacetedSearch.Config.Basic

/-!
# Containers

A container as it is searched in one catalog. A field is referred to by its code or by the
flattened form of its code.
-/

namespace FacetedSearch

/-- A container in a catalog. -/
structure Container where
  name : String
  catalog : Catalog
  indexName : String
  defaultFilters : List Query := []
  fields : List Field := []
  sortOverrides : List SortOverride := []

namespace Container

/-- The fields that a text query looks at. -/
def searchableFields (c : Container) : List Field := c.fields.filter (·.searchable)

/-- The fields that a sort may be on. -/
def sortableFields (c : Container) : List Field := c.fields.filter (·.sortable)

/-- The field that a reference names; of several the one declared last. -/
def field? (c : Container) (reference : String) : Option Field :=
  c.fields.reverse.find? fun f => f.code == reference || f.key == reference

/-- The field that a reference names, or the error that there is none. -/
def requireField (c : Container) (reference : String) : Result Field :=
  match c.field? reference with
  | some f => .ok f
  | none => .error (.unknownField reference c.name)

/-- The first sort override for the field that a reference names. -/
def sortOverride? (c : Container) (reference : String) : Option SortOverride :=
  c.sortOverrides.find? fun o => o.isFor reference

theorem field?_mem {c : Container} {reference : String} {f : Field}
    (h : c.field? reference = some f) : f ∈ c.fields :=
  List.mem_reverse.1 (List.mem_of_find?_eq_some h)

theorem field?_names {c : Container} {reference : String} {f : Field}
    (h : c.field? reference = some f) : f.code = reference ∨ f.key = reference := by
  simpa using List.find?_some h

end Container

end FacetedSearch
