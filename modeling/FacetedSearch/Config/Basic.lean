import FacetedSearch.Field.Codec
import FacetedSearch.Number.Numeral
import FacetedSearch.Query.Codec
import FacetedSearch.Sort.Basic

/-!
# Configuration

The settings of the compiler, the catalogs, and the containers that can be searched in them.
-/

namespace FacetedSearch

/-- Settings of the log. -/
structure LoggingSettings where
  level : String := "info"
  json : Bool := false

/-- How criteria on faceted fields and facet counts go together. -/
inductive FacetFilterMode where
  /-- A facet is counted under the criteria of all other facets, not under its own. -/
  | excludeSelf
  /-- Every criterion restricts every facet. -/
  | applyAll
  deriving DecidableEq, Repr, Inhabited

/-- Settings of the compiler. -/
structure SearchSettings where
  indexPrefix : String := ""
  identifierField : String := "id"
  fulltextField : String := "search"
  defaultFacetSize : UInt32 := 10
  defaultHistogramInterval : Binary64 := .one
  facetFilterMode : FacetFilterMode := .excludeSelf

/-- A catalog. -/
structure Catalog where
  id : UInt64
  code : String
  name : Option String := none
  deriving DecidableEq, Repr

/-- A container as it is declared: available in the catalogs listed, or in all if none is. -/
structure ContainerDefinition where
  name : String
  entity : String
  catalogs : List String := []
  defaultFilters : List Query := []
  fields : List FieldDefinition := []
  sortOverrides : List SortOverride := []

/-- A whole configuration. -/
structure Config where
  logging : LoggingSettings := {}
  search : SearchSettings := {}
  catalogs : List Catalog := []
  containers : List ContainerDefinition := []

namespace LoggingSettings

def toJson (s : LoggingSettings) : Json :=
  .object [("level", .string s.level), ("json", .bool s.json)]

def ofJson? (a : Json.Atoms) (j : Json) : Option LoggingSettings := do
  let r ← a.record? ["level", "json"] j
  let level ← r.getD "level" a.text? "info"
  let json ← r.getD "json" a.bool? false
  some { level, json }

end LoggingSettings

namespace FacetFilterMode

def name : FacetFilterMode → String
  | excludeSelf => "exclude_self"
  | applyAll => "apply_all"

def ofName? : String → Option FacetFilterMode
  | "exclude_self" => some excludeSelf
  | "apply_all" => some applyAll
  | _ => none

end FacetFilterMode

namespace SearchSettings

def toJson (s : SearchSettings) : Json :=
  .object [("index_prefix", .string s.indexPrefix), ("identifier_field", .string s.identifierField),
    ("fulltext_field", .string s.fulltextField),
    ("default_facet_size", Json.ofUInt32 s.defaultFacetSize),
    ("default_histogram_interval", .float s.defaultHistogramInterval),
    ("facet_filter_mode", .string s.facetFilterMode.name)]

def ofJson? (a : Json.Atoms) (j : Json) : Option SearchSettings := do
  let r ← a.record? ["index_prefix", "identifier_field", "fulltext_field", "default_facet_size",
    "default_histogram_interval", "facet_filter_mode"] j
  let indexPrefix ← r.getD "index_prefix" a.text? ""
  let identifierField ← r.getD "identifier_field" a.text? "id"
  let fulltextField ← r.getD "fulltext_field" a.text? "search"
  let defaultFacetSize ← r.getD "default_facet_size" a.uint32? 10
  let defaultHistogramInterval ← r.getD "default_histogram_interval" a.number? .one
  let facetFilterMode ← r.getD "facet_filter_mode" (a.choice FacetFilterMode.ofName?) .excludeSelf
  some { indexPrefix, identifierField, fulltextField, defaultFacetSize, defaultHistogramInterval,
         facetFilterMode }

end SearchSettings

namespace Catalog

/-- Whether an identifier is the catalog's code or its number. -/
def isNamed (c : Catalog) (identifier : String) : Bool :=
  c.code == identifier || Numeral.uint64? identifier == some c.id

def toJson (c : Catalog) : Json :=
  .object [("id", Json.ofUInt64 c.id), ("code", .string c.code),
    ("name", Json.ofOption .string c.name)]

def ofJson? (a : Json.Atoms) (j : Json) : Option Catalog := do
  let r ← a.record? ["id", "code", "name"] j
  let id ← r.require "id" a.uint64?
  let code ← r.require "code" a.text?
  let name ← r.optional "name" a.text?
  some { id, code, name }

end Catalog

namespace ContainerDefinition

/-- Whether the container may be searched in a catalog. -/
def isAvailableIn (d : ContainerDefinition) (catalog : String) : Bool :=
  d.catalogs.isEmpty || d.catalogs.contains catalog

def toJson (d : ContainerDefinition) : Json :=
  .object [("name", .string d.name), ("entity", .string d.entity),
    ("catalogs", .array (d.catalogs.map .string)),
    ("default_filters", .array (d.defaultFilters.map Query.toJson)),
    ("fields", .array (d.fields.map FieldDefinition.toJson)),
    ("sort_overrides", .array (d.sortOverrides.map SortOverride.toJson))]

def ofJson? (a : Json.Atoms) (j : Json) : Option ContainerDefinition := do
  let r ← a.record? ["name", "entity", "catalogs", "default_filters", "fields", "sort_overrides"] j
  let name ← r.require "name" a.text?
  let entity ← r.require "entity" a.text?
  let catalogs ← r.listD "catalogs" a.text?
  let defaultFilters ← r.listD "default_filters" (Query.ofTagged? a.tagging)
  let fields ← r.listD "fields" (FieldDefinition.ofJson? a)
  let sortOverrides ← r.listD "sort_overrides" (SortOverride.ofJson? a)
  some { name, entity, catalogs, defaultFilters, fields, sortOverrides }

end ContainerDefinition

namespace Config

def toJson (c : Config) : Json :=
  .object [("logging", c.logging.toJson), ("search", c.search.toJson),
    ("catalogs", .array (c.catalogs.map Catalog.toJson)),
    ("containers", .array (c.containers.map ContainerDefinition.toJson))]

def ofJson? (a : Json.Atoms) (j : Json) : Option Config := do
  let r ← a.record? ["logging", "search", "catalogs", "containers"] j
  let logging ← r.getD "logging" (LoggingSettings.ofJson? a) {}
  let search ← r.getD "search" (SearchSettings.ofJson? a) {}
  let catalogs ← r.listD "catalogs" (Catalog.ofJson? a)
  let containers ← r.listD "containers" (ContainerDefinition.ofJson? a)
  some { logging, search, catalogs, containers }

end Config

end FacetedSearch
