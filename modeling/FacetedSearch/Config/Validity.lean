import FacetedSearch.Config.Basic

/-!
# Valid configurations

Which configurations can be compiled against. The first fault in the order of the declarations is
reported, catalogs before containers and the settings last.
-/

namespace FacetedSearch.Config

/-- Check catalogs, given the ones before them. -/
def checkCatalogs (seen : List Catalog) : List Catalog → Except ConfigFault Unit
  | [] => .ok ()
  | c :: rest =>
    if Text.isBlank c.code then .error (.blankCatalogCode c.id)
    else if seen.any (·.id == c.id) then .error (.repeatedCatalogId c.id)
    else if seen.any (·.code == c.code) then .error (.repeatedCatalogCode c.code)
    else checkCatalogs (c :: seen) rest

/-- Check the fields of a container, given the codes before them. -/
def checkFields (container : String) (seen : List String) :
    List FieldDefinition → Except ConfigFault Unit
  | [] => .ok ()
  | f :: rest =>
    if Text.isBlank f.code then .error (.blankFieldCode container)
    else if seen.contains f.code then .error (.repeatedField container f.code)
    else checkFields container (f.code :: seen) rest

/-- Check the catalogs that a container is available in. -/
def checkAvailability (d : ContainerDefinition) (codes : List String) : Except ConfigFault Unit :=
  match d.catalogs.find? fun code => !codes.contains code with
  | some code => .error (.unknownCatalog d.name code)
  | none => .ok ()

/-- Check the default filters of a container. -/
def checkFilters (container : String) (filters : List Query) : Except ConfigFault Unit :=
  (Query.checkList filters).mapError (.invalidDefaultFilter container)

/-- Check containers, given the codes of the catalogs and the names of the containers before
them. -/
def checkContainers (codes seen : List String) : List ContainerDefinition → Except ConfigFault Unit
  | [] => .ok ()
  | d :: rest =>
    if Text.isBlank d.name || Text.isBlank d.entity then .error .unnamedContainer
    else if seen.contains d.name then .error (.repeatedContainer d.name)
    else do
      checkAvailability d codes
      checkFields d.name [] d.fields
      checkFilters d.name d.defaultFilters
      checkContainers codes (d.name :: seen) rest

/-- Check the settings. -/
def checkSearch (s : SearchSettings) : Except ConfigFault Unit :=
  if !s.defaultHistogramInterval.isNaN && !s.defaultHistogramInterval.isPositive then
    .error .intervalNotPositive
  else .ok ()

/-- Check a whole configuration. -/
def check (c : Config) : Except ConfigFault Unit := do
  checkCatalogs [] c.catalogs
  checkContainers (c.catalogs.map (·.code)) [] c.containers
  checkSearch c.search

/-- The outcome of `check` as a result. -/
def validate (c : Config) : Result Unit := c.check.mapError .config

end FacetedSearch.Config
