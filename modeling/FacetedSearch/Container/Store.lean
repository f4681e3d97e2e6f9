import FacetedSearch.Config.Validity
import FacetedSearch.Container.Basic

/-!
# Stores

Where containers come from: a catalog is looked up by its code or number, and then a container in
it by its name.
-/

namespace FacetedSearch

/-- What answers for catalogs and containers. -/
structure Source where
  catalog : String → Result Catalog
  container : Catalog → String → Result Container

/-- The catalogs and containers of a valid configuration. -/
structure Store where
  indexPrefix : String
  catalogs : List Catalog
  containers : List ContainerDefinition

namespace Store

/-- The store of a configuration, which has to be valid. -/
def ofConfig? (c : Config) : Result Store := do
  c.validate
  .ok { indexPrefix := c.search.indexPrefix, catalogs := c.catalogs, containers := c.containers }

/-- The name of the index that holds an entity of a catalog. -/
def indexName (s : Store) (catalog : Catalog) (entity : String) : String :=
  s.indexPrefix ++ catalog.code ++ "_" ++ entity

/-- The first catalog of that code or number. -/
def catalog (s : Store) (identifier : String) : Result Catalog :=
  match s.catalogs.find? (·.isNamed identifier) with
  | some c => .ok c
  | none => .error (.unknownCatalog identifier)

/-- The definition of a name, if it is available in the catalog. -/
def definition? (s : Store) (catalog : Catalog) (name : String) : Option ContainerDefinition :=
  (s.containers.find? (·.name == name)).filter (·.isAvailableIn catalog.code)

/-- The container of a name in a catalog. -/
def container (s : Store) (catalog : Catalog) (name : String) : Result Container :=
  match s.definition? catalog name with
  | none => .error (.unknownContainer catalog.code name)
  | some d => do
    let fields ← d.fields.mapM Field.ofDefinition?
    .ok { name := d.name, catalog, indexName := s.indexName catalog d.entity,
          defaultFilters := d.defaultFilters, fields, sortOverrides := d.sortOverrides }

/-- The store as a source. -/
def source (s : Store) : Source := ⟨s.catalog, s.container⟩

end Store

end FacetedSearch
