import FacetedSearch.Field.Kind

/-!
# Errors

What can be wrong with a configuration, a request or a response, and the text that says so.
-/

namespace FacetedSearch

/-- What is wrong with a query, or with what is to become one. -/
inductive QueryFault where
  | blankCode
  | blankField (kind : Query.Kind)
  | emptyText (field : String)
  | noBounds (field : String)
  | twoLowerBounds (field : String)
  | twoUpperBounds (field : String)
  | noValues (field : String)
  | noClauses
  | blankPath
  | notFilterable (field : String)
  | notFacetable (field : String)
  | needsOneEquality (field : String)
  | unsupported (kind : Query.Kind) (type : FieldType) (field : String)
  deriving DecidableEq, Repr

/-- What is wrong with a pipeline aggregation. -/
inductive PipelineFault where
  | noPath (name : String)
  | blank (name : String)
  | unnamedPaths (name : String)
  deriving DecidableEq, Repr

/-- What is wrong with a configuration. -/
inductive ConfigFault where
  | unreadable
  /-- A setting is at a position that its list cannot have. -/
  | noPlace (setting : String)
  | blankCatalogCode (id : UInt64)
  | repeatedCatalogId (id : UInt64)
  | repeatedCatalogCode (code : String)
  | unnamedContainer
  | repeatedContainer (name : String)
  | unknownCatalog (container catalog : String)
  | blankFieldCode (container : String)
  | repeatedField (container field : String)
  | invalidDefaultFilter (container : String) (fault : QueryFault)
  | intervalNotPositive
  deriving DecidableEq, Repr

/-- What is wrong with a backend response. -/
inductive ResponseFault where
  | notObject
  | noHitsSection
  | negativeTotal
  | noTotalValue
  | oddTotal
  | hitsNotArray
  | hitNotObject
  | hitWithoutId
  | aggregationsNotObject
  | noBuckets (facet : String)
  | bucketsNotArray (facet : String)
  | bucketWithoutKey (facet : String)
  | bucketWithoutCount (value facet : String)
  deriving DecidableEq, Repr

/-- Why a request cannot be compiled, or a response not be mapped. -/
inductive Error where
  | unknownContainer (catalog container : String)
  | unknownCatalog (identifier : String)
  | unknownField (field container : String)
  | unsortableField (field : String)
  | unsupportedQuery (kind : Query.Kind)
  | malformedQuery (fault : QueryFault)
  | invalidPipeline (fault : PipelineFault)
  | invalidResponse (fault : ResponseFault)
  | config (fault : ConfigFault)
  deriving DecidableEq, Repr

/-- How an error is to be surfaced. -/
inductive ErrorCategory where
  | notFound
  | validation
  | internal
  deriving DecidableEq, Repr

def ErrorCategory.name : ErrorCategory → String
  | notFound => "not_found"
  | validation => "validation"
  | internal => "internal"

def QueryFault.message : QueryFault → String
  | blankCode => "field code cannot be empty"
  | blankField kind => s!"{kind.name} query requires a field"
  | emptyText field => s!"match_phrase_prefix query on '{field}' requires a query text"
  | noBounds field => s!"range on '{field}' requires at least one of gt, gte, lt, lte"
  | twoLowerBounds field => s!"range on '{field}' cannot combine gt and gte"
  | twoUpperBounds field => s!"range on '{field}' cannot combine lt and lte"
  | noValues field => s!"terms query on '{field}' requires at least one value"
  | noClauses => "bool query requires at least one must, should or must_not clause"
  | blankPath => "nested query requires a path"
  | notFilterable field => s!"field '{field}' is not filterable"
  | notFacetable field => s!"field '{field}' is not filterable and cannot be faceted"
  | needsOneEquality field => s!"equalFilter on '{field}' needs exactly one of 'eq' or 'in'"
  | unsupported kind type field =>
    s!"{kind.name} filter is not supported on {type.name} field '{field}'"

def PipelineFault.message : PipelineFault → String
  | noPath name => s!"'{name}' has no buckets path"
  | blank name => s!"'{name}' has an empty name or buckets path"
  | unnamedPaths name => s!"'{name}' needs named buckets paths for its script"

def ConfigFault.message : ConfigFault → String
  | unreadable => "the settings cannot be read"
  | noPlace setting => s!"the list has no place for '{setting}'"
  | blankCatalogCode id => s!"catalog {id} has an empty code"
  | repeatedCatalogId id => s!"duplicate catalog id {id}"
  | repeatedCatalogCode code => s!"duplicate catalog code '{code}'"
  | unnamedContainer => "containers need a name and an entity"
  | repeatedContainer name => s!"duplicate container '{name}'"
  | unknownCatalog container catalog =>
    s!"container '{container}' references unknown catalog '{catalog}'"
  | blankFieldCode container => s!"container '{container}' has a field with an empty code"
  | repeatedField container field => s!"container '{container}' declares field '{field}' twice"
  | invalidDefaultFilter container fault =>
    s!"container '{container}' has an invalid default filter: Malformed query: {fault.message}"
  | intervalNotPositive => "search.default_histogram_interval must be positive"

def ResponseFault.message : ResponseFault → String
  | notObject => "response is not an object"
  | noHitsSection => "missing 'hits' section"
  | negativeTotal => "negative hit total"
  | noTotalValue => "'hits.total.value' is missing"
  | oddTotal => "'hits.total' has an unexpected shape"
  | hitsNotArray => "'hits.hits' is not an array"
  | hitNotObject => "hit is not an object"
  | hitWithoutId => "hit without '_id'"
  | aggregationsNotObject => "'aggregations' is not an object"
  | noBuckets facet => s!"aggregation '{facet}' has no buckets"
  | bucketsNotArray facet => s!"buckets of '{facet}' are not an array"
  | bucketWithoutKey facet => s!"bucket of '{facet}' has no key"
  | bucketWithoutCount value facet => s!"bucket '{value}' of '{facet}' has no doc_count"

namespace Error

def message : Error → String
  | unknownContainer catalog container =>
    s!"Unknown search container '{container}' for catalog '{catalog}'"
  | unknownCatalog identifier => s!"Unknown catalog: {identifier}"
  | unknownField field container => s!"Unknown field '{field}' in container '{container}'"
  | unsortableField field => s!"Field is not sortable: {field}"
  | unsupportedQuery kind => s!"No assembler registered for query type '{kind.name}'"
  | malformedQuery fault => s!"Malformed query: {fault.message}"
  | invalidPipeline fault => s!"Invalid pipeline aggregation: {fault.message}"
  | invalidResponse fault => s!"Invalid backend response: {fault.message}"
  | config fault => s!"Configuration error: {fault.message}"

def category : Error → ErrorCategory
  | unknownContainer .. | unknownCatalog _ => .notFound
  | unknownField .. | unsortableField _ | malformedQuery _ => .validation
  | unsupportedQuery _ | invalidPipeline _ | invalidResponse _ | config _ => .internal

end Error

/-- The result of what may fail. -/
abbrev Result (α : Type) := Except Error α

end FacetedSearch
