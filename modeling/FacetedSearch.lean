import FacetedSearch.Json.Reader
import FacetedSearch.Main
import FacetedSearch.Sort.Hits
import FacetedSearch.Proofs.Query.Dispatch
import FacetedSearch.Proofs.Query.Legible
import FacetedSearch.Proofs.Query.Rendering
import FacetedSearch.Proofs.Request.Filters
import FacetedSearch.Proofs.Request.Wire
import FacetedSearch.Proofs.Request.Capabilities
import FacetedSearch.Proofs.Sort.Hits
import FacetedSearch.Proofs.Sort.Policy
import FacetedSearch.Proofs.Sort.Overrides
import FacetedSearch.Proofs.Sort.Stability
import FacetedSearch.Proofs.Container.Fields
import FacetedSearch.Proofs.Response.Facets
import FacetedSearch.Proofs.Response.Acceptance
import FacetedSearch.Proofs.Response.Unwrapping
import FacetedSearch.Proofs.Request.Aggregations
import FacetedSearch.Proofs.Container.Catalogs
import FacetedSearch.Proofs.Query.Scalar
import FacetedSearch.Proofs.Criterion.Legality
import FacetedSearch.Proofs.Criterion.Meaning
import FacetedSearch.Proofs.Request.Respelling
import FacetedSearch.Proofs.Container.History
import FacetedSearch.Proofs.Request.TextSearch
import FacetedSearch.Proofs.Request.Paths
import FacetedSearch.Proofs.Json.Record
import FacetedSearch.Proofs.Query.Codec
import FacetedSearch.Proofs.Criterion.Codec
import FacetedSearch.Proofs.Config.Codec
import FacetedSearch.Proofs.Request.Codec
import FacetedSearch.Proofs.Container.Definitions
import FacetedSearch.Proofs.Container.IndexNames
import FacetedSearch.Proofs.Query.Construction
import FacetedSearch.Proofs.Config.Validity
import FacetedSearch.Proofs.Query.Payload
import FacetedSearch.Proofs.Aggregation.Answers
import FacetedSearch.Proofs.Field.Flattening
import FacetedSearch.Proofs.Sort.Choices
import FacetedSearch.Proofs.Sort.Identifier
import FacetedSearch.Proofs.Sort.Integers
import FacetedSearch.Proofs.Sort.Mirror
import FacetedSearch.Proofs.Response.Pages
import FacetedSearch.Proofs.Query.Distinct
import FacetedSearch.Proofs.Criterion.Values
