import Exchange.Matcher.Chain
import Exchange.Proofs.JsonPath.Value
import Exchange.Proofs.Query.Existence
import Exchange.Suite.Load
import Exchange.Suite.Printer
import Exchange.Proofs.Matcher.Chain
import Exchange.Proofs.Xml.NormalForm
import Exchange.Proofs.Xml.Reader
import Exchange.Proofs.Number.Equality
import Exchange.Proofs.Number.Nearest
import Exchange.Proofs.Xml.Similar
import Exchange.Proofs.Number.Conversion
import Exchange.Proofs.Data.Table
import Exchange.Proofs.Json.Sound
import Exchange.Proofs.Json.Comparison
import Exchange.Proofs.Json.Order
import Exchange.Proofs.Json.Containment
import Exchange.Proofs.Json.Integers
import Exchange.Proofs.Matcher.Facets
import Exchange.Proofs.Query.Modes
import Exchange.Proofs.Suite.Validation
import Exchange.Proofs.Suite.TextCheck
import Exchange.Proofs.Matcher.Errors
import Exchange.Proofs.XPath.Cache
import Exchange.Proofs.Http.Body
import Exchange.Proofs.XPath.Scan
import Exchange.Proofs.XPath.Bound
import Exchange.Proofs.XPath.Prefixes
import Exchange.Proofs.Matcher.OneFacet
import Exchange.Proofs.Matcher.Spellings
import Exchange.Proofs.Json.NumberText
import Exchange.Proofs.Json.Text
import Exchange.Proofs.Data.Fields
import Exchange.Proofs.Suite.Checks
import Exchange.Proofs.Suite.RoundTrip
import Exchange.Proofs.Query.Template
import Exchange.Proofs.Predicate.LetterCase
import Exchange.Proofs.Http.MediaType
import Exchange.Proofs.Http.MediaRange
import Exchange.Proofs.Http.MediaTypeText
import Exchange.Proofs.Http.Headers
import Exchange.Proofs.Http.Response
import Exchange.Proofs.Matcher.Attributes
import Exchange.Proofs.JsonPath.Emptiness
import Exchange.Proofs.Xml.FirstDifference
import Exchange.Proofs.Xml.Comments
import Exchange.Proofs.Http.HeaderNames
import Exchange.Proofs.Text.Quoted
import Exchange.Proofs.Text.Shown
import Exchange.Proofs.Matcher.Mismatches
import Exchange.Proofs.Number.NumeralValue
import Exchange.Proofs.Number.Numeral
import Exchange.Proofs.JsonPath.Number
import Exchange.Proofs.Dump
import Exchange.Proofs.Text.Places
import Exchange.Proofs.XPath.Places
