import Exchange.Http.Response
import Exchange.JsonPath.Query
import Exchange.Matcher.Check
import Exchange.XPath.Query
import Exchange.Xml.Similar

/-! # Expectations about the content

The body as text, bytes, JSON or XML, its content type and its character encoding. An expectation
whose own text has to be read is built by a function that may fail.
-/

namespace Exchange

/-- An expectation about the content of a response. -/
inductive ContentMatcher where
  | text (text : String)
  | satisfies (p : Predicate String)
  | passes (check : TextPredicate)
  | bytes (bytes : List UInt8)
  | type (expected : MediaType)
  | compatible (expected : MediaType)
  | encoding (name : String)
  /-- JSON with at least the members of the expected value. -/
  | json (expected : Json)
  /-- JSON equal to the expected value. -/
  | exactJson (expected : Json)
  /-- XML similar to the expected document. -/
  | xml (expected : XmlDocument)
  /-- XML whose root element satisfies a predicate. -/
  | root (p : Predicate XmlNode)

namespace ContentMatcher

/-- How the content is called in failures. -/
def label : String := "Response content"

/-- The content of a response as text. -/
def contentOf (r : Response) : Except Failure String :=
  r.content.mapError fun fault => .content (.body fault)

/-- Read a media type. -/
def readMediaType (text : String) : Except Failure MediaType :=
  (MediaType.read text).mapError (.mediaType text)

/-- The content type of a response as written and as read. -/
def mediaTypeOf (r : Response) : Except Failure (String × MediaType) := do
  let raw ← Ruling.needed "Content type" r.contentType
  let m ← readMediaType raw
  .ok (raw, m)

/-- An XML document is similar to the expected one. -/
def similar (expected actual : XmlDocument) : Ruling :=
  match Xml.dissimilarity? expected actual with
  | some dissimilarity => Ruling.fail (label ++ ", " ++ dissimilarity.words)
  | none => Ruling.pass

/-- The expression that selects the root element. -/
def rootElement : XPathQuery := ⟨⟨"/*", []⟩⟩

/-- Does the expectation hold of a response? -/
def rule (r : Response) : ContentMatcher → Ruling
  | text s => do
    let content ← contentOf r
    Ruling.equal label s content
  | satisfies p => do
    let content ← contentOf r
    Ruling.satisfies label p content
  | passes check => do
    let content ← contentOf r
    Ruling.passes label check (some content)
  | bytes bs => Ruling.equal label bs r.body
  | type expected => do
    let (raw, actual) ← mediaTypeOf r
    if actual.same expected then Ruling.pass
    else Ruling.mismatch "Content type mismatch" expected.text raw
  | compatible expected => do
    let (raw, actual) ← mediaTypeOf r
    Ruling.require (expected.compatible actual)
      ("Content type [" ++ raw ++ "] is not compatible with [" ++ expected.text ++ "]")
  | encoding name => do
    let actual ← Ruling.needed "Character encoding" r.encoding
    if Text.sameIgnoringCase actual name then Ruling.pass
    else Ruling.mismatch "Character encoding mismatch" name actual
  | json expected => do
    let actual ← JsonPath.readDocument (← contentOf r)
    if expected.within actual then Ruling.pass
    else Ruling.mismatch label expected.text actual.text
  | exactJson expected => do
    let actual ← JsonPath.readDocument (← contentOf r)
    Ruling.equalJson label expected actual
  | xml expected => do
    let actual ← XPath.readDocument (← contentOf r)
    similar expected actual
  | root p => do
    let document ← XPath.readDocument (← contentOf r)
    let found ← Query.Engine.evaluate rootElement document .singleNode
    match found.node? with
    | some node => Ruling.satisfies label p node
    | none => Ruling.fail "Response content has no root element"

/-- The content type equals the one that a text says. -/
def ofType (text : String) : Except Failure ContentMatcher := (readMediaType text).map type

/-- The content type is compatible with the one that a text says. -/
def compatibleWith (text : String) : Except Failure ContentMatcher :=
  (readMediaType text).map compatible

/-- The content is JSON with at least the members of what a text says. -/
def ofJson (text : String) : Except Failure ContentMatcher :=
  (JsonPath.readDocument text).map json

/-- The content is JSON equal to what a text says. -/
def ofExactJson (text : String) : Except Failure ContentMatcher :=
  (JsonPath.readDocument text).map exactJson

/-- The content is XML similar to what a text says. -/
def ofXml (text : String) : Except Failure ContentMatcher := (XPath.readDocument text).map xml

end ContentMatcher

/-- Compare two XML texts. -/
def xmlSimilar (expected actual : String) : Ruling := do
  let expected ← XPath.readDocument expected
  let actual ← XPath.readDocument actual
  ContentMatcher.similar expected actual

end Exchange
