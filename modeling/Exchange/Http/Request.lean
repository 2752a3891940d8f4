import Exchange.Http.Headers
import Exchange.Json.Value

/-! # Requests

The request of an exchange, and the steps by which one is built.
-/

namespace Exchange

/-- A request with its parameters, header fields, and attributes of the request and the session. -/
structure Request where
  method : String := "GET"
  uri : String := "/"
  parameters : Table (List String) := []
  headers : Headers := []
  attributes : Table Json := []
  session : Table Json := []

namespace Request

/-- Add a value to a parameter. -/
def addParameter (name value : String) (r : Request) : Request :=
  let values := (r.parameters.find? name).getD []
  { r with parameters := r.parameters.insert name (values ++ [value]) }

/-- Add a header field. -/
def addHeader (name value : String) (r : Request) : Request :=
  { r with headers := r.headers ++ [(name, value)] }

/-- Set an attribute of the request. -/
def setAttribute (name : String) (value : Json) (r : Request) : Request :=
  { r with attributes := r.attributes.insert name value }

/-- Set an attribute of the session. -/
def setSession (name : String) (value : Json) (r : Request) : Request :=
  { r with session := r.session.insert name value }

/-- The first value of a header field. -/
def header? (name : String) (r : Request) : Option String := r.headers.first? name

/-- The first value of a parameter. -/
def parameter? (name : String) (r : Request) : Option String :=
  (r.parameters.find? name).bind List.head?

/-- A step in building a request. -/
inductive Step where
  /-- Start over with a method and a URI. -/
  | start (method uri : String)
  | parameter (name value : String)
  | header (name value : String)
  | attribute (name : String) (value : Json)
  | session (name : String) (value : Json)

/-- Take a step. -/
def apply (r : Request) : Step → Request
  | .start method uri => { method := method, uri := uri }
  | .parameter name value => r.addParameter name value
  | .header name value => r.addHeader name value
  | .attribute name value => r.setAttribute name value
  | .session name value => r.setSession name value

/-- The request that some steps build. -/
def build (steps : List Step) : Request := steps.foldl apply {}

end Request

end Exchange
