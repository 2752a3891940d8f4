import Exchange.Http.Body
import Exchange.Http.Headers
import Exchange.Http.MediaType

/-! # Responses

The response of an exchange, and the steps by which one is built. Setting the content type also
sets the header field and, where the media type names a character encoding, the encoding; a redirect
also sets the status and the `Location` field.
-/

namespace Exchange

/-- A cookie; without a maximal age it ends with the session. -/
structure Cookie where
  name : String
  value : String
  maxAge : Option Int := none
  path : Option String := none
  domain : Option String := none
  secure : Bool := false
  httpOnly : Bool := false
  deriving Repr, DecidableEq

/-- A response. -/
structure Response where
  status : Nat := 200
  reason : Option String := none
  headers : Headers := []
  cookies : List Cookie := []
  body : List UInt8 := []
  encoding : Option String := none
  contentType : Option String := none
  redirectedUrl : Option String := none
  forwardedUrl : Option String := none
  includedUrls : List String := []
  deriving DecidableEq

namespace Response

/-- Add a header field. -/
def addHeader (name value : String) (r : Response) : Response :=
  { r with headers := r.headers ++ [(name, value)] }

/-- The character encoding that a content type names. -/
def charsetOf? (contentType : String) : Option String :=
  match MediaType.read contentType with
  | .ok m => m.charset?
  | .error _ => none

/-- Set the content type, its header field, and the encoding that it names. -/
def setContentType (contentType : String) (r : Response) : Response :=
  { r with
    encoding := charsetOf? contentType <|> r.encoding
    headers := r.headers.without "Content-Type" ++ [("Content-Type", contentType)]
    contentType := some contentType }

/-- Redirect to a URL. -/
def redirect (url : String) (r : Response) : Response :=
  { r with
    status := 302
    headers := r.headers ++ [("Location", url)]
    redirectedUrl := some url }

/-- The first value of a header field. -/
def header? (name : String) (r : Response) : Option String := r.headers.first? name

/-- The first cookie of a name. -/
def cookie? (name : String) (r : Response) : Option Cookie :=
  r.cookies.find? fun c => c.name == name

/-- The body as a text in the declared encoding, or in UTF-8 where none is declared. -/
def content (r : Response) : Except Body.Fault String :=
  Body.decode r.body (r.encoding.getD "UTF-8")

/-- A step in building a response. -/
inductive Step where
  /-- Start over with a status. -/
  | start (status : Nat)
  | status (status : Nat)
  | error (status : Nat) (reason : String)
  | header (name value : String)
  | cookie (cookie : Cookie)
  | body (bytes : List UInt8)
  | contentType (text : String)
  | encoding (name : String)
  | redirect (url : String)
  | forward (url : String)
  | includeUrl (url : String)

/-- Take a step. -/
def apply (r : Response) : Step → Response
  | .start status => { status := status }
  | .status status => { r with status := status }
  | .error status reason => { r with status := status, reason := some reason }
  | .header name value => r.addHeader name value
  | .cookie cookie => { r with cookies := r.cookies ++ [cookie] }
  | .body bytes => { r with body := bytes }
  | .contentType text => r.setContentType text
  | .encoding name => { r with encoding := some name }
  | .redirect url => r.redirect url
  | .forward url => { r with forwardedUrl := some url }
  | .includeUrl url => { r with includedUrls := r.includedUrls ++ [url] }

/-- The response that some steps build. -/
def build (steps : List Step) : Response := steps.foldl apply {}

end Response

end Exchange
