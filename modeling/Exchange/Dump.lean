import Exchange.Failure
import Exchange.Json.Printer
import Exchange.Outcome
import Exchange.Text.Split

/-! # The dump of an outcome

An outcome for the eye: a section for every facet, in which a line gives a label, flush right, and a
value. `Dump.text` is the whole dump and `Dump.lines` its lines without the blank ones.
-/

namespace Exchange.Dump

/-- The width to which labels are filled up. -/
def labelWidth : Nat := 20

/-- Fill a text up with blanks on the left. -/
def flushRight (s : String) : String :=
  String.ofList (List.replicate (labelWidth - s.length) ' ') ++ s

/-- A line with a label and a value. -/
def entry (label value : String) : String := flushRight label ++ " = " ++ value

/-- A section: a blank line, its heading, its lines. -/
def titled (heading : String) (entries : List String) : List String :=
  "" :: (flushRight heading ++ ":") :: entries

/-- Texts in brackets, as they are. -/
def list (texts : List String) : String := Text.bracketed texts

/-- Names with values in braces. -/
def map (entries : List (String × String)) : String :=
  "\x7b" ++ Text.commaSeparated (entries.map fun (n, v) => n ++ "=" ++ v) ++ "\x7d"

/-- A text that may be missing. -/
def orNull (s : Option String) : String := s.getD "null"

/-- The request. -/
def request (r : Request) : List String :=
  titled "MockRequest" [
    entry "HTTP Method" r.method,
    entry "Request URI" r.uri,
    entry "Params" (map (r.parameters.map fun (n, vs) => (n, list vs))),
    entry "Headers" (map r.headers)]

/-- The handler and the interceptors. -/
def handler (h : Option Handler) (interceptors : List String) : List String :=
  let entries := match h with
    | none => [entry "Type" "null (no matching handler found)", entry "Method" "null"]
    | some (.method m) => [entry "Type" m.declaringType, entry "Method" m.text]
    | some (.other t) => [entry "Type" t, entry "Method" "Unknown"]
  titled "Handler"
    (entries ++ if interceptors.isEmpty then [] else [entry "Interceptors" (list interceptors)])

/-- The exception. -/
def exception (e : Option ResolvedException) : List String :=
  titled "Resolved Exception" (match e with
    | none => [entry "Type" "null (not raised)"]
    | some e => [entry "Type" e.type, entry "Message" e.message])

/-- An attribute with its value. -/
def namedValue (name : String) (value : Json) : List String :=
  [entry "Attribute" name, entry "value" value.text]

/-- The model and view. -/
def modelAndView (m : Option ModelAndView) : List String :=
  titled "ModelAndView" (match m with
    | none =>
      [entry "View" "null (view resolution was not required)",
        entry "Attributes" "null (view resolution was not required)"]
    | some m =>
      let attributes := m.model.flatMap fun (name, value) =>
        namedValue name value ++ match m.bindings.find? name with
          | some result => [entry "errors" result.text]
          | none => []
      entry "View" (orNull (m.view.map View.text)) ::
        if m.model.isEmpty then [entry "Attributes" "null"] else attributes)

/-- The flash attributes. -/
def flash (f : Option (Table Json)) : List String :=
  let attributes := (f.getD []).flatMap fun (name, value) => namedValue name value
  titled "FlashMap" (if attributes.isEmpty then [entry "Attributes" "null"] else attributes)

/-- The content of a response, or why it is no text. -/
def content (r : Response) : String :=
  match r.content with
  | .ok s => s
  | .error fault =>
    "<undecodable: " ++ (Failure.content (.body fault)).message ++ ">"

/-- The response. -/
def response (r : Response) : List String :=
  titled "MockResponse" [
    entry "status" (shown r.status),
    entry "error message" (orNull r.reason),
    entry "headers"
      (map (r.headers.distinctNames.map fun n => (n, (r.header? n).getD ""))),
    entry "content type" (orNull r.contentType),
    entry "body" (content r),
    entry "forwarded URL" (orNull r.forwardedUrl),
    entry "redirected URL" (orNull r.redirectedUrl),
    entry "included URLs" (list r.includedUrls),
    entry "cookies" (map (r.cookies.map fun c => (c.name, c.value)))]

/-- The line above all sections. -/
def separator : String := "-----------------------------------------"

/-- The parts of the dump, each of which is followed by a line feed. -/
def parts (o : Outcome) : List String :=
  separator :: request o.request ++ handler o.handler o.interceptors ++ exception o.exception ++
    modelAndView o.modelAndView ++ flash o.flash ++ response o.response ++ [""]

/-- The dump. -/
def text (o : Outcome) : String := String.join ((parts o).map fun line => line ++ "\n")

/-- A line without a carriage return at its end. -/
def withoutReturn (line : List Char) : List Char :=
  if line.getLast? = some '\r' then line.dropLast else line

/-- The lines of the dump that are not blank. Values may have line feeds in them, and a carriage
    return before a line feed goes with it. -/
def lines (o : Outcome) : List String :=
  let pieces := (Text.splitAll '\n' (text o).toList).map withoutReturn
  (pieces.filter fun line => line.any fun c => !Text.isBlank c).map String.ofList

end Exchange.Dump
