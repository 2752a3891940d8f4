import Exchange.Suite.Reader
import Exchange.Suite.Validation
import Exchange.Text.AsciiCase
import Exchange.Text.Split

/-! # Loading suites

A suite is loaded from a text in one of two formats, or from a file, whose name tells the format.
Only valid suites are loaded; otherwise the fault tells why, from the outside in.
-/

namespace Exchange.Suite

/-- The formats of suites. -/
inductive Format where
  | yaml
  | json
  deriving Repr, DecidableEq

/-- The name of a format. -/
def Format.name : Format → String
  | yaml => "YAML"
  | json => "JSON"

/-- Why a suite cannot be loaded. -/
inductive LoadFault where
  /-- The text is no suite. -/
  | unreadable (format : Format)
  | invalid (fault : Fault)
  /-- There is no such file. -/
  | noFile (file : String)
  /-- The suite in a file cannot be loaded. -/
  | inFile (file : String) (fault : LoadFault)
  deriving Repr, DecidableEq

namespace LoadFault

/-- The fault in words, from the outside in. -/
def messages : LoadFault → List String
  | unreadable format => ["Failed to parse expectation suite as " ++ format.name]
  | invalid fault => [fault.message]
  | noFile file => ["Failed to read expectation suite " ++ file]
  | inFile file fault => ("Invalid expectation suite " ++ file) :: fault.messages

/-- The failure behind a fault. -/
def cause? : LoadFault → Option Failure
  | invalid fault => fault.problem.cause?
  | inFile _ fault => fault.cause?
  | _ => none

end LoadFault

/-- Read a text as a suite. -/
def read? : Format → String → Option Suite
  | .yaml => ofYaml?
  | .json => ofJson?

/-- Load a suite from a text. -/
def load (format : Format) (text : String) : Except LoadFault Suite :=
  match read? format text with
  | none => .error (.unreadable format)
  | some suite => (suite.validate.mapError .invalid).map fun _ => suite

/-- The last part of the path of a file. -/
def fileName (path : String) : List Char :=
  ((Text.splitAll '/' path.toList).getLast?).getD []

/-- The extension of a file: what follows the last dot of its name, unless that dot comes first. -/
def extension? (path : String) : Option String :=
  let name := fileName path
  let behind := (name.reverse.takeWhile (· ≠ '.')).reverse
  if behind.length + 1 < name.length then some (String.ofList behind) else none

/-- The format of a file; all but those with the extension of JSON hold YAML. -/
def Format.ofFile (path : String) : Format :=
  if (extension? path).any fun e => Text.sameIgnoringCase e "json" then .json else .yaml

/-- Load a suite from the content of a file, if there is such a file. -/
def loadFile (path : String) (content : Option String) : Except LoadFault Suite :=
  match content with
  | none => .error (.noFile path)
  | some text => (load (.ofFile path) text).mapError (.inFile path)

end Exchange.Suite
