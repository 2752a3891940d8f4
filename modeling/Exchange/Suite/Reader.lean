import Exchange.Data.Fields
import Exchange.Json.Skim
import Exchange.Suite.Basic
import Exchange.Yaml.Schema

/-! # Reading suites

A suite is read from JSON or from YAML. The two differ in what a text may be: in YAML the name of a
suite and the kind of an expectation are the text of any scalar, and nothing at all is an empty
suite or an empty list of expectations. Within an expectation both formats are alike.
-/

namespace Exchange

/-- A field that has to be given. -/
def required {α : Type} (read : Datum → Option α) (value : Option Datum) : Option α :=
  value.bind read

/-- A field with a default. -/
def defaulting {α : Type} (default : α) (read : Datum → Option α) : Option Datum → Option α
  | none => some default
  | some datum => read datum

/-- Read what a text check asks. -/
def TextMatcher.read? (d : Datum) : Option TextMatcher := do
  match ← d.alternative? names with
  | (0, v) => v.text?.map (compare .equals)
  | (1, v) => v.text?.map (compare .contains)
  | (2, v) => v.text?.map (compare .startsWith)
  | (3, v) => v.text?.map (compare .endsWith)
  | (4, v) => v.text?.map pattern
  | (5, v) => v.bool?.map presence
  | _ => none

/-- Read the options of a text check. -/
def TextOptions.read? (d : Datum) : Option TextOptions := do
  match ← d.fields? fieldNames with
  | [caseSensitive, negated] =>
    let caseSensitive ← defaulting true Datum.bool? caseSensitive
    let negated ← defaulting false Datum.bool? negated
    some ⟨caseSensitive, negated⟩
  | _ => none

/-- Read a text check. -/
def TextCheck.read? (d : Datum) : Option TextCheck := do
  match ← d.fields? fieldNames with
  | [matcher, options] =>
    let matcher ← required TextMatcher.read? matcher
    let options ← defaulting {} TextOptions.read? options
    some ⟨matcher, options⟩
  | _ => none

/-- Read a query check. -/
def QueryCheck.read? (d : Datum) : Option QueryCheck := do
  match ← d.alternative? names with
  | (0, v) => v.bool?.map present
  | (1, v) => (v.natBelow? (Nat.pow 2 64)).map nodeCount
  | (2, v) => (TextCheck.read? v).map text
  | (3, v) => v.number?.map number
  | (4, v) => v.bool?.map boolean
  | (5, v) => v.toJson?.map value
  | _ => none

namespace Expectation

/-- Read an expectation of a kind from the values of its fields. -/
def ofFields? : Kind → List (Option Datum) → Option Expectation
  | .status, [code] => (required (Datum.natBelow? (Nat.pow 2 16)) code).map status
  | .statusReason, [check] => (required TextCheck.read? check).map statusReason
  | .content, [check] => (required TextCheck.read? check).map content
  | .contentType, [value] => (required Datum.text? value).map contentType
  | .encoding, [value] => (required Datum.text? value).map encoding
  | .header, [name, check] => do
    let name ← required Datum.text? name
    let check ← required TextCheck.read? check
    some (header name check)
  | .cookie, [name, check] => do
    let name ← required Datum.text? name
    let check ← required TextCheck.read? check
    some (cookie name check)
  | .jsonPath, [expression, check] => do
    let expression ← required Datum.text? expression
    let check ← required QueryCheck.read? check
    some (jsonPath expression check)
  | .xpath, [expression, namespaces, check] => do
    let expression ← required Datum.text? expression
    let namespaces ← defaulting [] Datum.textTable? namespaces
    let check ← required QueryCheck.read? check
    some (xpath expression namespaces check)
  | .redirectedUrl, [url] => (required Datum.text? url).map redirectedUrl
  | .forwardedUrl, [url] => (required Datum.text? url).map forwardedUrl
  | .viewName, [check] => (required TextCheck.read? check).map viewName
  | .modelAttributeExists, [names] => (required Datum.texts? names).map modelAttributeExists
  | .flashAttributeExists, [names] => (required Datum.texts? names).map flashAttributeExists
  | .handlerType, [typeName] => (required Datum.text? typeName).map handlerType
  | .handlerMethod, [declaringType, name] => do
    let declaringType ← defaulting none Datum.optionalText? declaringType
    let name ← required Datum.text? name
    some (handlerMethod declaringType name)
  | _, _ => none

/-- Read an expectation of a kind from the datum that holds its fields. -/
def ofKind? (kind : String) (fields : Datum) : Option Expectation := do
  let kind ← Kind.ofName? kind
  ofFields? kind (← fields.fields? kind.fieldNames)

/-- The value of the entry that names the kind, which there is exactly once, and the other
    entries. -/
def takeKind? {α β : Type} (isKind : α → Bool) (entries : List (α × β)) :
    Option (β × List (α × β)) :=
  match entries.partition fun (key, _) => isKind key with
  | ([(_, value)], others) => some (value, others)
  | _ => none

/-- Does a key say that the kind follows? -/
def isKindKey : Datum → Bool
  | .string name => name == kindField
  | _ => false

/-- Read an expectation. -/
def ofDatum? : Datum → Option Expectation
  | .record entries => do
    let (kind, others) ← takeKind? isKindKey entries
    ofKind? (← kind.text?) (.record others)
  | .list (kind :: values) => do ofKind? (← kind.text?) (.list values)
  | _ => none

/-- The depth that is left for what an expectation holds in a YAML suite. -/
def yamlDepth : Nat := Yaml.maxDepth - 3

/-- Read an expectation of a YAML suite. -/
def ofNode? (node : Yaml.Node) : Option Expectation :=
  match node.target with
  | .mapping tag entries =>
    if Yaml.isOwnTag tag then none
    else do
      let entries ← entries.mapM fun (key, value) => (key.toDatum? yamlDepth).map (·, value)
      let (kind, others) ← takeKind? isKindKey entries
      let others ← others.mapM fun (key, value) => (value.toDatum? yamlDepth).map (key, ·)
      ofKind? (← kind.text?) (.record others)
  | .sequence tag (kind :: values) =>
    if Yaml.isOwnTag tag then none
    else do
      let kind ← kind.text?
      let values ← values.mapM fun value => value.toDatum? yamlDepth
      ofKind? kind (.list values)
  | _ => none

end Expectation

namespace Suite

/-- Read a suite from a datum. -/
def ofDatum? (d : Datum) : Option Suite := do
  match ← d.fields? fieldNames with
  | [name, expectations] =>
    let name ← defaulting none Datum.optionalText? name
    let items ← defaulting [] (fun
      | .list items => some items
      | _ => none) expectations
    let expectations ← items.mapM Expectation.ofDatum?
    some ⟨name, expectations⟩
  | _ => none

/-- Read a suite from JSON. -/
def ofJson? (text : String) : Option Suite := (Json.readFields? fieldNames text).bind ofDatum?

/-- The value of the entry of a name in a mapping, where all keys are scalars; no name that is
    asked for stands there twice. -/
def entry? (name : String) (entries : List (Yaml.Node × Yaml.Node)) :
    Option (Option Yaml.Node) := do
  let entries ← entries.mapM fun (key, value) => key.text?.map (·, value)
  match entries.filter fun (key, _) => key == name with
  | [] => some none
  | [(_, value)] => some (some value)
  | _ => none

/-- Read the expectations of a suite. -/
def expectationsOfNode? (node : Yaml.Node) : Option (List Expectation) :=
  match node.target with
  | .sequence _ items => items.mapM Expectation.ofNode?
  | node => if node.isEmpty then some [] else none

/-- Are so few aliases followed in reading some nodes that it may be done? The events are those of
    the whole document. -/
def mayFollow (events : Nat) (nodes : List Yaml.Node) : Bool :=
  Yaml.Node.followedInAll nodes ≤ Yaml.maxFollowed * events

/-- Read a suite from a node. Nothing is read of the values of other entries. -/
def ofNode? : Yaml.Node → Option Suite
  | .mapping tag entries => do
    let name ← entry? "name" entries
    let expectations ← entry? "expectations" entries
    let nodes := entries.map Prod.fst ++ name.toList ++ expectations.toList
    if mayFollow (Yaml.Node.mapping tag entries).eventCount nodes then
      let name ← match name with
        | some node => node.optionalText?
        | none => some none
      let expectations ← match expectations with
        | some node => expectationsOfNode? node
        | none => some []
      some ⟨name, expectations⟩
    else none
  | node => if node.isEmpty then some {} else none

/-- Read a suite from YAML. -/
def ofYaml? (text : String) : Option Suite := do
  match ← Yaml.read? text with
  | some node => ofNode? node
  | none => some {}

end Suite

end Exchange
