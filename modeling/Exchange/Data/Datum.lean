import Exchange.Json.Value

/-! # Data as a document gives them

What a JSON or YAML document says before it is put to a use: entries stand in the order of the
document, repeated ones included, and in YAML any datum may be a key.
-/

namespace Exchange

/-- A datum of a document. -/
inductive Datum where
  | null
  | bool (b : Bool)
  | int (n : Int)
  | float (x : Float)
  | string (s : String)
  | list (items : List Datum)
  | record (entries : List (Datum × Datum))

instance : Inhabited Datum := ⟨.null⟩

namespace Datum

mutual
/-- The JSON value of a datum: keys are texts, the last of several entries of one key counts, and
    what is no finite number is null. -/
def toJson? : Datum → Option Json
  | .null => some .null
  | .bool b => some (.bool b)
  | .int n => some (.number (.int n))
  | .float x => some (if x.isFinite then .number (.float x) else .null)
  | .string s => some (.string s)
  | .list items => (toJsonItems? items).map .array
  | .record entries => (toJsonMembers? entries).map fun members => .object (Table.ofList members)

/-- The JSON values of items. -/
def toJsonItems? : List Datum → Option (List Json)
  | [] => some []
  | item :: rest => do
    let j ← item.toJson?
    let js ← toJsonItems? rest
    some (j :: js)

/-- The JSON values of entries, in the order of the document. -/
def toJsonMembers? : List (Datum × Datum) → Option (List (String × Json))
  | [] => some []
  | (.string name, value) :: rest => do
    let j ← value.toJson?
    let js ← toJsonMembers? rest
    some ((name, j) :: js)
  | _ => none
end

mutual
/-- The datum that says a JSON value. -/
def ofJson : Json → Datum
  | .null => .null
  | .bool b => .bool b
  | .number (.int n) => .int n
  | .number (.float x) => .float x
  | .string s => .string s
  | .array items => .list (ofJsonItems items)
  | .object members => .record (ofJsonMembers members)

/-- The data that say items. -/
def ofJsonItems : List Json → List Datum
  | [] => []
  | item :: rest => ofJson item :: ofJsonItems rest

/-- The entries that say members. -/
def ofJsonMembers : List (String × Json) → List (Datum × Datum)
  | [] => []
  | (name, value) :: rest => (.string name, ofJson value) :: ofJsonMembers rest
end

end Datum

end Exchange
