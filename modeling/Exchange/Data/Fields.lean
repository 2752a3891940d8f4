import Exchange.Data.Datum

/-! # Records read field by field

A record gives its fields by name, or by number, or it is a list of them in order. Fields that a
record does not know are ignored; no field is given twice, and what is not given is up to whoever
reads the record. An alternative is a record of exactly one entry, whose key names it.
-/

namespace Exchange.Datum

/-- The place of a name among some names. -/
def placeOf? (names : List String) (name : String) : Option Nat :=
  names.findIdx? (· == name)

/-- The place that a key means, if it means a known one; a key that is neither a name nor a number
    is a fault. -/
def keyPlace? (names : List String) : Datum → Option (Option Nat)
  | .string name => some (placeOf? names name)
  | .int n =>
    if n < 0 then none else some (if n.toNat < names.length then some n.toNat else none)
  | _ => none

/-- Put a value in its place, which has to be free. -/
def putAt? (values : List (Option Datum)) (place : Nat) (value : Datum) :
    Option (List (Option Datum)) :=
  match values[place]? with
  | some none => some (values.set place (some value))
  | _ => none

/-- The values of some fields, as far as entries give them. -/
def fieldsOfEntries? (names : List String) (entries : List (Datum × Datum)) :
    Option (List (Option Datum)) :=
  entries.foldlM (fun values (key, value) => do
    match ← keyPlace? names key with
    | some place => putAt? values place value
    | none => some values) (List.replicate names.length none)

/-- The values of some fields, as far as a datum gives them. -/
def fields? (names : List String) : Datum → Option (List (Option Datum))
  | .record entries => fieldsOfEntries? names entries
  | .list items =>
    if items.length ≤ names.length then
      some (items.map some ++ List.replicate (names.length - items.length) none)
    else none
  | _ => none

/-- The place of an alternative among some names, and what is said of it. -/
def alternative? (names : List String) : Datum → Option (Nat × Datum)
  | .record [(key, value)] => do
    let place ← (← keyPlace? names key)
    some (place, value)
  | _ => none

/-! ## Single values -/

/-- A text. -/
def text? : Datum → Option String
  | .string s => some s
  | _ => none

/-- A truth value. -/
def bool? : Datum → Option Bool
  | .bool b => some b
  | _ => none

/-- A natural number below a bound. -/
def natBelow? (bound : Nat) : Datum → Option Nat
  | .int n => if 0 ≤ n ∧ n < bound then some n.toNat else none
  | _ => none

/-- A number; integers are numbers, too. -/
def number? : Datum → Option Float
  | .int n => some (Float.ofInt n)
  | .float x => some x
  | _ => none

/-- Some texts. -/
def texts? : Datum → Option (List String)
  | .list items => items.mapM text?
  | _ => none

/-- Texts by name. -/
def textTable? : Datum → Option (Table String)
  | .record entries => do
    let entries ← entries.mapM fun (key, value) => do
      let name ← key.text?
      let text ← value.text?
      some (name, text)
    some (Table.ofList entries)
  | _ => none

/-- A text, or null for none. -/
def optionalText? : Datum → Option (Option String)
  | .null => some none
  | .string s => some (some s)
  | _ => none

end Exchange.Datum
