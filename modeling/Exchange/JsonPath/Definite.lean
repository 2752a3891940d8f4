/-! # Definite paths

A scan of the text of a path that tells whether the path can select more than one node: deep scans,
wildcards, filters, unions and slices make it indefinite. Nothing is looked for within quotes, and
quotes only count within brackets.
-/

namespace Exchange.JsonPath

/-- Scan the rest of a path at a depth of brackets. -/
def definiteFrom (depth : Nat) (quote : Option Char) : List Char → Bool
  | [] => true
  | c :: rest =>
    match quote with
    | some q =>
      if c = '\\' then match rest with
        | [] => true
        | _ :: rest => definiteFrom depth quote rest
      else definiteFrom depth (if c = q then none else quote) rest
    | none =>
      if (c = '\'' ∨ c = '"') ∧ 0 < depth then definiteFrom depth (some c) rest
      else if c = '[' then definiteFrom (depth + 1) none rest
      else if c = ']' then definiteFrom (depth - 1) none rest
      else if c = '*' ∨ c = '?' then false
      else if (c = ',' ∨ c = ':') ∧ 0 < depth then false
      else if c = '.' ∧ rest.head? = some '.' then false
      else definiteFrom depth none rest

/-- Can a path select at most one node? -/
def isDefinite (path : String) : Bool := definiteFrom 0 none path.toList

end Exchange.JsonPath
