import Exchange.Json.Reader

/-! # Reading past JSON values

Of an object of which only some members are wanted, the values of the other members are skimmed:
they have to follow the grammar of JSON, but may be numbers out of range, lone surrogate escapes,
and values nested to any depth.
-/

namespace Exchange.Json

/-- Read past the rest of a string. -/
def skimString? : List Char → Option (List Char)
  | [] => none
  | '"' :: rest => some rest
  | '\\' :: 'u' :: a :: b :: c :: d :: rest =>
    if [a, b, c, d].all fun digit => (hexValue? digit).isSome then skimString? rest else none
  | '\\' :: c :: rest =>
    if ['"', '\\', '/', 'b', 'f', 'n', 'r', 't'].contains c then skimString? rest else none
  | c :: rest => if c = '\\' ∨ c.toNat < 0x20 then none else skimString? rest

/-- Read past a number. -/
def skimNumber? (cs : List Char) : Option (List Char) := do
  let cs := match cs with
    | '-' :: rest => rest
    | _ => cs
  let whole := cs.takeWhile Number.isDigit
  if whole = [] ∨ (whole.head? = some '0' ∧ 1 < whole.length) then none
  else
    let (_, cs) ← JsonNumber.takeFraction? (cs.dropWhile Number.isDigit)
    let (_, cs) ← JsonNumber.takeExponent? cs
    some cs

mutual
/-- Read past a value. -/
def skimValue? : Nat → List Char → Option (List Char)
  | 0, _ => none
  | fuel + 1, cs =>
    match skipBlanks cs with
    | '"' :: rest => skimString? rest
    | '[' :: rest =>
      match skipBlanks rest with
      | ']' :: rest => some rest
      | rest => skimItems? fuel rest
    | '\x7b' :: rest =>
      match skipBlanks rest with
      | '\x7d' :: rest => some rest
      | rest => skimMembers? fuel rest
    | 'n' :: rest => takeWord? ['u', 'l', 'l'] rest
    | 't' :: rest => takeWord? ['r', 'u', 'e'] rest
    | 'f' :: rest => takeWord? ['a', 'l', 's', 'e'] rest
    | cs => skimNumber? cs

/-- Read past the items of an array and its closing bracket. -/
def skimItems? : Nat → List Char → Option (List Char)
  | 0, _ => none
  | fuel + 1, cs => do
    let rest ← skimValue? fuel cs
    match skipBlanks rest with
    | ']' :: rest => some rest
    | ',' :: rest => skimItems? fuel rest
    | _ => none

/-- Read past the members of an object and its closing brace. -/
def skimMembers? : Nat → List Char → Option (List Char)
  | 0, _ => none
  | fuel + 1, cs =>
    match skipBlanks cs with
    | '"' :: rest => do
      let rest ← skimString? rest
      match skipBlanks rest with
      | ':' :: rest => do
        let rest ← skimValue? fuel rest
        match skipBlanks rest with
        | '\x7d' :: rest => some rest
        | ',' :: rest => skimMembers? fuel rest
        | _ => none
      | _ => none
    | _ => none
end

/-- Read the members of an object up to the closing brace, and keep those of some names. -/
def readNamed? (names : List String) : Nat → List Char →
    Option (List (Datum × Datum) × List Char)
  | 0, _ => none
  | fuel + 1, cs =>
    match skipBlanks cs with
    | '"' :: rest => do
      let (name, rest) ← readString? rest
      match skipBlanks rest with
      | ':' :: rest => do
        let (entry, rest) ←
          if names.contains name then
            (readValue? (2 * rest.length + 2) (maxDepth - 1) rest).map fun (value, rest) =>
              ([(Datum.string name, value)], rest)
          else (skimValue? (2 * rest.length + 2) rest).map ([], ·)
        match skipBlanks rest with
        | '\x7d' :: rest => some (entry, rest)
        | ',' :: rest => do
          let (entries, rest) ← readNamed? names fuel rest
          some (entry ++ entries, rest)
        | _ => none
      | _ => none
    | _ => none

/-- Read a text that holds one value and nothing else. Of an object only the members of some names
    are read, and the values of the others are skimmed. -/
def readFields? (names : List String) (text : String) : Option Datum :=
  match skipBlanks text.toList with
  | '\x7b' :: rest => do
    let (entries, rest) ← match skipBlanks rest with
      | '\x7d' :: rest => some ([], rest)
      | rest => readNamed? names (rest.length + 1) rest
    if skipBlanks rest = [] then some (.record entries) else none
  | _ => readDatum? text

end Exchange.Json
