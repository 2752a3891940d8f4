import Exchange.Text.AsciiCase

/-! # Header fields

Header fields in the order in which they were added. Names are compared without regard to the case
of ASCII letters, and one name may have several values.
-/

namespace Exchange

/-- Header fields, name and value. -/
abbrev Headers := List (String × String)

namespace Headers

/-- The values of a name in order. -/
def values (name : String) (headers : Headers) : List String :=
  (headers.filter fun (n, _) => Text.sameIgnoringCase n name).map Prod.snd

/-- The first value of a name. -/
def first? (name : String) (headers : Headers) : Option String := (headers.values name).head?

/-- The names, each once, as spelt and placed where it first occurs; `seen` holds the names so far
    with the last one first. -/
def namesFrom (seen : List String) : Headers → List String
  | [] => seen.reverse
  | (n, _) :: rest =>
    if seen.any fun m => Text.sameIgnoringCase m n then namesFrom seen rest
    else namesFrom (n :: seen) rest

/-- The distinct names. -/
def distinctNames (headers : Headers) : List String := namesFrom [] headers

/-- The header fields of other names. -/
def without (name : String) (headers : Headers) : Headers :=
  headers.filter fun (n, _) => !Text.sameIgnoringCase n name

end Headers

end Exchange
