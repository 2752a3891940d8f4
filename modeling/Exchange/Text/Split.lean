/-! # Cutting texts

Cutting a list of characters at a separator, once or everywhere.
-/

namespace Exchange.Text

/-- Cut at every occurrence of a separator; there is always at least one piece. -/
def splitAll (separator : Char) : List Char → List (List Char)
  | [] => [[]]
  | c :: rest =>
    if c = separator then [] :: splitAll separator rest
    else match splitAll separator rest with
      | piece :: pieces => (c :: piece) :: pieces
      | [] => [[c]]

/-- Cut at the first occurrence of a separator, if there is one. -/
def splitOnce? (separator : Char) : List Char → Option (List Char × List Char)
  | [] => none
  | c :: rest =>
    if c = separator then some ([], rest)
    else (splitOnce? separator rest).map fun (before, after) => (c :: before, after)

/-- Does a list of characters occur within another? -/
def occursIn (needle : List Char) : List Char → Bool
  | [] => needle.isEmpty
  | c :: rest => needle.isPrefixOf (c :: rest) || occursIn needle rest

/-- Does a text end with another? -/
def endsWith (text ending : List Char) : Bool := ending.reverse.isPrefixOf text.reverse

end Exchange.Text
