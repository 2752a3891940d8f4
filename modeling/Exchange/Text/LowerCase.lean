import Exchange.Text.LetterCaseTable

/-! # Lower case

Full lower-casing of a text: each character has its simple lower case, a capital I with a dot
becomes `i` and a combining dot, and a capital sigma becomes the final sigma where it ends a word.
-/

namespace Exchange.Text

/-- The distance of a code point from its lower case in the first run that lists it. -/
def lowerShift (n : Nat) : List CaseRun → Int
  | [] => 0
  | run :: rest =>
    if n < run.first then 0
    else if n ≤ run.last && (n - run.first) % run.step == 0 then run.shift
    else lowerShift n rest

/-- Lower case of one character out of context. -/
def lowerChar (c : Char) : List Char :=
  if c = '\u0130' then ['i', '\u0307']
  else [Char.ofNat (Int.toNat (c.toNat + lowerShift c.toNat lowerRuns))]

/-- Does a word go on: is the first character that is not case-ignorable a cased one? -/
def startsCased (cs : List Char) : Bool :=
  match cs.dropWhile fun c => caseIgnorable.contains c.toNat with
  | c :: _ => cased.contains c.toNat
  | [] => false

/-- Lower-case a text; `inWord` says whether the nearest character before that is not
    case-ignorable is a cased one. -/
def lowerFrom (inWord : Bool) : List Char → List Char
  | [] => []
  | c :: rest =>
    let letters :=
      if c = 'Σ' then [if inWord && !startsCased rest then 'ς' else 'σ'] else lowerChar c
    let inWord' := if caseIgnorable.contains c.toNat then inWord else cased.contains c.toNat
    letters ++ lowerFrom inWord' rest

/-- The text in lower case. -/
def lower (s : String) : String := String.ofList (lowerFrom false s.toList)

end Exchange.Text
