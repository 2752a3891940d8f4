import Exchange.Regex.AgeTable
import Exchange.Regex.BinaryTable
import Exchange.Regex.BreakTable
import Exchange.Regex.CategoryTable
import Exchange.Regex.ScriptTable

/-! # Sets of characters by name

The sets that patterns name by a property of Unicode: general categories and groups of them,
scripts, ages, breaks, and binary properties. Many binary properties follow from others by a rule.
-/

namespace Exchange.Regex

open Exchange.Text (CodeRanges)

/-- The loose form of a name: lower case without blanks, hyphens, underscores and a leading `is`. -/
def looseName (cs : List Char) : String :=
  let lower := cs.map fun c => if 'A' ≤ c ∧ c ≤ 'Z' then Char.ofNat (c.toNat + 32) else c
  let (hadIs, body) := match lower with
    | 'i' :: 's' :: rest => (true, rest)
    | _ => (false, lower)
  let kept := body.filter fun c => c ≠ ' ' ∧ c ≠ '_' ∧ c ≠ '-' ∧ c.toNat < 0x80
  String.ofList (if hadIs ∧ kept = ['c'] then ['i', 's', 'c'] else kept)

/-- The set of a listed property. -/
def listed? (name : String) (properties : List Property) : Option CodeRanges :=
  (Property.find? name properties).map Property.ranges

/-! ## General categories -/

/-- The union of general categories. -/
def categories (names : List String) : CodeRanges :=
  CodeRanges.unions (names.filterMap fun name => listed? name generalCategories)

/-- All assigned characters. -/
def assigned : CodeRanges := CodeRanges.unions (generalCategories.map Property.ranges)

/-- The general categories of letters. -/
def letterCategories : List String := ["lu", "ll", "lt", "lm", "lo"]

/-- General categories that are made of others. -/
def categoryGroups : List (List String × List String) := [
  (["l", "letter"], letterCategories),
  (["lc", "casedletter"], ["lu", "ll", "lt"]),
  (["m", "mark", "combiningmark"], ["mn", "mc", "me"]),
  (["n", "number"], ["nd", "nl", "no"]),
  (["p", "punctuation", "punct"], ["pc", "pd", "ps", "pe", "pi", "pf", "po"]),
  (["s", "symbol"], ["sm", "sc", "sk", "so"]),
  (["z", "separator"], ["zs", "zl", "zp"])]

/-- The general categories that are no `other`. -/
def ordinaryCategories : List String :=
  letterCategories ++ ["mn", "mc", "me", "nd", "nl", "no", "pc", "pd", "ps", "pe", "pi", "pf", "po",
    "sm", "sc", "sk", "so", "zs", "zl", "zp"]

/-- The set of a general category. -/
def category? (name : String) : Option CodeRanges :=
  if name = "any" then some CodeRanges.full
  else if name = "ascii" then some [(0, 0x7F)]
  else if name = "assigned" then some assigned
  else if name = "cn" ∨ name = "unassigned" then some assigned.compl
  else if name = "c" ∨ name = "other" then some (categories ordinaryCategories).compl
  else match categoryGroups.find? fun (names, _) => names.contains name with
    | some (_, members) => some (categories members)
    | none => listed? name generalCategories

/-! ## Binary properties -/

/-- The union of listed binary properties. -/
def binaries (names : List String) : CodeRanges :=
  CodeRanges.unions (names.filterMap fun name => listed? name binaryProperties)

/-- Small letters and what counts as such. -/
def lowercase : CodeRanges := (categories ["ll"]).union (binaries ["olower"])

/-- Capital letters and what counts as such. -/
def uppercase : CodeRanges := (categories ["lu"]).union (binaries ["oupper"])

/-- Characters of words. -/
def alphabetic : CodeRanges :=
  CodeRanges.unions [lowercase, uppercase, categories ["lt", "lm", "lo", "nl"], binaries ["oalpha"]]

/-- Characters that are put onto the one before them. -/
def graphemeExtend : CodeRanges := (categories ["me", "mn"]).union (binaries ["ogrext"])

/-- Characters that others are put onto. -/
def graphemeBase : CodeRanges :=
  assigned.diff ((categories ["cc", "cf", "co", "zl", "zp"]).union graphemeExtend)

/-- Characters that are not shown where a font lacks them. -/
def defaultIgnorable : CodeRanges :=
  ((binaries ["odi", "vs"]).union (categories ["cf"])).diff
    ((binaries ["wspace", "pcm"]).union [(0xFFF9, 0xFFFB), (0x13430, 0x13440)])

/-- Characters between letters that do not part words. -/
def caseIgnorable : CodeRanges :=
  (categories ["mn", "me", "cf", "lm", "sk"]).union
    [(0x27, 0x27), (0x2E, 0x2E), (0x3A, 0x3A), (0xB7, 0xB7), (0x387, 0x387), (0x55F, 0x55F),
      (0x5F4, 0x5F4), (0x2018, 0x2019), (0x2024, 0x2024), (0x2027, 0x2027), (0xFE13, 0xFE13),
      (0xFE52, 0xFE52), (0xFE55, 0xFE55), (0xFF07, 0xFF07), (0xFF0E, 0xFF0E), (0xFF1A, 0xFF1A)]

/-- Characters that a pattern of identifiers keeps for itself. -/
def patternOnly : CodeRanges := binaries ["patsyn", "patws"]

/-- Characters that an identifier may start with. -/
def identifierStart : CodeRanges :=
  ((categories ("nl" :: letterCategories)).union (binaries ["oids"])).diff patternOnly

/-- Characters that an identifier may go on with. -/
def identifierContinue : CodeRanges :=
  (CodeRanges.unions
    [identifierStart, categories ["mn", "mc", "nd", "pc"], binaries ["oidc"]]).diff patternOnly

/-- Characters that compatible forms of an identifier may not go on with. -/
def notClosed : CodeRanges := [
  (0x37A, 0x37A), (0x309B, 0x309C), (0xFC5E, 0xFC63), (0xFDFA, 0xFDFB), (0xFE70, 0xFE70),
  (0xFE72, 0xFE72), (0xFE74, 0xFE74), (0xFE76, 0xFE76), (0xFE78, 0xFE78), (0xFE7A, 0xFE7A),
  (0xFE7C, 0xFE7C), (0xFE7E, 0xFE7E)]

/-- Characters that compatible forms of an identifier may not start with. -/
def notClosedStart : CodeRanges :=
  notClosed.union [(0xE33, 0xE33), (0xEB3, 0xEB3), (0xFF9E, 0xFF9F)]

/-- The binary properties that follow from others. -/
def derived? (name : String) : Option CodeRanges :=
  match name with
  | "lowercase" | "lower" => some lowercase
  | "uppercase" | "upper" => some uppercase
  | "alphabetic" | "alpha" => some alphabetic
  | "cased" => some (CodeRanges.unions [lowercase, uppercase, categories ["lt"]])
  | "math" => some ((categories ["sm"]).union (binaries ["omath"]))
  | "graphemeextend" | "grext" => some graphemeExtend
  | "graphemebase" | "grbase" => some graphemeBase
  | "defaultignorablecodepoint" | "di" => some defaultIgnorable
  | "caseignorable" | "ci" => some caseIgnorable
  | "changeswhencasemapped" | "cwcm" => some (binaries ["cwl", "cwt", "cwu"])
  | "idstart" | "ids" => some identifierStart
  | "idcontinue" | "idc" => some identifierContinue
  | "xidstart" | "xids" => some (identifierStart.diff notClosedStart)
  | "xidcontinue" | "xidc" => some (identifierContinue.diff notClosed)
  | _ => none

/-- The set of a binary property. -/
def binary? (name : String) : Option CodeRanges := listed? name binaryProperties <|> derived? name

/-! ## Properties with values -/

/-- The characters up to a version. -/
def age? (version : String) : Option CodeRanges :=
  let (earlier, rest) := ages.span fun p => !p.names.contains version
  match rest with
  | [] => none
  | p :: _ => some (CodeRanges.unions ((earlier ++ [p]).map Property.ranges))

/-- The set that a name alone stands for: a binary property, a general category or a script. -/
def namedSet? (name : String) : Option CodeRanges :=
  binary? name <|> category? name <|> listed? name scripts

/-- The set of a property with a value. -/
def valueSet? (property value : String) : Option CodeRanges :=
  match property with
  | "gc" | "generalcategory" => category? value
  | "sc" | "script" => listed? value scripts
  | "scx" | "scriptextensions" => listed? value scriptExtensions <|> listed? value scripts
  | "age" => age? value
  | "gcb" | "graphemeclusterbreak" => listed? value graphemeBreaks
  | "wb" | "wordbreak" => listed? value wordBreaks
  | "sb" | "sentencebreak" => listed? value sentenceBreaks
  | _ => none

/-- Cut a text in two at the first place where a separator stands. -/
def cutAt? (separator : List Char) (cs : List Char) : Option (List Char × List Char) :=
  (List.range cs.length).findSome? fun i =>
    if separator.isPrefixOf (cs.drop i) then some (cs.take i, cs.drop (i + separator.length))
    else none

/-- The set that the text between the braces of a class escape stands for: a name, or a property and
    a value. Which of the signs stands between the two makes no difference. -/
def bracedSet? (cs : List Char) : Option CodeRanges :=
  match cutAt? ['!', '='] cs <|> cutAt? [':'] cs <|> cutAt? ['='] cs with
  | some (property, value) => valueSet? (looseName property) (looseName value)
  | none => namedSet? (looseName cs)

end Exchange.Regex
