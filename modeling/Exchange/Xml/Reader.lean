import Exchange.Text.AsciiCase
import Exchange.Xml.Document

/-! # Reading XML

A reader for XML with namespaces and without document types: the declaration of one is skipped, and
only the five predefined entities are known. Texts are kept as they are written: line ends and
blanks in attribute values are not normalized. A run of characters, a CDATA section and a reference
are a text each.

The reader stands for that of the package `sxd-document`. Of it is assumed that it takes just these
texts, that it gives the parts of a document in the order and the pieces in which they are written,
and that a prefix has the namespace of the innermost declaration in force.
-/

namespace Exchange.Xml

/-- Characters that may start a name without a colon. -/
def isNameStart (c : Char) : Bool :=
  let n := c.toNat
  c.isAlpha || c = '_' || (0xC0 ≤ n && n ≤ 0xD6) || (0xD8 ≤ n && n ≤ 0xF6) ||
    (0xF8 ≤ n && n ≤ 0x2FF) || (0x370 ≤ n && n ≤ 0x37D) || (0x37F ≤ n && n ≤ 0x1FFF) ||
    (0x200C ≤ n && n ≤ 0x200D) || (0x2070 ≤ n && n ≤ 0x218F) || (0x2C00 ≤ n && n ≤ 0x2FEF) ||
    (0x3001 ≤ n && n ≤ 0xD7FF) || (0xF900 ≤ n && n ≤ 0xFDCF) || (0xFDF0 ≤ n && n ≤ 0xFFFD) ||
    (0x10000 ≤ n && n ≤ 0xEFFFF)

/-- Characters that may go on in a name without a colon. -/
def isNameChar (c : Char) : Bool :=
  let n := c.toNat
  isNameStart c || c = '-' || c = '.' || c.isDigit || n = 0xB7 || (0x300 ≤ n && n ≤ 0x36F) ||
    (0x203F ≤ n && n ≤ 0x2040)

/-- Blanks between the parts of a tag. -/
def isSpace (c : Char) : Bool := c = ' ' || c = '\t' || c = '\n' || c = '\r'

/-- Drop blanks in front. -/
def skipSpace (cs : List Char) : List Char := cs.dropWhile isSpace

/-- Drop blanks in front, of which there has to be one. -/
def skipSomeSpace? : List Char → Option (List Char)
  | c :: rest => if isSpace c then some (skipSpace rest) else none
  | [] => none

/-- Drop some characters off the front, which have to be there. -/
def dropChars? : List Char → List Char → Option (List Char)
  | [], cs => some cs
  | _ :: _, [] => none
  | w :: word, c :: rest => if w = c then dropChars? word rest else none

/-- Read a word off the front. -/
def takeWord? (word : String) (cs : List Char) : Option (List Char) := dropChars? word.toList cs

/-- Read a name without a colon. -/
def takeName? : List Char → Option (String × List Char)
  | c :: rest =>
    if isNameStart c then
      some (String.ofList (c :: rest.takeWhile isNameChar), rest.dropWhile isNameChar)
    else none
  | [] => none

/-- Read a name that may hold colons. -/
def takeToken? : List Char → Option (String × List Char)
  | c :: rest =>
    if isNameStart c || c = ':' then
      let inside (c : Char) := isNameChar c || c = ':'
      some (String.ofList (c :: rest.takeWhile inside), rest.dropWhile inside)
    else none
  | [] => none

/-- A name as written, with a prefix or without. -/
structure WrittenName where
  label : Option String
  localName : String
  deriving Repr, DecidableEq

/-- Read a name with at most one prefix. -/
def takeWrittenName? (cs : List Char) : Option (WrittenName × List Char) := do
  let (first, rest) ← takeName? cs
  match rest with
  | ':' :: more => match takeName? more with
    | some (second, rest) => some (⟨some first, second⟩, rest)
    | none => some (⟨none, first⟩, rest)
  | _ => some (⟨none, first⟩, rest)

/-- Split at the first occurrence of a word, which is dropped. -/
def takeUntil? (word : List Char) : List Char → Option (List Char × List Char)
  | [] => none
  | c :: rest =>
    if word.isPrefixOf (c :: rest) then some ([], (c :: rest).drop word.length)
    else (takeUntil? word rest).map fun (before, after) => (c :: before, after)

/-- The character of a code point. -/
def charOf? (n : Nat) : Option Char :=
  if n < 0xD800 ∨ (0xE000 ≤ n ∧ n < 0x110000) then some (Char.ofNat n) else none

/-- The value of a hexadecimal digit. -/
def hexDigit? (c : Char) : Option Nat :=
  if '0' ≤ c ∧ c ≤ '9' then some (c.toNat - 48)
  else if 'a' ≤ c ∧ c ≤ 'f' then some (c.toNat - 87)
  else if 'A' ≤ c ∧ c ≤ 'F' then some (c.toNat - 55)
  else none

/-- The predefined entities. -/
def entity? : String → Option Char
  | "lt" => some '<'
  | "gt" => some '>'
  | "amp" => some '&'
  | "apos" => some '\''
  | "quot" => some '"'
  | _ => none

/-- Read the rest of a reference to a character by number. -/
def takeNumber? (base : Nat) (cs : List Char) : Option (Char × List Char) :=
  let isDigit (c : Char) : Bool := (hexDigit? c).any (· < base)
  let digits := cs.takeWhile isDigit
  match digits, cs.drop digits.length with
  | _ :: _, ';' :: rest =>
    (charOf? (digits.foldl (fun n c => n * base + (hexDigit? c).getD 0) 0)).map (·, rest)
  | _, _ => none

/-- Read a reference whose ampersand is gone. -/
def takeReference? : List Char → Option (Char × List Char)
  | '#' :: 'x' :: rest => takeNumber? 16 rest
  | '#' :: rest => takeNumber? 10 rest
  | cs => do
    let (name, rest) ← takeToken? cs
    match rest with
    | ';' :: rest => (entity? name).map (·, rest)
    | _ => none

/-- Read an attribute value up to its closing quote. -/
def takeValue? (quote : Char) : Nat → List Char → Option (List Char × List Char)
  | 0, _ => none
  | _ + 1, [] => none
  | fuel + 1, c :: rest =>
    if c = quote then some ([], rest)
    else if c = '<' then none
    else if c = '&' then do
      let (d, rest) ← takeReference? rest
      let (ds, rest) ← takeValue? quote fuel rest
      some (d :: ds, rest)
    else do
      let (ds, rest) ← takeValue? quote fuel rest
      some (c :: ds, rest)

/-- Read a value in quotes of either kind. -/
def takeQuoted? : List Char → Option (String × List Char)
  | q :: rest =>
    if q = '"' ∨ q = '\'' then
      (takeValue? q (rest.length + 1) rest).map fun (value, rest) => (String.ofList value, rest)
    else none
  | [] => none

/-- An attribute as written. -/
structure WrittenAttribute where
  name : WrittenName
  value : String
  deriving Repr, DecidableEq

/-- What ends a start tag. -/
inductive TagEnd where
  | open
  /-- The element has no content. -/
  | closed
  deriving Repr, DecidableEq

/-- Read the attributes of a start tag and its end. -/
def takeAttributes? : Nat → List Char → Option (List WrittenAttribute × TagEnd × List Char)
  | 0, _ => none
  | fuel + 1, cs =>
    match skipSpace cs with
    | '>' :: rest => some ([], .open, rest)
    | '/' :: '>' :: rest => some ([], .closed, rest)
    | _ => do
      let (name, rest) ← takeWrittenName? (← skipSomeSpace? cs)
      match skipSpace rest with
      | '=' :: rest => do
        let (value, rest) ← takeQuoted? (skipSpace rest)
        let (attributes, ending, rest) ← takeAttributes? fuel rest
        some (⟨name, value⟩ :: attributes, ending, rest)
      | _ => none

/-- The namespaces that an element declares: prefixes, or none for the default, with their URIs; an
    empty URI takes a default away. -/
abbrev Declarations := List (Option String × String)

/-- The namespaces in force, element by element, the innermost first. -/
abbrev Scope := List Declarations

/-- The prefix that needs no declaration. -/
def ownNamespace : XmlNamespace := ⟨"xml", "http://www.w3.org/XML/1998/namespace"⟩

/-- The scope at the root. -/
def rootScope : Scope := [[(some ownNamespace.label, ownNamespace.uri)]]

/-- The namespaces that attributes declare. -/
def declared (attributes : List WrittenAttribute) : Declarations :=
  attributes.filterMap fun a =>
    if a.name.label = some "xmlns" then some (some a.name.localName, a.value)
    else if a.name = ⟨none, "xmlns"⟩ then some (none, a.value)
    else none

/-- The attributes that declare no namespace. -/
def undeclaring (attributes : List WrittenAttribute) : List WrittenAttribute :=
  attributes.filter fun a => a.name.label ≠ some "xmlns" && a.name ≠ ⟨none, "xmlns"⟩

/-- The namespace of a prefix. -/
def Scope.uri? (label : Option String) (scope : Scope) : Option String :=
  scope.findSome? fun declarations =>
    (declarations.find? fun entry => entry.1 == label).map Prod.snd

/-- The prefix that stands for a namespace: the innermost element that declares any decides, and
    there the prefix that is written comes first. -/
def Scope.labelFor? (written : Option String) (scope : Scope) (uri : String) : Option String :=
  if uri = ownNamespace.uri then some ownNamespace.label
  else scope.findSome? fun declarations =>
    let labels := declarations.filterMap fun (label, u) => if u = uri then label else none
    written.filter labels.contains <|> labels.head?

/-- Put a prefix behind the others unless it is among them. -/
def addNamespace (namespaces : List XmlNamespace) (n : XmlNamespace) : List XmlNamespace :=
  if namespaces.any (·.label == n.label) then namespaces else namespaces ++ [n]

/-- The prefixes of a scope with their namespaces, the one that needs no declaration first and then
    the innermost. -/
def Scope.namespaces (scope : Scope) : List XmlNamespace :=
  let entries := scope.flatten.filterMap fun (label, uri) => label.map (⟨·, uri⟩)
  entries.foldl addNamespace [ownNamespace]

/-- The name that a written name stands for; `useDefault` applies the default namespace. -/
def resolve? (scope : Scope) (useDefault : Bool) (n : WrittenName) : Option XmlName :=
  match n.label with
  | some l => (scope.uri? (some l)).map fun uri => ⟨some uri, n.localName⟩
  | none =>
    if useDefault then some ⟨(scope.uri? none).filter (· ≠ ""), n.localName⟩
    else some ⟨none, n.localName⟩

/-- Names are ordered by prefix, those without one first, and then by local part. -/
def WrittenName.precedes (a b : WrittenName) : Bool :=
  match a.label, b.label with
  | none, some _ => true
  | some _, none => false
  | none, none => a.localName ≤ b.localName
  | some l, some m => l < m || (l == m && a.localName ≤ b.localName)

/-- Put an attribute behind the others; one of its name is replaced. -/
def addAttribute (attributes : List XmlAttribute) (a : XmlAttribute) : List XmlAttribute :=
  attributes.filter (fun b => b.name ≠ a.name) ++ [a]

/-- The tag and the scope of its content that a start tag makes: no attribute twice, every prefix
    declared, none declared as empty. An element with a prefix declares no default namespace. -/
def tagOf? (scope : Scope) (name : WrittenName) (attributes : List WrittenAttribute) :
    Option (XmlTag × Scope) := do
  let names := attributes.map (·.name)
  let news := declared attributes
  if ¬ names.Nodup ∨ news.any (fun (label, uri) => label.isSome && uri == "") then none
  else
    let scope := news.filter (fun (label, _) => label.isSome || name.label.isNone) :: scope
    let labelOf (n : XmlName) (written : WrittenName) : Option String :=
      n.space.bind (Scope.labelFor? written.label scope)
    let sorted := (undeclaring attributes).mergeSort fun a b => a.name.precedes b.name
    let resolved ← sorted.mapM fun a =>
      (resolve? scope false a.name).map fun n => XmlAttribute.mk n (labelOf n a.name) a.value
    let tagName ← resolve? scope true name
    let tag : XmlTag :=
      { name := tagName
        label := labelOf tagName name
        attributes := resolved.foldl addAttribute []
        namespaces := Scope.namespaces scope }
    some (tag, scope)

/-- Read the rest of an end tag. -/
def takeEndTag? (name : WrittenName) (cs : List Char) : Option (List Char) := do
  let (found, rest) ← takeWrittenName? cs
  match skipSpace rest with
  | '>' :: rest => if found = name then some rest else none
  | _ => none

/-- Read the rest of a comment. -/
def takeComment? (cs : List Char) : Option (Xml × List Char) := do
  let (body, rest) ← takeUntil? ['-', '-'] cs
  match rest with
  | '>' :: rest => some (.comment (String.ofList body), rest)
  | _ => none

/-- Read the rest of a processing instruction; none is called `xml`. -/
def takeInstruction? (cs : List Char) : Option (Xml × List Char) := do
  let (target, rest) ← takeToken? cs
  if Text.asciiLower target = "xml" then none
  else match rest with
    | '?' :: '>' :: rest => some (.instruction target "", rest)
    | _ => do
      let (value, rest) ← takeUntil? ['?', '>'] (← skipSomeSpace? rest)
      some (.instruction target (String.ofList value), rest)

/-- The characters up to markup, a reference or the end of a CDATA section. -/
def takeChars : List Char → List Char × List Char
  | [] => ([], [])
  | c :: rest =>
    if c = '<' ∨ c = '&' ∨ [']', ']', '>'].isPrefixOf (c :: rest) then ([], c :: rest)
    else
      let (chars, rest) := takeChars rest
      (c :: chars, rest)

mutual
/-- Read an element whose opening bracket is gone. -/
def readElement? : Nat → Scope → List Char → Option (Xml × List Char)
  | 0, _, _ => none
  | fuel + 1, scope, cs => do
    let (name, rest) ← takeWrittenName? cs
    let (attributes, ending, rest) ← takeAttributes? (rest.length + 1) rest
    let (tag, scope) ← tagOf? scope name attributes
    match ending with
    | .closed => some (.element tag [], rest)
    | .open => do
      let (children, rest) ← readContent? fuel scope rest
      let rest ← takeEndTag? name rest
      some (.element tag children, rest)

/-- Read the content of an element up to and with the opening of its end tag. -/
def readContent? : Nat → Scope → List Char → Option (List Xml × List Char)
  | 0, _, _ => none
  | fuel + 1, scope, cs => do
    match cs with
    | [] => none
    | '<' :: '/' :: rest => some ([], rest)
    | '<' :: '!' :: '-' :: '-' :: rest => do
      let (child, rest) ← takeComment? rest
      let (children, rest) ← readContent? fuel scope rest
      some (child :: children, rest)
    | '<' :: '!' :: rest => do
      let (body, rest) ← takeUntil? [']', ']', '>'] (← takeWord? "[CDATA[" rest)
      let (children, rest) ← readContent? fuel scope rest
      some (.text (String.ofList body) :: children, rest)
    | '<' :: '?' :: rest => do
      let (child, rest) ← takeInstruction? rest
      let (children, rest) ← readContent? fuel scope rest
      some (child :: children, rest)
    | '<' :: rest => do
      let (child, rest) ← readElement? fuel scope rest
      let (children, rest) ← readContent? fuel scope rest
      some (child :: children, rest)
    | '&' :: rest => do
      let (c, rest) ← takeReference? rest
      let (children, rest) ← readContent? fuel scope rest
      some (.text (String.ofList [c]) :: children, rest)
    | cs =>
      let (chars, rest) := takeChars cs
      if chars = [] then none
      else do
        let (children, rest) ← readContent? fuel scope rest
        some (.text (String.ofList chars) :: children, rest)
end

/-- Read one of the declarations that an XML declaration may hold, if it is there. -/
def takeSetting? (name : String) (isValue : List Char → Bool) (cs : List Char) :
    Option (List Char) := do
  let rest ← takeWord? name (← skipSomeSpace? cs)
  match skipSpace rest with
  | '=' :: rest => match skipSpace rest with
    | q :: rest =>
      if q = '"' ∨ q = '\'' then do
        let (value, rest) ← takeUntil? [q] rest
        if isValue value then some rest else none
      else none
    | [] => none
  | _ => none

/-- A version: `1.` and digits. -/
def isVersion : List Char → Bool
  | '1' :: '.' :: digits => digits ≠ [] && digits.all Char.isDigit
  | _ => false

/-- The name of a character encoding. -/
def isEncodingName : List Char → Bool
  | c :: rest => c.isAlpha && rest.all fun c => c.isAlphanum || c = '.' || c = '_' || c = '-'
  | [] => false

/-- Is the document independent of others? -/
def isYesOrNo (cs : List Char) : Bool := cs = ['y', 'e', 's'] || cs = ['n', 'o']

/-- Read the rest of an XML declaration. -/
def takeDeclaration? (cs : List Char) : Option (List Char) := do
  let rest ← takeSetting? "version" isVersion cs
  let rest := (takeSetting? "encoding" isEncodingName rest).getD rest
  let rest := (takeSetting? "standalone" isYesOrNo rest).getD rest
  takeWord? "?>" (skipSpace rest)

/-- Read the reference to another document in a document type declaration, if it is there. -/
def takeExternal? (cs : List Char) : Option (List Char) := do
  let rest ← takeWord? "SYSTEM" (← skipSomeSpace? cs)
  match ← skipSomeSpace? rest with
  | q :: rest => if q = '"' ∨ q = '\'' then (takeUntil? [q] rest).map Prod.snd else none
  | [] => none

/-- Read the rest of a document type declaration, of which nothing is kept. -/
def takeDoctype? (cs : List Char) : Option (List Char) := do
  let (_, rest) ← takeToken? (← skipSomeSpace? cs)
  let rest := skipSpace ((takeExternal? rest).getD rest)
  let rest ← match rest with
    | '[' :: rest => (takeUntil? [']'] rest).map fun (_, rest) => skipSpace rest
    | _ => some rest
  takeWord? ">" rest

/-- Read what is around the element of a document: blanks, comments, processing instructions, and
    in front of it document types where `doctype` allows them. -/
def readMisc? : Nat → (doctype : Bool) → List Char → Option (List Xml × List Char)
  | 0, _, _ => none
  | fuel + 1, doctype, cs =>
    match cs with
    | '<' :: '!' :: '-' :: '-' :: rest => do
      let (child, rest) ← takeComment? rest
      let (children, rest) ← readMisc? fuel doctype rest
      some (child :: children, rest)
    | '<' :: '?' :: rest => do
      let (child, rest) ← takeInstruction? rest
      let (children, rest) ← readMisc? fuel doctype rest
      some (child :: children, rest)
    | '<' :: '!' :: rest =>
      if doctype then do
        let rest ← takeDoctype? (← takeWord? "DOCTYPE" rest)
        readMisc? fuel doctype rest
      else none
    | c :: rest => if isSpace c then readMisc? fuel doctype rest else some ([], c :: rest)
    | [] => some ([], [])

/-- Read a document. A document type may not be the very first thing in it. -/
def read? (text : String) : Option XmlDocument :=
  let cs := text.toList
  match takeWord? "<!DOCTYPE" cs with
  | some _ => none
  | none => do
    let rest := ((takeWord? "<?xml" cs).bind takeDeclaration?).getD cs
    let (front, rest) ← readMisc? (rest.length + 1) true rest
    match rest with
    | '<' :: rest => do
      let (top, rest) ← readElement? (2 * rest.length + 2) rootScope rest
      let (back, rest) ← readMisc? (rest.length + 1) false rest
      if rest = [] then some ⟨front ++ top :: back⟩ else none
    | _ => none

end Exchange.Xml
