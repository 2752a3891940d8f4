import Exchange.Data.Table
import Exchange.Yaml.Token

/-! # Documents of YAML

A document as a tree of scalars, sequences and mappings. An alias leads to the node that its anchor
marks, and the reader counts how many aliases are followed in reading all that a node stands for. A
text holds at most one document.

The modules on YAML stand for the package `serde_yaml`. Of it is assumed that it takes just these
texts, that scalars mean what `Yaml.Schema` says, and that nesting and aliases have the limits here.
-/

namespace Exchange.Yaml

/-- A node of a document. -/
inductive Node where
  | scalar (tag : Option String) (text : String) (plain : Bool)
  | sequence (tag : Option String) (items : List Node)
  | mapping (tag : Option String) (entries : List (Node × Node))
  /-- An alias of a node; it and the aliases in the node are so many. -/
  | alias (followed : Nat) (target : Node)
  /-- An alias of a node that it is part of. -/
  | endless

instance : Inhabited Node := ⟨.scalar none "" true⟩

namespace Node

mutual
/-- The number of aliases that are followed in reading a node. -/
def followed : Node → Nat
  | .scalar .. | .endless => 0
  | .sequence _ items => followedInAll items
  | .mapping _ entries => followedInEntries entries
  | .alias n _ => n

/-- The number of aliases that are followed in reading some nodes. -/
def followedInAll : List Node → Nat
  | [] => 0
  | node :: rest => node.followed + followedInAll rest

/-- The number of aliases that are followed in reading some entries. -/
def followedInEntries : List (Node × Node) → Nat
  | [] => 0
  | (key, value) :: rest => key.followed + value.followed + followedInEntries rest
end

mutual
/-- The number of scalars, aliases, and starts and ends of collections that a node is written
    with. -/
def eventCount : Node → Nat
  | .scalar .. | .alias .. | .endless => 1
  | .sequence _ items => 2 + eventCountOfAll items
  | .mapping _ entries => 2 + eventCountOfEntries entries

/-- The number of events that some nodes are written with. -/
def eventCountOfAll : List Node → Nat
  | [] => 0
  | node :: rest => node.eventCount + eventCountOfAll rest

/-- The number of events that some entries are written with. -/
def eventCountOfEntries : List (Node × Node) → Nat
  | [] => 0
  | (key, value) :: rest => key.eventCount + value.eventCount + eventCountOfEntries rest
end

/-- The node itself, or the node behind an alias. -/
def target : Node → Node
  | .alias _ node => node
  | node => node

end Node

/-- An anchor. -/
structure Anchor where
  /-- The number of anchors before it. -/
  index : Nat
  /-- Its node, once that has been read to its end. -/
  node : Option Node

/-- What an alias of an anchor is. -/
def Anchor.alias (a : Anchor) : Node :=
  match a.node with
  | some node => .alias (node.followed + 1) node
  | none => .endless

/-- What the reader knows: the URI prefixes of tag handles, and the anchors. -/
structure Names where
  handles : Table String
  anchors : Table Anchor := []
  /-- The number of anchors so far. -/
  anchorCount : Nat := 0

/-- A node begins that has an anchor or none. -/
def Names.enter (names : Names) : Option String → Names
  | some a =>
    { names with
      anchors := names.anchors.insert a ⟨names.anchorCount, none⟩
      anchorCount := names.anchorCount + 1 }
  | none => names

/-- A node has been read whose anchor, if it has one, has an index. The name may have gone to a
    later anchor inside the node. -/
def Names.leave (names : Names) (index : Nat) (node : Node) : Option String → Names
  | some a =>
    if (names.anchors.find? a).any (·.index == index) then
      { names with anchors := names.anchors.insert a ⟨index, some node⟩ }
    else names
  | none => names

/-- A node of nothing. -/
def emptyNode (tag : Option String) : Node := .scalar tag "" true

/-- The handles that are always known. -/
def standardHandles : Table String := Table.ofList [("!", "!"), ("!!", "tag:yaml.org,2002:")]

/-- The tag that a handle and a rest make; a handle has to be known. -/
def Names.tag? (names : Names) (handle rest : String) : Option String :=
  if handle = "" then some rest else (names.handles.find? handle).map (· ++ rest)

/-- The anchor and the tag of a node. -/
structure Properties where
  anchor : Option String := none
  tag : Option String := none

/-- Take an anchor and a tag, in either order. -/
def takeProperties? (names : Names) (tokens : List Token) : Option (Properties × List Token) :=
  match tokens with
  | .anchor a :: .tag h r :: rest => (names.tag? h r).map fun t => (⟨some a, some t⟩, rest)
  | .tag h r :: .anchor a :: rest => (names.tag? h r).map fun t => (⟨some a, some t⟩, rest)
  | .anchor a :: rest => some (⟨some a, none⟩, rest)
  | .tag h r :: rest => (names.tag? h r).map fun t => (⟨none, some t⟩, rest)
  | _ => some ({}, tokens)

/-- Is a node missing where one of some tokens follows? -/
def missing (stops : Token → Bool) (tokens : List Token) : Bool := tokens.head?.all stops

/-- The tokens that end a node in a mapping. -/
def endsEntry : Token → Bool
  | .key | .value | .blockEnd => true
  | _ => false

/-- The tokens that end an item. -/
def endsItem : Token → Bool
  | .item | .blockEnd => true
  | _ => false

/-- The tokens that end a node in a sequence without a block of its own. -/
def endsLooseItem : Token → Bool
  | .item | .key | .value | .blockEnd => true
  | _ => false

/-- The tokens that end a key in a flow collection. -/
def endsFlowKey : Token → Bool
  | .value | .comma | .flowSequenceEnd | .flowMappingEnd => true
  | _ => false

/-- The tokens that end a value in a flow collection. -/
def endsFlowValue : Token → Bool
  | .comma | .flowSequenceEnd | .flowMappingEnd => true
  | _ => false

/-- Where a node stands. -/
inductive Position where
  /-- In a block, where blocks may start. -/
  | block
  /-- In an entry of a block mapping, where items need no block of their own. -/
  | entry
  | flow
  deriving Repr, DecidableEq

mutual
/-- Read a node. -/
def readNode? : Nat → Position → Names → List Token → Option (Node × Names × List Token)
  | 0, _, _, _ => none
  | fuel + 1, position, names, tokens =>
    match tokens with
    | .alias a :: rest => (names.anchors.find? a).map fun anchor => (anchor.alias, names, rest)
    | tokens => do
      let (p, tokens) ← takeProperties? names tokens
      let index := names.anchorCount
      let names := names.enter p.anchor
      let (node, names, rest) ← match tokens with
        | .scalar text plain :: rest =>
          -- A lone exclamation mark says nothing about a scalar.
          some (.scalar (p.tag.filter (· ≠ "!")) text plain, names, rest)
        | .flowSequenceStart :: rest => do
          let (items, names, rest) ← readFlowItems? fuel true names rest
          some (.sequence p.tag items, names, rest)
        | .flowMappingStart :: rest => do
          let (entries, names, rest) ← readFlowEntries? fuel true names rest
          some (.mapping p.tag entries, names, rest)
        | .sequenceBlock :: rest =>
          if position = .flow then none
          else do
            let (items, names, rest) ← readItems? fuel names rest
            some (.sequence p.tag items, names, rest)
        | .mappingBlock :: rest =>
          if position = .flow then none
          else do
            let (entries, names, rest) ← readEntries? fuel names rest
            some (.mapping p.tag entries, names, rest)
        | .item :: _ =>
          if position = .entry then do
            let (items, names, rest) ← readLooseItems? fuel names tokens
            some (.sequence p.tag items, names, rest)
          else if p.anchor.isSome || p.tag.isSome then some (emptyNode p.tag, names, tokens)
          else none
        | tokens =>
          if p.anchor.isSome || p.tag.isSome then some (emptyNode p.tag, names, tokens) else none
      some (node, names.leave index node p.anchor, rest)

/-- Read a node unless it is missing. -/
def readOptional? : Nat → Position → (Token → Bool) → Names → List Token →
    Option (Node × Names × List Token)
  | 0, _, _, _, _ => none
  | fuel + 1, position, stops, names, tokens =>
    if missing stops tokens then some (emptyNode none, names, tokens)
    else readNode? fuel position names tokens

/-- Read the items of a block. -/
def readItems? : Nat → Names → List Token → Option (List Node × Names × List Token)
  | 0, _, _ => none
  | fuel + 1, names, tokens =>
    match tokens with
    | .item :: rest => do
      let (node, names, rest) ← readOptional? fuel .block endsItem names rest
      let (nodes, names, rest) ← readItems? fuel names rest
      some (node :: nodes, names, rest)
    | .blockEnd :: rest => some ([], names, rest)
    | _ => none

/-- Read items that have no block of their own. -/
def readLooseItems? : Nat → Names → List Token → Option (List Node × Names × List Token)
  | 0, _, _ => none
  | fuel + 1, names, tokens =>
    match tokens with
    | .item :: rest => do
      let (node, names, rest) ← readOptional? fuel .block endsLooseItem names rest
      let (nodes, names, rest) ← readLooseItems? fuel names rest
      some (node :: nodes, names, rest)
    | tokens => some ([], names, tokens)

/-- Read the entries of a block mapping. -/
def readEntries? : Nat → Names → List Token →
    Option (List (Node × Node) × Names × List Token)
  | 0, _, _ => none
  | fuel + 1, names, tokens =>
    match tokens with
    | .key :: rest => do
      let (key, names, rest) ← readOptional? fuel .entry endsEntry names rest
      let (value, names, rest) ← match rest with
        | .value :: rest => readOptional? fuel .entry endsEntry names rest
        | rest => some (emptyNode none, names, rest)
      let (entries, names, rest) ← readEntries? fuel names rest
      some ((key, value) :: entries, names, rest)
    | .blockEnd :: rest => some ([], names, rest)
    | _ => none

/-- Read the items of a flow sequence; an item with a key is a mapping of one entry. -/
def readFlowItems? : Nat → (first : Bool) → Names → List Token →
    Option (List Node × Names × List Token)
  | 0, _, _, _ => none
  | fuel + 1, first, names, tokens =>
    match tokens with
    | .flowSequenceEnd :: rest => some ([], names, rest)
    | tokens => do
      let tokens ← match first, tokens with
        | true, tokens => some tokens
        | false, .comma :: rest => some rest
        | false, _ => none
      match tokens with
      | .flowSequenceEnd :: rest => some ([], names, rest)
      | .key :: rest => do
        let (key, names, rest) ← readOptional? fuel .flow endsFlowKey names rest
        let (value, names, rest) ← readFlowValue? fuel names rest
        let (items, names, rest) ← readFlowItems? fuel false names rest
        some (.mapping none [(key, value)] :: items, names, rest)
      | tokens => do
        let (node, names, rest) ← readNode? fuel .flow names tokens
        let (items, names, rest) ← readFlowItems? fuel false names rest
        some (node :: items, names, rest)

/-- Read the value of an entry in a flow collection, if there is one. -/
def readFlowValue? : Nat → Names → List Token → Option (Node × Names × List Token)
  | 0, _, _ => none
  | fuel + 1, names, tokens =>
    match tokens with
    | .value :: rest => readOptional? fuel .flow endsFlowValue names rest
    | tokens => some (emptyNode none, names, tokens)

/-- Read the entries of a flow mapping; a node without a colon is a key without a value. -/
def readFlowEntries? : Nat → (first : Bool) → Names → List Token →
    Option (List (Node × Node) × Names × List Token)
  | 0, _, _, _ => none
  | fuel + 1, first, names, tokens =>
    match tokens with
    | .flowMappingEnd :: rest => some ([], names, rest)
    | tokens => do
      let tokens ← match first, tokens with
        | true, tokens => some tokens
        | false, .comma :: rest => some rest
        | false, _ => none
      match tokens with
      | .flowMappingEnd :: rest => some ([], names, rest)
      | .key :: rest => do
        let (key, names, rest) ← readOptional? fuel .flow endsFlowKey names rest
        let (value, names, rest) ← readFlowValue? fuel names rest
        let (entries, names, rest) ← readFlowEntries? fuel false names rest
        some ((key, value) :: entries, names, rest)
      | tokens => do
        let (key, names, rest) ← readNode? fuel .flow names tokens
        let (entries, names, rest) ← readFlowEntries? fuel false names rest
        some ((key, emptyNode none) :: entries, names, rest)
end

/-- Take the directives before a document: the handles that they declare, if there is a directive
    at all, and the tokens behind them. No handle and no version is declared twice. -/
def takeDirectives? : (seen : Bool) → (version : Bool) → (declared : Table String) → List Token →
    Option (Bool × Table String × List Token)
  | _, version, declared, .versionDirective :: rest =>
    if version then none else takeDirectives? true true declared rest
  | _, version, declared, .tagDirective handle uri :: rest =>
    if (declared.find? handle).isSome then none
    else takeDirectives? true version (declared.insert handle uri) rest
  | seen, _, declared, tokens => some (seen, declared, tokens)

/-- Drop the marks for the end of a document. -/
def dropDocumentEnds (tokens : List Token) : List Token :=
  tokens.dropWhile (· = .documentEnd)

/-- Is there no content between a document's start and what follows? -/
def endsDocument : Token → Bool
  | .versionDirective | .tagDirective _ _ | .documentStart | .documentEnd => true
  | _ => false

/-- Read the document of a text, if it has one. -/
def read? (text : String) : Option (Option Node) := do
  let tokens ← tokens? text
  let (directives, declared, rest) ← takeDirectives? false false [] tokens
  if rest.isEmpty then if directives then none else some none
  else
    let handles := declared.foldl (fun t (h, uri) => t.insert h uri) standardHandles
    let names : Names := { handles }
    let fuel := 4 * (tokens.length + 1)
    let (node, _, rest) ← match rest with
      | .documentStart :: rest => readOptional? fuel .block endsDocument names rest
      | rest => if directives then none else readNode? fuel .block names rest
    if (dropDocumentEnds rest).isEmpty then some (some node) else none

end Exchange.Yaml
