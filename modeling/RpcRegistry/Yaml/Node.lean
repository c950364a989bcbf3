import RpcRegistry.Yaml.Token

/-!
The nodes of documents, read from their tokens. Anchors are numbered while reading, so an alias
holds the number its name had at that point. A missing node is an empty plain scalar.
-/

namespace RpcRegistry.Yaml

/-- A tag whose handle is replaced by what it stands for. A tag in full is all suffix. -/
structure ResolvedTag where
  stem : List Char
  suffix : List Char
  deriving DecidableEq, Repr

def ResolvedTag.text (tag : ResolvedTag) : List Char := tag.stem ++ tag.suffix

structure Properties where
  anchor : Option Nat := none
  tag : Option ResolvedTag := none
  deriving DecidableEq, Repr

inductive Node where
  | alias (target : Nat)
  | scalar (properties : Properties) (style : Style) (contents : List Char)
  | sequence (properties : Properties) (items : List Node)
  | mapping (properties : Properties) (entries : List (Node × Node))
  deriving Repr

namespace Node

def empty : Node := .scalar {} .plain []

mutual

def total (weight : Node → Nat) : Node → Nat
  | .alias target => weight (.alias target)
  | .scalar properties style contents => weight (.scalar properties style contents)
  | .sequence properties items =>
      totalIn weight items + weight (.sequence properties items)
  | .mapping properties entries =>
      totalAmong weight entries + weight (.mapping properties entries)
termination_by structural node => node

def totalIn (weight : Node → Nat) : List Node → Nat
  | [] => 0
  | item :: rest => total weight item + totalIn weight rest
termination_by structural items => items

def totalAmong (weight : Node → Nat) : List (Node × Node) → Nat
  | [] => 0
  | entry :: rest => totalWithin weight entry + totalAmong weight rest
termination_by structural entries => entries

def totalWithin (weight : Node → Nat) : Node × Node → Nat
  | (key, value) => total weight key + total weight value
termination_by structural entry => entry

end

def ends : Node → Nat
  | .alias _ | .scalar .. => 1
  | .sequence .. | .mapping .. => 2

def steps (node : Node) : Nat := node.total ends

def isAlias : Node → Bool
  | .alias _ => true
  | _ => false

def properties : Node → Properties
  | .alias _ => {}
  | .scalar properties .. | .sequence properties _ | .mapping properties _ => properties

def ownAnchor? (target : Nat) (node : Node) : Option Node :=
  if node.properties.anchor = some target then some node else none

mutual

/-- The last node with an anchor, in the order of the text. -/
def anchored? (target : Nat) : Node → Option Node
  | .alias _ => none
  | .scalar properties style contents => ownAnchor? target (.scalar properties style contents)
  | .sequence properties items =>
      (anchoredIn? target items).or (ownAnchor? target (.sequence properties items))
  | .mapping properties entries =>
      (anchoredAmong? target entries).or (ownAnchor? target (.mapping properties entries))
termination_by structural node => node

def anchoredIn? (target : Nat) : List Node → Option Node
  | [] => none
  | item :: rest => (anchoredIn? target rest).or (anchored? target item)
termination_by structural items => items

def anchoredAmong? (target : Nat) : List (Node × Node) → Option Node
  | [] => none
  | entry :: rest => (anchoredAmong? target rest).or (anchoredWithin? target entry)
termination_by structural entries => entries

def anchoredWithin? (target : Nat) : Node × Node → Option Node
  | (key, value) => (anchored? target value).or (anchored? target key)
termination_by structural entry => entry

end

end Node

structure Parser where
  dialect : Dialect
  handles : List (List Char × List Char)
  anchors : List (List Char × Nat)
  tokens : List Token

namespace Parser

def past (parser : Parser) : Parser := { parser with tokens := parser.tokens.tail }

def pastEnds (parser : Parser) : Parser :=
  { parser with tokens := parser.tokens.dropWhile (· = Token.documentEnd) }

/-- Whether the next token is one of those that leave a node out. -/
def nextIn (parser : Parser) (tokens : List Token) : Bool :=
  parser.tokens.head?.any tokens.contains

/-- Names an anchor. The lenient dialect numbers by how many names there are, so a name that is
used again can take the number of a later one. -/
def nameAnchor (name : List Char) (parser : Parser) : Nat × Parser :=
  let others := match parser.dialect with
    | .lenient => parser.anchors.filter (·.1 ≠ name)
    | .strict => parser.anchors
  (parser.anchors.length,
    { parser with anchors := (name, parser.anchors.length) :: others })

def anchor? (parser : Parser) : Option Nat × Parser :=
  match parser.tokens with
  | .anchor name :: rest =>
      let (number, parser) := { parser with tokens := rest }.nameAnchor name
      (some number, parser)
  | _ => (none, parser)

def tag? (parser : Parser) : Except Problem (Option ResolvedTag × Parser) :=
  match parser.tokens with
  | .tag (.full tag) :: rest => .ok (some ⟨[], tag⟩, { parser with tokens := rest })
  | .tag (.short handle suffix) :: rest =>
      match parser.handles.find? (·.1 = handle) with
      | some (_, stem) => .ok (some ⟨stem, suffix⟩, { parser with tokens := rest })
      | none => .error .undefinedTagHandle
  | _ => .ok (none, parser)

def properties (parser : Parser) : Except Problem (Properties × Parser) := do
  let (early, parser) := parser.anchor?
  let (tag, parser) ← parser.tag?
  if early.isSome ∨ tag.isNone then .ok (⟨early, tag⟩, parser)
  else
    let (anchor, parser) := parser.anchor?
    .ok (⟨anchor, tag⟩, parser)

mutual

/-- A node. Only where `block` is set may it be a block collection, and only where `compact` is
set a sequence whose dashes are not indented. -/
def node (block compact : Bool) : (fuel : Nat) → Parser → Except Problem (Node × Parser)
  | 0, _ => .error .unexpectedToken
  | fuel + 1, parser =>
      match parser.tokens with
      | .alias name :: _ =>
          match parser.anchors.find? (·.1 = name) with
          | some (_, target) => .ok (.alias target, parser.past)
          | none => .error .unknownAnchor
      | _ => do
          let (properties, parser) ← parser.properties
          match parser.tokens with
          | .scalar style contents :: _ =>
              .ok (.scalar properties style contents, parser.past)
          | .flowSequenceStart :: _ =>
              (flowItems true fuel parser.past).map fun (items, parser) =>
                (.sequence properties items, parser)
          | .flowMappingStart :: _ =>
              (flowEntries true fuel parser.past).map fun (entries, parser) =>
                (.mapping properties entries, parser)
          | token :: _ =>
              if compact ∧ token = .blockEntry then
                (compactItems fuel parser).map fun (items, parser) =>
                  (.sequence properties items, parser)
              else if block ∧ token = .blockSequenceStart then
                (blockItems fuel parser.past).map fun (items, parser) =>
                  (.sequence properties items, parser)
              else if block ∧ token = .blockMappingStart then
                (blockEntries fuel parser.past).map fun (entries, parser) =>
                  (.mapping properties entries, parser)
              else if properties = {} then .error .unexpectedToken
              else .ok (.scalar properties .plain [], parser)
          | [] =>
              if properties = {} then .error .unexpectedToken
              else .ok (.scalar properties .plain [], parser)
termination_by structural fuel => fuel

def blockItems : (fuel : Nat) → Parser → Except Problem (List Node × Parser)
  | 0, _ => .error .unexpectedToken
  | fuel + 1, parser =>
      match parser.tokens with
      | .blockEntry :: _ => do
          let (item, parser) ←
            if parser.past.nextIn [.blockEntry, .blockEnd] then .ok (Node.empty, parser.past)
            else node true false fuel parser.past
          let (items, parser) ← blockItems fuel parser
          .ok (item :: items, parser)
      | .blockEnd :: _ => .ok ([], parser.past)
      | _ => .error .unexpectedToken
termination_by structural fuel => fuel

/-- The items of a sequence whose dashes stand in the column of its key. -/
def compactItems : (fuel : Nat) → Parser → Except Problem (List Node × Parser)
  | 0, _ => .error .unexpectedToken
  | fuel + 1, parser =>
      match parser.tokens with
      | .blockEntry :: _ => do
          let (item, parser) ←
            if parser.past.nextIn [.blockEntry, .key, .value, .blockEnd] then
              .ok (Node.empty, parser.past)
            else node true false fuel parser.past
          let (items, parser) ← compactItems fuel parser
          .ok (item :: items, parser)
      | _ => .ok ([], parser)
termination_by structural fuel => fuel

def blockEntries : (fuel : Nat) → Parser → Except Problem (List (Node × Node) × Parser)
  | 0, _ => .error .unexpectedToken
  | fuel + 1, parser =>
      let absent := [Token.key, .value, .blockEnd]
      match parser.tokens with
      | .blockEnd :: _ => .ok ([], parser.past)
      | _ => do
          let (key, parser) ←
            if parser.nextIn [.key] then
              if parser.past.nextIn absent then .ok (Node.empty, parser.past)
              else node true true fuel parser.past
            else if parser.dialect = .strict ∧ parser.nextIn [.value] then
              .ok (Node.empty, parser)
            else .error .unexpectedToken
          let (value, parser) ←
            if parser.nextIn [.value] ∧ ¬parser.past.nextIn absent then
              node true true fuel parser.past
            else .ok (Node.empty, if parser.nextIn [.value] then parser.past else parser)
          let (entries, parser) ← blockEntries fuel parser
          .ok ((key, value) :: entries, parser)
termination_by structural fuel => fuel

/-- The rest of a sequence in brackets. An item may be a single entry of a mapping. -/
def flowItems (first : Bool) : (fuel : Nat) → Parser → Except Problem (List Node × Parser)
  | 0, _ => .error .unexpectedToken
  | fuel + 1, parser =>
      if parser.nextIn [.flowSequenceEnd] then .ok ([], parser.past)
      else if !first ∧ ¬parser.nextIn [.flowEntry] then .error .unexpectedToken
      else do
        let parser := if first then parser else parser.past
        if parser.nextIn [.flowSequenceEnd] then .ok ([], parser.past)
        else
          let (item, parser) ←
            if parser.nextIn [.key] then
              (flowPair fuel parser.past).map fun (entry, parser) =>
                (Node.mapping {} [entry], parser)
            else node false false fuel parser
          let (items, parser) ← flowItems false fuel parser
          .ok (item :: items, parser)
termination_by structural fuel => fuel

/-- A single entry inside a sequence in brackets. Where its key is missing, the lenient dialect
takes the token in its place as read. -/
def flowPair : (fuel : Nat) → Parser → Except Problem ((Node × Node) × Parser)
  | 0, _ => .error .unexpectedToken
  | fuel + 1, parser => do
      let (key, parser) ←
        if parser.nextIn [.value, .flowEntry, .flowSequenceEnd] then
          .ok (Node.empty, if parser.dialect = .lenient then parser.past else parser)
        else node false false fuel parser
      let (value, parser) ←
        if parser.nextIn [.value] ∧ ¬parser.past.nextIn [.flowEntry, .flowSequenceEnd] then
          node false false fuel parser.past
        else .ok (Node.empty, if parser.nextIn [.value] then parser.past else parser)
      .ok ((key, value), parser)
termination_by structural fuel => fuel

/-- The rest of a mapping in braces. A key without its mark takes no value. -/
def flowEntries (first : Bool) :
    (fuel : Nat) → Parser → Except Problem (List (Node × Node) × Parser)
  | 0, _ => .error .unexpectedToken
  | fuel + 1, parser =>
      if parser.nextIn [.flowMappingEnd] then .ok ([], parser.past)
      else if !first ∧ ¬parser.nextIn [.flowEntry] then .error .unexpectedToken
      else do
        let parser := if first then parser else parser.past
        if parser.nextIn [.flowMappingEnd] then .ok ([], parser.past)
        else
          let marked := parser.nextIn [.key]
          let keyless := !marked && parser.dialect = .strict && parser.nextIn [.value]
          let (key, parser) ←
            if keyless then .ok (Node.empty, parser)
            else if marked ∧ parser.past.nextIn [.value, .flowEntry, .flowMappingEnd] then
              .ok (Node.empty, parser.past)
            else node false false fuel (if marked then parser.past else parser)
          let valued := (marked || keyless) && parser.nextIn [.value]
          let (value, parser) ←
            if valued ∧ ¬parser.past.nextIn [.flowEntry, .flowMappingEnd] then
              node false false fuel parser.past
            else .ok (Node.empty, if valued then parser.past else parser)
          let (entries, parser) ← flowEntries false fuel parser
          .ok ((key, value) :: entries, parser)
termination_by structural fuel => fuel

end

/-- Whether a version may be asked for: in the lenient dialect 1.1 or 1.2, in the strict one any. -/
def isKnownVersion (dialect : Dialect) (major minor : Nat) : Bool :=
  dialect = .strict || (major = 1 && (minor = 1 || minor = 2))

/-- The directives before a document, which name each handle once and one version. -/
def directives (versioned : Bool) : (fuel : Nat) → Parser → Except Problem Parser
  | 0, parser => .ok parser
  | fuel + 1, parser =>
      match parser.tokens with
      | .versionDirective major minor :: _ =>
          if versioned ∨ !isKnownVersion parser.dialect major minor then .error .badDirective
          else directives true fuel parser.past
      | .tagDirective handle stem :: _ =>
          if parser.handles.any (·.1 = handle) then .error .badDirective
          else
            directives versioned fuel
              { parser.past with handles := (handle, stem) :: parser.handles }
      | .reservedDirective :: _ => directives versioned fuel parser.past
      | _ => .ok parser

def standardHandles : List (List Char × List Char) :=
  [("!".toList, "!".toList), ("!!".toList, "tag:yaml.org,2002:".toList)]

def isDirective : Token → Bool
  | .versionDirective .. | .tagDirective .. | .reservedDirective => true
  | _ => false

/-- The parser behind the directives of one document, and whether there are any. Handles count
for one document, names of anchors for all. -/
def ofDirectives (parser : Parser) : Except Problem (Bool × Parser) := do
  let after ← Parser.directives false parser.tokens.length { parser with handles := [] }
  .ok (parser.tokens.head?.any isDirective,
    { after with handles := after.handles ++ standardHandles })

def isOver (parser : Parser) : Bool :=
  parser.tokens.head?.all fun token =>
    isDirective token || token = .documentStart || token = .documentEnd

def top (parser : Parser) : Except Problem (Node × Parser) :=
  node true false (4 * parser.tokens.length + 4) parser

def announced (parser : Parser) : Except Problem (Node × Parser) :=
  if parser.isOver then .ok (.empty, parser) else parser.top

def document? (parser : Parser) : Except Problem (Option (Node × Parser)) := do
  let (directed, parser) ← parser.ofDirectives
  match parser.tokens with
  | [] => if directed then .error .unexpectedToken else .ok none
  | .documentStart :: _ => parser.past.announced.map some
  | _ => if directed then .error .unexpectedToken else parser.top.map some

end Parser

end RpcRegistry.Yaml
