import RpcRegistry.Text.Base64
import RpcRegistry.Yaml.Schema
import RpcRegistry.Yaml.Strict.Lexer
import RpcRegistry.Yaml.Strict.Stream

/-!
The value of a strict text. A dictionary has no key twice, whatever the tags of its keys, and takes
over the entries of what stands under the key `<<`, but for keys it has. A tag on a scalar can make
it null, a text or the text that its letters encode; no other type can be forced.
-/

namespace RpcRegistry.Yaml.Strict

open RpcRegistry.Text

inductive Kind where
  | untagged
  | null
  | text
  | binary
  | neutral
  | typed (name : List Char)
  | foreign
  deriving DecidableEq, Repr

/-- The types that no scalar can be forced to have. -/
def typeNames : List (List Char) :=
  ["bool", "int", "float", "timestamp", "time", "degrees", "radians", "seq", "map"].map
    String.toList

/-- A tag with an exclamation mark between its stem and its suffix. A stem that is that mark is not
written twice. -/
def markedTag (tag : ResolvedTag) : List Char :=
  if tag.stem = ['!'] then '!' :: tag.suffix else tag.stem ++ '!' :: tag.suffix

def typeStems : List (List Char) := ["!!", "!", "tag:yaml.org,2002:!"].map String.toList

/-- The kind of a tag, by the name of a type in its marked form. Marks alone ask for no reading. -/
def Kind.ofTag (tag : ResolvedTag) : Kind :=
  let marked := markedTag tag
  let name := (typeStems.findSome? (·.isPrefixOf? marked)).getD []
  if marked = "!".toList ∨ marked = "!!".toList then .neutral
  else if name = "null".toList then .null
  else if name = "str".toList then .text
  else if name = "binary".toList then .binary
  else if typeNames.contains name then .typed name
  else .foreign

structure Scalar where
  kind : Kind
  plain : Bool
  contents : List Char
  deriving DecidableEq, Repr

namespace Scalar

/-- An empty scalar in quotes counts as plain where it has an anchor. -/
def of (properties : Properties) (style : Style) (contents : List Char) : Scalar where
  kind := (properties.tag.map Kind.ofTag).getD .untagged
  plain := style = .plain || (style = .quoted && contents = [] && properties.anchor.isSome)
  contents := contents

def readsNull (scalar : Scalar) : Bool := scalar.plain && Wide.isNull scalar.contents

/-- The text of a scalar, which some tags forbid. -/
def text (scalar : Scalar) : Except Problem String :=
  match scalar.kind with
  | .typed _ | .null => .error .wrongShape
  | .binary =>
      match Base64.text? (scalar.contents.filter fun c => !isAsciiBlank c) with
      | some text => .ok text
      | none => .error .wrongShape
  | _ => .ok (String.ofList scalar.contents)

/-- The value of a scalar. Null goes before a tag; what has no tag and no quotes is read. -/
def value (scalar : Scalar) : Except Problem Value :=
  if scalar.kind = .null ∨ scalar.readsNull then .ok .null
  else if scalar.plain ∧ (scalar.kind = .untagged ∨ scalar.kind = .foreign) then
    .ok (Wide.value scalar.contents)
  else scalar.text.map .text

/-- A scalar as a key: nothing that is null, unless a tag makes it a text. -/
def key (scalar : Scalar) : Except Problem String :=
  if scalar.readsNull ∧ scalar.kind ≠ .text then .error .wrongShape else scalar.text

end Scalar

abbrev Counting := StateT Nat (Except Problem)

def maxDepth : Nat := 2000

def maxRepeated : Nat := 1000000

structure Place where
  node : Node
  repeated : Bool

namespace Place

def followed (root : Node) (place : Place) : Except Problem Place :=
  match place.node with
  | .alias target =>
      match root.anchored? target with
      | some found => .ok ⟨found, true⟩
      | none => .error .unknownAnchor
  | _ => .ok place

def scalar? (place : Place) : Option Scalar :=
  match place.node with
  | .scalar properties style contents => some (Scalar.of properties style contents)
  | _ => none

def part (place : Place) (node : Node) : Place := ⟨node, place.repeated⟩

def count (place : Place) : Counting Unit := do
  if place.repeated then
    let repeated := (← get) + place.node.ends
    set repeated
    if maxRepeated < repeated then throw .tooManyAliases

end Place

/-- An entry of a mapping that is still to be read: the scalar of its key and the place of its
value. -/
abbrev Entry := Scalar × Place

def isMergeKey (scalar : Scalar) : Bool :=
  scalar.plain && scalar.kind = .untagged && scalar.contents = ['<', '<']

/-- The entries of a mapping with their keys at hand. A key must be a scalar. -/
def scalarEntries (root : Node) (place : Place) (entries : List (Node × Node)) :
    Counting (List Entry) :=
  entries.mapM fun (key, value) => do
    let key ← (place.part key).followed root
    key.count
    match key.scalar? with
    | some scalar => pure (scalar, place.part value)
    | none => throw .wrongShape

/-- The entries that a merged node brings, the more important ones first: those of a mapping
before those that it merges itself, and later ones before earlier ones. -/
def mergedEntries (root : Node) : (depth : Nat) → Place → Counting (List Entry)
  | depth, place => do
      let place ← place.followed root
      place.count
      match place.node, depth with
      | .scalar properties style contents, _ =>
          if (Scalar.of properties style contents).readsNull then pure [] else throw .wrongShape
      | .sequence _ items, depth + 1 => do
          let batches ← items.mapM fun item => mergedEntries root depth (place.part item)
          pure batches.reverse.flatten
      | .mapping _ entries, depth + 1 => do
          let entries ← scalarEntries root place entries
          let batches ← (entries.filter (isMergeKey ·.1)).mapM fun entry =>
            mergedEntries root depth entry.2
          pure (entries.filter (!isMergeKey ·.1) ++ batches.reverse.flatten)
      | _, _ => throw .tooDeep

/-- The entries whose keys are not among those seen, of entries with one key the first. -/
def unseen (seen : List (List Char)) : List Entry → List Entry
  | [] => []
  | entry :: rest =>
      if seen.contains entry.1.contents then unseen seen rest
      else entry :: unseen (entry.1.contents :: seen) rest

def value (root : Node) : (depth : Nat) → Place → Counting Value
  | depth, place => do
      let place ← place.followed root
      place.count
      match place.node, depth with
      | .scalar properties style contents, _ =>
          (Scalar.of properties style contents).value
      | .sequence _ items, depth + 1 => do
          let values ← items.mapM fun item => value root depth (place.part item)
          pure (.list values)
      | .mapping _ entries, depth + 1 => do
          let entries ← scalarEntries root place entries
          let own := entries.filter (!isMergeKey ·.1)
          let keys := own.map (·.1.contents)
          if keys.eraseDups.length ≠ keys.length then throw .duplicateKey
          let batches ← (entries.filter (isMergeKey ·.1)).mapM fun entry =>
            mergedEntries root depth entry.2
          let pairs ← (own ++ unseen keys batches.reverse.flatten).mapM fun entry => do
            let key ← entry.1.key
            let value ← value root depth entry.2
            pure (key, value)
          pure (Value.ofEntries pairs)
      | _, _ => throw .tooDeep

/-- Whether a document has a hundred aliases or more, and more than ten for each anchor. -/
def overusesAliases (root : Node) : Bool :=
  let aliases := root.total fun node => if node.isAlias then 1 else 0
  let anchors := root.total fun node => if node.properties.anchor.isSome then 1 else 0
  100 ≤ aliases && 10 * anchors < aliases

/-- The value a text holds; an empty one is null. -/
def readValue (text : String) : Except Problem Value := do
  match ← document? (tokens text.toList) with
  | none => .ok .null
  | some root =>
      if overusesAliases root then .error .tooManyAliases
      else (value root maxDepth ⟨root, false⟩).run' 0

end RpcRegistry.Yaml.Strict
