import RpcRegistry.Yaml.Lenient.Lexer
import RpcRegistry.Yaml.Node
import RpcRegistry.Yaml.Schema

/-!
The dictionary of a lenient text. The last of two equal keys wins; how deep collections nest and
how often aliases are followed is bounded. A tag of the text's own sets a value in a dictionary
under the tag's name; points in the name make further dictionaries.
-/

namespace RpcRegistry.Yaml.Lenient

abbrev Counting := StateT Nat (Except Problem)

def maxDepth : Nat := 128

def followed (root : Node) (node : Node) : Counting Node := do
  match node with
  | .alias target =>
      let jumps := (← get) + 1
      set jumps
      if root.steps * 100 < jumps then throw .tooManyAliases
      else
        match root.anchored? target with
        | some found => pure found
        | none => throw .unknownAnchor
  | node => pure node

/-- A key must be a scalar; its text is the key, whatever it means. -/
def keyText (root : Node) (node : Node) : Counting String := do
  match ← followed root node with
  | .scalar _ _ contents => pure (String.ofList contents)
  | _ => throw .wrongShape

def stem : List Char := "tag:yaml.org,2002:".toList

/-- A checked value of a scalar that names its type in a tag; any other type is text. -/
def taggedValue (tag contents : List Char) : Except Problem Value :=
  let checked := fun (value : Option Value) =>
    match value with
    | some value => .ok value
    | none => .error Problem.wrongShape
  if tag = stem ++ "bool".toList then checked ((Core.bool? contents).map .bool)
  else if tag = stem ++ "int".toList then checked ((Core.int? contents).map .int)
  else if tag = stem ++ "float".toList then checked ((Core.float? contents).map .float)
  else if tag = stem ++ "null".toList then
    checked (if Core.isNull contents then some .null else none)
  else .ok (.text (String.ofList contents))

/-- The keys that a name with points stands for; an empty one ends them. -/
def keysOfName (name : List Char) : List String :=
  ((name.splitOn '.').takeWhile (· ≠ [])).map String.ofList

/-- The keys in the name of a tag of the text's own; a lone exclamation mark is its own name. -/
def ownPath? (properties : Properties) : Option (List String) :=
  match properties.tag.map ResolvedTag.text with
  | some ['!'] => some ["!"]
  | some ('!' :: name) => some (keysOfName name)
  | _ => none

def scalarValue (properties : Properties) (style : Style) (contents : List Char) :
    Except Problem Value :=
  match ownPath? properties, properties.tag with
  | none, some tag => taggedValue tag.text contents
  | _, _ =>
      .ok (if style = .plain then Core.value contents else .text (String.ofList contents))

def named (properties : Properties) (value : Value) : Value :=
  Value.nested ((ownPath? properties).getD []) value

def value (root : Node) : (depth : Nat) → Node → Counting Value
  | depth, node => do
      match ← followed root node, depth with
      | .scalar properties style contents, _ => do
          let value ← scalarValue properties style contents
          pure (named properties value)
      | .sequence properties items, depth + 1 => do
          let values ← items.mapM (value root depth)
          pure (named properties (.list values))
      | .mapping properties entries, depth + 1 => do
          let pairs ← entries.mapM fun entry => do
            let key ← keyText root entry.1
            let value ← value root depth entry.2
            pure (key, value)
          pure (named properties (Value.ofEntries pairs))
      | _, _ => throw .tooDeep

/-- The dictionary of a document: nothing at all, or an empty scalar, is an empty one. The tag of
the whole says nothing. -/
def entries : Option Node → Except Problem (List (String × Value))
  | none => .ok []
  | some (.scalar _ style contents) =>
      if style = .plain ∧ contents = [] then .ok [] else .error .wrongShape
  | some (.mapping properties entries) => do
      match ← (value (.mapping properties entries) maxDepth
          (.mapping { properties with tag := none } entries)).run' 0 with
      | .dict entries => .ok entries
      | _ => .error .wrongShape
  | some _ => .error .wrongShape

def document? (tokens : List Token) : Except Problem (Option Node) := do
  match ← Parser.document? ⟨.lenient, [], [], tokens⟩ with
  | none => .ok none
  | some (node, parser) =>
      if parser.pastEnds.tokens = [] then .ok (some node) else .error .manyDocuments

def readEntries (text : String) : Except Problem (List (String × Value)) := do
  entries (← document? (← tokens text.toList))

end RpcRegistry.Yaml.Lenient
