import RpcRegistry.Number.Shortest
import RpcRegistry.Yaml.Folding

/-!
The YAML text of a dictionary, one entry a line, two columns a level. The dashes of a list stand
in the column of its key. A text is plain unless it could be read as something else or is better
laid out as a block.
-/

namespace RpcRegistry.Yaml.Printer

open RpcRegistry.Text

def floatLine (x : Binary64) : Line := if x.isFinite then x.text else specialWord x

/-- Sets lines that start in column `column + 2` behind a dash in `column`. -/
def dashed (column : Nat) : List Line → List Line
  | [] => []
  | first :: rest => (spaces column ++ '-' :: ' ' :: first.drop (column + 2)) :: rest

def isFilled : Value → Bool
  | .list items => !items.isEmpty
  | .dict entries => !entries.isEmpty
  | _ => false

def scalarLines (column : Nat) : Value → Line × List Line
  | .null => ("null".toList, [])
  | .bool b => ((if b then "true" else "false").toList, [])
  | .int n => ((if n < 0 then ['-'] else []) ++ Numeral.decimal n.natAbs, [])
  | .float x => (floatLine x, [])
  | .text s => textLines column s
  | .list _ => ("[]".toList, [])
  | .dict _ => ("\x7b\x7d".toList, [])

def undividedItem (column : Nat) (item : Value) : List Line :=
  let (first, rest) := scalarLines (column + 2) item
  (spaces column ++ '-' :: ' ' :: first) :: rest

mutual

/-- The lines of an entry, from the key's line on. An empty collection after a sibling with parts
stands on a line of its own, where its parts would start. -/
def entryLines (column : Nat) (afterFilled : Bool) : String × Value → List Line
  | (key, value) =>
      let head := spaces column ++ keyLine key ++ [':']
      if isFilled value then head :: partLines column (column + 2) value
      else
        let (first, rest) := scalarLines (column + 2) value
        match afterFilled, value with
        | true, .dict _ => [head, spaces (column + 2) ++ first]
        | true, .list _ => [head, spaces column ++ first]
        | _, _ => (head ++ ' ' :: first) :: rest
termination_by structural entry => entry

/-- The lines of the parts of a value: items with their dashes in one column, entries in
another. -/
def partLines (dashColumn keyColumn : Nat) : Value → List Line
  | .list items => itemsLines dashColumn items
  | .dict entries => entriesLines keyColumn false entries
  | _ => []
termination_by structural value => value

def entriesLines (column : Nat) (afterFilled : Bool) : List (String × Value) → List Line
  | [] => []
  | entry :: rest =>
      entryLines column afterFilled entry ++ entriesLines column (isFilled entry.2) rest
termination_by structural entries => entries

def itemsLines (column : Nat) : List Value → List Line
  | [] => []
  | item :: rest =>
      (if isFilled item then dashed column (partLines (column + 2) (column + 2) item)
        else undividedItem column item) ++ itemsLines column rest
termination_by structural items => items

end

def render (entries : List (String × Value)) : String :=
  String.ofList ((entriesLines 0 false entries).flatMap (· ++ ['\n']))

end RpcRegistry.Yaml.Printer
