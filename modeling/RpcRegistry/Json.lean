import RpcRegistry.Number.Shortest
import RpcRegistry.Text.Padding
import RpcRegistry.Value

/-!
The JSON text of a value, on one line and without blanks. Only quotes, backslashes and controls
are escaped; members stand in the order of their keys.
-/

namespace RpcRegistry.Json

open RpcRegistry.Text

def fourDigits (n : Nat) : List Char := padLeft '0' 4 (Numeral.digits 16 n)

def escapedChar (c : Char) : List Char :=
  if c = '"' then ['\\', '"']
  else if c = '\\' then ['\\', '\\']
  else if c = '\n' then ['\\', 'n']
  else if c = '\r' then ['\\', 'r']
  else if c = '\t' then ['\\', 't']
  else if c = '\x08' then ['\\', 'b']
  else if c = '\x0c' then ['\\', 'f']
  else if c.toNat < 0x20 then ['\\', 'u'] ++ fourDigits c.toNat
  else [c]

def quoted (text : String) : List Char := '"' :: text.toList.flatMap escapedChar ++ ['"']

/-- A number that is not finite has no JSON text and is written as null. -/
def number (x : Binary64) : List Char :=
  if x.isFinite then x.text else "null".toList

def whole (n : Int) : List Char :=
  (if n < 0 then ['-'] else []) ++ Numeral.decimal n.natAbs

def commaSeparated (texts : List (List Char)) : List Char := [','].intercalate texts

def array (items : List (List Char)) : List Char := '[' :: commaSeparated items ++ [']']

def object (members : List (List Char)) : List Char :=
  '\x7b' :: commaSeparated members ++ ['\x7d']

def member (key : String) (value : List Char) : List Char := quoted key ++ ':' :: value

mutual

def chars : Value → List Char
  | .null => "null".toList
  | .bool b => (if b then "true" else "false").toList
  | .int n => whole n
  | .float x => number x
  | .text s => quoted s
  | .list items => array (itemChars items)
  | .dict entries => object (entryChars entries)
termination_by structural value => value

def itemChars : List Value → List (List Char)
  | [] => []
  | item :: rest => chars item :: itemChars rest
termination_by structural items => items

def entryChars : List (String × Value) → List (List Char)
  | [] => []
  | entry :: rest => memberChars entry :: entryChars rest
termination_by structural entries => entries

def memberChars : String × Value → List Char
  | (key, value) => member key (chars value)
termination_by structural entry => entry

end

def text (value : Value) : String := String.ofList (chars value)

end RpcRegistry.Json
