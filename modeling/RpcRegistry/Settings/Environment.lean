import RpcRegistry.Text.Blank
import RpcRegistry.Text.CodePoint
import RpcRegistry.Text.LowerCase
import RpcRegistry.Text.Numeral
import RpcRegistry.Value

/-!
Settings in environment variables. A variable named `APP__A__B` sets the value at the path `a`,
`b`. Its text is read as a boolean, a quoted text, a list, a dictionary or a number if it is one
from its first to its last character, and stands for itself otherwise.
-/

namespace RpcRegistry.Environment

open RpcRegistry.Text

structure Variable where
  name : String
  value : String
  deriving DecidableEq, Repr

def skipBlanks (text : List Char) : List Char := text.dropWhile isAsciiBlank

def isSeparator (c : Char) : Bool :=
  c = ',' || c = '\x7b' || c = '\x7d' || c = '[' || c = ']'

def isKeyChar (c : Char) : Bool :=
  Numeral.isDigit 10 c || ('a' ≤ c && c ≤ 'z') || ('A' ≤ c && c ≤ 'Z') || c = '_' || c = '-'

def codePoint? (count : Nat) (text : List Char) : Option (Char × List Char) := do
  let digits := text.take count
  let code ← if digits.length = count then Numeral.whole? 16 digits else none
  (charOfCode? code).map (·, text.drop count)

def escapedChar? : List Char → Option (Char × List Char)
  | '"' :: rest => some ('"', rest)
  | '\\' :: rest => some ('\\', rest)
  | 'b' :: rest => some ('\x08', rest)
  | 'f' :: rest => some ('\x0c', rest)
  | 'n' :: rest => some ('\n', rest)
  | 'r' :: rest => some ('\r', rest)
  | 't' :: rest => some ('\t', rest)
  | 'u' :: rest => codePoint? 4 rest
  | 'U' :: rest => codePoint? 8 rest
  | _ => none

/-- The text up to its closing quote, and what stands behind that quote. A backslash takes the next
character with it. -/
def splitQuoted? : List Char → Option (List Char × List Char)
  | [] => none
  | '"' :: rest => some ([], rest)
  | '\\' :: c :: rest => (splitQuoted? rest).map fun (text, rest) => ('\\' :: c :: text, rest)
  | c :: rest => (splitQuoted? rest).map fun (text, rest) => (c :: text, rest)

def isRefused (c : Char) : Bool := (c.toNat < 0x20 && c ≠ '\t') || c.toNat = 0x7f

def unescaped? : (fuel : Nat) → List Char → Option (List Char)
  | 0, _ => none
  | _ + 1, [] => some []
  | fuel + 1, c :: rest =>
      if c = '\\' then do
        let (c, rest) ← escapedChar? rest
        (unescaped? fuel rest).map (c :: ·)
      else if isRefused c then none
      else (unescaped? fuel rest).map (c :: ·)

/-- The characters that make up the first octets of a text, if no character is cut. -/
def firstOctets? : (count : Nat) → List Char → Option (List Char)
  | 0, _ => some []
  | _ + 1, [] => none
  | count + 1, c :: rest =>
      if count + 1 < c.utf8Size then none
      else (firstOctets? (count + 1 - c.utf8Size) rest).map (c :: ·)

/-- Why a text has no value of its own: it is not written like one, or the part of it before an
escape cannot be kept. -/
inductive Misfit where
  | otherForm
  | cutCharacter
  deriving DecidableEq, Repr

/-- What stands between quotes. With an escape in it, of the text before the first one as many
octets are kept as it has characters. -/
def quotedText (text : List Char) : Except Misfit (List Char) :=
  let start := text.takeWhile (· ≠ '\\')
  let rest := text.dropWhile (· ≠ '\\')
  if start.any isRefused then .error .otherForm
  else if rest = [] then .ok start
  else
    match firstOctets? start.length start, unescaped? (rest.length + 1) rest with
    | none, _ => .error .cutCharacter
    | some kept, some rest => .ok (kept ++ rest)
    | some _, none => .error .otherForm

def readQuoted (text : List Char) : Except Misfit (List Char × List Char) := do
  match splitQuoted? text with
  | some (quoted, rest) => .ok (← quotedText quoted, rest)
  | none => .error .otherForm

/-- A number, or the text itself. Only a text with a point is read as a fraction. -/
def bareValue (text : List Char) : Value :=
  let float? := if text.contains '.' then Binary64.ofDecimalText? text else none
  match float?, Numeral.unsigned? (UInt64.size - 1) text, Numeral.signed? text with
  | some x, _, _ => .float x
  | none, some n, _ => .int n
  | none, none, some n => .int n
  | none, none, none => .text (String.ofList text)

/-- A value without parts: a boolean, a quoted text, one character in single quotes, or whatever
stands before the next separator. -/
def readScalar (text : List Char) : Except Misfit (Value × List Char) :=
  match "true".toList.isPrefixOf? text, "false".toList.isPrefixOf? text, text with
  | some rest, _, _ => .ok (.bool true, rest)
  | none, some rest, _ => .ok (.bool false, rest)
  | none, none, '"' :: rest => do
      let (text, rest) ← readQuoted rest
      .ok (.text (String.ofList text), rest)
  | none, none, '\'' :: c :: '\'' :: rest => .ok (.text (String.singleton c), rest)
  | none, none, '\'' :: _ => .error .otherForm
  | none, none, text =>
      .ok (bareValue (trim (text.takeWhile fun c => !isSeparator c)),
        text.dropWhile fun c => !isSeparator c)

def readKey (text : List Char) : Except Misfit (String × List Char) := do
  let start := skipBlanks text
  let (key, rest) ← match start with
    | '"' :: rest => readQuoted rest
    | _ =>
        let key := start.takeWhile isKeyChar
        if key = [] then .error .otherForm else .ok (key, start.dropWhile isKeyChar)
  match skipBlanks rest with
  | '=' :: rest => .ok (String.ofList key, rest)
  | _ => .error .otherForm

mutual

def readValue : (fuel : Nat) → List Char → Except Misfit (Value × List Char)
  | 0, _ => .error .otherForm
  | fuel + 1, text => do
      let (value, rest) ← match skipBlanks text with
        | '[' :: rest => (readItems fuel rest).map fun (items, rest) => (.list items, rest)
        | '\x7b' :: rest =>
            (readEntries fuel rest).map fun (entries, rest) => (Value.ofEntries entries, rest)
        | text => readScalar text
      .ok (value, skipBlanks rest)
termination_by structural fuel => fuel

def readItems : (fuel : Nat) → List Char → Except Misfit (List Value × List Char)
  | 0, _ => .error .otherForm
  | fuel + 1, text =>
      match text with
      | ']' :: rest => .ok ([], rest)
      | _ => do
          let (item, rest) ← readValue fuel text
          match rest with
          | ',' :: rest => do
              let (items, rest) ← readItems fuel rest
              .ok (item :: items, rest)
          | ']' :: rest => .ok ([item], rest)
          | _ => .error .otherForm
termination_by structural fuel => fuel

def readEntries : (fuel : Nat) → List Char → Except Misfit (List (String × Value) × List Char)
  | 0, _ => .error .otherForm
  | fuel + 1, text =>
      match text with
      | '\x7d' :: rest => .ok ([], rest)
      | _ => do
          let (key, rest) ← readKey text
          let (value, rest) ← readValue fuel rest
          match rest with
          | ',' :: rest => do
              let (entries, rest) ← readEntries fuel rest
              .ok ((key, value) :: entries, rest)
          | '\x7d' :: rest => .ok ([(key, value)], rest)
          | _ => .error .otherForm
termination_by structural fuel => fuel

end

/-- The value a variable's text stands for, if no character of it is cut. -/
def valueOfText? (text : String) : Option Value :=
  match readValue (2 * text.length + 2) text.toList with
  | .ok (value, []) => some value
  | .error .cutCharacter => none
  | _ => some (.text text)

/-- The start of the names that hold settings. -/
def stem : List Char := "app__".toList

/-- Replaces two underscores by a point, from left to right. -/
def withPoints : List Char → List Char
  | '_' :: '_' :: rest => '.' :: withPoints rest
  | c :: rest => c :: withPoints rest
  | [] => []

/-- The key path a name stands for, in lower case. A name with an empty key stands for none. -/
def path? (name : String) : Option (List String) := do
  let name := trim name.toList
  let front := lowerCase (name.take stem.length)
  let rest ← if front = stem then some (name.drop stem.length) else none
  let keys := (trim (withPoints rest)).splitOn '.'
  if keys.any (· = []) then none else some (keys.map fun key => String.ofList (lowerCase key))

def layerAt? (path : List String) (given : Variable) : Option Value :=
  (valueOfText? given.value).map (Value.nested path)

def layersOf? : List Variable → Option (List Value)
  | [] => some []
  | given :: rest =>
      match path? given.name with
      | none => layersOf? rest
      | some path => do some ((← layerAt? path given) :: (← layersOf? rest))

/-- The layer of all variables; of two that set one path the later counts. -/
def layer? (environment : List Variable) : Option Value :=
  (layersOf? environment).map fun layers => layers.foldl Value.merge (.dict [])

end RpcRegistry.Environment
