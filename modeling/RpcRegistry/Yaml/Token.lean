import RpcRegistry.Yaml.Scalar

/-!
The tokens of a YAML text: indicators, the starts and ends that indentation stands for, node
properties, scalars and directives. A strict text can be unreadable from some place on; the last
token says so. Readers for properties and directives stand here too; each gives a token and the
place after it.
-/

namespace RpcRegistry.Yaml

open RpcRegistry.Text

/-- A tag as it is written: in full, or a suffix to what a handle stands for. -/
inductive Tag where
  | full (tag : List Char)
  | short (handle suffix : List Char)
  deriving DecidableEq, Repr

inductive Style where
  | plain
  | quoted
  | block
  deriving DecidableEq, Repr

inductive Token where
  | versionDirective (major minor : Nat)
  | tagDirective (handle stem : List Char)
  | reservedDirective
  | documentStart
  | documentEnd
  | blockSequenceStart
  | blockMappingStart
  | blockEnd
  | flowSequenceStart
  | flowSequenceEnd
  | flowMappingStart
  | flowMappingEnd
  | blockEntry
  | flowEntry
  | key
  | value
  | alias (name : List Char)
  | anchor (name : List Char)
  | tag (tag : Tag)
  | scalar (style : Style) (contents : List Char)
  | unreadable (problem : Problem)
  deriving DecidableEq, Repr

abbrev Lexeme := Except Problem (Token × Cursor)

/-- A place where a key may have started. A key is required where its line could be nothing
else. -/
structure PendingKey where
  place : Nat
  index : Nat
  line : Nat
  column : Nat
  required : Bool
  deriving Repr

/-- Whether the cursor is too far on for a key: on another line, or more than 1024 characters. -/
def PendingKey.isStale (key : PendingKey) (cursor : Cursor) : Bool :=
  key.line < cursor.line || key.index + 1024 < cursor.index

def isNameChar (dialect : Dialect) (c : Char) : Bool :=
  match dialect with
  | .lenient => isWordChar c
  | .strict => !isBlankOrBreak dialect c && !isFlowIndicator c && c ≠ '\ufeff'

/-- Whether a name may end here. In the lenient dialect few characters may follow it. -/
def endsName (cursor : Cursor) : Bool :=
  match cursor.dialect with
  | .lenient =>
      cursor.isSpaced 0 ||
        cursor.nextIs fun c => ['?', ':', ',', ']', '\x7d', '%', '@', '\x60'].contains c
  | .strict => true

def readName (token : List Char → Token) (cursor : Cursor) : Lexeme :=
  let start := cursor.skip
  let name := start.rest.takeWhile (isNameChar cursor.dialect)
  let next := start.advance name.length
  if name ≠ [] ∧ endsName next then .ok (token name, next) else .error .badAnchor

/-- The characters of a tag. Its full form may also have brackets and commas; in the strict
dialect only that form may have an exclamation mark. -/
def isTagChar (dialect : Dialect) (full : Bool) (c : Char) : Bool :=
  isWordChar c || ";/?:@&=+$.~*'()%".toList.contains c ||
    (c = '!' && (full || dialect = .lenient)) || (c = '#' && dialect = .strict) ||
    (full && [',', '[', ']'].contains c)

def continuationCount? (octet : Nat) : Option Nat :=
  if octet < 0x80 then some 0
  else if octet / 0x20 = 6 then some 1
  else if octet / 0x10 = 14 then some 2
  else if octet / 8 = 30 then some 3
  else none

def escapedOctet? : List Char → Option (Nat × List Char)
  | '%' :: high :: low :: rest =>
      (Numeral.whole? 16 [high, low]).map (·, rest)
  | _ => none

def continuation? : (count : Nat) → Nat → List Char → Option (Nat × List Char)
  | 0, code, text => some (code, text)
  | count + 1, code, text => do
      let (octet, rest) ← escapedOctet? text
      if octet / 0x40 = 2 then continuation? count (code * 64 + octet % 64) rest else none

def unescapeTag : (fuel : Nat) → List Char → Except Problem (List Char)
  | 0, _ => .ok []
  | _ + 1, [] => .ok []
  | fuel + 1, c :: rest =>
      if c = '%' then
        let decoded := do
          let (octet, rest) ← escapedOctet? (c :: rest)
          let count ← continuationCount? octet
          let bits := if count = 0 then octet else octet % 2 ^ (6 - count)
          let (code, rest) ← continuation? count bits rest
          (charOfCode? code).map (·, rest)
        match decoded with
        | some (c, rest) => (unescapeTag fuel rest).map (c :: ·)
        | none => .error .badTag
      else (unescapeTag fuel rest).map (c :: ·)

def readTagText (full : Bool) (cursor : Cursor) : Except Problem (List Char × Cursor) := do
  let run := cursor.rest.takeWhile (isTagChar cursor.dialect full)
  let text ← unescapeTag run.length run
  .ok (text, cursor.advance run.length)

/-- A tag in one of its forms: `!<...>`, `!handle!suffix`, `!suffix`, or `!` alone. In the strict
dialect a handle may stand without a suffix. -/
def readTagForm (cursor : Cursor) : Except Problem (Tag × Cursor) := do
  if cursor.peek? 1 = some '<' then
    let (text, next) ← readTagText true (cursor.advance 2)
    if next.isAt '>' ∧ (text ≠ [] ∨ cursor.dialect = .strict) then .ok (.full text, next.skip)
    else .error .badTag
  else
    let name := cursor.skip.rest.takeWhile isWordChar
    let afterName := cursor.advance (1 + name.length)
    if afterName.isAt '!' then
      let (suffix, next) ← readTagText false afterName.skip
      if suffix = [] ∧ cursor.dialect = .lenient then .error .badTag
      else .ok (.short ('!' :: name ++ ['!']) suffix, next)
    else
      let (suffix, next) ← readTagText false afterName
      let suffix := name ++ suffix
      if suffix = [] then .ok (.full ['!'], next) else .ok (.short ['!'] suffix, next)

def endsFlowTag (dialect : Dialect) (c : Char) : Bool :=
  match dialect with
  | .lenient => c = ','
  | .strict => isFlowIndicator c

/-- A tag and the white space that must follow it. -/
def readTag (inFlow : Bool) (cursor : Cursor) : Lexeme := do
  let (form, next) ← readTagForm cursor
  if next.isSpaced 0 || (inFlow && next.nextIs (endsFlowTag cursor.dialect)) then
    .ok (.tag form, next)
  else .error .badTag

/-- A number of a version, of at most nine digits. -/
def readVersionNumber (cursor : Cursor) : Except Problem (Nat × Cursor) :=
  let digits := cursor.rest.takeWhile (Numeral.isDigit 10)
  if digits ≠ [] ∧ digits.length ≤ 9 then
    .ok (Numeral.value 10 digits, cursor.advance digits.length)
  else .error .badDirective

def readVersion (cursor : Cursor) : Lexeme := do
  let (major, next) ← readVersionNumber (cursor.skipWhile isBlank)
  if next.isAt '.' then
    let (minor, next) ← readVersionNumber next.skip
    .ok (.versionDirective major minor, next)
  else .error .badDirective

/-- Whether the stem of a tag starts here; a strict one starts with no comma or bracket. -/
def startsStem (cursor : Cursor) : Bool :=
  cursor.nextIs fun c =>
    isTagChar cursor.dialect true c && (cursor.dialect = .lenient || !isFlowIndicator c)

/-- The parts of a tag directive after its name: a handle and what it stands for. In the strict
dialect no blank need set them apart. -/
def readTagDirective (cursor : Cursor) : Lexeme := do
  let start := cursor.skipWhile isBlank
  let name := start.skip.rest.takeWhile isWordChar
  let afterName := start.advance (1 + name.length)
  let closed := afterName.isAt '!'
  let next := if closed then afterName.skip else afterName
  let apart := next.nextIs isBlank || cursor.dialect = .strict
  if start.isAt '!' && (closed || name = []) && apart then
    let handle := if closed then '!' :: name ++ ['!'] else ['!']
    let stemStart := next.skipWhile isBlank
    let (stem, next) ← readTagText true stemStart
    if startsStem stemStart ∧ next.isSpaced 0 then .ok (.tagDirective handle stem, next)
    else .error .badDirective
  else .error .badDirective

def isDirectiveChar (dialect : Dialect) (c : Char) : Bool :=
  match dialect with
  | .lenient => isWordChar c
  | .strict => !isBlankOrBreak dialect c && c ≠ '\ufeff'

/-- The parts of a directive that is not known. The strict dialect passes over them, but not over
a byte order mark; the lenient one refuses the directive. -/
def readReserved (cursor : Cursor) : Lexeme :=
  match cursor.dialect with
  | .lenient => .error .badDirective
  | .strict =>
      .ok (.reservedDirective,
        cursor.skipWhile fun c => isBlank c || isDirectiveChar cursor.dialect c)

/-- A directive with its whole line; the cursor stands on its percent sign. -/
def readDirective (cursor : Cursor) : Lexeme := do
  let name := cursor.skip.rest.takeWhile (isDirectiveChar cursor.dialect)
  let afterName := cursor.advance (1 + name.length)
  if name = [] ∨ !afterName.isSpaced 0 then .error .badDirective
  else
    let (token, next) ←
      if name = "YAML".toList then readVersion afterName
      else if name = "TAG".toList then readTagDirective afterName
      else readReserved afterName
    let next ← next.toLineEnd
    if next.atLineEnd then .ok (token, next.skipBreak) else .error .badDirective

end RpcRegistry.Yaml
