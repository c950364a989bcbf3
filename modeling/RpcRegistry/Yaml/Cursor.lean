/-!
A place in a YAML text: what is left of it, how many characters are behind, and the line and
column. Each line break is one step, a carriage return with its line feed too. The two dialects
differ in what breaks a line.
-/

namespace RpcRegistry.Yaml

/-- How a text is read. The lenient dialect breaks lines at five characters and takes `?` and `:`
between brackets as indicators wherever a token may start; it knows no merging. The strict one
breaks lines at line feeds and carriage returns, wants what stands between brackets indented, and
refuses duplicate keys. -/
inductive Dialect where
  | lenient
  | strict
  deriving DecidableEq, Repr

inductive Problem where
  | forbiddenCharacter
  | badDirective
  | badAnchor
  | badTag
  | badBlockHeader
  | badIndentation
  | unclosedQuote
  | unclosedBracket
  | badEscape
  | misplacedIndicator
  | missingBlank
  | missingColon
  | trailingContent
  | unexpectedToken
  | undefinedTagHandle
  | unknownAnchor
  | tooDeep
  | tooManyAliases
  | manyDocuments
  | wrongShape
  | duplicateKey
  deriving DecidableEq, Repr

def isBreak (dialect : Dialect) (c : Char) : Bool :=
  c = '\n' || c = '\r' ||
    (dialect = .lenient && (c = '\u0085' || c = '\u2028' || c = '\u2029'))

def isBlank (c : Char) : Bool := c = ' ' || c = '\t'

def isBlankOrBreak (dialect : Dialect) (c : Char) : Bool := isBlank c || isBreak dialect c

def isWordChar (c : Char) : Bool :=
  ('0' ≤ c && c ≤ '9') || ('a' ≤ c && c ≤ 'z') || ('A' ≤ c && c ≤ 'Z') || c = '_' || c = '-'

def isFlowIndicator (c : Char) : Bool :=
  c = ',' || c = '[' || c = ']' || c = '\x7b' || c = '\x7d'

def isAllowed (c : Char) : Bool :=
  let code := c.toNat
  code = 0x09 || code = 0x0a || code = 0x0d || (0x20 ≤ code && code ≤ 0x7e) || code = 0x85 ||
    (0xa0 ≤ code && code ≤ 0xfffd) || 0x10000 ≤ code

structure Cursor where
  dialect : Dialect
  rest : List Char
  index : Nat
  line : Nat
  column : Nat
  deriving Repr

namespace Cursor

def ofText (dialect : Dialect) (text : List Char) : Cursor := ⟨dialect, text, 0, 0, 0⟩

def peek? (cursor : Cursor) (ahead : Nat) : Option Char := cursor.rest[ahead]?

def isAt (cursor : Cursor) (c : Char) : Bool := cursor.rest.head? = some c

def atEnd (cursor : Cursor) : Bool := cursor.rest.isEmpty

def nextIs (cursor : Cursor) (test : Char → Bool) : Bool := cursor.rest.head?.any test

def atBreak (cursor : Cursor) : Bool := cursor.nextIs (isBreak cursor.dialect)

def atBlankOrBreak (cursor : Cursor) : Bool := cursor.nextIs (isBlankOrBreak cursor.dialect)

def atLineEnd (cursor : Cursor) : Bool := cursor.rest.head?.all (isBreak cursor.dialect)

/-- Whether the text ends `ahead` places on, or has white space there. -/
def isSpaced (cursor : Cursor) (ahead : Nat) : Bool :=
  (cursor.peek? ahead).all (isBlankOrBreak cursor.dialect)

def advance (cursor : Cursor) (count : Nat) : Cursor :=
  { cursor with
    rest := cursor.rest.drop count
    index := cursor.index + count
    column := cursor.column + count }

def skip (cursor : Cursor) : Cursor := cursor.advance 1

def skipWhile (cursor : Cursor) (test : Char → Bool) : Cursor :=
  cursor.advance (cursor.rest.takeWhile test).length

def line? (cursor : Cursor) : List Char :=
  cursor.rest.takeWhile fun c => !isBreak cursor.dialect c

def skipLine (cursor : Cursor) : Cursor := cursor.advance cursor.line?.length

def skipBreak (cursor : Cursor) : Cursor :=
  let past := fun rest count =>
    { cursor with rest, index := cursor.index + count, line := cursor.line + 1, column := 0 }
  match cursor.rest with
  | '\r' :: '\n' :: rest => past rest 2
  | c :: rest => if isBreak cursor.dialect c then past rest 1 else cursor
  | [] => cursor

/-- What a line break at the cursor counts as in a scalar. -/
def breakText (cursor : Cursor) : List Char :=
  match cursor.rest with
  | c :: _ =>
      if !isBreak cursor.dialect c then []
      else if c = '\u2028' ∨ c = '\u2029' then [c]
      else ['\n']
  | [] => []

/-- Whether a mark of three equal characters stands alone here. -/
def showsMark (cursor : Cursor) (mark : Char) : Bool :=
  cursor.rest.take 3 = [mark, mark, mark] && cursor.isSpaced 3

def atMark (cursor : Cursor) (mark : Char) : Bool := cursor.column = 0 && cursor.showsMark mark

def atDocumentMark (cursor : Cursor) : Bool := cursor.atMark '-' || cursor.atMark '.'

/-- Past blanks and a comment, up to the end of the line. In the strict dialect a comment wants
white space before it. -/
def toLineEnd (cursor : Cursor) : Except Problem Cursor :=
  let afterBlanks := cursor.skipWhile isBlank
  if !afterBlanks.isAt '#' then .ok afterBlanks
  else if cursor.dialect = .strict ∧ cursor.isAt '#' then .error .missingBlank
  else .ok afterBlanks.skipLine

end Cursor

end RpcRegistry.Yaml
