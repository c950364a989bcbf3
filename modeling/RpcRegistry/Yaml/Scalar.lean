import RpcRegistry.Text.CodePoint
import RpcRegistry.Text.Numeral
import RpcRegistry.Yaml.Cursor

/-!
What the scalars of both dialects have in common: the white space inside them, escapes, and the
headers of blocks. Line breaks inside a plain or quoted scalar fold: one becomes a space, more
lose the first.
-/

namespace RpcRegistry.Yaml

open RpcRegistry.Text

/-- The white space met between two words of a scalar: blanks on the same line, or a first line
break and those after it. -/
structure Gap where
  blanks : List Char
  leadingBreak : List Char
  trailingBreaks : List Char
  broken : Bool

namespace Gap

def none : Gap := ⟨[], [], [], false⟩

/-- The gap that an escaped line break starts; that break leaves nothing. -/
def escapedBreak : Gap := ⟨[], [], [], true⟩

def folded (gap : Gap) : List Char :=
  if gap.broken then
    if gap.leadingBreak = ['\n'] then
      if gap.trailingBreaks = [] then [' '] else gap.trailingBreaks
    else gap.leadingBreak ++ gap.trailingBreaks
  else gap.blanks

/-- The gap with one more blank; blanks after a line break count for nothing. -/
def addBlank (gap : Gap) (blank : Char) : Gap :=
  if gap.broken then gap else { gap with blanks := gap.blanks ++ [blank] }

def addBreak (gap : Gap) (text : List Char) : Gap :=
  if gap.broken then { gap with trailingBreaks := gap.trailingBreaks ++ text }
  else ⟨[], text, [], true⟩

/-- The white space at the cursor, added to a gap. After a line break, a tab left of `indent` is
refused, unless `emptyLines` is set and nothing but a comment follows on its line. -/
def read (indent : Int) (emptyLines : Bool) :
    (fuel : Nat) → Gap → Cursor → Except Problem (Gap × Cursor)
  | 0, gap, cursor => .ok (gap, cursor)
  | fuel + 1, gap, cursor =>
      match cursor.rest with
      | [] => .ok (gap, cursor)
      | c :: _ =>
          if cursor.atBreak then
            read indent emptyLines fuel (gap.addBreak cursor.breakText) cursor.skipBreak
          else if !isBlank c then .ok (gap, cursor)
          else if gap.broken ∧ (cursor.column : Int) < indent ∧ c = '\t' then
            if emptyLines then do
              let lineEnd ← cursor.toLineEnd
              if lineEnd.atLineEnd then read indent emptyLines fuel gap lineEnd
              else .error .badIndentation
            else .error .badIndentation
          else read indent emptyLines fuel (gap.addBlank c) cursor.skip

end Gap

/-- A scalar that was read: its contents, the place after it, and whether a line break came right
before that place. -/
structure Reading where
  contents : List Char
  cursor : Cursor
  broken : Bool

def simpleEscape? : Char → Option Char
  | '0' => some '\x00'
  | 'a' => some '\x07'
  | 'b' => some '\x08'
  | 't' => some '\t'
  | '\t' => some '\t'
  | 'n' => some '\n'
  | 'v' => some '\x0b'
  | 'f' => some '\x0c'
  | 'r' => some '\r'
  | 'e' => some '\x1b'
  | ' ' => some ' '
  | '"' => some '"'
  | '/' => some '/'
  | '\\' => some '\\'
  | 'N' => some '\u0085'
  | '_' => some '\u00a0'
  | 'L' => some '\u2028'
  | 'P' => some '\u2029'
  | _ => none

def escapeLength? : Char → Option Nat
  | 'x' => some 2
  | 'u' => some 4
  | 'U' => some 8
  | _ => none

def escapedCode? (length : Nat) (text : List Char) : Option Nat :=
  if text.length < length then none else Numeral.whole? 16 (text.take length)

/-- The second half of a character that two escapes of four digits stand for. -/
def lowSurrogate? : List Char → Option Nat
  | '\\' :: 'u' :: text => (escapedCode? 4 text).filter fun code => 0xdc00 ≤ code && code < 0xe000
  | _ => none

/-- The character of a numeric escape and the length of what stands after its letter. The strict
dialect joins two surrogates into one character. -/
def numericEscape? (dialect : Dialect) (length : Nat) (text : List Char) :
    Option (Char × Nat) := do
  let code ← escapedCode? length text
  if dialect = .strict ∧ length = 4 ∧ 0xd800 ≤ code ∧ code < 0xdc00 then
    let low ← lowSurrogate? (text.drop length)
    let c ← charOfCode? (0x10000 + (code - 0xd800) * 0x400 + (low - 0xdc00))
    some (c, 10)
  else (charOfCode? code).map (·, length)

def escape (cursor : Cursor) : Except Problem (Char × Cursor) :=
  let found := do
    let letter ← cursor.peek? 1
    match simpleEscape? letter with
    | some c => some (c, cursor.advance 2)
    | none =>
        let length ← escapeLength? letter
        let (c, count) ← numericEscape? cursor.dialect length (cursor.rest.drop 2)
        some (c, cursor.advance (2 + count))
  match found with
  | some found => .ok found
  | none => .error .badEscape

/-- The words of a quoted scalar on one line. An escaped line break ends them. -/
def quotedWord (mark : Char) :
    (fuel : Nat) → List Char → Cursor → Except Problem (List Char × Cursor × Bool)
  | 0, word, cursor => .ok (word.reverse, cursor, false)
  | fuel + 1, word, cursor =>
      match cursor.rest with
      | [] => .ok (word.reverse, cursor, false)
      | c :: rest =>
          if cursor.atBlankOrBreak then .ok (word.reverse, cursor, false)
          else if c = mark then
            if mark = '\'' && rest.head? = some '\'' then
              quotedWord mark fuel ('\'' :: word) (cursor.advance 2)
            else .ok (word.reverse, cursor, false)
          else if mark = '"' && c = '\\' then
            if rest.head?.any (isBreak cursor.dialect) then
              .ok (word.reverse, cursor.skip.skipBreak, true)
            else
              match escape cursor with
              | .ok (c, next) => quotedWord mark fuel (c :: word) next
              | .error problem => .error problem
          else quotedWord mark fuel (c :: word) cursor.skip

inductive Chomping where
  | strip
  | clip
  | keep
  deriving DecidableEq, Repr

def chomping? : Char → Option Chomping
  | '+' => some .keep
  | '-' => some .strip
  | _ => none

/-- An indentation indicator from one to nine; zero is refused. -/
def indentation? (cursor : Cursor) : Except Problem (Option Nat × Cursor) :=
  match cursor.rest with
  | c :: _ =>
      if c = '0' then .error .badBlockHeader
      else if Numeral.isDigit 10 c then .ok (Numeral.digit? 10 c, cursor.skip)
      else .ok (none, cursor)
  | [] => .ok (none, cursor)

/-- The header of a block scalar: both indicators, in either order, up to the end of the line. -/
def blockHeader (cursor : Cursor) : Except Problem (Chomping × Option Nat × Cursor) := do
  let early := cursor.rest.head?.bind chomping?
  let cursor := if early.isSome then cursor.skip else cursor
  let (increment, cursor) ← indentation? cursor
  let late := if early.isSome || increment.isNone then none else cursor.rest.head?.bind chomping?
  let cursor ← (if late.isSome then cursor.skip else cursor).toLineEnd
  if cursor.atLineEnd then .ok ((early.or late).getD .clip, increment, cursor)
  else .error .badBlockHeader

def toldColumn? (parent : Int) (increment : Option Nat) : Option Nat :=
  increment.map fun n => if 0 ≤ parent then parent.toNat + n else n

structure BlockLines where
  contents : List Char
  leadingBreak : List Char
  trailingBreaks : List Char
  leadingBlank : Bool
  cursor : Cursor

/-- What joins a line that starts at the cursor to those before it. Folding makes a space of a
single line break, unless one of the two lines starts with a blank. -/
def BlockLines.joint (folds : Bool) (lines : BlockLines) : List Char :=
  if folds && lines.leadingBreak = ['\n'] && !lines.leadingBlank && !lines.cursor.nextIs isBlank
  then if lines.trailingBreaks = [] then [' '] else []
  else lines.leadingBreak

end RpcRegistry.Yaml
