import RpcRegistry.Text.Blank
import RpcRegistry.Yaml.Scalar

/-!
Scalars of the strict dialect: plain, quoted, or in a block. Reading one gives its contents and
the place after it. Their lines must keep to the indentation of the block they stand in.
-/

namespace RpcRegistry.Yaml.Strict

open RpcRegistry.Text

def continuesPlain (inFlow : Bool) (cursor : Cursor) : Bool :=
  match cursor.rest with
  | [] => false
  | c :: _ =>
      !cursor.atBlankOrBreak &&
        !(c = ':' && (cursor.isSpaced 1 || (inFlow && (cursor.peek? 1).any isFlowIndicator))) &&
        !(inFlow && isFlowIndicator c)

def plainWordEnd (inFlow : Bool) : (fuel : Nat) → Cursor → Cursor
  | 0, cursor => cursor
  | fuel + 1, cursor =>
      if continuesPlain inFlow cursor then plainWordEnd inFlow fuel cursor.skip else cursor

/-- The rest of a plain scalar. It ends at a comment, an indicator, a document mark, or a line that
is indented less than `indent`. -/
def plain (inFlow : Bool) (indent : Int) :
    (fuel : Nat) → List Char → Gap → Cursor → Except Problem Reading
  | 0, contents, gap, cursor => .ok ⟨contents, cursor, gap.broken⟩
  | fuel + 1, contents, gap, cursor => do
      if cursor.atDocumentMark || cursor.isAt '#' then .ok ⟨contents, cursor, gap.broken⟩
      else if inFlow && cursor.isAt '-' && (cursor.peek? 1).any isFlowIndicator then
        .error .misplacedIndicator
      else
        let afterWord := plainWordEnd inFlow cursor.rest.length cursor
        let word := cursor.rest.take (afterWord.index - cursor.index)
        let contents := if word = [] then contents else contents ++ gap.folded ++ word
        let gap := if word = [] then gap else Gap.none
        if afterWord.atBlankOrBreak then
          let (gap, next) ← gap.read indent true afterWord.rest.length afterWord
          if !inFlow && (next.column : Int) < indent then .ok ⟨contents, next, gap.broken⟩
          else plain inFlow indent fuel contents gap next
        else .ok ⟨contents, afterWord, gap.broken⟩

def plainScalar (inFlow : Bool) (parent : Int) (cursor : Cursor) : Except Problem Reading := do
  if inFlow ∧ (cursor.column : Int) ≤ parent then .error .badIndentation
  else
    let reading ← plain inFlow (parent + 1) (cursor.rest.length + 1) [] .none cursor
    if reading.contents = [] then .error .misplacedIndicator else .ok reading

def isOutdented (inFlow : Bool) (parent : Int) (cursor : Cursor) : Bool :=
  if inFlow then (cursor.column : Int) < parent else (cursor.column : Int) ≤ parent

/-- The rest of a quoted scalar, up to and past its closing mark, which may stand in any column. -/
def quoted (mark : Char) (inFlow : Bool) (parent : Int) :
    (fuel : Nat) → List Char → Cursor → Except Problem Reading
  | 0, _, _ => .error .unclosedQuote
  | fuel + 1, contents, cursor => do
      if cursor.atDocumentMark || cursor.atEnd then .error .unclosedQuote
      else
        let (word, afterWord, escaped) ← quotedWord mark cursor.rest.length [] cursor
        let contents := contents ++ word
        if afterWord.isAt mark then .ok ⟨contents, afterWord.skip, false⟩
        else
          let start := if escaped then Gap.escapedBreak else Gap.none
          let (gap, next) ← start.read parent false afterWord.rest.length afterWord
          if cursor.line < next.line ∧ !next.isAt mark ∧ isOutdented inFlow parent next then
            .error .badIndentation
          else quoted mark inFlow parent fuel (contents ++ gap.folded) next

def mayFollowQuoted (inFlow : Bool) (startLine : Nat) (cursor : Cursor) : Bool :=
  cursor.atLineEnd || (cursor.isAt ':' && (inFlow || cursor.line = startLine)) ||
    (inFlow && cursor.nextIs fun c => c = ',' || c = ']' || c = '\x7d')

/-- A quoted scalar inside a block indented by `parent`, with the blanks after it; the cursor
stands on its opening mark. -/
def quotedScalar (mark : Char) (inFlow : Bool) (parent : Int) (cursor : Cursor) :
    Except Problem Reading := do
  let start := cursor.skip
  let reading ← quoted mark inFlow parent (start.rest.length + 1) [] start
  let next ← reading.cursor.toLineEnd
  if mayFollowQuoted inFlow cursor.line next then .ok { reading with cursor := next }
  else .error .trailingContent

/-- Indentation and empty lines before the next line of a block scalar: the breaks, the deepest
column reached, and the place. No more than `wanted` spaces of a line count as indentation. -/
def blockBreaks (wanted : Option Nat) : (fuel : Nat) → List Char → Nat → Cursor →
    List Char × Nat × Cursor
  | 0, breaks, deepest, cursor => (breaks, deepest, cursor)
  | fuel + 1, breaks, deepest, cursor =>
      let spaces := (cursor.rest.takeWhile (· = ' ')).length
      let cursor := cursor.advance (match wanted with
        | some wanted => min spaces (wanted - cursor.column)
        | none => spaces)
      let deepest := max deepest cursor.column
      if cursor.atBreak then
        blockBreaks wanted fuel (breaks ++ cursor.breakText) deepest cursor.skipBreak
      else (breaks, deepest, cursor)

/-- The lines of a block scalar, as long as they stand in `column`. In the first column the end of
the document ends them too. -/
def blockLines (folds : Bool) (column : Nat) : (fuel : Nat) → BlockLines → BlockLines
  | 0, lines => lines
  | fuel + 1, lines =>
      let cursor := lines.cursor
      if cursor.column ≠ column ∨ cursor.atEnd ∨ cursor.atMark '.' then lines
      else
        let line := cursor.line?
        let lineEnd := cursor.advance line.length
        let (breaks, _, next) :=
          if lineEnd.atEnd then ([], 0, lineEnd)
          else blockBreaks (some column) (lineEnd.rest.length + 1) [] 0 lineEnd.skipBreak
        blockLines folds column fuel
          { contents := lines.contents ++ lines.joint folds ++ lines.trailingBreaks ++ line
            leadingBreak := lineEnd.breakText
            trailingBreaks := breaks
            leadingBlank := cursor.nextIs isBlank
            cursor := next }

def emptyBlock (chomping : Chomping) (headerEnd next : Cursor) (breaks : List Char) :
    List Char :=
  if chomping = .strip ∨ next.line = headerEnd.line then []
  else if chomping = .clip ∨ breaks = [] then headerEnd.breakText
  else breaks

/-- The contents of a block scalar after its last line. A last line that the text ends in, and one
of spaces alone that reaches the block's column, count as ended by a line break. -/
def chomped (chomping : Chomping) (column : Nat) (lines : BlockLines) : List Char :=
  let cursor := lines.cursor
  let missingBreak := if cursor.atEnd && max column 1 ≤ cursor.column then ['\n'] else []
  let lastBreak := if chomping = .strip then [] else lines.leadingBreak ++ missingBreak
  let emptyLines := if chomping = .keep then lines.trailingBreaks else []
  lines.contents ++ lastBreak ++ emptyLines

/-- A block scalar inside a block indented by `parent`; the cursor stands after `|` or `>`. Where it
folds, its first line must not stand in the first column, unless all its lines are blank. -/
def blockScalar (folds : Bool) (parent : Int) (cursor : Cursor) : Except Problem Reading := do
  let (chomping, increment, headerEnd) ← blockHeader cursor
  let cursor := headerEnd.skipBreak
  if cursor.isAt '\t' then .error .badIndentation
  else
    let told := toldColumn? parent increment
    let fuel := cursor.rest.length + 1
    let (breaks, deepest, cursor) := blockBreaks told fuel [] 0 cursor
    let column := told.getD (max deepest (parent + 1).toNat)
    if cursor.atEnd then .ok ⟨emptyBlock chomping headerEnd cursor breaks, cursor, false⟩
    else if cursor.column < column ∧ parent < cursor.column then .error .badIndentation
    else
      let lines := blockLines folds column fuel ⟨[], [], breaks, false, cursor⟩
      let contents := chomped chomping column lines
      if folds ∧ cursor.column = 0 ∧ trim contents ≠ [] then .error .badIndentation
      else .ok ⟨contents, lines.cursor, false⟩

end RpcRegistry.Yaml.Strict
