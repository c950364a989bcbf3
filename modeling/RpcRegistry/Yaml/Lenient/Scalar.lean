import RpcRegistry.Yaml.Scalar

/-!
Scalars of the lenient dialect: plain, quoted, or in a block. Reading one gives its contents and
the place after it.
-/

namespace RpcRegistry.Yaml.Lenient

open RpcRegistry.Text

def continuesPlain (inFlow : Bool) (cursor : Cursor) : Except Problem Bool :=
  match cursor.rest with
  | [] => .ok false
  | c :: _ =>
      if cursor.atBlankOrBreak then .ok false
      else if c = ':' && cursor.isSpaced 1 then .ok false
      else if inFlow && c = ':' &&
          (cursor.peek? 1).any (fun next => isFlowIndicator next || next = '?') then
        .error .misplacedIndicator
      else if inFlow && isFlowIndicator c then .ok false
      else .ok true

def plainWord (inFlow : Bool) :
    (fuel : Nat) → List Char → Cursor → Except Problem (List Char × Cursor)
  | 0, word, cursor => .ok (word.reverse, cursor)
  | fuel + 1, word, cursor => do
      if ← continuesPlain inFlow cursor then
        match cursor.rest with
        | c :: _ => plainWord inFlow fuel (c :: word) cursor.skip
        | [] => .ok (word.reverse, cursor)
      else .ok (word.reverse, cursor)

/-- A plain scalar. It ends at a document mark, a comment, an indicator, or a line that is
indented less than its block. -/
def plain (inFlow : Bool) (indent : Int) :
    (fuel : Nat) → List Char → Gap → Cursor → Except Problem Reading
  | 0, contents, gap, cursor => .ok ⟨contents, cursor, gap.broken⟩
  | fuel + 1, contents, gap, cursor => do
      if cursor.atDocumentMark || cursor.isAt '#' then .ok ⟨contents, cursor, gap.broken⟩
      else
        let (word, afterWord) ← plainWord inFlow cursor.rest.length [] cursor
        let contents := if word = [] then contents else contents ++ gap.folded ++ word
        let gap := if word = [] then gap else Gap.none
        if afterWord.atBlankOrBreak then
          let (gap, next) ← gap.read indent false afterWord.rest.length afterWord
          if !inFlow && (next.column : Int) < indent then .ok ⟨contents, next, gap.broken⟩
          else plain inFlow indent fuel contents gap next
        else .ok ⟨contents, afterWord, gap.broken⟩

def quoted (mark : Char) :
    (fuel : Nat) → List Char → Cursor → Except Problem Reading
  | 0, _, _ => .error .unclosedQuote
  | fuel + 1, contents, cursor => do
      if cursor.atDocumentMark || cursor.atEnd then .error .unclosedQuote
      else
        let (word, afterWord, escaped) ← quotedWord mark cursor.rest.length [] cursor
        let contents := contents ++ word
        if afterWord.isAt mark then .ok ⟨contents, afterWord.skip, false⟩
        else
          let start := if escaped then Gap.escapedBreak else Gap.none
          let (gap, next) ← start.read (-1) false afterWord.rest.length afterWord
          quoted mark fuel (contents ++ gap.folded) next

/-- Indentation and empty lines before the next line of a block scalar: the breaks, the deepest
column reached, and the place. Without a known indentation (zero) all spaces count. -/
def blockBreaks (indent : Nat) : (fuel : Nat) → List Char → Nat → Cursor →
    Except Problem (List Char × Nat × Cursor)
  | 0, breaks, deepest, cursor => .ok (breaks, deepest, cursor)
  | fuel + 1, breaks, deepest, cursor =>
      let spaces := (cursor.rest.takeWhile (· = ' ')).length
      let wanted := if indent = 0 then spaces else min spaces (indent - cursor.column)
      let cursor := cursor.advance wanted
      let deepest := max deepest cursor.column
      if (indent = 0 || cursor.column < indent) && cursor.isAt '\t' then .error .badIndentation
      else if cursor.atBreak then
        blockBreaks indent fuel (breaks ++ cursor.breakText) deepest cursor.skipBreak
      else .ok (breaks, deepest, cursor)

def blockLines (folds : Bool) (indent : Nat) :
    (fuel : Nat) → BlockLines → Except Problem BlockLines
  | 0, lines => .ok lines
  | fuel + 1, lines => do
      let cursor := lines.cursor
      if cursor.column ≠ indent ∨ cursor.atEnd then .ok lines
      else
        let line := cursor.line?
        let lineEnd := cursor.advance line.length
        let (breaks, _, next) ←
          blockBreaks indent (lineEnd.rest.length + 1) [] 0 lineEnd.skipBreak
        blockLines folds indent fuel
          { contents := lines.contents ++ lines.joint folds ++ lines.trailingBreaks ++ line
            leadingBreak := lineEnd.breakText
            trailingBreaks := breaks
            leadingBlank := cursor.nextIs isBlank
            cursor := next }

/-- A block scalar inside a block indented by `parent`; the cursor stands after `|` or `>`. -/
def blockScalar (folds : Bool) (parent : Int) (cursor : Cursor) : Except Problem Reading := do
  let (chomping, increment, cursor) ← blockHeader cursor
  let cursor := cursor.skipBreak
  let told := (toldColumn? parent increment).getD 0
  let fuel := cursor.rest.length + 1
  let (breaks, deepest, cursor) ← blockBreaks told fuel [] 0 cursor
  let indent := if told = 0 then max (max deepest (parent + 1).toNat) 1 else told
  let lines ← blockLines folds indent fuel ⟨[], [], breaks, false, cursor⟩
  let lastBreak := if chomping = .strip then [] else lines.leadingBreak
  let emptyLines := if chomping = .keep then lines.trailingBreaks else []
  .ok ⟨lines.contents ++ lastBreak ++ emptyLines, lines.cursor, false⟩

end RpcRegistry.Yaml.Lenient
