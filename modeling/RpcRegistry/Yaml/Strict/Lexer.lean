import RpcRegistry.Yaml.Strict.Scalar
import RpcRegistry.Yaml.Token

/-!
From a strict text to its tokens. A key in a block and a dash that ends its line indent what
follows them by one more column, without opening a block, so that brackets and scalars there are
held to it. A text that cannot be read further keeps the tokens before that place.
-/

namespace RpcRegistry.Yaml.Strict

/-- An indentation that is left behind on the way out: the column around it, and whether it opened
a block. -/
structure Level where
  around : Int
  opensBlock : Bool
  deriving Repr

/-- What has been read so far; tokens stand newest first, and enclosing levels innermost first.
`lineStart` says that only white space has been read on the line. A colon at `adjacentAt` needs no
blank after it. For each square bracket `pairs` has the bracket level of the entry that it holds
without braces, if there is one; `inMapping` says that a brace or a question mark came last. A
comment on the line `commentLine` has just ended a plain scalar in a block. -/
structure Lexer where
  cursor : Cursor
  tokens : List Token
  indent : Int
  levels : List Level
  pendingKey : Option PendingKey
  enclosingKeys : List (Option PendingKey)
  keyAllowed : Bool
  lineStart : Bool
  adjacentAt : Option Nat
  pairs : List (Option Nat)
  inMapping : Bool
  commentLine : Option Nat

namespace Lexer

def maxFlowLevel : Nat := 255

def ofText (text : List Char) : Lexer :=
  ⟨.ofText .strict text, [], -1, [], none, [], true, true, none, [], false, none⟩

def flowLevel (lexer : Lexer) : Nat := lexer.enclosingKeys.length

def inFlow (lexer : Lexer) : Bool := 0 < lexer.flowLevel

def push (lexer : Lexer) (token : Token) : Lexer :=
  { lexer with tokens := token :: lexer.tokens }

def insertAt (lexer : Lexer) (place : Nat) (token : Token) : Lexer :=
  let since := lexer.tokens.length - place
  { lexer with tokens := lexer.tokens.take since ++ token :: lexer.tokens.drop since }

/-- Past white space and comments. A line break in a block allows a key again. A tab that stands
for indentation is refused, unless its line is empty. -/
def toNextToken : (fuel : Nat) → Lexer → Except Problem Lexer
  | 0, lexer => .ok lexer
  | fuel + 1, lexer =>
      let cursor := lexer.cursor
      if cursor.isAt '\t' ∧ lexer.levels ≠ [] ∧ lexer.lineStart ∧
          (cursor.column : Int) < lexer.indent then do
        let lineEnd ← cursor.toLineEnd
        if lineEnd.atLineEnd then toNextToken fuel { lexer with cursor := lineEnd }
        else .error .badIndentation
      else if cursor.nextIs isBlank then toNextToken fuel { lexer with cursor := cursor.skip }
      else if cursor.isAt '#' then toNextToken fuel { lexer with cursor := cursor.skipLine }
      else if cursor.atBreak then
        toNextToken fuel { lexer with cursor := cursor.skipBreak
                                      keyAllowed := lexer.keyAllowed || !lexer.inFlow
                                      lineStart := true }
      else .ok lexer

def mayContinuePlain (cursor : Cursor) : Bool :=
  !cursor.showsMark '-' && !cursor.showsMark '.' && continuesPlain false cursor

/-- Refuses what would go on with a plain scalar on the line after a comment that ended it. -/
def refuseContinuation (lexer : Lexer) : Except Problem Lexer :=
  let onNextLine := lexer.commentLine.map (· + 1) = some lexer.cursor.line
  if onNextLine ∧ lexer.indent < lexer.cursor.column ∧ mayContinuePlain lexer.cursor then
    .error .trailingContent
  else .ok { lexer with commentLine := none }

def dropStaleKey (lexer : Lexer) : Except Problem Lexer :=
  match lexer.pendingKey with
  | none => .ok lexer
  | some key =>
      if lexer.inFlow || !key.isStale lexer.cursor then .ok lexer
      else if key.required then .error .missingColon
      else .ok { lexer with pendingKey := none }

def leaveWhile (test : Int → Level → Bool) : List Level → Lexer → Lexer
  | [], lexer => lexer
  | level :: levels, lexer =>
      if test lexer.indent level then
        leaveWhile test levels
          { lexer with
            tokens := if level.opensBlock then .blockEnd :: lexer.tokens else lexer.tokens
            indent := level.around
            levels }
      else lexer

def closeBlocks (column : Int) (lexer : Lexer) : Lexer :=
  if lexer.inFlow then lexer
  else leaveWhile (fun indent _ => column < indent) lexer.levels lexer

/-- Leaves the indentations that opened no block. -/
def leaveInner (lexer : Lexer) : Lexer :=
  leaveWhile (fun _ level => !level.opensBlock) lexer.levels lexer

/-- Opens a block if `column` is further in than the present one. An indentation for what follows
a key or a dash gives way to the block that starts there. -/
def openBlock (column place : Nat) (token : Token) (lexer : Lexer) : Lexer :=
  if lexer.inFlow then lexer
  else
    let lexer := match lexer.levels with
      | level :: levels =>
          if !level.opensBlock && lexer.indent ≤ (column : Int) then
            { lexer with indent := level.around, levels }
          else lexer
      | [] => lexer
    if lexer.indent < (column : Int) then
      { lexer.insertAt place token with
        indent := column
        levels := ⟨lexer.indent, true⟩ :: lexer.levels }
    else lexer

/-- Indents what follows by one column more than the block it belongs to. -/
def indentInner (lexer : Lexer) : Lexer :=
  if !lexer.inFlow && lexer.levels.head?.any Level.opensBlock then
    { lexer with
      indent := lexer.indent + 1
      levels := ⟨lexer.indent, false⟩ :: lexer.levels }
  else lexer

def dropKey (lexer : Lexer) : Except Problem Lexer :=
  if lexer.pendingKey.any PendingKey.required then .error .missingColon
  else .ok { lexer with pendingKey := none }

def noteKey (lexer : Lexer) : Lexer :=
  if lexer.keyAllowed then
    let cursor := lexer.cursor
    let required := !lexer.inFlow && lexer.indent = cursor.column &&
      lexer.levels.head?.any Level.opensBlock
    { lexer with
      pendingKey := some
        ⟨lexer.tokens.length, cursor.index, cursor.line, cursor.column, required⟩ }
  else lexer

def behind (cursor : Cursor) (keyAllowed : Bool) (lexer : Lexer) : Lexer :=
  { lexer with cursor, keyAllowed, lineStart := false }

def documentMark (token : Token) (lexer : Lexer) : Except Problem Lexer := do
  if lexer.inFlow then .error .unclosedBracket
  else
    let lexer ← (lexer.closeBlocks (-1)).dropKey
    let afterMark := lexer.cursor.advance 3
    if token = .documentEnd then
      let lineEnd ← afterMark.toLineEnd
      if lineEnd.atLineEnd then .ok ((lexer.push token).behind lineEnd false)
      else .error .trailingContent
    else .ok ((lexer.push token).behind afterMark false)

def directive (lexer : Lexer) : Except Problem Lexer := do
  let lexer ← (lexer.closeBlocks (-1)).dropKey
  let (token, cursor) ← readDirective lexer.cursor
  .ok { lexer.push token with cursor, keyAllowed := false, lineStart := true }

def endPair (lexer : Lexer) : Lexer :=
  match lexer.pairs with
  | some level :: pairs =>
      if level = lexer.flowLevel then { lexer with pairs := none :: pairs, inMapping := false }
      else lexer
  | _ => lexer

def openFlow (token : Token) (lexer : Lexer) : Except Problem Lexer := do
  if maxFlowLevel ≤ lexer.flowLevel then .error .tooDeep
  else
    let lexer := lexer.noteKey.indentInner
    let next ← lexer.cursor.skip.toLineEnd
    let lexer := if token = .flowMappingStart then { lexer with inMapping := true }
      else { lexer with pairs := none :: lexer.pairs }
    .ok ({ lexer.push token with
           pendingKey := none
           enclosingKeys := lexer.pendingKey :: lexer.enclosingKeys }.behind next true)

def closeFlow (token : Token) (lexer : Lexer) : Except Problem Lexer := do
  let lexer ← lexer.dropKey
  let lexer := if token = .flowSequenceEnd then
    { lexer.endPair with pairs := lexer.endPair.pairs.tail } else lexer
  match lexer.enclosingKeys with
  | [] => .error .misplacedIndicator
  | outer :: enclosingKeys =>
      let next ← lexer.cursor.skip.toLineEnd
      let adjacentAt := if enclosingKeys = [] then lexer.adjacentAt else some next.index
      .ok ({ lexer.push token with
             pendingKey := outer, enclosingKeys, adjacentAt }.behind next false)

def separator (lexer : Lexer) : Except Problem Lexer := do
  let lexer ← lexer.dropKey
  let next ← lexer.cursor.skip.toLineEnd
  .ok ((lexer.endPair.push .flowEntry).behind next true)

/-- A dash before an item. After a tab no other dash may follow on the line. -/
def dash (lexer : Lexer) : Except Problem Lexer := do
  if lexer.inFlow ∨ !lexer.keyAllowed then .error .misplacedIndicator
  else
    let afterDash := lexer.cursor.skip
    let lexer := lexer.openBlock lexer.cursor.column lexer.tokens.length .blockSequenceStart
    let next ← afterDash.toLineEnd
    if (afterDash.rest.takeWhile isBlank).contains '\t' && next.isAt '-' && next.isSpaced 1 then
      .error .missingBlank
    else
      let lexer := if next.atBreak || next.nextIs isFlowIndicator then lexer.indentInner else lexer
      let lexer ← lexer.dropKey
      .ok ((lexer.push .blockEntry).behind next true)

def afterQuestion : (fuel : Nat) → Lexer → Lexer
  | 0, lexer => lexer
  | fuel + 1, lexer =>
      let cursor := lexer.cursor
      if cursor.isAt ' ' then afterQuestion fuel { lexer with cursor := cursor.skip }
      else if cursor.isAt '#' then afterQuestion fuel { lexer with cursor := cursor.skipLine }
      else if cursor.atBreak then
        afterQuestion fuel { lexer with cursor := cursor.skipBreak
                                        keyAllowed := lexer.keyAllowed || !lexer.inFlow
                                        lineStart := true }
      else lexer

def question (lexer : Lexer) : Except Problem Lexer := do
  let cursor := lexer.cursor
  if !lexer.inFlow ∧ !lexer.keyAllowed then .error .misplacedIndicator
  else
    let lexer := if lexer.inFlow then { lexer with inMapping := true }
      else lexer.openBlock cursor.column lexer.tokens.length .blockMappingStart
    let lexer ← lexer.dropKey
    let lexer := afterQuestion (cursor.rest.length + 1) (lexer.behind cursor.skip !lexer.inFlow)
    if lexer.cursor.index = cursor.skip.index ∨ lexer.cursor.isAt '\t' then .error .missingBlank
    else .ok (lexer.push .key)

/-- The place after a colon. A tab alone does not set off a word or a dash from it. -/
def afterColon (cursor : Cursor) : Except Problem Cursor := do
  let next := cursor.skip
  if !next.isAt '\t' then .ok next
  else
    let afterBlanks ← next.toLineEnd
    if !(next.rest.takeWhile isBlank).contains ' ' ∧
        afterBlanks.nextIs (fun c => isWordChar c) then .error .missingBlank
    else .ok afterBlanks

/-- A colon. After a pending key it puts the key's tokens where the key started; the key of an
entry without braces must stand on the colon's line. -/
def colon (lexer : Lexer) : Except Problem Lexer := do
  let cursor := lexer.cursor
  let pair := lexer.pairs ≠ [] && !lexer.inMapping
  let next ← afterColon cursor
  let lexer := if pair then
    { lexer with pairs := some lexer.flowLevel :: lexer.pairs.tail } else lexer
  match lexer.pendingKey with
  | some key =>
      if pair ∧ key.line < cursor.line then .error .misplacedIndicator
      else
        let lexer := (lexer.insertAt key.place .key).openBlock key.column key.place
          .blockMappingStart
        .ok ({ lexer.indentInner.push .value with pendingKey := none }.behind next false)
  | none =>
      if !lexer.inFlow ∧ !lexer.keyAllowed then .error .misplacedIndicator
      else
        let lexer := lexer.openBlock cursor.column lexer.tokens.length .blockMappingStart
        .ok ((lexer.indentInner.push .value).behind next !lexer.inFlow)

/-- A colon between brackets with no white space behind it. Only where it may be adjacent does a
bracket follow it. -/
def flowColon (lexer : Lexer) : Except Problem Lexer :=
  if lexer.adjacentAt ≠ some lexer.cursor.index ∧
      (lexer.cursor.peek? 1).any (fun c => c = '[' || c = '\x7b') then .error .misplacedIndicator
  else lexer.colon

def property (read : Cursor → Lexeme) (lexer : Lexer) : Except Problem Lexer := do
  let (token, next) ← read lexer.cursor
  .ok ((lexer.noteKey.push token).behind next false)

def blockScalarToken (folds : Bool) (lexer : Lexer) : Except Problem Lexer := do
  let lexer := lexer.noteKey.leaveInner
  let reading ← blockScalar folds lexer.indent lexer.cursor.skip
  .ok { lexer.push (.scalar .block reading.contents) with
        cursor := reading.cursor, keyAllowed := true, lineStart := true }

def quotedToken (mark : Char) (lexer : Lexer) : Except Problem Lexer := do
  let lexer := lexer.noteKey
  let reading ← quotedScalar mark lexer.inFlow lexer.indent lexer.cursor
  let lexer ← toNextToken (reading.cursor.rest.length + 1)
    ((lexer.push (.scalar .quoted reading.contents)).behind reading.cursor false)
  .ok { lexer with adjacentAt := some lexer.cursor.index }

def plainToken (lexer : Lexer) : Except Problem Lexer := do
  let lexer := lexer.noteKey.leaveInner
  let reading ← plainScalar lexer.inFlow lexer.indent lexer.cursor
  let commented := !lexer.inFlow && !reading.broken && reading.cursor.isAt '#'
  .ok { lexer.push (.scalar .plain reading.contents) with
        cursor := reading.cursor
        keyAllowed := reading.broken
        lineStart := reading.broken
        commentLine := if commented then some reading.cursor.line else none }

/-- Whether the character `c` under the cursor stands too far left to start a token. Between
brackets a comma or a closing bracket may stand in any column. -/
def isOutdented (c : Char) (lexer : Lexer) : Bool :=
  (lexer.cursor.column : Int) < lexer.indent &&
    !(lexer.inFlow && [']', '\x7d', ','].contains c)

def token (c : Char) (lexer : Lexer) : Except Problem Lexer :=
  let cursor := lexer.cursor
  if cursor.column = 0 && c = '%' then lexer.directive
  else if cursor.atMark '-' then lexer.documentMark .documentStart
  else if cursor.atMark '.' then lexer.documentMark .documentEnd
  else if lexer.isOutdented c then .error .badIndentation
  else if c = '[' then lexer.openFlow .flowSequenceStart
  else if c = '\x7b' then lexer.openFlow .flowMappingStart
  else if c = ']' then lexer.closeFlow .flowSequenceEnd
  else if c = '\x7d' then lexer.closeFlow .flowMappingEnd
  else if c = ',' then lexer.separator
  else if c = '-' && cursor.isSpaced 1 then lexer.dash
  else if c = '?' && cursor.isSpaced 1 then lexer.question
  else if c = ':' && cursor.isSpaced 1 then lexer.colon
  else if c = ':' && lexer.inFlow && ((cursor.peek? 1).any isFlowIndicator ||
      lexer.adjacentAt = some cursor.index) then lexer.flowColon
  else if c = '*' then lexer.property (readName .alias)
  else if c = '&' then lexer.property (readName .anchor)
  else if c = '!' then lexer.property (readTag lexer.inFlow)
  else if c = '|' && !lexer.inFlow then lexer.blockScalarToken false
  else if c = '>' && !lexer.inFlow then lexer.blockScalarToken true
  else if c = '\'' || c = '"' then lexer.quotedToken c
  else if c = '%' || c = '@' || c = '\x60' then .error .misplacedIndicator
  else lexer.plainToken

def finish (lexer : Lexer) : Except Problem Lexer :=
  if lexer.inFlow then .error .unclosedBracket else (lexer.closeBlocks (-1)).dropKey

def step (lexer : Lexer) : Except Problem Lexer := do
  let lexer ← toNextToken (lexer.cursor.rest.length + 1) lexer
  let lexer ← lexer.refuseContinuation
  let lexer ← lexer.dropStaleKey
  match lexer.cursor.rest with
  | [] => lexer.finish
  | c :: _ => (lexer.closeBlocks lexer.cursor.column).token c

/-- The tokens that stand before a place where reading fails. One that could still turn out to be
a key was not reached. -/
def tokensBefore (problem : Problem) (lexer : Lexer) : List Token :=
  let pending := (lexer.pendingKey :: lexer.enclosingKeys).filterMap id
  let reached := (pending.filter fun key => lexer.inFlow || !key.isStale lexer.cursor).map
    PendingKey.place
  lexer.tokens.reverse.take (reached.foldl min lexer.tokens.length) ++ [.unreadable problem]

def run : (fuel : Nat) → Lexer → List Token
  | 0, lexer => lexer.tokens.reverse
  | fuel + 1, lexer =>
      match lexer.step with
      | .error problem => lexer.tokensBefore problem
      | .ok next =>
          if next.cursor.atEnd then
            match next.step with
            | .error problem => next.tokensBefore problem
            | .ok last => last.tokens.reverse
          else run fuel next

end Lexer

def withoutMark (text : List Char) : List Char :=
  if text.head? = some '\ufeff' then text.tail else text

/-- The tokens of a text, which ends at a null character. Up to two byte order marks at its start
are not part of it. -/
def tokens (text : List Char) : List Token :=
  let text := (withoutMark (withoutMark text)).takeWhile (· ≠ '\x00')
  (Lexer.ofText text).run (text.length + 1)

end RpcRegistry.Yaml.Strict
