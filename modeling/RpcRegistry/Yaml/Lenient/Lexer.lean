import RpcRegistry.Yaml.Lenient.Scalar
import RpcRegistry.Yaml.Token

/-!
From a lenient text to its tokens. Indentation opens and closes blocks. Whether a token starts a
key is known only when a colon follows, so each bracket level remembers the last place where a key
could have started, and the colon puts the missing tokens there.
-/

namespace RpcRegistry.Yaml.Lenient

/-- What has been read so far; tokens stand newest first, and enclosing levels innermost first. -/
structure Lexer where
  cursor : Cursor
  tokens : List Token
  indent : Int
  enclosingIndents : List Int
  pendingKey : Option PendingKey
  enclosingKeys : List (Option PendingKey)
  keyAllowed : Bool

namespace Lexer

def ofText (text : List Char) : Lexer := ⟨.ofText .lenient text, [], -1, [], none, [], true⟩

def inFlow (lexer : Lexer) : Bool := !lexer.enclosingKeys.isEmpty

def push (lexer : Lexer) (token : Token) : Lexer :=
  { lexer with tokens := token :: lexer.tokens }

/-- Puts a token before all tokens read since `place`. -/
def insertAt (lexer : Lexer) (place : Nat) (token : Token) : Lexer :=
  let since := lexer.tokens.length - place
  { lexer with tokens := lexer.tokens.take since ++ token :: lexer.tokens.drop since }

/-- Past white space, comments, and a byte order mark that starts a line. A line break in a block
allows a key again; a tab is white space only where it is no indentation. -/
def toNextToken : (fuel : Nat) → Lexer → Lexer
  | 0, lexer => lexer
  | fuel + 1, lexer =>
      let start := if lexer.cursor.column = 0 && lexer.cursor.isAt '\ufeff' then
        lexer.cursor.skip else lexer.cursor
      let tabs := lexer.inFlow || !lexer.keyAllowed
      let afterBlanks := start.skipWhile fun c => c = ' ' || (tabs && c = '\t')
      let lineEnd := if afterBlanks.isAt '#' then afterBlanks.skipLine else afterBlanks
      if lineEnd.atBreak then
        toNextToken fuel { lexer with cursor := lineEnd.skipBreak
                                      keyAllowed := lexer.keyAllowed || !lexer.inFlow }
      else { lexer with cursor := lineEnd }

/-- A pending key that the cursor has left behind is given up, unless it was required. -/
def current? (cursor : Cursor) : Option PendingKey → Except Problem (Option PendingKey)
  | none => .ok none
  | some key =>
      if !key.isStale cursor then .ok (some key)
      else if key.required then .error .missingColon
      else .ok none

def dropStaleKeys (lexer : Lexer) : Except Problem Lexer := do
  let pendingKey ← current? lexer.cursor lexer.pendingKey
  let enclosingKeys ← lexer.enclosingKeys.mapM (current? lexer.cursor)
  .ok { lexer with pendingKey, enclosingKeys }

def closeBlocks (column : Int) (lexer : Lexer) : Lexer :=
  if lexer.inFlow then lexer
  else
    let closed := (lexer.indent :: lexer.enclosingIndents).takeWhile (column < ·)
    let remaining := (lexer.indent :: lexer.enclosingIndents).dropWhile (column < ·)
    { lexer with
      tokens := closed.map (fun _ => Token.blockEnd) ++ lexer.tokens
      indent := remaining.headD (-1)
      enclosingIndents := remaining.tail }

def openBlock (column place : Nat) (token : Token) (lexer : Lexer) : Lexer :=
  if lexer.inFlow || (column : Int) ≤ lexer.indent then lexer
  else
    { lexer.insertAt place token with
      indent := column
      enclosingIndents := lexer.indent :: lexer.enclosingIndents }

def dropKey (lexer : Lexer) : Except Problem Lexer :=
  if lexer.pendingKey.any PendingKey.required then .error .missingColon
  else .ok { lexer with pendingKey := none }

def noteKey (lexer : Lexer) : Except Problem Lexer :=
  if lexer.keyAllowed then do
    let lexer ← lexer.dropKey
    let cursor := lexer.cursor
    let required := !lexer.inFlow && lexer.indent = cursor.column
    .ok { lexer with
          pendingKey := some
            ⟨lexer.tokens.length, cursor.index, cursor.line, cursor.column, required⟩ }
  else .ok lexer

def indicator (token : Token) (width : Nat) (keyAllowed : Bool) (lexer : Lexer) :
    Except Problem Lexer := do
  let lexer ← lexer.dropKey
  .ok { lexer.push token with cursor := lexer.cursor.advance width, keyAllowed }

def documentMark (token : Token) (lexer : Lexer) : Except Problem Lexer :=
  (lexer.closeBlocks (-1)).indicator token 3 false

def directive (lexer : Lexer) : Except Problem Lexer := do
  let lexer ← (lexer.closeBlocks (-1)).dropKey
  let (token, cursor) ← readDirective lexer.cursor
  .ok { lexer.push token with cursor, keyAllowed := false }

def openFlow (token : Token) (lexer : Lexer) : Except Problem Lexer := do
  let lexer ← lexer.noteKey
  .ok { lexer.push token with
        cursor := lexer.cursor.skip
        pendingKey := none
        enclosingKeys := lexer.pendingKey :: lexer.enclosingKeys
        keyAllowed := true }

def closeFlow (token : Token) (lexer : Lexer) : Except Problem Lexer := do
  let lexer ← lexer.indicator token 1 false
  match lexer.enclosingKeys with
  | outer :: rest => .ok { lexer with pendingKey := outer, enclosingKeys := rest }
  | [] => .ok lexer

/-- A `-` or a `?` that starts an entry; in a block it opens the block it belongs to. -/
def entry (token opening : Token) (keyAfter : Bool) (lexer : Lexer) : Except Problem Lexer :=
  if lexer.inFlow then lexer.indicator token 1 keyAfter
  else if lexer.keyAllowed then
    (lexer.openBlock lexer.cursor.column lexer.tokens.length opening).indicator token 1 keyAfter
  else .error .misplacedIndicator

/-- A colon. After a pending key it puts the key's tokens where the key started. -/
def colon (lexer : Lexer) : Except Problem Lexer :=
  let after := fun (lexer : Lexer) (keyAllowed : Bool) =>
    { lexer.push .value with cursor := lexer.cursor.skip, keyAllowed, pendingKey := none }
  match lexer.pendingKey with
  | some key =>
      let lexer := lexer.insertAt key.place .key
      .ok (after (lexer.openBlock key.column key.place .blockMappingStart) false)
  | none =>
      if lexer.inFlow then .ok (after lexer false)
      else if lexer.keyAllowed then
        .ok (after (lexer.openBlock lexer.cursor.column lexer.tokens.length .blockMappingStart)
          true)
      else .error .misplacedIndicator

def property (read : Cursor → Lexeme) (lexer : Lexer) : Except Problem Lexer := do
  let lexer ← lexer.noteKey
  let (token, cursor) ← read lexer.cursor
  .ok { lexer.push token with cursor, keyAllowed := false }

def blockScalarToken (folds : Bool) (lexer : Lexer) : Except Problem Lexer := do
  let lexer ← lexer.dropKey
  let reading ← blockScalar folds lexer.indent lexer.cursor.skip
  .ok { lexer.push (.scalar .block reading.contents) with
        cursor := reading.cursor, keyAllowed := true }

def quotedToken (mark : Char) (lexer : Lexer) : Except Problem Lexer := do
  let lexer ← lexer.noteKey
  let start := lexer.cursor.skip
  let reading ← quoted mark (start.rest.length + 1) [] start
  .ok { lexer.push (.scalar .quoted reading.contents) with
        cursor := reading.cursor, keyAllowed := false }

def plainToken (lexer : Lexer) : Except Problem Lexer := do
  let lexer ← lexer.noteKey
  let start := lexer.cursor
  let reading ←
    plain lexer.inFlow (lexer.indent + 1) (start.rest.length + 1) [] .none start
  .ok { lexer.push (.scalar .plain reading.contents) with
        cursor := reading.cursor, keyAllowed := reading.broken }

def isIndicator (lexer : Lexer) : Bool := lexer.inFlow || lexer.cursor.isSpaced 1

def startsPlain (lexer : Lexer) (c : Char) : Bool :=
  if c = '-' then (lexer.cursor.peek? 1).any fun next => !isBlank next
  else if c = '?' || c = ':' then !lexer.isIndicator
  else !(lexer.cursor.atBlankOrBreak || ",[]\x7b\x7d#&*!|>'\"%@\x60".toList.contains c)

def token (c : Char) (lexer : Lexer) : Except Problem Lexer :=
  let cursor := lexer.cursor
  if cursor.column = 0 && c = '%' then lexer.directive
  else if cursor.atMark '-' then lexer.documentMark .documentStart
  else if cursor.atMark '.' then lexer.documentMark .documentEnd
  else if c = '[' then lexer.openFlow .flowSequenceStart
  else if c = '\x7b' then lexer.openFlow .flowMappingStart
  else if c = ']' then lexer.closeFlow .flowSequenceEnd
  else if c = '\x7d' then lexer.closeFlow .flowMappingEnd
  else if c = ',' then lexer.indicator .flowEntry 1 true
  else if c = '-' && cursor.isSpaced 1 then lexer.entry .blockEntry .blockSequenceStart true
  else if c = '?' && lexer.isIndicator then
    lexer.entry .key .blockMappingStart !lexer.inFlow
  else if c = ':' && lexer.isIndicator then lexer.colon
  else if c = '*' then lexer.property (readName .alias)
  else if c = '&' then lexer.property (readName .anchor)
  else if c = '!' then lexer.property (readTag lexer.inFlow)
  else if c = '|' && !lexer.inFlow then lexer.blockScalarToken false
  else if c = '>' && !lexer.inFlow then lexer.blockScalarToken true
  else if c = '\'' || c = '"' then lexer.quotedToken c
  else if lexer.startsPlain c then lexer.plainToken
  else .error .misplacedIndicator

def step (lexer : Lexer) : Except Problem Lexer := do
  let lexer ← (lexer.toNextToken (lexer.cursor.rest.length + 1)).dropStaleKeys
  let lexer := lexer.closeBlocks lexer.cursor.column
  match lexer.cursor.rest with
  | [] => (lexer.closeBlocks (-1)).dropKey
  | c :: _ => lexer.token c

def run : (fuel : Nat) → Lexer → Except Problem Lexer
  | 0, lexer => .ok lexer
  | fuel + 1, lexer => do
      let next ← lexer.step
      if next.cursor.atEnd then next.step else run fuel next

end Lexer

/-- The tokens of a text. A byte order mark at its start is not part of it. -/
def tokens (text : List Char) : Except Problem (List Token) := do
  let text := if text.head? = some '\ufeff' then text.tail else text
  if text.all isAllowed then
    let lexer ← (Lexer.ofText text).run (text.length + 1)
    .ok lexer.tokens.reverse
  else .error .forbiddenCharacter

end RpcRegistry.Yaml.Lenient
