import RpcRegistry.Yaml.Quoting

/-!
Texts as blocks of lines behind a header. A text of several lines keeps them; a long text on one
line is folded at single spaces, which is what a reader makes of its line breaks again.
-/

namespace RpcRegistry.Yaml.Printer

def spaces (count : Nat) : Line := List.replicate count ' '

def foldWidth : Nat := 80

/-- The last space among the first `count` characters that stands before a word. -/
def lastFold? : (count : Nat) → List Char → Option Nat
  | 0, _ | _ + 1, [] => none
  | count + 1, c :: rest =>
      match lastFold? count rest with
      | some place => some (place + 1)
      | none => if c = ' ' && rest.head?.any (!isBlank ·) then some 0 else none

/-- A text in lines, of which `scanned` characters have been looked at for the line before. Each
line ends at the last fold found when `foldWidth` more have been looked at; where none is found, the
rest is not folded. -/
def foldedLines : (fuel : Nat) → (scanned : Nat) → List Char → List Line
  | 0, _, text => [text]
  | fuel + 1, scanned, text =>
      let reached := scanned + foldWidth
      if text.length < reached then [text]
      else
        match lastFold? reached text with
        | some place =>
            text.take place ::
              foldedLines fuel (reached - (place + 1)) (text.drop (place + 1))
        | none => [text]

/-- Whether the header of a block must tell its column: its first line with anything on it starts
with a space. -/
def needsColumn (lines : List Line) : Bool := (lines.find? (· ≠ [])).any (·.head? = some ' ')

def indented (column : Nat) (lines : List Line) : List Line := lines.map (spaces column ++ ·)

def withoutEndBreaks (text : List Char) : List Char :=
  (text.reverse.dropWhile (· = '\n')).reverse

/-- The lines of a text as they are. The header says whether the text ends in no line break, in
one, or in several. A header has one digit for a column; where that is too little, the text is
quoted. -/
def literalBlock (column : Nat) (text : List Char) : Line × List Line :=
  let body := withoutEndBreaks text
  let breaks := text.length - body.length
  let ending := if breaks = 0 then ['-'] else if breaks = 1 then [] else ['+']
  let lines := body.splitOn '\n' ++ List.replicate (breaks - 1) []
  if !needsColumn lines then ('|' :: ending, indented column lines)
  else if column < 10 then ('|' :: Text.Numeral.decimal column ++ ending, indented column lines)
  else (doubleQuoted text, [])

def foldedBlock (column : Nat) (text : List Char) : Line × List Line :=
  (">-".toList, indented column (foldedLines text.length 0 text))

/-- A text as a value: what stands on its own line, and further lines from `column` on. A text of
several lines is a block if it is long or would be plain with spaces for its line breaks; a long one
on one line is a block if it would be plain. -/
def textLines (column : Nat) (text : String) : Line × List Line :=
  let chars := text.toList
  let long := foldWidth < chars.length
  if chars.contains '\n' then
    let joined := (withoutEndBreaks chars).map fun c => if c = '\n' then ' ' else c
    if long || isPlain joined then literalBlock column chars else (valueLine chars, [])
  else if long && isPlain chars then foldedBlock column chars
  else (valueLine chars, [])

end RpcRegistry.Yaml.Printer
