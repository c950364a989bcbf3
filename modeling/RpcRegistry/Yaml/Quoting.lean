import RpcRegistry.Text.Padding
import RpcRegistry.Yaml.Cursor
import RpcRegistry.Yaml.Schema

/-!
Which texts stand in a YAML text without quotes, as values and as keys, and what the quoted forms
look like. A plain text reads back as itself: nothing in it is taken for null, a boolean, a number
or an indicator.
-/

namespace RpcRegistry.Yaml.Printer

open RpcRegistry.Text

abbrev Line := List Char

def isControl (c : Char) : Bool := c.toNat < 0x20 || (0x7f ≤ c.toNat && c.toNat < 0xa0)

def isDigitOrMark (base : Nat) (c : Char) : Bool := c = '_' || Numeral.isDigit base c

def isNumberRun (text : List Char) : Bool :=
  text.head?.any (Numeral.isDigit 10) && text.all (isDigitOrMark 10)

/-- What may follow the digits of a number: nothing, or a power of ten. -/
def isPower : List Char → Bool
  | [] => true
  | c :: digits => (c = 'e' || c = 'E') && isNumberRun (Core.unsignedPart digits)

/-- Digits with at most one point among or beside them, and a power of ten. -/
def isDecimalLike (text : List Char) : Bool :=
  match text, text.dropWhile (isDigitOrMark 10) with
  | '.' :: fraction, _ =>
      fraction.head?.any (Numeral.isDigit 10) && isPower (fraction.dropWhile (isDigitOrMark 10))
  | c :: _, '.' :: fraction =>
      Numeral.isDigit 10 c && isPower (fraction.dropWhile (isDigitOrMark 10))
  | c :: _, power => Numeral.isDigit 10 c && isPower power
  | [], _ => false

/-- Whether a text looks like a number to some reader: with a sign or without, in a base marked in
small letters, with underscores, or one of the short words for numbers that are not finite. Of these
only `nan` without a point takes no sign. -/
def isNumberLike (text : List Char) : Bool :=
  let unsigned := Core.unsignedPart text
  let (base, digits) := baseOf unsigned
  if base = 10 then
    isDecimalLike unsigned || lowerCase text = "nan".toList ||
      ["inf".toList, ".inf".toList, ".nan".toList].contains (lowerCase unsigned)
  else digits ≠ [] && digits.all (isDigitOrMark base)

/-- Whether a text reads as null, a boolean or a number where it stands plain. -/
def isAmbiguous (text : List Char) : Bool :=
  Wide.isNull text || (Wide.bool? text).isSome || isNumberLike text

/-- A text no plain scalar starts like. A dash or a question mark starts one when more follows
right behind it. -/
def startsUnsafe : List Char → Bool
  | [] => false
  | c :: rest =>
      if c = '-' || c = '?' then rest.head?.all (· = ' ')
      else c = ' ' || ":,[]\x7b\x7d#&*!|>'\"%@\x60".toList.contains c

def isSafe (text : List Char) : Bool :=
  !(isAmbiguous text || startsUnsafe text || text.any isControl || text.contains '#')

/-- Whether a text holds a colon that ends a key: white space follows it, or nothing. -/
def hasKeyColon : List Char → Bool
  | [] => false
  | c :: rest => (c = ':' && rest.head?.all isWhiteSpace) || hasKeyColon rest

def isPlain (text : List Char) : Bool := isSafe text && !hasKeyColon text

/-- Whether a text can stand as a key without quotes: it has no colon at all and nothing that
means something between brackets. -/
def isPlainKey (text : List Char) : Bool :=
  isSafe text && !text.any fun c => c = ':' || isFlowIndicator c

def hexadecimal (width n : Nat) : Line :=
  padLeft '0' width ((Numeral.digits 16 n).map Char.toUpper)

def escapeLetter? : Char → Option Char
  | '\x00' => some '0'
  | '\x07' => some 'a'
  | '\x08' => some 'b'
  | '\t' => some 't'
  | '\n' => some 'n'
  | '\x0b' => some 'v'
  | '\x0c' => some 'f'
  | '\r' => some 'r'
  | '\x1b' => some 'e'
  | '"' => some '"'
  | '\\' => some '\\'
  | '\u0085' => some 'N'
  | '\u2028' => some 'L'
  | '\u2029' => some 'P'
  | _ => none

def escapedChar (c : Char) : Line :=
  match escapeLetter? c with
  | some letter => ['\\', letter]
  | none =>
      if c = '\ufeff' then "\\uFEFF".toList
      else if isControl c then ['\\', 'x'] ++ hexadecimal 2 c.toNat
      else [c]

/-- A character of a quoted key: of the controls only tab and line breaks have a letter, and what
is no control stands as it is. -/
def escapedKeyChar (c : Char) : Line :=
  if ['\t', '\n', '\r', '"', '\\'].contains c then escapedChar c
  else if isControl c then ['\\', 'u'] ++ hexadecimal 4 c.toNat
  else [c]

def doubleQuoted (text : List Char) : Line := '"' :: text.flatMap escapedChar ++ ['"']

/-- Some single marks take single quotes. -/
def isLoneMark (text : List Char) : Bool := text = ['-'] || text = ['.'] || text = ['#']

def keyLine (key : String) : Line :=
  let text := key.toList
  if isPlainKey text then text else '"' :: text.flatMap escapedKeyChar ++ ['"']

def valueLine (text : List Char) : Line :=
  if isLoneMark text then '\'' :: text ++ ['\'']
  else if isPlain text then text
  else doubleQuoted text

end RpcRegistry.Yaml.Printer
