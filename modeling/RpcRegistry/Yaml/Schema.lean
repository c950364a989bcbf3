import RpcRegistry.Text.Blank
import RpcRegistry.Text.LowerCase
import RpcRegistry.Value

/-!
What a plain scalar means. The core schema knows few spellings and keeps digits with a leading
zero as text; the wide one takes the old words for booleans in any case, marks of a base in either
case, and underscores between digits.
-/

namespace RpcRegistry.Yaml

open RpcRegistry.Text

def baseOf (text : List Char) : Nat × List Char :=
  match text with
  | '0' :: 'x' :: digits => (16, digits)
  | '0' :: 'o' :: digits => (8, digits)
  | '0' :: 'b' :: digits => (2, digits)
  | _ => (10, text)

namespace Core

def isNull (text : List Char) : Bool :=
  ["null".toList, "Null".toList, "NULL".toList, ['~']].contains text

def bool? (text : List Char) : Option Bool :=
  if ["true".toList, "True".toList, "TRUE".toList].contains text then some true
  else if ["false".toList, "False".toList, "FALSE".toList].contains text then some false
  else none

def unsignedPart (text : List Char) : List Char :=
  match text with
  | '-' :: rest | '+' :: rest => rest
  | _ => text

/-- Several digits of which the first is zero: a text, not a number. -/
def isPadded (text : List Char) : Bool :=
  let digits := unsignedPart text
  1 < digits.length && digits.head? = some '0' && digits.all (Numeral.isDigit 10)

/-- A whole number of at most 128 bits, with a sign or without. -/
def int? (text : List Char) : Option Int :=
  let (base, digits) := baseOf (unsignedPart text)
  if base = 10 ∧ isPadded text then none
  else
    match Numeral.whole? base digits with
    | none => none
    | some n =>
        if text.head? = some '-' then if n ≤ Nat.pow 2 127 then some (-(n : Int)) else none
        else if n < Nat.pow 2 128 then some n else none

def special? (text : List Char) : Option Binary64 :=
  let isInfinity := fun text => [".inf".toList, ".Inf".toList, ".INF".toList].contains text
  match text with
  | '-' :: rest => if isInfinity rest then some (.infinity true) else none
  | '+' :: rest => if isInfinity rest then some (.infinity false) else none
  | _ =>
      if isInfinity text then some (.infinity false)
      else if [".nan".toList, ".NaN".toList, ".NAN".toList].contains text then some .nan
      else none

def float? (text : List Char) : Option Binary64 :=
  (special? text).or ((Binary64.ofDecimalText? text).filter Binary64.isFinite)

def value (text : List Char) : Value :=
  if text = [] ∨ isNull text then .null
  else
    match bool? text, int? text with
    | some b, _ => .bool b
    | none, some n => .int n
    | none, none =>
        match if isPadded text then none else float? text with
        | some x => .float x
        | none => .text (String.ofList text)

end Core

def specialWord (x : Binary64) : List Char :=
  if x.magnitude = Binary64.infinityWord then
    (if x.negative then ['-'] else []) ++ ".inf".toList
  else ".nan".toList

namespace Wide

def baseOf (text : List Char) : Nat × List Char := Yaml.baseOf (lowerCase text)

def isNull (text : List Char) : Bool :=
  text = [] || text = ['~'] || lowerCase text = "null".toList

/-- The words for booleans may have white space around them. -/
def bool? (text : List Char) : Option Bool :=
  let word := lowerCase (trim text)
  if [['y'], "yes".toList, "on".toList, "true".toList].contains word then some true
  else if [['n'], "no".toList, "off".toList, "false".toList].contains word then some false
  else none

def whole? (base : Nat) (text : List Char) : Option Nat :=
  Numeral.whole? base (text.filter (· ≠ '_'))

def int? (text : List Char) : Option Int :=
  let text := trim text
  let (base, digits) := baseOf (Core.unsignedPart text)
  let negative := text.head? = some '-'
  let n? := (whole? base digits).map fun n => if negative then -(n : Int) else n
  n?.filter Value.storable

/-- Infinity and not-a-number, with a point before the word or without. -/
def special? (text : List Char) : Option Binary64 :=
  let word := lowerCase (Core.unsignedPart text)
  if [".inf".toList, "inf".toList, "infinity".toList].contains word then
    some (.infinity (text.head? = some '-'))
  else if [".nan".toList, "nan".toList].contains word then some .nan
  else none

def float? (text : List Char) : Option Binary64 :=
  let text := trim text
  (special? text).or (Binary64.ofDecimalText? text)

/-- The value of a plain scalar. A number that is not finite stays a text, in one spelling. -/
def value (text : List Char) : Value :=
  if isNull text then .null
  else
    match bool? text, int? text, float? text with
    | some b, _, _ => .bool b
    | none, some n, _ => .int n
    | none, none, some x =>
        if x.isFinite then .float x else .text (String.ofList (specialWord x))
    | none, none, none => .text (String.ofList text)

end Wide

end RpcRegistry.Yaml
