import RpcRegistry.Text.Numeral

/-!
IPv4 addresses and their dotted-quad text. An octet is one to three decimal digits without a
leading zero; a reader takes the longest digit run, so the text that follows decides nothing.
-/

namespace RpcRegistry.Inet

open RpcRegistry.Text

/-- The text after the mark `mark`, unless the field is the first of its row, which has none. -/
def afterMark (mark : Char) (first : Bool) (text : List Char) : Option (List Char) :=
  if first then some text
  else match text with
    | [] => none
    | c :: rest => if c = mark then some rest else none

/-- The digit run at the front of `text`, which must have one to `most` digits. -/
def readDigits (base most : Nat) (text : List Char) : Option (List Char × List Char) :=
  let run := text.takeWhile (Numeral.isDigit base)
  if run ≠ [] ∧ run.length ≤ most then some (run, text.dropWhile (Numeral.isDigit base))
  else none

structure V4 where
  first : UInt8
  second : UInt8
  third : UInt8
  fourth : UInt8
  deriving DecidableEq, Repr

namespace V4

def unspecified : V4 := ⟨0, 0, 0, 0⟩

def octetText (octet : UInt8) : List Char := Numeral.decimal octet.toNat

def text (address : V4) : List Char :=
  octetText address.first ++ '.' :: octetText address.second ++
    '.' :: octetText address.third ++ '.' :: octetText address.fourth

def readOctet (text : List Char) : Option (UInt8 × List Char) := do
  let (run, rest) ← readDigits 10 3 text
  let n := Numeral.value 10 run
  if (run.head? = some '0' ∧ 1 < run.length) ∨ 255 < n then none
  else some (UInt8.ofNat n, rest)

def read (text : List Char) : Option (V4 × List Char) := do
  let (first, rest) ← readOctet text
  let (second, rest) ← (afterMark '.' false rest).bind readOctet
  let (third, rest) ← (afterMark '.' false rest).bind readOctet
  let (fourth, rest) ← (afterMark '.' false rest).bind readOctet
  some (⟨first, second, third, fourth⟩, rest)

end V4

end RpcRegistry.Inet
