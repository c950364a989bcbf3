import RpcRegistry.Text.Numeral

/-!
Double-precision numbers as 64-bit words, without machine arithmetic. A decimal is read as the
word whose value is nearest to it, ties going to the even significand; every step is on natural
numbers, so what a word means can be computed in proofs too.
-/

namespace RpcRegistry

/-- Sign bit, eleven exponent bits, fifty-two fraction bits. -/
structure Binary64 where
  word : UInt64
  deriving DecidableEq, Repr

namespace Binary64

open RpcRegistry.Text

def signWord : Nat := Nat.pow 2 63

def hiddenBit : Nat := Nat.pow 2 52

def infinityWord : Nat := 2047 * hiddenBit

def ofMagnitude (negative : Bool) (magnitude : Nat) : Binary64 :=
  ⟨UInt64.ofNat (magnitude + if negative then signWord else 0)⟩

def infinity (negative : Bool) : Binary64 := ofMagnitude negative infinityWord

def nan : Binary64 := ofMagnitude false (infinityWord + hiddenBit / 2)

def negative (x : Binary64) : Bool := signWord ≤ x.word.toNat

def magnitude (x : Binary64) : Nat := x.word.toNat % signWord

def isFinite (x : Binary64) : Bool := x.magnitude < infinityWord

/-- The significand and the power of two it is multiplied with, less 1074. -/
def parts (x : Binary64) : Nat × Nat :=
  let exponent := x.magnitude / hiddenBit
  let fraction := x.magnitude % hiddenBit
  if exponent = 0 then (fraction, 0) else (hiddenBit + fraction, exponent - 1)

/-- The quotient rounded to the nearest whole number, a half to the even neighbour. -/
def roundedQuotient (numerator denominator : Nat) : Nat :=
  let quotient := numerator / denominator
  let twice := 2 * (numerator % denominator)
  if denominator < twice ∨ (twice = denominator ∧ quotient % 2 = 1) then quotient + 1
  else quotient

/-- The word nearest to a quotient. The power is the least for which the significand fits in 53
bits; rounding up to 54 bits carries into the exponent by itself. -/
def ofQuotient (negative : Bool) (numerator denominator : Nat) : Binary64 :=
  if numerator = 0 ∨ denominator = 0 then ofMagnitude negative 0
  else
    let scaled := numerator * Nat.pow 2 1074
    let excess := Nat.log2 (scaled / denominator) - 53
    let power :=
      if scaled / (denominator * Nat.pow 2 excess) < 2 * hiddenBit then excess else excess + 1
    let significand := roundedQuotient scaled (denominator * Nat.pow 2 power)
    let magnitude := power * hiddenBit + significand
    if infinityWord ≤ magnitude then infinity negative else ofMagnitude negative magnitude

/-- The word nearest to `digits · 10 ^ exponent`. Exponents that are out of reach of every word
are settled first, so no huge power is computed. -/
def ofDecimal (negative : Bool) (digits : Nat) (exponent : Int) : Binary64 :=
  let length : Int := (Numeral.decimal digits).length
  if digits = 0 ∨ length + exponent < -340 then ofMagnitude negative 0
  else if 320 < length + exponent then infinity negative
  else if 0 ≤ exponent then ofQuotient negative (digits * Nat.pow 10 exponent.toNat) 1
  else ofQuotient negative digits (Nat.pow 10 (-exponent).toNat)

def splitDigits (text : List Char) : List Char × List Char :=
  (text.takeWhile (Numeral.isDigit 10), text.dropWhile (Numeral.isDigit 10))

def exponent? : List Char → Option Int
  | [] => some 0
  | mark :: rest =>
      if mark = 'e' ∨ mark = 'E' then
        match rest with
        | '-' :: digits => (Numeral.whole? 10 digits).map fun n => -(n : Int)
        | '+' :: digits => (Numeral.whole? 10 digits).map Int.ofNat
        | digits => (Numeral.whole? 10 digits).map Int.ofNat
      else none

/-- An unsigned decimal: digits with at most one point among them, at least one digit, and
perhaps an exponent. -/
def ofUnsigned? (negative : Bool) (text : List Char) : Option Binary64 := do
  let (whole, rest) := splitDigits text
  let (fraction, rest) := match rest with
    | '.' :: rest => splitDigits rest
    | _ => ([], rest)
  if whole = [] ∧ fraction = [] then none
  else
    let exponent ← exponent? rest
    some (ofDecimal negative (Numeral.value 10 (whole ++ fraction))
      (exponent - fraction.length))

/-- A decimal with at most one sign. The words for infinity and not-a-number are no decimals. -/
def ofDecimalText? (text : List Char) : Option Binary64 :=
  match text with
  | '-' :: rest => ofUnsigned? true rest
  | '+' :: rest => ofUnsigned? false rest
  | _ => ofUnsigned? false text

end Binary64

end RpcRegistry
