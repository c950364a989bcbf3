import RpcRegistry.Number.Binary64

/-!
The shortest decimal that reads back as a given word: the fewest digits, and of those the decimal
nearest to the word's value. For each count of digits only the two neighbours of the value on that
decimal grid are tested, in exact arithmetic.
-/

namespace RpcRegistry.Binary64

open RpcRegistry.Text

structure Decimal where
  digits : Nat
  exponent : Int
  deriving DecidableEq, Repr

/-- The reals that read as one word lie between two multiples of one unit, with the value between
them; the ends count when the significand is even. The unit is a power of two over `denominator`. -/
structure Interval where
  low : Nat
  value : Nat
  high : Nat
  denominator : Nat
  closed : Bool
  deriving DecidableEq, Repr

/-- The interval of a finite word other than zero. Below a power of two the words are twice as
dense, so the lower end is nearer. -/
def interval (x : Binary64) : Interval :=
  let (significand, power) := x.parts
  let narrow := significand = hiddenBit ∧ 0 < power
  let scale := Nat.pow 2 power
  { low := (4 * significand - if narrow then 1 else 2) * scale
    value := 4 * significand * scale
    high := (4 * significand + 2) * scale
    denominator := Nat.pow 2 1076
    closed := significand % 2 = 0 }

/-- `value / denominator` in units of `10 ^ exponent`, as a quotient of two numbers. -/
def scaledBy (value denominator : Nat) (exponent : Int) : Nat × Nat :=
  if 0 ≤ exponent then (value, denominator * Nat.pow 10 exponent.toNat)
  else (value * Nat.pow 10 (-exponent).toNat, denominator)

def Interval.contains (range : Interval) (digits : Nat) (exponent : Int) : Bool :=
  let (low, unit) := scaledBy range.low range.denominator exponent
  let (high, _) := scaledBy range.high range.denominator exponent
  if range.closed then low ≤ digits * unit && digits * unit ≤ high
  else low < digits * unit && digits * unit < high

/-- The neighbour of the value on the grid of `10 ^ exponent` that reads back, if one does; the
nearer one if both do. -/
def Interval.onGrid (range : Interval) (exponent : Int) : Option Nat :=
  let (value, unit) := scaledBy range.value range.denominator exponent
  let below := value / unit
  let above := below + 1
  match range.contains below exponent, range.contains above exponent with
  | true, true => some (if 2 * (value % unit) ≤ unit then below else above)
  | true, false => some below
  | false, true => some above
  | false, false => none

def Interval.reaches (range : Interval) (exponent : Int) : Bool :=
  let (value, unit) := scaledBy range.value range.denominator exponent
  unit ≤ value

/-- The number of digits before the point of the value, or minus the zeros after it. It is
estimated from the binary logarithm, which is off by one at most. -/
def Interval.magnitude (range : Interval) : Int :=
  let binary : Int := Int.ofNat range.value.log2 - Int.ofNat range.denominator.log2
  let guess : Int := (binary * 30103).fdiv 100000
  if range.reaches (guess + 1) then guess + 2
  else if range.reaches guess then guess + 1
  else guess

def Decimal.trim : (fuel : Nat) → Decimal → Decimal
  | 0, decimal => decimal
  | fuel + 1, decimal =>
      if decimal.digits ≠ 0 ∧ decimal.digits % 10 = 0 then
        trim fuel ⟨decimal.digits / 10, decimal.exponent + 1⟩
      else decimal

def shortest (x : Binary64) : Decimal :=
  if x.magnitude = 0 then ⟨0, 0⟩
  else
    let range := x.interval
    let top := range.magnitude
    let found := (List.range 17).findSome? fun count =>
      let exponent := top - (count + 1 : Nat)
      (range.onGrid exponent).map fun digits => (⟨digits, exponent⟩ : Decimal)
    (found.getD ⟨0, 0⟩).trim 20

/-- How a decimal is written out: plain notation while the point stays within sixteen digits and
five zeros, else a mantissa with a point and an exponent with a sign. -/
def Decimal.text (decimal : Decimal) : List Char :=
  let digits := Numeral.decimal decimal.digits
  let point : Int := digits.length + decimal.exponent
  if decimal.digits = 0 then ['0', '.', '0']
  else if 0 ≤ decimal.exponent ∧ point ≤ 16 then
    digits ++ List.replicate decimal.exponent.toNat '0' ++ ['.', '0']
  else if 0 < point ∧ point ≤ 16 then
    digits.take point.toNat ++ '.' :: digits.drop point.toNat
  else if -5 < point ∧ point ≤ 0 then
    ['0', '.'] ++ List.replicate (-point).toNat '0' ++ digits
  else
    let fraction := if digits.length ≤ 1 then ['0'] else digits.drop 1
    let power := point - 1
    digits.take 1 ++ '.' :: fraction ++ 'e' :: (if power < 0 then '-' else '+') ::
      Numeral.decimal power.natAbs

def text (x : Binary64) : List Char :=
  (if x.negative then ['-'] else []) ++ x.shortest.text

end RpcRegistry.Binary64
