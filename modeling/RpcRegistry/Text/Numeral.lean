/-!
Numerals as text: a digit run in a base, its value, and the two ways a bounded whole number is
read (with an optional plus, or with either sign). Leading zeros never change a value.
-/

namespace RpcRegistry.Text.Numeral

/-- The digit `c` stands for in `base` (at most sixteen), in either case. -/
def digit? (base : Nat) (c : Char) : Option Nat :=
  let value :=
    if '0' ≤ c ∧ c ≤ '9' then some (c.toNat - '0'.toNat)
    else if 'a' ≤ c ∧ c ≤ 'f' then some (c.toNat - 'a'.toNat + 10)
    else if 'A' ≤ c ∧ c ≤ 'F' then some (c.toNat - 'A'.toNat + 10)
    else none
  value.filter (· < base)

def isDigit (base : Nat) (c : Char) : Bool := (digit? base c).isSome

/-- The number a run of digits stands for; a character that is no digit counts as zero. -/
def value (base : Nat) (digits : List Char) : Nat :=
  digits.foldl (fun total c => total * base + (digit? base c).getD 0) 0

def whole? (base : Nat) (text : List Char) : Option Nat :=
  if text ≠ [] ∧ text.all (isDigit base) then some (value base text) else none

/-- A whole number up to `bound`, with at most one plus before it. -/
def unsigned? (bound : Nat) (text : List Char) : Option Nat :=
  let digits := match text with
    | '+' :: rest => rest
    | _ => text
  (whole? 10 digits).filter (· ≤ bound)

/-- A whole number in a 64-bit word with a sign bit, with at most one sign before it. -/
def signed? (text : List Char) : Option Int :=
  match text with
  | '-' :: digits => ((whole? 10 digits).filter (· ≤ Nat.pow 2 63)).map fun n => -(n : Int)
  | _ => (unsigned? (Nat.pow 2 63 - 1) text).map Int.ofNat

/-- The digits of `n`, most significant first, lower case, no leading zero. -/
def digits (base n : Nat) : List Char := Nat.toDigits base n

def decimal (n : Nat) : List Char := digits 10 n

end RpcRegistry.Text.Numeral
