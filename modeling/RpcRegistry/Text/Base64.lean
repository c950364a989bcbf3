/-!
Octets written in letters, digits, plus and slash: four characters for three octets, the last
group filled up with equals signs. Only the one spelling of each octet string is read.
-/

namespace RpcRegistry.Text.Base64

def sextet? (c : Char) : Option Nat :=
  if 'A' ≤ c ∧ c ≤ 'Z' then some (c.toNat - 'A'.toNat)
  else if 'a' ≤ c ∧ c ≤ 'z' then some (c.toNat - 'a'.toNat + 26)
  else if '0' ≤ c ∧ c ≤ '9' then some (c.toNat - '0'.toNat + 52)
  else if c = '+' then some 62
  else if c = '/' then some 63
  else none

/-- The octets of a text. The bits that a filled up group leaves over are zero. -/
def octets? : List Char → Option (List UInt8)
  | [] => some []
  | [a, b, '=', '='] => do
      let bits := (← sextet? a) * 64 + (← sextet? b)
      if bits % 16 = 0 then some [UInt8.ofNat (bits / 16)] else none
  | [a, b, c, '='] => do
      let bits := ((← sextet? a) * 64 + (← sextet? b)) * 64 + (← sextet? c)
      if bits % 4 = 0 then some [UInt8.ofNat (bits / 1024), UInt8.ofNat (bits / 4)] else none
  | a :: b :: c :: d :: rest => do
      let bits :=
        (((← sextet? a) * 64 + (← sextet? b)) * 64 + (← sextet? c)) * 64 + (← sextet? d)
      let octets ← octets? rest
      some (UInt8.ofNat (bits / 65536) :: UInt8.ofNat (bits / 256) :: UInt8.ofNat bits :: octets)
  | _ => none

def text? (text : List Char) : Option String := do
  let octets ← octets? text
  String.fromUTF8? ⟨octets.toArray⟩

end RpcRegistry.Text.Base64
