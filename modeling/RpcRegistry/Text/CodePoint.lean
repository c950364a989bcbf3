/-!
Code points. The numbers between the two planes of surrogates, and those past the last plane,
stand for no character.
-/

namespace RpcRegistry.Text

def charOfCode? (code : Nat) : Option Char :=
  if code < 0xd800 ∨ (0xdfff < code ∧ code ≤ 0x10ffff) then some (Char.ofNat code) else none

end RpcRegistry.Text
