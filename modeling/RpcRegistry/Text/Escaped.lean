import RpcRegistry.Text.Numeral
import RpcRegistry.Text.Unprintable

/-!
The quoted form that messages show a text in: double quotes around it, a backslash before quotes
and backslashes, short names for the common controls, and a code point in braces for whatever
does not print.
-/

namespace RpcRegistry.Text

def escapedChar (c : Char) : List Char :=
  if c = '\x00' then ['\\', '0']
  else if c = '\t' then ['\\', 't']
  else if c = '\n' then ['\\', 'n']
  else if c = '\r' then ['\\', 'r']
  else if c = '"' then ['\\', '"']
  else if c = '\\' then ['\\', '\\']
  else if c.toNat < 0x20 || (0x7f ≤ c.toNat && isUnprintable c) then
    ['\\', 'u', '\x7b'] ++ Numeral.digits 16 c.toNat ++ ['\x7d']
  else [c]

def escaped (text : String) : String :=
  String.ofList ('"' :: text.toList.flatMap escapedChar ++ ['"'])

end RpcRegistry.Text
