import RpcRegistry.Inet.V6

/-!
An internet address of either family, its text, and the text of an address with a port.
-/

namespace RpcRegistry.Inet

open RpcRegistry.Text

inductive Address where
  | v4 (address : V4)
  | v6 (address : V6)
  deriving DecidableEq, Repr

namespace Address

def isV6 : Address → Bool
  | .v4 _ => false
  | .v6 _ => true

def chars : Address → List Char
  | .v4 address => address.text
  | .v6 address => address.text

def text (address : Address) : String := String.ofList address.chars

def ofChars? (text : List Char) : Option Address :=
  match V4.read text with
  | some (address, rest) => if rest = [] then some (.v4 address) else none
  | none =>
      match V6.read text with
      | some (address, rest) => if rest = [] then some (.v6 address) else none
      | none => none

def ofText? (text : String) : Option Address := ofChars? text.toList

end Address

structure Socket where
  address : Address
  port : UInt16
  deriving DecidableEq, Repr

/-- The port after a colon; an IPv6 address stands in brackets. -/
def Socket.text (socket : Socket) : String :=
  let port := ':' :: Numeral.decimal socket.port.toNat
  String.ofList <| match socket.address with
    | .v4 address => address.text ++ port
    | .v6 address => '[' :: address.text ++ ']' :: port

end RpcRegistry.Inet
