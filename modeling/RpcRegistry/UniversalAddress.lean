import RpcRegistry.Endpoint

/-!
Universal addresses: the text a directory gives for an endpoint. An internet endpoint is its host
followed by the two octets of its port in decimal, high one first; a local one is its socket path
as it stands. Reading splits at the last two dots, whatever the host holds.
-/

namespace RpcRegistry.UniversalAddress

open RpcRegistry.Text RpcRegistry.Inet

def socketChars (socket : Socket) : List Char :=
  socket.address.chars ++ '.' :: Numeral.decimal (socket.port.toNat / 256) ++
    '.' :: Numeral.decimal (socket.port.toNat % 256)

def ofSocket (socket : Socket) : String := String.ofList (socketChars socket)

def ofEndpoint : Endpoint → String
  | .inet port => ofSocket ⟨.v4 V4.unspecified, port⟩
  | .inet6 port => ofSocket ⟨.v6 V6.unspecified, port⟩
  | .socketPath path => path

inductive Error where
  | missingPort (text : String)
  | invalidPort (text : String)
  | invalidHost (text : String)
  deriving DecidableEq, Repr

def Error.message : Error → String
  | .missingPort text => "universal address has no port octets: " ++ escaped text
  | .invalidPort text => "invalid port octet in universal address: " ++ escaped text
  | .invalidHost text => "invalid host in universal address: " ++ escaped text

def splitLast (mark : Char) : List Char → Option (List Char × List Char)
  | [] => none
  | c :: rest =>
      match splitLast mark rest with
      | some (before, after) => some (c :: before, after)
      | none => if c = mark then some ([], rest) else none

def octet? (text : List Char) : Option Nat := Numeral.unsigned? 255 text

def fields? (text : List Char) : Option (List Char × List Char × List Char) := do
  let (rest, low) ← splitLast '.' text
  let (host, high) ← splitLast '.' rest
  some (host, high, low)

def parse (text : String) : Except Error Socket :=
  match fields? text.toList with
  | none => .error (.missingPort text)
  | some (host, high, low) =>
      match octet? high, octet? low with
      | some high, some low =>
          match Address.ofChars? host with
          | some address => .ok ⟨address, UInt16.ofNat (256 * high + low)⟩
          | none => .error (.invalidHost text)
      | _, _ => .error (.invalidPort text)

end RpcRegistry.UniversalAddress
