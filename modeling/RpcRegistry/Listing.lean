import RpcRegistry.Directory.Local
import RpcRegistry.Text.Padding

/-!
The listing of a directory: a header and a line for each mapping, columns padded to a least width
in characters and never cut.
-/

namespace RpcRegistry.Listing

open RpcRegistry.Text

/-- A line from its six columns; the last one has no padding. -/
def line (program version netId address port owner : List Char) : List Char :=
  padLeft ' ' 10 program ++ ' ' :: padLeft ' ' 5 version ++ ' ' :: padRight ' ' 10 netId ++
    ' ' :: padRight ' ' 24 address ++ ' ' :: padLeft ' ' 5 port ++ ' ' :: owner ++ ['\n']

def header : List Char :=
  line "program".toList "vers".toList "netid".toList "address".toList "port".toList
    "owner".toList

/-- The port as the universal address gives it back; a local socket has none. -/
def portColumn (mapping : Mapping) : List Char :=
  match mapping.endpoint with
  | .socketPath _ => ['-']
  | .inet _ | .inet6 _ =>
      match UniversalAddress.parse mapping.universalAddress with
      | .ok socket => Numeral.decimal socket.port.toNat
      | .error _ => ['?']

def mappingLine (mapping : Mapping) : List Char :=
  line (Numeral.decimal mapping.program.toNat) (Numeral.decimal mapping.version.toNat)
    mapping.netId.name.toList mapping.universalAddress.toList (portColumn mapping)
    mapping.owner.toList

def render (mappings : List Mapping) : String :=
  String.ofList (header ++ mappings.flatMap mappingLine)

end RpcRegistry.Listing
