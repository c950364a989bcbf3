import RpcRegistry.Inet.Address
import RpcRegistry.NetId

/-!
Endpoints as a directory holds them (the wildcard address of a family with a port, or a socket
path) and the transports a service is bound to. A transport carries what its network needs, so
its endpoint always has its network's family.
-/

namespace RpcRegistry

open RpcRegistry.Inet

inductive Endpoint where
  | inet (port : UInt16)
  | inet6 (port : UInt16)
  | socketPath (path : String)
  deriving DecidableEq, Repr

namespace Endpoint

def family : Endpoint → Family
  | .inet _ => .inet
  | .inet6 _ => .inet6
  | .socketPath _ => .localSocket

def port? : Endpoint → Option UInt16
  | .inet port | .inet6 port => some port
  | .socketPath _ => none

def path? : Endpoint → Option String
  | .socketPath path => some path
  | .inet _ | .inet6 _ => none

def socket? : Endpoint → Option Socket
  | .inet port => some ⟨.v4 V4.unspecified, port⟩
  | .inet6 port => some ⟨.v6 V6.unspecified, port⟩
  | .socketPath _ => none

def text : Endpoint → String
  | .inet port => Socket.text ⟨.v4 V4.unspecified, port⟩
  | .inet6 port => Socket.text ⟨.v6 V6.unspecified, port⟩
  | .socketPath path => path

end Endpoint

inductive Transport where
  | udp (port : UInt16)
  | udp6 (port : UInt16)
  | tcp (port : UInt16)
  | tcp6 (port : UInt16)
  | ticotsord (path : String)
  | ticlts (path : String)
  deriving DecidableEq, Repr

namespace Transport

def netId : Transport → NetId
  | .udp _ => .udp
  | .udp6 _ => .udp6
  | .tcp _ => .tcp
  | .tcp6 _ => .tcp6
  | .ticotsord _ => .ticotsord
  | .ticlts _ => .ticlts

def port? : Transport → Option UInt16
  | .udp port | .udp6 port | .tcp port | .tcp6 port => some port
  | .ticotsord _ | .ticlts _ => none

/-- The endpoint announced for the transport: the wildcard address of its family, or its path. -/
def endpoint : Transport → Endpoint
  | .udp port | .tcp port => .inet port
  | .udp6 port | .tcp6 port => .inet6 port
  | .ticotsord path | .ticlts path => .socketPath path

theorem family_endpoint (transport : Transport) :
    transport.endpoint.family = transport.netId.family := by
  cases transport <;> rfl

theorem port_endpoint (transport : Transport) : transport.endpoint.port? = transport.port? := by
  cases transport <;> rfl

end Transport

end RpcRegistry
