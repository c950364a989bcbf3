import RpcRegistry.Text.Escaped

/-!
Network identifiers: which transport a service is reached over, in the order listings use.
-/

namespace RpcRegistry

inductive Family where
  | inet
  | inet6
  | localSocket
  deriving DecidableEq, Repr

def Family.name : Family → String
  | .inet => "Inet"
  | .inet6 => "Inet6"
  | .localSocket => "Local"

inductive NetId where
  | udp
  | udp6
  | tcp
  | tcp6
  | ticotsord
  | ticlts
  deriving DecidableEq, Repr

namespace NetId

/-- Every identifier, in listing order. -/
def all : List NetId := [.udp, .udp6, .tcp, .tcp6, .ticotsord, .ticlts]

def name : NetId → String
  | .udp => "udp"
  | .udp6 => "udp6"
  | .tcp => "tcp"
  | .tcp6 => "tcp6"
  | .ticotsord => "ticotsord"
  | .ticlts => "ticlts"

def family : NetId → Family
  | .udp | .tcp => .inet
  | .udp6 | .tcp6 => .inet6
  | .ticotsord | .ticlts => .localSocket

def index : NetId → Nat
  | .udp => 0
  | .udp6 => 1
  | .tcp => 2
  | .tcp6 => 3
  | .ticotsord => 4
  | .ticlts => 5

def ofName? (name : String) : Option NetId := all.find? (·.name = name)

theorem index_lt (netId : NetId) : netId.index < 6 := by cases netId <;> decide

theorem index_inj {left right : NetId} (same : left.index = right.index) : left = right := by
  cases left <;> cases right <;> first | rfl | simp [index] at same

theorem mem_all (netId : NetId) : netId ∈ all := by cases netId <;> decide

theorem ofName_name (netId : NetId) : ofName? netId.name = some netId := by
  cases netId <;> decide

end NetId

structure UnknownNetId where
  text : String
  deriving DecidableEq, Repr

def UnknownNetId.message (error : UnknownNetId) : String :=
  "unknown netid: " ++ Text.escaped error.text

def NetId.ofText (text : String) : Except UnknownNetId NetId :=
  match NetId.ofName? text with
  | some netId => .ok netId
  | none => .error ⟨text⟩

end RpcRegistry
