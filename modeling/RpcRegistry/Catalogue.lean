import RpcRegistry.Binder

/-!
The services that are announced, the program versions withdrawn before that, and the plan each
mode makes of them. Groups over a local socket come from configured paths; a group whose path is
not set stays in the plan and has no transports.
-/

namespace RpcRegistry

structure Service where
  name : String
  program : Program
  versions : List Version
  deriving DecidableEq, Repr

namespace Service

def nfs : Service := ⟨"NFS", 100003, [2, 3]⟩

def mount : Service := ⟨"MOUNT", 100005, [1, 3]⟩

def stat : Service := ⟨"STAT", 100024, [1]⟩

end Service

inductive Mode where
  | full
  | unsetOnly
  | statdOnly
  deriving DecidableEq, Repr

namespace Mode

/-- Nothing is left out unless it is asked for. -/
instance : Inhabited Mode := ⟨.full⟩

def name : Mode → String
  | .full => "full"
  | .unsetOnly => "unset-only"
  | .statdOnly => "statd-only"

/-- Withdrawing only wins over announcing the status service only. -/
def ofFlags (unsetOnly statdOnly : Bool) : Mode :=
  if unsetOnly then .unsetOnly else if statdOnly then .statdOnly else .full

end Mode

structure LocalTransports where
  nfsdTiclts : Option String := none
  nfsdTicotsord : Option String := none
  mountdTiclts : Option String := none
  mountdTicotsord : Option String := none
  deriving DecidableEq, Repr

def LocalTransports.isEmpty (paths : LocalTransports) : Bool :=
  paths.nfsdTiclts.isNone && paths.nfsdTicotsord.isNone && paths.mountdTiclts.isNone &&
    paths.mountdTicotsord.isNone

/-- Versions of a program that are withdrawn from every network. -/
structure Withdrawal where
  program : Program
  versions : List Version
  deriving DecidableEq, Repr

structure Removal where
  program : Program
  version : Version
  deriving DecidableEq, Repr

def Removal.call (removal : Removal) : Call :=
  .unregister none removal.program removal.version

def Withdrawal.removals (withdrawal : Withdrawal) : List Removal :=
  withdrawal.versions.map fun version => ⟨withdrawal.program, version⟩

structure Registration where
  program : Program
  version : Version
  transport : Transport
  deriving DecidableEq, Repr

def Registration.call (registration : Registration) : Call :=
  .register registration.transport.netId registration.program registration.version
    registration.transport.endpoint

structure Group where
  label : String
  service : Service
  transports : List Transport
  deriving DecidableEq, Repr

namespace Group

def registrations (group : Group) : List Registration :=
  group.service.versions.flatMap fun version =>
    group.transports.map fun transport => ⟨group.service.program, version, transport⟩

def callCount (group : Group) : Nat := group.service.versions.length * group.transports.length

theorem length_registrations (group : Group) :
    group.registrations.length = group.callCount := by
  unfold registrations callCount
  induction group.service.versions with
  | nil => simp
  | cons version rest induction =>
      rw [List.flatMap_cons, List.length_append, List.length_map, induction, List.length_cons,
        Nat.succ_mul, Nat.add_comm]

end Group

structure Plan where
  withdrawals : List Withdrawal
  groups : List Group
  deriving DecidableEq, Repr

namespace Plan

def nfsPort : UInt16 := 2049

def mountPort : UInt16 := 32767

def statUdpPort : UInt16 := 710

def statTcpPort : UInt16 := 904

def udpPair (port : UInt16) : List Transport := [.udp port, .udp6 port]

def tcpPair (port : UInt16) : List Transport := [.tcp port, .tcp6 port]

/-- Withdrawn in every mode. -/
def managedWithdrawals : List Withdrawal :=
  [⟨Service.nfs.program, [3, 4]⟩, ⟨Service.mount.program, [1, 2, 3]⟩]

def statWithdrawal : Withdrawal := ⟨Service.stat.program, [1]⟩

def statGroup : Group :=
  ⟨"STAT", .stat, udpPair statUdpPort ++ tcpPair statTcpPort⟩

def fullGroups (paths : LocalTransports) : List Group :=
  [⟨"NFS/UDP", .nfs, udpPair nfsPort⟩,
   ⟨"NFS/TCP", .nfs, tcpPair nfsPort⟩,
   ⟨"NFS/TICLTS", .nfs, (paths.nfsdTiclts.map Transport.ticlts).toList⟩,
   ⟨"NFS/TICOTSORD", .nfs, (paths.nfsdTicotsord.map Transport.ticotsord).toList⟩,
   ⟨"MOUNT/UDP", .mount, udpPair mountPort⟩,
   ⟨"MOUNT/TCP", .mount, tcpPair mountPort⟩,
   ⟨"MOUNT/TICLTS", .mount, (paths.mountdTiclts.map Transport.ticlts).toList⟩,
   ⟨"MOUNT/TICOTSORD", .mount, (paths.mountdTicotsord.map Transport.ticotsord).toList⟩]

def forMode (mode : Mode) (paths : LocalTransports) : Plan :=
  match mode with
  | .full => ⟨managedWithdrawals, fullGroups paths⟩
  | .unsetOnly => ⟨managedWithdrawals, []⟩
  | .statdOnly => ⟨managedWithdrawals ++ [statWithdrawal], [statGroup]⟩

def removals (plan : Plan) : List Removal := plan.withdrawals.flatMap Withdrawal.removals

def registrations (plan : Plan) : List Registration := plan.groups.flatMap Group.registrations

/-- How many register calls a plan makes, from the sizes of its groups. -/
def registerCallCount (plan : Plan) : Nat :=
  (plan.groups.map Group.callCount).foldr (· + ·) 0

theorem length_registrations (plan : Plan) :
    plan.registrations.length = plan.registerCallCount := by
  simp only [registrations, List.length_flatMap, Group.length_registrations]
  rfl

end Plan

end RpcRegistry
