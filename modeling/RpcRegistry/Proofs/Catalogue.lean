import Mathlib.Data.List.Nodup
import RpcRegistry.Catalogue
import RpcRegistry.Proofs.Directory.Calls

/-!
What the plans hold. Two groups of a plan differ in their program or in their networks, so no key
is planned twice, whatever socket paths are set. The keys a plan withdraws and the endpoint it
announces for a key are given for each mode in closed form.
-/

namespace RpcRegistry

private theorem findSome_flatMap {α β γ : Type} (items : List α) (parts : α → List β)
    (pick : β → Option γ) : (items.flatMap parts).findSome? pick =
      items.findSome? fun item => (parts item).findSome? pick := by
  induction items with
  | nil => rfl
  | cons item rest induction =>
      rw [List.flatMap_cons, List.findSome?_append, induction, List.findSome?_cons]
      cases (parts item).findSome? pick <;> rfl

namespace Service

theorem mem_nfs_versions {version : Version} :
    version ∈ nfs.versions ↔ version = 2 ∨ version = 3 := by
  simp [nfs]

theorem mem_mount_versions {version : Version} :
    version ∈ mount.versions ↔ version = 1 ∨ version = 3 := by
  simp [mount]

theorem mem_stat_versions {version : Version} : version ∈ stat.versions ↔ version = 1 := by
  simp [stat]

end Service

def LocalTransports.configured (paths : LocalTransports) : List String :=
  paths.nfsdTiclts.toList ++ paths.nfsdTicotsord.toList ++ paths.mountdTiclts.toList ++
    paths.mountdTicotsord.toList

namespace Transport

def path? : Transport → Option String
  | .udp _ | .udp6 _ | .tcp _ | .tcp6 _ => none
  | .ticotsord path | .ticlts path => some path

theorem path_endpoint (transport : Transport) : transport.endpoint.path? = transport.path? := by
  cases transport <;> rfl

def endpointOn? (netId : NetId) (transports : List Transport) : Option Endpoint :=
  transports.findSome? fun transport =>
    if transport.netId = netId then some transport.endpoint else none

end Transport

namespace Removal

variable (removal : Removal) (key : Key)

@[simp]
theorem isRegister_call : removal.call.isRegister = false := rfl

@[simp]
theorem registered_call : removal.call.registered? = none := rfl

@[simp]
theorem announced_call : removal.call.announced? key = none := rfl

end Removal

namespace Registration

def key (registration : Registration) : Key :=
  ⟨registration.program, registration.version, registration.transport.netId⟩

variable (registration : Registration)

@[simp]
theorem isRegister_call : registration.call.isRegister = true := rfl

@[simp]
theorem registered_call : registration.call.registered? = some registration.key := rfl

@[simp]
theorem withdraws_call (key : Key) : registration.call.withdraws key = false := rfl

theorem announced_call (key : Key) : registration.call.announced? key =
      if key.program = registration.program ∧ key.version = registration.version then
        if registration.transport.netId = key.netId then some registration.transport.endpoint
        else none
      else none := by
  obtain ⟨program, version, netId⟩ := key
  simp only [call, Call.announced?, Key.mk.injEq]
  grind

theorem announced_own_key : registration.call.announced? registration.key =
    some registration.transport.endpoint := if_pos rfl

theorem announced_other_key {key : Key} (other : key ≠ registration.key) :
    registration.call.announced? key = none := if_neg other

end Registration

namespace Group

def keys (group : Group) : List Key := group.registrations.map Registration.key

structure Distinct (group : Group) : Prop where
  versions : group.service.versions.Nodup
  networks : (group.transports.map Transport.netId).Nodup

/-- The groups differ in their program or in all their networks. -/
def Apart (left right : Group) : Prop :=
  left.service.program ≠ right.service.program ∨
    ∀ first ∈ left.transports, ∀ second ∈ right.transports, first.netId ≠ second.netId

theorem mem_keys {group : Group} {key : Key} : key ∈ group.keys ↔
    key.program = group.service.program ∧ key.version ∈ group.service.versions ∧
      ∃ transport ∈ group.transports, transport.netId = key.netId := by
  simp only [keys, registrations, List.map_flatMap, List.map_map, List.mem_flatMap, List.mem_map,
    Function.comp_apply, Registration.key]
  constructor
  · rintro ⟨version, planned, transport, member, rfl⟩
    exact ⟨rfl, planned, transport, member, rfl⟩
  · rintro ⟨program, planned, transport, member, network⟩
    refine ⟨key.version, planned, transport, member, ?_⟩
    rw [network, ← program]

theorem Distinct.nodup_keys {group : Group} (distinct : group.Distinct) : group.keys.Nodup := by
  simp only [keys, registrations, List.map_flatMap, List.map_map]
  refine List.nodup_flatMap.2 ⟨?_, ?_⟩
  · intro version _
    refine List.Nodup.of_map Key.netId ?_
    rw [List.map_map]
    exact distinct.networks
  · refine List.Pairwise.imp ?_ distinct.versions
    intro first second different key inFirst inSecond
    obtain ⟨_, _, rfl⟩ := List.mem_map.1 inFirst
    obtain ⟨_, _, same⟩ := List.mem_map.1 inSecond
    exact different (congrArg Key.version same).symm

theorem Apart.disjoint_keys {left right : Group} (apart : Apart left right) :
    left.keys.Disjoint right.keys := by
  intro key inLeft inRight
  obtain ⟨leftProgram, _, first, firstMember, firstNetwork⟩ := mem_keys.1 inLeft
  obtain ⟨rightProgram, _, second, secondMember, secondNetwork⟩ := mem_keys.1 inRight
  rcases apart with programs | networks
  · exact programs (leftProgram.symm.trans rightProgram)
  · exact networks first firstMember second secondMember (firstNetwork.trans secondNetwork.symm)

def endpoint? (group : Group) (key : Key) : Option Endpoint :=
  if key.program = group.service.program ∧ key.version ∈ group.service.versions then
    Transport.endpointOn? key.netId group.transports
  else none

theorem findSome_registrations (group : Group) (key : Key) :
    (group.registrations.findSome? fun registration => registration.call.announced? key) =
      group.endpoint? key := by
  have ofVersion : ∀ version,
      ((group.transports.map fun transport =>
        (⟨group.service.program, version, transport⟩ : Registration)).findSome?
          fun registration => registration.call.announced? key) =
        if key.program = group.service.program ∧ key.version = version then
          Transport.endpointOn? key.netId group.transports
        else none := by
    intro version
    simp only [List.findSome?_map, Function.comp_def, Registration.announced_call]
    split
    · rfl
    · simp
  rw [registrations, findSome_flatMap, endpoint?]
  simp only [ofVersion]
  induction group.service.versions with
  | nil => simp
  | cons version rest induction =>
      -- The endpoint depends on the version only through whether it is announced at all.
      rw [List.findSome?_cons, induction]
      cases Transport.endpointOn? key.netId group.transports with
      | none => simp
      | some endpoint => grind

end Group

namespace Plan

def keys (plan : Plan) : List Key := plan.registrations.map Registration.key

theorem nodup_keys_of_apart {plan : Plan} (distinct : ∀ group ∈ plan.groups, group.Distinct)
    (apart : plan.groups.Pairwise Group.Apart) : plan.keys.Nodup := by
  rw [keys, registrations, List.map_flatMap]
  refine List.nodup_flatMap.2 ⟨fun group member => (distinct group member).nodup_keys, ?_⟩
  exact apart.imp Group.Apart.disjoint_keys

theorem distinct_groups (mode : Mode) (paths : LocalTransports) :
    ∀ group ∈ (forMode mode paths).groups, group.Distinct := by
  have single : ∀ (path : Option String) (transport : String → Transport),
      ((path.map transport).toList.map Transport.netId).Nodup := by
    intro path transport
    cases path <;> simp
  have pair : ∀ port, ((udpPair port).map Transport.netId).Nodup ∧
      ((tcpPair port).map Transport.netId).Nodup := by
    intro port
    simp [udpPair, tcpPair, Transport.netId]
  intro group member
  cases mode with
  | unsetOnly => simp [forMode] at member
  | statdOnly =>
      simp only [forMode, List.mem_singleton] at member
      subst member
      exact ⟨by decide, by decide⟩
  | full =>
      refine ⟨?_, ?_⟩
      · revert group
        simp [forMode, fullGroups, Service.nfs, Service.mount]
      · revert group
        simp [forMode, fullGroups, single, pair]

theorem apart_groups (mode : Mode) (paths : LocalTransports) :
    (forMode mode paths).groups.Pairwise Group.Apart := by
  cases mode with
  | unsetOnly => exact List.Pairwise.nil
  | statdOnly => exact List.pairwise_singleton _ _
  | full =>
      -- Groups of one service differ in their networks, groups of two in their program.
      simp [forMode, fullGroups, Group.Apart, udpPair, tcpPair, Service.nfs, Service.mount,
        Transport.netId]

theorem nodup_keys (mode : Mode) (paths : LocalTransports) : (forMode mode paths).keys.Nodup :=
  nodup_keys_of_apart (distinct_groups mode paths) (apart_groups mode paths)

def withdraws (plan : Plan) (key : Key) : Bool :=
  plan.removals.any fun removal => removal.call.withdraws key

def endpoint? (plan : Plan) (key : Key) : Option Endpoint :=
  plan.groups.findSome? fun group => group.endpoint? key

theorem findSome_registrations (plan : Plan) (key : Key) :
    (plan.registrations.findSome? fun registration => registration.call.announced? key) =
      plan.endpoint? key := by
  rw [registrations, findSome_flatMap]
  simp only [Group.findSome_registrations]
  rfl

/-- A plan that has no key twice announces the endpoint of each of its registrations. -/
theorem endpoint_of_mem {plan : Plan} (distinct : plan.keys.Nodup) {registration : Registration}
    (member : registration ∈ plan.registrations) :
    plan.endpoint? registration.key = some registration.transport.endpoint := by
  obtain ⟨before, after, parts⟩ := List.append_of_mem member
  rw [keys, parts, List.map_append, List.map_cons] at distinct
  have others : ∀ earlier ∈ before, registration.key ≠ earlier.key := by
    intro earlier inBefore same
    have apart := (List.nodup_append.1 distinct).2.2 earlier.key (List.mem_map_of_mem inBefore)
    exact apart registration.key List.mem_cons_self same.symm
  have silent : before.findSome? (fun earlier => earlier.call.announced? registration.key) =
      none :=
    List.findSome?_eq_none_iff.2 fun earlier inBefore =>
      earlier.announced_other_key (others earlier inBefore)
  rw [← findSome_registrations, parts, List.findSome?_append, silent, Option.none_or,
    List.findSome?_cons, registration.announced_own_key]

def address? (udpPort tcpPort : UInt16) (ticlts ticotsord : Option String) :
    NetId → Option Endpoint
  | .udp => some (.inet udpPort)
  | .udp6 => some (.inet6 udpPort)
  | .tcp => some (.inet tcpPort)
  | .tcp6 => some (.inet6 tcpPort)
  | .ticotsord => ticotsord.map .socketPath
  | .ticlts => ticlts.map .socketPath

theorem endpointOn_pairs (udpPort tcpPort : UInt16) (netId : NetId) :
    Transport.endpointOn? netId (udpPair udpPort ++ tcpPair tcpPort) =
      address? udpPort tcpPort none none netId := by
  cases netId <;> rfl

theorem endpointOn_four (port : UInt16) (ticlts ticotsord : Option String) (netId : NetId) :
    [udpPair port, tcpPair port, (ticlts.map Transport.ticlts).toList,
      (ticotsord.map Transport.ticotsord).toList].findSome? (Transport.endpointOn? netId) =
      address? port port ticlts ticotsord netId := by
  cases ticlts <;> cases ticotsord <;> cases netId <;> rfl

def nfsAddress? (paths : LocalTransports) : NetId → Option Endpoint :=
  address? 2049 2049 paths.nfsdTiclts paths.nfsdTicotsord

def mountAddress? (paths : LocalTransports) : NetId → Option Endpoint :=
  address? 32767 32767 paths.mountdTiclts paths.mountdTicotsord

def statAddress? : NetId → Option Endpoint := address? 710 904 none none

theorem withdraws_forMode (mode : Mode) (paths : LocalTransports) (key : Key) :
    (forMode mode paths).withdraws key ↔
      key.program = Service.nfs.program ∧ (key.version = 3 ∨ key.version = 4) ∨
      key.program = Service.mount.program ∧
        (key.version = 1 ∨ key.version = 2 ∨ key.version = 3) ∨
      mode = .statdOnly ∧ key.program = Service.stat.program ∧ key.version = 1 := by
  cases mode <;>
    simp [withdraws, removals, forMode, managedWithdrawals, statWithdrawal, Withdrawal.removals,
      Removal.call, Call.withdraws, and_or_left, or_assoc]

theorem endpoint_full (paths : LocalTransports) (key : Key) :
    (forMode .full paths).endpoint? key =
      if key.program = Service.nfs.program ∧ key.version ∈ Service.nfs.versions then
        nfsAddress? paths key.netId
      else if key.program = Service.mount.program ∧ key.version ∈ Service.mount.versions then
        mountAddress? paths key.netId
      else none := by
  have nfs := endpointOn_four nfsPort paths.nfsdTiclts paths.nfsdTicotsord key.netId
  have mount := endpointOn_four mountPort paths.mountdTiclts paths.mountdTicotsord key.netId
  have programs : Service.nfs.program ≠ Service.mount.program := by decide
  simp only [List.findSome?_cons, List.findSome?_nil] at nfs mount
  simp only [endpoint?, forMode, fullGroups, Group.endpoint?, List.findSome?_cons,
    List.findSome?_nil]
  by_cases isNfs : key.program = Service.nfs.program ∧ key.version ∈ Service.nfs.versions
  · have notMount : ¬(key.program = Service.mount.program ∧ key.version ∈ Service.mount.versions) :=
      fun isMount => programs (isNfs.1.symm.trans isMount.1)
    simp only [if_pos isNfs, if_neg notMount]
    exact nfs
  · simp only [if_neg isNfs]
    by_cases isMount : key.program = Service.mount.program ∧ key.version ∈ Service.mount.versions
    · simp only [if_pos isMount]
      exact mount
    · simp only [if_neg isMount]

theorem endpoint_statdOnly (paths : LocalTransports) (key : Key) :
    (forMode .statdOnly paths).endpoint? key =
      if key.program = Service.stat.program ∧ key.version ∈ Service.stat.versions then
        statAddress? key.netId
      else none := by
  simp only [endpoint?, forMode, List.findSome?_singleton, Group.endpoint?, statGroup,
    endpointOn_pairs]
  rfl

section Services

variable (mode : Mode) (paths : LocalTransports) (netId : NetId) {version : Version}

theorem withdraws_nfs (version : Version) :
    (forMode mode paths).withdraws ⟨Service.nfs.program, version, netId⟩ =
      decide (version = 3 ∨ version = 4) := by
  have notMount : Service.nfs.program ≠ Service.mount.program := by decide
  have notStat : Service.nfs.program ≠ Service.stat.program := by decide
  rw [Bool.eq_iff_iff, withdraws_forMode, decide_eq_true_eq]
  simp only [notMount, notStat, true_and, false_and, and_false, or_false]

theorem withdraws_mount (version : Version) :
    (forMode mode paths).withdraws ⟨Service.mount.program, version, netId⟩ =
      decide (version = 1 ∨ version = 2 ∨ version = 3) := by
  have notNfs : Service.mount.program ≠ Service.nfs.program := by decide
  have notStat : Service.mount.program ≠ Service.stat.program := by decide
  rw [Bool.eq_iff_iff, withdraws_forMode, decide_eq_true_eq]
  simp only [notNfs, notStat, true_and, false_and, and_false, false_or, or_false]

theorem withdraws_stat (version : Version) :
    (forMode mode paths).withdraws ⟨Service.stat.program, version, netId⟩ =
      decide (mode = .statdOnly ∧ version = 1) := by
  have notNfs : Service.stat.program ≠ Service.nfs.program := by decide
  have notMount : Service.stat.program ≠ Service.mount.program := by decide
  rw [Bool.eq_iff_iff, withdraws_forMode, decide_eq_true_eq]
  simp only [notNfs, notMount, true_and, false_and, false_or]

theorem endpoint_nfs (announced : version ∈ Service.nfs.versions) :
    (forMode mode paths).endpoint? ⟨Service.nfs.program, version, netId⟩ =
      if mode = .full then nfsAddress? paths netId else none := by
  have notStat : Service.nfs.program ≠ Service.stat.program := by decide
  cases mode with
  | full => simp [endpoint_full, announced]
  | unsetOnly => rfl
  | statdOnly => simp [endpoint_statdOnly, notStat]

theorem endpoint_mount (announced : version ∈ Service.mount.versions) :
    (forMode mode paths).endpoint? ⟨Service.mount.program, version, netId⟩ =
      if mode = .full then mountAddress? paths netId else none := by
  have notNfs : Service.mount.program ≠ Service.nfs.program := by decide
  have notStat : Service.mount.program ≠ Service.stat.program := by decide
  cases mode with
  | full => simp [endpoint_full, notNfs, announced]
  | unsetOnly => rfl
  | statdOnly => simp [endpoint_statdOnly, notStat]

theorem endpoint_stat :
    (forMode mode paths).endpoint? ⟨Service.stat.program, 1, netId⟩ =
      if mode = .statdOnly then statAddress? netId else none := by
  cases mode with
  | full => simp [endpoint_full, Service.nfs, Service.mount, Service.stat]
  | unsetOnly => rfl
  | statdOnly => simp [endpoint_statdOnly, Service.stat]

theorem endpoint_of_unannounced {program : Program}
    (nfs : program = Service.nfs.program → version ∉ Service.nfs.versions)
    (mount : program = Service.mount.program → version ∉ Service.mount.versions)
    (stat : program = Service.stat.program → version ∉ Service.stat.versions) :
    (forMode mode paths).endpoint? ⟨program, version, netId⟩ = none := by
  cases mode with
  | full =>
      rw [endpoint_full, if_neg fun planned => nfs planned.1 planned.2,
        if_neg fun planned => mount planned.1 planned.2]
  | unsetOnly => rfl
  | statdOnly => rw [endpoint_statdOnly, if_neg fun planned => stat planned.1 planned.2]

end Services

end Plan

end RpcRegistry
