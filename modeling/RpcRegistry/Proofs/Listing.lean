import RpcRegistry.Listing
import RpcRegistry.Proofs.Announcement.Tables
import RpcRegistry.Proofs.Directory.History
import RpcRegistry.Proofs.UniversalAddress.Classification

/-!
The listing of a directory that one run filled. Its rows are those of the planned registrations,
each once, put in the order of listings, and the port of a row is the one that was planned.
-/

namespace RpcRegistry

def Registration.row (owner : String) (registration : Registration) : Mapping :=
  ⟨registration.program, registration.version, registration.transport.netId,
    registration.transport.endpoint, owner⟩

theorem Registration.key_row (owner : String) (registration : Registration) :
    (registration.row owner).key = registration.key := rfl

/-- A plan that has no key twice announces what it registers and nothing else. -/
theorem Plan.endpoint_eq_some_iff {plan : Plan} (distinct : plan.keys.Nodup) {key : Key}
    {endpoint : Endpoint} :
    plan.endpoint? key = some endpoint ↔
      ∃ registration ∈ plan.registrations, registration.key = key ∧
        registration.transport.endpoint = endpoint := by
  constructor
  · intro announced
    rw [← findSome_registrations] at announced
    obtain ⟨registration, member, found⟩ := List.exists_of_findSome?_eq_some announced
    by_cases same : key = registration.key
    · rw [same, registration.announced_own_key] at found
      exact ⟨registration, member, same.symm, Option.some.inj found⟩
    · rw [registration.announced_other_key same] at found
      cases found
  · rintro ⟨registration, member, rfl, rfl⟩
    exact endpoint_of_mem distinct member

theorem Plan.nodup_rows {plan : Plan} (distinct : plan.keys.Nodup) (owner : String) :
    (plan.registrations.map (Registration.row owner)).Nodup := by
  apply List.Nodup.of_map Mapping.key
  rw [List.map_map]
  exact distinct

theorem Group.transport_of_registration {group : Group} {registration : Registration}
    (member : registration ∈ group.registrations) : registration.transport ∈ group.transports := by
  obtain ⟨version, _, inVersion⟩ := List.mem_flatMap.1 member
  obtain ⟨transport, bound, rfl⟩ := List.mem_map.1 inVersion
  exact bound

/-- A path that is announced is one that is set. -/
theorem Plan.path_configured {mode : Mode} {paths : LocalTransports} {registration : Registration}
    {path : String} (planned : registration ∈ (forMode mode paths).registrations)
    (isLocal : registration.transport.path? = some path) : path ∈ paths.configured := by
  obtain ⟨group, among, member⟩ := List.mem_flatMap.1 planned
  replace member := Group.transport_of_registration member
  have shown : ∀ {given : Option String} {transport : String → Transport},
      (∀ path, (transport path).path? = some path) →
      registration.transport ∈ (given.map transport).toList → path ∈ given.toList := by
    intro given transport shows member
    obtain ⟨other, isGiven, same⟩ := Option.map_eq_some_iff.1 (Option.mem_toList.1 member)
    rw [← same, shows] at isLocal
    rw [isGiven, Option.toList_some, List.mem_singleton, Option.some.inj isLocal]
  have inet : ∀ {transports : List Transport}, (∀ transport ∈ transports, transport.path? = none) →
      registration.transport ∉ transports := by
    intro transports silent member
    rw [silent _ member] at isLocal
    cases isLocal
  cases mode with
  | full =>
      simp only [forMode, fullGroups, List.mem_cons, List.not_mem_nil, or_false] at among
      simp only [LocalTransports.configured, List.mem_append]
      rcases among with rfl | rfl | rfl | rfl | rfl | rfl | rfl | rfl
      · exact absurd member (inet (by decide))
      · exact absurd member (inet (by decide))
      · exact .inl (.inl (.inl (shown (fun _ => rfl) member)))
      · exact .inl (.inl (.inr (shown (fun _ => rfl) member)))
      · exact absurd member (inet (by decide))
      · exact absurd member (inet (by decide))
      · exact .inl (.inr (shown (fun _ => rfl) member))
      · exact .inr (shown (fun _ => rfl) member)
  | unsetOnly => cases among
  | statdOnly =>
      obtain rfl := List.mem_singleton.1 among
      exact absurd member (inet (by decide))
namespace LocalDirectory

theorem mem_mappings_iff (directory : LocalDirectory) (mapping : Mapping) :
    mapping ∈ directory.mappings ↔
      mapping.owner = directory.owner ∧
        directory.table.get? mapping.key = some mapping.endpoint := by
  rw [← exists_mapping_iff]
  have owned : ∀ other ∈ directory.mappings, other.owner = directory.owner := by
    intro other member
    obtain ⟨entry, _, rfl⟩ := List.mem_map.1 member
    rfl
  constructor
  · intro member
    exact ⟨owned mapping member, mapping, member, rfl, rfl⟩
  · rintro ⟨owner, other, member, key, endpoint⟩
    have same : other = mapping := by
      have otherOwner := (owned other member).trans owner.symm
      cases other
      cases mapping
      simp_all [Mapping.key]
    exact same ▸ member

theorem nodup_mappings (directory : LocalDirectory) : directory.mappings.Nodup := by
  refine directory.mappings_ordered.imp ?_
  rintro left right precedes rfl
  simp [Mapping.Precedes] at precedes

/-- A run on a directory of its own lists each planned registration once. -/
theorem perm_mappings_fresh (mode : Mode) (paths : LocalTransports) (owner : String) :
    ((ofOwner owner).afterRun paths mode).mappings.Perm
      ((Plan.forMode mode paths).registrations.map (Registration.row owner)) := by
  have distinct := Plan.nodup_keys mode paths
  -- Neither list repeats a row, so it is enough that they have the same ones.
  apply (List.perm_ext_iff_of_nodup (nodup_mappings _) (Plan.nodup_rows distinct owner)).2
  intro mapping
  have held : ((ofOwner owner).afterRun paths mode).table.get? mapping.key =
      (Plan.forMode mode paths).endpoint? mapping.key := by
    rw [get_afterRun]
    simp [ofOwner]
  rw [mem_mappings_iff, held, owner_afterRun, Plan.endpoint_eq_some_iff distinct, List.mem_map]
  constructor
  · rintro ⟨isOwner, registration, member, key, endpoint⟩
    refine ⟨registration, member, ?_⟩
    cases mapping
    simp_all [Registration.row, Registration.key, Mapping.key, ofOwner]
  · rintro ⟨registration, member, rfl⟩
    exact ⟨rfl, registration, member, registration.key_row owner, rfl⟩

end LocalDirectory

namespace Listing

open Text

/-- The port column shows the port of the endpoint, and a dash where it has none. -/
theorem portColumn_eq (mapping : Mapping) :
    portColumn mapping =
      match mapping.endpoint.port? with
      | some port => Numeral.decimal port.toNat
      | none => ['-'] := by
  obtain ⟨program, version, netId, endpoint, owner⟩ := mapping
  cases endpoint with
  | socketPath path => rfl
  | inet port | inet6 port =>
      simp only [portColumn, Mapping.universalAddress, UniversalAddress.parse_inet,
        UniversalAddress.parse_inet6, Endpoint.port?]

end Listing

end RpcRegistry
