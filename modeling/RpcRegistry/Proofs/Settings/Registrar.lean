import RpcRegistry.Proofs.Catalogue
import RpcRegistry.Proofs.Settings.Reading
import RpcRegistry.Settings.Basic

/-!
The settings of the registrar module, from the value stored for it to the groups that are announced.
A value is read exactly if it is a record of the two members, as an object or as an array, and what
it gives under local transports is one of the four paths. No member is passed over: each path that
is given becomes the one transport of its own group, and of no other.
-/

namespace RpcRegistry

open Value

inductive LocalGroup where
  | nfsTiclts
  | nfsTicotsord
  | mountTiclts
  | mountTicotsord
  deriving DecidableEq, Repr

namespace LocalGroup

def key : LocalGroup → String
  | .nfsTiclts => "nfsd_ticlts"
  | .nfsTicotsord => "nfsd_ticotsord"
  | .mountTiclts => "mountd_ticlts"
  | .mountTicotsord => "mountd_ticotsord"

def label : LocalGroup → String
  | .nfsTiclts => "NFS/TICLTS"
  | .nfsTicotsord => "NFS/TICOTSORD"
  | .mountTiclts => "MOUNT/TICLTS"
  | .mountTicotsord => "MOUNT/TICOTSORD"

def service : LocalGroup → Service
  | .nfsTiclts | .nfsTicotsord => .nfs
  | .mountTiclts | .mountTicotsord => .mount

def transport : LocalGroup → String → Transport
  | .nfsTiclts | .mountTiclts => .ticlts
  | .nfsTicotsord | .mountTicotsord => .ticotsord

def group (place : LocalGroup) (path : Option String) : Group :=
  ⟨place.label, place.service, (path.map place.transport).toList⟩

def path? (paths : LocalTransports) : LocalGroup → Option String
  | .nfsTiclts => paths.nfsdTiclts
  | .nfsTicotsord => paths.nfsdTicotsord
  | .mountTiclts => paths.mountdTiclts
  | .mountTicotsord => paths.mountdTicotsord

theorem forall_fieldNames {p : String → Prop} :
    (∀ key ∈ LocalTransports.fieldNames, p key) ↔ ∀ place : LocalGroup, p place.key := by
  simp only [LocalTransports.fieldNames, List.forall_mem_cons]
  constructor
  · rintro ⟨nfsTiclts, nfsTicotsord, mountTiclts, mountTicotsord, _⟩ place
    cases place <;> assumption
  · intro each
    exact ⟨each .nfsTiclts, each .nfsTicotsord, each .mountTiclts, each .mountTicotsord,
      List.forall_mem_nil p⟩

theorem path_transport (place : LocalGroup) (path : String) :
    (place.transport path).path? = some path := by
  cases place <;> rfl

/-- Each label stands for one group of the plan. -/
theorem groups_of_label (place : LocalGroup) (paths : LocalTransports) :
    (Plan.forMode .full paths).groups.filter (·.label = place.label) =
      [place.group (place.path? paths)] := by
  cases place <;> rfl

theorem inet_or_local {paths : LocalTransports} {group : Group}
    (planned : group ∈ (Plan.forMode .full paths).groups) :
    (∀ transport ∈ group.transports, transport.path? = none) ∨
      ∃ place : LocalGroup, group = place.group (place.path? paths) := by
  simp only [Plan.forMode, Plan.fullGroups, List.mem_cons, List.not_mem_nil, or_false] at planned
  rcases planned with rfl | rfl | rfl | rfl | rfl | rfl | rfl | rfl
  · exact Or.inl (by decide)
  · exact Or.inl (by decide)
  · exact Or.inr ⟨.nfsTiclts, rfl⟩
  · exact Or.inr ⟨.nfsTicotsord, rfl⟩
  · exact Or.inl (by decide)
  · exact Or.inl (by decide)
  · exact Or.inr ⟨.mountTiclts, rfl⟩
  · exact Or.inr ⟨.mountTicotsord, rfl⟩

/-- A path is announced by the group it is given for. -/
theorem group_of_path {paths : LocalTransports} {group : Group} {transport : Transport}
    {path : String} (planned : group ∈ (Plan.forMode .full paths).groups)
    (member : transport ∈ group.transports) (isLocal : transport.path? = some path) :
    ∃ place : LocalGroup, place.path? paths = some path ∧ group = place.group (some path) := by
  rcases inet_or_local planned with inet | ⟨place, rfl⟩
  · rw [inet transport member] at isLocal
    cases isLocal
  · obtain ⟨given, isGiven, rfl⟩ := Option.map_eq_some_iff.1 (Option.mem_toList.1 member)
    rw [place.path_transport] at isLocal
    rw [← isLocal, isGiven]
    exact ⟨place, isGiven, rfl⟩

end LocalGroup

namespace LocalTransports

variable {value : Value} {members : List (String × Value)} {paths : LocalTransports}

/-- A record of paths, each of them a text or null. -/
def Shape (value : Value) : Prop :=
  ∃ members, RecordOf fieldNames value members ∧
    ∀ key ∈ fieldNames, ∀ given ∈ Entries.get? key members,
      given = .null ∨ ∃ path, given = .text path

theorem ofValue_eq_some_iff : ofValue? value = some paths ↔
    ∃ members, RecordOf fieldNames value members ∧ ∀ place : LocalGroup,
      Entries.read? place.key (some none) Value.optionalString? members =
        some (place.path? paths) := by
  simp only [← record_eq_some_iff]
  constructor
  · intro isRead
    obtain ⟨members, isRecord, isRead⟩ := Option.bind_eq_some_iff.1 isRead
    obtain ⟨nfsTiclts, readNfsTiclts, isRead⟩ := Option.bind_eq_some_iff.1 isRead
    obtain ⟨nfsTicotsord, readNfsTicotsord, isRead⟩ := Option.bind_eq_some_iff.1 isRead
    obtain ⟨mountTiclts, readMountTiclts, isRead⟩ := Option.bind_eq_some_iff.1 isRead
    obtain ⟨mountTicotsord, readMountTicotsord, isRead⟩ := Option.bind_eq_some_iff.1 isRead
    obtain rfl := Option.some.inj isRead
    refine ⟨members, isRecord, ?_⟩
    intro place
    cases place <;> assumption
  · rintro ⟨members, isRecord, each⟩
    refine Option.bind_eq_some_iff.2 ⟨members, isRecord, ?_⟩
    refine Option.bind_eq_some_iff.2 ⟨_, each .nfsTiclts, ?_⟩
    refine Option.bind_eq_some_iff.2 ⟨_, each .nfsTicotsord, ?_⟩
    refine Option.bind_eq_some_iff.2 ⟨_, each .mountTiclts, ?_⟩
    exact Option.bind_eq_some_iff.2 ⟨_, each .mountTicotsord, rfl⟩

def ofMembers (members : List (String × Value)) : LocalTransports :=
  { nfsdTiclts := Entries.text? LocalGroup.nfsTiclts.key members
    nfsdTicotsord := Entries.text? LocalGroup.nfsTicotsord.key members
    mountdTiclts := Entries.text? LocalGroup.mountTiclts.key members
    mountdTicotsord := Entries.text? LocalGroup.mountTicotsord.key members }

theorem path_ofMembers (place : LocalGroup) (members : List (String × Value)) :
    place.path? (ofMembers members) = Entries.text? place.key members := by
  cases place <;> rfl

theorem exists_iff_shape : (∃ paths, ofValue? value = some paths) ↔ Shape value := by
  constructor
  · rintro ⟨paths, isRead⟩
    obtain ⟨members, isRecord, each⟩ := ofValue_eq_some_iff.1 isRead
    refine ⟨members, isRecord, LocalGroup.forall_fieldNames.2 ?_⟩
    intro place
    exact (Entries.read_path_iff.1 (each place)).1
  · rintro ⟨members, isRecord, readable⟩
    refine ⟨ofMembers members, ofValue_eq_some_iff.2 ⟨members, isRecord, ?_⟩⟩
    intro place
    apply Entries.read_path_iff.2
    constructor
    · exact LocalGroup.forall_fieldNames.1 readable place
    · exact (path_ofMembers place members).symm

/-- The members that settings give for the paths: those of the record that is there, or none. -/
inductive GivenBy (members : List (String × Value)) : List (String × Value) → Prop where
  | absent (missing : Entries.get? "local_transports" members = none) : GivenBy members []
  | record {value : Value} {paths : List (String × Value)}
      (given : Entries.get? "local_transports" members = some value)
      (isRecord : RecordOf fieldNames value paths) : GivenBy members paths

theorem exists_given (isRead : Entries.read? "local_transports" (some {}) ofValue? members =
    some paths) : ∃ given, GivenBy members given ∧
      ∀ place : LocalGroup, place.path? paths = Entries.text? place.key given := by
  unfold Entries.read? at isRead
  split at isRead
  · rename_i value found
    obtain ⟨given, isRecord, each⟩ := ofValue_eq_some_iff.1 isRead
    refine ⟨given, .record found isRecord, ?_⟩
    intro place
    exact (Entries.read_path_iff.1 (each place)).2.symm
  · rename_i missing
    obtain rfl := Option.some.inj isRead
    refine ⟨[], .absent missing, ?_⟩
    intro place
    cases place <;> rfl

end LocalTransports

namespace RegistrarSettings

variable {value : Value} {registrar : RegistrarSettings}

def memberNames : List String := ["owner", "local_transports"]

/-- A record of an owner, which is a text, and of a record of paths. -/
def Shape (value : Value) : Prop :=
  ∃ members, RecordOf memberNames value members ∧
    (∀ given ∈ Entries.get? "owner" members, ∃ owner, given = .text owner) ∧
    ∀ given ∈ Entries.get? "local_transports" members, LocalTransports.Shape given

theorem ofValue_eq_some_iff : ofValue? value = some registrar ↔
    ∃ members, RecordOf memberNames value members ∧
      Entries.read? "owner" (some "superuser") Value.string? members = some registrar.owner ∧
      Entries.read? "local_transports" (some {}) LocalTransports.ofValue? members =
        some registrar.transports := by
  simp only [← record_eq_some_iff]
  constructor
  · intro isRead
    obtain ⟨members, isRecord, isRead⟩ := Option.bind_eq_some_iff.1 isRead
    obtain ⟨owner, readOwner, isRead⟩ := Option.bind_eq_some_iff.1 isRead
    obtain ⟨transports, readTransports, isRead⟩ := Option.bind_eq_some_iff.1 isRead
    obtain rfl := Option.some.inj isRead
    exact ⟨members, isRecord, readOwner, readTransports⟩
  · rintro ⟨members, isRecord, owner, transports⟩
    refine Option.bind_eq_some_iff.2 ⟨members, isRecord, ?_⟩
    refine Option.bind_eq_some_iff.2 ⟨_, owner, ?_⟩
    exact Option.bind_eq_some_iff.2 ⟨_, transports, rfl⟩

theorem exists_iff_shape : (∃ registrar, ofValue? value = some registrar) ↔ Shape value := by
  constructor
  · rintro ⟨registrar, isRead⟩
    obtain ⟨members, isRecord, owner, transports⟩ := ofValue_eq_some_iff.1 isRead
    refine ⟨members, isRecord, (Entries.read_text_iff.1 owner).1, ?_⟩
    intro given found
    rw [Entries.read_of_get found] at transports
    exact LocalTransports.exists_iff_shape.1 ⟨_, transports⟩
  · rintro ⟨members, isRecord, ownerReadable, pathsReadable⟩
    obtain ⟨transports, readTransports⟩ : ∃ transports,
        Entries.read? "local_transports" (some {}) LocalTransports.ofValue? members =
          some transports := by
      unfold Entries.read?
      split
      · rename_i given found
        exact LocalTransports.exists_iff_shape.2 (pathsReadable given found)
      · exact ⟨{}, rfl⟩
    have readOwner : Entries.read? "owner" (some "superuser") Value.string? members =
        some ((Entries.text? "owner" members).getD "superuser") :=
      Entries.read_text_iff.2 ⟨ownerReadable, rfl⟩
    exact ⟨⟨_, transports⟩, ofValue_eq_some_iff.2 ⟨members, isRecord, readOwner, readTransports⟩⟩

end RegistrarSettings

namespace Settings

variable {settings : Settings} {name : String} {value : Value}

theorem registrar_eq_ok_iff (stored : settings.modules.get? name = some value)
    {registrar : RegistrarSettings} :
    settings.registrar name = .ok registrar ↔
      RegistrarSettings.ofValue? value = some registrar := by
  simp only [Settings.registrar, stored]
  cases RegistrarSettings.ofValue? value <;> simp

theorem registrar_refused (stored : settings.modules.get? name = some value)
    (misshapen : ¬ RegistrarSettings.Shape value) : settings.registrar name = .error ⟨name⟩ := by
  have unread : RegistrarSettings.ofValue? value = none := by
    apply Option.eq_none_iff_forall_ne_some.2
    intro registrar isRead
    exact misshapen (RegistrarSettings.exists_iff_shape.1 ⟨registrar, isRead⟩)
  simp only [Settings.registrar, stored, unread]

end Settings

/-- The entry of the registrar module is read just if it is a record of an owner and of paths, with
no other member on either level, and is refused by name otherwise. What is read has the owner it
gives, and each path that it gives is announced in full mode by the one transport of its own group;
a group whose path is not given has none, and no other group has a path. -/
theorem Settings.registrar_of_entry {settings : Settings} {value : Value}
    (stored : settings.modules.get? RegistrarSettings.moduleName = some value) :
    let reading := settings.registrar RegistrarSettings.moduleName
    ((∃ registrar, reading = .ok registrar) ↔ RegistrarSettings.Shape value) ∧
    (¬ RegistrarSettings.Shape value → reading = .error ⟨RegistrarSettings.moduleName⟩) ∧
    ∀ registrar, reading = .ok registrar → ∃ members paths,
      RecordOf RegistrarSettings.memberNames value members ∧
      LocalTransports.GivenBy members paths ∧
      registrar.owner = (Entries.text? "owner" members).getD "superuser" ∧
      let plan := Plan.forMode .full registrar.transports
      (∀ place : LocalGroup, plan.groups.filter (·.label = place.label) =
        [place.group (Entries.text? place.key paths)]) ∧
      ∀ group ∈ plan.groups, ∀ transport ∈ group.transports, ∀ path,
        transport.path? = some path → ∃ place : LocalGroup,
          Entries.text? place.key paths = some path ∧ group = place.group (some path) := by
  intro reading
  have isReading : ∀ registrar, reading = .ok registrar ↔
      RegistrarSettings.ofValue? value = some registrar :=
    fun _ => registrar_eq_ok_iff stored
  constructor
  · simp only [isReading]
    exact RegistrarSettings.exists_iff_shape
  constructor
  · exact registrar_refused stored
  intro registrar isRead
  obtain ⟨members, isRecord, readOwner, readTransports⟩ :=
    RegistrarSettings.ofValue_eq_some_iff.1 ((isReading registrar).1 isRead)
  obtain ⟨paths, given, same⟩ := LocalTransports.exists_given readTransports
  have owner := (Entries.read_text_iff.1 readOwner).2.symm
  refine ⟨members, paths, isRecord, given, owner, ?_, ?_⟩
  · intro place
    rw [place.groups_of_label, same place]
  · intro group planned transport member path isLocal
    obtain ⟨place, isGiven, isGroup⟩ := LocalGroup.group_of_path planned member isLocal
    exact ⟨place, (same place).symm.trans isGiven, isGroup⟩

/-- An object with an array in it that gives the second path only. -/
def Settings.secondPathOnly : Settings :=
  ⟨"", .empty, none, .ofList [(RegistrarSettings.moduleName,
    .dict [("local_transports", .list [.null, .text "/run/nfsd"])])]⟩

theorem Settings.registrar_of_second_path :
    let value := Value.dict [("local_transports", .list [.null, .text "/run/nfsd"])]
    secondPathOnly.modules.get? RegistrarSettings.moduleName = some value ∧
    RegistrarSettings.Shape value ∧
    ∃ registrar, secondPathOnly.registrar RegistrarSettings.moduleName = .ok registrar ∧
      registrar.owner = "superuser" ∧
      (Plan.forMode .full registrar.transports).groups.filter (·.label = "NFS/TICOTSORD") =
        [⟨"NFS/TICOTSORD", .nfs, [.ticotsord "/run/nfsd"]⟩] := by
  intro value
  have stored : secondPathOnly.modules.get? RegistrarSettings.moduleName = some value := by rfl
  have isRead : secondPathOnly.registrar RegistrarSettings.moduleName =
      .ok ⟨"superuser", { nfsdTicotsord := some "/run/nfsd" }⟩ := by rfl
  obtain ⟨readable, _, spelled⟩ := registrar_of_entry stored
  obtain ⟨members, paths, isRecord, given, owner, ofLabel, _⟩ := spelled _ isRead
  subst value
  cases isRecord
  cases given with
  | absent missing => cases missing
  | record found isRecord =>
      cases found
      cases isRecord
      exact ⟨stored, readable.1 ⟨_, isRead⟩, _, isRead, owner, ofLabel .nfsTicotsord⟩

end RpcRegistry
