import RpcRegistry.Proofs.Value.Readers
import RpcRegistry.Proofs.Value.Stored
import RpcRegistry.Settings.Layers

/-!
What it takes for merged layers to be settings, member by member: no key that is not known, no
number that cannot be stored, and a reading of each of the four members.
-/

namespace RpcRegistry.Settings

open Value

def memberNames : List String := ["server", "logging", "modules_dir", "modules"]

def trimEntry (entry : String × Value) : String × Value :=
  if entry.1 = "server" then (entry.1, trimServer entry.2) else entry

structure ReadFrom (entries : List (String × Value)) (settings : Settings) : Prop where
  known : ∀ entry ∈ entries, entry.1 ∈ memberNames
  storable : ∀ entry ∈ entries, (stored? (trimEntry entry).2).isSome
  homeDir : Entries.read? "server" none (fun server => homeDirOf? (trimServer server)) entries =
    some settings.homeDir
  logging : Entries.read? "logging" (some standardLogging) (dictOf? Section.ofValue?) entries =
    some settings.logging
  modulesDir : Entries.read? "modules_dir" (some none) Value.optionalString? entries =
    some settings.modulesDir
  modules : Entries.read? "modules" (some .empty) (dictOf? Value.stored?) entries =
    some settings.modules

section

variable {α : Type} {read : Value → Option α} {entries : List (String × Value)} {dict : Dict α}
  {value : Value} {key : String} {settings : Settings}

theorem fst_trimEntry (entry : String × Value) : (trimEntry entry).1 = entry.1 := by
  unfold trimEntry
  split <;> rfl

theorem get_trimmed : Entries.get? key (entries.map trimEntry) =
    (Entries.get? key entries).map fun value => (trimEntry (key, value)).2 := by
  rw [← Entries.get_map fun key value => (trimEntry (key, value)).2]
  refine congrArg (Entries.get? key) (List.map_congr_left fun entry _ => ?_)
  exact Prod.ext (fst_trimEntry entry) rfl

theorem ofValue_dict : ofValue? (.dict entries) = some settings ↔
    (∀ entry ∈ entries, entry.1 ∈ memberNames) ∧
      Entries.read? "server" none homeDirOf? entries = some settings.homeDir ∧
      Entries.read? "logging" (some standardLogging) (dictOf? Section.ofValue?) entries =
        some settings.logging ∧
      Entries.read? "modules_dir" (some none) Value.optionalString? entries =
        some settings.modulesDir ∧
      Entries.read? "modules" (some .empty) (dictOf? Value.stored?) entries =
        some settings.modules := by
  constructor
  · intro opened
    obtain ⟨members, isRecord, isRead⟩ := Option.bind_eq_some_iff.1 opened
    obtain ⟨known, rfl⟩ := record_dict.1 isRecord
    obtain ⟨homeDir, readHomeDir, isRead⟩ := Option.bind_eq_some_iff.1 isRead
    obtain ⟨logging, readLogging, isRead⟩ := Option.bind_eq_some_iff.1 isRead
    obtain ⟨modulesDir, readModulesDir, isRead⟩ := Option.bind_eq_some_iff.1 isRead
    obtain ⟨modules, readModules, isRead⟩ := Option.bind_eq_some_iff.1 isRead
    obtain rfl := Option.some.inj isRead
    exact ⟨known, readHomeDir, readLogging, readModulesDir, readModules⟩
  · rintro ⟨known, homeDir, logging, modulesDir, modules⟩
    refine Option.bind_eq_some_iff.2 ⟨entries, record_dict.2 ⟨known, rfl⟩, ?_⟩
    refine Option.bind_eq_some_iff.2 ⟨_, homeDir, ?_⟩
    refine Option.bind_eq_some_iff.2 ⟨_, logging, ?_⟩
    refine Option.bind_eq_some_iff.2 ⟨_, modulesDir, ?_⟩
    exact Option.bind_eq_some_iff.2 ⟨_, modules, rfl⟩

theorem homeDirOf_dict {homeDir : String} : homeDirOf? (.dict entries) = some homeDir ↔
    (∀ entry ∈ entries, entry.1 ∈ serverNames) ∧
      Entries.read? "home_dir" none Value.string? entries = some homeDir := by
  constructor
  · intro opened
    obtain ⟨members, isRecord, isRead⟩ := Option.bind_eq_some_iff.1 opened
    obtain ⟨known, rfl⟩ := record_dict.1 isRecord
    exact ⟨known, isRead⟩
  · rintro ⟨known, isRead⟩
    exact Option.bind_eq_some_iff.2 ⟨entries, record_dict.2 ⟨known, rfl⟩, isRead⟩

theorem read_trimmed (notServer : key ≠ "server") (absent : Option α) :
    Entries.read? key absent read (entries.map trimEntry) =
      Entries.read? key absent read entries := by
  unfold Entries.read?
  rw [get_trimmed]
  cases Entries.get? key entries with
  | none => rfl
  | some value => simp [trimEntry, notServer]

theorem read_server_trimmed : Entries.read? "server" none homeDirOf? (entries.map trimEntry) =
    Entries.read? "server" none (fun server => homeDirOf? (trimServer server)) entries := by
  unfold Entries.read?
  rw [get_trimmed]
  cases Entries.get? "server" entries <;> rfl

theorem ofLayers_dict : ofLayers? (.dict entries) = some settings ↔ ReadFrom entries settings := by
  have opened : ofLayers? (.dict entries) =
      if (stored? (.dict (entries.map trimEntry))).isSome then
        ofValue? (.dict (entries.map trimEntry)) else none := rfl
  have known : (∀ entry ∈ entries.map trimEntry, entry.1 ∈ memberNames) ↔
      ∀ entry ∈ entries, entry.1 ∈ memberNames := by
    simp only [List.forall_mem_map, fst_trimEntry]
  rw [opened, Option.ite_none_right_eq_some, isSome_stored_dict, ofValue_dict, known,
    read_server_trimmed, read_trimmed (by decide), read_trimmed (by decide),
    read_trimmed (by decide), List.forall_mem_map]
  constructor
  · rintro ⟨storable, known, homeDir, logging, modulesDir, modules⟩
    exact ⟨known, storable, homeDir, logging, modulesDir, modules⟩
  · rintro ⟨known, storable, homeDir, logging, modulesDir, modules⟩
    exact ⟨storable, known, homeDir, logging, modulesDir, modules⟩

theorem exists_of_ofLayers (isRead : ofLayers? value = some settings) :
    ∃ entries, value = .dict entries ∧ ReadFrom entries settings := by
  cases value with
  | dict entries => exact ⟨entries, rfl, ofLayers_dict.1 isRead⟩
  | _ => cases isRead

theorem isDict_of_dictOf (isRead : dictOf? read value = some dict) : value.isDict = true := by
  cases value <;> first | rfl | cases isRead

/-- A dictionary is read value by value. -/
theorem dictOf_dict (sorted : Entries.Sorted entries) :
    dictOf? read (.dict entries) = some dict ↔
      ∀ key, (Entries.get? key entries).map read = (dict.get? key).map some := by
  have ofBuilt : ∀ {built : List (String × α)}, readEntries? read entries = some built → ∀ key,
      (Entries.get? key entries).map read = ((Dict.ofList built).get? key).map some := by
    intro built done key
    have builtSorted := sorted.of_keys (Entries.keys_of_mapM done)
    rw [Entries.get_of_mapM done]
    exact congrArg _ (Entries.get_ofList builtSorted.nodup_keys).symm
  rw [dictOf?, Option.map_eq_some_iff]
  constructor
  · rintro ⟨built, done, rfl⟩
    exact ofBuilt done
  · intro same
    have each : ∀ entry ∈ entries, (read entry.2).isSome := by
      intro entry member
      obtain ⟨found, _, isRead⟩ := exists_read_of_given (same entry.1)
        (sorted.get_eq_some_iff.2 member)
      exact Option.isSome_of_eq_some isRead
    obtain ⟨built, done⟩ := Entries.exists_of_mapM each
    refine ⟨built, done, Dict.ext_get fun key => ?_⟩
    exact Option.map_injective (Option.some_injective _) ((ofBuilt done key).symm.trans (same key))

theorem ReadFrom.stored_entry (read : ReadFrom entries settings) (ordered : Ordered (.dict entries))
    {name : String} (bound : settings.modules.get? name = some value) :
    value.stored? = some value := by
  have read := read.modules
  unfold Entries.read? at read
  split at read
  · rename_i bag bagBound
    obtain ⟨inBag, rfl⟩ := eq_dict_of_isDict (isDict_of_dictOf read)
    obtain ⟨inner, _, isStored⟩ := exists_given_of_read
      ((dictOf_dict (ordered.get bagBound).sorted_entries).1 read name) bound
    exact stored_stored inner value isStored
  · rw [← Option.some.inj read] at bound
    cases bound

/-- What the layers hold in the entry of a module is stored in the entry that is read. -/
theorem ReadFrom.module_entry (read : ReadFrom entries settings) (ordered : Ordered (.dict entries))
    {name : String} {keys : List String}
    (found : (Value.dict entries).at? ("modules" :: name :: keys) = some value) :
    ∃ entry stored, settings.modules.get? name = some entry ∧ value.stored? = some stored ∧
      entry.at? keys = some stored := by
  obtain ⟨bag, bagBound, found⟩ := Option.bind_eq_some_iff.1 found
  have readBag : dictOf? Value.stored? bag = some settings.modules := by
    have read := read.modules
    rwa [Entries.read?, bagBound] at read
  obtain ⟨inBag, rfl⟩ := eq_dict_of_isDict (isDict_of_dictOf readBag)
  have bagOrdered := ordered.get bagBound
  obtain ⟨inner, innerBound, found⟩ := Option.bind_eq_some_iff.1 found
  obtain ⟨entry, entryBound, isStored⟩ := exists_read_of_given
    ((dictOf_dict bagOrdered.sorted_entries).1 readBag name) innerBound
  obtain ⟨stored, storedAt, valueStored⟩ := exists_read_of_given
    (at_stored (bagOrdered.get innerBound) isStored keys) found
  exact ⟨entry, stored, entryBound, valueStored, storedAt⟩

end

end RpcRegistry.Settings
