import RpcRegistry.Proofs.Settings.Reading
import RpcRegistry.Proofs.Settings.Section

/-!
The four members of settings that are read, written, and read again under the same upper layer. The
home directory comes back as it was first read or as it was written, the directory of module files
and the entries of the modules come back as they were. Of the sections every one comes back, some
with another log file, and the standard one where there was no default section.
-/

namespace RpcRegistry.Settings

open Value

/-- A value is there, may be stored, and is read as a result. -/
def ReadsAs {α : Type} (read : Value → Option α) (bound : Option Value) (result : α) : Prop :=
  ∃ value, bound = some value ∧ (stored? value).isSome ∧ read value = some result

structure MembersRead (entries : List (String × Value)) (settings : Settings) : Prop where
  homeDir : ReadsAs homeDirOf? ((Entries.get? "server" entries).map trimServer) settings.homeDir
  logging : ReadsAs (dictOf? Section.ofValue?) (Entries.get? "logging" entries) settings.logging
  modulesDir : ReadsAs optionalString? (Entries.get? "modules_dir" entries) settings.modulesDir
  modules : ReadsAs (dictOf? stored?) (Entries.get? "modules" entries) settings.modules

section

variable {α : Type} {read : Value → Option α} {lower upper : Option Value} {value : Value}
  {entries : List (String × Value)} {given : String} {settings : Settings}

theorem ReadFrom.exists_value (readFrom : ReadFrom entries settings) {key : String} {result : α}
    (bound : (Entries.get? key entries).isSome) (absent : Option α)
    (isRead : Entries.read? key absent read entries = some result) :
    ∃ value, Entries.get? key entries = some value ∧ (stored? (trimEntry (key, value)).2).isSome ∧
      read value = some result := by
  obtain ⟨value, found⟩ := Option.isSome_iff_exists.1 bound
  exact ⟨value, found, readFrom.storable _ (Entries.mem_of_get found),
    (Entries.read_of_get found absent).symm.trans isRead⟩

theorem ReadFrom.membersRead (readFrom : ReadFrom entries settings)
    (present : ∀ key ∈ memberNames, (Entries.get? key entries).isSome) :
    MembersRead entries settings := by
  constructor
  · obtain ⟨server, found, storable, isRead⟩ :=
      readFrom.exists_value (present "server" (by decide)) none readFrom.homeDir
    exact ⟨trimServer server, by rw [found, Option.map_some], storable, isRead⟩
  · exact readFrom.exists_value (present "logging" (by decide)) _ readFrom.logging
  · exact readFrom.exists_value (present "modules_dir" (by decide)) _ readFrom.modulesDir
  · exact readFrom.exists_value (present "modules" (by decide)) _ readFrom.modules

theorem MembersRead.readFrom (members : MembersRead entries settings)
    (sorted : Entries.Sorted entries) (known : ∀ entry ∈ entries, entry.1 ∈ memberNames) :
    ReadFrom entries settings := by
  obtain ⟨_, serverTrimmed, serverStored, readServer⟩ := members.homeDir
  obtain ⟨server, serverFound, rfl⟩ := Option.map_eq_some_iff.1 serverTrimmed
  obtain ⟨logging, loggingFound, loggingStored, readLogging⟩ := members.logging
  obtain ⟨modulesDir, modulesDirFound, modulesDirStored, readModulesDir⟩ := members.modulesDir
  obtain ⟨modules, modulesFound, modulesStored, readModules⟩ := members.modules
  constructor
  · exact known
  · rintro ⟨key, value⟩ member
    have isName := known _ member
    have found := sorted.get_eq_some_iff.2 member
    simp only [memberNames, List.mem_cons, List.not_mem_nil, or_false] at isName
    rcases isName with rfl | rfl | rfl | rfl
    · obtain rfl := Option.some.inj (serverFound.symm.trans found)
      exact serverStored
    · obtain rfl := Option.some.inj (loggingFound.symm.trans found)
      exact loggingStored
    · obtain rfl := Option.some.inj (modulesDirFound.symm.trans found)
      exact modulesDirStored
    · obtain rfl := Option.some.inj (modulesFound.symm.trans found)
      exact modulesStored
  · exact (Entries.read_of_get serverFound _).trans readServer
  · exact (Entries.read_of_get loggingFound _).trans readLogging
  · exact (Entries.read_of_get modulesDirFound _).trans readModulesDir
  · exact (Entries.read_of_get modulesFound _).trans readModules

/-- A dictionary all of whose values can be read is read value by value. -/
theorem exists_dictOf {result : String → Option α} (sorted : Entries.Sorted entries)
    (same : ∀ key, (Entries.get? key entries).map read = (result key).map some) :
    ∃ dict, dictOf? read (.dict entries) = some dict ∧ ∀ key, dict.get? key = result key := by
  have each : ∀ entry ∈ entries, (read entry.2).isSome := by
    intro entry member
    obtain ⟨built, _, isRead⟩ := exists_read_of_given (same entry.1)
      (sorted.get_eq_some_iff.2 member)
    exact Option.isSome_of_eq_some isRead
  obtain ⟨built, done⟩ := Entries.exists_of_mapM each
  have isRead : dictOf? read (.dict entries) = some (Dict.ofList built) := by
    rw [dictOf?, readEntries?, done, Option.map_some]
  refine ⟨_, isRead, fun key => ?_⟩
  have bound := ((dictOf_dict sorted).1 isRead key).symm.trans (same key)
  exact Option.map_injective (Option.some_injective _) bound

theorem merge_serverValue (lower upper : String) :
    (serverValue lower).merge (serverValue upper) = serverValue upper := by
  have replaced : (Value.text lower).merge (.text upper) = .text upper := rfl
  simp [serverValue, mergeEntries, mergeEntry, Entries.get?, Entries.insert, replaced]

theorem homeDir_again (ordered : ∀ value ∈ upper, Ordered value)
    (first : ReadsAs homeDirOf? ((joined lower upper).map trimServer) given) (written : String) :
    ∃ homeDir,
      ReadsAs homeDirOf? ((joined (some (serverValue written)) upper).map trimServer) homeDir ∧
      (homeDir = given ∨ homeDir = written) := by
  obtain ⟨_, isTrimmed, storable, isRead⟩ := first
  obtain ⟨value, isFirst, rfl⟩ := Option.map_eq_some_iff.1 isTrimmed
  cases upper with
  | none => exact ⟨written, ⟨_, rfl, rfl, rfl⟩, Or.inr rfl⟩
  | some above =>
      cases isDict : above.isDict with
      | false =>
          rw [joined_of_not_dict _ isDict] at isFirst ⊢
          obtain rfl := Option.some.inj isFirst
          exact ⟨given, ⟨_, rfl, storable, isRead⟩, Or.inl rfl⟩
      | true =>
          obtain ⟨first, rfl⟩ := eq_dict_of_isDict (isDict_joined isDict isFirst)
          have upperDict : ∀ value ∈ some above, value.isDict = true := by simpa using isDict
          have firstBound := get_of_joined upperDict ordered isFirst
          obtain ⟨whole, isWhole⟩ := exists_joined_dict
            (rfl : (serverValue written).isDict = true) upperDict
          have wholeBound := get_of_joined upperDict ordered isWhole
          have wholeStored := isSome_stored_joined ordered (by rw [isFirst]; exact storable)
            (rfl : (stored? (serverValue written)).isSome)
          rw [isWhole] at wholeStored ⊢
          obtain ⟨known, isRead⟩ := homeDirOf_dict.1 isRead
          have knownAgain : ∀ entry ∈ whole, entry.1 ∈ serverNames := by
            apply Entries.forall_keys_iff.2
            intro key unknown
            have unboundFirst := Entries.forall_keys_iff.1 known key unknown
            rw [firstBound, joined_eq_none_iff] at unboundFirst
            have unwritten : Entries.get? key [("home_dir", Value.text written)] = none :=
              Entries.forall_keys_iff.1 (by simp [serverNames]) key unknown
            rw [wholeBound, unboundFirst.2, joined_none, serverValue, member_dict, unwritten]
          have homeFirst := firstBound "home_dir"
          have homeAgain := wholeBound "home_dir"
          cases said : member? (some above) "home_dir" with
          | none =>
              rw [said, joined_none] at homeAgain
              have readAgain : Entries.read? "home_dir" none string? whole = some written := by
                rw [Entries.read?, homeAgain]
                rfl
              exact ⟨written, ⟨_, rfl, wholeStored, homeDirOf_dict.2 ⟨knownAgain, readAgain⟩⟩,
                Or.inr rfl⟩
          | some inner =>
              rw [said] at homeFirst homeAgain
              have readAgain := Entries.read_of_upper (fun _ => rfl) homeFirst homeAgain isRead
              exact ⟨given, ⟨_, rfl, wholeStored, homeDirOf_dict.2 ⟨knownAgain, readAgain⟩⟩,
                Or.inl rfl⟩

theorem member_loggingValue (logging : Dict Section) (key : String) :
    member? (some (loggingValue logging)) key = (logging.get? key).map Section.value := by
  rw [loggingValue, member_dict]
  exact Entries.get_map fun _ (current : Section) => current.value

theorem standardLogging_get {key : String} {settings : Section}
    (found : standardLogging.get? key = some settings) :
    Section.ofValue? settings.value = some settings := by
  rw [standardLogging, Dict.get_insert] at found
  split at found
  · cases found
    decide
  · cases found

theorem member_overStandard (logging : Dict Section) (key : String) :
    member? (some ((loggingValue standardLogging).merge (loggingValue logging))) key =
      joined ((standardLogging.get? key).map Section.value)
        ((logging.get? key).map Section.value) := by
  rw [member_merge rfl (ordered_loggingValue logging), member_loggingValue, member_loggingValue]

/-- The log file that the layers above and below the settings file give a section. -/
def refillOf (upper : Option Value) (key : String) : Option LogFile :=
  (joined ((standardLogging.get? key).map Section.value) (member? upper key)).bind LogFile.ofValue?

theorem isSome_stored_loggingValue {logging : Dict Section} (sorted : Entries.Sorted entries)
    (isRead : dictOf? Section.ofValue? (.dict entries) = some logging) :
    (stored? (loggingValue logging)).isSome := by
  apply isSome_stored_dict.2
  intro entry member
  obtain ⟨bound, inLogging, rfl⟩ := List.mem_map.1 member
  obtain ⟨_, _, isSection⟩ := exists_given_of_read ((dictOf_dict sorted).1 isRead bound.1)
    (logging.sorted.get_eq_some_iff.2 inLogging)
  exact Section.isSome_stored_value isSection

/-- One key of the sections: what was read under it is read again, with the log file that the other
layers give it, and where nothing was read the standard section is. -/
theorem section_again {found : Option Section} (key : String)
    (ordered : ∀ value ∈ upper, Ordered value)
    (isRead : (joined lower upper).map Section.ofValue? = found.map some) :
    (joined (joined ((standardLogging.get? key).map Section.value) (found.map Section.value))
        upper).map Section.ofValue? =
      ((found.map fun settings => settings.refill
        ((joined ((standardLogging.get? key).map Section.value) upper).bind LogFile.ofValue?)).or
          (standardLogging.get? key)).map some := by
  cases isFound : found with
  | some settings =>
      obtain ⟨inner, isInner, isSection⟩ := exists_given_of_read isRead isFound
      have readSection : (joined lower upper).bind Section.ofValue? = some settings := by
        rw [isInner]
        exact isSection
      have belowDict : ∀ value ∈ (standardLogging.get? key).map Section.value,
          value.isDict = true := by
        intro value written
        obtain ⟨_, _, rfl⟩ := Option.map_eq_some_iff.1 written
        rfl
      obtain ⟨again, isAgain, isRefilled⟩ := Option.bind_eq_some_iff.1
        (Section.read_again ordered belowDict readSection)
      rw [Option.map_some, isAgain]
      exact congrArg some isRefilled
  | none =>
      have unbound := joined_eq_none_iff.1 ((read_eq_none_iff isRead).1 isFound)
      rw [Option.map_none, joined_none, unbound.2, joined_none]
      cases standardFound : standardLogging.get? key with
      | none => rfl
      | some settings => exact congrArg some (standardLogging_get standardFound)

theorem logging_again {logging : Dict Section} (orderedUpper : ∀ value ∈ upper, Ordered value)
    (orderedLower : ∀ value ∈ lower, Ordered value)
    (first : ReadsAs (dictOf? Section.ofValue?) (joined lower upper) logging) :
    ∃ again,
      ReadsAs (dictOf? Section.ofValue?)
        (joined (joined (some (loggingValue standardLogging)) (some (loggingValue logging))) upper)
        again ∧
      ∀ key, again.get? key = ((logging.get? key).map fun settings =>
        settings.refill (refillOf upper key)).or (standardLogging.get? key) := by
  obtain ⟨value, isFirst, storable, isRead⟩ := first
  obtain ⟨first, rfl⟩ := eq_dict_of_isDict (isDict_of_dictOf isRead)
  have firstSorted := (ordered_joined orderedLower orderedUpper _ isFirst).sorted_entries
  have upperDict := forall_isDict_of_joined isFirst rfl
  have firstBound := get_of_joined upperDict orderedUpper isFirst
  obtain ⟨whole, isWhole⟩ := exists_joined_dict
    (rfl : ((loggingValue standardLogging).merge (loggingValue logging)).isDict = true) upperDict
  have heldOrdered := (ordered_loggingValue standardLogging).merge (ordered_loggingValue logging)
  have wholeStored := isSome_stored_joined orderedUpper (by rwa [isFirst])
    (isSome_stored_merge (ordered_loggingValue logging)
      (by decide : (stored? (loggingValue standardLogging)).isSome)
      (isSome_stored_loggingValue firstSorted isRead))
  rw [isWhole] at wholeStored
  have wholeSorted : Entries.Sorted whole :=
    (ordered_joined (by simpa using heldOrdered) orderedUpper _ isWhole).sorted_entries
  have same : ∀ key, (Entries.get? key whole).map Section.ofValue? =
      (((logging.get? key).map fun settings =>
        settings.refill (refillOf upper key)).or (standardLogging.get? key)).map some := by
    intro key
    have readFirst := (dictOf_dict firstSorted).1 isRead key
    rw [firstBound] at readFirst
    rw [get_of_joined upperDict orderedUpper isWhole, member_overStandard]
    exact section_again key (ordered_member orderedUpper key) readFirst
  obtain ⟨again, isAgain, bound⟩ := exists_dictOf wholeSorted same
  exact ⟨again, ⟨_, isWhole, wholeStored, isAgain⟩, bound⟩

theorem modulesDir_again {directory : Option String}
    (first : ReadsAs optionalString? (joined lower upper) directory) :
    ReadsAs optionalString? (joined (some (ofText? directory)) upper) directory := by
  obtain ⟨value, isFirst, storable, isRead⟩ := first
  cases upper with
  | none => cases directory <;> exact ⟨_, rfl, rfl, rfl⟩
  | some above =>
      cases isDict : above.isDict with
      | false =>
          rw [joined_of_not_dict _ isDict] at isFirst ⊢
          obtain rfl := Option.some.inj isFirst
          exact ⟨above, rfl, storable, isRead⟩
      | true =>
          obtain ⟨first, rfl⟩ := eq_dict_of_isDict (isDict_joined isDict isFirst)
          cases isRead

/-- Module entries that are stored come back, and an entry that was read comes back as it was. -/
theorem modules_again {bag modules : Dict Value}
    (orderedUpper : ∀ value ∈ upper, Ordered value)
    (orderedLower : ∀ value ∈ lower, Ordered value)
    (first : ReadsAs (dictOf? stored?) (joined lower upper) bag)
    (stored : ∀ name entry, modules.get? name = some entry → entry.stored? = some entry) :
    ∃ again,
      ReadsAs (dictOf? stored?)
        (joined (joined (some (.dict [])) (some (.dict modules.entries))) upper) again ∧
      ∀ name, modules.get? name = bag.get? name → again.get? name = bag.get? name := by
  obtain ⟨value, isFirst, storable, isRead⟩ := first
  obtain ⟨first, rfl⟩ := eq_dict_of_isDict (isDict_of_dictOf isRead)
  have firstSorted := (ordered_joined orderedLower orderedUpper _ isFirst).sorted_entries
  have upperDict := forall_isDict_of_joined isFirst rfl
  have firstBound := get_of_joined upperDict orderedUpper isFirst
  obtain ⟨whole, isWhole⟩ := exists_joined_dict
    (rfl : (Value.dict modules.entries).isDict = true) upperDict
  have wholeSorted := sorted_of_joined modules.sorted upperDict isWhole
  have wholeBound : ∀ name, Entries.get? name whole =
      joined (modules.get? name) (member? upper name) := by
    intro name
    rw [get_of_joined upperDict orderedUpper isWhole, member_dict]
    rfl
  have own : (stored? (.dict modules.entries)).isSome :=
    isSome_stored_dict.2 fun entry member =>
      Option.isSome_of_eq_some (stored _ _ (modules.sorted.get_eq_some_iff.2 member))
  have wholeStored := isSome_stored_joined orderedUpper (by rwa [isFirst]) own
  rw [isWhole] at wholeStored
  have same : ∀ name, (Entries.get? name whole).map stored? =
      ((Entries.get? name whole).bind stored?).map some := by
    intro name
    cases found : Entries.get? name whole with
    | none => rfl
    | some inner =>
        obtain ⟨kept, isKept⟩ := Option.isSome_iff_exists.1
          (isSome_stored_dict.1 wholeStored _ (Entries.mem_of_get found))
        rw [Option.map_some, Option.bind_some, isKept]
        rfl
  obtain ⟨again, isAgain, bound⟩ := exists_dictOf wholeSorted same
  refine ⟨again, ⟨_, ?_, wholeStored, isAgain⟩, fun name kept => ?_⟩
  · rw [← isWhole]
    exact congrArg (joined · upper) (congrArg some (merge_empty modules.sorted))
  · have readFirst := (dictOf_dict firstSorted).1 isRead name
    rw [firstBound] at readFirst
    rw [bound, wholeBound, kept]
    cases found : bag.get? name with
    | none =>
        rw [(joined_eq_none_iff.1 ((read_eq_none_iff readFirst).1 found)).2]
        rfl
    | some entry =>
        obtain ⟨inner, isInner, innerStored⟩ := exists_given_of_read readFirst found
        apply stored_joined_again (ordered_member orderedUpper name)
          (ordered_member orderedLower name)
        rw [isInner]
        exact innerStored

theorem nodup_members (settings : Settings) : (settings.members.map Prod.fst).Nodup := by
  simp [members]

theorem member_value (settings : Settings) (key : String) :
    member? (some settings.value) key = Entries.get? key settings.members := by
  rw [Settings.value, ofEntries, member_dict, Entries.get_ofList settings.nodup_members]

theorem isSome_standard_member (homeDir : String) {key : String} (isName : key ∈ memberNames) :
    (Entries.get? key (standard homeDir).members).isSome := by
  simp only [memberNames, List.mem_cons, List.not_mem_nil, or_false] at isName
  rcases isName with rfl | rfl | rfl | rfl <;> rfl

theorem isSome_joined_left (bound : lower.isSome) : (joined lower upper).isSome := by
  obtain ⟨below, rfl⟩ := Option.isSome_iff_exists.1 bound
  cases upper <;> rfl

/-- The entries of settings laid over the standard ones and under another value. -/
theorem exists_entries_again (homeDir : String) (settings : Settings)
    (orderedUpper : ∀ value ∈ upper, Ordered value)
    (upperDict : ∀ value ∈ upper, value.isDict = true)
    (upperKnown : ∀ key ∉ memberNames, member? upper key = none) :
    ∃ whole, joined (some ((standard homeDir).value.merge settings.value)) upper =
        some (.dict whole) ∧
      Entries.Sorted whole ∧ (∀ entry ∈ whole, entry.1 ∈ memberNames) ∧
      ∀ key, Entries.get? key whole =
        joined (joined (Entries.get? key (standard homeDir).members)
          (Entries.get? key settings.members)) (member? upper key) := by
  obtain ⟨whole, isWhole⟩ := exists_joined_dict
    (rfl : ((standard homeDir).value.merge settings.value).isDict = true) upperDict
  have bound : ∀ key, Entries.get? key whole =
      joined (joined (Entries.get? key (standard homeDir).members)
        (Entries.get? key settings.members)) (member? upper key) := by
    intro key
    have opened : (standard homeDir).value.merge settings.value =
        .dict (mergeEntries (Entries.ofList (standard homeDir).members)
          (Entries.ofList settings.members)) := rfl
    rw [get_of_joined upperDict orderedUpper isWhole, opened, member_dict,
      get_mergeEntries (Entries.sorted_ofList _).nodup_keys,
      Entries.get_ofList (nodup_members _), Entries.get_ofList (nodup_members _)]
  refine ⟨whole, isWhole, ?_, ?_, bound⟩
  · exact sorted_of_joined (sorted_mergeEntries (Entries.sorted_ofList _)) upperDict isWhole
  · apply Entries.forall_keys_iff.2
    intro key unknown
    have unwritten : ∀ settings : Settings, Entries.get? key settings.members = none :=
      fun settings => Entries.forall_keys_iff.1 (by simp [members, memberNames]) key unknown
    rw [bound, unwritten, unwritten, upperKnown key unknown]
    rfl

/-- What settings are read from: the members of the lower layers, with those of the upper layer
over them. The defaults speak of every member, so each of them is there. -/
structure LayeredMembers (lower upper : Value) (settings : Settings)
    (entries : List (String × Value)) : Prop where
  readFrom : ReadFrom entries settings
  upperDict : ∀ value ∈ some upper, value.isDict = true
  bound : ∀ key, Entries.get? key entries = joined (member? (some lower) key)
    (member? (some upper) key)
  present : ∀ key ∈ memberNames, (Entries.get? key entries).isSome

theorem exists_layeredMembers {homeDir : String} {file environment : Value}
    (fileDict : file.isDict = true) (fileOrdered : Ordered file)
    (environmentOrdered : Ordered environment)
    (isRead : ofLayers? (layers homeDir file environment) = some settings) :
    ∃ entries,
      LayeredMembers ((standard homeDir).value.merge file) environment settings entries := by
  obtain ⟨entries, isMerged, readFrom⟩ := exists_of_ofLayers isRead
  have isLayered : joined (some ((standard homeDir).value.merge file)) (some environment) =
      some (.dict entries) := congrArg some isMerged
  have upperDict := forall_isDict_of_joined isLayered rfl
  have bound := get_of_joined upperDict (by simpa using environmentOrdered) isLayered
  refine ⟨entries, readFrom, upperDict, bound, ?_⟩
  intro key isName
  rw [bound, member_merge fileDict fileOrdered, member_value]
  exact isSome_joined_left (isSome_joined_left (isSome_standard_member homeDir isName))

/-- Settings that were read from layers and written are read again from their writing under the
same upper layer. -/
theorem ofLayers_again {homeDir : String} {file environment : Value} {extracted settings : Settings}
    (fileDict : file.isDict = true) (fileOrdered : Ordered file)
    (environmentOrdered : Ordered environment)
    (isRead : ofLayers? (layers homeDir file environment) = some extracted)
    (sameLogging : settings.logging = extracted.logging)
    (sameModulesDir : settings.modulesDir = extracted.modulesDir)
    (stored : ∀ name entry, settings.modules.get? name = some entry → entry.stored? = some entry) :
    ∃ again, ofLayers? (layers homeDir settings.value environment) = some again ∧
      (again.homeDir = extracted.homeDir ∨ again.homeDir = settings.homeDir) ∧
      (∀ key, again.logging.get? key = ((settings.logging.get? key).map fun current =>
        current.refill (refillOf (member? (some environment) "logging") key)).or
          (standardLogging.get? key)) ∧
      again.modulesDir = settings.modulesDir ∧
      ∀ name, settings.modules.get? name = extracted.modules.get? name →
        again.modules.get? name = extracted.modules.get? name := by
  obtain ⟨entries, first⟩ :=
    exists_layeredMembers fileDict fileOrdered environmentOrdered isRead
  have orderedUpper : ∀ value ∈ some environment, Ordered value := by
    simpa using environmentOrdered
  have orderedLower : ∀ value ∈ some ((standard homeDir).value.merge file), Ordered value := by
    simpa using (ordered_standard homeDir).merge fileOrdered
  have upperKnown : ∀ key ∉ memberNames, member? (some environment) key = none := by
    intro key unknown
    have unbound := Entries.forall_keys_iff.1 first.readFrom.known key unknown
    rw [first.bound, joined_eq_none_iff] at unbound
    exact unbound.2
  obtain ⟨serverFirst, loggingFirst, modulesDirFirst, modulesFirst⟩ :=
    first.readFrom.membersRead first.present
  rw [first.bound] at serverFirst loggingFirst modulesDirFirst modulesFirst
  obtain ⟨homeDirAgain, serverRead, homeDirIs⟩ :=
    homeDir_again (ordered_member orderedUpper _) serverFirst settings.homeDir
  obtain ⟨loggingAgain, loggingRead, loggingIs⟩ :=
    logging_again (ordered_member orderedUpper _) (ordered_member orderedLower _) loggingFirst
  have modulesDirRead := modulesDir_again modulesDirFirst
  obtain ⟨modulesAgain, modulesRead, modulesIs⟩ :=
    modules_again (ordered_member orderedUpper _) (ordered_member orderedLower _) modulesFirst
      stored
  obtain ⟨whole, isWhole, wholeSorted, wholeKnown, wholeBound⟩ :=
    exists_entries_again homeDir settings orderedUpper first.upperDict upperKnown
  have membersRead : MembersRead whole
      ⟨homeDirAgain, loggingAgain, extracted.modulesDir, modulesAgain⟩ := by
    constructor
    · rw [← merge_serverValue homeDir settings.homeDir] at serverRead
      rw [wholeBound]
      exact serverRead
    · rw [wholeBound]
      rw [← sameLogging] at loggingRead
      exact loggingRead
    · have notDict : (ofText? extracted.modulesDir).isDict = false := by
        cases extracted.modulesDir <;> rfl
      rw [← joined_of_not_dict (some .null) notDict, ← sameModulesDir] at modulesDirRead
      rw [wholeBound, ← sameModulesDir]
      exact modulesDirRead
    · rw [wholeBound]
      exact modulesRead
  have isLayers : layers homeDir settings.value environment = .dict whole := Option.some.inj isWhole
  have readAgain := ofLayers_dict.2 (membersRead.readFrom wholeSorted wholeKnown)
  rw [← isLayers] at readAgain
  exact ⟨_, readAgain, homeDirIs, sameLogging ▸ loggingIs, sameModulesDir.symm, modulesIs⟩

end

end RpcRegistry.Settings
