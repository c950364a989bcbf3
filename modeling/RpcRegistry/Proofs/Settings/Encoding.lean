import RpcRegistry.Proofs.Settings.Rereading

/-!
Settings written as a JSON value and read back. Every member is written under a name of its own
and read from there. A section without a log file says nothing of one, an empty file name is a text
like any other, and a level that is off is the word for it, so what is read is what was written.
-/

namespace RpcRegistry

open Log

/-- The values that JSON has here: whole numbers fit a 64-bit word, with a sign or without, floats
are finite, and an object binds each key once. -/
inductive Value.IsJson : Value → Prop where
  | null : IsJson .null
  | bool (b : Bool) : IsJson (.bool b)
  | int {n : Int} (signed : -Int.pow 2 63 ≤ n) (unsigned : n < Int.pow 2 64) : IsJson (.int n)
  | float {x : Binary64} (finite : x.isFinite = true) : IsJson (.float x)
  | text (s : String) : IsJson (.text s)
  | list {items : List Value} (each : ∀ item ∈ items, IsJson item) : IsJson (.list items)
  | dict {entries : List (String × Value)} (sorted : Entries.Sorted entries)
      (each : ∀ entry ∈ entries, IsJson entry.2) : IsJson (.dict entries)

structure Section.Fits (settings : Section) : Prop where
  maxAgeDays : ∀ n ∈ settings.maxAgeDays, n < UInt32.size
  maxBackups : ∀ n ∈ settings.maxBackups, n < UInt64.size
  maxSizeMegabytes : ∀ n ∈ settings.maxSizeMegabytes, n < UInt64.size

structure Settings.Fits (settings : Settings) : Prop where
  sections : ∀ entry ∈ settings.logging.entries, entry.2.Fits
  modules : ∀ entry ∈ settings.modules.entries, entry.2.IsJson

namespace Value

theorem storable_iff (n : Int) :
    storable n = true ↔ -Int.pow 2 63 ≤ n ∧ n < Int.pow 2 64 := by
  simp only [storable, Bool.and_eq_true, decide_eq_true_eq]

theorem IsJson.stored {value : Value} (json : value.IsJson) : stored? value = some value := by
  induction json with
  | null => rfl
  | bool b => rfl
  | int signed unsigned =>
      rw [stored?, if_pos ((storable_iff _).2 ⟨signed, unsigned⟩)]
  | float finite =>
      rw [stored?, if_pos finite]
  | text s => rfl
  | @list items each induction =>
      have itemsStored : storedItems? items = some items := by
        clear each
        induction items with
        | nil => rfl
        | cons item rest inner =>
            obtain ⟨first, later⟩ := List.forall_mem_cons.1 induction
            rw [storedItems?, first, inner later]
            rfl
      rw [stored?, itemsStored]
      rfl
  | @dict entries sorted each induction =>
      apply (stored_dict sorted).2
      refine ⟨entries, rfl, sorted, ?_⟩
      intro key
      cases found : Entries.get? key entries with
      | none => rfl
      | some inner => exact congrArg some (induction _ (Entries.mem_of_get found))

theorem IsJson.ordered {value : Value} (json : value.IsJson) : value.Ordered := by
  induction json with
  | list _ induction => exact .list induction
  | dict sorted _ induction => exact .dict sorted induction
  | _ => exact .undivided rfl

theorem isJson_ofText (given : Option String) : (ofText? given).IsJson := by
  cases given with
  | none => exact .null
  | some s => exact .text s

theorem isJson_ofNat {given : Option Nat} (fits : ∀ n ∈ given, n < UInt64.size) :
    (ofNat? given).IsJson := by
  cases given with
  | none => exact .null
  | some n =>
      have below := fits n rfl
      have words : Int.pow 2 63 = 9223372036854775808 ∧ Int.pow 2 64 = UInt64.size := by decide
      apply IsJson.int
      · omega
      · omega

theorem isJson_ofEntries {entries : List (String × Value)}
    (each : ∀ entry ∈ entries, entry.2.IsJson) : (ofEntries entries).IsJson :=
  .dict (Entries.sorted_ofList entries) fun entry member => each entry (Entries.mem_ofList member)

end Value

namespace Section

open Value

variable {settings : Section}

theorem read_value (fits : settings.Fits) : ofValue? settings.value = some settings := by
  obtain ⟨levelWritten, ageWritten, backupsWritten, sizeWritten⟩ := settings.get_members
  obtain ⟨fileWritten, fileLevelWritten⟩ := settings.get_file_members
  rw [← Entries.get_ofList settings.nodup_members] at levelWritten ageWritten backupsWritten
  rw [← Entries.get_ofList settings.nodup_members] at sizeWritten fileWritten fileLevelWritten
  apply ofValue_dict.2
  constructor
  · exact (Entries.read_of_get levelWritten _).trans (Threshold.ofText_word _)
  constructor
  · exact (Entries.read_of_get ageWritten _).trans
      (optionalNat_ofNat_of_lt fits.maxAgeDays)
  constructor
  · exact (Entries.read_of_get backupsWritten _).trans
      (optionalNat_ofNat_of_lt fits.maxBackups)
  constructor
  · exact (Entries.read_of_get sizeWritten _).trans
      (optionalNat_ofNat_of_lt fits.maxSizeMegabytes)
  · cases isFile : settings.logFile with
    | none =>
        rw [isFile] at fileWritten
        rw [LogFile.ofEntries?, Entries.read?, fileWritten]
        rfl
    | some file =>
        rw [isFile] at fileWritten fileLevelWritten
        apply LogFile.ofEntries_eq_some_iff.2
        constructor
        · exact Entries.read_of_get fileWritten _
        · exact (Entries.read_of_get fileLevelWritten _).trans (Threshold.ofText_word _)

theorem isJson_value (fits : settings.Fits) : settings.value.IsJson := by
  have small : UInt32.size < UInt64.size := by decide
  have age : (ofNat? settings.maxAgeDays).IsJson :=
    isJson_ofNat fun n isAge => Nat.lt_trans (fits.maxAgeDays n isAge) small
  have backups : (ofNat? settings.maxBackups).IsJson := isJson_ofNat fits.maxBackups
  have size : (ofNat? settings.maxSizeMegabytes).IsJson := isJson_ofNat fits.maxSizeMegabytes
  apply isJson_ofEntries
  unfold members
  cases settings.logFile with
  | none => simp [IsJson.text, age, backups, size]
  | some file => simp [IsJson.text, age, backups, size]

end Section

namespace Settings

open Value

variable {settings : Settings}

theorem homeDirOf_serverValue (homeDir : String) :
    homeDirOf? (serverValue homeDir) = some homeDir := by
  apply homeDirOf_dict.2
  simp [serverNames, Entries.read?, Entries.get?, string?]

theorem dictOf_loggingValue {logging : Dict Section}
    (fits : ∀ entry ∈ logging.entries, entry.2.Fits) :
    dictOf? Section.ofValue? (loggingValue logging) = some logging := by
  have sorted := (ordered_loggingValue logging).sorted_entries
  apply (dictOf_dict sorted).2
  intro key
  rw [Entries.get_map fun _ (current : Section) => current.value]
  cases found : logging.get? key with
  | none =>
      have unbound : Entries.get? key logging.entries = none := found
      rw [unbound]
      rfl
  | some current =>
      have bound : Entries.get? key logging.entries = some current := found
      rw [bound, Option.map_some, Option.map_some,
        Section.read_value (fits _ (Entries.mem_of_get bound))]
      rfl

theorem dictOf_modules {modules : Dict Value} (json : ∀ entry ∈ modules.entries, entry.2.IsJson) :
    dictOf? stored? (.dict modules.entries) = some modules := by
  apply (dictOf_dict modules.sorted).2
  intro name
  cases found : Entries.get? name modules.entries with
  | none =>
      rw [Dict.get?, found]
      rfl
  | some entry =>
      rw [Dict.get?, found, Option.map_some, (json _ (Entries.mem_of_get found)).stored]
      rfl

theorem read_value (fits : settings.Fits) : ofValue? settings.value = some settings := by
  have written : ∀ key, Entries.get? key (Entries.ofList settings.members) =
      Entries.get? key settings.members := fun key => Entries.get_ofList settings.nodup_members
  apply ofValue_dict.2
  constructor
  · intro entry member
    have inMembers := Entries.mem_ofList member
    simp only [members, memberNames, List.mem_cons, List.not_mem_nil, or_false] at inMembers ⊢
    rcases inMembers with rfl | rfl | rfl | rfl <;> simp
  constructor
  · exact (Entries.read_of_get (written "server") _).trans (homeDirOf_serverValue _)
  constructor
  · exact (Entries.read_of_get (written "logging") _).trans (dictOf_loggingValue fits.sections)
  constructor
  · exact (Entries.read_of_get (written "modules_dir") _).trans (optionalString_ofText _)
  · exact (Entries.read_of_get (written "modules") _).trans (dictOf_modules fits.modules)

theorem isJson_value (fits : settings.Fits) : settings.value.IsJson := by
  have server : (serverValue settings.homeDir).IsJson := by
    apply IsJson.dict (List.pairwise_singleton _ _)
    simp [IsJson.text]
  have logging : (loggingValue settings.logging).IsJson := by
    apply IsJson.dict (ordered_loggingValue settings.logging).sorted_entries
    intro entry member
    obtain ⟨bound, inLogging, rfl⟩ := List.mem_map.1 member
    exact Section.isJson_value (fits.sections bound inLogging)
  have modules : (Value.dict settings.modules.entries).IsJson :=
    .dict settings.modules.sorted fits.modules
  apply isJson_ofEntries
  simp only [members, List.forall_mem_cons]
  exact ⟨server, logging, isJson_ofText _, modules, List.forall_mem_nil _⟩

theorem at_section {key : String} {current : Section}
    (found : settings.logging.get? key = some current) (name : String) :
    settings.value.at? ["logging", key, name] = Entries.get? name current.members := by
  have bound : Entries.get? key settings.logging.entries = some current := found
  have logging : Entries.get? "logging" (Entries.ofList settings.members) =
      some (loggingValue settings.logging) :=
    Entries.get_ofList settings.nodup_members
  rw [value, ofEntries, at_dict, logging, Option.bind_some, loggingValue, at_dict,
    Entries.get_map fun _ (current : Section) => current.value, bound, Option.map_some,
    Option.bind_some, ← current.member_value]
  rfl

end Settings

/-- Settings whose numbers and module entries fit are written as a JSON value and read back from it
as they were. A section that has no log file says nothing of a file, one whose file has no name
says the empty text, and a level that is off is written in a word that no other level has. -/
theorem Settings.ofValue_value {settings : Settings} (fits : settings.Fits) :
    settings.value.IsJson ∧ ofValue? settings.value = some settings ∧
      (∀ key current, settings.logging.get? key = some current →
        settings.value.at? ["logging", key, "console_level"] =
            some (.text (Threshold.word current.consoleLevel)) ∧
          settings.value.at? ["logging", key, "file"] =
            current.logFile.map (fun file => .text file.name) ∧
          settings.value.at? ["logging", key, "file_level"] =
            current.logFile.map fun file => .text (Threshold.word file.level)) ∧
      ∀ level, Threshold.word (some level) ≠ Threshold.word none := by
  constructor
  · exact isJson_value fits
  constructor
  · exact read_value fits
  constructor
  · intro key current found
    rw [at_section found, at_section found, at_section found]
    exact ⟨current.get_members.1, current.get_file_members⟩
  · intro level
    cases level <;> decide

/-- One section is off and has no log file; the other has a file without a name and the greatest
numbers. -/
def extremeSections : List (String × Section) :=
  [("default", ⟨none, none, none, none, none⟩),
    ("registrar", ⟨some .trace, some ⟨"", none⟩, some 4294967295, some 18446744073709551615,
      some 0⟩)]

def extremeEntries : List (String × Value) :=
  [("words", .list [.null, .int (-9223372036854775808), .int 18446744073709551615]),
    ("zero", .dict [("", .float ⟨9223372036854775808⟩)])]

def Settings.extremes : Settings := ⟨"", .ofList extremeSections, some "", .ofList extremeEntries⟩

theorem Settings.read_extremes :
    extremes.Fits ∧ ofValue? extremes.value = some extremes := by
  have fits : extremes.Fits := by
    constructor
    · intro entry member
      have among : entry ∈ Entries.ofList extremeSections := member
      rcases List.mem_pair.1 (Entries.mem_ofList among) with rfl | rfl
      · exact ⟨by simp, by simp, by simp⟩
      · exact ⟨by simp, by simp, by simp⟩
    · intro entry member
      have among : entry ∈ Entries.ofList extremeEntries := member
      rcases List.mem_pair.1 (Entries.mem_ofList among) with rfl | rfl
      · apply Value.IsJson.list
        simp only [List.forall_mem_cons]
        exact ⟨.null, .int (by decide) (by decide), .int (by decide) (by decide),
          List.forall_mem_nil _⟩
      · apply Value.IsJson.dict (List.pairwise_singleton _ _)
        simp only [List.forall_mem_singleton]
        exact .float (by decide)
  exact ⟨fits, (ofValue_value fits).2.1⟩

end RpcRegistry
