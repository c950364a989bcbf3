import RpcRegistry.Proofs.Settings.Written
import RpcRegistry.Proofs.Value.Member
import RpcRegistry.Proofs.Value.Readers

/-!
A section that is read, written, and read again under the same upper layer. Whatever the upper layer
says of a member it says again, and of the others the section has been written out, so the members
come back. Only a section without a log file says nothing of one, and then the layers below are
heard instead.
-/

namespace RpcRegistry

open Value Log

section

variable {α : Type} {read : Value → Option α} {absent : Option α} {result : α} {key : String}
  {first again : List (String × Value)} {lower upper : Option Value} {written : Value}

/-- Where the upper layer says something that can be read, the layers below it are not heard. -/
theorem Entries.read_of_upper {below : Option Value} {above : Value}
    (refuses : ∀ entries, read (.dict entries) = none)
    (firstBound : Entries.get? key first = joined lower (some above))
    (againBound : Entries.get? key again = joined below (some above))
    (isRead : Entries.read? key absent read first = some result) :
    Entries.read? key absent read again = some result := by
  unfold Entries.read? at isRead ⊢
  cases isDict : above.isDict with
  | false =>
      rw [joined_of_not_dict _ isDict] at firstBound againBound
      rw [firstBound] at isRead
      rwa [againBound]
  | true =>
      obtain ⟨merged, isMerged⟩ : ∃ merged, joined lower (some above) = some merged := by
        cases lower <;> exact ⟨_, rfl⟩
      obtain ⟨entries, rfl⟩ := eq_dict_of_isDict (isDict_joined isDict isMerged)
      rw [firstBound, isMerged] at isRead
      exact absurd ((refuses entries).symm.trans isRead) nofun

/-- What is read of a member is read again if it is written under the same upper layer. -/
theorem Entries.read_again (refuses : ∀ entries, read (.dict entries) = none)
    (firstBound : Entries.get? key first = joined lower upper)
    (againBound : Entries.get? key again = joined (some written) upper)
    (isRead : Entries.read? key absent read first = some result)
    (asWritten : read written = some result) :
    Entries.read? key absent read again = some result := by
  cases upper with
  | none =>
      unfold Entries.read?
      rwa [againBound]
  | some above => exact Entries.read_of_upper refuses firstBound againBound isRead

theorem Value.isSome_stored_ofNat {bound : Nat} {given : Option Nat} (small : bound < UInt64.size)
    (isRead : optionalNat? bound (ofNat? given) = some given) :
    (stored? (ofNat? given)).isSome := by
  cases given with
  | none => rfl
  | some n =>
      obtain ⟨⟨_, inBound⟩, _⟩ := Option.ite_none_right_eq_some.1 isRead
      have fits : storable n = true := by
        have words : Int.pow 2 63 = 9223372036854775808 ∧ Int.pow 2 64 = UInt64.size := by decide
        simp only [storable, words, Bool.and_eq_true, decide_eq_true_eq]
        omega
      rw [ofNat?, stored?, if_pos fits]
      rfl

end

namespace LogFile

def ofValue? : Value → Option LogFile
  | .dict entries => ofEntries? entries
  | _ => none

theorem ofEntries_eq_some_iff {entries : List (String × Value)} {file : LogFile} :
    ofEntries? entries = some file ↔
      Entries.read? "file" none Value.string? entries = some file.name ∧
      Entries.read? "file_level" (some (some .info)) Threshold.ofValue? entries =
        some file.level := by
  constructor
  · intro isRead
    obtain ⟨name, readName, isRead⟩ := Option.bind_eq_some_iff.1 isRead
    obtain ⟨level, readLevel, isRead⟩ := Option.bind_eq_some_iff.1 isRead
    cases isRead
    exact ⟨readName, readLevel⟩
  · rintro ⟨name, level⟩
    exact Option.bind_eq_some_iff.2 ⟨_, name, Option.bind_eq_some_iff.2 ⟨_, level, rfl⟩⟩

theorem ofEntries_of_members {entries : List (String × Value)} {given : Option Value}
    (dictionary : ∀ value ∈ given, value.isDict = true)
    (same : ∀ key ∈ ["file", "file_level"], Entries.get? key entries = member? given key) :
    ofEntries? entries = given.bind ofValue? := by
  have file := same "file" (by simp)
  have level := same "file_level" (by simp)
  cases given with
  | none =>
      rw [ofEntries?, Entries.read?, file]
      rfl
  | some value =>
      obtain ⟨plain, rfl⟩ := eq_dict_of_isDict (dictionary _ rfl)
      rw [member_dict] at file level
      rw [Option.bind_some, ofValue?]
      unfold ofEntries? Entries.read?
      rw [file, level]

end LogFile

namespace Section

variable {settings : Section} {entries : List (String × Value)} {lower below upper : Option Value}

theorem ofValue_dict : ofValue? (.dict entries) = some settings ↔
    Entries.read? "console_level" (some (some .info)) Threshold.ofValue? entries =
      some settings.consoleLevel ∧
    Entries.read? "max_age_days" (some none) (optionalNat? (UInt32.size - 1)) entries =
      some settings.maxAgeDays ∧
    Entries.read? "max_backups" (some none) (optionalNat? (UInt64.size - 1)) entries =
      some settings.maxBackups ∧
    Entries.read? "max_size_mb" (some none) (optionalNat? (UInt64.size - 1)) entries =
      some settings.maxSizeMegabytes ∧
    LogFile.ofEntries? entries = settings.logFile := by
  constructor
  · intro isRead
    obtain ⟨consoleLevel, readConsoleLevel, isRead⟩ := Option.bind_eq_some_iff.1 isRead
    obtain ⟨maxAgeDays, readMaxAgeDays, isRead⟩ := Option.bind_eq_some_iff.1 isRead
    obtain ⟨maxBackups, readMaxBackups, isRead⟩ := Option.bind_eq_some_iff.1 isRead
    obtain ⟨maxSize, readMaxSize, isRead⟩ := Option.bind_eq_some_iff.1 isRead
    cases isRead
    exact ⟨readConsoleLevel, readMaxAgeDays, readMaxBackups, readMaxSize, rfl⟩
  · rintro ⟨consoleLevel, maxAgeDays, maxBackups, maxSize, logFile⟩
    refine Option.bind_eq_some_iff.2 ⟨_, consoleLevel, ?_⟩
    refine Option.bind_eq_some_iff.2 ⟨_, maxAgeDays, ?_⟩
    refine Option.bind_eq_some_iff.2 ⟨_, maxBackups, ?_⟩
    refine Option.bind_eq_some_iff.2 ⟨_, maxSize, ?_⟩
    rw [logFile]

theorem exists_dict_of_ofValue {value : Value} (isRead : ofValue? value = some settings) :
    ∃ entries, value = .dict entries := by
  cases value <;> first | exact ⟨_, rfl⟩ | cases isRead

theorem isSome_stored_value {value : Value} (isRead : ofValue? value = some settings) :
    (stored? settings.value).isSome := by
  obtain ⟨entries, rfl⟩ := exists_dict_of_ofValue isRead
  obtain ⟨_, maxAgeDays, maxBackups, maxSize, _⟩ := ofValue_dict.1 isRead
  have ageStored := isSome_stored_ofNat (by decide) (Entries.optionalNat_ofNat maxAgeDays)
  have backupsStored := isSome_stored_ofNat (by decide) (Entries.optionalNat_ofNat maxBackups)
  have sizeStored := isSome_stored_ofNat (by decide) (Entries.optionalNat_ofNat maxSize)
  have textStored : ∀ s, (stored? (.text s)).isSome := fun _ => rfl
  apply isSome_stored_dict.2
  intro entry member
  have written := Entries.mem_ofList member
  unfold members at written
  cases settings.logFile with
  | none => grind
  | some file => grind

theorem nodup_members (settings : Section) : (settings.members.map Prod.fst).Nodup := by
  unfold members
  cases settings.logFile <;> simp

theorem member_value (settings : Section) (key : String) :
    member? (some settings.value) key = Entries.get? key settings.members := by
  rw [value, ofEntries, member_dict, Entries.get_ofList settings.nodup_members]

/-- The members that every section has are written under their names. -/
theorem get_members (settings : Section) :
    Entries.get? "console_level" settings.members =
      some (.text (Threshold.word settings.consoleLevel)) ∧
    Entries.get? "max_age_days" settings.members = some (ofNat? settings.maxAgeDays) ∧
    Entries.get? "max_backups" settings.members = some (ofNat? settings.maxBackups) ∧
    Entries.get? "max_size_mb" settings.members = some (ofNat? settings.maxSizeMegabytes) := by
  unfold members
  cases settings.logFile <;> exact ⟨rfl, rfl, rfl, rfl⟩

theorem get_file_members (settings : Section) :
    Entries.get? "file" settings.members = settings.logFile.map (.text ·.name) ∧
    Entries.get? "file_level" settings.members =
      settings.logFile.map fun file => .text (Threshold.word file.level) := by
  unfold members
  cases settings.logFile <;> exact ⟨rfl, rfl⟩

/-- The entries of a section that was written, laid over one value and under another. -/
def WrittenBetween (settings : Section) (below upper : Option Value)
    (again : List (String × Value)) : Prop :=
  ∀ key, Entries.get? key again =
    joined (joined (member? below key) (Entries.get? key settings.members)) (member? upper key)

theorem exists_writtenBetween (settings : Section) (below : Option Value)
    (ordered : ∀ value ∈ upper, Ordered value) (upperDict : ∀ value ∈ upper, value.isDict = true) :
    ∃ again, joined (joined below (some settings.value)) upper = some (.dict again) ∧
      settings.WrittenBetween below upper again := by
  obtain ⟨held, isHeld⟩ : ∃ held, joined below (some settings.value) = some held := by
    cases below <;> exact ⟨_, rfl⟩
  obtain ⟨again, isAgain⟩ := exists_joined_dict (isDict_joined rfl isHeld) upperDict
  refine ⟨again, by rw [isHeld, isAgain], fun key => ?_⟩
  have overBelow : member? (joined below (some settings.value)) key =
      joined (member? below key) (member? (some settings.value) key) :=
    member_joined (by simp [value, ofEntries, isDict]) (by simpa using settings.ordered_value) key
  rw [get_of_joined upperDict ordered isAgain, ← isHeld, overBelow, member_value]

theorem WrittenBetween.get {again : List (String × Value)} {key : String} {value : Value}
    (written : settings.WrittenBetween below upper again)
    (isWritten : Entries.get? key settings.members = some value) (notDict : value.isDict = false) :
    Entries.get? key again = joined (some value) (member? upper key) := by
  rw [written, isWritten, joined_of_not_dict _ notDict]

theorem WrittenBetween.logFile {first again : List (String × Value)}
    (written : settings.WrittenBetween below upper again)
    (ordered : ∀ value ∈ upper, Ordered value)
    (belowDict : ∀ value ∈ below, value.isDict = true)
    (upperDict : ∀ value ∈ upper, value.isDict = true)
    (firstBound : ∀ key, Entries.get? key first = joined (member? lower key) (member? upper key))
    (isRead : LogFile.ofEntries? first = settings.logFile) :
    LogFile.ofEntries? again =
      settings.logFile.or ((joined below upper).bind LogFile.ofValue?) := by
  obtain ⟨fileWritten, levelWritten⟩ := settings.get_file_members
  cases isFile : settings.logFile with
  | some file =>
      rw [isFile] at fileWritten levelWritten isRead
      obtain ⟨name, level⟩ := LogFile.ofEntries_eq_some_iff.1 isRead
      rw [Option.some_or, LogFile.ofEntries_eq_some_iff]
      exact ⟨
        Entries.read_again (fun _ => rfl) (firstBound _) (written.get fileWritten rfl) name rfl,
        Entries.read_again (fun _ => rfl) (firstBound _) (written.get levelWritten rfl) level
          (Threshold.ofText_word _)⟩
  | none =>
      rw [isFile] at fileWritten levelWritten
      rw [Option.none_or]
      refine LogFile.ofEntries_of_members (forall_joined_isDict belowDict upperDict) ?_
      intro key isName
      have unwritten : Entries.get? key settings.members = none := by
        rcases List.mem_pair.1 isName with rfl | rfl
        · exact fileWritten
        · exact levelWritten
      rw [written, unwritten, joined_none, member_joined upperDict ordered]

def refill (settings : Section) (file : Option LogFile) : Section :=
  { settings with logFile := settings.logFile.or file }

theorem refill_eq_self_iff {file : Option LogFile} :
    settings.refill file = settings ↔ (settings.logFile = none → file = none) := by
  obtain ⟨_, logFile, _, _, _⟩ := settings
  cases logFile <;> simp [refill]

/-- A section comes back as it was written, but without a log file of its own it takes the one
that the layers below and above it give. -/
theorem read_again (ordered : ∀ value ∈ upper, Ordered value)
    (belowDict : ∀ value ∈ below, value.isDict = true)
    (isRead : (joined lower upper).bind ofValue? = some settings) :
    (joined (joined below (some settings.value)) upper).bind ofValue? =
      some (settings.refill ((joined below upper).bind LogFile.ofValue?)) := by
  obtain ⟨value, isFirst, isRead⟩ := Option.bind_eq_some_iff.1 isRead
  obtain ⟨first, rfl⟩ := exists_dict_of_ofValue isRead
  obtain ⟨consoleLevel, maxAgeDays, maxBackups, maxSize, logFile⟩ := ofValue_dict.1 isRead
  have upperDict : ∀ value ∈ upper, value.isDict = true := by
    rintro value rfl
    exact isDict_of_joined isFirst rfl
  have firstBound := get_of_joined upperDict ordered isFirst
  obtain ⟨again, isAgain, written⟩ := exists_writtenBetween settings below ordered upperDict
  obtain ⟨levelWritten, ageWritten, backupsWritten, sizeWritten⟩ := settings.get_members
  have numberAgain : ∀ {key bound given}, Entries.get? key settings.members = some (ofNat? given) →
      Entries.read? key (some none) (optionalNat? bound) first = some given →
      Entries.read? key (some none) (optionalNat? bound) again = some given := by
    intro key bound given isWritten number
    have notDict : (ofNat? given).isDict = false := by cases given <;> rfl
    exact Entries.read_again (fun _ => rfl) (firstBound key) (written.get isWritten notDict) number
      (Entries.optionalNat_ofNat number)
  rw [isAgain, Option.bind_some, ofValue_dict]
  refine ⟨?_, numberAgain ageWritten maxAgeDays, numberAgain backupsWritten maxBackups,
    numberAgain sizeWritten maxSize, ?_⟩
  · exact Entries.read_again (fun _ => rfl) (firstBound _) (written.get levelWritten rfl)
      consoleLevel (Threshold.ofText_word _)
  · exact written.logFile ordered belowDict upperDict firstBound logFile

end Section

end RpcRegistry
