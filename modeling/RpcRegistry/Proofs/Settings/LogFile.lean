import RpcRegistry.Proofs.Log.Threshold
import RpcRegistry.Proofs.Settings.Section

/-!
What a section says of its log file, and what becomes of it. A section that is read has the file
it names, unless the level given for the file is no level: then the file is dropped and the section
is read all the same, where an unreadable level of the console has the section refused.
-/

namespace RpcRegistry

open Value Log

namespace Entries

/-- The level that a member gives: `info` if there is no such member. -/
inductive LevelAt (key : String) (entries : List (String × Value)) : Threshold → Prop
  | absent (missing : Entries.get? key entries = none) : LevelAt key entries (some .info)
  | written (word : String) (level : Threshold)
      (given : Entries.get? key entries = some (.text word)) (means : level.NamedBy word) :
      LevelAt key entries level

/-- The limit that a member gives: none if there is no such member or it is null. -/
inductive LimitAt (key : String) (bound : Nat) (entries : List (String × Value)) :
    Option Nat → Prop
  | absent (missing : Entries.get? key entries = none) : LimitAt key bound entries none
  | null (given : Entries.get? key entries = some .null) : LimitAt key bound entries none
  | number (limit : Nat) (given : Entries.get? key entries = some (.int limit))
      (inBound : limit ≤ bound) : LimitAt key bound entries (some limit)

variable {key : String} {entries : List (String × Value)}

theorem read_level_iff {level : Threshold} :
    Entries.read? key (some (some .info)) Threshold.ofValue? entries = some level ↔
      LevelAt key entries level := by
  constructor
  · intro isRead
    unfold Entries.read? at isRead
    split at isRead
    · rename_i value given
      cases value with
      | text word => exact .written word level given (Threshold.namedBy_of_ofText isRead)
      | _ => cases isRead
    · rename_i missing
      cases isRead
      exact .absent missing
  · intro gives
    unfold Entries.read?
    cases gives with
    | absent missing => rw [missing]
    | written word _ given means =>
        rw [given]
        exact Threshold.ofText_of_namedBy means

theorem read_limit_iff {bound : Nat} {limit : Option Nat} :
    Entries.read? key (some none) (optionalNat? bound) entries = some limit ↔
      LimitAt key bound entries limit := by
  constructor
  · intro isRead
    unfold Entries.read? at isRead
    split at isRead
    · rename_i value given
      obtain ⟨rfl, inBound⟩ := optionalNat_eq_some_iff.1 isRead
      cases limit with
      | none => exact .null given
      | some n => exact .number n given (inBound n rfl)
    · rename_i missing
      cases isRead
      exact .absent missing
  · intro gives
    unfold Entries.read?
    cases gives with
    | absent missing => rw [missing]
    | null given =>
        rw [given]
        rfl
    | number limit given inBound =>
        rw [given]
        apply optionalNat_eq_some_iff.2
        constructor
        · rfl
        · intro n isLimit
          cases isLimit
          exact inBound

end Entries

namespace Section

open Entries

variable {entries : List (String × Value)} {settings : Section}

structure SpelledBy (entries : List (String × Value)) (settings : Section) : Prop where
  consoleLevel : LevelAt "console_level" entries settings.consoleLevel
  logFile : ∀ file, settings.logFile = some file ↔
    Entries.get? "file" entries = some (.text file.name) ∧ LevelAt "file_level" entries file.level
  maxAgeDays : LimitAt "max_age_days" (UInt32.size - 1) entries settings.maxAgeDays
  maxBackups : LimitAt "max_backups" (UInt64.size - 1) entries settings.maxBackups
  maxSizeMegabytes : LimitAt "max_size_mb" (UInt64.size - 1) entries settings.maxSizeMegabytes

theorem ofValue_iff_spelledBy : ofValue? (.dict entries) = some settings ↔
    SpelledBy entries settings := by
  have files : ∀ file, LogFile.ofEntries? entries = some file ↔
      Entries.get? "file" entries = some (.text file.name) ∧
        LevelAt "file_level" entries file.level := by
    intro file
    rw [LogFile.ofEntries_eq_some_iff, read_string_iff, read_level_iff]
  rw [ofValue_dict, read_level_iff, read_limit_iff, read_limit_iff, read_limit_iff]
  constructor
  · rintro ⟨consoleLevel, maxAgeDays, maxBackups, maxSize, logFile⟩
    rw [logFile] at files
    exact ⟨consoleLevel, files, maxAgeDays, maxBackups, maxSize⟩
  · intro spelled
    refine ⟨spelled.consoleLevel, spelled.maxAgeDays, spelled.maxBackups,
      spelled.maxSizeMegabytes, ?_⟩
    apply Option.ext
    intro file
    exact (files file).trans (spelled.logFile file).symm

/-- No log file is dropped without a word: an object that is read has the file it names, at the
level it gives, and an object whose console or whose file has no readable level is refused. -/
structure KeepsLogFile (entries : List (String × Value)) : Prop where
  kept : ∀ settings name, ofValue? (.dict entries) = some settings →
    Entries.get? "file" entries = some (.text name) →
      ∃ level, LevelAt "file_level" entries level ∧ settings.logFile = some ⟨name, level⟩
  console : (∀ level, ¬ LevelAt "console_level" entries level) → ofValue? (.dict entries) = none
  file : ∀ name, Entries.get? "file" entries = some (.text name) →
    (∀ level, ¬ LevelAt "file_level" entries level) → ofValue? (.dict entries) = none

theorem keepsLogFile_iff (entries : List (String × Value)) :
    (∀ settings, ofValue? (.dict entries) = some settings ↔ SpelledBy entries settings) ∧
      (KeepsLogFile entries ↔ ∀ settings name, SpelledBy entries settings →
        Entries.get? "file" entries = some (.text name) →
          ∃ level, LevelAt "file_level" entries level) := by
  constructor
  · intro settings
    exact ofValue_iff_spelledBy
  constructor
  · intro keeps settings name spelled named
    obtain ⟨level, gives, _⟩ := keeps.kept settings name (ofValue_iff_spelledBy.2 spelled) named
    exact ⟨level, gives⟩
  · intro readable
    constructor
    · intro settings name isRead named
      have spelled := ofValue_iff_spelledBy.1 isRead
      obtain ⟨level, gives⟩ := readable settings name spelled named
      exact ⟨level, gives, (spelled.logFile ⟨name, level⟩).2 ⟨named, gives⟩⟩
    · intro unreadable
      apply Option.eq_none_iff_forall_ne_some.2
      intro settings isRead
      exact unreadable _ (ofValue_iff_spelledBy.1 isRead).consoleLevel
    · intro name named unreadable
      apply Option.eq_none_iff_forall_ne_some.2
      intro settings isRead
      obtain ⟨level, gives⟩ := readable settings name (ofValue_iff_spelledBy.1 isRead) named
      exact unreadable level gives

theorem not_keepsLogFile_of_loud :
    ¬ KeepsLogFile [("file", .text "a.log"), ("file_level", .text "loud")] := by
  intro keeps
  obtain ⟨level, _, isKept⟩ := keeps.kept ⟨some .info, none, none, none, none⟩ "a.log"
    (by decide) rfl
  cases isKept

end Section

end RpcRegistry
