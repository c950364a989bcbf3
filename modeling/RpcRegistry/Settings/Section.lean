import RpcRegistry.Log.Level
import RpcRegistry.Value

/-!
One section of the logging settings: how much of a target's records goes to the console and to a
log file, and how the file is kept. A section is read from a dictionary and ignores keys it does
not know; the log file is part of it only if file name and file level can both be read.
-/

namespace RpcRegistry

open Log
open RpcRegistry.Text

structure LogFile where
  name : String
  level : Threshold
  deriving DecidableEq, Repr

structure Section where
  consoleLevel : Threshold
  logFile : Option LogFile
  maxAgeDays : Option Nat
  maxBackups : Option Nat
  maxSizeMegabytes : Option Nat
  deriving DecidableEq, Repr

namespace Log.Threshold

/-- Reads a threshold in any case: `off` or `none`, the name of a level, or its rank. -/
def ofText? (text : String) : Option Threshold :=
  let lowered := lowerCase text.toList
  if lowered = "off".toList ∨ lowered = "none".toList then some none
  else
    match Level.ofName? lowered with
    | some level => some (some level)
    | none => ((Numeral.unsigned? (UInt64.size - 1) lowered).bind Level.ofRank?).map some

def ofValue? : Value → Option Threshold
  | .text s => ofText? s
  | _ => none

def word : Threshold → String
  | none => "off"
  | some level => level.name

theorem ofText_word (threshold : Threshold) : ofText? (word threshold) = some threshold := by
  rcases threshold with _ | level
  · decide
  · cases level <;> decide

end Log.Threshold

namespace LogFile

/-- The file of a section. A file that is given without a level takes `info`. -/
def ofEntries? (entries : List (String × Value)) : Option LogFile := do
  let name ← Entries.read? "file" none Value.string? entries
  let level ← Entries.read? "file_level" (some (some .info)) Threshold.ofValue? entries
  some ⟨name, level⟩

end LogFile

namespace Section

def ofValue? : Value → Option Section
  | .dict entries => do
      let consoleLevel ←
        Entries.read? "console_level" (some (some .info)) Threshold.ofValue? entries
      let maxAgeDays ←
        Entries.read? "max_age_days" (some none) (Value.optionalNat? (UInt32.size - 1)) entries
      let maxBackups ←
        Entries.read? "max_backups" (some none) (Value.optionalNat? (UInt64.size - 1)) entries
      let maxSizeMegabytes ←
        Entries.read? "max_size_mb" (some none) (Value.optionalNat? (UInt64.size - 1)) entries
      some ⟨consoleLevel, LogFile.ofEntries? entries, maxAgeDays, maxBackups, maxSizeMegabytes⟩
  | _ => none

def members (settings : Section) : List (String × Value) :=
  [("console_level", Value.text (Threshold.word settings.consoleLevel))] ++
    (match settings.logFile with
      | some file =>
          [("file", Value.text file.name), ("file_level", .text (Threshold.word file.level))]
      | none => []) ++
    [("max_age_days", Value.ofNat? settings.maxAgeDays),
      ("max_backups", Value.ofNat? settings.maxBackups),
      ("max_size_mb", Value.ofNat? settings.maxSizeMegabytes)]

def value (settings : Section) : Value := Value.ofEntries settings.members

/-- The file that is written to; an empty name is no file. -/
def file? (settings : Section) : Option String :=
  (settings.logFile.map LogFile.name).filter (· ≠ "")

def fileLevel (settings : Section) : Threshold := settings.logFile.bind LogFile.level

/-- The size at which a log file is rotated: a hundred megabytes if nothing is said, and never
more than a 64-bit word holds. -/
def maxSizeBytes (settings : Section) : Nat :=
  min (settings.maxSizeMegabytes.getD 100 * 1048576) (UInt64.size - 1)

end Section

end RpcRegistry
