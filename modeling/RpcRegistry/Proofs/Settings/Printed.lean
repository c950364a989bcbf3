import RpcRegistry.Proofs.Settings.Encoding
import RpcRegistry.Proofs.Yaml.RoundTrip

/-!
Settings that are read from the text they are printed as: their numbers fit, and their texts stand
on the lines of their keys.
-/

namespace RpcRegistry

open Yaml

/-- No text of the settings takes more than its line, or loses anything on it. -/
structure Settings.IsInLines (settings : Settings) : Prop where
  homeDir : isLineText settings.homeDir.toList = true
  sections : ∀ entry ∈ settings.logging.entries, isLineName entry.1 = true ∧
    ∀ file ∈ entry.2.logFile, isLineText file.name.toList = true
  modulesDir : ∀ directory ∈ settings.modulesDir, isLineText directory.toList = true
  modules : ∀ entry ∈ settings.modules.entries, isLineName entry.1 = true ∧
    isLineTree (Lenient.maxDepth - 2) entry.2 = true

section

variable {current : Section} {depth : Nat}

theorem isLineScalar_word (threshold : Log.Threshold) :
    isLineScalar (.text (Log.Threshold.word threshold)) = true := by
  rcases threshold with _ | level
  · decide +kernel
  · cases level <;> decide +kernel

theorem isLineScalar_ofNat {given : Option Nat} (fits : ∀ n ∈ given, n < UInt64.size) :
    isLineScalar (Value.ofNat? given) = true := by
  cases given with
  | none => rfl
  | some n =>
      have json := Value.isJson_ofNat fits
      cases json with
      | int signed unsigned => exact (Value.storable_iff _).2 ⟨signed, unsigned⟩

theorem isLineScalar_ofText {given : Option String}
    (inLines : ∀ s ∈ given, isLineText s.toList = true) :
    isLineScalar (Value.ofText? given) = true := by
  cases given with
  | none => rfl
  | some s => exact inLines s rfl

theorem Section.isLineTree_value (fits : current.Fits)
    (named : ∀ file ∈ current.logFile, isLineText file.name.toList = true) :
    isLineTree (depth + 1) current.value = true := by
  have small : UInt32.size < UInt64.size := by decide
  have names : ∀ name ∈ ["console_level", "file", "file_level", "max_age_days", "max_backups",
      "max_size_mb"], isLineName name = true := by decide +kernel
  have age := isLineScalar_ofNat fun n isAge => Nat.lt_trans (fits.maxAgeDays n isAge) small
  have backups := isLineScalar_ofNat fits.maxBackups
  have size := isLineScalar_ofNat fits.maxSizeMegabytes
  have each : ∀ entry ∈ current.members,
      isLineName entry.1 = true ∧ isLineScalar entry.2 = true := by
    simp only [List.forall_mem_cons] at names
    unfold members
    cases isFile : current.logFile with
    | none => simp [isLineScalar_word, age, backups, size, names]
    | some file =>
        have isText : isLineScalar (.text file.name) = true := named file isFile
        simp [isLineScalar_word, isText, age, backups, size, names]
  apply isLineTree_dict
  intro entry member
  obtain ⟨isName, isScalar⟩ := each entry (Entries.mem_ofList member)
  exact ⟨isName, isLineTree_of_isLineScalar isScalar⟩

end

/-- Such settings are read from their own text, member by member. -/
theorem Settings.readEntries_yaml {settings : Settings} (fits : settings.Fits)
    (inLines : settings.IsInLines) :
    Lenient.readEntries settings.yaml = .ok (Entries.ofList settings.members) := by
  apply Lenient.readEntries_render
  have names : ∀ name ∈ ["server", "home_dir", "logging", "modules_dir", "modules"],
      isLineName name = true := by decide +kernel
  simp only [List.forall_mem_cons] at names
  simp only [members, List.forall_mem_cons]
  refine ⟨⟨names.1, ?_, ordered_serverValue _⟩, ⟨names.2.2.1, ?_, ordered_loggingValue _⟩,
    ⟨names.2.2.2.1, ?_, .undivided (Value.isUndivided_ofText _)⟩, ⟨names.2.2.2.2.1, ?_, ?_⟩,
    List.forall_mem_nil _⟩
  · apply isLineTree_dict
    rw [List.forall_mem_singleton]
    have isScalar : isLineScalar (.text settings.homeDir) = true := inLines.homeDir
    exact ⟨names.2.1, isLineTree_of_isLineScalar isScalar⟩
  · apply isLineTree_dict
    intro entry member
    obtain ⟨bound, inLogging, rfl⟩ := List.mem_map.1 member
    obtain ⟨isName, named⟩ := inLines.sections bound inLogging
    exact ⟨isName, Section.isLineTree_value (fits.sections bound inLogging) named⟩
  · exact isLineTree_of_isLineScalar (isLineScalar_ofText inLines.modulesDir)
  · exact isLineTree_dict inLines.modules
  · exact .dict settings.modules.sorted fun entry member => (fits.modules entry member).ordered

end RpcRegistry
