import RpcRegistry.Proofs.FileTree
import RpcRegistry.Proofs.Path
import RpcRegistry.Proofs.Settings.Loading
import RpcRegistry.Proofs.Settings.Printed
import RpcRegistry.Proofs.Value.Equality

/-!
Settings that were loaded, printed, saved and loaded again in the same environment. If the printed
text is read as the settings it was printed from, as it is where their texts stand on their lines,
the load succeeds, and all comes back except what the text cannot say: there are no words for a
section without a log file, so the defaults and the variables are heard on it again, and a missing
default section is put back.
-/

namespace RpcRegistry.Settings

open Value Environment

/-- A tree that holds printed settings under a path, and to loading shows nothing else that was
not there before. -/
structure SavedAt (path : String) (settings : Settings) (before after : FileTree) : Prop where
  working : after.working = before.working
  isFile : after.isFile path = true
  found : (searchPaths after path).findSome? after.file? = some (some settings.yaml)
  homeDir : after.isDirectory settings.homeDir = true
  modulesDir : ∀ directory, settings.modulesDir = some directory →
    after.has directory = before.has directory ∧ after.filesIn directory = before.filesIn directory

structure ComesBack (refilled : String → Option LogFile) (saved again : Settings) : Prop where
  homeDir : again.homeDir = saved.homeDir
  logging : ∀ key, again.logging.get? key =
    ((saved.logging.get? key).map fun current => current.refill (refilled key)).or
      (standardLogging.get? key)
  modulesDir : again.modulesDir = saved.modulesDir
  modules : again.modules = saved.modules

section

variable {path : String} {settings again loaded : Settings} {before after : FileTree}

theorem ComesBack.eq_iff {refilled : String → Option LogFile}
    (comesBack : ComesBack refilled settings again) :
    again = settings ↔ (settings.logging.get? defaultKey).isSome ∧
      ∀ key current, settings.logging.get? key = some current → current.logFile = none →
        refilled key = none := by
  constructor
  · rintro rfl
    have logging := comesBack.logging
    constructor
    · have isDefault := logging defaultKey
      cases found : again.logging.get? defaultKey with
      | some current => rfl
      | none =>
          rw [found] at isDefault
          cases isDefault
    · intro key current found
      have isCurrent := logging key
      rw [found, Option.map_some, Option.some_or, Option.some.injEq] at isCurrent
      exact Section.refill_eq_self_iff.1 isCurrent.symm
  · rintro ⟨hasDefault, notRefilled⟩
    have sameLogging : again.logging = settings.logging := by
      apply Dict.ext_get
      intro key
      rw [comesBack.logging]
      cases found : settings.logging.get? key with
      | some current =>
          exact congrArg some (Section.refill_eq_self_iff.2 (notRefilled key current found))
      | none =>
          have notDefault : key ≠ defaultKey := by
            rintro rfl
            rw [found] at hasDefault
            cases hasDefault
          rw [standardLogging, Dict.get_insert, if_neg notDefault]
          rfl
    cases again
    cases settings
    rw [mk.injEq]
    exact ⟨comesBack.homeDir, sameLogging, comesBack.modulesDir, comesBack.modules⟩

theorem LoadedFrom.stored_modules {host : Host} {extracted : Settings} {merged : Value}
    (ending : LoadedFrom host extracted loaded before) (ordered : Ordered merged)
    (isRead : ofLayers? merged = some extracted) :
    ∀ name entry, loaded.modules.get? name = some entry → entry.stored? = some entry := by
  intro name entry bound
  obtain ⟨_, _, modules⟩ := ending.kept
  rw [modules, Option.or_eq_some_iff] at bound
  rcases bound with isFile | ⟨_, bound⟩
  · exact stored_moduleFile isFile
  · obtain ⟨entries, rfl, readFrom⟩ := exists_of_ofLayers isRead
    exact readFrom.stored_entry ordered bound

theorem SavedAt.layer (saved : SavedAt path settings before after)
    (reads : Yaml.Lenient.readEntries settings.yaml = .ok (Entries.ofList settings.members)) :
    Source.layer? (.required path) after = some settings.value := by
  have opened : Source.layer? (.required path) after = fileLayer? after path := rfl
  rw [opened, fileLayer?, saved.found]
  dsimp only
  rw [reads]
  rfl

theorem SavedAt.moduleFile (saved : SavedAt path settings before after)
    (sameModulesDir : again.modulesDir = settings.modulesDir) (name : String) :
    moduleFile? after again name = moduleFile? before settings name := by
  unfold moduleFile?
  rw [sameModulesDir]
  cases named : settings.modulesDir with
  | none => rfl
  | some directory =>
      obtain ⟨sameHas, sameFiles⟩ := saved.modulesDir directory named
      rw [Option.bind_some, Option.bind_some, sameHas, sameFiles]

theorem SavedAt.exists_withModules {extracted : Settings} (again : Settings)
    (saved : SavedAt path settings before after)
    (done : withModules before extracted = .ok loaded)
    (sameModulesDir : extracted.modulesDir = settings.modulesDir)
    (sameAgain : again.modulesDir = settings.modulesDir) :
    ∃ modules, withModules after again = .ok { again with modules } := by
  suffices reads : ∃ whole, withModules after again = .ok whole by
    obtain ⟨whole, isRead⟩ := reads
    obtain ⟨modules, rfl, _⟩ := exists_of_withModules isRead
    exact ⟨modules, isRead⟩
  unfold withModules at done ⊢
  rw [sameModulesDir] at done
  rw [sameAgain]
  cases named : settings.modulesDir with
  | none => exact ⟨_, rfl⟩
  | some directory =>
      obtain ⟨sameHas, sameFiles⟩ := saved.modulesDir directory named
      rw [named] at done
      dsimp only at done ⊢
      rw [sameHas, sameFiles]
      split at done
      · rename_i there
        rw [if_pos there]
        split at done
        · cases done
        · obtain ⟨merged, isMerged, _⟩ := exists_of_bind_ok done
          obtain ⟨mergedAgain, isMergedAgain⟩ := exists_mergeModules again.modules isMerged
          rw [isMergedAgain]
          exact ⟨_, rfl⟩
      · rename_i absent
        rw [if_neg absent]
        exact ⟨_, rfl⟩

theorem SavedAt.modules_eq {extracted raw : Settings} {host : Host}
    (saved : SavedAt path loaded before after) (ending : LoadedFrom host extracted loaded before)
    (endingAgain : LoadedFrom { host with files := after } raw again after)
    (sameModulesDir : again.modulesDir = loaded.modulesDir)
    (rawModules : ∀ name, loaded.modules.get? name = extracted.modules.get? name →
      raw.modules.get? name = extracted.modules.get? name) : again.modules = loaded.modules := by
  obtain ⟨_, _, modules⟩ := ending.kept
  obtain ⟨_, _, modulesAgain⟩ := endingAgain.kept
  apply Dict.ext_get
  intro name
  rw [modulesAgain, saved.moduleFile sameModulesDir, modules]
  cases isFile : moduleFile? before loaded name with
  | some fromFile => rfl
  | none =>
      rw [Option.none_or, Option.none_or]
      apply rawModules
      rw [modules, isFile, Option.none_or]

theorem SavedAt.normalize_again {extracted : Settings} {host : Host} {homeDir : String}
    (saved : SavedAt path loaded before after) (ending : LoadedFrom host extracted loaded before)
    (rawHomeDir : homeDir = extracted.homeDir ∨ homeDir = loaded.homeDir) :
    Path.normalize host.home after.workingPath homeDir = .ok loaded.homeDir := by
  have sameWorking : after.workingPath = host.files.workingPath := by
    rw [FileTree.workingPath, saved.working, FileTree.working_createDirectory ending.made,
      FileTree.workingPath]
  rcases rawHomeDir with isExtracted | isLoaded
  · rw [sameWorking, isExtracted, ending.homeDir]
  · rw [isLoaded]
    exact Path.normalize_of_isAbsolute
      (Path.isAbsolute_normalize (Location.isAbsolute_path _) ending.homeDir)

end

/-- Loaded settings that are saved as they are printed load again, and come back the same exactly
when there is a default section and nothing puts a log file where they have none. -/
theorem load_saved {source : Source} {host : Host} {loaded : Settings} {files saved : FileTree}
    {path : String} (loads : load source host = (.ok loaded, files))
    (isSaved : SavedAt path loaded files saved)
    (reads : Yaml.Lenient.readEntries loaded.yaml = .ok (Entries.ofList loaded.members)) :
    ∃ again, load (.required path) { host with files := saved } = (.ok again, saved) ∧
      ComesBack (refillOf (member? (Environment.layer? host.environment) "logging")) loaded again ∧
      (again = loaded ↔ (loaded.logging.get? defaultKey).isSome ∧
        ∀ key current, loaded.logging.get? key = some current → current.logFile = none →
          refillOf (member? (Environment.layer? host.environment) "logging") key = none) := by
  obtain ⟨_, extracted, isExtracted, ending⟩ := load_eq_ok_iff.1 loads
  obtain ⟨file, environment, fileRead, isLayer, isRead⟩ := extract_eq_ok_iff.1 isExtracted
  obtain ⟨fileOrdered, fileDict⟩ := Source.dictionary_layer fileRead
  have environmentOrdered := ordered_layer isLayer
  obtain ⟨sameLogging, sameModulesDir, _⟩ := ending.kept
  have stored := ending.stored_modules (ordered_layers _ fileOrdered environmentOrdered) isRead
  -- The second reading stands under the same variables, so only the layer of the file differs.
  obtain ⟨raw, isRaw, rawHomeDir, rawLogging, rawModulesDir, rawModules⟩ :=
    ofLayers_again fileDict fileOrdered environmentOrdered isRead sameLogging sameModulesDir stored
  have extractedAgain : extract (.required path) { host with files := saved } = .ok raw :=
    extract_eq_ok_iff.2 ⟨loaded.value, environment, isSaved.layer reads, isLayer, isRaw⟩
  have normalizedAgain := isSaved.normalize_again ending rawHomeDir
  have madeAgain : saved.createDirectory loaded.homeDir = (none, saved) :=
    FileTree.createDirectory_of_isDirectory isSaved.homeDir
  obtain ⟨bag, readAgain⟩ := isSaved.exists_withModules { raw with homeDir := loaded.homeDir }
    ending.read sameModulesDir.symm rawModulesDir
  obtain ⟨again, homeDirAgain, endingAgain⟩ : ∃ again : Settings, again.homeDir = loaded.homeDir ∧
      LoadedFrom { host with files := saved } raw again saved :=
    ⟨{ raw with homeDir := loaded.homeDir, modules := bag }, rfl, normalizedAgain, madeAgain,
      readAgain⟩
  obtain ⟨loggingAgain, modulesDirAgain, _⟩ := endingAgain.kept
  have directoryAgain := modulesDirAgain.trans rawModulesDir
  have comesBack : ComesBack (refillOf (member? (Environment.layer? host.environment) "logging"))
      loaded again := by
    constructor
    · exact homeDirAgain
    · rw [isLayer, loggingAgain]
      exact rawLogging
    · exact directoryAgain
    · exact isSaved.modules_eq ending endingAgain directoryAgain rawModules
  refine ⟨again, load_eq_ok_iff.2 ⟨?_, raw, extractedAgain, endingAgain⟩, comesBack,
    comesBack.eq_iff⟩
  rintro other same
  cases same
  exact isSaved.isFile

/-- A settings file takes the log file away from the default section. -/
def fileLessHost : Host where
  home := "/home"
  environment := []
  files := ⟨[(["a.yaml"], .file (some "logging: \x7bdefault: \x7bfile: null\x7d\x7d"))], []⟩

def printedText : String :=
  "server:\n  home_dir: /home/.pmreg\n" ++
    "logging:\n  default:\n    console_level: INFO\n" ++
    "    max_age_days: 7\n    max_backups: 3\n    max_size_mb: 100\n" ++
    "modules_dir: null\nmodules: \x7b\x7d\n"

def printedTree : FileTree :=
  (load (.required "/a.yaml") fileLessHost).2.add ["p.yaml"] (.file (some printedText))

def fileLessSection : Section := { standardSection with logFile := none }

theorem exists_printed : ∃ loaded files,
    load (.required "/a.yaml") fileLessHost = (.ok loaded, files) ∧
    SavedAt "/p.yaml" loaded files printedTree ∧
    Yaml.Lenient.readEntries loaded.yaml = .ok (Entries.ofList loaded.members) ∧
    (loaded.logging.get? defaultKey).bind Section.logFile = none := by
  have facts : ((load (.required "/a.yaml") fileLessHost).1.toOption.map fun loaded =>
      ((loaded.yaml, loaded.homeDir, loaded.modulesDir),
        loaded.logging.entries, loaded.modules.entries.isEmpty)) =
      some ((printedText, "/home/.pmreg", none), [(defaultKey, fileLessSection)], true) := by
    decide +kernel
  obtain ⟨loaded, files, loads⟩ : ∃ loaded files,
      load (.required "/a.yaml") fileLessHost = (.ok loaded, files) := by
    apply exists_load_of_isSome
    rw [← Option.isSome_map, facts]
    rfl
  rw [loads] at facts
  obtain ⟨⟨isPrinted, homeDir, modulesDir⟩, sections, modules⟩ :
      (loaded.yaml = printedText ∧ loaded.homeDir = "/home/.pmreg" ∧ loaded.modulesDir = none) ∧
        loaded.logging.entries = [(defaultKey, fileLessSection)] ∧ loaded.modules.entries = [] := by
    simpa [Except.toOption] using facts
  have fits : loaded.Fits := by
    constructor
    · rw [sections, List.forall_mem_singleton]
      constructor <;> (rintro n ⟨⟩; decide)
    · rw [modules]
      exact List.forall_mem_nil _
  have inLines : loaded.IsInLines := by
    constructor
    · rw [homeDir]
      decide +kernel
    · rw [sections, List.forall_mem_singleton]
      exact ⟨by decide +kernel, fun _ isFile => absurd isFile (Option.not_mem_none _)⟩
    · rw [modulesDir]
      exact fun _ named => absurd named (Option.not_mem_none _)
    · rw [modules]
      exact List.forall_mem_nil _
  refine ⟨loaded, files, loads, ?_, readEntries_yaml fits inLines, ?_⟩
  · constructor
    · rw [printedTree, loads]
      rfl
    · decide +kernel
    · rw [isPrinted]
      decide +kernel
    · rw [homeDir]
      decide +kernel
    · intro directory named
      rw [modulesDir] at named
      cases named
  · rw [Dict.get?, sections]
    rfl

theorem load_saved_without_file : ∃ loaded files,
    load (.required "/a.yaml") fileLessHost = (.ok loaded, files) ∧
    ∃ again, load (.required "/p.yaml") { fileLessHost with files := printedTree } =
        (.ok again, printedTree) ∧
      ComesBack (refillOf (member? (Environment.layer? fileLessHost.environment) "logging"))
        loaded again ∧
      (again = loaded ↔ (loaded.logging.get? defaultKey).isSome ∧
        ∀ key current, loaded.logging.get? key = some current → current.logFile = none →
          refillOf (member? (Environment.layer? fileLessHost.environment) "logging") key =
            none) := by
  obtain ⟨loaded, files, loads, isSaved, reads, _⟩ := exists_printed
  exact ⟨loaded, files, loads, load_saved loads isSaved reads⟩

/-- Whatever is loaded and saved as it is printed loads as it was. -/
def ReloadsSame (source : Source) (host : Host) : Prop :=
  ∀ loaded files, load source host = (.ok loaded, files) → ∀ path saved,
    SavedAt path loaded files saved →
      load (.required path) { host with files := saved } = (.ok loaded, saved)

theorem not_reloadsSame_without_file : ¬ ReloadsSame (.required "/a.yaml") fileLessHost := by
  intro reloadsSame
  obtain ⟨loaded, files, loads, isSaved, _, noFile⟩ := exists_printed
  have hasFile : ((load (.required "/p.yaml")
      { fileLessHost with files := printedTree }).1.toOption.bind fun again =>
        again.logging.get? defaultKey).bind Section.logFile =
      some ⟨"logs/pmreg.log", some .debug⟩ := by decide +kernel
  rw [reloadsSame loaded files loads _ _ isSaved] at hasFile
  exact absurd (noFile.symm.trans hasFile) nofun

end RpcRegistry.Settings
