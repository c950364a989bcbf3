import RpcRegistry.Proofs.Settings.Layers
import RpcRegistry.Proofs.Settings.Reading
import RpcRegistry.Proofs.Settings.Written

/-!
What a load that succeeds went through. The module files are read last, and the value of a module
file takes the place of what was said of its module before, the variables included: a variable
that sets something in the entry of a module is heard unless there is a file of that module which
says otherwise.
-/

namespace RpcRegistry.Settings

open Value Environment

/-- The value of the last file in a listing that holds the settings of a module. -/
def listedValue? (directory name : String) : List (String × Option String) → Option Value
  | [] => none
  | entry :: rest =>
      (listedValue? directory name rest).or
        (if moduleName? entry.1 = some name then
          (moduleValue (Path.join directory entry.1) entry.2).toOption
        else none)

def moduleFile? (tree : FileTree) (settings : Settings) (name : String) : Option Value :=
  settings.modulesDir.bind fun directory =>
    if tree.has directory then
      (tree.filesIn directory).toOption.bind (listedValue? directory name)
    else none

section

variable {source : Source} {host : Host} {tree files : FileTree} {settings loaded : Settings}
  {directory name : String} {listing : List (String × Option String)} {modules merged : Dict Value}

theorem extract_eq_ok_iff : extract source host = .ok settings ↔
    ∃ file environment, source.layer? host.files = some file ∧
      Environment.layer? host.environment = some environment ∧
      ofLayers? (layers (standardHomeDir host.home) file environment) = some settings := by
  constructor
  · intro extracted
    rw [extract_eq] at extracted
    split at extracted
    · cases extracted
    · rename_i environment spelled
      split at extracted
      · rename_i found isRead
        cases extracted
        obtain ⟨file, read, isRead⟩ := Option.bind_eq_some_iff.1 isRead
        exact ⟨file, environment, read, spelled, isRead⟩
      · cases extracted
  · rintro ⟨file, environment, read, spelled, isRead⟩
    rw [extract_of_layers read spelled, isRead]

theorem ordered_layers {file environment : Value} (homeDir : String) (fileOrdered : Ordered file)
    (environmentOrdered : Ordered environment) : Ordered (layers homeDir file environment) :=
  ((ordered_standard homeDir).merge fileOrdered).merge environmentOrdered

theorem get_mergeModules (done : mergeModules directory listing modules = .ok merged) :
    merged.get? name = (listedValue? directory name listing).or (modules.get? name) := by
  induction listing generalizing modules with
  | nil =>
      cases done
      cases merged.get? name <;> rfl
  | cons entry rest induction =>
      obtain ⟨fileName, text⟩ := entry
      rw [mergeModules] at done
      rw [listedValue?]
      cases named : moduleName? fileName with
      | none =>
          rw [named] at done
          rw [induction done, if_neg nofun, Option.or_none]
      | some own =>
          rw [named] at done
          obtain ⟨value, read, done⟩ := exists_of_bind_ok done
          -- This file is entered before the rest is read, so the rest may replace it.
          rw [induction done, read, Dict.get_insert, Option.or_assoc]
          by_cases same : name = own
          · rw [if_pos same, if_pos (congrArg some same.symm)]
            rfl
          · rw [if_neg same, if_neg fun other => same (Option.some.inj other).symm]
            rfl

/-- Whether the module files can be read does not depend on what was said of the modules. -/
theorem exists_mergeModules (other : Dict Value)
    (done : mergeModules directory listing modules = .ok merged) :
    ∃ again, mergeModules directory listing other = .ok again := by
  induction listing generalizing modules other with
  | nil => exact ⟨other, rfl⟩
  | cons entry rest induction =>
      obtain ⟨fileName, text⟩ := entry
      rw [mergeModules] at done ⊢
      cases named : moduleName? fileName with
      | none =>
          rw [named] at done
          exact induction other done
      | some own =>
          rw [named] at done
          obtain ⟨value, read, done⟩ := exists_of_bind_ok done
          obtain ⟨again, isAgain⟩ := induction (other.insert own value) done
          exact ⟨again, by simp only [read]; exact isAgain⟩

theorem stored_moduleValue {path : String} {text : Option String} {value : Value}
    (read : moduleValue path text = .ok value) : value.stored? = some value := by
  unfold moduleValue at read
  split at read
  · cases read
  · split at read
    · rename_i isStored
      cases read
      obtain ⟨parsed, _, isStored⟩ := Option.bind_eq_some_iff.1 isStored
      exact stored_stored parsed value isStored
    · cases read

theorem stored_listedValue {value : Value}
    (listed : listedValue? directory name listing = some value) : value.stored? = some value := by
  induction listing with
  | nil => cases listed
  | cons entry rest induction =>
      rw [listedValue?, Option.or_eq_some_iff] at listed
      rcases listed with inRest | ⟨_, own⟩
      · exact induction inRest
      · obtain ⟨_, read⟩ := Option.ite_none_right_eq_some.1 own
        exact stored_moduleValue (eq_ok_of_toOption read)

theorem stored_moduleFile {value : Value} (isFile : moduleFile? tree settings name = some value) :
    value.stored? = some value := by
  obtain ⟨directory, _, isFile⟩ := Option.bind_eq_some_iff.1 isFile
  obtain ⟨_, isListed⟩ := Option.ite_none_right_eq_some.1 isFile
  obtain ⟨listing, _, isListed⟩ := Option.bind_eq_some_iff.1 isListed
  exact stored_listedValue isListed

/-- Reading the module files changes nothing but the entries of the modules they name. -/
theorem exists_of_withModules (done : withModules tree settings = .ok loaded) :
    ∃ modules, loaded = { settings with modules } ∧
      ∀ name, modules.get? name =
        (moduleFile? tree settings name).or (settings.modules.get? name) := by
  unfold withModules at done
  split at done
  · rename_i unnamed
    cases done
    exact ⟨_, rfl, fun name => by rw [moduleFile?, unnamed]; rfl⟩
  · rename_i directory named
    split at done
    · rename_i there
      split at done
      · cases done
      · rename_i listing listed
        obtain ⟨merged, isMerged, done⟩ := exists_of_bind_ok done
        cases done
        refine ⟨merged, rfl, fun name => ?_⟩
        rw [moduleFile?, named, Option.bind_some, if_pos there, listed, get_mergeModules isMerged]
        rfl
    · rename_i absent
      cases done
      exact ⟨_, rfl, fun name => by rw [moduleFile?, named, Option.bind_some, if_neg absent]; rfl⟩

theorem withHomeDir_eq_ok_iff : withHomeDir host settings = (.ok loaded, files) ↔
    ∃ homeDir, Path.normalize host.home host.files.workingPath settings.homeDir = .ok homeDir ∧
      host.files.createDirectory homeDir = (none, files) ∧ loaded = { settings with homeDir } := by
  unfold withHomeDir
  constructor
  · intro isMoved
    split at isMoved
    · cases isMoved
    · rename_i homeDir normalized
      split at isMoved
      · rename_i made
        cases isMoved
        exact ⟨homeDir, normalized, made, rfl⟩
      · cases isMoved
  · rintro ⟨homeDir, normalized, made, rfl⟩
    rw [normalized]
    dsimp only
    rw [made]

theorem load_of_there (there : ∀ path, source = .required path → host.files.isFile path = true) :
    load source host =
      match extract source host with
      | .error error => (.error error, host.files)
      | .ok settings =>
          match settings.withHomeDir host with
          | (.error error, files) => (.error error, files)
          | (.ok settings, files) => (settings.withModules files, files) := by
  unfold load
  cases source with
  | builtIn => rfl
  | required path =>
      have present := there path rfl
      dsimp only
      generalize host.files.isFile path = isFile at present ⊢
      subst present
      rfl
  | searched path => rfl

/-- What settings go through after they have been extracted: their home directory is made, and the
module files are read. -/
structure LoadedFrom (host : Host) (extracted loaded : Settings) (files : FileTree) : Prop where
  homeDir : Path.normalize host.home host.files.workingPath extracted.homeDir = .ok loaded.homeDir
  made : host.files.createDirectory loaded.homeDir = (none, files)
  read : withModules files { extracted with homeDir := loaded.homeDir } = .ok loaded

theorem load_eq_ok_iff : load source host = (.ok loaded, files) ↔
    (∀ path, source = .required path → host.files.isFile path = true) ∧
      ∃ extracted, extract source host = .ok extracted ∧
        LoadedFrom host extracted loaded files := by
  constructor
  · intro loads
    have there : ∀ path, source = .required path → host.files.isFile path = true := by
      rintro path rfl
      by_contra absent
      unfold load at loads
      dsimp only at loads
      rw [if_neg absent] at loads
      cases loads
    rw [load_of_there there] at loads
    split at loads
    · cases loads
    · rename_i extracted isExtracted
      split at loads
      · cases loads
      · rename_i moved tree isMoved
        obtain ⟨homeDir, normalized, made, rfl⟩ := withHomeDir_eq_ok_iff.1 isMoved
        obtain ⟨read, rfl⟩ := Prod.mk.inj loads
        obtain ⟨modules, rfl, _⟩ := exists_of_withModules read
        exact ⟨there, extracted, isExtracted, normalized, made, read⟩
  · rintro ⟨there, extracted, isExtracted, ending⟩
    have isMoved := withHomeDir_eq_ok_iff.2 ⟨_, ending.homeDir, ending.made, rfl⟩
    rw [load_of_there there, isExtracted]
    dsimp only
    rw [isMoved]
    dsimp only
    rw [ending.read]

/-- What was extracted stays, but for the entries of modules that have a file. -/
theorem LoadedFrom.kept {extracted : Settings} (loads : LoadedFrom host extracted loaded files) :
    loaded.logging = extracted.logging ∧ loaded.modulesDir = extracted.modulesDir ∧
      ∀ name, loaded.modules.get? name =
        (moduleFile? files loaded name).or (extracted.modules.get? name) := by
  obtain ⟨modules, isLoaded, inTheEnd⟩ := exists_of_withModules loads.read
  rw [isLoaded]
  exact ⟨rfl, rfl, inTheEnd⟩

theorem exists_load_of_isSome (isSome : (load source host).1.toOption.isSome) :
    ∃ loaded files, load source host = (.ok loaded, files) := by
  obtain ⟨loaded, done⟩ := Option.isSome_iff_exists.1 isSome
  exact ⟨loaded, _, Prod.ext (eq_ok_of_toOption done) rfl⟩

end

/-- What a variable sets in the entry of a module is there in the end, unless the file of that
module says otherwise. -/
theorem module_of_variable {source : Source} {host : Host} {loaded : Settings} {files : FileTree}
    {given : Variable} {name : String} {keys : List String} {value : Value}
    (loads : load source host = (.ok loaded, files)) (unmixed : Unmixed host.environment)
    (member : given ∈ host.environment) (sets : Sets given ("modules" :: name :: keys) value)
    (notDict : value.isDict = false) :
    ∃ stored, value.stored? = some stored ∧
      ((∃ entry, loaded.modules.get? name = some entry ∧ entry.at? keys = some stored) ↔
        ∀ fromFile, moduleFile? files loaded name = some fromFile →
          fromFile.at? keys = some stored) := by
  obtain ⟨_, extracted, isExtracted, ending⟩ := load_eq_ok_iff.1 loads
  obtain ⟨file, environment, fileRead, isLayer, isRead⟩ := extract_eq_ok_iff.1 isExtracted
  obtain ⟨entries, isMerged, readFrom⟩ := exists_of_ofLayers isRead
  have environmentOrdered := ordered_layer isLayer
  have mergedOrdered := ordered_layers (standardHomeDir host.home)
    (Source.dictionary_layer fileRead).1 environmentOrdered
  have held : (layers (standardHomeDir host.home) file environment).at?
      ("modules" :: name :: keys) = some value :=
    (at_merge environmentOrdered notDict).2 (Or.inl (sets.at_layer isLayer unmixed member notDict))
  rw [isMerged] at mergedOrdered held
  obtain ⟨entry, stored, bound, isStored, atKeys⟩ := readFrom.module_entry mergedOrdered held
  refine ⟨stored, isStored, ?_⟩
  rw [ending.kept.2.2, bound]
  cases moduleFile? files loaded name with
  | none => simp [atKeys]
  | some fromFile => simp

def overruledHost : Host where
  home := "/home"
  environment := [⟨"APP__MODULES_DIR", "m"⟩, ⟨"APP__MODULES__REGISTRAR__OWNER", "daemon"⟩]
  files := ⟨[(["m"], .directory), (["m", "registrar.yaml"], .file (some "owner: nobody\n"))], []⟩

theorem unmixed_overruledHost : Unmixed overruledHost.environment := by
  unfold Unmixed
  decide +kernel

theorem sets_owner : Sets ⟨"APP__MODULES__REGISTRAR__OWNER", "daemon"⟩
    ["modules", "registrar", "owner"] (.text "daemon") :=
  ⟨by decide +kernel, rfl⟩

theorem module_of_overruled_variable : ∃ loaded files,
    load .builtIn overruledHost = (.ok loaded, files) ∧
    ∃ stored, (Value.text "daemon").stored? = some stored ∧
      ((∃ entry, loaded.modules.get? "registrar" = some entry ∧
          entry.at? ["owner"] = some stored) ↔
        ∀ fromFile, moduleFile? files loaded "registrar" = some fromFile →
          fromFile.at? ["owner"] = some stored) := by
  obtain ⟨loaded, files, loads⟩ := exists_load_of_isSome
    (show (load .builtIn overruledHost).1.toOption.isSome by decide +kernel)
  exact ⟨loaded, files, loads,
    module_of_variable loads unmixed_overruledHost (by simp [overruledHost]) sets_owner rfl⟩

/-- Whatever a variable sets in the entry of a module is there in the end. -/
def HearsVariables (source : Source) (host : Host) : Prop :=
  ∀ loaded files, load source host = (.ok loaded, files) → ∀ given ∈ host.environment,
    ∀ name keys value, Sets given ("modules" :: name :: keys) value → value.isDict = false →
      ∃ entry stored, loaded.modules.get? name = some entry ∧ value.stored? = some stored ∧
        entry.at? keys = some stored

theorem not_hearsVariables_of_module_file :
    Unmixed overruledHost.environment ∧ ¬ HearsVariables .builtIn overruledHost := by
  refine ⟨unmixed_overruledHost, fun hears => ?_⟩
  obtain ⟨loaded, files, loads⟩ := exists_load_of_isSome
    (show (load .builtIn overruledHost).1.toOption.isSome by decide +kernel)
  have owner : (((load .builtIn overruledHost).1.toOption.bind fun loaded =>
      loaded.modules.get? "registrar").bind fun entry => entry.at? ["owner"]).bind
        Value.string? = some "nobody" := by decide +kernel
  obtain ⟨entry, stored, bound, isStored, held⟩ := hears loaded files loads _
    (by simp [overruledHost]) "registrar" ["owner"] (.text "daemon") sets_owner rfl
  have isDaemon : Value.text "daemon" = stored := Option.some.inj isStored
  rw [loads] at owner
  have isNobody : (entry.at? ["owner"]).bind Value.string? = some "nobody" := by
    simpa [Except.toOption, bound] using owner
  rw [held, ← isDaemon] at isNobody
  exact absurd isNobody (by decide)

end RpcRegistry.Settings
