import RpcRegistry.Proofs.FileTree.Listing
import RpcRegistry.Proofs.Path
import RpcRegistry.Proofs.Settings.Loading
import RpcRegistry.Proofs.Value.Equality

/-!
The files that a directory holds for modules, whatever else it holds and in whatever order it lists
them. If there is one file for each module at most, the entries of the modules come out as the
documents in those files; if one of them cannot be read, there are no settings at all.
-/

namespace RpcRegistry.Settings

/-- A file name is that of a module with a YAML extension behind it, in letters of any case. -/
def NamesModule (fileName name : String) : Prop :=
  name ≠ "" ∧ ∃ extension, fileName = name ++ "." ++ extension ∧
    (Text.lowerCase extension.toList = "yml".toList ∨
      Text.lowerCase extension.toList = "yaml".toList)

/-- A file is text, and all of the text is one document with this value. -/
def Document (text : Option String) (value : Value) : Prop :=
  ∃ written document, text = some written ∧ Yaml.Strict.readValue written = .ok document ∧
    document.stored? = some value

structure ModuleFile (tree : FileTree) (directory name fileName : String) (text : Option String) :
    Prop where
  held : tree.HoldsFile directory fileName text
  named : NamesModule fileName name

def FilesAgree (tree : FileTree) (directory name : String) : Prop :=
  ∀ fileName text value otherName otherText otherValue,
    ModuleFile tree directory name fileName text → Document text value →
    ModuleFile tree directory name otherName otherText → Document otherText otherValue →
      value = otherValue

section

variable {tree other : FileTree} {settings loaded : Settings}
  {directory name fileName : String} {text : Option String} {value : Value}
  {listing : List (String × Option String)} {modules : Dict Value}

theorem moduleName_eq_some_iff : moduleName? fileName = some name ↔ NamesModule fileName name := by
  unfold moduleName? NamesModule
  constructor
  · intro found
    split at found
    · rename_i own extension isSplit
      obtain ⟨yaml, found⟩ := Option.ite_none_right_eq_some.1 found
      cases found
      obtain ⟨notEmpty, _, rfl⟩ := Path.splitExtension_eq_iff.1 isSplit
      exact ⟨notEmpty, extension, rfl, yaml⟩
    · cases found
  · rintro ⟨notEmpty, extension, rfl, yaml⟩
    have noDot : '.' ∉ extension.toList := by
      intro dot
      have lowered : '.' ∈ Text.lowerCase extension.toList := List.mem_map_of_mem dot
      rcases yaml with isYaml | isYaml
      · rw [isYaml] at lowered
        exact absurd lowered (by decide)
      · rw [isYaml] at lowered
        exact absurd lowered (by decide)
    rw [Path.splitExtension_eq_iff.2 ⟨notEmpty, noDot, rfl⟩]
    exact if_pos yaml

example : moduleName? "a.b.YML" = some "a.b" ∧ moduleName? ".yaml" = none ∧
    moduleName? "a.json" = none := by decide

theorem moduleValue_eq_ok_iff (path : String) :
    moduleValue path text = .ok value ↔ Document text value := by
  constructor
  · intro read
    unfold moduleValue at read
    split at read
    · cases read
    · rename_i written
      split at read
      · rename_i isFound
        cases read
        obtain ⟨document, parsed, isStored⟩ := Option.bind_eq_some_iff.1 isFound
        exact ⟨written, document, rfl, eq_ok_of_toOption parsed, isStored⟩
      · cases read
  · rintro ⟨written, document, rfl, parsed, isStored⟩
    have isFound : (Yaml.Strict.readValue written).toOption.bind Value.stored? = some value := by
      rw [parsed]
      exact isStored
    unfold moduleValue
    dsimp only
    rw [isFound]

theorem Document.unique {otherValue : Value} (document : Document text value)
    (other : Document text otherValue) : value = otherValue := by
  rw [← moduleValue_eq_ok_iff ""] at document other
  rw [document] at other
  exact Except.ok.inj other

/-- Module files are merged if and only if each of them can be read. -/
theorem exists_mergeModules_iff :
    (∃ merged, mergeModules directory listing modules = .ok merged) ↔
      ∀ name fileName text, (fileName, text) ∈ listing → NamesModule fileName name →
        ∃ value, Document text value := by
  induction listing generalizing modules with
  | nil => exact iff_of_true ⟨modules, rfl⟩ nofun
  | cons entry rest induction =>
      obtain ⟨own, content⟩ := entry
      rw [mergeModules]
      cases named : moduleName? own with
      | none =>
          have noModule : ∀ name, ¬ NamesModule own name := by
            intro name isNamed
            rw [moduleName_eq_some_iff.2 isNamed] at named
            cases named
          dsimp only
          rw [induction]
          constructor
          · intro reads name fileName text member isNamed
            rcases List.mem_cons.1 member with same | member
            · cases same
              exact absurd isNamed (noModule name)
            · exact reads name fileName text member isNamed
          · intro reads name fileName text member isNamed
            exact reads name fileName text (List.mem_cons_of_mem _ member) isNamed
      | some ownName =>
          dsimp only
          constructor
          · intro isMerged name fileName text member isNamed
            obtain ⟨merged, done⟩ := isMerged
            obtain ⟨value, read, done⟩ := exists_of_bind_ok done
            rcases List.mem_cons.1 member with same | member
            · cases same
              exact ⟨value, (moduleValue_eq_ok_iff _).1 read⟩
            · exact induction.1 ⟨merged, done⟩ name fileName text member isNamed
          · intro reads
            obtain ⟨value, document⟩ := reads ownName own content List.mem_cons_self
              (moduleName_eq_some_iff.1 named)
            rw [(moduleValue_eq_ok_iff _).2 document]
            apply induction.2
            intro name fileName text member isNamed
            exact reads name fileName text (List.mem_cons_of_mem _ member) isNamed

theorem exists_of_listedValue (listed : listedValue? directory name listing = some value) :
    ∃ fileName text, (fileName, text) ∈ listing ∧ NamesModule fileName name ∧
      Document text value := by
  induction listing with
  | nil => cases listed
  | cons entry rest induction =>
      rw [listedValue?, Option.or_eq_some_iff] at listed
      rcases listed with inRest | ⟨_, own⟩
      · obtain ⟨fileName, text, member, found⟩ := induction inRest
        exact ⟨fileName, text, List.mem_cons_of_mem _ member, found⟩
      · obtain ⟨named, read⟩ := Option.ite_none_right_eq_some.1 own
        exact ⟨entry.1, entry.2, List.mem_cons_self, moduleName_eq_some_iff.1 named,
          (moduleValue_eq_ok_iff _).1 (eq_ok_of_toOption read)⟩

theorem isSome_listedValue (member : (fileName, text) ∈ listing)
    (named : NamesModule fileName name) (document : Document text value) :
    (listedValue? directory name listing).isSome := by
  induction listing with
  | nil => cases member
  | cons entry rest induction =>
      rw [listedValue?, Option.isSome_or, Bool.or_eq_true]
      rcases List.mem_cons.1 member with rfl | member
      · right
        rw [if_pos (moduleName_eq_some_iff.2 named), (moduleValue_eq_ok_iff _).2 document]
        rfl
      · left
        exact induction member

/-! What is read of a directory depends on its module files alone. -/

theorem ModuleFile.isDirectory (file : ModuleFile tree directory name fileName text) :
    tree.isDirectory directory = true := by
  obtain ⟨location, found, _⟩ := file.held.listed
  exact FileTree.isDirectory_iff.2 ⟨location, found⟩

theorem withModules_of_absent (named : settings.modulesDir = some directory)
    (absent : tree.has directory = false) : withModules tree settings = .ok settings := by
  rw [withModules, named]
  dsimp only
  rw [if_neg (by rw [absent]; nofun)]

theorem withModules_of_filesIn (named : settings.modulesDir = some directory)
    (listed : tree.filesIn directory = .ok listing) : withModules tree settings =
      (mergeModules directory listing settings.modules).map
        fun modules => { settings with modules } := by
  have there := FileTree.has_of_isDirectory
    (FileTree.isDirectory_iff.2 (FileTree.exists_directory_of_filesIn listed))
  rw [withModules, named]
  dsimp only
  rw [if_pos there, listed]
  dsimp only
  cases mergeModules directory listing settings.modules <;> rfl

theorem exists_withModules_iff (named : settings.modulesDir = some directory)
    (there : tree.isDirectory directory = true) :
    (∃ loaded, withModules tree settings = .ok loaded) ↔
      ∀ name fileName text, ModuleFile tree directory name fileName text →
        ∃ value, Document text value := by
  obtain ⟨listing, listed⟩ := FileTree.exists_filesIn there
  have isMerged : (∃ loaded, withModules tree settings = .ok loaded) ↔
      ∃ merged, mergeModules directory listing settings.modules = .ok merged := by
    rw [withModules_of_filesIn named listed]
    constructor
    · intro done
      obtain ⟨loaded, done⟩ := done
      obtain ⟨merged, isMerged, _⟩ := exists_of_map_ok done
      exact ⟨merged, isMerged⟩
    · intro done
      obtain ⟨merged, isMerged⟩ := done
      rw [isMerged]
      exact ⟨_, rfl⟩
  rw [isMerged, exists_mergeModules_iff]
  constructor
  · intro reads name fileName text file
    exact reads name fileName text ((FileTree.mem_filesIn listed).2 file.held) file.named
  · intro reads name fileName text member isNamed
    exact reads name fileName text ⟨(FileTree.mem_filesIn listed).1 member, isNamed⟩

theorem exists_of_moduleFile (named : settings.modulesDir = some directory)
    (isFile : moduleFile? tree settings name = some value) :
    ∃ fileName text, ModuleFile tree directory name fileName text ∧ Document text value := by
  rw [moduleFile?, named, Option.bind_some] at isFile
  obtain ⟨_, isFile⟩ := Option.ite_none_right_eq_some.1 isFile
  obtain ⟨listing, listed, isFile⟩ := Option.bind_eq_some_iff.1 isFile
  obtain ⟨fileName, text, member, isNamed, document⟩ := exists_of_listedValue isFile
  have held := (FileTree.mem_filesIn (eq_ok_of_toOption listed)).1 member
  exact ⟨fileName, text, ⟨held, isNamed⟩, document⟩

theorem isSome_moduleFile (named : settings.modulesDir = some directory)
    (file : ModuleFile tree directory name fileName text) (document : Document text value) :
    (moduleFile? tree settings name).isSome := by
  obtain ⟨listing, listed⟩ := FileTree.exists_filesIn file.isDirectory
  rw [moduleFile?, named, Option.bind_some, if_pos (FileTree.has_of_isDirectory file.isDirectory),
    listed]
  exact isSome_listedValue ((FileTree.mem_filesIn listed).2 file.held) file.named document

theorem moduleFile_eq_some_iff (named : settings.modulesDir = some directory)
    (agree : FilesAgree tree directory name) : moduleFile? tree settings name = some value ↔
      ∃ fileName text, ModuleFile tree directory name fileName text ∧ Document text value := by
  constructor
  · exact exists_of_moduleFile named
  · intro isFile
    obtain ⟨fileName, text, file, document⟩ := isFile
    obtain ⟨found, isFound⟩ := Option.isSome_iff_exists.1 (isSome_moduleFile named file document)
    obtain ⟨otherName, otherText, otherFile, otherDocument⟩ := exists_of_moduleFile named isFound
    rw [isFound, agree fileName text value otherName otherText found file document otherFile
      otherDocument]

theorem moduleFile_congr (named : settings.modulesDir = some directory)
    (same : ∀ fileName text, ModuleFile tree directory name fileName text ↔
      ModuleFile other directory name fileName text)
    (agree : FilesAgree tree directory name) :
    moduleFile? tree settings name = moduleFile? other settings name := by
  have otherAgree : FilesAgree other directory name := by
    intro fileName text value otherName otherText otherValue file document otherFile
    exact agree fileName text value otherName otherText otherValue
      ((same _ _).2 file) document ((same _ _).2 otherFile)
  apply Option.ext
  intro value
  rw [moduleFile_eq_some_iff named agree, moduleFile_eq_some_iff named otherAgree]
  simp only [same]

/-- Two trees whose directories hold the same module files, among whatever else. -/
structure SameModuleFiles (tree other : FileTree) (directory : String) : Prop where
  there : tree.isDirectory directory = true
  otherThere : other.isDirectory directory = true
  same : ∀ name fileName text, ModuleFile tree directory name fileName text ↔
    ModuleFile other directory name fileName text

theorem SameModuleFiles.exists_iff (alike : SameModuleFiles tree other directory)
    (named : settings.modulesDir = some directory) :
    (∃ loaded, withModules tree settings = .ok loaded) ↔
      ∃ loaded, withModules other settings = .ok loaded := by
  rw [exists_withModules_iff named alike.there, exists_withModules_iff named alike.otherThere]
  simp only [alike.same]

end

end RpcRegistry.Settings
