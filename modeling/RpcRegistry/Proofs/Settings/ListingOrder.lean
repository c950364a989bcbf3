import RpcRegistry.Proofs.Settings.ModuleFiles

/-!
Loading from the same files, which directories list in different orders. Everything but the entries
of modules comes out the same, and so does the entry of a module whose files agree. Where the files
of a module disagree, the one that is listed last is heard, and each of them may be.
-/

namespace RpcRegistry

def Host.relisted (host : Host) (nodes : List (Location × FileNode)) : Host :=
  { host with files := { host.files with nodes } }

namespace Settings

/-- Whatever the order in which directories list their files, loading fails or gives the same
settings. -/
def IgnoresListing (source : Source) (host : Host) : Prop :=
  ∀ nodes, host.files.nodes.Perm nodes →
    (load source host).1.toOption = (load source (host.relisted nodes)).1.toOption

/-- The files of a module in the directory of module files, if one is named, all hold the same. -/
def Agreed (tree : FileTree) (settings : Settings) (name : String) : Prop :=
  ∀ directory, settings.modulesDir = some directory → FilesAgree tree directory name

/-- Settings that differ at most in the entries of modules whose files disagree. -/
structure SameWhereAgreed (tree : FileTree) (settings other : Settings) : Prop where
  homeDir : other.homeDir = settings.homeDir
  logging : other.logging = settings.logging
  modulesDir : other.modulesDir = settings.modulesDir
  modules : ∀ name, Agreed tree settings name →
    other.modules.get? name = settings.modules.get? name

section

variable {source : Source} {host : Host} {tree other files : FileTree}
  {settings loaded again : Settings} {directory name fileName : String} {text : Option String}
  {value : Value} {front back : List (String × Option String)}

theorem layer_of_relisted (relisted : FileTree.Relisted tree other) :
    source.layer? tree = source.layer? other := by
  have samePaths : ∀ path, searchPaths tree path = searchPaths other path := by
    intro path
    unfold searchPaths
    rw [relisted.working]
    rfl
  have sameFiles : tree.file? = other.file? := funext relisted.file
  unfold Source.layer? fileLayer?
  simp only [samePaths, sameFiles]

theorem moduleFile_iff_of_relisted (relisted : FileTree.Relisted tree other) :
    ModuleFile tree directory name fileName text ↔
      ModuleFile other directory name fileName text := by
  constructor
  · exact fun file => ⟨relisted.holdsFile.1 file.held, file.named⟩
  · exact fun file => ⟨relisted.holdsFile.2 file.held, file.named⟩

theorem there_or_absent (named : settings.modulesDir = some directory)
    (done : withModules tree settings = .ok loaded) :
    tree.isDirectory directory = true ∨ tree.has directory = false := by
  cases present : tree.has directory with
  | false => exact Or.inr rfl
  | true =>
      left
      rw [withModules, named] at done
      dsimp only at done
      rw [if_pos present] at done
      split at done
      · cases done
      · rename_i listing listed
        exact FileTree.isDirectory_iff.2 (FileTree.exists_directory_of_filesIn listed)

theorem exists_withModules_of_relisted (relisted : FileTree.Relisted tree other)
    (done : withModules tree settings = .ok loaded) :
    ∃ again, withModules other settings = .ok again := by
  cases named : settings.modulesDir with
  | none =>
      rw [withModules, named]
      exact ⟨settings, rfl⟩
  | some directory =>
      rcases there_or_absent named done with there | absent
      · have alike : SameModuleFiles tree other directory :=
          ⟨there, (relisted.isDirectory directory).symm.trans there,
            fun _ _ _ => moduleFile_iff_of_relisted relisted⟩
        exact (alike.exists_iff named).1 ⟨loaded, done⟩
      · rw [relisted.has] at absent
        exact ⟨settings, withModules_of_absent named absent⟩

theorem moduleFile_eq_of_agreed (relisted : FileTree.Relisted tree other)
    (agreed : Agreed tree settings name) :
    moduleFile? tree settings name = moduleFile? other settings name := by
  cases named : settings.modulesDir with
  | none => rw [moduleFile?, moduleFile?, named, Option.bind_none, Option.bind_none]
  | some directory =>
      exact moduleFile_congr named (fun _ _ => moduleFile_iff_of_relisted relisted)
        (agreed directory named)

/-- Loads from the same files end with the same two steps, whatever the order of the files. -/
theorem exists_load_of_relisted {after : FileTree} (relisted : FileTree.Relisted host.files files)
    (loads : load source host = (.ok loaded, after)) :
    ∃ again otherAfter, load source { host with files } = (.ok again, otherAfter) ∧
      FileTree.Relisted after otherAfter ∧
      ∃ settings, withModules after settings = .ok loaded ∧
        withModules otherAfter settings = .ok again := by
  obtain ⟨there, extracted, isExtracted, ending⟩ := load_eq_ok_iff.1 loads
  obtain ⟨_, _, otherAfter, made, otherMade, alike⟩ := relisted.createDirectory loaded.homeDir
  rw [ending.made] at made
  cases made
  obtain ⟨again, isAgain⟩ := exists_withModules_of_relisted alike ending.read
  have sameHome : again.homeDir = loaded.homeDir := by
    obtain ⟨modules, rfl, _⟩ := exists_of_withModules isAgain
    rfl
  have stillThere : ∀ path, source = .required path → files.isFile path = true := by
    intro path required
    rw [← relisted.isFile]
    exact there path required
  have sameExtracted : extract source { host with files } = .ok extracted := by
    rw [extract_eq] at isExtracted ⊢
    rwa [← layer_of_relisted relisted]
  have sameWorking : files.workingPath = host.files.workingPath := by
    rw [FileTree.workingPath, FileTree.workingPath, relisted.working]
  have sameEnding : LoadedFrom { host with files } extracted again otherAfter := by
    constructor
    · rw [sameHome, sameWorking]
      exact ending.homeDir
    · rw [sameHome]
      exact otherMade
    · rw [sameHome]
      exact isAgain
  exact ⟨again, otherAfter, load_eq_ok_iff.2 ⟨stillThere, extracted, sameExtracted, sameEnding⟩,
    alike, _, ending.read, isAgain⟩

theorem sameWhereAgreed_of_relisted {after otherAfter : FileTree}
    (relisted : FileTree.Relisted host.files files)
    (loads : load source host = (.ok loaded, after))
    (loadsAgain : load source { host with files } = (.ok again, otherAfter)) :
    SameWhereAgreed after loaded again := by
  obtain ⟨_, _, isAgain, alike, settings, read, readAgain⟩ :=
    exists_load_of_relisted relisted loads
  rw [loadsAgain] at isAgain
  cases isAgain
  obtain ⟨modules, rfl, held⟩ := exists_of_withModules read
  obtain ⟨otherModules, rfl, otherHeld⟩ := exists_of_withModules readAgain
  refine ⟨rfl, rfl, rfl, ?_⟩
  intro name agreed
  have agreedBefore : Agreed after settings name := agreed
  rw [held, otherHeld, moduleFile_eq_of_agreed alike agreedBefore]

theorem SameWhereAgreed.eq (same : SameWhereAgreed tree settings loaded)
    (agreed : ∀ name, Agreed tree settings name) : loaded = settings := by
  have sameModules : loaded.modules = settings.modules := by
    apply Dict.ext_get
    intro name
    exact same.modules name (agreed name)
  obtain ⟨homeDir, logging, modulesDir, modules⟩ := loaded
  cases same.homeDir
  cases same.logging
  cases same.modulesDir
  cases sameModules
  rfl

theorem listedValue_append : listedValue? directory name (front ++ back) =
    (listedValue? directory name back).or (listedValue? directory name front) := by
  induction front with
  | nil => rw [List.nil_append, listedValue?, Option.or_none]
  | cons entry rest induction =>
      rw [List.cons_append, listedValue?, listedValue?, induction, Option.or_assoc]

/-- A module file that is listed last is heard. -/
theorem moduleFile_of_last {location : Location} {before : List (Location × FileNode)}
    {made : List Location} (named : settings.modulesDir = some directory)
    (file : ModuleFile tree directory name fileName text) (document : Document text value)
    (found : tree.find? directory = some (location, .directory))
    (nodes : tree.nodes = before ++ [(location ++ [fileName], .file text)] ++
      made.map fun location => (location, .directory)) :
    moduleFile? tree settings name = some value := by
  obtain ⟨front, listed⟩ := FileTree.filesIn_of_last found file.held.found nodes
  have own : listedValue? directory name [(fileName, text)] = some value := by
    rw [listedValue?, listedValue?, if_pos (moduleName_eq_some_iff.2 file.named),
      (moduleValue_eq_ok_iff _).2 document]
    rfl
  have there := FileTree.has_of_isDirectory file.isDirectory
  rw [moduleFile?, named, Option.bind_some, if_pos there, listed]
  rw [Except.toOption, Option.bind_some, listedValue_append, own, Option.some_or]

/-- Each file of a module is heard in some order. -/
theorem exists_order_of_file (distinct : host.files.Distinct)
    (loads : load source host = (.ok loaded, files)) (named : loaded.modulesDir = some directory)
    (file : ModuleFile files directory name fileName text) (document : Document text value) :
    ∃ nodes, host.files.nodes.Perm nodes ∧ ∃ again after,
      load source (host.relisted nodes) = (.ok again, after) ∧
        again.modules.get? name = some value := by
  obtain ⟨_, extracted, _, ending⟩ := load_eq_ok_iff.1 loads
  obtain ⟨location, found, member⟩ := file.held.listed
  -- Making the home directory adds no file, so the file was there from the start.
  have wasThere : (location ++ [fileName], .file text) ∈ host.files.nodes := by
    obtain ⟨made, nodes⟩ := FileTree.nodes_createDirectory ending.made
    rw [nodes, List.mem_append, List.mem_map] at member
    apply member.resolve_right
    intro isDirectory
    obtain ⟨_, _, same⟩ := isDirectory
    cases congrArg Prod.snd same
  obtain ⟨before, nodes, isNodes, order⟩ : ∃ before nodes,
      nodes = before ++ [(location ++ [fileName], FileNode.file text)] ∧
        host.files.nodes.Perm nodes :=
    ⟨_, _, rfl, (List.perm_cons_erase wasThere).trans (List.perm_append_singleton _ _).symm⟩
  have relisted : FileTree.Relisted host.files (host.relisted nodes).files :=
    distinct.relisted rfl order
  obtain ⟨again, after, loadsAgain, alike, settings, read, readAgain⟩ :=
    exists_load_of_relisted relisted loads
  have stillNamed : settings.modulesDir = some directory := by
    obtain ⟨_, rfl, _⟩ := exists_of_withModules read
    exact named
  obtain ⟨_, _, _, endingAgain⟩ := load_eq_ok_iff.1 loadsAgain
  obtain ⟨made, inTheEnd⟩ := FileTree.nodes_createDirectory endingAgain.made
  have nodesAfter : after.nodes = before ++ [(location ++ [fileName], .file text)] ++
      made.map fun location => (location, .directory) := by
    rw [inTheEnd, ← isNodes]
    rfl
  rw [alike.find] at found
  have isFile := moduleFile_of_last stillNamed ((moduleFile_iff_of_relisted alike).1 file) document
    found nodesAfter
  refine ⟨nodes, order, again, after, loadsAgain, ?_⟩
  obtain ⟨_, rfl, held⟩ := exists_of_withModules readAgain
  rw [held, isFile, Option.some_or]

theorem exists_load_iff_of_relisted (relisted : FileTree.Relisted host.files files) :
    (∃ loaded, (load source host).1 = .ok loaded) ↔
      ∃ loaded, (load source { host with files }).1 = .ok loaded := by
  constructor
  · intro loads
    obtain ⟨loaded, loads⟩ := loads
    obtain ⟨again, _, loadsAgain, _⟩ := exists_load_of_relisted relisted (Prod.ext loads rfl)
    exact ⟨again, congrArg Prod.fst loadsAgain⟩
  · intro loads
    obtain ⟨loaded, loads⟩ := loads
    obtain ⟨again, _, loadsAgain, _⟩ :=
      exists_load_of_relisted relisted.symm (Prod.ext loads rfl)
    exact ⟨again, congrArg Prod.fst loadsAgain⟩

/-- If the order of the files is not seen, no two files of a module disagree: each of them would be
heard in some order. -/
theorem agreed_of_ignoresListing (distinct : host.files.Distinct)
    (ignores : IgnoresListing source host) (loads : load source host = (.ok loaded, files)) :
    Agreed files loaded name := by
  intro directory named
  have heard : ∀ fileName text value, ModuleFile files directory name fileName text →
      Document text value → loaded.modules.get? name = some value := by
    intro fileName text value file document
    obtain ⟨nodes, order, again, after, loadsAgain, isHeard⟩ :=
      exists_order_of_file distinct loads named file document
    have same := ignores nodes order
    rw [loads, loadsAgain] at same
    cases same
    exact isHeard
  intro fileName text value otherName otherText otherValue file document otherFile other
  have isHeard := heard fileName text value file document
  rw [heard otherName otherText otherValue otherFile other] at isHeard
  exact (Option.some.inj isHeard).symm

theorem ignoresListing_of_agreed (distinct : host.files.Distinct)
    (agreed : ∀ loaded files, load source host = (.ok loaded, files) →
      ∀ name, Agreed files loaded name) : IgnoresListing source host := by
  intro nodes order
  have relisted : FileTree.Relisted host.files (host.relisted nodes).files :=
    distinct.relisted rfl order
  apply toOption_eq_of_alike (exists_load_iff_of_relisted relisted)
  intro loaded again loads loadsAgain
  have isLoaded : load source host = (.ok loaded, (load source host).2) := Prod.ext loads rfl
  have same := sameWhereAgreed_of_relisted relisted isLoaded (Prod.ext loadsAgain rfl)
  exact (same.eq (agreed loaded _ isLoaded)).symm

end

/-- Loads from the same files agree but for the modules whose files do not, and these are what the
order of the files decides. -/
theorem load_of_order (source : Source) {host : Host} (distinct : host.files.Distinct) :
    (∀ nodes, host.files.nodes.Perm nodes →
      ((∃ loaded, (load source host).1 = .ok loaded) ↔
        ∃ loaded, (load source (host.relisted nodes)).1 = .ok loaded) ∧
      ∀ loaded files again, load source host = (.ok loaded, files) →
        (load source (host.relisted nodes)).1 = .ok again → SameWhereAgreed files loaded again) ∧
    (IgnoresListing source host ↔ ∀ loaded files, load source host = (.ok loaded, files) →
      ∀ name, Agreed files loaded name) := by
  constructor
  · intro nodes order
    have relisted : FileTree.Relisted host.files (host.relisted nodes).files :=
      distinct.relisted rfl order
    constructor
    · exact exists_load_iff_of_relisted relisted
    · intro loaded files again loads loadsAgain
      exact sameWhereAgreed_of_relisted relisted loads (Prod.ext loadsAgain rfl)
  · constructor
    · intro ignores loaded files loads name
      exact agreed_of_ignoresListing distinct ignores loads
    · exact ignoresListing_of_agreed distinct

/-- Two files of one module, which say different things of it, and a file of another. -/
def contestedHost : Host where
  home := "/home"
  environment := [⟨"APP__MODULES_DIR", "m"⟩]
  files := ⟨[(["m"], .directory), (["m", "a.yaml"], .file (some "v: 1\n")),
    (["m", "a.yml"], .file (some "v: 2\n")), (["m", "b.yml"], .file (some "v: 3\n"))], []⟩

theorem distinct_contestedHost : contestedHost.files.Distinct := by
  unfold FileTree.Distinct
  decide

theorem load_of_reversed_order : ∃ loaded files again,
    load .builtIn contestedHost = (.ok loaded, files) ∧
    (load .builtIn (contestedHost.relisted contestedHost.files.nodes.reverse)).1 = .ok again ∧
    SameWhereAgreed files loaded again := by
  obtain ⟨loaded, files, loads⟩ := exists_load_of_isSome
    (show (load .builtIn contestedHost).1.toOption.isSome by decide +kernel)
  obtain ⟨both, same⟩ := (load_of_order .builtIn distinct_contestedHost).1 _
    (List.reverse_perm contestedHost.files.nodes).symm
  obtain ⟨again, loadsAgain⟩ := both.1 ⟨loaded, congrArg Prod.fst loads⟩
  exact ⟨loaded, files, again, loads, loadsAgain, same loaded files again loads loadsAgain⟩

theorem not_ignoresListing_of_contested :
    contestedHost.files.Distinct ∧ ¬ IgnoresListing .builtIn contestedHost := by
  refine ⟨distinct_contestedHost, fun ignores => ?_⟩
  have same := ignores _ (List.reverse_perm contestedHost.files.nodes).symm
  have sameEntry := congrArg (Option.bind · fun loaded => loaded.modules.get? "a") same
  revert sameEntry
  decide +kernel

end Settings

end RpcRegistry
