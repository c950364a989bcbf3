import RpcRegistry.Proofs.Settings.Environment
import RpcRegistry.Proofs.Value.Equality
import RpcRegistry.Proofs.Yaml.Lenient
import RpcRegistry.Settings.Load

/-!
Where the settings come from, path by path. The values settings are read from are three layers
merged: what holds if nothing is said, the settings file, and the variables. At each path the
uppermost layer that settles it decides, whatever dictionaries the layers turn into something else
or back.
-/

namespace RpcRegistry.Settings

open Value Environment

def Source.layer? (source : Source) (tree : FileTree) : Option Value :=
  match source.path? with
  | none => some (.dict [])
  | some path => fileLayer? tree path

/-- What the settings file says: nothing if no file is named or none is found, else the dictionary
its text spells. The file is the first one where the named path is looked up. -/
inductive Source.Document (source : Source) (tree : FileTree) : Value → Prop where
  | unnamed (builtIn : source.path? = none) : source.Document tree (.dict [])
  | missing {path : String} (named : source.path? = some path)
      (absent : ∀ candidate ∈ searchPaths tree path, tree.file? candidate = none) :
      source.Document tree (.dict [])
  | spelled {path candidate text : String} {above below : List String}
      {entries : List (String × Value)} (named : source.path? = some path)
      (order : searchPaths tree path = above ++ candidate :: below)
      (absent : ∀ earlier ∈ above, tree.file? earlier = none)
      (present : tree.file? candidate = some (some text))
      (reads : Yaml.Lenient.readEntries text = .ok entries) : source.Document tree (.dict entries)

/-- Whether the uppermost of some levels that settles a path holds this value there. A level is
made up of values that act together. -/
def Decides : List (Value → Prop) → List String → Value → Prop
  | [], _, _ => False
  | level :: lower, path, held =>
      (∃ layer, level layer ∧ layer.at? path = some held) ∨
        (∀ layer, level layer → ¬ Settles layer path) ∧ Decides lower path held

section

variable {source : Source} {host : Host} {tree : FileTree} {file environment held : Value}
  {path : List String}

theorem fileLayer_eq_some_iff {path : String} : fileLayer? tree path = some file ↔
    ((searchPaths tree path).findSome? tree.file? = none ∧ file = .dict []) ∨
      ∃ text entries, (searchPaths tree path).findSome? tree.file? = some (some text) ∧
        Yaml.Lenient.readEntries text = .ok entries ∧ file = .dict entries := by
  rw [fileLayer?]
  cases (searchPaths tree path).findSome? tree.file? with
  | none => simp [eq_comm]
  | some found =>
      cases found with
      | none => simp
      | some text =>
          cases read : Yaml.Lenient.readEntries text with
          | error problem => simp [read]
          | ok entries => simp [read, eq_comm]

/-- The program reads as the layer of the settings file what the file says. -/
theorem Source.document_iff : source.Document tree file ↔ source.layer? tree = some file := by
  constructor
  · intro document
    cases document with
    | unnamed builtIn => rw [Source.layer?, builtIn]
    | missing named absent =>
        rw [Source.layer?, named]
        exact fileLayer_eq_some_iff.2 (.inl ⟨List.findSome?_eq_none_iff.2 absent, rfl⟩)
    | spelled named order absent present reads =>
        rw [Source.layer?, named]
        have first := List.findSome?_eq_some_iff.2 ⟨_, _, _, order, present, absent⟩
        exact fileLayer_eq_some_iff.2 (.inr ⟨_, _, first, reads, rfl⟩)
  · intro read
    rw [Source.layer?] at read
    split at read
    · rename_i builtIn
      cases read
      exact .unnamed builtIn
    · rename_i path named
      rcases fileLayer_eq_some_iff.1 read with
        ⟨absent, rfl⟩ | ⟨text, entries, first, reads, rfl⟩
      · exact .missing named (List.findSome?_eq_none_iff.1 absent)
      · obtain ⟨above, candidate, below, order, present, absent⟩ :=
          List.findSome?_eq_some_iff.1 first
        exact .spelled named order absent present reads

theorem Source.dictionary_layer (read : source.layer? tree = some file) :
    Ordered file ∧ file.isDict = true := by
  cases Source.document_iff.2 read with
  | unnamed => exact ⟨ordered_empty, rfl⟩
  | missing => exact ⟨ordered_empty, rfl⟩
  | spelled named order absent present reads =>
      exact ⟨Yaml.Lenient.ordered_readEntries reads, rfl⟩

theorem extract_eq (source : Source) (host : Host) : extract source host =
    match Environment.layer? host.environment with
    | none => .error .cutVariable
    | some environment =>
        match (source.layer? host.files).bind fun file =>
            ofLayers? (layers (standardHomeDir host.home) file environment) with
        | some settings => .ok settings
        | none => .error (.unreadable source.path?) := rfl

theorem extract_of_layers (read : source.layer? host.files = some file)
    (spelled : Environment.layer? host.environment = some environment) :
    extract source host =
      match ofLayers? (layers (standardHomeDir host.home) file environment) with
      | some settings => .ok settings
      | none => .error (.unreadable source.path?) := by
  rw [extract_eq, spelled, read]
  rfl

theorem extract_eq_cut_iff :
    extract source host = .error .cutVariable ↔ ¬ Legible host.environment := by
  rw [← isSome_layer_iff, extract_eq]
  cases Environment.layer? host.environment with
  | none => simp
  | some environment =>
      dsimp only
      split <;> simp

theorem at_layers (homeDir : String) (fileOrdered : Ordered file)
    (environmentOrdered : Ordered environment) (notDict : held.isDict = false) :
    (layers homeDir file environment).at? path = some held ↔
      Decides [(· = environment), (· = file), (· = (standard homeDir).value)] path held := by
  rw [layers, at_merge environmentOrdered notDict, at_merge fileOrdered notDict]
  simp only [Decides, exists_eq_left, forall_eq, and_false, or_false]

end

/-- A variable that cannot be read ends the program. Otherwise the settings are read from the
layers merged, in which each path holds what the uppermost level says that settles the path: what
the variables set at their paths, what the settings file says, and the defaults. -/
theorem extract_decides {source : Source} {host : Host} {file : Value}
    (document : source.Document host.files file) (unmixed : Unmixed host.environment) :
    (extract source host = .error .cutVariable ↔ ¬ Legible host.environment) ∧
    (Legible host.environment →
      ∃ environment, Environment.layer? host.environment = some environment ∧
        (extract source host =
          match ofLayers? (layers (standardHomeDir host.home) file environment) with
          | some settings => .ok settings
          | none => .error (.unreadable source.path?)) ∧
        ∀ path held, path ≠ [] → held.isDict = false →
          ((layers (standardHomeDir host.home) file environment).at? path = some held ↔
            Decides
              [SetBy host.environment, (· = file),
                (· = (standard (standardHomeDir host.home)).value)] path held)) := by
  refine ⟨extract_eq_cut_iff, ?_⟩
  intro legible
  obtain ⟨given, spelled⟩ := Option.isSome_iff_exists.1 (isSome_layersOf_iff.2 legible)
  obtain ⟨environment, isLayer, joint⟩ := joint_layer spelled unmixed
  have read := Source.document_iff.1 document
  refine ⟨environment, isLayer, extract_of_layers read isLayer, ?_⟩
  intro path held path_ne notDict
  rw [at_layers _ (Source.dictionary_layer read).1 joint.ordered notDict]
  -- The variables are one value by now, which has to be taken apart into what each of them sets.
  have sameLevel : (∃ layer, layer = environment ∧ layer.at? path = some held) ↔
      ∃ layer, SetBy host.environment layer ∧ layer.at? path = some held := by
    simpa [mem_layersOf spelled] using joint.held path held path_ne notDict
  have sameSilence : (∀ layer, layer = environment → ¬ Settles layer path) ↔
      ∀ layer, SetBy host.environment layer → ¬ Settles layer path := by
    simpa [mem_layersOf spelled] using not_congr (joint.settled path path_ne)
  rw [Decides, sameLevel, sameSilence]
  rfl

/-- The settings file has one word for the default section, over which a variable lays a
dictionary again. -/
def layeredHost : Host where
  home := "/home"
  environment := [⟨"APP__LOGGING__DEFAULT__FILE", "x.log"⟩, ⟨"APP__MODULES_DIR", "m"⟩]
  files := ⟨[(["c.yaml"], .file (some
    "logging:\n  default: quiet\nmodules:\n  registrar:\n    owner: daemon\n"))], []⟩

def layeredFile : Value :=
  .dict [("logging", .dict [("default", .text "quiet")]),
    ("modules", .dict [("registrar", .dict [("owner", .text "daemon")])])]

theorem document_layeredFile :
    Source.Document (.required "/c.yaml") layeredHost.files layeredFile := by
  have reads : (Yaml.Lenient.readEntries
      "logging:\n  default: quiet\nmodules:\n  registrar:\n    owner: daemon\n").toOption =
      some [("logging", .dict [("default", .text "quiet")]),
        ("modules", .dict [("registrar", .dict [("owner", .text "daemon")])])] := by
    decide +kernel
  have order : searchPaths layeredHost.files "/c.yaml" = [] ++ "/c.yaml" :: [] := by decide +kernel
  have present : layeredHost.files.file? "/c.yaml" = some (some
      "logging:\n  default: quiet\nmodules:\n  registrar:\n    owner: daemon\n") := by
    decide +kernel
  exact .spelled rfl order nofun present (eq_ok_of_toOption reads)

theorem setBy_layeredHost {layer : Value} : SetBy layeredHost.environment layer ↔
    layer = nested ["logging", "default", "file"] (.text "x.log") ∨
      layer = nested ["modules_dir"] (.text "m") := by
  have file : Sets ⟨"APP__LOGGING__DEFAULT__FILE", "x.log"⟩ ["logging", "default", "file"]
      (.text "x.log") := ⟨by decide +kernel, by decide +kernel⟩
  have modulesDir : Sets ⟨"APP__MODULES_DIR", "m"⟩ ["modules_dir"] (.text "m") :=
    ⟨by decide +kernel, by decide +kernel⟩
  rw [SetBy, layeredHost]
  simp only [List.exists_mem_cons_iff, List.not_mem_nil, false_and, exists_false, or_false]
  rw [file.exists_iff, modulesDir.exists_iff]

/-- The variables give the log file and the modules directory, the file an owner, and the defaults
the home directory. The word of the file is silent about a level, and no level shows through it. -/
theorem extract_decides_over_word :
    Source.Document (.required "/c.yaml") layeredHost.files layeredFile ∧
    Unmixed layeredHost.environment ∧ Legible layeredHost.environment ∧
    ∃ environment, Environment.layer? layeredHost.environment = some environment ∧
      (extract (.required "/c.yaml") layeredHost =
        match ofLayers? (layers "/home/.pmreg" layeredFile environment) with
        | some settings => .ok settings
        | none => .error (.unreadable (some "/c.yaml"))) ∧
      (layers "/home/.pmreg" layeredFile environment).at? ["logging", "default", "file"] =
        some (.text "x.log") ∧
      (layers "/home/.pmreg" layeredFile environment).at? ["modules_dir"] = some (.text "m") ∧
      (layers "/home/.pmreg" layeredFile environment).at? ["modules", "registrar", "owner"] =
        some (.text "daemon") ∧
      (layers "/home/.pmreg" layeredFile environment).at? ["server", "home_dir"] =
        some (.text "/home/.pmreg") ∧
      ∀ held, held.isDict = false →
        (layers "/home/.pmreg" layeredFile environment).at?
          ["logging", "default", "console_level"] ≠ some held := by
  have unmixed : Unmixed layeredHost.environment := by
    unfold Unmixed
    decide +kernel
  have legible : Legible layeredHost.environment :=
    isSome_layersOf_iff.1 (show (layersOf? layeredHost.environment).isSome by decide +kernel)
  have sameHome : standardHomeDir layeredHost.home = "/home/.pmreg" := by decide +kernel
  obtain ⟨_, decides⟩ := extract_decides document_layeredFile unmixed
  obtain ⟨environment, isLayer, extracted, decides⟩ := decides legible
  rw [sameHome] at extracted decides
  -- The variables settle their own paths, those above and those below, and no others.
  have silent : ∀ path, ¬ ["logging", "default", "file"] <+: path →
      ¬ path <+: ["logging", "default", "file"] → ¬ ["modules_dir"] <+: path →
      ¬ path <+: ["modules_dir"] →
      ∀ layer, SetBy layeredHost.environment layer → ¬ Settles layer path := by
    intro path notBelow notAbove notUnder notOver layer setBy settled
    rcases setBy_layeredHost.1 setBy with rfl | rfl
    · exact (comparable_of_settles_nested settled).elim notBelow notAbove
    · exact (comparable_of_settles_nested settled).elim notUnder notOver
  refine ⟨document_layeredFile, unmixed, legible, environment, isLayer, extracted, ?_, ?_, ?_, ?_,
    ?_⟩
  · exact (decides _ _ (by decide) rfl).2
      (.inl ⟨_, setBy_layeredHost.2 (.inl rfl), by decide +kernel⟩)
  · exact (decides _ _ (by decide) rfl).2
      (.inl ⟨_, setBy_layeredHost.2 (.inr rfl), by decide +kernel⟩)
  · refine (decides _ _ (by decide) rfl).2 (.inr ⟨?_, .inl ⟨_, rfl, by decide +kernel⟩⟩)
    exact silent _ (by decide) (by decide) (by decide) (by decide)
  · refine (decides _ _ (by decide) rfl).2
      (.inr ⟨?_, .inr ⟨?_, .inl ⟨_, rfl, by decide +kernel⟩⟩⟩)
    · exact silent _ (by decide) (by decide) (by decide) (by decide)
    · rintro _ rfl settled
      obtain ⟨_, unbound, _⟩ := settles_dict.1 settled
      cases unbound
  · intro held notDict found
    have stops : Settles layeredFile ["logging", "default", "console_level"] :=
      .inr ⟨["logging", "default"], ["console_level"], .text "quiet", rfl, by decide,
        by decide +kernel, rfl⟩
    rcases (decides _ _ (by decide) notDict).1 found with
      ⟨layer, setBy, found⟩ | ⟨_, ⟨_, rfl, found⟩ | ⟨unsettled, _⟩⟩
    · exact silent _ (by decide) (by decide) (by decide) (by decide) layer setBy
        (settles_of_at found)
    · have nothing : layeredFile.at? ["logging", "default", "console_level"] = none := by
        decide +kernel
      rw [nothing] at found
      cases found
    · exact unsettled _ rfl stops

end RpcRegistry.Settings
