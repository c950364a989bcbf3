import RpcRegistry.Log.Sinks
import RpcRegistry.Proofs.Dict
import RpcRegistry.Proofs.Log.ByTarget
import RpcRegistry.Proofs.Log.Threshold

/-!
The two tables of the log files. One says how much of a target's records passes, the other which
file takes them. Their keys differ: a section that names a file is in the first table even if its
file could not be opened, and only the second table leaves it out. So both tables follow one
section wherever the section that governs a target has its file open. Where it has not, the level
that lets the records through is not the level of the file that takes them.
-/

namespace RpcRegistry.Log

namespace Threshold

theorem admits_bind {settings? : Option Section} {level : Level} :
    admits (settings?.bind Section.fileLevel) level = true ↔
      ∃ settings, settings? = some settings ∧ admits settings.fileLevel level = true := by
  cases settings? with
  | none => simpa using not_admits_none level
  | some settings => simp

end Threshold

def fileKeys (entries : LoggingEntries) : List String :=
  (entries.filter fun entry => entry.2.file?.isSome).map Prod.fst

/-- The section whose log file takes the records of a target. -/
def receiving? (entries : LoggingEntries) (opened : List String) (target : String) :
    Option Section :=
  ((router opened).lookup target).bind fun key => Entries.get? key entries

/-- A record of the target passes the levels of the log files just if there is a section whose
file takes it and whose own file level lets it through. -/
def SinkAgrees (entries : LoggingEntries) (opened : List String) (target : String) : Prop :=
  ∀ level, (fileLevels entries opened).admits target level = true ↔
    ∃ settings, receiving? entries opened target = some settings ∧
      Threshold.admits settings.fileLevel level = true

theorem mem_fileKeys {entries : LoggingEntries} {key : String} :
    key ∈ fileKeys entries ↔ ∃ settings, (key, settings) ∈ entries ∧ settings.file?.isSome := by
  simp [fileKeys]

theorem mem_fileKeys_particular {entries : LoggingEntries} {key : String} :
    key ∈ fileKeys (particular entries) ↔ key ∈ fileKeys entries ∧ key ≠ Settings.defaultKey := by
  rw [mem_fileKeys, mem_fileKeys]
  constructor
  · rintro ⟨settings, member, namesFile⟩
    obtain ⟨member, notDefault⟩ := List.mem_filter.1 member
    exact ⟨⟨settings, member, namesFile⟩, of_decide_eq_true notDefault⟩
  · rintro ⟨⟨settings, member, namesFile⟩, notDefault⟩
    exact ⟨settings, List.mem_filter.2 ⟨member, decide_eq_true notDefault⟩, namesFile⟩

/-- Only sections that name a file have it opened. -/
theorem openFiles_subset (base : String) (entries : LoggingEntries) (files : FileTree) :
    (openFiles base entries files).paths.map Prod.fst ⊆ fileKeys entries := by
  induction entries generalizing files with
  | nil => exact List.nil_subset _
  | cons entry rest induction =>
      obtain ⟨key, settings⟩ := entry
      have later : fileKeys rest ⊆ fileKeys ((key, settings) :: rest) := by
        intro other member
        obtain ⟨found, among, namesFile⟩ := mem_fileKeys.1 member
        exact mem_fileKeys.2 ⟨found, List.mem_cons_of_mem _ among, namesFile⟩
      unfold openFiles
      split
      · exact List.Subset.trans (induction files) later
      · rename_i name named
        have first : key ∈ fileKeys ((key, settings) :: rest) :=
          mem_fileKeys.2 ⟨settings, List.mem_cons_self, by simp [named]⟩
        split
        · exact List.cons_subset.2 ⟨first, List.Subset.trans (induction _) later⟩
        · exact List.Subset.trans (induction _) later
        · exact List.nil_subset _

section Agreement

variable {entries : LoggingEntries} {opened : List String} {target key : String}
  {settings : Section}

theorem sinkAgrees_iff_level :
    SinkAgrees entries opened target ↔
      (fileLevels entries opened).lookup target =
        (receiving? entries opened target).bind Section.fileLevel := by
  constructor
  · intro agrees
    apply Threshold.eq_of_admits
    intro level
    exact (agrees level).trans Threshold.admits_bind.symm
  · intro same level
    rw [← Threshold.admits_bind, ← same]
    rfl

theorem keys_fileLevels :
    ((particular entries).filterMap fun entry =>
      entry.2.file?.map fun _ => (entry.1, entry.2.fileLevel)).map Prod.fst =
      fileKeys (particular entries) := by
  rw [fileKeys, List.map_filterMap, ← List.filterMap_eq_map, List.filterMap_filter]
  apply List.filterMap_congr
  intro entry _
  cases entry.2.file? <;> rfl

theorem lookup_fileLevels_of_governs (sorted : Entries.Sorted entries)
    (governs : Governs (fileKeys (particular entries)) target key)
    (found : Entries.get? key entries = some settings) :
    (fileLevels entries opened).lookup target = settings.fileLevel := by
  apply ByTarget.lookup_ofRows_of_governs
  · rw [keys_fileLevels]
    exact governs
  · intro row member sameKey
    obtain ⟨entry, among, isRow⟩ := List.mem_filterMap.1 member
    obtain ⟨_, _, rfl⟩ := Option.map_eq_some_iff.1 isRow
    have sameEntry : entry = (key, settings) :=
      List.inj_on_of_nodup_map sorted.nodup_keys (List.mem_of_mem_filter among)
        (Entries.mem_of_get found) sameKey
    rw [sameEntry]

theorem lookup_router_of_governs
    (governs : Governs (opened.filter (· ≠ Settings.defaultKey)) target key) :
    (router opened).lookup target = some key := by
  apply ByTarget.lookup_ofRows_of_governs
  · rw [ByTarget.keys_selves]
    exact governs
  · intro row member sameKey
    obtain ⟨other, _, rfl⟩ := List.mem_map.1 member
    exact congrArg some sameKey

theorem particular_opened_subset (named : opened ⊆ fileKeys entries) :
    opened.filter (· ≠ Settings.defaultKey) ⊆ fileKeys (particular entries) := by
  intro key member
  obtain ⟨isOpen, notDefault⟩ := List.mem_filter.1 member
  exact mem_fileKeys_particular.2 ⟨named isOpen, of_decide_eq_true notDefault⟩

/-- A section that governs a target and has its file open decides both about the level and about
the file. -/
theorem sinkAgrees_of_opened (sorted : Entries.Sorted entries) (named : opened ⊆ fileKeys entries)
    (governs : Governs (fileKeys (particular entries)) target key) (isOpen : key ∈ opened)
    (found : Entries.get? key entries = some settings) : SinkAgrees entries opened target := by
  have notDefault := (mem_fileKeys_particular.1 governs.member).2
  have governsOpen : Governs (opened.filter (· ≠ Settings.defaultKey)) target key :=
    governs.of_subset (particular_opened_subset named)
      (List.mem_filter.2 ⟨isOpen, decide_eq_true notDefault⟩)
  have receives : receiving? entries opened target = some settings := by
    rw [receiving?, lookup_router_of_governs governsOpen, Option.bind_some, found]
  rw [sinkAgrees_iff_level, lookup_fileLevels_of_governs sorted governs found, receives,
    Option.bind_some]

/-- What no section governs is left to the default section in both tables. -/
theorem sinkAgrees_of_ungoverned (named : opened ⊆ fileKeys entries)
    (ungoverned : ∀ key ∈ fileKeys (particular entries), matchesTarget target key = false) :
    SinkAgrees entries opened target := by
  have level : (fileLevels entries opened).lookup target =
      if opened.contains Settings.defaultKey then
        (standardSection? entries).bind Section.fileLevel else none := by
    apply ByTarget.lookup_ofRows_of_unmatched
    rw [keys_fileLevels]
    exact ungoverned
  have file : (router opened).lookup target =
      if opened.contains Settings.defaultKey then some Settings.defaultKey else none := by
    apply ByTarget.lookup_ofRows_of_unmatched
    rw [ByTarget.keys_selves]
    intro key member
    exact ungoverned key (particular_opened_subset named member)
  rw [sinkAgrees_iff_level, level, receiving?, file]
  split <;> rfl

end Agreement

/-- The levels of the log files and the choice of the file agree about a target exactly if the
section that governs it has its file open or sets the level of the section whose file takes its
records. -/
theorem sinkAgrees_iff (logging : Dict Section) {opened : List String}
    (named : opened ⊆ fileKeys logging.entries) (target : String) :
    SinkAgrees logging.entries opened target ↔
      ∀ key settings, Governs (fileKeys (particular logging.entries)) target key →
        logging.get? key = some settings →
          key ∈ opened ∨ settings.fileLevel =
            (receiving? logging.entries opened target).bind Section.fileLevel := by
  constructor
  · intro agrees key settings governs found
    right
    rw [← lookup_fileLevels_of_governs logging.sorted governs found]
    exact sinkAgrees_iff_level.1 agrees
  · intro governed
    by_cases matched : ∃ key ∈ fileKeys (particular logging.entries),
        matchesTarget target key = true
    · obtain ⟨other, member, otherMatches⟩ := matched
      obtain ⟨key, governs⟩ := Governs.exists_of_matches member otherMatches
      have namesFile := (mem_fileKeys_particular.1 governs.member).1
      obtain ⟨settings, among, _⟩ := mem_fileKeys.1 namesFile
      have found : logging.get? key = some settings := logging.sorted.get_eq_some_iff.2 among
      rcases governed key settings governs found with isOpen | sameLevel
      · exact sinkAgrees_of_opened logging.sorted named governs isOpen found
      · rw [sinkAgrees_iff_level, ← sameLevel]
        exact lookup_fileLevels_of_governs logging.sorted governs found
    · apply sinkAgrees_of_ungoverned named
      intro key member
      exact Bool.eq_false_iff.2 fun isMatch => matched ⟨key, member, isMatch⟩

def splitLogging : Dict Section :=
  .ofList
    [("default", ⟨some .info, some ⟨"p.log", some .info⟩, none, none, none⟩),
      ("registrar", ⟨some .info, some ⟨"blocked/r.log", some .trace⟩, none, none, none⟩)]

def freeFiles : FileTree := ⟨[(["home"], .directory)], []⟩

/-- A file stands where the directory of a log file should be. -/
def blockedFiles : FileTree := freeFiles.add ["home", "blocked"] (.file (some "x"))

theorem sinkAgrees_with_both_open :
    let opened := (openFiles "/home" splitLogging.entries freeFiles).paths.map Prod.fst
    opened ⊆ fileKeys splitLogging.entries ∧
      SinkAgrees splitLogging.entries opened "registrar" := by
  intro opened
  have named : opened ⊆ fileKeys splitLogging.entries := openFiles_subset _ _ _
  refine ⟨named, (sinkAgrees_iff splitLogging named "registrar").2 ?_⟩
  intro key settings governs _
  have allOpen : fileKeys splitLogging.entries ⊆ opened := by decide
  exact Or.inl (allOpen (mem_fileKeys_particular.1 governs.member).1)

/-- The records of `registrar` pass at any level and go to the file that takes `info` at most. -/
theorem not_sinkAgrees_of_blocked :
    ¬ SinkAgrees splitLogging.entries
      ((openFiles "/home" splitLogging.entries blockedFiles).paths.map Prod.fst) "registrar" := by
  have onlyDefault : (openFiles "/home" splitLogging.entries blockedFiles).paths.map Prod.fst =
      ["default"] := by decide
  have level : (fileLevels splitLogging.entries ["default"]).lookup "registrar" =
      some .trace := by decide
  have own : (receiving? splitLogging.entries ["default"] "registrar").bind Section.fileLevel =
      some .info := by decide
  rw [onlyDefault, sinkAgrees_iff_level, level, own]
  decide

end RpcRegistry.Log
