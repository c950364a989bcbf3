import RpcRegistry.Proofs.Log.ConsoleSink
import RpcRegistry.Proofs.Settings.Loading
import RpcRegistry.Proofs.Settings.Rereading

/-!
What a request for more detail does to settings that were loaded. It raises the console level of
the default section, so it is heard wherever no other section has a say. The defaults bring a
default section along, and only a settings file that has something else in place of the sections
takes it away; if variables make a dictionary of sections again, the settings can still be read,
and then the request changes nothing.
-/

namespace RpcRegistry.Settings

open Value Log

def Unclaimed (logging : Dict Section) (target : String) : Prop :=
  ∀ key, key ≠ defaultKey → (logging.get? key).isSome → matchesTarget target key = false

/-- The default section has another console level, which every target has that no other section
speaks of, and nothing else has changed. -/
structure Raised (level : Level) (before after : Settings) : Prop where
  homeDir : after.homeDir = before.homeDir
  modulesDir : after.modulesDir = before.modulesDir
  modules : after.modules = before.modules
  standard : ∃ current, before.logging.get? defaultKey = some current ∧
    after.logging.get? defaultKey = some { current with consoleLevel := some level }
  others : ∀ key, key ≠ defaultKey → after.logging.get? key = before.logging.get? key
  console : ∀ earlier later : LoggingEntries, earlier.Perm before.logging.entries →
    later.Perm after.logging.entries → ∀ target,
      (Unclaimed before.logging target → (consoleLevels later).lookup target = some level) ∧
      (¬ Unclaimed before.logging target →
        (consoleLevels later).lookup target = (consoleLevels earlier).lookup target)

/-- The settings file has something else in place of the sections, and the variables do not speak
of the default section. -/
structure LosesDefault (file environment : Value) : Prop where
  replaced : ∃ said, file.at? ["logging"] = some said ∧ said.isDict = false
  unsaid : environment.at? ["logging", defaultKey] = none

section

variable {source : Source} {host : Host} {files : FileTree} {settings before after : Settings}
  {file environment : Value} {homeDir key target : String} {level : Level} {count : Nat}
  {entries earlier later : LoggingEntries} {logging : Dict Section}

theorem mem_particularKeys (order : entries.Perm logging.entries) :
    key ∈ particularKeys entries ↔ key ≠ defaultKey ∧ (logging.get? key).isSome := by
  rw [← logging.get_of_perm order, ← Option.ne_none_iff_isSome, Ne, Ne, Entries.get_eq_none_iff,
    not_not]
  constructor
  · intro member
    obtain ⟨entry, among, rfl⟩ := List.mem_map.1 member
    have kept := List.mem_filter.1 among
    exact ⟨of_decide_eq_true kept.2, List.mem_map_of_mem kept.1⟩
  · intro named
    obtain ⟨entry, among, rfl⟩ := List.mem_map.1 named.2
    exact List.mem_map_of_mem (List.mem_filter.2 ⟨among, decide_eq_true named.1⟩)

theorem lookup_of_unclaimed (order : entries.Perm logging.entries)
    (unclaimed : Unclaimed logging target) :
    (consoleLevels entries).lookup target =
      ((logging.get? defaultKey).bind Section.consoleLevel).or (some .info) := by
  rw [← logging.get_of_perm order]
  apply lookup_consoleLevels_of_unmatched
  intro key member
  have named := (mem_particularKeys order).1 member
  exact unclaimed key named.1 named.2

/-- A target that another section speaks of is left to that section, which stays as it was. -/
theorem lookup_of_claimed (others : ∀ key, key ≠ defaultKey →
      after.logging.get? key = before.logging.get? key)
    (earlierOrder : earlier.Perm before.logging.entries)
    (laterOrder : later.Perm after.logging.entries) (claimed : ¬ Unclaimed before.logging target) :
    (consoleLevels later).lookup target = (consoleLevels earlier).lookup target := by
  have sameKeys : ∀ key, key ∈ particularKeys later ↔ key ∈ particularKeys earlier := by
    intro key
    rw [mem_particularKeys laterOrder, mem_particularKeys earlierOrder]
    exact and_congr_right fun notDefault => by rw [others key notDefault]
  have distinct : ∀ {entries : LoggingEntries} {logging : Dict Section},
      entries.Perm logging.entries → (entries.map Prod.fst).Nodup := fun {_ logging} order =>
    (order.map Prod.fst).nodup_iff.2 logging.sorted.nodup_keys
  unfold Unclaimed at claimed
  push Not at claimed
  obtain ⟨other, notDefault, bound, matched⟩ := claimed
  have among := (mem_particularKeys earlierOrder).2 ⟨notDefault, bound⟩
  obtain ⟨key, governs⟩ := Governs.exists_of_matches among (Bool.ne_false_iff.1 matched)
  have stillGoverns : Governs (particularKeys later) target key :=
    governs.of_subset (fun other => (sameKeys other).1) ((sameKeys key).2 governs.member)
  have named := (mem_particularKeys earlierOrder).1 governs.member
  obtain ⟨settings, found⟩ := Option.isSome_iff_exists.1 named.2
  have foundEarlier : Entries.get? key earlier = some settings := by
    rw [before.logging.get_of_perm earlierOrder, found]
  have foundLater : Entries.get? key later = some settings := by
    rw [after.logging.get_of_perm laterOrder, others key named.1, found]
  rw [lookup_consoleLevels_of_governs (distinct laterOrder) stillGoverns foundLater,
    lookup_consoleLevels_of_governs (distinct earlierOrder) governs foundEarlier]

theorem verboseLevel_of_pos (positive : 1 ≤ count) :
    verboseLevel? count = some (if count = 1 then .debug else .trace) := by
  cases count with
  | zero => cases positive
  | succ count => cases count <;> rfl

theorem withVerbosity_of_level (asked : verboseLevel? count = some level) :
    settings.withVerbosity count =
      { settings with
        logging := settings.logging.modify defaultKey
          fun current => { current with consoleLevel := some level } } := by
  rw [withVerbosity, asked]

theorem withVerbosity_of_no_default (missing : settings.logging.get? defaultKey = none)
    (count : Nat) : settings.withVerbosity count = settings := by
  unfold withVerbosity
  split
  · rfl
  · rw [Dict.modify_of_unbound missing]

theorem raised_withVerbosity (present : (settings.logging.get? defaultKey).isSome)
    (asked : verboseLevel? count = some level) :
    Raised level settings (settings.withVerbosity count) := by
  obtain ⟨current, found⟩ := Option.isSome_iff_exists.1 present
  have bound : ∀ key, (settings.withVerbosity count).logging.get? key =
      if key = defaultKey then some { current with consoleLevel := some level }
      else settings.logging.get? key := by
    intro key
    rw [withVerbosity_of_level asked, Dict.get_modify, found, Option.map_some]
  have standard := (bound defaultKey).trans (if_pos rfl)
  have others : ∀ key, key ≠ defaultKey →
      (settings.withVerbosity count).logging.get? key = settings.logging.get? key :=
    fun key notDefault => (bound key).trans (if_neg notDefault)
  constructor
  · rw [withVerbosity_of_level asked]
  · rw [withVerbosity_of_level asked]
  · rw [withVerbosity_of_level asked]
  · exact ⟨current, found, standard⟩
  · exact others
  · intro earlier later earlierOrder laterOrder target
    constructor
    · intro unclaimed
      have stillUnclaimed :
          Unclaimed (settings.withVerbosity count).logging target := by
        intro key notDefault named
        rw [others key notDefault] at named
        exact unclaimed key notDefault named
      rw [lookup_of_unclaimed laterOrder stillUnclaimed, standard]
      rfl
    · exact lookup_of_claimed others earlierOrder laterOrder

theorem member_member (value : Value) (outer inner : String) :
    member? (member? (some value) outer) inner = value.at? [outer, inner] := by
  cases isDict : value.isDict with
  | false =>
      rw [member_of_not_dict isDict, at_of_not_dict isDict]
      rfl
  | true =>
      obtain ⟨entries, rfl⟩ := eq_dict_of_isDict isDict
      rw [member_dict, at_dict]
      rfl

/-- The sections are read from the defaults with the settings file and the variables over them. -/
theorem sections_of_layers (fileDict : file.isDict = true) (fileOrdered : Ordered file)
    (environmentOrdered : Ordered environment)
    (isRead : ofLayers? (layers homeDir file environment) = some settings) (key : String) :
    (joined (member? (joined (some (loggingValue standardLogging)) (member? (some file) "logging"))
        key) (environment.at? ["logging", key])).map Section.ofValue? =
      (settings.logging.get? key).map some := by
  obtain ⟨entries, members⟩ :=
    exists_layeredMembers fileDict fileOrdered environmentOrdered isRead
  have orderedUpper : ∀ value ∈ some environment, Ordered value := by
    simpa using environmentOrdered
  have orderedLower : ∀ value ∈ some ((standard homeDir).value.merge file), Ordered value := by
    simpa using (ordered_standard homeDir).merge fileOrdered
  have lowerBound : member? (some ((standard homeDir).value.merge file)) "logging" =
      joined (some (loggingValue standardLogging)) (member? (some file) "logging") := by
    rw [member_merge fileDict fileOrdered, member_value]
    rfl
  have sectionsBound := members.bound "logging"
  rw [lowerBound] at sectionsBound
  obtain ⟨sections, isSections, _, readSections⟩ :=
    members.readFrom.exists_value (members.present _ (by decide)) _ members.readFrom.logging
  obtain ⟨sectionEntries, rfl⟩ := eq_dict_of_isDict (isDict_of_dictOf readSections)
  rw [sectionsBound] at isSections
  have sorted := (ordered_joined (lowerBound ▸ ordered_member orderedLower "logging")
    (ordered_member orderedUpper "logging") _ isSections).sorted_entries
  have sectionBound := get_of_joined (forall_isDict_of_joined isSections rfl)
    (ordered_member orderedUpper "logging") isSections key
  rw [← member_member, ← sectionBound]
  exact (dictOf_dict sorted).1 readSections key

theorem standard_lost_iff {said? : Option Value} (ordered : ∀ said ∈ said?, Ordered said) :
    member? (joined (some (loggingValue standardLogging)) said?) defaultKey = none ↔
      ∃ said, said? = some said ∧ said.isDict = false := by
  have brought : member? (some (loggingValue standardLogging)) defaultKey ≠ none := by decide
  cases said? with
  | none =>
      rw [joined_none]
      exact iff_of_false brought nofun
  | some said =>
      cases isDict : said.isDict with
      | false =>
          rw [joined_of_not_dict _ isDict, member_of_not_dict isDict]
          exact iff_of_true rfl ⟨said, rfl, isDict⟩
      | true =>
          rw [member_joined (by simpa using isDict) ordered, joined_eq_none_iff]
          apply iff_of_false
          · exact fun unbound => brought unbound.1
          · rintro ⟨_, same, notDict⟩
            rw [← Option.some.inj same, isDict] at notDict
            cases notDict

theorem no_default_iff (fileDict : file.isDict = true) (fileOrdered : Ordered file)
    (environmentOrdered : Ordered environment)
    (isRead : ofLayers? (layers homeDir file environment) = some settings) :
    settings.logging.get? defaultKey = none ↔ LosesDefault file environment := by
  have readDefault := sections_of_layers fileDict fileOrdered environmentOrdered isRead defaultKey
  have sectionsOrdered : ∀ said ∈ member? (some file) "logging", Ordered said :=
    ordered_member (by simpa using fileOrdered) "logging"
  rw [read_eq_none_iff readDefault, joined_eq_none_iff, standard_lost_iff sectionsOrdered]
  constructor
  · exact fun lost => ⟨lost.1, lost.2⟩
  · exact fun lost => ⟨lost.replaced, lost.unsaid⟩

end

/-- Settings that were loaded have a default section unless the settings file takes the sections
away and no variable puts that one back. With it a request for more detail raises the level of
every target that no other section speaks of, and nothing else; without it, it changes nothing. -/
theorem verbosity_of_loaded {source : Source} {host : Host} {loaded : Settings} {files : FileTree}
    (loads : load source host = (.ok loaded, files)) :
    ∃ file environment, source.layer? host.files = some file ∧
      Environment.layer? host.environment = some environment ∧
      ((loaded.logging.get? defaultKey).isSome ↔ ¬ LosesDefault file environment) ∧
      loaded.withVerbosity 0 = loaded ∧
      (¬ LosesDefault file environment → ∀ count, 1 ≤ count →
        Raised (if count = 1 then .debug else .trace) loaded (loaded.withVerbosity count)) ∧
      (LosesDefault file environment → ∀ count, loaded.withVerbosity count = loaded) := by
  obtain ⟨_, extracted, isExtracted, ending⟩ := load_eq_ok_iff.1 loads
  obtain ⟨file, environment, fileRead, isLayer, isRead⟩ := extract_eq_ok_iff.1 isExtracted
  obtain ⟨fileOrdered, fileDict⟩ := Source.dictionary_layer fileRead
  have missing := no_default_iff fileDict fileOrdered (Environment.ordered_layer isLayer) isRead
  rw [← ending.kept.1] at missing
  have present : (loaded.logging.get? defaultKey).isSome ↔ ¬ LosesDefault file environment := by
    rw [← missing, ← Option.ne_none_iff_isSome]
  refine ⟨file, environment, fileRead, isLayer, present, rfl, ?_, ?_⟩
  · intro kept count positive
    exact raised_withVerbosity (present.2 kept) (verboseLevel_of_pos positive)
  · intro lost count
    exact withVerbosity_of_no_default (missing.2 lost) count

theorem verbosity_of_layered : ∃ loaded files,
    load (.required "/c.yaml") layeredHost = (.ok loaded, files) ∧
      Raised .trace loaded (loaded.withVerbosity 2) := by
  obtain ⟨loaded, files, loads⟩ := exists_load_of_isSome
    (show (load (.required "/c.yaml") layeredHost).1.toOption.isSome by decide +kernel)
  have found : ((load (.required "/c.yaml") layeredHost).1.toOption.bind fun loaded =>
      loaded.logging.get? defaultKey).isSome = true := by decide +kernel
  have present : (loaded.logging.get? defaultKey).isSome := by
    rwa [loads] at found
  obtain ⟨_, _, _, _, kept, _, raised, _⟩ := verbosity_of_loaded loads
  exact ⟨loaded, files, loads, raised (kept.1 present) 2 (by decide)⟩

/-- Whatever is loaded has a default section, whose level a request for more detail raises. -/
def HearsVerbosity (source : Source) (host : Host) : Prop :=
  ∀ loaded files, load source host = (.ok loaded, files) →
    (loaded.logging.get? defaultKey).isSome ∧ loaded.withVerbosity 0 = loaded ∧
    ∀ count, 1 ≤ count →
      Raised (if count = 1 then .debug else .trace) loaded (loaded.withVerbosity count)

/-- The settings file has nothing in place of the sections, and a variable makes a section for one
target. -/
def unsectionedHost : Host where
  home := "/home"
  environment := [⟨"APP__LOGGING__REGISTRAR__CONSOLE_LEVEL", "debug"⟩]
  files := ⟨[(["c.yaml"], .file (some "logging: null\n"))], []⟩

theorem not_hearsVerbosity_of_unsectioned :
    ¬ HearsVerbosity (.required "/c.yaml") unsectionedHost := by
  intro hears
  obtain ⟨loaded, files, loads⟩ := exists_load_of_isSome
    (show (load (.required "/c.yaml") unsectionedHost).1.toOption.isSome by decide +kernel)
  have lost : ((load (.required "/c.yaml") unsectionedHost).1.toOption.bind fun loaded =>
      loaded.logging.get? defaultKey).isSome = false := by decide +kernel
  have present := (hears loaded files loads).1
  have missing : (loaded.logging.get? defaultKey).isSome = false := by
    rwa [loads] at lost
  rw [missing] at present
  cases present

end RpcRegistry.Settings
