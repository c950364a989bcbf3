import RpcRegistry.Log.Sinks
import RpcRegistry.Proofs.Dict
import RpcRegistry.Proofs.Log.ByTarget
import RpcRegistry.Proofs.Log.Threshold

/-!
The table of the console. A section with a key of its own puts its console level into the table as
it is, so a silent one lets nothing through. The default section goes another way: where its level
is off, the table has `info` for the rest, as if there were no default section. The entries may
come in any order.
-/

namespace RpcRegistry.Log

def particularKeys (entries : LoggingEntries) : List String := (particular entries).map Prod.fst

/-- The section that governs a target: the one with the longest key that matches, or else the
default section. -/
inductive GovernedBy (entries : LoggingEntries) (target : String) (settings : Section) : Prop where
  | particular (key : String) (governs : Governs (particularKeys entries) target key)
      (found : Entries.get? key entries = some settings)
  | standard (unmatched : ∀ key ∈ particularKeys entries, matchesTarget target key = false)
      (found : standardSection? entries = some settings)

/-- A record of the target passes the levels of the console just if the section that governs the
target lets its level through, or if there is no such section and the level is `info` at most. -/
def ConsoleAgrees (entries : LoggingEntries) (target : String) : Prop :=
  ∀ level, (consoleLevels entries).admits target level = true ↔
    (∃ settings, GovernedBy entries target settings ∧
      Threshold.admits settings.consoleLevel level = true) ∨
    ((∀ settings, ¬ GovernedBy entries target settings) ∧
      Threshold.admits (some .info) level = true)

section Governed

variable {entries : LoggingEntries} {target key : String} {settings other : Section}

theorem keys_consoleLevels :
    ((particular entries).map fun entry => (entry.1, entry.2.consoleLevel)).map Prod.fst =
      particularKeys entries := by
  rw [List.map_map]
  rfl

theorem exists_section_of_governs (distinct : (entries.map Prod.fst).Nodup)
    (governs : Governs (particularKeys entries) target key) :
    ∃ settings, Entries.get? key entries = some settings := by
  obtain ⟨entry, member, rfl⟩ := List.mem_map.1 governs.member
  exact ⟨entry.2, (find_key_eq_some_iff distinct).2 (List.mem_of_mem_filter member)⟩

theorem GovernedBy.unique (left : GovernedBy entries target settings)
    (right : GovernedBy entries target other) : settings = other := by
  cases left with
  | particular key governs found =>
      cases right with
      | particular rival rivalGoverns rivalFound =>
          rw [governs.unique rivalGoverns, rivalFound] at found
          exact (Option.some.inj found).symm
      | standard unmatched _ =>
          have isMatch := governs.matched
          rw [unmatched key governs.member] at isMatch
          cases isMatch
  | standard unmatched found =>
      cases right with
      | particular rival rivalGoverns _ =>
          have isMatch := rivalGoverns.matched
          rw [unmatched rival rivalGoverns.member] at isMatch
          cases isMatch
      | standard _ rivalFound => exact Option.some.inj (found.symm.trans rivalFound)

/-- With a section that governs the target, the console has to let through what that section
does. -/
theorem consoleAgrees_iff_of_governed (governed : GovernedBy entries target settings) :
    ConsoleAgrees entries target ↔
      (consoleLevels entries).lookup target = settings.consoleLevel := by
  have passes : ∀ level, ((∃ settings, GovernedBy entries target settings ∧
      Threshold.admits settings.consoleLevel level = true) ∨
      ((∀ settings, ¬ GovernedBy entries target settings) ∧
        Threshold.admits (some .info) level = true)) ↔
      Threshold.admits settings.consoleLevel level = true := by
    intro level
    constructor
    · rintro (⟨other, otherGoverns, admitted⟩ | ⟨ungoverned, _⟩)
      · rwa [governed.unique otherGoverns]
      · exact absurd governed (ungoverned settings)
    · exact fun admitted => Or.inl ⟨settings, governed, admitted⟩
  constructor
  · exact fun agrees => Threshold.eq_of_admits fun level => (agrees level).trans (passes level)
  · intro same level
    rw [passes level, ← same]
    rfl

theorem lookup_consoleLevels_of_governs (distinct : (entries.map Prod.fst).Nodup)
    (governs : Governs (particularKeys entries) target key)
    (found : Entries.get? key entries = some settings) :
    (consoleLevels entries).lookup target = settings.consoleLevel := by
  apply ByTarget.lookup_ofRows_of_governs
  · rw [keys_consoleLevels]
    exact governs
  · intro row member sameKey
    obtain ⟨entry, among, rfl⟩ := List.mem_map.1 member
    have sameEntry : entry = (key, settings) :=
      List.inj_on_of_nodup_map distinct (List.mem_of_mem_filter among)
        (Entries.mem_of_get found) sameKey
    rw [sameEntry]

theorem lookup_consoleLevels_of_unmatched
    (unmatched : ∀ key ∈ particularKeys entries, matchesTarget target key = false) :
    (consoleLevels entries).lookup target =
      ((standardSection? entries).bind Section.consoleLevel).or (some .info) := by
  apply ByTarget.lookup_ofRows_of_unmatched
  rw [keys_consoleLevels]
  exact unmatched

theorem consoleAgrees_of_governs (distinct : (entries.map Prod.fst).Nodup)
    (governs : Governs (particularKeys entries) target key) : ConsoleAgrees entries target := by
  obtain ⟨settings, found⟩ := exists_section_of_governs distinct governs
  rw [consoleAgrees_iff_of_governed (.particular key governs found)]
  exact lookup_consoleLevels_of_governs distinct governs found

/-- What no key matches is left to the default section, which counts only if it is not silent. -/
theorem consoleAgrees_of_unmatched
    (unmatched : ∀ key ∈ particularKeys entries, matchesTarget target key = false) :
    ConsoleAgrees entries target ↔
      ∀ settings, standardSection? entries = some settings → settings.consoleLevel ≠ none := by
  have lookup := lookup_consoleLevels_of_unmatched unmatched
  cases standard : standardSection? entries with
  | some settings =>
      rw [consoleAgrees_iff_of_governed (.standard unmatched standard), lookup, standard]
      cases level : settings.consoleLevel <;> simp [level]
  | none =>
      have ungoverned : ∀ settings, ¬ GovernedBy entries target settings := by
        rintro settings (⟨key, governs, _⟩ | ⟨_, found⟩)
        · have isMatch := governs.matched
          rw [unmatched key governs.member] at isMatch
          cases isMatch
        · rw [standard] at found
          cases found
      refine iff_of_true ?_ (fun _ found => nomatch found)
      intro level
      rw [LevelTable.admits, lookup, standard]
      constructor
      · exact fun admitted => Or.inr ⟨ungoverned, admitted⟩
      · rintro (⟨settings, governed, _⟩ | ⟨_, admitted⟩)
        · exact absurd governed (ungoverned settings)
        · exact admitted

end Governed

/-- In whatever order the sections come, the console follows the section that governs a target,
unless that is a default section which is off: then the records of the target pass up to
`info`. -/
theorem consoleAgrees_iff (logging : Dict Section) {entries : LoggingEntries}
    (order : entries.Perm logging.entries) (target : String) :
    (ConsoleAgrees entries target ↔
      ∀ settings, GovernedBy entries target settings → settings.consoleLevel = none →
        ∃ key ∈ particularKeys entries, matchesTarget target key = true) ∧
    (¬ ConsoleAgrees entries target → (consoleLevels entries).lookup target = some .info) := by
  have distinct : (entries.map Prod.fst).Nodup :=
    (order.map Prod.fst).nodup_iff.2 logging.sorted.nodup_keys
  by_cases matched : ∃ key ∈ particularKeys entries, matchesTarget target key = true
  · obtain ⟨other, member, otherMatches⟩ := matched
    obtain ⟨key, governs⟩ := Governs.exists_of_matches member otherMatches
    have agrees := consoleAgrees_of_governs distinct governs
    exact ⟨iff_of_true agrees fun _ _ _ => ⟨key, governs.member, governs.matched⟩,
      fun disagrees => absurd agrees disagrees⟩
  · have unmatched : ∀ key ∈ particularKeys entries, matchesTarget target key = false :=
      fun key member => Bool.eq_false_iff.2 fun isMatch => matched ⟨key, member, isMatch⟩
    -- Only here is the default section asked, and silence is taken for its absence.
    have agreesIff := consoleAgrees_of_unmatched unmatched
    constructor
    · rw [agreesIff]
      constructor
      · rintro speaks settings (⟨key, governs, _⟩ | ⟨_, found⟩) silent
        · exact absurd ⟨key, governs.member, governs.matched⟩ matched
        · exact absurd silent (speaks settings found)
      · exact fun governed settings found silent =>
          matched (governed settings (.standard unmatched found) silent)
    · intro disagrees
      rw [agreesIff] at disagrees
      push Not at disagrees
      obtain ⟨settings, found, silent⟩ := disagrees
      rw [lookup_consoleLevels_of_unmatched unmatched, found, Option.bind_some, silent,
        Option.none_or]

/-- The default section is off, and the section of `registrar` is not. -/
def silentLogging : Dict Section :=
  .ofList
    [("default", ⟨none, none, none, none, none⟩),
      ("registrar", ⟨some .debug, none, none, none, none⟩)]

theorem consoleAgrees_below_key :
    silentLogging.entries.reverse.Perm silentLogging.entries ∧
      ConsoleAgrees silentLogging.entries.reverse "registrar::domain" := by
  have order : silentLogging.entries.reverse.Perm silentLogging.entries := List.reverse_perm _
  refine ⟨order, (consoleAgrees_iff silentLogging order "registrar::domain").1.2 ?_⟩
  intro _ _ _
  exact ⟨"registrar", by decide, by decide⟩

/-- Errors pass although the section that governs the target is off. -/
theorem not_consoleAgrees_of_silent : ¬ ConsoleAgrees silentLogging.entries "pmreg" := by
  have governed : GovernedBy silentLogging.entries "pmreg" ⟨none, none, none, none, none⟩ :=
    .standard (by decide) (by decide)
  have level : (consoleLevels silentLogging.entries).lookup "pmreg" = some .info := by decide
  rw [consoleAgrees_iff_of_governed governed, level]
  decide

end RpcRegistry.Log
