import RpcRegistry.Command
import RpcRegistry.Proofs.Announcement.Quiet
import RpcRegistry.Proofs.CommandLine
import RpcRegistry.Proofs.Listing.Columns
import RpcRegistry.Proofs.Settings.Loading

/-!
The command from its arguments to what it prints. Once its settings are loaded and its log files
are opened, it cannot fail: the directory it announces to is its own and holds nothing before, so
no call is refused and the listing shows what was planned.
-/

namespace RpcRegistry

open Log

namespace Settings

theorem homeDir_withVerbosity (count : Nat) (settings : Settings) :
    (settings.withVerbosity count).homeDir = settings.homeDir := by
  unfold withVerbosity
  split <;> rfl

theorem registrar_withVerbosity (count : Nat) (settings : Settings) (name : String) :
    (settings.withVerbosity count).registrar name = settings.registrar name := by
  unfold withVerbosity
  split <;> rfl

end Settings

namespace Log.Sinks

theorem level_of_seen {sinks : Sinks} {table : LevelTable} {event shown : Event}
    (seen : sinks.seen? table event = some shown) : shown.level = event.level := by
  obtain ⟨_, same⟩ := Option.ite_none_right_eq_some.1 seen
  obtain rfl := Option.some.inj same
  rfl

variable {sinks : Sinks} {events : List Event}

theorem quiet_onConsole (quiet : ∀ event ∈ events, event.level ≠ .error) :
    ∀ shown ∈ sinks.onConsole events, shown.level ≠ .error := by
  intro shown member
  obtain ⟨event, inRun, seen⟩ := List.mem_filterMap.1 member
  rw [level_of_seen seen]
  exact quiet event inRun

theorem quiet_inFiles (quiet : ∀ event ∈ events, event.level ≠ .error) :
    ∀ entry ∈ sinks.inFiles events, entry.2.level ≠ .error := by
  rintro ⟨key, shown⟩ member
  obtain ⟨event, inRun, found⟩ := List.mem_filterMap.1 member
  obtain ⟨seen, isSeen, found⟩ := Option.bind_eq_some_iff.1 found
  obtain ⟨_, _, same⟩ := Option.bind_eq_some_iff.1 found
  obtain ⟨rfl, rfl⟩ := Prod.mk.inj (Option.some.inj same)
  rw [level_of_seen isSeen]
  exact quiet event inRun

end Log.Sinks

namespace Command

def sourceOf (options : CommandLine.Options) : Settings.Source :=
  match options.config with
  | some path => .required path
  | none => .builtIn

/-- Withdrawing only wins wherever it stands on the line, and announcing the status service only
wins over announcing everything. -/
theorem mode_of_parse {arguments : List String} {options : CommandLine.Options}
    (parsed : CommandLine.parse arguments = .ok options) :
    let given := CommandLine.given arguments
    options.mode =
      if .unsetOnly ∈ given then .unsetOnly else if .statdOnly ∈ given then .statdOnly
      else .full := by
  intro given
  have unset : options.unsetOnly = true ↔ .unsetOnly ∈ given :=
    CommandLine.has_iff_given parsed .unsetOnly
  have statd : options.statdOnly = true ↔ .statdOnly ∈ given :=
    CommandLine.has_iff_given parsed .statdOnly
  simp only [CommandLine.Options.mode, Mode.ofFlags, unset, statd]

theorem quiet_announce (mode : Mode) (registrar : RegistrarSettings) (homeDir : String) :
    ∀ event ∈ (announce mode registrar homeDir).1, event.level ≠ .error := by
  have clean := Mode.isClean_run_fresh mode registrar.transports registrar.owner
  have run := Mode.quiet_run LocalDirectory.quiet_binder mode registrar.transports clean
  simp only [announce, failureEvents, clean, if_true, List.append_nil]
  exact List.forall_mem_cons.2 ⟨Level.noConfusion, run⟩

/-- A line that is accepted and asks for no printed settings leads to a run once these are
loaded. -/
theorem run_eq_runWith {arguments : List String} {host : Host} {options : CommandLine.Options}
    {settings : Settings} {files : FileTree} {registrar : RegistrarSettings}
    (parsed : CommandLine.parse arguments = .ok options)
    (announces : .printConfig ∉ CommandLine.given arguments)
    (loads : Settings.load (sourceOf options) host = (.ok settings, files))
    (reads : settings.registrar RegistrarSettings.moduleName = .ok registrar) :
    run arguments host = runWith options (cap? host.environment)
      (settings.withVerbosity options.verbosity) registrar files := by
  have notPrinted : ¬ options.printConfig = true := fun printed =>
    announces ((CommandLine.has_iff_given parsed .printConfig).1 printed)
  have readsRaised := (settings.registrar_withVerbosity options.verbosity _).trans reads
  cases config : options.config <;> simp only [sourceOf, config] at loads <;>
    simp only [run, parsed, runOptions, config, loads, if_neg notPrinted, readsRaised]

/-- Settings whose listing can be taken apart again: each socket path is a word, and the owner is
part of a line. -/
structure Listable (registrar : RegistrarSettings) : Prop where
  owner : '\n' ∉ registrar.owner.toList
  path : ∀ path ∈ registrar.transports.configured,
    path ≠ "" ∧ ' ' ∉ path.toList ∧ '\n' ∉ path.toList

theorem Listable.row {registrar : RegistrarSettings} (listable : Listable registrar) {mode : Mode}
    {registration : Registration}
    (planned : registration ∈ (Plan.forMode mode registrar.transports).registrations) :
    (registration.row registrar.owner).Listable := by
  constructor
  · exact listable.owner
  · intro path isLocal
    rw [Registration.row, Transport.path_endpoint] at isLocal
    exact listable.path path (Plan.path_configured planned isLocal)

theorem ofMapping_row (registration : Registration) (owner : String) :
    Listing.Columns.ofMapping (registration.row owner) =
      { program := Text.Numeral.decimal registration.program.toNat
        version := Text.Numeral.decimal registration.version.toNat
        netId := registration.transport.netId.name.toList
        address := (UniversalAddress.ofEndpoint registration.transport.endpoint).toList
        port := match registration.transport.port? with
          | some port => Text.Numeral.decimal port.toNat
          | none => ['-']
        owner := owner.toList } := by
  have port := Listing.portColumn_eq (registration.row owner)
  simp only [Registration.row, Transport.port_endpoint] at port
  simp only [Listing.Columns.ofMapping, Registration.row, port]
  rfl

/-- A run whose settings are loaded and whose log files are opened ends well. Its mode follows from
the flags, nothing it says is an error, and if a listing is asked for it is all that is printed:
the names of the columns and a line for each planned registration, each once and in order, with its
address, its port and the owner that is set. -/
theorem run_lists_plan {arguments : List String} {host : Host} {options : CommandLine.Options}
    {settings : Settings} {files : FileTree} {registrar : RegistrarSettings}
    (parsed : CommandLine.parse arguments = .ok options)
    (announces : .printConfig ∉ CommandLine.given arguments)
    (loads : Settings.load (sourceOf options) host = (.ok settings, files))
    (reads : settings.registrar RegistrarSettings.moduleName = .ok registrar)
    (returns : (openFiles settings.homeDir
      (settings.withVerbosity options.verbosity).logging.entries files).complete = true) :
    let given := CommandLine.given arguments
    let mode : Mode :=
      if .unsetOnly ∈ given then .unsetOnly else if .statdOnly ∈ given then .statdOnly else .full
    let planned := (Plan.forMode mode registrar.transports).registrations
    let session := mode.run LocalDirectory.binder registrar.transports (.ofOwner registrar.owner)
    let rows := session.state.mappings
    let columns := rows.map Listing.Columns.ofMapping
    let lines := columns.map Listing.Columns.spread
    let result := run arguments host
    result.exitCode = 0 ∧
      (session.result.isClean = true ∧ session.complaints = [] ∧
        ∀ event ∈ session.events, event.level ≠ .error) ∧
      ((∀ event ∈ result.console, event.level ≠ .error) ∧
        ∀ entry ∈ result.logged, entry.2.level ≠ .error) ∧
      result.output = (if .dump ∈ given then Listing.render rows else "") ∧
      (.dump ∈ given → result.output.toList =
        "   program  vers netid      address                   port owner\n".toList ++
          lines.flatMap fun line => line ++ ['\n']) ∧
      (.dump ∈ given → Listable registrar →
        result.output.toList.splitOn '\n' =
            "   program  vers netid      address                   port owner".toList ::
              (lines ++ [[]]) ∧
          lines.map Listing.Columns.ofRow = columns) ∧
      rows.Perm (planned.map (Registration.row registrar.owner)) ∧
      rows.Pairwise Mapping.Precedes ∧
      (rows.length =
        match mode with
        | .full => 16 + 2 * registrar.transports.configured.length
        | .unsetOnly => 0
        | .statdOnly => 4) ∧
      ∀ registration ∈ planned,
        Listing.Columns.ofMapping (registration.row registrar.owner) =
          { program := Text.Numeral.decimal registration.program.toNat
            version := Text.Numeral.decimal registration.version.toNat
            netId := registration.transport.netId.name.toList
            address := (UniversalAddress.ofEndpoint registration.transport.endpoint).toList
            port := match registration.transport.port? with
              | some port => Text.Numeral.decimal port.toNat
              | none => ['-']
            owner := registrar.owner.toList } := by
  intro given mode planned session rows columns lines result
  have isMode : options.mode = mode := mode_of_parse parsed
  have clean : session.result.isClean = true :=
    Mode.isClean_run_fresh mode registrar.transports registrar.owner
  have isResult : result = _ := run_eq_runWith parsed announces loads reads
  rw [runWith, Settings.homeDir_withVerbosity] at isResult
  simp only [returns, if_true, isMode] at isResult
  have quiet := quiet_announce mode registrar settings.homeDir
  have permuted : rows.Perm (planned.map (Registration.row registrar.owner)) :=
    LocalDirectory.perm_mappings_fresh mode registrar.transports registrar.owner
  have printed : result.output = if .dump ∈ given then Listing.render rows else "" := by
    have dump : options.dump = true ↔ .dump ∈ given := CommandLine.has_iff_given parsed .dump
    rw [isResult]
    simp only [dump]
    rfl
  have isLines : lines = rows.map Listing.row := by
    simp only [lines, columns, List.map_map]
    exact List.map_congr_left fun mapping _ => Listing.spread_ofMapping mapping
  refine ⟨?_, ⟨clean, ?_, ?_⟩, ⟨?_, ?_⟩, printed, ?_, ?_, permuted, ?_, ?_, ?_⟩
  · rw [isResult]
  · exact Mode.complaints_of_clean _ _ mode _ clean
  · exact Mode.quiet_run LocalDirectory.quiet_binder mode _ clean
  · rw [isResult]
    exact Sinks.quiet_onConsole quiet
  · rw [isResult]
    intro entry member
    obtain ⟨shown, inFiles, found⟩ := List.mem_filterMap.1 member
    obtain ⟨path, _, rfl⟩ := Option.map_eq_some_iff.1 found
    exact Sinks.quiet_inFiles quiet shown inFiles
  · intro dump
    rw [printed, if_pos dump, Listing.toList_render]
    simp only [lines, columns, List.flatMap_map]
  · intro dump listable
    have eachListable : ∀ mapping ∈ rows, mapping.Listable := by
      intro mapping member
      obtain ⟨registration, planned, rfl⟩ := List.mem_map.1 (permuted.subset member)
      exact listable.row planned
    rw [printed, if_pos dump, isLines]
    constructor
    · exact Listing.split_render eachListable
    · rw [List.map_map]
      exact List.map_congr_left fun mapping member =>
        Listing.ofRow_row (eachListable mapping member)
  · exact LocalDirectory.mappings_ordered _
  · have length : rows.length = (Plan.forMode mode registrar.transports).registerCallCount := by
      rw [permuted.length_eq, List.length_map, Plan.length_registrations]
    exact length.trans (Plan.registerCallCount_forMode mode registrar.transports)
  · exact fun registration _ => ofMapping_row registration registrar.owner

def socketHost : Host where
  home := "/home"
  environment := []
  files := ⟨[(["a.yaml"], .file (some ("modules: \x7bregistrar: \x7bowner: daemon, " ++
    "local_transports: \x7bnfsd_ticlts: /run/nfsd\x7d\x7d\x7d")))], []⟩

def socketSettings : RegistrarSettings :=
  { owner := "daemon", transports := { nfsdTiclts := some "/run/nfsd" } }

/-- The listing of the services over the internet, and of one of them over the socket. -/
def socketListing : List String :=
  ["   program  vers netid      address                   port owner\n",
    "    100003     2 udp        0.0.0.0.8.1               2049 daemon\n",
    "    100003     2 udp6       ::.8.1                    2049 daemon\n",
    "    100003     2 tcp        0.0.0.0.8.1               2049 daemon\n",
    "    100003     2 tcp6       ::.8.1                    2049 daemon\n",
    "    100003     2 ticlts     /run/nfsd                    - daemon\n",
    "    100003     3 udp        0.0.0.0.8.1               2049 daemon\n",
    "    100003     3 udp6       ::.8.1                    2049 daemon\n",
    "    100003     3 tcp        0.0.0.0.8.1               2049 daemon\n",
    "    100003     3 tcp6       ::.8.1                    2049 daemon\n",
    "    100003     3 ticlts     /run/nfsd                    - daemon\n",
    "    100005     1 udp        0.0.0.0.127.255          32767 daemon\n",
    "    100005     1 udp6       ::.127.255               32767 daemon\n",
    "    100005     1 tcp        0.0.0.0.127.255          32767 daemon\n",
    "    100005     1 tcp6       ::.127.255               32767 daemon\n",
    "    100005     3 udp        0.0.0.0.127.255          32767 daemon\n",
    "    100005     3 udp6       ::.127.255               32767 daemon\n",
    "    100005     3 tcp        0.0.0.0.127.255          32767 daemon\n",
    "    100005     3 tcp6       ::.127.255               32767 daemon\n"]

theorem run_lists_plan_with_socket :
    let result := run ["-vc", "/a.yaml", "--dump"] socketHost
    ∃ settings files,
      Settings.load (.required "/a.yaml") socketHost = (.ok settings, files) ∧
      settings.registrar RegistrarSettings.moduleName = .ok socketSettings ∧
      (openFiles settings.homeDir (settings.withVerbosity 1).logging.entries files).complete ∧
      result.exitCode = 0 ∧
      result.output = String.join socketListing ∧
      ∃ rows, result.output = Listing.render rows ∧ rows.length = 18 ∧
        result.output.toList.splitOn '\n' =
          "   program  vers netid      address                   port owner".toList ::
            ((rows.map Listing.Columns.ofMapping).map Listing.Columns.spread ++ [[]]) ∧
        rows.Pairwise Mapping.Precedes ∧
        rows.Perm ((Plan.forMode .full socketSettings.transports).registrations.map
          (Registration.row "daemon")) := by
  obtain ⟨settings, files, loads⟩ := Settings.exists_load_of_isSome
    (show (Settings.load (.required "/a.yaml") socketHost).1.toOption.isSome by decide +kernel)
  have facts : ((Settings.load (.required "/a.yaml") socketHost).1.toOption.map fun settings =>
      ((settings.registrar RegistrarSettings.moduleName).toOption,
        (openFiles settings.homeDir (settings.withVerbosity 1).logging.entries
          (Settings.load (.required "/a.yaml") socketHost).2).complete)) =
      some (some socketSettings, true) := by decide +kernel
  rw [loads] at facts
  obtain ⟨reads, returns⟩ := Prod.mk.inj (Option.some.inj facts)
  have parsed : CommandLine.parse ["-vc", "/a.yaml", "--dump"] =
      .ok { config := some "/a.yaml", dump := true, verbosity := 1 } := by decide +kernel
  have listed := run_lists_plan parsed (by decide) loads (eq_ok_of_toOption reads) returns
  have listable : Listable socketSettings := ⟨by decide, by decide⟩
  obtain ⟨exitCode, _, _, output, _, divided, permuted, ordered, length, _⟩ := listed
  refine ⟨settings, files, loads, eq_ok_of_toOption reads, returns, exitCode, ?_, _,
    output, length, ?_, ordered, permuted⟩
  · rw [output, if_pos (by decide), Listing.render_eq_join]
    exact congrArg String.join (by decide +kernel)
  · exact (divided (by decide) listable).1

end Command

end RpcRegistry
