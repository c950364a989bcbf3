import RpcRegistry.CommandLine
import RpcRegistry.Listing
import RpcRegistry.Announcement
import RpcRegistry.Log.Sinks
import RpcRegistry.Log.Record
import RpcRegistry.Settings.Load

/-!
The whole command: read the command line, load the settings, open the logs, announce the services
to a directory of its own, and list it. A run ends with what it printed, the files it leaves and
the events for its log files.
-/

namespace RpcRegistry.Command

open RpcRegistry.Log

/-- A finished run. Each event for a log file comes with the path of that file. -/
structure Result where
  exitCode : Nat
  output : String
  complaints : List String
  console : List Event
  files : FileTree
  logged : List (String × Event)

namespace Result

def quiet (exitCode : Nat) (output : String) (files : FileTree) : Result :=
  ⟨exitCode, output, [], [], files, []⟩

def failed (message : String) (files : FileTree) : Result :=
  { quiet 1 "" files with complaints := ["Error: " ++ message] }

end Result

def target : String := "pmreg"

def crashCode : Nat := 101

def startEvent (mode : Mode) (homeDir : String) : Event :=
  ⟨.info, target, "pmreg starting", [("mode", .shown mode.name), ("home_dir", .shown homeDir)],
    []⟩

def failureEvents (report : RunReport) : List Event :=
  if report.isClean then []
  else
    [⟨.warn, target, "Some registrations failed",
      [("failed", .number report.failed), ("attempted", .number report.attempted)], []⟩]

def announce (mode : Mode) (settings : RegistrarSettings) (homeDir : String) :
    List Event × String :=
  let session := Mode.run LocalDirectory.binder settings.transports mode
    (LocalDirectory.ofOwner settings.owner)
  (startEvent mode homeDir :: session.events ++ failureEvents session.result,
    Listing.render session.state.mappings)

def runWith (options : CommandLine.Options) (cap : Option Cap) (settings : Settings)
    (registrar : RegistrarSettings) (files : FileTree) : Result :=
  let entries := settings.logging.entries
  let opened := openFiles settings.homeDir entries files
  if opened.complete then
    let sinks := Sinks.ofSettings entries (opened.paths.map (·.1)) cap
    let (events, listing) := announce options.mode registrar settings.homeDir
    let logged := (sinks.inFiles events).filterMap fun (key, event) =>
      (Entries.get? key opened.paths).map fun path => (path, event)
    { exitCode := 0
      output := if options.dump then listing else ""
      complaints := opened.complaints
      console := sinks.onConsole events
      files := opened.files
      logged }
  else Result.quiet crashCode "" opened.files

def runOptions (options : CommandLine.Options) (cap : Option Cap) (host : Host) : Result :=
  let source := match options.config with
    | some path => Settings.Source.required path
    | none => .builtIn
  match Settings.load source host with
  | (.error error, files) =>
      if error.isFatal then .quiet crashCode "" files else .failed error.message files
  | (.ok settings, files) =>
      let settings := settings.withVerbosity options.verbosity
      if options.printConfig then .quiet 0 (settings.yaml ++ "\n") files
      else
        match settings.registrar RegistrarSettings.moduleName with
        | .error error => .failed error.message files
        | .ok registrar => runWith options cap settings registrar files

def capVariable : String := "RUST_LOG"

def cap? (environment : List Environment.Variable) : Option Cap :=
  (environment.reverse.find? (·.name = capVariable)).bind fun given => Cap.ofText? given.value

def run (arguments : List String) (host : Host) : Result :=
  match CommandLine.parse arguments with
  | .error .help => .quiet 0 CommandLine.helpText host.files
  | .error .version => .quiet 0 CommandLine.versionText host.files
  | .error _ => .quiet 2 "" host.files
  | .ok options => runOptions options (cap? host.environment) host

end RpcRegistry.Command
