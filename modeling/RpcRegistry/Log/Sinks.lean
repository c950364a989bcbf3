import RpcRegistry.FileTree
import RpcRegistry.Log.ByTarget
import RpcRegistry.Log.Cap
import RpcRegistry.Settings.Basic

/-!
The sinks that the logging settings describe: the console, and log files of which each target has
at most one. Levels and files are both chosen by the longest key that matches, but a section keeps
its level when its file cannot be opened.
-/

namespace RpcRegistry.Log

abbrev LoggingEntries := List (String × Section)

/-- The entries that speak of some targets only. -/
def particular (entries : LoggingEntries) : LoggingEntries :=
  entries.filter (·.1 ≠ Settings.defaultKey)

def standardSection? (entries : LoggingEntries) : Option Section :=
  Entries.get? Settings.defaultKey entries

/-- The levels of the console. Where the default section is missing or silent the standard level
is `info`. -/
def consoleLevels (entries : LoggingEntries) : LevelTable :=
  .ofRows (((standardSection? entries).bind Section.consoleLevel).or (some .info))
    ((particular entries).map fun entry => (entry.1, entry.2.consoleLevel))

def router (opened : List String) : ByTarget (Option String) :=
  .ofRows (if opened.contains Settings.defaultKey then some Settings.defaultKey else none)
    ((opened.filter (· ≠ Settings.defaultKey)).map fun key => (key, some key))

/-- The levels of the log files. The default section counts only if its file is open; any other
section counts if it names a file. -/
def fileLevels (entries : LoggingEntries) (opened : List String) : LevelTable :=
  .ofRows
    (if opened.contains Settings.defaultKey then
      (standardSection? entries).bind Section.fileLevel else none)
    ((particular entries).filterMap fun entry =>
      entry.2.file?.map fun _ => (entry.1, entry.2.fileLevel))

inductive Opening where
  | opened (path : String)
  | refused (path directory : String) (error : FileError)
  | impossible
  deriving DecidableEq, Repr

/-- Opens a log file. A file that cannot be written still counts as open, but it must have a name
and may not be kept at no size at all. -/
def openFile (settings : Section) (path : String) (files : FileTree) : Opening × FileTree :=
  let directory := Path.parent? path
  let (error?, files) := match directory with
    | some directory => files.createDirectory directory
    | none => (none, files)
  match error?, directory, Path.fileName? path with
  | some error, directory, _ => (.refused path (directory.getD "") error, files)
  | none, some _, some _ =>
      if settings.maxSizeBytes = 0 then (.impossible, files)
      else (.opened path, files.touch path)
  | none, _, _ => (.impossible, files)

/-- The log files that are open, by the keys of their entries, what was said about the others, and
whether opening them came to an end at all. -/
structure OpenFiles where
  paths : List (String × String)
  complaints : List String
  files : FileTree
  complete : Bool

def complaint (key path directory : String) (error : FileError) : String :=
  "Failed to open log file for '" ++ key ++ "' at " ++ path ++
    ": Failed to create log directory " ++ directory ++ ": " ++ error.message

def openFiles (base : String) : LoggingEntries → FileTree → OpenFiles
  | [], files => ⟨[], [], files, true⟩
  | (key, settings) :: rest, files =>
      match settings.file? with
      | none => openFiles base rest files
      | some name =>
          match openFile settings (Path.join base name) files with
          | (.opened path, files) =>
              let later := openFiles base rest files
              { later with paths := (key, path) :: later.paths }
          | (.refused path directory error, files) =>
              let later := openFiles base rest files
              let said := complaint key path directory error
              { later with complaints := said :: later.complaints }
          | (.impossible, files) => ⟨[], [], files, false⟩

structure Sinks where
  console : LevelTable
  file : LevelTable
  router : ByTarget (Option String)
  cap : Option Cap

namespace Sinks

def ofSettings (entries : LoggingEntries) (opened : List String) (cap : Option Cap) : Sinks :=
  ⟨consoleLevels entries, fileLevels entries opened, Log.router opened, cap⟩

def admits (sinks : Sinks) (table : LevelTable) (target : String) (level : Level) : Bool :=
  table.admits target level &&
    sinks.cap.all fun cap => Threshold.admits (cap.threshold target) level

/-- The event as a sink shows it, without the spans that the sink does not see; spans have the
level `info`. -/
def seen? (sinks : Sinks) (table : LevelTable) (event : Event) : Option Event :=
  if sinks.admits table event.target event.level then
    let spans := event.spans.filter fun span => sinks.admits table span.target .info
    some { event with spans }
  else none

def onConsole (sinks : Sinks) (events : List Event) : List Event :=
  events.filterMap (sinks.seen? sinks.console)

def inFiles (sinks : Sinks) (events : List Event) : List (String × Event) :=
  events.filterMap fun event => do
    let seen ← sinks.seen? sinks.file event
    let key ← sinks.router.lookup event.target
    some (key, seen)

end Sinks

end RpcRegistry.Log
