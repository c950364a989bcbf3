import RpcRegistry.Settings.Registrar
import RpcRegistry.Settings.Section
import RpcRegistry.Yaml.Printer

/-!
The settings of the program: where it keeps its files, what it logs, and a bag of values for its
modules, each of which reads its own entry.
-/

namespace RpcRegistry

structure Settings where
  homeDir : String
  logging : Dict Section
  modulesDir : Option String
  modules : Dict Value

namespace Settings

/-- The section that governs whatever no other section does. -/
def defaultKey : String := "default"

def standardSection : Section :=
  { consoleLevel := some .info
    logFile := some ⟨"logs/pmreg.log", some .debug⟩
    maxAgeDays := some 7
    maxBackups := some 3
    maxSizeMegabytes := some 100 }

def standardLogging : Dict Section := Dict.empty.insert defaultKey standardSection

/-- The settings of a program that is told nothing else. -/
def standard (homeDir : String) : Settings := ⟨homeDir, standardLogging, none, .empty⟩

def readEntries? {α : Type} (read : Value → Option α) (entries : List (String × Value)) :
    Option (List (String × α)) :=
  entries.mapM fun entry => (read entry.2).map (entry.1, ·)

def dictOf? {α : Type} (read : Value → Option α) : Value → Option (Dict α)
  | .dict entries => (readEntries? read entries).map Dict.ofList
  | _ => none

def serverNames : List String := ["home_dir"]

def homeDirOf? (server : Value) : Option String := do
  Entries.read? "home_dir" none Value.string? (← server.record? serverNames)

/-- The settings of a value. Only the home directory has no default. -/
def ofValue? (value : Value) : Option Settings := do
  let entries ← value.record? ["server", "logging", "modules_dir", "modules"]
  let homeDir ← Entries.read? "server" none homeDirOf? entries
  let logging ←
    Entries.read? "logging" (some standardLogging) (dictOf? Section.ofValue?) entries
  let modulesDir ← Entries.read? "modules_dir" (some none) Value.optionalString? entries
  let modules ← Entries.read? "modules" (some .empty) (dictOf? Value.stored?) entries
  some ⟨homeDir, logging, modulesDir, modules⟩

def members (settings : Settings) : List (String × Value) :=
  [("server", .dict [("home_dir", .text settings.homeDir)]),
    ("logging", .dict (settings.logging.entries.map fun entry => (entry.1, entry.2.value))),
    ("modules_dir", Value.ofText? settings.modulesDir),
    ("modules", .dict settings.modules.entries)]

def value (settings : Settings) : Value := Value.ofEntries settings.members

def yaml (settings : Settings) : String := Yaml.Printer.render settings.members

/-- The console level a count of requests for more detail stands for. -/
def verboseLevel? : Nat → Option Log.Level
  | 0 => none
  | 1 => some .debug
  | _ + 2 => some .trace

def withVerbosity (count : Nat) (settings : Settings) : Settings :=
  match verboseLevel? count with
  | none => settings
  | some level =>
      { settings with
        logging := settings.logging.modify defaultKey
          fun current => { current with consoleLevel := some level } }

structure ModuleError where
  name : String
  deriving DecidableEq, Repr

def ModuleError.message (error : ModuleError) : String :=
  "Invalid config for module '" ++ error.name ++ "'"

/-- The registrar settings in the entry of a module; without an entry they have their defaults. -/
def registrar (settings : Settings) (name : String) : Except ModuleError RegistrarSettings :=
  match settings.modules.get? name with
  | none => .ok {}
  | some value =>
      match RegistrarSettings.ofValue? value with
      | some registrar => .ok registrar
      | none => .error ⟨name⟩

end Settings

end RpcRegistry
