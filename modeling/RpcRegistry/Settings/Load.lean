import RpcRegistry.FileTree
import RpcRegistry.Settings.Layers
import RpcRegistry.Yaml.Lenient.Document
import RpcRegistry.Yaml.Strict.Document

/-!
Loading settings: find the settings file, lay the environment over it, make the home directory,
and read one more file for each module.
-/

namespace RpcRegistry

structure Host where
  home : String
  environment : List Environment.Variable
  files : FileTree

namespace Settings

/-- Which settings file is read: none, one that must be there, or one that is looked for in the
working directory and above it and may be missing. -/
inductive Source where
  | builtIn
  | required (path : String)
  | searched (path : String)
  deriving DecidableEq, Repr

def Source.path? : Source → Option String
  | .builtIn => none
  | .required path | .searched path => some path

inductive LoadError where
  | missingFile (path : String)
  | cutVariable
  | unreadable (path : Option String)
  | homeDirEmpty (error : Path.EmptyPath)
  | homeDirNotMade (error : FileError)
  | modulesDirNotListed (error : FileError)
  | moduleNotRead (path : String) (error : FileError)
  | moduleNotParsed (path : String)
  deriving DecidableEq, Repr

namespace LoadError

def contexts : LoadError → List String
  | .missingFile path => ["config file does not exist: " ++ path]
  | .cutVariable => []
  | .unreadable (some path) => ["Failed to load config from " ++ path]
  | .unreadable none => ["Failed to load config from defaults and environment"]
  | .homeDirEmpty error =>
      ["Failed to resolve server.home_dir", "home_dir normalization failed", error.message]
  | .homeDirNotMade _ => ["Failed to resolve server.home_dir", "Failed to create home_dir"]
  | .modulesDirNotListed _ => []
  | .moduleNotRead path _ => ["Failed to read module config " ++ path]
  | .moduleNotParsed path => ["Failed to parse module config " ++ path]

def cause? : LoadError → Option FileError
  | .homeDirNotMade error | .modulesDirNotListed error | .moduleNotRead _ error => some error
  | _ => none

/-- Whether the error ends the program on the spot, without a report. -/
def isFatal (error : LoadError) : Bool := error = .cutVariable

def message (error : LoadError) : String :=
  match error.contexts.head?, error.cause? with
  | some context, _ => context
  | none, some cause => cause.message
  | none, none => ""

end LoadError

/-- The directories a relative path is looked up in: the working directory and those above it. -/
def searchPaths (tree : FileTree) (path : String) : List String :=
  if Path.isAbsolute path then [path]
  else
    (List.range (tree.working.length + 1)).map fun steps =>
      let above := { tree with working := tree.working.take (tree.working.length - steps) }
      Path.join above.workingPath path

/-- The layer of the settings file; without a file it is empty. -/
def fileLayer? (tree : FileTree) (path : String) : Option Value :=
  match (searchPaths tree path).findSome? tree.file? with
  | none => some (.dict [])
  | some none => none
  | some (some text) =>
      match Yaml.Lenient.readEntries text with
      | .ok entries => some (.dict entries)
      | .error _ => none

def standardHomeDir (home : String) : String := Path.join home ".pmreg"

def extract (source : Source) (host : Host) : Except LoadError Settings :=
  let file? := match source.path? with
    | none => some (Value.dict [])
    | some path => fileLayer? host.files path
  match Environment.layer? host.environment with
  | none => .error .cutVariable
  | some environment =>
      match file?.bind fun file =>
          ofLayers? (layers (standardHomeDir host.home) file environment) with
      | some settings => .ok settings
      | none => .error (.unreadable source.path?)

/-- Makes the home directory absolute and creates it. -/
def withHomeDir (host : Host) (settings : Settings) :
    Except LoadError Settings × FileTree :=
  match Path.normalize host.home host.files.workingPath settings.homeDir with
  | .error error => (.error (.homeDirEmpty error), host.files)
  | .ok homeDir =>
      match host.files.createDirectory homeDir with
      | (none, files) => (.ok { settings with homeDir }, files)
      | (some error, files) => (.error (.homeDirNotMade error), files)

def moduleName? (fileName : String) : Option String :=
  match Path.splitExtension fileName with
  | (name, some extension) =>
      let lowered := Text.lowerCase extension.toList
      if lowered = "yml".toList ∨ lowered = "yaml".toList then some name else none
  | (_, none) => none

def moduleValue (path : String) (text : Option String) : Except LoadError Value :=
  match text with
  | none => .error (.moduleNotRead path .notText)
  | some text =>
      match (Yaml.Strict.readValue text).toOption.bind Value.stored? with
      | some value => .ok value
      | none => .error (.moduleNotParsed path)

/-- Puts the value of every module file in place of what was said of its module before. -/
def mergeModules (directory : String) :
    List (String × Option String) → Dict Value → Except LoadError (Dict Value)
  | [], modules => .ok modules
  | (fileName, text) :: rest, modules =>
      match moduleName? fileName with
      | none => mergeModules directory rest modules
      | some name => do
          let value ← moduleValue (Path.join directory fileName) text
          mergeModules directory rest (modules.insert name value)

def withModules (tree : FileTree) (settings : Settings) : Except LoadError Settings :=
  match settings.modulesDir with
  | none => .ok settings
  | some directory =>
      if tree.has directory then
        match tree.filesIn directory with
        | .error error => .error (.modulesDirNotListed error)
        | .ok files => do
            let modules ← mergeModules directory files settings.modules
            .ok { settings with modules }
      else .ok settings

/-- Loads settings; directories that were made stay even where loading fails later. -/
def load (source : Source) (host : Host) : Except LoadError Settings × FileTree :=
  let missing := match source with
    | .required path => if host.files.isFile path then none else some path
    | _ => none
  match missing with
  | some path => (.error (.missingFile path), host.files)
  | none =>
      match extract source host with
      | .error error => (.error error, host.files)
      | .ok settings =>
          match settings.withHomeDir host with
          | (.error error, files) => (.error error, files)
          | (.ok settings, files) => (settings.withModules files, files)

end Settings

end RpcRegistry
