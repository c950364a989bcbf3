import RpcRegistry.Command
import RpcRegistry.Log.Time

/-!
The program: it takes a picture of the files that a run can see, lets the command run on it, and
then carries out what the run did.
-/

namespace RpcRegistry.Program

def locationOf (path : String) : Location :=
  (Path.components path.toList).map String.ofList

def visited (working : Location) (path : String) : List Location :=
  let start := if Path.isAbsolute path then [] else working
  let steps := (locationOf path).foldl (fun (location, passed) name =>
    let next := if name = ".." then location.dropLast else location ++ [name]
    (next, passed ++ [next])) (start, [])
  steps.2

def look (tree : FileTree) (location : Location) : IO FileTree := do
  if (tree.node? location).isSome then return tree
  let path := (← IO.currentDir) / Location.path location
  if ← path.isDir then return tree.add location .directory
  else if ← path.pathExists then
    let text ← try some <$> IO.FS.readFile path catch _ => pure none
    return tree.add location (.file text)
  else return tree

def lookAlong (tree : FileTree) (path : String) : IO FileTree :=
  (visited tree.working path).foldlM look tree

def lookInside (tree : FileTree) (path : String) : IO FileTree := do
  match tree.find? path with
  | some (location, .directory) =>
      let entries ← ((← IO.currentDir) / Location.path location).readDir
      entries.toList.foldlM (fun tree entry => look tree (location ++ [entry.fileName])) tree
  | _ => return tree

def readEnvironment : IO (List Environment.Variable) := do
  let octets ← IO.FS.readBinFile "/proc/self/environ"
  let fields := octets.toList.splitOn 0
  return fields.filterMap fun field => do
    let text ← String.fromUTF8? ⟨field.toArray⟩
    let name := text.toList.takeWhile (· ≠ '=')
    some ⟨String.ofList name, String.ofList ((text.toList.dropWhile (· ≠ '=')).drop 1)⟩

/-- The picture that loading the settings needs. -/
def firstLook (arguments : List String) (tree : FileTree) : IO FileTree := do
  let tree ← lookAlong tree tree.workingPath
  match CommandLine.parse arguments with
  | .ok { config := some path, .. } => lookAlong tree path
  | _ => return tree

def mentioned (host : Host) (settings : Settings) : List String :=
  match Path.normalize host.home host.files.workingPath settings.homeDir with
  | .ok homeDir =>
      let logs := settings.logging.entries.filterMap fun entry => entry.2.file?
      homeDir :: settings.modulesDir.toList ++ logs.map (Path.join homeDir)
  | .error _ => []

/-- The picture that the whole run needs. -/
def secondLook (arguments : List String) (host : Host) : IO FileTree := do
  let source := match CommandLine.parse arguments with
    | .ok { config := some path, .. } => Settings.Source.required path
    | _ => .builtIn
  match Settings.extract source host with
  | .ok settings =>
      let tree ← (mentioned host settings).foldlM lookAlong host.files
      match settings.modulesDir with
      | some directory => lookInside tree directory
      | none => return tree
  | .error _ => return host.files

def now : IO String := do
  let metadata ← ((← IO.currentDir) / "/proc/self/stat").metadata
  return Log.timeText metadata.modified.sec.toNat metadata.modified.nsec.toNat

def carryOut (earlier later : FileTree) : IO Unit :=
  later.nodes.forM fun (location, node) => do
    if (earlier.node? location).isNone then
      match node with
      | .directory => IO.FS.createDir (Location.path location)
      | .file _ => IO.FS.writeFile (Location.path location) ""

def appendRecords (result : Command.Result) (time : String) : IO Unit :=
  result.logged.forM fun (path, event) => do
    if result.files.isFile path then
      let handle ← IO.FS.Handle.mk path .append
      handle.putStrLn (event.jsonLine time)

def run (arguments : List String) : IO UInt32 := do
  let environment ← readEnvironment
  let working := locationOf (← IO.currentDir).toString
  let home := (environment.find? (·.name = "HOME")).map (·.value)
  let files ← firstLook arguments ⟨[], working⟩
  let host : Host := ⟨home.getD "/", environment, files⟩
  let host := { host with files := ← secondLook arguments host }
  let result := Command.run arguments host
  carryOut host.files result.files
  let time ← now
  appendRecords result time
  for complaint in result.complaints do IO.eprintln complaint
  for event in result.console do IO.eprintln (time ++ " " ++ event.consoleLine)
  IO.print result.output
  return UInt32.ofNat result.exitCode

end RpcRegistry.Program

def main (arguments : List String) : IO UInt32 := RpcRegistry.Program.run arguments
