import RpcRegistry.Path

/-!
A tree of directories and text files, as far as loading settings and opening log files can see
it. Paths are walked component by component, the way the system does it: a step up needs the
directory it leaves, and nothing lies below a file.
-/

namespace RpcRegistry

/-- A file has its text, unless its octets are no text. -/
inductive FileNode where
  | directory
  | file (text : Option String)
  deriving DecidableEq, Repr

inductive FileError where
  | notFound
  | notADirectory
  | alreadyExists
  | invalidPath
  | nameTooLong
  | notText
  deriving DecidableEq, Repr

def FileError.message : FileError → String
  | .notFound => "No such file or directory (os error 2)"
  | .notADirectory => "Not a directory (os error 20)"
  | .alreadyExists => "File exists (os error 17)"
  | .invalidPath => "file name contained an unexpected NUL byte"
  | .nameTooLong => "File name too long (os error 36)"
  | .notText => "stream did not contain valid UTF-8"

/-- Where something is: the names on the way from the root. -/
abbrev Location := List String

def Location.path (location : Location) : String :=
  if location = [] then "/" else String.join (location.map ("/" ++ ·))

/-- What a path leads to: something that is there, or a free name in a directory. -/
inductive Place where
  | present (location : Location) (node : FileNode)
  | absent (location : Location)
  deriving DecidableEq, Repr

/-- The nodes below the root, in the order in which directories list them, and the working
directory. -/
structure FileTree where
  nodes : List (Location × FileNode)
  working : Location
  deriving Repr

namespace FileTree

def node? (tree : FileTree) (location : Location) : Option FileNode :=
  if location = [] then some .directory
  else (tree.nodes.find? (·.1 = location)).map (·.2)

def add (tree : FileTree) (location : Location) (node : FileNode) : FileTree :=
  { tree with nodes := tree.nodes ++ [(location, node)] }

def workingPath (tree : FileTree) : String := Location.path tree.working

def walk (tree : FileTree) (location : Location) : List String → Except FileError Place
  | [] =>
      match tree.node? location with
      | some node => .ok (.present location node)
      | none => .error .notFound
  | name :: rest =>
      match tree.node? location with
      | none => .error .notFound
      | some (.file _) => .error .notADirectory
      | some .directory =>
          if name = "." then tree.walk location rest
          else if name = ".." then tree.walk location.dropLast rest
          else if 255 < name.utf8ByteSize then .error .nameTooLong
          else if (tree.node? (location ++ [name])).isSome then
            tree.walk (location ++ [name]) rest
          else if rest = [] then .ok (.absent (location ++ [name]))
          else .error .notFound

/-- What a path leads to. A path that ends in a slash leads to no file. -/
def locate (tree : FileTree) (path : String) : Except FileError Place := do
  let text := path.toList
  if text.contains '\x00' then .error .invalidPath
  else if path = "" then .error .notFound
  else if 4096 ≤ path.utf8ByteSize then .error .nameTooLong
  else
    let names := ((text.splitOn '/').filter (· ≠ [])).map String.ofList
    tree.walk (if Path.startsAtRoot text then [] else tree.working) names

def find? (tree : FileTree) (path : String) : Option (Location × FileNode) :=
  match tree.locate path with
  | .ok (.present location .directory) => some (location, .directory)
  | .ok (.present location (.file text)) =>
      if Path.endsInSlash path.toList then none else some (location, .file text)
  | _ => none

def has (tree : FileTree) (path : String) : Bool := (tree.find? path).isSome

def isDirectory (tree : FileTree) (path : String) : Bool :=
  match tree.find? path with
  | some (_, .directory) => true
  | _ => false

def file? (tree : FileTree) (path : String) : Option (Option String) :=
  match tree.find? path with
  | some (_, .file text) => some text
  | _ => none

def isFile (tree : FileTree) (path : String) : Bool := (tree.file? path).isSome

def fileIn? (location : Location) : Location × FileNode → Option (String × Option String)
  | (entry, .file text) =>
      if entry.dropLast = location then entry.getLast?.map fun name => (name, text) else none
  | (_, .directory) => none

/-- The files of a directory by name, in the order in which it lists them. A file counts if it is
found under its name behind the path of the directory. -/
def filesIn (tree : FileTree) (path : String) :
    Except FileError (List (String × Option String)) :=
  match tree.find? path with
  | some (location, .directory) =>
      .ok ((tree.nodes.filterMap (fileIn? location)).filter fun entry =>
        tree.isFile (Path.join path entry.1))
  | some (_, .file _) => .error .notADirectory
  | none => .error .notFound

def makeDirectory (tree : FileTree) (path : String) : Except FileError FileTree := do
  match ← tree.locate path with
  | .absent location => .ok (tree.add location .directory)
  | .present .. => .error .alreadyExists

def ensureDirectory (tree : FileTree) (path : String) : Option FileError × FileTree :=
  match tree.makeDirectory path with
  | .ok made => (none, made)
  | .error error => (if tree.isDirectory path then none else some error, tree)

/-- Makes a directory and what is missing above it. The parents are those that the text of the
path shows, so one that is left again by a step up is made too. -/
def makeDirectories : (fuel : Nat) → FileTree → String → Option FileError × FileTree
  | 0, tree, _ => (some .notFound, tree)
  | fuel + 1, tree, path =>
      if path = "" then (none, tree)
      else
        match tree.ensureDirectory path with
        | (some .notFound, _) =>
            match Path.parent? path with
            | none => (some .notFound, tree)
            | some parent =>
                match makeDirectories fuel tree parent with
                | (none, tree) => tree.ensureDirectory path
                | failed => failed
        | settled => settled

def createDirectory (tree : FileTree) (path : String) : Option FileError × FileTree :=
  tree.makeDirectories (path.length + 1) path

/-- Makes an empty file where a path leads to a free name. Where it leads elsewhere nothing is
made. -/
def touch (tree : FileTree) (path : String) : FileTree :=
  match tree.locate path with
  | .ok (.absent location) =>
      if Path.endsInSlash path.toList then tree else tree.add location (.file (some ""))
  | _ => tree

end FileTree

end RpcRegistry
