/-!
Paths as text: components between slashes, joining, and making a path absolute. Nothing here looks
at files; only components that are empty or a single dot are ever left out.
-/

namespace RpcRegistry.Path

def startsAtRoot (text : List Char) : Bool := text.head? = some '/'

def isAbsolute (path : String) : Bool := startsAtRoot path.toList

/-- A path below `base`; an absolute one stands for itself. -/
def joinChars (base part : List Char) : List Char :=
  if startsAtRoot part then part
  else if base = [] ∨ base.getLast? = some '/' then base ++ part
  else base ++ '/' :: part

def join (base part : String) : String :=
  String.ofList (joinChars base.toList part.toList)

/-- The components that name something: those that are neither empty nor a single dot. -/
def components (text : List Char) : List (List Char) :=
  (text.splitOn '/').filter fun component => component ≠ [] ∧ component ≠ ['.']

def endsInSlash (text : List Char) : Bool := text.getLast? = some '/'

/-- Drops slashes and single dots at the end, in a text that is held in reverse. -/
def dropEmptyEnd : List Char → List Char
  | '/' :: rest => if rest = [] then ['/'] else dropEmptyEnd rest
  | '.' :: '/' :: rest => dropEmptyEnd ('/' :: rest)
  | text => text

def parent? (path : String) : Option String :=
  let reversed := dropEmptyEnd path.toList.reverse
  if reversed = [] ∨ reversed = ['/'] then none
  else
    let above := reversed.dropWhile (· ≠ '/')
    some (String.ofList (dropEmptyEnd above).reverse)

/-- The last component, unless it leads upwards or there is none. -/
def fileName? (path : String) : Option String :=
  let last := ((dropEmptyEnd path.toList.reverse).takeWhile (· ≠ '/')).reverse
  if last = [] ∨ last = ['.', '.'] then none else some (String.ofList last)

/-- A file name split at its last dot. A name that starts with its only dot has no extension. -/
def splitExtension (name : String) : String × Option String :=
  let reversed := name.toList.reverse
  let extension := reversed.takeWhile (· ≠ '.')
  let before := (reversed.dropWhile (· ≠ '.')).drop 1
  if before = [] then (name, none)
  else (String.ofList before.reverse, some (String.ofList extension.reverse))

/-- Replaces a tilde that stands alone or before a slash by the home directory. -/
def expandTilde (home raw : String) : String :=
  match raw.toList with
  | ['~'] => home
  | '~' :: '/' :: rest => String.ofList (joinChars home.toList rest)
  | _ => raw

structure EmptyPath where
  raw : String
  deriving DecidableEq, Repr

def EmptyPath.message (error : EmptyPath) : String :=
  "path '" ++ error.raw ++ "' is invalid: cannot make an empty path absolute"

/-- Appends a relative path to a directory component by component. A slash at its end stays. -/
def under (directory path : List Char) : List Char :=
  let joined := (components path).foldl joinChars directory
  if endsInSlash path then joinChars joined [] else joined

/-- The absolute path a setting stands for. An absolute path is left as it is. -/
def normalize (home directory raw : String) : Except EmptyPath String :=
  let expanded := expandTilde home raw
  if isAbsolute expanded then .ok expanded
  else if expanded = "" then .error ⟨raw⟩
  else .ok (String.ofList (under directory.toList expanded.toList))

end RpcRegistry.Path
