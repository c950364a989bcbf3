import RpcRegistry.Log.Level

/-!
Tables that say something for each target. A key governs the target it names and those below it,
whole path segments only; of several keys the longest governs, and a standard answer is left for
the rest.
-/

namespace RpcRegistry.Log

/-- Whether a target is the one a key names, or lies below it. -/
def governs (key target : List Char) : Bool :=
  match List.isPrefixOf? key target with
  | some rest => rest = [] || rest.take 2 = [':', ':']
  | none => false

def matchesTarget (target key : String) : Bool := governs key.toList target.toList

/-- Rows stand by falling length of their keys in octets, then by key; of equal keys the one that
was added first stands first. -/
structure ByTarget (α : Type) where
  standard : α
  rows : List (String × α)
  deriving Repr

namespace ByTarget

variable {α : Type}

def ofStandard (standard : α) : ByTarget α := ⟨standard, []⟩

def precedes (left right : String) : Bool :=
  right.utf8ByteSize < left.utf8ByteSize ||
    (left.utf8ByteSize = right.utf8ByteSize && left < right)

def insertRow (row : String × α) : List (String × α) → List (String × α)
  | [] => [row]
  | head :: rest =>
      if precedes row.1 head.1 then row :: head :: rest else head :: insertRow row rest

def insert (table : ByTarget α) (key : String) (value : α) : ByTarget α :=
  { table with rows := insertRow (key, value) table.rows }

def ofRows (standard : α) (rows : List (String × α)) : ByTarget α :=
  rows.foldl (fun table row => table.insert row.1 row.2) (ofStandard standard)

def lookup (table : ByTarget α) (target : String) : α :=
  match table.rows.find? fun row => matchesTarget target row.1 with
  | some row => row.2
  | none => table.standard

def keys (table : ByTarget α) : List String := table.rows.map (·.1)

end ByTarget

abbrev LevelTable := ByTarget Threshold

namespace LevelTable

def admits (table : LevelTable) (target : String) (level : Level) : Bool :=
  Threshold.admits (table.lookup target) level

/-- The most verbose level that any target's records may have. -/
def widest (table : LevelTable) : Threshold :=
  table.rows.foldl (fun found row => Threshold.wider found row.2) table.standard

end LevelTable

end RpcRegistry.Log
