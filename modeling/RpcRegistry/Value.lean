import RpcRegistry.Dict
import RpcRegistry.Number.Binary64

/-!
Configuration values: what a settings file, an environment variable or a JSON text can say. Two
values merge by key where both are dictionaries; anywhere else the upper one replaces the lower.
-/

namespace RpcRegistry

/-- A dictionary holds its entries in the order of their keys, each key once. -/
inductive Value where
  | null
  | bool (b : Bool)
  | int (n : Int)
  | float (x : Binary64)
  | text (s : String)
  | list (items : List Value)
  | dict (entries : List (String × Value))
  deriving Repr, BEq, Inhabited

namespace Value

/-- A dictionary from entries in any order; of two with one key the later counts. -/
def ofEntries (entries : List (String × Value)) : Value := .dict (Entries.ofList entries)

def ofText? : Option String → Value
  | some s => .text s
  | none => .null

def ofNat? : Option Nat → Value
  | some n => .int n
  | none => .null

def at? : Value → List String → Option Value
  | value, [] => some value
  | .dict entries, key :: path => (Entries.get? key entries).bind (at? · path)
  | _, _ :: _ => none

mutual

def merge (lower : Value) : Value → Value
  | .dict entries =>
      match lower with
      | .dict below => .dict (mergeEntries below entries)
      | _ => .dict entries
  | upper => upper
termination_by structural upper => upper

def mergeEntries (below : List (String × Value)) : List (String × Value) → List (String × Value)
  | [] => below
  | entry :: rest => mergeEntries (mergeEntry below entry) rest
termination_by structural entries => entries

def mergeEntry (below : List (String × Value)) : String × Value → List (String × Value)
  | (key, upper) =>
      match Entries.get? key below with
      | some lower => Entries.insert key (merge lower upper) below
      | none => Entries.insert key upper below
termination_by structural entry => entry

end

def nested : List String → Value → Value
  | [], value => value
  | key :: path, value => .dict [(key, nested path value)]

/-- The whole numbers a stored value may hold: those of a signed or an unsigned 64-bit word. -/
def storable (n : Int) : Bool := -Int.pow 2 63 ≤ n && n < Int.pow 2 64

mutual

/-- The value as it is stored: a number that is not finite becomes null, and a whole number that
fits no word is refused. -/
def stored? : Value → Option Value
  | .null => some .null
  | .bool b => some (.bool b)
  | .int n => if storable n then some (.int n) else none
  | .float x => some (if x.isFinite then .float x else .null)
  | .text s => some (.text s)
  | .list items => (storedItems? items).map .list
  | .dict entries => (storedEntries? entries).map .dict
termination_by structural value => value

def storedItems? : List Value → Option (List Value)
  | [] => some []
  | item :: rest => do some ((← stored? item) :: (← storedItems? rest))
termination_by structural items => items

def storedEntries? : List (String × Value) → Option (List (String × Value))
  | [] => some []
  | entry :: rest => do some ((← storedPair? entry) :: (← storedEntries? rest))
termination_by structural entries => entries

def storedPair? : String × Value → Option (String × Value)
  | (key, value) => (stored? value).map fun stored => (key, stored)
termination_by structural entry => entry

end

/-- The members of a record with these names: a dictionary that has no other key, or a list that
gives the members in order and may stop early. -/
def record? (names : List String) : Value → Option (List (String × Value))
  | .dict entries => if entries.all fun entry => names.contains entry.1 then some entries else none
  | .list items => if items.length ≤ names.length then some (names.zip items) else none
  | _ => none

def string? : Value → Option String
  | .text s => some s
  | _ => none

def optionalString? : Value → Option (Option String)
  | .null => some none
  | .text s => some (some s)
  | _ => none

def optionalNat? (bound : Nat) : Value → Option (Option Nat)
  | .null => some none
  | .int n => if 0 ≤ n ∧ n ≤ bound then some (some n.toNat) else none
  | _ => none

end Value

/-- Reads the member with a name; a member that is missing has the value `absent`. -/
def Entries.read? {α : Type} (key : String) (absent : Option α) (read : Value → Option α)
    (entries : List (String × Value)) : Option α :=
  match Entries.get? key entries with
  | some value => read value
  | none => absent

end RpcRegistry
