import RpcRegistry.Log.Event
import RpcRegistry.Text.Blank
import RpcRegistry.Text.LetterOrDigit

/-!
A cap on all logging, given by directives between commas: a level for every target, or a target
and a level for the targets that start with its text. The longest text decides; a target that no
directive speaks of is silent.
-/

namespace RpcRegistry.Log

open RpcRegistry.Text

structure Directive where
  target : Option String
  threshold : Threshold
  deriving DecidableEq, Repr

namespace Directive

/-- A level by name in any case, by its rank, or `off`. -/
def threshold? (text : List Char) : Option Threshold :=
  if lowerCase text = "off".toList then some none
  else
    match Level.ofName? text with
    | some level => some (some level)
    | none => (Numeral.unsigned? 5 text).map Level.ofRank?

def isStart (c : Char) : Bool := isLetterOrDigit c || c = '-' || c = ':' || c = '_'

/-- What stands after the equals sign of a directive; nothing there lets all records pass. -/
def assigned? (level : List Char) : Option Threshold :=
  if level = [] then some (some .trace) else threshold? level

/-- A word that is no level is a target, all of whose records pass. White space around a directive
belongs to its words, so a level is not recognised beside it. -/
def ofText? (text : List Char) : Option Directive :=
  if !(trim text).head?.any isStart || text.contains '[' then none
  else if text.contains '=' then
    if text.head?.any isWhiteSpace then none
    else
      (assigned? (text.dropWhile (· ≠ '=')).tail).map fun threshold =>
        ⟨some (String.ofList (text.takeWhile (· ≠ '='))), threshold⟩
  else
    match threshold? text with
    | some threshold => some ⟨none, threshold⟩
    | none => some ⟨some (String.ofList text), some .trace⟩

end Directive

/-- The directives of a cap; of two with one target the later counts. -/
structure Cap where
  directives : List Directive
  deriving DecidableEq, Repr

namespace Cap

/-- A text with a directive that cannot be read is no cap. Without directives only errors pass. -/
def ofText? (text : String) : Option Cap := do
  let parts := (text.toList.splitOn ',').filter (· ≠ [])
  let directives ← parts.mapM Directive.ofText?
  some ⟨if directives = [] then [⟨none, some .error⟩] else directives⟩

/-- How closely a directive describes a target; nothing if it does not speak of it. -/
def fit? (target : String) (directive : Directive) : Option Nat :=
  match directive.target with
  | none => some 0
  | some start =>
      if start.toList.isPrefixOf target.toList then some (start.length + 1) else none

/-- The directive that describes a target most closely, the last of equals. -/
def threshold (cap : Cap) (target : String) : Threshold :=
  let closest := cap.directives.foldl (fun found directive =>
    match fit? target directive, found with
    | some fit, some (best, _) => if best ≤ fit then some (fit, directive) else found
    | some fit, none => some (fit, directive)
    | none, _ => found) (none : Option (Nat × Directive))
  match closest with
  | some (_, directive) => directive.threshold
  | none => none

end Cap

end RpcRegistry.Log
