import RpcRegistry.Text.LowerCase

/-!
Severity levels, and the threshold a sink lets through. Every table that filters records, for the
console or for files, uses this one order: off, then error up to trace.
-/

namespace RpcRegistry.Log

open RpcRegistry.Text

inductive Level where
  | error
  | warn
  | info
  | debug
  | trace
  deriving DecidableEq, Repr

namespace Level

def all : List Level := [.error, .warn, .info, .debug, .trace]

/-- One for the gravest level, five for the most verbose. -/
def rank : Level → Nat
  | .error => 1
  | .warn => 2
  | .info => 3
  | .debug => 4
  | .trace => 5

def name : Level → String
  | .error => "ERROR"
  | .warn => "WARN"
  | .info => "INFO"
  | .debug => "DEBUG"
  | .trace => "TRACE"

def ofRank? (rank : Nat) : Option Level := all.find? (·.rank = rank)

def ofName? (name : List Char) : Option Level :=
  all.find? fun level => lowerCase level.name.toList = lowerCase name

theorem ofRank_rank (level : Level) : ofRank? level.rank = some level := by
  cases level <;> rfl

theorem ofName_name (level : Level) : ofName? level.name.toList = some level := by
  cases level <;> decide

theorem rank_inj {left right : Level} (same : left.rank = right.rank) : left = right := by
  cases left <;> cases right <;> first | rfl | simp [rank] at same

end Level

/-- The most verbose level that passes; `none` lets nothing pass. -/
abbrev Threshold := Option Level

namespace Threshold

def rank : Threshold → Nat
  | none => 0
  | some level => level.rank

def admits (threshold : Threshold) (level : Level) : Bool :=
  level.rank ≤ rank threshold

def wider (left right : Threshold) : Threshold :=
  if rank left ≤ rank right then right else left

def name : Threshold → String
  | none => "off"
  | some .error => "error"
  | some .warn => "warn"
  | some .info => "info"
  | some .debug => "debug"
  | some .trace => "trace"

theorem rank_wider (left right : Threshold) :
    rank (wider left right) = max (rank left) (rank right) := by
  unfold wider
  split <;> omega

end Threshold

end RpcRegistry.Log
