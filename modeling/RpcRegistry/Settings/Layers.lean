import RpcRegistry.Settings.Basic
import RpcRegistry.Settings.Environment

/-!
The layers settings are made of: what holds if nothing is said, then the settings file, then the
environment. Dictionaries of two layers join key by key; anything else is replaced by the upper
layer.
-/

namespace RpcRegistry.Settings

def layers (homeDir : String) (file environment : Value) : Value :=
  ((standard homeDir).value.merge file).merge environment

/-- A list that stands for the server settings may go on; what goes on is not read. -/
def trimServer : Value → Value
  | .list items => .list (items.take serverNames.length)
  | server => server

/-- The settings in layered values. Every number must be one that a stored value may hold. -/
def ofLayers? (merged : Value) : Option Settings :=
  match merged with
  | .dict entries =>
      let trimmed := Value.dict (entries.map fun entry =>
        if entry.1 = "server" then (entry.1, trimServer entry.2) else entry)
      if trimmed.stored?.isSome then ofValue? trimmed else none
  | _ => none

end RpcRegistry.Settings
