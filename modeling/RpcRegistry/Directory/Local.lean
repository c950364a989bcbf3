import RpcRegistry.Directory.Table
import RpcRegistry.UniversalAddress

/-!
A directory held in the process itself. A key maps to one endpoint: registering it again is
refused until it is withdrawn, and a withdrawal that finds nothing says so.
-/

namespace RpcRegistry

structure Mapping where
  program : Program
  version : Version
  netId : NetId
  endpoint : Endpoint
  owner : String
  deriving DecidableEq, Repr

def Mapping.universalAddress (mapping : Mapping) : String :=
  UniversalAddress.ofEndpoint mapping.endpoint

/-- A table whose mappings all belong to one owner. -/
structure LocalDirectory where
  owner : String
  table : Directory.Table

namespace LocalDirectory

open Log

def ofOwner (owner : String) : LocalDirectory := ⟨owner, .empty⟩

def mappings (directory : LocalDirectory) : List Mapping :=
  directory.table.entries.map fun (key, endpoint) =>
    ⟨key.program, key.version, key.netId, endpoint, directory.owner⟩

def target : String := "registrar::domain::local_directory"

def tableEvent (message : String) (fields : List Field) : Event :=
  ⟨.trace, target, message, fields, []⟩

def register (directory : LocalDirectory) (key : Key) (endpoint : Endpoint) :
    Reply LocalDirectory :=
  if absent : directory.table.get? key = none then
    { answer := none
      state := { directory with table := directory.table.insertNew key endpoint absent }
      events := [tableEvent "register"
        [("program", .number key.program.toNat), ("version", .number key.version.toNat),
          ("net_id", .shown key.netId.name), ("address", .shown endpoint.text)]] }
  else
    { answer := some (.rejected key.program key.version key.netId)
      state := directory
      events := [] }

def unregister (directory : LocalDirectory) (netId : Option NetId) (program : Program)
    (version : Version) : Reply LocalDirectory :=
  let remaining := directory.table.erase (Key.covered netId program version)
  let removed := directory.table.size - remaining.size
  { answer := if removed = 0 then some (.notRegistered program version) else none
    state := { directory with table := remaining }
    events := [tableEvent "unregister"
      [("program", .number program.toNat), ("version", .number version.toNat),
        ("removed", .number removed)]] }

def binder : Binder LocalDirectory
  | .register netId program version endpoint, directory =>
      directory.register ⟨program, version, netId⟩ endpoint
  | .unregister netId program version, directory => directory.unregister netId program version

end LocalDirectory

end RpcRegistry
