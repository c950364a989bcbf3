import RpcRegistry.Catalogue
import RpcRegistry.Value

/-!
The settings of the registrar module: who owns the mappings, and the socket paths of the services
that also listen locally. Every key must be known.
-/

namespace RpcRegistry

structure RegistrarSettings where
  owner : String := "superuser"
  transports : LocalTransports := {}
  deriving DecidableEq, Repr

namespace LocalTransports

def fieldNames : List String :=
  ["nfsd_ticlts", "nfsd_ticotsord", "mountd_ticlts", "mountd_ticotsord"]

def ofValue? (value : Value) : Option LocalTransports := do
  let entries ← value.record? fieldNames
  let path? := fun key => Entries.read? key (some none) Value.optionalString? entries
  some
    { nfsdTiclts := ← path? "nfsd_ticlts"
      nfsdTicotsord := ← path? "nfsd_ticotsord"
      mountdTiclts := ← path? "mountd_ticlts"
      mountdTicotsord := ← path? "mountd_ticotsord" }

def value (paths : LocalTransports) : Value :=
  Value.ofEntries
    [("nfsd_ticlts", Value.ofText? paths.nfsdTiclts),
     ("nfsd_ticotsord", Value.ofText? paths.nfsdTicotsord),
     ("mountd_ticlts", Value.ofText? paths.mountdTiclts),
     ("mountd_ticotsord", Value.ofText? paths.mountdTicotsord)]

end LocalTransports

namespace RegistrarSettings

def moduleName : String := "registrar"

def ofValue? (value : Value) : Option RegistrarSettings := do
  let entries ← value.record? ["owner", "local_transports"]
  let owner ← Entries.read? "owner" (some "superuser") Value.string? entries
  let transports ← Entries.read? "local_transports" (some {}) LocalTransports.ofValue? entries
  some ⟨owner, transports⟩

def value (settings : RegistrarSettings) : Value :=
  Value.ofEntries
    [("owner", .text settings.owner), ("local_transports", settings.transports.value)]

end RegistrarSettings

end RpcRegistry
