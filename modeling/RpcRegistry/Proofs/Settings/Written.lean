import RpcRegistry.Proofs.Value.Ordered
import RpcRegistry.Settings.Basic

/-!
Settings as the value they are written as.
-/

namespace RpcRegistry

open Value

theorem Value.isUndivided_ofText (given : Option String) : (ofText? given).isUndivided = true := by
  cases given <;> rfl

theorem Value.isUndivided_ofNat (given : Option Nat) : (ofNat? given).isUndivided = true := by
  cases given <;> rfl

theorem Section.isUndivided_member {settings : Section} {entry : String × Value}
    (member : entry ∈ settings.members) : entry.2.isUndivided = true := by
  unfold Section.members at member
  have isNat := isUndivided_ofNat
  cases settings.logFile with
  | none => grind [isUndivided]
  | some file => grind [isUndivided]

theorem Section.ordered_value (settings : Section) : Ordered settings.value :=
  ordered_ofEntries fun _ member => .undivided (isUndivided_member member)

namespace Settings

variable {settings : Settings}

def serverValue (homeDir : String) : Value := .dict [("home_dir", .text homeDir)]

def loggingValue (logging : Dict Section) : Value :=
  .dict (logging.entries.map fun entry => (entry.1, entry.2.value))

theorem ordered_serverValue (homeDir : String) : Ordered (serverValue homeDir) :=
  ordered_nested ["home_dir"] (.undivided rfl)

theorem ordered_loggingValue (logging : Dict Section) : Ordered (loggingValue logging) := by
  refine .dict (List.pairwise_map.2 logging.sorted) ?_
  intro entry member
  obtain ⟨bound, _, rfl⟩ := List.mem_map.1 member
  exact bound.2.ordered_value

theorem ordered_value (modulesOrdered : Ordered (.dict settings.modules.entries)) :
    Ordered settings.value := by
  refine ordered_ofEntries ?_
  simp only [members, List.forall_mem_cons]
  exact ⟨ordered_serverValue _, ordered_loggingValue _, .undivided (isUndivided_ofText _),
    modulesOrdered, nofun⟩

theorem ordered_standard (homeDir : String) : Ordered (standard homeDir).value :=
  ordered_value ordered_empty

end Settings

end RpcRegistry
