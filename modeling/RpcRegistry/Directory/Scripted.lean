import RpcRegistry.Binder

/-!
A binder that keeps every call and answers by a script: a register call fails when some rule
matches it, and withdrawals fail all or not at all.
-/

namespace RpcRegistry

/-- Which register calls fail; a part left open matches anything. -/
structure FailureRule where
  netId : Option NetId := none
  program : Option Program := none
  version : Option Version := none
  deriving DecidableEq, Repr

def FailureRule.matchesCall (rule : FailureRule) (netId : NetId) (program : Program)
    (version : Version) : Bool :=
  rule.netId.all (· = netId) && rule.program.all (· = program) && rule.version.all (· = version)

/-- The script and the calls received so far, oldest first. -/
structure ScriptedDirectory where
  failures : List FailureRule
  refuseWithdrawals : Bool
  calls : List Call
  deriving DecidableEq, Repr

namespace ScriptedDirectory

def answer (directory : ScriptedDirectory) : Call → Answer
  | .register netId program version _ =>
      if directory.failures.any (·.matchesCall netId program version) then
        some (.rejected program version netId)
      else none
  | .unregister _ program version =>
      if directory.refuseWithdrawals then some (.notRegistered program version) else none

def binder : Binder ScriptedDirectory := fun call directory =>
  { answer := directory.answer call
    state := { directory with calls := directory.calls ++ [call] }
    events := [] }

def forget (directory : ScriptedDirectory) : ScriptedDirectory := { directory with calls := [] }

end ScriptedDirectory

end RpcRegistry
