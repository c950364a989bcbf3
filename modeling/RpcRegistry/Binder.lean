import RpcRegistry.Endpoint
import RpcRegistry.Log.Event

/-!
What a directory service answers. A binder is any machine that takes one call at a time: from a
state of its own it gives an answer, a next state and the events it logs on the way. Nothing is
assumed of the answers.
-/

namespace RpcRegistry

abbrev Program := UInt32

abbrev Version := UInt32

/-- A request to a directory service. A withdrawal without a network covers all of them. -/
inductive Call where
  | register (netId : NetId) (program : Program) (version : Version) (endpoint : Endpoint)
  | unregister (netId : Option NetId) (program : Program) (version : Version)
  deriving DecidableEq, Repr

def Call.isRegister : Call → Bool
  | .register .. => true
  | .unregister .. => false

inductive BinderError where
  | rejected (program : Program) (version : Version) (netId : NetId)
  | notRegistered (program : Program) (version : Version)
  | unavailable (reason : String)
  deriving DecidableEq, Repr

def numberText (n : UInt32) : String := String.ofList (Text.Numeral.decimal n.toNat)

def BinderError.message : BinderError → String
  | .rejected program version netId =>
      "mapping rejected: program " ++ numberText program ++ " version " ++ numberText version ++
        " on " ++ netId.name
  | .notRegistered program version =>
      "no mapping for program " ++ numberText program ++ " version " ++ numberText version
  | .unavailable reason => "directory service unavailable: " ++ reason

/-- `none` is success. -/
abbrev Answer := Option BinderError

structure Reply (σ : Type) where
  answer : Answer
  state : σ
  events : List Log.Event

abbrev Binder (σ : Type) := Call → σ → Reply σ

end RpcRegistry
