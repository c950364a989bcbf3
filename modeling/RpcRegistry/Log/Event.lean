import RpcRegistry.Log.Level
import RpcRegistry.Text.Escaped

/-!
Log events and the spans they happen in. An event names its target (the part of the program that
speaks), a message and named fields; spans are kept outermost first.
-/

namespace RpcRegistry.Log

/-- A field is a number, a text shown as it is, or a text the console puts in quotes. -/
inductive FieldValue where
  | number (n : Nat)
  | shown (text : String)
  | quoted (text : String)
  deriving DecidableEq, Repr

abbrev Field := String × FieldValue

structure Span where
  name : String
  target : String
  fields : List Field
  deriving DecidableEq, Repr

structure Event where
  level : Level
  target : String
  message : String
  fields : List Field
  spans : List Span
  deriving DecidableEq, Repr

/-- The event as it appears inside one more span, further out than those it has. -/
def Event.inside (span : Span) (event : Event) : Event :=
  { event with spans := span :: event.spans }

end RpcRegistry.Log
