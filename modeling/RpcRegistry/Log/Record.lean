import RpcRegistry.Json
import RpcRegistry.Log.Event
import RpcRegistry.Text.Padding

/-!
How events are written: a line for the console, and a JSON record for a log file. Both name the
spans the event is seen in, outermost first.
-/

namespace RpcRegistry.Log

open RpcRegistry.Text

def FieldValue.consoleText : FieldValue → String
  | .number n => String.ofList (Numeral.decimal n)
  | .shown text => text
  | .quoted text => escaped text

def Field.consoleText (field : Field) : String := field.1 ++ "=" ++ field.2.consoleText

def Span.consoleText (span : Span) : String :=
  span.name ++ "\x7b" ++ " ".intercalate (span.fields.map Field.consoleText) ++ "\x7d:"

def Level.column (level : Level) : String := String.ofList (padLeft ' ' 5 level.name.toList)

def Event.consoleLine (event : Event) : String :=
  let spans := if event.spans = [] then ""
    else String.join (event.spans.map Span.consoleText) ++ " "
  event.level.column ++ " " ++ spans ++ event.target ++ ": " ++ event.message ++
    String.join (event.fields.map fun field => " " ++ field.consoleText)

def FieldValue.jsonChars : FieldValue → List Char
  | .number n => Numeral.decimal n
  | .shown text | .quoted text => Json.quoted text

def Field.jsonMember (field : Field) : List Char := Json.member field.1 field.2.jsonChars

def Span.jsonChars (span : Span) : List Char :=
  Json.object (span.fields.map Field.jsonMember ++ [Json.member "name" (Json.quoted span.name)])

/-- The members of an event's record. The innermost span is also named on its own. -/
def Event.jsonMembers (event : Event) : List (List Char) :=
  let message := Json.member "message" (Json.quoted event.message)
  [Json.member "level" (Json.quoted event.level.name),
    Json.member "fields" (Json.object (message :: event.fields.map Field.jsonMember)),
    Json.member "target" (Json.quoted event.target)] ++
  match event.spans.getLast? with
  | none => []
  | some innermost =>
      [Json.member "span" innermost.jsonChars,
        Json.member "spans" (Json.array (event.spans.map Span.jsonChars))]

def Event.jsonLine (event : Event) (time : String) : String :=
  String.ofList
    (Json.object (Json.member "timestamp" (Json.quoted time) :: event.jsonMembers))

end RpcRegistry.Log
