import RpcRegistry.Yaml.Node

/-!
The one document of a strict stream of tokens. The start of a second document is refused; anything
else behind the first is passed over, unless reading fails right there.
-/

namespace RpcRegistry.Yaml.Strict

/-- Whether a second document begins behind the first one: after its directives with a mark of its
own, or else with any token that can be read. -/
def beginsDocument (parser : Parser) : Bool :=
  match parser.pastEnds.ofDirectives with
  | .error _ => false
  | .ok (directed, parser) =>
      match parser.tokens with
      | [] | .unreadable _ :: _ => false
      | .documentStart :: _ => true
      | _ => !directed

/-- Checks what follows the first document. Without a line that ends it, directives are refused,
and anything but the start of a second document is passed over. -/
def checkRest (parser : Parser) : Except Problem Unit :=
  match parser.tokens with
  | [] => .ok ()
  | .unreadable problem :: _ => .error problem
  | .documentEnd :: _ | .documentStart :: _ =>
      if beginsDocument parser then .error .manyDocuments else .ok ()
  | token :: _ => if Parser.isDirective token then .error .badDirective else .ok ()

def document? (tokens : List Token) : Except Problem (Option Node) := do
  match ← (Parser.pastEnds ⟨.strict, [], [], tokens⟩).document? with
  | none => .ok none
  | some (node, parser) => do
      checkRest parser
      .ok (some node)

end RpcRegistry.Yaml.Strict
