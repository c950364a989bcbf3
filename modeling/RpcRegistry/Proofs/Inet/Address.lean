import RpcRegistry.Inet.Address
import RpcRegistry.Proofs.Inet.V6

/-!
Literals of either family. A text that is no dotted quad from its first to its last character may
still begin like one, so the two grammars are kept apart first: no IPv6 literal begins with a
dotted quad.
-/

namespace RpcRegistry.Inet.Address

inductive Literal : List Char → Address → Prop where
  | v4 {text : List Char} {address : V4} (literal : V4.Literal text address) :
      Literal text (.v4 address)
  | v6 {text : List Char} {address : V6} (literal : V6.Literal text address) :
      Literal text (.v6 address)

/-- The texts accepted are the literals, each as the address it is a literal of. -/
theorem ofChars_eq_some_iff {text : List Char} {address : Address} :
    ofChars? text = some address ↔ Literal text address := by
  constructor
  · intro accepted
    unfold ofChars? at accepted
    split at accepted
    · rename_i quad rest parsed
      obtain ⟨rfl, same⟩ := Option.ite_none_right_eq_some.1 accepted
      obtain rfl := Option.some.inj same
      obtain ⟨front, rfl, literal, _⟩ := V4.read_eq_some_iff.1 parsed
      rw [List.append_nil]
      exact .v4 literal
    · split at accepted
      · rename_i groups rest parsed
        obtain ⟨rfl, same⟩ := Option.ite_none_right_eq_some.1 accepted
        obtain rfl := Option.some.inj same
        exact .v6 (V6.read_eq_some_iff.1 parsed)
      · cases accepted
  · intro literal
    cases literal with
    | @v4 address literal =>
        have parsed : V4.read text = some (address, []) :=
          V4.read_eq_some_iff.2 ⟨text, by simp, literal, Text.Numeral.endsRun_nil 10⟩
        simp only [ofChars?, parsed, if_true]
    | v6 literal =>
        simp only [ofChars?, literal.read_quad, V6.read_eq_some_iff.2 literal, if_true]

theorem literal_chars (address : Address) : Literal address.chars address := by
  cases address with
  | v4 address => exact .v4 address.literal_text
  | v6 address => exact .v6 address.literal_text

end RpcRegistry.Inet.Address
