import RpcRegistry.Proofs.UniversalAddress.Classification

/-!
Address literals are no universal addresses. The only dots a literal can have are the three of a
dotted quad at its end, so what stands before the last two of them has one dot and is no literal:
the quad lends its last two octets as a port, and then no host is left.
-/

namespace RpcRegistry

open RpcRegistry.Text RpcRegistry.Inet

namespace Inet

/-- A text that has no dots but those of a dotted quad at its end. -/
inductive DotsInQuad : List Char → Prop where
  | plain {text : List Char} (noDot : '.' ∉ text) : DotsInQuad text
  | quad {front quad : List Char} {address : V4} (noDot : '.' ∉ front)
      (literal : V4.Literal quad address) : DotsInQuad (front ++ quad)

theorem DotsInQuad.behind {front text : List Char} (noDot : '.' ∉ front)
    (inQuad : DotsInQuad text) : DotsInQuad (front ++ text) := by
  cases inQuad with
  | plain plainText =>
      apply DotsInQuad.plain
      rw [List.mem_append, not_or]
      exact ⟨noDot, plainText⟩
  | quad plainFront literal =>
      rw [← List.append_assoc]
      apply DotsInQuad.quad _ literal
      rw [List.mem_append, not_or]
      exact ⟨noDot, plainFront⟩

theorem V4.OctetLiteral.dot_not_mem {text : List Char} {octet : UInt8}
    (literal : OctetLiteral text octet) : '.' ∉ text :=
  Numeral.not_mem_of_digits (by decide) literal.digits

theorem V4.Literal.count_dot {text : List Char} {address : V4} (literal : Literal text address) :
    text.count '.' = 3 := by
  obtain ⟨first, second, third, fourth⟩ := literal
  simp [List.count_eq_zero_of_not_mem first.dot_not_mem,
    List.count_eq_zero_of_not_mem second.dot_not_mem,
    List.count_eq_zero_of_not_mem third.dot_not_mem,
    List.count_eq_zero_of_not_mem fourth.dot_not_mem]

theorem DotsInQuad.count_dot {text : List Char} (inQuad : DotsInQuad text) :
    text.count '.' = 0 ∨ text.count '.' = 3 := by
  cases inQuad with
  | plain noDot => exact Or.inl (List.count_eq_zero_of_not_mem noDot)
  | quad noDot literal =>
      right
      rw [List.count_append, List.count_eq_zero_of_not_mem noDot, literal.count_dot]

namespace V6

variable {text : List Char} {groups : List UInt16} {quad : Bool}

theorem GroupLiteral.dot_not_mem {group : UInt16} (literal : GroupLiteral text group) :
    '.' ∉ text :=
  Numeral.not_mem_of_digits (by decide) literal.digits

/-- Before the colon that ends a group there is no dot. -/
theorem GroupLiteral.dot_not_mem_marked {group : UInt16} (literal : GroupLiteral text group) :
    '.' ∉ text ++ [':'] := by
  simp [literal.dot_not_mem]

theorem RowLiteral.dotsInQuad (literal : RowLiteral text groups quad) :
    DotsInQuad text ∧ (quad = false → '.' ∉ text) := by
  induction literal with
  | group literal => exact ⟨.plain literal.dot_not_mem, fun _ => literal.dot_not_mem⟩
  | quad literal => exact ⟨.quad List.not_mem_nil literal, nofun⟩
  | @cons text rest group groups quad literal row induction =>
      have joined : text ++ ':' :: rest = (text ++ [':']) ++ rest := by simp
      rw [joined]
      constructor
      · exact induction.1.behind literal.dot_not_mem_marked
      · intro noQuad
        rw [List.mem_append, not_or]
        exact ⟨literal.dot_not_mem_marked, induction.2 noQuad⟩

theorem SideLiteral.dotsInQuad (literal : SideLiteral text groups quad) :
    DotsInQuad text ∧ (quad = false → '.' ∉ text) := by
  cases literal with
  | none => exact ⟨.plain List.not_mem_nil, fun _ => List.not_mem_nil⟩
  | row literal => exact literal.dotsInQuad

theorem Literal.dotsInQuad {address : V6} (literal : Literal text address) : DotsInQuad text := by
  cases literal with
  | whole row => exact row.dotsInQuad.1
  | @squeezed front back high low zeros quad address before behind some parts =>
      have joined : front ++ ':' :: ':' :: back = (front ++ [':', ':']) ++ back := by simp
      have noDot : '.' ∉ front ++ [':', ':'] := by simp [before.dotsInQuad.2 rfl]
      rw [joined]
      exact behind.dotsInQuad.1.behind noDot

end V6

theorem Address.Literal.dotsInQuad {text : List Char} {address : Address}
    (literal : Literal text address) : DotsInQuad text := by
  cases literal with
  | v4 literal => exact .quad List.not_mem_nil literal
  | v6 literal => exact literal.dotsInQuad

end Inet

namespace UniversalAddress

theorem portOctet_of_octet {text : List Char} {octet : UInt8}
    (literal : V4.OctetLiteral text octet) : PortOctet text octet.toNat :=
  ⟨text, Or.inl rfl, literal.nonempty, literal.digits, literal.value,
    Nat.le_of_lt_succ octet.toNat_lt⟩

/-- A text whose dots are those of a quad at its end has port octets, but no host before them. -/
theorem invalidHost_of_quad {text : String} (inQuad : DotsInQuad text.toList)
    (dot : '.' ∈ text.toList) : parse text = .error (.invalidHost text) := by
  rw [invalidHost_iff]
  generalize text.toList = chars at inQuad dot ⊢
  cases inQuad with
  | plain noDot => exact absurd dot noDot
  | @quad front quad address noDot literal =>
      obtain @⟨first, second, third, fourth, address, firstOctet, secondOctet, thirdOctet,
        fourthOctet⟩ := literal
      have parts : Parts (front ++ (first ++ '.' :: second ++ '.' :: third ++ '.' :: fourth))
          (front ++ (first ++ '.' :: second)) third fourth :=
        ⟨by simp, thirdOctet.dot_not_mem, fourthOctet.dot_not_mem⟩
      have oneDot : (front ++ (first ++ '.' :: second)).count '.' = 1 := by
        simp [List.count_eq_zero_of_not_mem noDot,
          List.count_eq_zero_of_not_mem firstOctet.dot_not_mem,
          List.count_eq_zero_of_not_mem secondOctet.dot_not_mem]
      refine ⟨_, _, _, parts,
        ⟨⟨_, portOctet_of_octet thirdOctet⟩, ⟨_, portOctet_of_octet fourthOctet⟩⟩, ?_⟩
      intro host isHost
      rcases isHost.dotsInQuad.count_dot with none | three
      · omega
      · omega

theorem refused_of_literal {text : String} {address : Address}
    (literal : Address.Literal text.toList address) :
    parse text =
      .error (if '.' ∈ text.toList then .invalidHost text else .missingPort text) := by
  split
  · rename_i dot
    exact invalidHost_of_quad literal.dotsInQuad dot
  · rename_i noDot
    rw [missingPort_iff, List.count_eq_zero_of_not_mem noDot]
    decide

/-- No text that is read as an address is read as a universal address: one with a dotted quad in it
has no host before its port octets, any other has no port at all. So a universal address is never
an address literal. -/
theorem refuses_literals (text : String) :
    (∀ address, Address.ofText? text = some address →
      parse text =
        .error (if '.' ∈ text.toList then .invalidHost text else .missingPort text)) ∧
    ∀ socket, parse text = .ok socket → Address.ofText? text = none := by
  have refused : ∀ address, Address.ofText? text = some address →
      parse text =
        .error (if '.' ∈ text.toList then .invalidHost text else .missingPort text) := by
    intro address isAddress
    exact refused_of_literal (Address.ofChars_eq_some_iff.1 isAddress)
  constructor
  · exact refused
  · intro socket accepted
    rw [Option.eq_none_iff_forall_ne_some]
    intro address isAddress
    rw [refused address isAddress] at accepted
    cases accepted

/-- The quad at the end of this address is taken for the end of a host and two port octets. -/
theorem refuses_embedded_quad :
    let address := Address.v6 ⟨[0x64, 0xff9b, 0, 0, 0, 0, 0xc000, 0x0221], rfl⟩
    Address.ofText? "64:ff9b::192.0.2.33" = some address ∧
      parse "64:ff9b::192.0.2.33" = .error (.invalidHost "64:ff9b::192.0.2.33") := by
  intro address
  have isAddress : Address.ofText? "64:ff9b::192.0.2.33" = some address := by decide
  have refused := (refuses_literals "64:ff9b::192.0.2.33").1 address isAddress
  rw [if_pos (by decide)] at refused
  exact ⟨isAddress, refused⟩

end UniversalAddress

end RpcRegistry
