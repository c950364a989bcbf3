import RpcRegistry.Inet.V4
import RpcRegistry.Proofs.Text.Numeral

/-!
Dotted quads as literals. The reader takes an address off the front of a text exactly where a
literal of that address stands with no digit behind it, and the text of an address is a literal of
it.
-/

namespace RpcRegistry.Inet

open RpcRegistry.Text

@[simp]
theorem afterMark_first (mark : Char) (text : List Char) : afterMark mark true text = some text :=
  rfl

@[simp]
theorem afterMark_mark (mark : Char) (rest : List Char) :
    afterMark mark false (mark :: rest) = some rest := by
  simp [afterMark]

theorem eq_cons_of_afterMark {mark : Char} {text rest : List Char}
    (marked : afterMark mark false text = some rest) : text = mark :: rest := by
  cases text with
  | nil => cases marked
  | cons c tail =>
      simp only [afterMark, Bool.false_eq_true, if_false] at marked
      split at marked
      · rename_i same
        rw [same, Option.some.inj marked]
      · cases marked

theorem readDigits_eq_some_iff {base most : Nat} {text run rest : List Char} :
    readDigits base most text = some (run, rest) ↔
      text = run ++ rest ∧ run ≠ [] ∧ run.length ≤ most ∧
        (∀ c ∈ run, Numeral.isDigit base c = true) ∧ Numeral.EndsRun base rest := by
  constructor
  · intro read
    simp only [readDigits] at read
    split at read
    · rename_i fits
      obtain ⟨rfl, rfl⟩ := Prod.mk.inj (Option.some.inj read)
      refine ⟨List.takeWhile_append_dropWhile.symm, fits.1, fits.2, ?_,
        Numeral.endsRun_dropWhile base text⟩
      intro c member
      exact List.all_eq_true.1 List.all_takeWhile c member
    · cases read
  · rintro ⟨rfl, nonempty, short, digits, ends⟩
    simp only [readDigits, Numeral.takeWhile_run digits ends, Numeral.dropWhile_run digits ends]
    rw [if_pos ⟨nonempty, short⟩]

theorem readDigits_of_ends {base most : Nat} {text : List Char}
    (ends : Numeral.EndsRun base text) : readDigits base most text = none := by
  have empty : text.takeWhile (Numeral.isDigit base) = [] := by
    cases text with
    | nil => rfl
    | cons c rest => simp [ends c rfl]
  simp [readDigits, empty]

namespace V4

/-- One to three decimal digits, without a needless zero in front. -/
structure OctetLiteral (text : List Char) (octet : UInt8) : Prop where
  nonempty : text ≠ []
  short : text.length ≤ 3
  digits : ∀ c ∈ text, Numeral.isDigit 10 c = true
  plain : text.head? = some '0' → text.length ≤ 1
  value : Numeral.value 10 text = octet.toNat

inductive Literal : List Char → V4 → Prop where
  | quad {first second third fourth : List Char} {address : V4}
      (firstOctet : OctetLiteral first address.first)
      (secondOctet : OctetLiteral second address.second)
      (thirdOctet : OctetLiteral third address.third)
      (fourthOctet : OctetLiteral fourth address.fourth) :
      Literal (first ++ '.' :: second ++ '.' :: third ++ '.' :: fourth) address

theorem readOctet_eq_some_iff {text rest : List Char} {octet : UInt8} :
    readOctet text = some (octet, rest) ↔
      ∃ front, text = front ++ rest ∧ OctetLiteral front octet ∧ Numeral.EndsRun 10 rest := by
  constructor
  · intro read
    obtain ⟨⟨run, behind⟩, digits, chosen⟩ := Option.bind_eq_some_iff.1 read
    obtain ⟨joined, nonempty, short, all, ends⟩ := readDigits_eq_some_iff.1 digits
    dsimp only at chosen
    split at chosen
    · cases chosen
    · rename_i accepted
      obtain ⟨rfl, rfl⟩ := Prod.mk.inj (Option.some.inj chosen)
      refine ⟨run, joined, ⟨nonempty, short, all, ?_, ?_⟩, ends⟩
      · intro zero
        by_contra long
        exact accepted (Or.inl ⟨zero, by omega⟩)
      · rw [UInt8.toNat_ofNat', Nat.mod_eq_of_lt]
        omega
  · rintro ⟨front, rfl, literal, ends⟩
    have below := octet.toNat_lt
    have read : readDigits 10 3 (front ++ rest) = some (front, rest) :=
      readDigits_eq_some_iff.2 ⟨rfl, literal.nonempty, literal.short, literal.digits, ends⟩
    have accepted : ¬((front.head? = some '0' ∧ 1 < front.length) ∨ 255 < octet.toNat) := by
      rintro (⟨zero, long⟩ | tooGreat)
      · exact Nat.not_lt.2 (literal.plain zero) long
      · omega
    rw [readOctet, read]
    simp only [Option.bind_eq_bind, Option.bind_some, literal.value]
    rw [if_neg accepted, UInt8.ofNat_toNat]

theorem endsRun_dot (rest : List Char) : Numeral.EndsRun 10 ('.' :: rest) :=
  Numeral.endsRun_cons (by decide) rest

/-- An address is read off the front of a text just if its literal stands there and no digit
follows. -/
theorem read_eq_some_iff {text rest : List Char} {address : V4} :
    read text = some (address, rest) ↔
      ∃ front, text = front ++ rest ∧ Literal front address ∧ Numeral.EndsRun 10 rest := by
  constructor
  · intro parsed
    simp only [read, Option.bind_eq_bind, Option.bind_eq_some_iff, Prod.exists, Option.some.injEq,
      Prod.mk.injEq] at parsed
    obtain ⟨first, afterFirst, readFirst, second, afterSecond, ⟨toSecond, dotSecond, readSecond⟩,
      third, afterThird, ⟨toThird, dotThird, readThird⟩, fourth, afterFourth,
      ⟨toFourth, dotFourth, readFourth⟩, rfl, rfl⟩ := parsed
    obtain ⟨firstText, rfl, firstOctet, _⟩ := readOctet_eq_some_iff.1 readFirst
    obtain rfl := eq_cons_of_afterMark dotSecond
    obtain ⟨secondText, rfl, secondOctet, _⟩ := readOctet_eq_some_iff.1 readSecond
    obtain rfl := eq_cons_of_afterMark dotThird
    obtain ⟨thirdText, rfl, thirdOctet, _⟩ := readOctet_eq_some_iff.1 readThird
    obtain rfl := eq_cons_of_afterMark dotFourth
    obtain ⟨fourthText, rfl, fourthOctet, ends⟩ := readOctet_eq_some_iff.1 readFourth
    exact ⟨_, by simp, .quad firstOctet secondOctet thirdOctet fourthOctet, ends⟩
  · rintro ⟨_, rfl, ⟨firstOctet, secondOctet, thirdOctet, fourthOctet⟩, ends⟩
    have octet : ∀ {front : List Char} {octet : UInt8}, OctetLiteral front octet →
        ∀ rest, readOctet (front ++ '.' :: rest) = some (octet, '.' :: rest) :=
      fun literal rest => readOctet_eq_some_iff.2 ⟨_, rfl, literal, endsRun_dot rest⟩
    have last := readOctet_eq_some_iff.2 ⟨_, rfl, fourthOctet, ends⟩
    simp only [read, List.append_assoc, List.cons_append, octet firstOctet, octet secondOctet,
      octet thirdOctet, last, Option.bind_eq_bind, Option.bind_some, afterMark_mark]

/-- No address stands where the first run of digits does not end at a dot. -/
theorem read_of_head {text : List Char}
    (other : (text.dropWhile (Numeral.isDigit 10)).head? ≠ some '.') : read text = none := by
  rw [Option.eq_none_iff_forall_ne_some]
  rintro ⟨address, rest⟩ parsed
  obtain ⟨_, rfl, ⟨firstOctet, _, _, _⟩, _⟩ := read_eq_some_iff.1 parsed
  simp only [List.append_assoc, List.cons_append] at other
  rw [Numeral.dropWhile_run firstOctet.digits (endsRun_dot _)] at other
  exact other rfl

theorem octetLiteral_text (octet : UInt8) : OctetLiteral (octetText octet) octet := by
  have below := octet.toNat_lt
  constructor
  · exact Numeral.digits_ne_nil 10 octet.toNat
  · exact Numeral.length_digits_le (by decide) (by decide) (by omega)
  · exact Numeral.isDigit_of_mem_decimal octet.toNat
  · intro zero
    rw [octetText, Numeral.head_digits (by decide) zero]
    decide
  · exact Numeral.value_digits (by decide) (by decide) octet.toNat

theorem literal_text (address : V4) : Literal address.text address :=
  .quad (octetLiteral_text _) (octetLiteral_text _) (octetLiteral_text _) (octetLiteral_text _)

end V4

end RpcRegistry.Inet
