import RpcRegistry.Proofs.Text.Numeral
import RpcRegistry.Yaml.Printer

/-!
What is printed without quotes means itself. A text that looks like nothing else to any reader is a
text to the core schema, and the digits of a whole number are that number to it.
-/

namespace RpcRegistry

open RpcRegistry.Text Numeral

namespace Yaml

open Printer

section

variable {text digits rest : List Char} {base n : Nat}

theorem isDigitOrMark_of_isDigit {c : Char} (digit : isDigit base c = true) :
    isDigitOrMark base c = true := by
  rw [isDigitOrMark, digit, Bool.or_true]

theorem exists_of_whole (whole : whole? base digits = some n) :
    (∃ c rest, digits = c :: rest) ∧ ∀ c ∈ digits, isDigit base c = true := by
  unfold whole? at whole
  split at whole
  · rename_i isRun
    exact ⟨List.exists_cons_of_ne_nil isRun.1, List.all_eq_true.1 isRun.2⟩
  · cases whole

theorem isNumberRun_of_whole (whole : whole? 10 digits = some n) : isNumberRun digits = true := by
  obtain ⟨⟨c, rest, rfl⟩, each⟩ := exists_of_whole whole
  rw [isNumberRun, Bool.and_eq_true, List.all_eq_true]
  exact ⟨each c List.mem_cons_self, fun c member => isDigitOrMark_of_isDigit (each c member)⟩

/-- The readers of numbers look at the sign as the schema does. -/
theorem unsignedPart_eq (text : List Char) :
    (∃ rest, text = '-' :: rest ∧ Core.unsignedPart text = rest) ∨
    (∃ rest, text = '+' :: rest ∧ Core.unsignedPart text = rest) ∨
    (text.head? ≠ some '-' ∧ text.head? ≠ some '+' ∧ Core.unsignedPart text = text) := by
  unfold Core.unsignedPart
  split
  · exact .inl ⟨_, rfl, rfl⟩
  · exact .inr (.inl ⟨_, rfl, rfl⟩)
  · rename_i notMinus notPlus
    refine .inr (.inr ⟨?_, ?_, rfl⟩)
    · cases text with
      | nil => nofun
      | cons c rest =>
          intro isMinus
          exact notMinus rest (by rw [Option.some.inj isMinus])
    · cases text with
      | nil => nofun
      | cons c rest =>
          intro isPlus
          exact notPlus rest (by rw [Option.some.inj isPlus])

theorem isPower_of_exponent {power : Int} (read : Binary64.exponent? text = some power) :
    isPower text = true := by
  cases text with
  | nil => rfl
  | cons mark rest =>
      unfold Binary64.exponent? at read
      dsimp only at read
      split at read
      · rename_i isMark
        rw [isPower, Bool.and_eq_true]
        constructor
        · simpa using isMark
        · rcases unsignedPart_eq rest with ⟨tail, rfl, isTail⟩ | ⟨tail, rfl, isTail⟩ |
            ⟨notMinus, notPlus, isRest⟩
          · obtain ⟨_, lifted, _⟩ := Option.map_eq_some_iff.1 read
            obtain ⟨_, whole, _⟩ := Option.bind_eq_some_iff.1 lifted
            exact isNumberRun_of_whole whole
          · obtain ⟨_, whole, _⟩ := Option.map_eq_some_iff.1 read
            exact isNumberRun_of_whole whole
          · rw [isRest]
            split at read
            · exact absurd rfl notMinus
            · exact absurd rfl notPlus
            · obtain ⟨_, whole, _⟩ := Option.map_eq_some_iff.1 read
              exact isNumberRun_of_whole whole
      · cases read

theorem dropWhile_digits (each : ∀ c ∈ digits, isDigit 10 c = true)
    (ends : rest.head?.any (isDigitOrMark 10) = false) :
    (digits ++ rest).dropWhile (isDigitOrMark 10) = rest := by
  rw [List.dropWhile_append_of_pos fun c member => isDigitOrMark_of_isDigit (each c member)]
  cases rest with
  | nil => rfl
  | cons mark rest =>
      have other : isDigitOrMark 10 mark = false := ends
      rw [List.dropWhile_cons, other]
      rfl

/-- A power of ten does not start with a digit or a mark among digits. -/
theorem head_of_exponent {power : Int} (read : Binary64.exponent? text = some power) :
    text.head?.any (isDigitOrMark 10) = false := by
  cases text with
  | nil => rfl
  | cons mark rest =>
      unfold Binary64.exponent? at read
      dsimp only at read
      split at read
      · rename_i isMark
        rcases isMark with rfl | rfl <;> rfl
      · cases read

/-- The texts that are read as decimals: digits, perhaps a point and digits, and a power of ten. -/
theorem exists_decimal_of_unsigned {negative : Bool} {x : Binary64}
    (read : Binary64.ofUnsigned? negative text = some x) :
    ∃ whole fraction rest power, (∀ c ∈ whole, isDigit 10 c = true) ∧
      (∀ c ∈ fraction, isDigit 10 c = true) ∧ Binary64.exponent? rest = some power ∧
      (text = whole ++ rest ∧ whole ≠ [] ∨
        text = whole ++ '.' :: (fraction ++ rest) ∧ (whole ≠ [] ∨ fraction ≠ [])) := by
  have eachTaken : ∀ text : List Char, ∀ c ∈ text.takeWhile (isDigit 10), isDigit 10 c = true :=
    fun text => List.all_eq_true.1 List.all_takeWhile
  have cut : ∀ text : List Char,
      text = text.takeWhile (isDigit 10) ++ text.dropWhile (isDigit 10) :=
    fun text => List.takeWhile_append_dropWhile.symm
  unfold Binary64.ofUnsigned? Binary64.splitDigits at read
  dsimp only at read
  have isText := cut text
  split at read
  · rename_i rest isRest
    rw [isRest, cut rest] at isText
    split at read
    · cases read
    · obtain ⟨power, isPower, _⟩ := Option.bind_eq_some_iff.1 read
      exact ⟨_, _, _, power, eachTaken text, eachTaken rest, isPower, .inr ⟨isText, by tauto⟩⟩
  · split at read
    · cases read
    · obtain ⟨power, isPower, _⟩ := Option.bind_eq_some_iff.1 read
      exact ⟨_, [], _, power, eachTaken text, nofun, isPower, .inl ⟨isText, by tauto⟩⟩

theorem isDecimalLike_of_unsigned {negative : Bool} {x : Binary64}
    (read : Binary64.ofUnsigned? negative text = some x) : isDecimalLike text = true := by
  obtain ⟨whole, fraction, rest, power, wholeDigits, fractionDigits, isPower, form⟩ :=
    exists_decimal_of_unsigned read
  have powerLike := isPower_of_exponent isPower
  have afterFraction := dropWhile_digits fractionDigits (head_of_exponent isPower)
  cases whole with
  | nil =>
      rcases form with ⟨_, nonempty⟩ | ⟨rfl, nonempty⟩
      · exact absurd rfl nonempty
      · obtain ⟨c, more, rfl⟩ := List.exists_cons_of_ne_nil (nonempty.resolve_left (absurd rfl))
        have digit := fractionDigits c List.mem_cons_self
        rw [List.nil_append, isDecimalLike, afterFraction, powerLike, List.cons_append,
          List.head?_cons, Option.any_some, digit]
        rfl
  | cons c more =>
      have digit := wholeDigits c List.mem_cons_self
      have notPoint : c ≠ '.' := by
        rintro rfl
        exact absurd digit (by decide)
      rcases form with ⟨rfl, _⟩ | ⟨rfl, _⟩
      · have afterWhole := dropWhile_digits wholeDigits (head_of_exponent isPower)
        unfold isDecimalLike
        rw [afterWhole]
        split
        · rename_i same
          exact absurd (List.cons.inj same).1 notPoint
        · cases isPower
        · rename_i same
          rw [← (List.cons.inj same).1, digit, powerLike]
          rfl
        · rename_i same
          cases same
      · have afterWhole : (c :: more ++ '.' :: (fraction ++ rest)).dropWhile (isDigitOrMark 10) =
            '.' :: (fraction ++ rest) := dropWhile_digits wholeDigits rfl
        unfold isDecimalLike
        rw [afterWhole]
        split
        · rename_i same
          exact absurd (List.cons.inj same).1 notPoint
        · rename_i same point
          rw [← (List.cons.inj same).1, ← (List.cons.inj point).2, digit, afterFraction, powerLike]
          rfl
        · rename_i notFraction
          exact absurd rfl (notFraction _)
        · rename_i same
          cases same

theorem baseOf_of_unsigned {negative : Bool} {x : Binary64}
    (read : Binary64.ofUnsigned? negative text = some x) : baseOf text = (10, text) := by
  unfold baseOf
  split
  · cases read
  · cases read
  · cases read
  · rfl

theorem baseOf_of_decimal (decimal : (baseOf text).1 = 10) : baseOf text = (10, text) := by
  unfold baseOf at decimal ⊢
  split at decimal
  · cases decimal
  · cases decimal
  · cases decimal
  · rfl

theorem isNumberLike_of_base_ten (decimal : (baseOf (Core.unsignedPart text)).1 = 10)
    (like : isDecimalLike (Core.unsignedPart text) = true) : isNumberLike text = true := by
  unfold isNumberLike
  dsimp only
  rw [if_pos decimal, like]
  rfl

theorem isNumberLike_of_base (other : (baseOf (Core.unsignedPart text)).1 ≠ 10)
    (whole : whole? (baseOf (Core.unsignedPart text)).1 (baseOf (Core.unsignedPart text)).2 =
      some n) : isNumberLike text = true := by
  obtain ⟨⟨c, rest, nonempty⟩, each⟩ := exists_of_whole whole
  unfold isNumberLike
  dsimp only
  rw [if_neg other, Bool.and_eq_true, List.all_eq_true]
  constructor
  · rw [nonempty]
    rfl
  · exact fun c member => isDigitOrMark_of_isDigit (each c member)

theorem isNumberLike_of_decimal {x : Binary64} (read : Binary64.ofDecimalText? text = some x) :
    isNumberLike text = true := by
  obtain ⟨negative, unsignedRead⟩ : ∃ negative,
      Binary64.ofUnsigned? negative (Core.unsignedPart text) = some x := by
    rcases unsignedPart_eq text with ⟨rest, rfl, isRest⟩ | ⟨rest, rfl, isRest⟩ |
      ⟨notMinus, notPlus, isText⟩
    · exact ⟨true, read⟩
    · exact ⟨false, read⟩
    · rw [isText]
      unfold Binary64.ofDecimalText? at read
      split at read
      · exact absurd rfl notMinus
      · exact absurd rfl notPlus
      · exact ⟨false, read⟩
  apply isNumberLike_of_base_ten
  · rw [baseOf_of_unsigned unsignedRead]
  · exact isDecimalLike_of_unsigned unsignedRead

theorem isDecimalLike_of_whole (whole : whole? 10 text = some n) : isDecimalLike text = true := by
  obtain ⟨⟨c, rest, nonempty⟩, each⟩ := exists_of_whole whole
  have taken : text.takeWhile (isDigit 10) = text := by
    simpa using takeWhile_run each (endsRun_nil 10)
  have dropped : text.dropWhile (isDigit 10) = [] := by
    simpa using dropWhile_run each (endsRun_nil 10)
  obtain ⟨x, read⟩ : ∃ x, Binary64.ofUnsigned? false text = some x := by
    unfold Binary64.ofUnsigned? Binary64.splitDigits
    rw [taken, dropped]
    dsimp only
    rw [if_neg (by simp [nonempty])]
    exact ⟨_, rfl⟩
  exact isDecimalLike_of_unsigned read

theorem isNumberLike_of_int {number : Int} (read : Core.int? text = some number) :
    isNumberLike text = true := by
  unfold Core.int? at read
  dsimp only at read
  split at read
  · cases read
  · cases whole : whole? (baseOf (Core.unsignedPart text)).1
      (baseOf (Core.unsignedPart text)).2 with
    | none =>
        rw [whole] at read
        cases read
    | some n =>
        by_cases decimal : (baseOf (Core.unsignedPart text)).1 = 10
        · apply isNumberLike_of_base_ten decimal
          rw [baseOf_of_decimal decimal] at whole
          exact isDecimalLike_of_whole whole
        · exact isNumberLike_of_base decimal whole

theorem isNumberLike_of_special {x : Binary64} (read : Core.special? text = some x) :
    isNumberLike text = true := by
  have infinities : ∀ word ∈ [".inf".toList, ".Inf".toList, ".INF".toList],
      isNumberLike word = true ∧ isNumberLike ('-' :: word) = true ∧
        isNumberLike ('+' :: word) = true := by decide
  have others : ∀ word ∈ [".nan".toList, ".NaN".toList, ".NAN".toList],
      isNumberLike word = true := by decide
  unfold Core.special? at read
  dsimp only at read
  split at read
  · split at read
    · rename_i isWord
      exact (infinities _ (List.contains_iff_mem.1 isWord)).2.1
    · cases read
  · split at read
    · rename_i isWord
      exact (infinities _ (List.contains_iff_mem.1 isWord)).2.2
    · cases read
  · split at read
    · rename_i isWord
      exact (infinities _ (List.contains_iff_mem.1 isWord)).1
    · split at read
      · rename_i isWord
        exact others _ (List.contains_iff_mem.1 isWord)
      · cases read

theorem isNull_of_core (isNull : Core.isNull text = true) : Wide.isNull text = true := by
  have words : ∀ word ∈ ["null".toList, "Null".toList, "NULL".toList, ['~']],
      Wide.isNull word = true := by decide
  exact words text (List.contains_iff_mem.1 isNull)

theorem isSome_bool_of_core {b : Bool} (isBool : Core.bool? text = some b) :
    (Wide.bool? text).isSome := by
  have words : ∀ word ∈ ["true".toList, "True".toList, "TRUE".toList, "false".toList,
      "False".toList, "FALSE".toList], (Wide.bool? word).isSome := by decide
  apply words
  unfold Core.bool? at isBool
  split at isBool
  · rename_i isTrue
    exact List.mem_append_left _ (List.contains_iff_mem.1 isTrue)
  · split at isBool
    · rename_i isFalse
      exact List.mem_append_right ["true".toList, "True".toList, "TRUE".toList]
        (List.contains_iff_mem.1 isFalse)
    · cases isBool

/-- A text that nothing else is read from is a text. -/
theorem coreValue_of_not_ambiguous (clear : isAmbiguous text = false) :
    Core.value text = .text (String.ofList text) := by
  simp only [isAmbiguous, Bool.or_eq_false_iff] at clear
  obtain ⟨⟨notNull, notBool⟩, notNumber⟩ := clear
  have notCoreNull : ¬(text = [] ∨ Core.isNull text = true) := by
    rintro (rfl | isNull)
    · cases notNull
    · rw [isNull_of_core isNull] at notNull
      cases notNull
  have noBool : Core.bool? text = none := by
    cases read : Core.bool? text with
    | none => rfl
    | some b =>
        rw [isSome_bool_of_core read] at notBool
        cases notBool
  have noInt : Core.int? text = none := by
    cases read : Core.int? text with
    | none => rfl
    | some n =>
        rw [isNumberLike_of_int read] at notNumber
        cases notNumber
  have noFloat : Core.float? text = none := by
    unfold Core.float?
    cases special : Core.special? text with
    | some x =>
        rw [isNumberLike_of_special special] at notNumber
        cases notNumber
    | none =>
        cases decimal : Binary64.ofDecimalText? text with
        | some x =>
            rw [isNumberLike_of_decimal decimal] at notNumber
            cases notNumber
        | none => rfl
  unfold Core.value
  rw [if_neg notCoreNull, noBool, noInt, noFloat, ite_self]

def intLine (n : Int) : Line := (if n < 0 then ['-'] else []) ++ decimal n.natAbs

theorem mem_intLine {n : Int} {c : Char} (member : c ∈ intLine n) :
    c = '-' ∨ isDigit 10 c = true := by
  rcases List.mem_append.1 member with isSign | isDigit
  · split at isSign
    · exact .inl (List.mem_singleton.1 isSign)
    · cases isSign
  · exact .inr (isDigit_of_mem_decimal _ c isDigit)

/-- A word with a character of its own is no number. -/
theorem not_contains_intLine {n : Int} {words : List (List Char)}
    (others : words.all (fun word => word.any fun c => c ≠ '-' && !isDigit 10 c) = true) :
    words.contains (intLine n) = false := by
  rw [← Bool.not_eq_true, List.contains_iff_mem]
  intro isWord
  obtain ⟨c, member, isOther⟩ := List.any_eq_true.1 (List.all_eq_true.1 others _ isWord)
  rw [Bool.and_eq_true, decide_eq_true_eq, Bool.not_eq_true'] at isOther
  obtain ⟨notMinus, notDigit⟩ := isOther
  rcases mem_intLine member with isMinus | isDigit
  · exact notMinus isMinus
  · rw [notDigit] at isDigit
    cases isDigit

theorem unsignedPart_decimal (n : Nat) : Core.unsignedPart (decimal n) = decimal n := by
  rcases unsignedPart_eq (decimal n) with ⟨rest, isMinus, _⟩ | ⟨rest, isPlus, _⟩ | ⟨_, _, same⟩
  · have digit := isDigit_of_mem_decimal n '-' (by rw [isMinus]; exact List.mem_cons_self)
    exact absurd digit (by decide)
  · have digit := isDigit_of_mem_decimal n '+' (by rw [isPlus]; exact List.mem_cons_self)
    exact absurd digit (by decide)
  · exact same

theorem unsignedPart_intLine (n : Int) : Core.unsignedPart (intLine n) = decimal n.natAbs := by
  unfold intLine
  split
  · rfl
  · exact unsignedPart_decimal _

theorem baseOf_decimal (n : Nat) : baseOf (decimal n) = (10, decimal n) := by
  have digits := isDigit_of_mem_decimal n
  unfold baseOf
  split
  · rename_i same
    exact absurd (digits 'x' (by simp [same])) (by decide)
  · rename_i same
    exact absurd (digits 'o' (by simp [same])) (by decide)
  · rename_i same
    exact absurd (digits 'b' (by simp [same])) (by decide)
  · rfl

theorem isPadded_intLine (n : Int) : Core.isPadded (intLine n) = false := by
  unfold Core.isPadded
  rw [unsignedPart_intLine]
  by_cases zero : (decimal n.natAbs).head? = some '0'
  · rw [head_digits (by decide) zero]
    rfl
  · simp [zero]

theorem head_intLine (n : Int) : (intLine n).head? = some '-' ↔ n < 0 := by
  unfold intLine
  split
  · rename_i negative
    exact iff_of_true rfl negative
  · rename_i notNegative
    refine iff_of_false ?_ notNegative
    intro isMinus
    exact absurd (isDigit_of_mem_decimal _ _ (List.mem_of_mem_head? isMinus)) (by decide)

theorem int_intLine {n : Int} (least : -Int.pow 2 127 ≤ n) (most : n < Int.pow 2 128) :
    Core.int? (intLine n) = some n := by
  have whole : whole? 10 (decimal n.natAbs) = some n.natAbs := by
    unfold whole?
    rw [if_pos ⟨digits_ne_nil 10 _, List.all_eq_true.2 (isDigit_of_mem_decimal _)⟩]
    exact congrArg some (value_digits (by decide) (by decide) _)
  unfold Core.int?
  rw [unsignedPart_intLine, baseOf_decimal]
  dsimp only
  rw [isPadded_intLine, if_neg nofun, whole]
  dsimp only
  have words : Int.pow 2 127 = (Nat.pow 2 127 : Nat) ∧ Int.pow 2 128 = (Nat.pow 2 128 : Nat) := by
    decide
  by_cases negative : n < 0
  · rw [if_pos ((head_intLine n).2 negative), if_pos (by omega)]
    congr 1
    omega
  · rw [if_neg fun isMinus => negative ((head_intLine n).1 isMinus), if_pos (by omega)]
    congr 1
    omega

theorem coreValue_intLine {n : Int} (least : -Int.pow 2 127 ≤ n) (most : n < Int.pow 2 128) :
    Core.value (intLine n) = .int n := by
  have notNull : Core.isNull (intLine n) = false := not_contains_intLine (by decide)
  have notTrue : ["true".toList, "True".toList, "TRUE".toList].contains (intLine n) = false :=
    not_contains_intLine (by decide)
  have notFalse : ["false".toList, "False".toList, "FALSE".toList].contains (intLine n) = false :=
    not_contains_intLine (by decide)
  have nonempty : intLine n ≠ [] :=
    List.append_ne_nil_of_right_ne_nil _ (digits_ne_nil 10 _)
  unfold Core.value Core.bool?
  rw [if_neg (by simp [nonempty, notNull]), notTrue, notFalse, int_intLine least most]
  rfl

end

end Yaml

end RpcRegistry
