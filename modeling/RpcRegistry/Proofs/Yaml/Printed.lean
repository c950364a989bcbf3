import Mathlib.Data.List.Basic
import RpcRegistry.Proofs.Yaml.Plain
import RpcRegistry.Proofs.Yaml.Quoted

/-!
Which values are printed without blocks of text: nested dictionaries of numbers, words and texts
that stand on the line of their key, as they are or in double quotes. Each of their scalars is one
line, from which it is read again.
-/

namespace RpcRegistry.Yaml

open RpcRegistry.Text Printer

/-- A text that is printed on the line of its key, and no part of which is lost there. -/
def isLineText (text : List Char) : Bool :=
  text.all isLineChar && !isLoneMark text &&
    (!isPlain text || (text.length ≤ foldWidth && text.getLast? ≠ some ' '))

/-- A key that is short enough to be read as one, and is one word where it has no quotes. -/
def isLineName (key : String) : Bool :=
  key.toList.all isLineChar && (keyLine key).length ≤ 1024 &&
    (!isPlainKey key.toList || !key.toList.contains ' ')

def isLineScalar : Value → Bool
  | .null | .bool _ => true
  | .int n => Value.storable n
  | .text s => isLineText s.toList
  | _ => false

def isLineTree : (depth : Nat) → Value → Bool
  | depth + 1, .dict entries =>
      entries.all fun entry => isLineName entry.1 && isLineTree depth entry.2
  | _, value => isLineScalar value

def scalarLine : Value → Line
  | .null => "null".toList
  | .bool b => (if b then "true" else "false").toList
  | .int n => intLine n
  | .text s => valueLine s.toList
  | _ => []

def scalarStyle : Value → Style
  | .text s => if isPlain s.toList then .plain else .quoted
  | _ => .plain

/-- What the line of a value is read as, before it is taken for a number or a word. -/
def scalarContents : Value → List Char
  | .text s => s.toList
  | value => scalarLine value

def keyStyle (key : String) : Style := if isPlainKey key.toList then .plain else .quoted

section

variable {text : List Char} {key : String} {depth : Nat} {value : Value}

theorem hasKeyColon_of_not_mem (noColon : ':' ∉ text) : hasKeyColon text = false := by
  induction text with
  | nil => rfl
  | cons c text induction =>
      have notColon : c ≠ ':' := fun isColon => noColon (isColon ▸ List.mem_cons_self)
      rw [hasKeyColon, decide_eq_false notColon, Bool.false_and, Bool.false_or]
      exact induction fun member => noColon (List.mem_cons_of_mem _ member)

theorem isLine_of_safe (safe : isSafe text = true) (chars : ∀ c ∈ text, isLineChar c = true)
    (noKey : hasKeyColon text = false) (ends : text.getLast? ≠ some ' ') : IsLine text := by
  simp only [isSafe, Bool.not_eq_true', Bool.or_eq_false_iff, List.any_eq_false] at safe
  obtain ⟨⟨⟨notAmbiguous, safeStart⟩, noControl⟩, noComment⟩ := safe
  have nonempty : text ≠ [] := by
    rintro rfl
    cases notAmbiguous
  refine { nonempty, ends, noKey, safe := safeStart, starts := ?_, chars := fun c member => ?_ }
  · obtain ⟨c, rest, rfl⟩ := List.exists_cons_of_ne_nil nonempty
    intro isSpace
    obtain rfl := Option.some.inj isSpace
    cases safeStart
  · refine ⟨chars c member, ?_, ?_⟩
    · rintro rfl
      exact noControl _ member rfl
    · rintro rfl
      exact absurd (List.contains_iff_mem.2 member) (Bool.eq_false_iff.1 noComment)

theorem isLine_of_isPlain (plain : isPlain text = true) (chars : ∀ c ∈ text, isLineChar c = true)
    (ends : text.getLast? ≠ some ' ') : IsLine text := by
  rw [isPlain, Bool.and_eq_true, Bool.not_eq_true'] at plain
  exact isLine_of_safe plain.1 chars plain.2 ends

theorem not_isAmbiguous_of_isPlain (plain : isPlain text = true) : isAmbiguous text = false := by
  simp only [isPlain, isSafe, Bool.and_eq_true, Bool.not_eq_true', Bool.or_eq_false_iff] at plain
  exact plain.1.1.1.1

theorem isLineText_iff : isLineText text = true ↔ (∀ c ∈ text, isLineChar c = true) ∧
    isLoneMark text = false ∧
    (isPlain text = true → text.length ≤ foldWidth ∧ text.getLast? ≠ some ' ') := by
  simp only [isLineText, Bool.and_eq_true, List.all_eq_true, Bool.not_eq_true', Bool.or_eq_true,
    decide_eq_true_eq, and_assoc]
  cases isPlain text <;> simp

theorem isKeyLine_of_isPlainKey (plain : isPlainKey text = true)
    (chars : ∀ c ∈ text, isLineChar c = true) (oneWord : ' ' ∉ text) (short : text.length ≤ 1024) :
    IsKeyLine text := by
  simp only [isPlainKey, Bool.and_eq_true, Bool.not_eq_true', List.any_eq_false] at plain
  obtain ⟨safe, noMarks⟩ := plain
  have noColon : ':' ∉ text := fun member => noMarks ':' member rfl
  have isLine := isLine_of_safe safe chars (hasKeyColon_of_not_mem noColon)
    fun ends => oneWord (List.mem_of_getLast? ends)
  exact { isLine with oneWord, noColon, short }

theorem keyLine_eq (chars : ∀ c ∈ key.toList, isLineChar c = true) :
    keyLine key = if isPlainKey key.toList then key.toList else doubleQuoted key.toList := by
  have escaped : key.toList.flatMap escapedKeyChar = key.toList.flatMap Printer.escapedChar :=
    List.flatMap_congr fun c member => escapedKeyChar_eq (chars c member)
  rw [doubleQuoted, ← escaped]
  rfl

theorem spells_key (isName : isLineName key = true) :
    SpellsKey (keyLine key) (keyStyle key) key.toList := by
  simp only [isLineName, Bool.and_eq_true, List.all_eq_true, decide_eq_true_eq, Bool.or_eq_true,
    Bool.not_eq_true', List.contains_eq_mem, decide_eq_false_iff_not] at isName
  obtain ⟨⟨chars, short⟩, oneWord⟩ := isName
  rw [keyLine_eq chars] at short ⊢
  unfold keyStyle
  split
  · rename_i plain
    rw [if_pos plain] at short
    have notQuoted := oneWord.resolve_left (by simp [plain])
    exact .plain (isKeyLine_of_isPlainKey plain chars notQuoted short)
  · rename_i quoted
    rw [if_neg quoted] at short
    exact .quoted chars short

theorem textLines_of_isLineText {s : String} (isText : isLineText s.toList = true) (column : Nat) :
    textLines column s = (valueLine s.toList, []) := by
  obtain ⟨chars, _, short⟩ := isLineText_iff.1 isText
  have oneLine : '\n' ∉ s.toList := fun member => by cases chars _ member
  have notFolded : ¬(foldWidth < s.toList.length ∧ isPlain s.toList = true) :=
    fun long => Nat.not_lt.2 (short long.2).1 long.1
  unfold textLines
  simp [oneLine, notFolded]

theorem spells_text (isText : isLineText text = true) :
    Spells (valueLine text) (if isPlain text then .plain else .quoted) text := by
  obtain ⟨chars, notLone, short⟩ := isLineText_iff.1 isText
  rw [valueLine, notLone, if_neg Bool.false_ne_true]
  split
  · rename_i plain
    exact .plain (isLine_of_isPlain plain chars (short plain).2)
  · exact .quoted chars

theorem mem_digits_of_mem_decimal {n : Nat} {c : Char} (member : c ∈ Numeral.decimal n) :
    c ∈ "0123456789".toList := by
  have digit := Nat.isDigit_of_mem_toDigits (by decide) (by decide) member
  rw [Char.isDigit, Bool.and_eq_true, decide_eq_true_eq, decide_eq_true_eq] at digit
  have least : 48 ≤ c.toNat := UInt32.le_iff_toNat_le.1 digit.1
  have most : c.toNat ≤ 57 := UInt32.le_iff_toNat_le.1 digit.2
  have each : ∀ code < 58, 48 ≤ code → Char.ofNat code ∈ "0123456789".toList := by decide
  rw [← Char.ofNat_toNat c]
  exact each c.toNat (by omega) least

/-- The line of a number starts with a digit, or with a sign and a digit. -/
theorem exists_intLine (n : Int) : ∃ sign digit digits, intLine n = sign ++ digit :: digits ∧
    (sign = [] ∨ sign = ['-']) ∧ ∀ c ∈ digit :: digits, c ∈ "0123456789".toList := by
  obtain ⟨digit, digits, isDecimal⟩ :=
    List.exists_cons_of_ne_nil (Numeral.digits_ne_nil 10 n.natAbs)
  refine ⟨if n < 0 then ['-'] else [], digit, digits, ?_, ?_, fun c member => ?_⟩
  · rw [← isDecimal]
    rfl
  · split
    · exact .inr rfl
    · exact .inl rfl
  · rw [← isDecimal] at member
    exact mem_digits_of_mem_decimal member

theorem isLine_intLine (n : Int) : IsLine (intLine n) := by
  have marks : ('-' :: "0123456789".toList).all (fun c =>
      isLineChar c && c ≠ '\t' && c ≠ '#' && c ≠ ' ' && c ≠ ':') = true := by decide
  simp only [List.all_eq_true, Bool.and_eq_true, decide_eq_true_eq, and_assoc] at marks
  obtain ⟨sign, digit, digits, isLine, isSign, areDigits⟩ := exists_intLine n
  have chars : ∀ c ∈ intLine n, c ∈ '-' :: "0123456789".toList := by
    intro c member
    rw [isLine] at member
    rcases List.mem_append.1 member with inSign | inDigits
    · rcases isSign with rfl | rfl
      · cases inSign
      · rw [List.mem_singleton.1 inSign]
        exact List.mem_cons_self
    · exact List.mem_cons_of_mem _ (areDigits c inDigits)
  have noSpace : ' ' ∉ intLine n := fun member => (marks _ (chars _ member)).2.2.2.1 rfl
  have noColon : ':' ∉ intLine n := fun member => (marks _ (chars _ member)).2.2.2.2 rfl
  constructor
  · constructor
    · rw [isLine]
      simp
    · exact fun isSpace => noSpace (List.mem_of_head? isSpace)
    · exact fun isSpace => noSpace (List.mem_of_getLast? isSpace)
    · intro c member
      obtain ⟨isChar, notTab, notComment, _⟩ := marks c (chars c member)
      exact ⟨isChar, notTab, notComment⟩
    · exact hasKeyColon_of_not_mem noColon
  · have notUnsafe : ∀ c ∈ "0123456789".toList, ∀ rest,
        startsUnsafe (c :: rest) = false ∧ startsUnsafe ('-' :: c :: rest) = false := by
      intro c member rest
      simp only [List.mem_cons, List.not_mem_nil, or_false, String.reduceToList] at member
      rcases member with rfl | rfl | rfl | rfl | rfl | rfl | rfl | rfl | rfl | rfl <;>
        exact ⟨rfl, rfl⟩
    obtain ⟨unsigned, signed⟩ := notUnsafe digit (areDigits digit List.mem_cons_self) digits
    rw [isLine]
    rcases isSign with rfl | rfl
    · exact unsigned
    · exact signed

theorem isLine_word (isWord : text ∈ ["null".toList, "true".toList, "false".toList]) :
    IsLine text := by
  have each : ∀ word ∈ ["null".toList, "true".toList, "false".toList],
      word ≠ [] ∧ word.head? ≠ some ' ' ∧ word.getLast? ≠ some ' ' ∧
        word.all (fun c => isLineChar c && c ≠ '\t' && c ≠ '#') = true ∧
        hasKeyColon word = false ∧ startsUnsafe word = false := by decide
  obtain ⟨nonempty, starts, ends, chars, noKey, safe⟩ := each text isWord
  simp only [List.all_eq_true, Bool.and_eq_true, decide_eq_true_eq, and_assoc] at chars
  exact { nonempty, starts, ends, chars, noKey, safe }

/-- A value without parts is one line, from which it is read again. -/
theorem scalar_of_isLineScalar (isScalar : isLineScalar value = true) :
    (∀ column, scalarLines column value = (scalarLine value, [])) ∧
      Spells (scalarLine value) (scalarStyle value) (scalarContents value) ∧
      (if scalarStyle value = .plain then Core.value (scalarContents value)
        else .text (String.ofList (scalarContents value))) = value := by
  cases value with
  | null => exact ⟨fun _ => rfl, .plain (isLine_word (by decide)), rfl⟩
  | bool b => cases b <;> exact ⟨fun _ => rfl, .plain (isLine_word (by decide)), rfl⟩
  | int n =>
      rw [isLineScalar, Value.storable, Bool.and_eq_true, decide_eq_true_eq,
        decide_eq_true_eq] at isScalar
      have wider : Int.pow 2 63 ≤ Int.pow 2 127 ∧ Int.pow 2 64 ≤ Int.pow 2 128 := by decide
      exact ⟨fun _ => rfl, .plain (isLine_intLine n), coreValue_intLine (by omega) (by omega)⟩
  | float x => cases isScalar
  | text s =>
      refine ⟨textLines_of_isLineText isScalar, spells_text isScalar, ?_⟩
      rw [scalarStyle, scalarContents]
      split
      · rename_i plain
        rw [if_pos rfl, coreValue_of_not_ambiguous (not_isAmbiguous_of_isPlain plain),
          String.ofList_toList]
      · rw [if_neg nofun, String.ofList_toList]
  | list items => cases isScalar
  | dict entries => cases isScalar

theorem isLineTree_of_isLineScalar (isScalar : isLineScalar value = true) :
    isLineTree depth value = true := by
  cases value with
  | dict entries => cases isScalar
  | _ => cases depth <;> exact isScalar

theorem isLineTree_dict {entries : List (String × Value)}
    (each : ∀ entry ∈ entries, isLineName entry.1 = true ∧ isLineTree depth entry.2 = true) :
    isLineTree (depth + 1) (.dict entries) = true :=
  List.all_eq_true.2 fun entry member => Bool.and_eq_true_iff.2 (each entry member)

/-- A value is a scalar, or a dictionary of named values. -/
theorem isLineTree_cases (isTree : isLineTree depth value = true) :
    isLineScalar value = true ∨ ∃ entries inner, value = .dict entries ∧ depth = inner + 1 ∧
      ∀ entry ∈ entries, isLineName entry.1 = true ∧ isLineTree inner entry.2 = true := by
  unfold isLineTree at isTree
  split at isTree
  · rename_i inner entries
    refine .inr ⟨entries, inner, rfl, rfl, fun entry member => ?_⟩
    exact Bool.and_eq_true_iff.1 (List.all_eq_true.1 isTree entry member)
  · exact .inl isTree

end

def linesText (lines : List Line) : List Char := lines.flatMap (· ++ ['\n'])

/-- What stands behind the colon of a key, up to the end of the entry. -/
def valueText (column : Nat) (afterFilled : Bool) : Value → List Char
  | .dict [] =>
      if afterFilled then '\n' :: (spaces (column + 2) ++ ['\x7b', '\x7d', '\n'])
      else [' ', '\x7b', '\x7d', '\n']
  | .dict (entry :: entries) =>
      '\n' :: linesText (entriesLines (column + 2) false (entry :: entries))
  | value => ' ' :: (scalarLine value ++ ['\n'])

section

variable {key : String} {value : Value} {depth column : Nat}

theorem linesText_append (first second : List Line) :
    linesText (first ++ second) = linesText first ++ linesText second := List.flatMap_append

theorem linesText_entryLines (isTree : isLineTree depth value = true) (afterFilled : Bool) :
    linesText (entryLines column afterFilled (key, value)) =
      spaces column ++ (keyLine key ++ ':' :: valueText column afterFilled value) := by
  rcases isLineTree_cases isTree with isScalar | ⟨entries, _, rfl, _⟩
  · have oneLine := (scalar_of_isLineScalar isScalar).1 (column + 2)
    cases value with
    | list items => cases isScalar
    | dict entries => cases isScalar
    | _ => simp [entryLines, isFilled, oneLine, linesText, valueText]
  · cases entries with
    | nil => cases afterFilled <;> simp [entryLines, isFilled, scalarLines, linesText, valueText]
    | cons entry entries => simp [entryLines, isFilled, partLines, linesText, valueText]

theorem valueText_scalar (isScalar : isLineScalar value = true) (column : Nat)
    (afterFilled : Bool) :
    valueText column afterFilled value = ' ' :: (scalarLine value ++ ['\n']) := by
  cases value with
  | dict entries => cases isScalar
  | _ => rfl

theorem isAllowed_spaces (count : Nat) : ∀ c ∈ spaces count, isAllowed c = true := by
  intro c member
  rw [List.eq_of_mem_replicate member]
  rfl

theorem isAllowed_entries {entries : List (String × Value)} (afterFilled : Bool)
    (inLines : ∀ entry ∈ entries, isLineName entry.1 = true ∧ isLineTree depth entry.2 = true)
    (allowed : ∀ entry ∈ entries, ∀ afterFilled, ∀ c ∈ valueText column afterFilled entry.2,
      isAllowed c = true) :
    ∀ c ∈ linesText (entriesLines column afterFilled entries), isAllowed c = true := by
  induction entries generalizing afterFilled with
  | nil => nofun
  | cons entry entries induction =>
      obtain ⟨⟨isName, isTree⟩, later⟩ := List.forall_mem_cons.1 inLines
      obtain ⟨allowedFirst, allowedLater⟩ := List.forall_mem_cons.1 allowed
      have keyAllowed := (spells_key isName).toSpells.isAllowed
      rw [entriesLines, linesText_append, linesText_entryLines isTree]
      simp only [List.forall_mem_append, List.forall_mem_cons]
      exact ⟨⟨isAllowed_spaces column, keyAllowed, rfl, allowedFirst afterFilled⟩,
        induction _ later allowedLater⟩

theorem isAllowed_scalarText (isScalar : isLineScalar value = true) (afterFilled : Bool) :
    ∀ c ∈ valueText column afterFilled value, isAllowed c = true := by
  have lineAllowed := (scalar_of_isLineScalar isScalar).2.1.isAllowed
  rw [valueText_scalar isScalar, List.forall_mem_cons, List.forall_mem_append]
  exact ⟨rfl, lineAllowed, List.forall_mem_singleton.2 rfl⟩

theorem isAllowed_valueText (isTree : isLineTree depth value = true) (afterFilled : Bool) :
    ∀ c ∈ valueText column afterFilled value, isAllowed c = true := by
  induction depth generalizing column value afterFilled with
  | zero =>
      rcases isLineTree_cases isTree with isScalar | ⟨_, _, _, isSucc, _⟩
      · exact isAllowed_scalarText isScalar afterFilled
      · cases isSucc
  | succ depth induction =>
      rcases isLineTree_cases isTree with isScalar | ⟨entries, _, rfl, isSucc, inLines⟩
      · exact isAllowed_scalarText isScalar afterFilled
      · obtain rfl := Nat.succ.inj isSucc
        cases entries with
        | nil =>
            cases afterFilled with
            | false =>
                rw [valueText, if_neg Bool.false_ne_true]
                exact List.all_eq_true.1 rfl
            | true =>
                rw [valueText, if_pos rfl, List.forall_mem_cons, List.forall_mem_append]
                exact ⟨rfl, isAllowed_spaces _, List.all_eq_true.1 rfl⟩
        | cons entry entries =>
            rw [valueText, List.forall_mem_cons]
            exact ⟨rfl, isAllowed_entries false inLines fun other member afterFilled =>
              induction (inLines other member).2 afterFilled⟩

end

end RpcRegistry.Yaml
