import RpcRegistry.Proofs.Yaml.Lines

/-!
Texts in double quotes. Tabs, quotes and backslashes are escaped, so a reader stops in them only at
spaces, keeps those, and leaves off behind the closing quote.
-/

namespace RpcRegistry.Yaml

open Printer

section

variable {c : Char} {text : List Char}

theorem isBlankOrBreak_of_isLineChar (isChar : isLineChar c = true) :
    isBlankOrBreak .lenient c = isBlank c := by
  simp only [isLineChar, Bool.and_eq_true, Bool.not_eq_true'] at isChar
  rw [isBlankOrBreak, isChar.1.2, Bool.or_false]

/-- Of the controls only tabs and line breaks may stand in a text. -/
theorem escapeLetter_of_isControl (isChar : isLineChar c = true) (control : isControl c = true) :
    (escapeLetter? c).isSome := by
  have each : ∀ code < 0xa0, isLineChar (Char.ofNat code) = true →
      isControl (Char.ofNat code) = true → (escapeLetter? (Char.ofNat code)).isSome := by
    decide +kernel
  have within : c.toNat < 0xa0 := by
    simp only [isControl, Bool.or_eq_true, Bool.and_eq_true, decide_eq_true_eq] at control
    omega
  rw [← Char.ofNat_toNat c] at isChar control ⊢
  exact each _ within isChar control

theorem escape_of_escapeLetter {letter : Char} (isLetter : escapeLetter? c = some letter) :
    simpleEscape? letter = some c ∧ isBreak .lenient letter = false ∧
      isAllowed letter = true := by
  unfold escapeLetter? at isLetter
  split at isLetter <;> cases isLetter <;> exact ⟨rfl, rfl, rfl⟩

theorem escapedChar_of_letter {letter : Char} (isLetter : escapeLetter? c = some letter) :
    escapedChar c = ['\\', letter] := by
  rw [escapedChar, isLetter]

theorem escapedChar_of_none (isChar : isLineChar c = true) (noLetter : escapeLetter? c = none) :
    escapedChar c = [c] := by
  have notControl : isControl c = false := by
    rw [← Bool.not_eq_true]
    intro control
    have isLetter := escapeLetter_of_isControl isChar control
    rw [noLetter] at isLetter
    cases isLetter
  have notMark : c ≠ '\ufeff' := by
    rintro rfl
    cases isChar
  rw [escapedChar, noLetter]
  dsimp only
  rw [if_neg notMark, if_neg (Bool.eq_false_iff.1 notControl)]

/-- A character without a letter stands for itself, and ends neither a word nor the text. -/
theorem not_mark_of_none (noLetter : escapeLetter? c = none) : c ≠ '"' ∧ c ≠ '\\' ∧ c ≠ '\t' := by
  refine ⟨?_, ?_, ?_⟩ <;> rintro rfl <;> cases noLetter

theorem marked_of_escapeLetter {letter : Char} (isChar : isLineChar c = true)
    (isLetter : escapeLetter? c = some letter) :
    ['\t', '\n', '\r', '"', '\\'].contains c = true := by
  unfold escapeLetter? at isLetter
  split at isLetter <;> first | rfl | cases isChar | cases isLetter

theorem escapedKeyChar_eq (isChar : isLineChar c = true) : escapedKeyChar c = escapedChar c := by
  cases isLetter : escapeLetter? c with
  | none =>
      have notControl : ¬isControl c = true := fun control => by
        have hasLetter := escapeLetter_of_isControl isChar control
        rw [isLetter] at hasLetter
        cases hasLetter
      rw [escapedKeyChar, if_neg notControl, escapedChar_of_none isChar isLetter, ite_self]
  | some letter => rw [escapedKeyChar, if_pos (marked_of_escapeLetter isChar isLetter)]

theorem length_le_escaped (text : List Char) : text.length ≤ (text.flatMap escapedChar).length := by
  induction text with
  | nil => exact Nat.le_refl 0
  | cons c text induction =>
      have positive : 0 < (escapedChar c).length := by
        unfold escapedChar
        split
        · exact Nat.succ_pos 1
        · split
          · decide
          · split <;> simp
      rw [List.flatMap_cons, List.length_append, List.length_cons]
      omega

theorem isAllowed_doubleQuoted (chars : ∀ c ∈ text, isLineChar c = true) :
    ∀ c ∈ doubleQuoted text, isAllowed c = true := by
  have each : ∀ c ∈ text, ∀ d ∈ escapedChar c, isAllowed d = true := by
    intro c member
    cases isLetter : escapeLetter? c with
    | none =>
        have isChar := chars c member
        rw [escapedChar_of_none isChar isLetter, List.forall_mem_singleton]
        simp only [isLineChar, Bool.and_eq_true] at isChar
        exact isChar.1.1
    | some letter =>
        rw [escapedChar_of_letter isLetter]
        exact List.forall_mem_cons.2
          ⟨rfl, List.forall_mem_singleton.2 (escape_of_escapeLetter isLetter).2.2⟩
  rw [doubleQuoted, List.cons_append, List.forall_mem_cons, List.forall_mem_append]
  refine ⟨rfl, fun d member => ?_, List.forall_mem_singleton.2 rfl⟩
  obtain ⟨c, inText, isPart⟩ := List.mem_flatMap.1 member
  exact each c inText d isPart

theorem StartsToken.of_cons {rest : List Char} (notWhite : isBlankOrBreak .lenient c = false)
    (notComment : c ≠ '#') (notMark : c ≠ '\ufeff') : StartsToken (c :: rest) := by
  intro first isFirst
  obtain rfl := Option.some.inj isFirst
  exact ⟨notWhite, notComment, notMark⟩

/-- A line that stands for one scalar in a block. -/
inductive Spells : (line : List Char) → Style → (contents : List Char) → Prop where
  | plain {line : List Char} (isLine : IsLine line) : Spells line .plain line
  | quoted {text : List Char} (chars : ∀ c ∈ text, isLineChar c = true) :
      Spells (doubleQuoted text) .quoted text

inductive SpellsKey : (line : List Char) → Style → (contents : List Char) → Prop where
  | plain {line : List Char} (isKey : IsKeyLine line) : SpellsKey line .plain line
  | quoted {text : List Char} (chars : ∀ c ∈ text, isLineChar c = true)
      (short : (doubleQuoted text).length ≤ 1024) : SpellsKey (doubleQuoted text) .quoted text

section

variable {line contents : List Char} {style : Style}

theorem SpellsKey.toSpells (spells : SpellsKey line style contents) :
    Spells line style contents := by
  cases spells with
  | plain isKey => exact .plain isKey.toIsLine
  | quoted chars _ => exact .quoted chars

theorem SpellsKey.short (spells : SpellsKey line style contents) : line.length ≤ 1024 := by
  cases spells with
  | plain isKey => exact isKey.short
  | quoted _ short => exact short

theorem Spells.nonempty (spells : Spells line style contents) : line ≠ [] := by
  cases spells with
  | plain isLine => exact isLine.nonempty
  | quoted _ => exact List.cons_ne_nil _ _

theorem Spells.startsToken (spells : Spells line style contents) (rest : List Char) :
    StartsToken (line ++ rest) := by
  cases spells with
  | plain isLine => exact isLine.startsToken rest
  | quoted _ => exact .of_cons rfl (by decide) (by decide)

theorem Spells.isAllowed (spells : Spells line style contents) :
    ∀ c ∈ line, isAllowed c = true := by
  cases spells with
  | plain isLine =>
      intro c member
      have isChar := (isLine.chars c member).1
      simp only [isLineChar, Bool.and_eq_true] at isChar
      exact isChar.1.1
  | quoted chars => exact isAllowed_doubleQuoted chars

end

end

namespace Lenient

section

variable {word text rest : List Char} {index row column : Nat}

theorem quotedWord_done (stops : rest.head?.any (fun c => c = ' ' || c = '"') = true) (fuel : Nat)
    (read : List Char) :
    quotedWord '"' fuel read ⟨.lenient, rest, index, row, column⟩ =
      .ok (read.reverse, ⟨.lenient, rest, index, row, column⟩, false) := by
  cases fuel with
  | zero => rfl
  | succ fuel =>
      cases rest with
      | nil => cases stops
      | cons c rest =>
          rcases Bool.or_eq_true_iff.1 stops with isSpace | isQuote
          · obtain rfl := of_decide_eq_true isSpace
            rfl
          · obtain rfl := of_decide_eq_true isQuote
            rfl

theorem quotedWord_escape {c letter : Char} (isEscape : simpleEscape? letter = some c)
    (notBreak : isBreak .lenient letter = false) (fuel : Nat) (read : List Char) :
    quotedWord '"' (fuel + 1) read ⟨.lenient, '\\' :: letter :: rest, index, row, column⟩ =
      quotedWord '"' fuel (c :: read) ⟨.lenient, rest, index + 2, row, column + 2⟩ := by
  have escaped : escape ⟨.lenient, '\\' :: letter :: rest, index, row, column⟩ =
      .ok (c, ⟨.lenient, rest, index + 2, row, column + 2⟩) := by
    simp [escape, Cursor.peek?, isEscape, Cursor.advance]
  have notWhite :
      Cursor.atBlankOrBreak ⟨.lenient, '\\' :: letter :: rest, index, row, column⟩ = false := rfl
  rw [quotedWord]
  dsimp only
  rw [notWhite, if_neg Bool.false_ne_true, if_neg (by decide), if_pos (by decide)]
  refine (if_neg (Bool.eq_false_iff.1 notBreak)).trans ?_
  rw [escaped]

/-- One character of the text, as it is or escaped. -/
theorem quotedWord_char {c : Char} (isChar : isLineChar c = true) (notSpace : c ≠ ' ') (fuel : Nat)
    (read : List Char) :
    quotedWord '"' (fuel + 1) read ⟨.lenient, escapedChar c ++ rest, index, row, column⟩ =
      quotedWord '"' fuel (c :: read) ⟨.lenient, rest, index + (escapedChar c).length, row,
        column + (escapedChar c).length⟩ := by
  cases isLetter : escapeLetter? c with
  | none =>
      obtain ⟨notQuote, notEscape, notTab⟩ := not_mark_of_none isLetter
      have notBlank : isBlank c = false := by simp [isBlank, notSpace, notTab]
      have notWhite :
          Cursor.atBlankOrBreak ⟨.lenient, c :: rest, index, row, column⟩ = false :=
        (isBlankOrBreak_of_isLineChar isChar).trans notBlank
      rw [escapedChar_of_none isChar isLetter, List.singleton_append, quotedWord]
      dsimp only
      rw [notWhite, if_neg Bool.false_ne_true, if_neg notQuote, if_neg (by simp [notEscape])]
      rfl
  | some letter =>
      obtain ⟨isEscape, notBreak, _⟩ := escape_of_escapeLetter isLetter
      rw [escapedChar_of_letter isLetter]
      exact quotedWord_escape isEscape notBreak fuel read

/-- The reader goes over a word and its escapes up to a space or the closing quote. -/
theorem quotedWord_append (chars : ∀ c ∈ word, isLineChar c = true) (oneWord : ' ' ∉ word)
    (stops : rest.head?.any (fun c => c = ' ' || c = '"') = true) {fuel : Nat}
    (enough : word.length ≤ fuel) (read : List Char) :
    quotedWord '"' fuel read ⟨.lenient, word.flatMap escapedChar ++ rest, index, row, column⟩ =
      .ok (read.reverse ++ word, ⟨.lenient, rest, index + (word.flatMap escapedChar).length, row,
        column + (word.flatMap escapedChar).length⟩, false) := by
  induction word generalizing index column fuel read with
  | nil =>
      rw [List.append_nil]
      exact quotedWord_done stops fuel read
  | cons c word induction =>
      obtain ⟨fuel, rfl⟩ := Nat.exists_eq_add_of_le' (Nat.le_of_add_left_le enough)
      obtain ⟨isChar, laterChars⟩ := List.forall_mem_cons.1 chars
      obtain ⟨notSpace, laterWord⟩ := not_or.1 (mt List.mem_cons.2 oneWord)
      rw [List.flatMap_cons, List.append_assoc, quotedWord_char isChar (Ne.symm notSpace),
        induction laterChars laterWord (Nat.le_of_succ_le_succ enough), List.reverse_cons,
        List.append_assoc, List.singleton_append, List.length_append, Nat.add_assoc, Nat.add_assoc]

theorem notWhite_quoted (chars : ∀ c ∈ text, isLineChar c = true) (starts : text.head? ≠ some ' ') :
    (text.flatMap escapedChar ++ '"' :: rest).head?.any (isBlankOrBreak .lenient) = false := by
  cases text with
  | nil => rfl
  | cons c text =>
      have isChar := chars c List.mem_cons_self
      rw [List.flatMap_cons]
      cases isLetter : escapeLetter? c with
      | none =>
          have notSpace : c ≠ ' ' := fun isSpace => starts (congrArg some isSpace)
          have notTab := (not_mark_of_none isLetter).2.2
          rw [escapedChar_of_none isChar isLetter]
          refine (isBlankOrBreak_of_isLineChar isChar).trans ?_
          simp [isBlank, notSpace, notTab]
      | some letter =>
          rw [escapedChar_of_letter isLetter]
          rfl

theorem flatMap_spaces (count : Nat) : (spaces count).flatMap escapedChar = spaces count := by
  induction count with
  | zero => rfl
  | succ count induction =>
      rw [spaces_succ, List.flatMap_cons, induction]
      rfl

theorem doubleQuoted_append (text rest : List Char) :
    doubleQuoted text ++ rest = '"' :: (text.flatMap escapedChar ++ '"' :: rest) := by
  simp [doubleQuoted]

theorem length_doubleQuoted (text : List Char) :
    (doubleQuoted text).length = (text.flatMap escapedChar).length + 2 := by
  simp [doubleQuoted]

/-- The first word of a text, and what is read on behind it. -/
theorem quoted_word (chars : ∀ c ∈ word, isLineChar c = true) (oneWord : ' ' ∉ word)
    (stops : rest.head?.any (fun c => c = ' ' || c = '"') = true) (positive : 0 < column)
    (fuel : Nat) (contents : List Char) :
    quoted '"' (fuel + 1) contents
        ⟨.lenient, word.flatMap escapedChar ++ rest, index, row, column⟩ =
      let afterWord : Cursor := ⟨.lenient, rest, index + (word.flatMap escapedChar).length, row,
        column + (word.flatMap escapedChar).length⟩
      if afterWord.isAt '"' then .ok ⟨contents ++ word, afterWord.skip, false⟩
      else (do
        let (gap, next) ← Gap.none.read (-1) false rest.length afterWord
        quoted '"' fuel (contents ++ word ++ gap.folded) next) := by
  have inText :
      (Cursor.atDocumentMark ⟨.lenient, word.flatMap escapedChar ++ rest, index, row, column⟩ ||
        Cursor.atEnd ⟨.lenient, word.flatMap escapedChar ++ rest, index, row, column⟩) = false := by
    have notEmpty : rest ≠ [] := by
      rintro rfl
      cases stops
    simp [Cursor.atDocumentMark, Cursor.atMark, Cursor.atEnd, Nat.ne_of_gt positive, notEmpty]
  have enough : word.length ≤ (word.flatMap escapedChar ++ rest).length := by
    rw [List.length_append]
    exact Nat.le_add_right_of_le (length_le_escaped word)
  rw [quoted, inText, if_neg Bool.false_ne_true, quotedWord_append chars oneWord stops enough]
  rfl

theorem quoted_last (chars : ∀ c ∈ word, isLineChar c = true) (oneWord : ' ' ∉ word)
    (positive : 0 < column) (fuel : Nat) (contents : List Char) :
    quoted '"' (fuel + 1) contents
        ⟨.lenient, word.flatMap escapedChar ++ '"' :: rest, index, row, column⟩ =
      .ok ⟨contents ++ word, ⟨.lenient, rest, index + (word.flatMap escapedChar).length + 1, row,
        column + (word.flatMap escapedChar).length + 1⟩, false⟩ :=
  quoted_word chars oneWord rfl positive fuel contents

/-- A word that spaces follow: they are kept, since no line ends among them. -/
theorem quoted_spaces (chars : ∀ c ∈ word, isLineChar c = true) (oneWord : ' ' ∉ word)
    (notWhite : rest.head?.any (isBlankOrBreak .lenient) = false) (positive : 0 < column)
    (count fuel : Nat) (contents : List Char) :
    quoted '"' (fuel + 1) contents
        ⟨.lenient, word.flatMap escapedChar ++ (spaces (count + 1) ++ rest), index, row, column⟩ =
      quoted '"' fuel (contents ++ word ++ spaces (count + 1)) ⟨.lenient, rest,
        index + (word.flatMap escapedChar).length + (count + 1), row,
        column + (word.flatMap escapedChar).length + (count + 1)⟩ := by
  have isGap : Gap.none.read (-1) false (spaces (count + 1) ++ rest).length ⟨.lenient,
      spaces (count + 1) ++ rest, index + (word.flatMap escapedChar).length, row,
      column + (word.flatMap escapedChar).length⟩ = _ :=
    Gap.read_spaces notWhite (by simp [length_spaces])
  rw [quoted_word chars oneWord rfl positive]
  -- Behind the word stands a space, and not the closing quote.
  refine (if_neg Bool.false_ne_true).trans ?_
  rw [isGap]
  rfl

/-- A text is read from its quoted form, up to and past the closing quote. The reader goes from
word to word, so the induction is on how many words it may still read. -/
theorem quoted_text (chars : ∀ c ∈ text, isLineChar c = true) (positive : 0 < column) {fuel : Nat}
    (enough : text.length < fuel) (contents : List Char) :
    quoted '"' fuel contents
        ⟨.lenient, text.flatMap escapedChar ++ '"' :: rest, index, row, column⟩ =
      .ok ⟨contents ++ text, ⟨.lenient, rest, index + (text.flatMap escapedChar).length + 1, row,
        column + (text.flatMap escapedChar).length + 1⟩, false⟩ := by
  induction fuel generalizing text index column contents with
  | zero => cases enough
  | succ fuel induction =>
      obtain ⟨word, count, later, rfl, oneWord, laterStarts, atOnce⟩ := exists_split text
      obtain ⟨wordChars, moreChars⟩ := List.forall_mem_append.1 chars
      obtain ⟨_, laterChars⟩ := List.forall_mem_append.1 moreChars
      simp only [List.length_append, length_spaces] at enough
      cases count with
      | zero =>
          obtain rfl := atOnce rfl
          rw [spaces, List.replicate_zero, List.append_nil, List.append_nil]
          exact quoted_last wordChars oneWord positive fuel contents
      | succ count =>
          have notWhite : (later.flatMap escapedChar ++ '"' :: rest).head?.any
              (isBlankOrBreak .lenient) = false := notWhite_quoted laterChars laterStarts
          simp only [List.flatMap_append, flatMap_spaces, List.append_assoc]
          rw [quoted_spaces wordChars oneWord notWhite positive,
            induction laterChars (by omega) (by omega)]
          simp [length_spaces, Nat.add_assoc]

end

end Lenient

end RpcRegistry.Yaml
