import RpcRegistry.Yaml.Folding
import RpcRegistry.Yaml.Lenient.Lexer

/-!
Plain scalars on one line. The lenient reader takes such a line up to its end, with the single
spaces and the colons in it, and leaves off before the next thing that stands in the text.
-/

namespace RpcRegistry.Yaml

open RpcRegistry.Text Printer

/-- A character that breaks no line and may stand in a lenient text. -/
def isLineChar (c : Char) : Bool := isAllowed c && !isBreak .lenient c && c ≠ '\ufeff'

/-- Words with single or several spaces between them. A reader of a plain scalar goes over all of
them: there is no comment and no end of a key among them. -/
structure IsWords (line : List Char) : Prop where
  nonempty : line ≠ []
  starts : line.head? ≠ some ' '
  ends : line.getLast? ≠ some ' '
  chars : ∀ c ∈ line, isLineChar c = true ∧ c ≠ '\t' ∧ c ≠ '#'
  noKey : hasKeyColon line = false

structure IsLine (line : List Char) : Prop extends IsWords line where
  safe : startsUnsafe line = false

structure IsKeyLine (line : List Char) : Prop extends IsLine line where
  oneWord : ' ' ∉ line
  noColon : ':' ∉ line
  short : line.length ≤ 1024

def StartsToken (text : List Char) : Prop :=
  ∀ c ∈ text.head?, isBlankOrBreak .lenient c = false ∧ c ≠ '#' ∧ c ≠ '\ufeff'

section

variable {word line more rest : List Char}

theorem StartsToken.cons {c : Char} (starts : StartsToken (c :: rest)) :
    isBlankOrBreak .lenient c = false ∧ c ≠ '#' ∧ c ≠ '\ufeff' :=
  starts c rfl

theorem length_spaces (count : Nat) : (spaces count).length = count := List.length_replicate

theorem spaces_succ (count : Nat) : spaces (count + 1) = ' ' :: spaces count := rfl

theorem hasKeyColon_of_append (noKey : hasKeyColon (word ++ more) = false) :
    hasKeyColon more = false := by
  induction word with
  | nil => exact noKey
  | cons c word induction => exact induction (Bool.or_eq_false_iff.1 noKey).2

/-- What follows a front part is words again, unless it starts with a space. -/
theorem IsWords.of_append (words : IsWords (word ++ more)) (nonempty : more ≠ [])
    (starts : more.head? ≠ some ' ') : IsWords more := by
  constructor
  · exact nonempty
  · exact starts
  · have ends := words.ends
    rwa [List.getLast?_append, List.getLast?_eq_some_getLast nonempty, Option.some_or,
      ← List.getLast?_eq_some_getLast nonempty] at ends
  · exact fun c member => words.chars c (List.mem_append_right _ member)
  · exact hasKeyColon_of_append words.noKey

theorem IsWords.notWhite (words : IsWords line) {c : Char} (member : c ∈ line)
    (notSpace : c ≠ ' ') : isBlankOrBreak .lenient c = false := by
  obtain ⟨isChar, notTab, _⟩ := words.chars c member
  simp only [isLineChar, Bool.and_eq_true, Bool.not_eq_true', decide_eq_true_eq] at isChar
  simp [isBlankOrBreak, isBlank, notSpace, notTab, isChar.1.2]

theorem IsKeyLine.notWhite (isKey : IsKeyLine line) {c : Char} (member : c ∈ line) :
    isBlankOrBreak .lenient c = false :=
  isKey.toIsWords.notWhite member fun isSpace => isKey.oneWord (isSpace ▸ member)

theorem IsWords.startsToken (words : IsWords line) (rest : List Char) :
    StartsToken (line ++ rest) := by
  obtain ⟨c, more, rfl⟩ := List.exists_cons_of_ne_nil words.nonempty
  intro first isFirst
  obtain rfl := Option.some.inj isFirst
  obtain ⟨isChar, _, notComment⟩ := words.chars c List.mem_cons_self
  refine ⟨words.notWhite List.mem_cons_self ?_, notComment, ?_⟩
  · exact fun isSpace => words.starts (congrArg some isSpace)
  · rintro rfl
    cases isChar

theorem StartsToken.notWhite (starts : StartsToken rest) :
    rest.head?.any (isBlankOrBreak .lenient) = false := by
  cases rest with
  | nil => rfl
  | cons c rest => exact starts.cons.1

/-- A text up to its first space, the spaces there, and what follows them. -/
theorem exists_split (text : List Char) : ∃ word count later,
    text = word ++ (spaces count ++ later) ∧ ' ' ∉ word ∧ later.head? ≠ some ' ' ∧
      (count = 0 → later = []) := by
  have cutWord := List.takeWhile_append_dropWhile (p := (· ≠ ' ')) (l := text)
  have oneWord : ' ' ∉ text.takeWhile (· ≠ ' ') := fun member =>
    absurd (List.all_eq_true.1 List.all_takeWhile _ member) (by decide)
  have stopped := List.head?_dropWhile_not (· ≠ ' ') text
  generalize text.takeWhile (· ≠ ' ') = word at cutWord oneWord
  generalize text.dropWhile (· ≠ ' ') = more at cutWord stopped
  subst cutWord
  cases more with
  | nil => exact ⟨word, 0, [], rfl, oneWord, nofun, fun _ => rfl⟩
  | cons c rest =>
      obtain rfl : c = ' ' := by simpa using stopped
      have cutSpaces := List.takeWhile_append_dropWhile (p := (· = ' ')) (l := rest)
      have areSpaces : rest.takeWhile (· = ' ') = spaces (rest.takeWhile (· = ' ')).length :=
        List.eq_replicate_of_mem fun c member =>
          of_decide_eq_true (List.all_eq_true.1 List.all_takeWhile c member)
      have started := List.head?_dropWhile_not (· = ' ') rest
      generalize (rest.takeWhile (· = ' ')).length = count at areSpaces
      rw [areSpaces] at cutSpaces
      generalize rest.dropWhile (· = ' ') = later at cutSpaces started
      subst cutSpaces
      refine ⟨word, count + 1, later, rfl, oneWord, fun isSpace => ?_, nofun⟩
      rw [isSpace] at started
      cases started

/-- The first word, and whatever words follow it. -/
theorem IsWords.exists_split (words : IsWords line) :
    ∃ word, word ≠ [] ∧ ' ' ∉ word ∧ (line = word ∨ ∃ count later,
      line = word ++ (spaces (count + 1) ++ later) ∧ IsWords later) := by
  obtain ⟨word, count, later, rfl, oneWord, laterStarts, atOnce⟩ := Yaml.exists_split line
  refine ⟨word, ?_, oneWord, ?_⟩
  · rintro rfl
    cases count with
    | zero => exact words.nonempty (by rw [atOnce rfl]; rfl)
    | succ count => exact words.starts rfl
  · cases count with
    | zero =>
        rw [atOnce rfl]
        exact .inl (List.append_nil word)
    | succ count =>
        refine .inr ⟨count, later, rfl, ?_⟩
        have nonempty : later ≠ [] := by
          rintro rfl
          apply words.ends
          have last : (spaces (count + 1)).getLast? = some ' ' := List.getLast?_replicate
          rw [List.append_nil, List.getLast?_append, last, Option.some_or]
        rw [← List.append_assoc] at words
        exact words.of_append nonempty laterStarts

end

namespace Lenient

section

variable {word line rest more tail : List Char} {index row column : Nat} {gap : Gap}
  {indent : Int}

theorem isWhiteSpace_of_isBlankOrBreak {c : Char} (white : isBlankOrBreak .lenient c = true) :
    isWhiteSpace c = true := by
  simp only [isBlankOrBreak, isBlank, isBreak, decide_true, Bool.true_and, Bool.or_eq_true,
    decide_eq_true_eq] at white
  rcases white with (rfl | rfl) | (rfl | rfl) | (rfl | rfl) | rfl <;> rfl

theorem continuesPlain_cons {c : Char} (notWhite : isBlankOrBreak .lenient c = false)
    (noKey : hasKeyColon (c :: more) = false) :
    continuesPlain false ⟨.lenient, c :: (more ++ rest), index, row, column⟩ = .ok true := by
  have notSpaced : (c = ':' &&
      Cursor.isSpaced ⟨.lenient, c :: (more ++ rest), index, row, column⟩ 1) = false := by
    by_cases colon : c = ':'
    · rw [hasKeyColon, decide_eq_true colon, Bool.true_and, Bool.or_eq_false_iff] at noKey
      cases more with
      | nil => cases noKey.1
      | cons d more =>
          have notWhite : isBlankOrBreak .lenient d = false := by
            rw [← Bool.not_eq_true]
            intro white
            have isWhite := isWhiteSpace_of_isBlankOrBreak white
            simp [isWhite] at noKey
          simp [Cursor.isSpaced, Cursor.peek?, notWhite]
    · rw [decide_eq_false colon, Bool.false_and]
  have notBreak :
      Cursor.atBlankOrBreak ⟨.lenient, c :: (more ++ rest), index, row, column⟩ = false :=
    notWhite
  unfold continuesPlain
  dsimp only
  rw [notBreak, notSpaced]
  rfl

theorem continuesPlain_white (white : rest.head?.any (isBlankOrBreak .lenient) = true) :
    continuesPlain false ⟨.lenient, rest, index, row, column⟩ = .ok false := by
  cases rest with
  | nil => rfl
  | cons c rest =>
      have atWhite : Cursor.atBlankOrBreak ⟨.lenient, c :: rest, index, row, column⟩ = true := white
      unfold continuesPlain
      dsimp only
      rw [if_pos atWhite]

/-- The reader goes on over a word up to the place where it stops. A colon in the word does not
stop it, because it ends no key. -/
theorem plainWord_append (chars : ∀ c ∈ word, isBlankOrBreak .lenient c = false)
    (noKey : hasKeyColon (word ++ more) = false)
    (stops : ∀ index column,
      continuesPlain false ⟨.lenient, more ++ rest, index, row, column⟩ = .ok false)
    {fuel : Nat} (enough : word.length ≤ fuel) (read : List Char) :
    plainWord false fuel read ⟨.lenient, word ++ (more ++ rest), index, row, column⟩ =
      .ok (read.reverse ++ word,
        ⟨.lenient, more ++ rest, index + word.length, row, column + word.length⟩) := by
  induction word generalizing index column fuel read with
  | nil =>
      rw [List.append_nil]
      cases fuel with
      | zero => rfl
      | succ fuel =>
          rw [plainWord, List.nil_append, stops]
          rfl
  | cons c word induction =>
      obtain ⟨fuel, rfl⟩ := Nat.exists_eq_add_of_le' (Nat.le_of_add_left_le enough)
      have goesOn : continuesPlain false
          ⟨.lenient, c :: (word ++ (more ++ rest)), index, row, column⟩ = .ok true := by
        rw [← List.append_assoc]
        exact continuesPlain_cons (chars c List.mem_cons_self) noKey
      rw [List.cons_append, hasKeyColon, Bool.or_eq_false_iff] at noKey
      have later : plainWord false fuel (c :: read)
          ⟨.lenient, word ++ (more ++ rest), index + 1, row, column + 1⟩ = _ :=
        induction (fun other member => chars other (List.mem_cons_of_mem _ member)) noKey.2
          (Nat.le_of_succ_le_succ enough) (c :: read)
      rw [List.reverse_cons, List.append_assoc, List.singleton_append] at later
      rw [List.length_cons, ← Nat.add_assoc, Nat.add_right_comm, ← Nat.add_assoc,
        Nat.add_right_comm column, ← later, List.cons_append, plainWord, goesOn]
      rfl

theorem Gap.read_token (notWhite : rest.head?.any (isBlankOrBreak .lenient) = false) (fuel : Nat) :
    gap.read indent false fuel ⟨.lenient, rest, index, row, column⟩ =
      .ok (gap, ⟨.lenient, rest, index, row, column⟩) := by
  cases fuel with
  | zero => rfl
  | succ fuel =>
      cases rest with
      | nil => rfl
      | cons c rest =>
          obtain ⟨notBlank, notBreak⟩ := Bool.or_eq_false_iff.1 notWhite
          have notAtBreak : Cursor.atBreak ⟨.lenient, c :: rest, index, row, column⟩ = false :=
            notBreak
          unfold Gap.read
          dsimp only
          rw [notAtBreak, notBlank]
          rfl

theorem Gap.read_space (fuel : Nat) :
    gap.read indent false (fuel + 1) ⟨.lenient, ' ' :: rest, index, row, column⟩ =
      (gap.addBlank ' ').read indent false fuel
        ⟨.lenient, rest, index + 1, row, column + 1⟩ := by
  have notAtBreak : Cursor.atBreak ⟨.lenient, ' ' :: rest, index, row, column⟩ = false := rfl
  have notTab : ¬(gap.broken = true ∧ (column : Int) < indent ∧ ' ' = '\t') :=
    fun isTab => absurd isTab.2.2 (by decide)
  rw [Gap.read]
  dsimp only
  rw [notAtBreak, if_neg nofun, if_neg nofun, if_neg notTab]
  rfl

/-- Spaces on a line are kept, those in front of one are not. -/
theorem Gap.read_spaces {count : Nat} (notWhite : rest.head?.any (isBlankOrBreak .lenient) = false)
    {fuel : Nat} (enough : count ≤ fuel) :
    gap.read indent false fuel ⟨.lenient, spaces count ++ rest, index, row, column⟩ =
      .ok (if gap.broken then gap else { gap with blanks := gap.blanks ++ spaces count },
        ⟨.lenient, rest, index + count, row, column + count⟩) := by
  induction count generalizing gap index column fuel with
  | zero =>
      have same : spaces 0 = [] := rfl
      rw [same, List.nil_append, Gap.read_token notWhite]
      simp
  | succ count induction =>
      obtain ⟨fuel, rfl⟩ := Nat.exists_eq_add_of_le' (Nat.le_of_add_left_le enough)
      rw [spaces_succ, List.cons_append, Gap.read_space, induction (Nat.le_of_succ_le_succ enough)]
      cases isBroken : gap.broken <;>
        simp [Gap.addBlank, isBroken, Nat.add_comm, Nat.add_left_comm]

/-- After the end of a line the reader stands behind the spaces in front of the next one. -/
theorem Gap.read_break {count : Nat} (starts : StartsToken rest) {fuel : Nat}
    (enough : count ≤ fuel) :
    Gap.none.read indent false (fuel + 1)
        ⟨.lenient, '\n' :: (spaces count ++ rest), index, row, column⟩ =
      .ok (⟨[], ['\n'], [], true⟩, ⟨.lenient, rest, index + 1 + count, row + 1, count⟩) := by
  have step : (⟨[], ['\n'], [], true⟩ : Gap).read indent false fuel
      ⟨.lenient, spaces count ++ rest, index + 1, row + 1, 0⟩ = _ :=
    Gap.read_spaces starts.notWhite enough
  rw [Nat.zero_add] at step
  exact step

/-- One word of a plain scalar and the white space behind it. -/
theorem plain_word {next : Cursor} {found : Gap} (nonempty : word ≠ [])
    (chars : ∀ c ∈ word, isBlankOrBreak .lenient c = false) (noComment : word.head? ≠ some '#')
    (noKey : hasKeyColon (word ++ more) = false) (positive : 0 < column)
    (white : (more ++ rest).head?.any (isBlankOrBreak .lenient) = true)
    (isGap : Gap.none.read indent false (more ++ rest).length
      ⟨.lenient, more ++ rest, index + word.length, row, column + word.length⟩ = .ok (found, next))
    (fuel : Nat) (contents : List Char) :
    plain false indent (fuel + 1) contents gap
        ⟨.lenient, word ++ (more ++ rest), index, row, column⟩ =
      if (next.column : Int) < indent then
        .ok ⟨contents ++ gap.folded ++ word, next, found.broken⟩
      else plain false indent fuel (contents ++ gap.folded ++ word) found next := by
  have inText : (Cursor.atDocumentMark ⟨.lenient, word ++ (more ++ rest), index, row, column⟩ ||
      Cursor.isAt ⟨.lenient, word ++ (more ++ rest), index, row, column⟩ '#') = false := by
    simp [Cursor.atDocumentMark, Cursor.atMark, Cursor.isAt, Nat.ne_of_gt positive, noComment,
      nonempty]
  have stops : ∀ index column,
      continuesPlain false ⟨.lenient, more ++ rest, index, row, column⟩ = .ok false :=
    fun _ _ => continuesPlain_white white
  have isWord : plainWord false (word ++ (more ++ rest)).length []
      ⟨.lenient, word ++ (more ++ rest), index, row, column⟩ = _ :=
    plainWord_append chars noKey stops (by simp) []
  have atWhite : Cursor.atBlankOrBreak
      ⟨.lenient, more ++ rest, index + word.length, row, column + word.length⟩ = true := white
  rw [plain, inText, if_neg nofun, isWord]
  dsimp only [bind, Except.bind]
  rw [List.reverse_nil, List.nil_append, if_neg nonempty, if_neg nonempty, if_pos atWhite, isGap]
  dsimp only
  simp only [Bool.not_false, Bool.true_and, decide_eq_true_eq]

/-- The last word of a line, with the next line indented less than the scalar. -/
theorem plain_last (nonempty : word ≠ []) (chars : ∀ c ∈ word, isBlankOrBreak .lenient c = false)
    (noComment : word.head? ≠ some '#') (noKey : hasKeyColon word = false) (positive : 0 < column)
    {count : Nat} (starts : StartsToken rest) (outside : (count : Int) < indent) (fuel : Nat)
    (contents : List Char) :
    plain false indent (fuel + 1) contents gap
        ⟨.lenient, word ++ '\n' :: (spaces count ++ rest), index, row, column⟩ =
      .ok ⟨contents ++ gap.folded ++ word,
        ⟨.lenient, rest, index + word.length + 1 + count, row + 1, count⟩, true⟩ := by
  have isGap : Gap.none.read indent false ([] ++ '\n' :: (spaces count ++ rest)).length ⟨.lenient,
      [] ++ '\n' :: (spaces count ++ rest), index + word.length, row, column + word.length⟩ = _ :=
    Gap.read_break starts (by simp [length_spaces])
  rw [← List.append_nil word] at noKey
  refine (plain_word nonempty chars noComment noKey positive rfl isGap fuel contents).trans ?_
  exact if_pos outside

/-- A word of a line that spaces and more words follow. -/
theorem plain_spaces (nonempty : word ≠ [])
    (chars : ∀ c ∈ word, isBlankOrBreak .lenient c = false) (noComment : word.head? ≠ some '#')
    {count : Nat} (noKey : hasKeyColon (word ++ (spaces (count + 1) ++ more)) = false)
    (inside : indent ≤ column) (positive : 0 < column)
    (notWhite : (more ++ rest).head?.any (isBlankOrBreak .lenient) = false) (fuel : Nat)
    (contents : List Char) :
    plain false indent (fuel + 1) contents gap
        ⟨.lenient, word ++ (spaces (count + 1) ++ (more ++ rest)), index, row, column⟩ =
      plain false indent fuel (contents ++ gap.folded ++ word) ⟨spaces (count + 1), [], [], false⟩
        ⟨.lenient, more ++ rest, index + word.length + (count + 1), row,
          column + word.length + (count + 1)⟩ := by
  have isGap : Gap.none.read indent false (spaces (count + 1) ++ (more ++ rest)).length ⟨.lenient,
      spaces (count + 1) ++ (more ++ rest), index + word.length, row, column + word.length⟩ = _ :=
    Gap.read_spaces notWhite (by simp [length_spaces])
  rw [← List.append_assoc (spaces _)] at isGap ⊢
  refine (plain_word nonempty chars noComment noKey positive rfl isGap fuel contents).trans ?_
  exact if_neg (by dsimp only; omega)

/-- A line in a block, with the next line indented less than the scalar, is one scalar. -/
theorem plain_line (words : IsWords line) {count : Nat} (starts : StartsToken rest)
    (inside : indent ≤ column) (positive : 0 < column) (outside : (count : Int) < indent)
    {fuel : Nat} (enough : line.length < fuel) (contents : List Char) :
    ∃ index', plain false indent fuel contents gap
        ⟨.lenient, line ++ '\n' :: (spaces count ++ rest), index, row, column⟩ =
      .ok ⟨contents ++ gap.folded ++ line, ⟨.lenient, rest, index', row + 1, count⟩, true⟩ := by
  induction fuel generalizing line index column gap contents with
  | zero => cases enough
  | succ fuel induction =>
      obtain ⟨word, nonempty, noSpace, split⟩ := words.exists_split
      have chars : ∀ c ∈ word, c ∈ line := by
        rcases split with rfl | ⟨_, _, rfl, _⟩
        · exact fun c member => member
        · exact fun c member => List.mem_append_left _ member
      have notWhite : ∀ c ∈ word, isBlankOrBreak .lenient c = false := fun c member =>
        words.notWhite (chars c member) fun isSpace => noSpace (isSpace ▸ member)
      have noComment : word.head? ≠ some '#' := fun isComment =>
        (words.chars '#' (chars _ (List.mem_of_mem_head? isComment))).2.2 rfl
      rcases split with rfl | ⟨blanks, later, rfl, laterWords⟩
      · exact ⟨_, plain_last nonempty notWhite noComment words.noKey positive starts outside fuel
          contents⟩
      · have laterStarts := laterWords.startsToken ('\n' :: (spaces count ++ rest))
        have fewer : later.length < fuel := by
          have wordPositive := List.length_pos_iff.2 nonempty
          simp only [List.length_append] at enough
          omega
        obtain ⟨index', isLater⟩ : ∃ index', plain false indent fuel
            (contents ++ gap.folded ++ word) ⟨spaces (blanks + 1), [], [], false⟩ ⟨.lenient,
            later ++ '\n' :: (spaces count ++ rest), index + word.length + (blanks + 1), row,
            column + word.length + (blanks + 1)⟩ =
            .ok ⟨_, ⟨.lenient, rest, index', row + 1, count⟩, true⟩ :=
          induction laterWords (by omega) (by omega) fewer _
        refine ⟨index', ?_⟩
        rw [List.append_assoc, List.append_assoc, plain_spaces nonempty notWhite noComment
          words.noKey inside positive laterStarts.notWhite, isLater]
        simp only [List.append_assoc]
        rfl

/-- No line that starts with a key is the mark of a document. -/
theorem atDocumentMark_key (isKey : IsKeyLine line) :
    Cursor.atDocumentMark ⟨.lenient, line ++ ':' :: rest, index, row, column⟩ = false := by
  have others : ∀ mark : Char, mark ≠ ':' →
      Cursor.showsMark ⟨.lenient, line ++ ':' :: rest, index, row, column⟩ mark = false := by
    intro mark notColon
    match line, isKey with
    | [], isKey => exact absurd rfl isKey.nonempty
    | [_], _ => simp [Cursor.showsMark, notColon.symm]
    | [_, _], _ => simp [Cursor.showsMark, notColon.symm]
    | [_, _, _], _ =>
        have notWhite : isBlankOrBreak .lenient ':' = false := rfl
        simp [Cursor.showsMark, Cursor.isSpaced, Cursor.peek?, notWhite]
    | _ :: _ :: _ :: c :: _, isKey =>
        have notWhite := isKey.notWhite (c := c) (by simp)
        simp [Cursor.showsMark, Cursor.isSpaced, Cursor.peek?, notWhite]
  rw [Cursor.atDocumentMark, Cursor.atMark, Cursor.atMark, others '-' (by decide),
    others '.' (by decide), Bool.and_false]
  rfl

/-- A key is one scalar, up to the colon behind it. -/
theorem plain_key (isKey : IsKeyLine line)
    (spaced : rest.head?.all (isBlankOrBreak .lenient) = true) (fuel : Nat) :
    plain false indent (fuel + 1) [] .none ⟨.lenient, line ++ ':' :: rest, index, row, column⟩ =
      .ok ⟨line, ⟨.lenient, ':' :: rest, index + line.length, row, column + line.length⟩,
        false⟩ := by
  have stops : ∀ index column,
      continuesPlain false ⟨.lenient, [] ++ ':' :: rest, index, row, column⟩ = .ok false := by
    intro index column
    have isSpaced : Cursor.isSpaced ⟨.lenient, ':' :: rest, index, row, column⟩ 1 = true := by
      rw [List.head?_eq_getElem?] at spaced
      exact spaced
    have notWhite : Cursor.atBlankOrBreak ⟨.lenient, ':' :: rest, index, row, column⟩ = false := rfl
    unfold continuesPlain
    rw [List.nil_append]
    dsimp only
    rw [notWhite, isSpaced]
    rfl
  have noKey : hasKeyColon (line ++ []) = false := by
    rw [List.append_nil]
    exact isKey.noKey
  have isWord : plainWord false (line ++ ':' :: rest).length []
      ⟨.lenient, line ++ ([] ++ ':' :: rest), index, row, column⟩ = _ :=
    plainWord_append (fun c member => isKey.notWhite member) noKey stops (by simp) []
  have noComment : Cursor.isAt ⟨.lenient, line ++ ':' :: rest, index, row, column⟩ '#' = false := by
    obtain ⟨c, more, rfl⟩ := List.exists_cons_of_ne_nil isKey.nonempty
    simpa [Cursor.isAt] using (isKey.chars c List.mem_cons_self).2.2
  rw [List.nil_append] at isWord
  rw [plain, atDocumentMark_key isKey, noComment, if_neg nofun, isWord]
  dsimp only [bind, Except.bind]
  rw [List.reverse_nil, List.nil_append, if_neg isKey.nonempty, if_neg isKey.nonempty]
  rfl

end

end Lenient

end RpcRegistry.Yaml
