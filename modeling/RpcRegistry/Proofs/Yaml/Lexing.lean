import RpcRegistry.Proofs.Yaml.Quoted

/-!
How the lenient lexer goes over lines of keys and plain scalars. Between two lines it waits in front
of a token, with the blocks still open that the next line may close; so what a text is read as is
told from its end, by what the lexer makes of the rest.
-/

namespace RpcRegistry.Yaml.Lenient.Lexer

open Printer

def indentOf : List Nat → Int
  | [] => -1
  | column :: _ => column

def enclosingOf : List Nat → List Int
  | [] => []
  | _ :: columns => columns.map (fun column : Nat => (column : Int)) ++ [-1]

def inBlocks (cursor : Cursor) (tokens : List Token) (columns : List Nat) (keyAllowed : Bool) :
    Lexer :=
  ⟨cursor, tokens, indentOf columns, enclosingOf columns, none, [], keyAllowed⟩

/-- The lexer before the next token, which may still close blocks. -/
def approach (lexer : Lexer) : Except Problem Lexer :=
  (lexer.toNextToken (lexer.cursor.rest.length + 1)).dropStaleKeys

section

variable {rest : List Char} {index row column count : Nat} {tokens : List Token}
  {columns deeper : List Nat} {indent : Int} {enclosing : List Int} {pending : Option PendingKey}
  {keys : List (Option PendingKey)} {keyAllowed : Bool}

theorem step_of_approach {lexer next closed : Lexer} (isNext : lexer.approach = .ok next)
    (isClosed : next.closeBlocks next.cursor.column = closed) :
    lexer.step = match closed.cursor.rest with
      | [] => (closed.closeBlocks (-1)).dropKey
      | c :: _ => closed.token c := by
  subst isClosed
  have unfolded : lexer.step = lexer.approach >>= fun next =>
      match (next.closeBlocks next.cursor.column).cursor.rest with
      | [] => ((next.closeBlocks next.cursor.column).closeBlocks (-1)).dropKey
      | c :: _ => (next.closeBlocks next.cursor.column).token c := rfl
  rw [unfolded, isNext]
  rfl

theorem indent_cons (columns : List Nat) :
    indentOf columns :: enclosingOf columns =
      columns.map (fun column : Nat => (column : Int)) ++ [-1] := by
  cases columns <;> rfl

/-- Blanks in front of the next token, or in front of the end of the line. -/
theorem toNextToken_succ {lexer : Lexer} (next : Cursor)
    (noMark : lexer.cursor.isAt '\ufeff' = false) (notComment : next.isAt '#' = false)
    (skipped : ∀ tabs : Bool,
      (lexer.cursor.skipWhile fun c => c = ' ' || (tabs && c = '\t')) = next) (fuel : Nat) :
    toNextToken (fuel + 1) lexer =
      if next.atBreak then
        toNextToken fuel { lexer with cursor := next.skipBreak
                                      keyAllowed := lexer.keyAllowed || !lexer.inFlow }
      else { lexer with cursor := next } := by
  rw [toNextToken]
  simp only [noMark, Bool.and_false, Bool.false_eq_true, if_false, skipped, notComment]

theorem skipWhile_spaces (starts : StartsToken rest) (tabs : Bool) :
    (Cursor.skipWhile ⟨.lenient, spaces count ++ rest, index, row, column⟩
        fun c => c = ' ' || (tabs && c = '\t')) =
      ⟨.lenient, rest, index + count, row, column + count⟩ := by
  have areBlank : ∀ c ∈ spaces count, (decide (c = ' ') || (tabs && decide (c = '\t'))) = true := by
    intro c member
    rw [List.eq_of_mem_replicate member]
    rfl
  have stops : rest.takeWhile (fun c => c = ' ' || (tabs && c = '\t')) = [] := by
    cases rest with
    | nil => rfl
    | cons c rest =>
        obtain ⟨notBlank, _⟩ := Bool.or_eq_false_iff.1 starts.cons.1
        obtain ⟨notSpace, notTab⟩ := Bool.or_eq_false_iff.1 notBlank
        rw [List.takeWhile_cons, notSpace, notTab, Bool.and_false]
        rfl
  rw [Cursor.skipWhile, List.takeWhile_append_of_pos areBlank, stops, List.append_nil,
    length_spaces, Cursor.advance, List.drop_left' (length_spaces count)]

/-- In front of a token only spaces are passed over. -/
theorem toNextToken_spaces (starts : StartsToken rest) (fuel : Nat) :
    toNextToken (fuel + 1)
        ⟨⟨.lenient, spaces count ++ rest, index, row, column⟩, tokens, indent, enclosing, pending,
          keys, keyAllowed⟩ =
      ⟨⟨.lenient, rest, index + count, row, column + count⟩, tokens, indent, enclosing, pending,
        keys, keyAllowed⟩ := by
  have noMark : Cursor.isAt ⟨.lenient, spaces count ++ rest, index, row, column⟩ '\ufeff' =
      false := by
    cases count with
    | zero =>
        cases rest with
        | nil => rfl
        | cons c rest => simpa [Cursor.isAt, spaces] using starts.cons.2.2
    | succ count => rfl
  obtain ⟨notComment, notBreak⟩ :
      Cursor.isAt ⟨.lenient, rest, index + count, row, column + count⟩ '#' = false ∧
        Cursor.atBreak ⟨.lenient, rest, index + count, row, column + count⟩ = false := by
    cases rest with
    | nil => exact ⟨rfl, rfl⟩
    | cons c rest =>
        obtain ⟨notWhite, notComment, _⟩ := starts.cons
        exact ⟨by simpa [Cursor.isAt] using notComment, (Bool.or_eq_false_iff.1 notWhite).2⟩
  rw [toNextToken_succ _ noMark notComment (skipWhile_spaces starts), notBreak]
  rfl

theorem approach_token {lexer : Lexer} (starts : StartsToken lexer.cursor.rest)
    (lenient : lexer.cursor.dialect = .lenient) : lexer.approach = lexer.dropStaleKeys := by
  obtain ⟨⟨dialect, rest, index, row, column⟩, tokens, indent, enclosing, pending, keys, allowed⟩ :=
    lexer
  obtain rfl : dialect = .lenient := lenient
  have same : toNextToken (rest.length + 1) ⟨⟨.lenient, spaces 0 ++ rest, index, row, column⟩,
      tokens, indent, enclosing, pending, keys, allowed⟩ = _ :=
    toNextToken_spaces starts rest.length
  exact congrArg dropStaleKeys same

/-- At the end of a line the lexer goes on to the first token of the next one. -/
theorem toNextToken_break (starts : StartsToken rest) (fuel : Nat) :
    toNextToken (fuel + 2)
        ⟨⟨.lenient, '\n' :: (spaces count ++ rest), index, row, column⟩, tokens, indent, enclosing,
          pending, [], keyAllowed⟩ =
      ⟨⟨.lenient, rest, index + 1 + count, row + 1, count⟩, tokens, indent, enclosing, pending,
        [], true⟩ := by
  have later : toNextToken (fuel + 1) ⟨⟨.lenient, spaces count ++ rest, index + 1, row + 1, 0⟩,
      tokens, indent, enclosing, pending, [], true⟩ = _ := toNextToken_spaces starts fuel
  rw [Nat.zero_add] at later
  have atBreak : Cursor.atBreak ⟨.lenient, '\n' :: (spaces count ++ rest), index, row, column⟩ =
      true := rfl
  rw [toNextToken_succ ⟨.lenient, '\n' :: (spaces count ++ rest), index, row, column⟩ rfl rfl
    (fun tabs => by cases tabs <;> rfl), atBreak, if_pos rfl, ← later]
  simp only [inFlow, List.isEmpty_nil, Bool.not_true, Bool.not_false, Bool.or_true]
  rfl

theorem closeBlocks_of_le {lexer : Lexer} (within : lexer.indent ≤ column) :
    closeBlocks column lexer = lexer := by
  unfold closeBlocks
  split
  · rfl
  · have stays : decide ((column : Int) < lexer.indent) = false := by simpa using within
    dsimp only
    rw [List.takeWhile_cons, List.dropWhile_cons, stays]
    rfl

/-- The blocks that are further in than `least` are closed, the others stay open. -/
theorem closeBlocks_inBlocks {least : Int} {cursor : Cursor}
    (closes : ∀ column ∈ deeper, least < (column : Int)) (stays : indentOf columns ≤ least) :
    closeBlocks least (inBlocks cursor tokens (deeper ++ columns) keyAllowed) =
      inBlocks cursor (List.replicate deeper.length .blockEnd ++ tokens) columns keyAllowed := by
  have outside : inFlow (inBlocks cursor tokens (deeper ++ columns) keyAllowed) = false := rfl
  have closed : ∀ column ∈ deeper.map (fun column : Nat => (column : Int)),
      decide (least < column) = true := by
    simpa using closes
  have kept : decide (least < indentOf columns) = false := by simpa using stays
  unfold closeBlocks
  rw [outside, if_neg Bool.false_ne_true]
  dsimp only [inBlocks]
  rw [indent_cons, List.map_append, List.append_assoc, ← indent_cons,
    List.takeWhile_append_of_pos closed, List.dropWhile_append_of_pos closed, List.takeWhile_cons,
    List.dropWhile_cons, kept]
  simp [Function.comp_def, List.map_const']

/-- A character that starts a line of plain words starts a plain scalar. -/
theorem token_line {lexer : Lexer} {c : Char} {line : List Char} (isLine : IsLine (c :: line))
    (lenient : lexer.cursor.dialect = .lenient) (outside : lexer.inFlow = false)
    (isText : lexer.cursor.rest = c :: (line ++ rest))
    (noMark : lexer.cursor.atDocumentMark = false) : lexer.token c = lexer.plainToken := by
  obtain ⟨notStart, notEnd⟩ := Bool.or_eq_false_iff.1 noMark
  have notSpace : c ≠ ' ' := fun isSpace => isLine.starts (congrArg some isSpace)
  have notWhite : lexer.cursor.atBlankOrBreak = false := by
    rw [Cursor.atBlankOrBreak, Cursor.nextIs, isText, lenient]
    exact isLine.notWhite List.mem_cons_self notSpace
  have safe := isLine.safe
  rw [startsUnsafe] at safe
  split at safe
  · rename_i isMark
    obtain ⟨d, more, rfl, notSpace⟩ : ∃ d more, line = d :: more ∧ d ≠ ' ' := by
      cases line with
      | nil => cases safe
      | cons d more => exact ⟨d, more, rfl, of_decide_eq_false safe⟩
    have notWhite := isLine.notWhite (List.mem_cons_of_mem _ List.mem_cons_self) notSpace
    have next : lexer.cursor.peek? 1 = some d := by rw [Cursor.peek?, isText]; rfl
    have notSpaced : lexer.cursor.isSpaced 1 = false := by
      rw [Cursor.isSpaced, next, lenient]
      exact notWhite
    have notBlank := (Bool.or_eq_false_iff.1 notWhite).1
    rw [Bool.or_eq_true] at isMark
    rcases isMark with isDash | isQuestion
    · obtain rfl := of_decide_eq_true isDash
      unfold token startsPlain
      simp [notStart, notEnd, notSpaced, next, notBlank]
    · obtain rfl := of_decide_eq_true isQuestion
      unfold token startsPlain
      simp [notStart, notEnd, isIndicator, outside, notSpaced]
  · rename_i notMark
    simp only [Bool.or_eq_true, decide_eq_true_eq, not_or] at notMark
    obtain ⟨notDash, notQuestion⟩ := notMark
    simp at safe
    unfold token startsPlain
    simp [notStart, notEnd, notDash, notQuestion, notWhite, safe]

def behindKey (cursor : Cursor) (place : PendingKey) (tokens : List Token) (columns : List Nat) :
    Lexer :=
  ⟨cursor, tokens, indentOf columns, enclosingOf columns, some place, [], false⟩

theorem plainToken_of {lexer noted : Lexer} {reading : Reading}
    (isNoted : lexer.noteKey = .ok noted)
    (isRead : plain noted.inFlow (noted.indent + 1) (noted.cursor.rest.length + 1) [] .none
      noted.cursor = .ok reading) :
    lexer.plainToken = .ok { noted.push (.scalar .plain reading.contents) with
      cursor := reading.cursor, keyAllowed := reading.broken } := by
  unfold plainToken
  rw [isNoted]
  dsimp only [bind, Except.bind]
  rw [isRead]

theorem not_atMark {cursor : Cursor} {c mark : Char} (isText : cursor.rest = c :: rest)
    (other : mark ≠ c) : cursor.atMark mark = false := by
  simp [Cursor.atMark, Cursor.showsMark, isText, other.symm]

theorem token_quote {lexer : Lexer} (isText : lexer.cursor.rest = '"' :: rest) :
    lexer.token '"' = lexer.quotedToken '"' := by
  unfold token
  simp [not_atMark isText]

theorem quotedToken_of {lexer noted : Lexer} {text : List Char}
    (chars : ∀ c ∈ text, isLineChar c = true) (isNoted : lexer.noteKey = .ok noted)
    (isText : noted.cursor = ⟨.lenient, doubleQuoted text ++ rest, index, row, column⟩) :
    lexer.quotedToken '"' = .ok { noted.push (.scalar .quoted text) with
      cursor := ⟨.lenient, rest, index + (doubleQuoted text).length, row,
        column + (doubleQuoted text).length⟩
      keyAllowed := false } := by
  have enough : text.length < (text.flatMap escapedChar ++ '"' :: rest).length + 1 := by
    rw [List.length_append]
    exact Nat.lt_succ_of_le (Nat.le_add_right_of_le (length_le_escaped text))
  have isRead : quoted '"' ((text.flatMap escapedChar ++ '"' :: rest).length + 1) []
      ⟨.lenient, text.flatMap escapedChar ++ '"' :: rest, index + 1, row, column + 1⟩ = _ :=
    quoted_text chars (Nat.succ_pos column) enough []
  have inside : noted.cursor.skip =
      ⟨.lenient, text.flatMap escapedChar ++ '"' :: rest, index + 1, row, column + 1⟩ := by
    rw [isText, doubleQuoted_append]
    rfl
  have width : ∀ start, start + (doubleQuoted text).length =
      start + 1 + (text.flatMap escapedChar).length + 1 := by
    intro start
    rw [length_doubleQuoted]
    omega
  unfold quotedToken
  rw [isNoted]
  dsimp only [bind, Except.bind]
  rw [inside, isRead, width, width]
  rfl

theorem noteKey_inBlocks (cursor : Cursor) (tokens : List Token) (columns : List Nat) :
    noteKey (inBlocks cursor tokens columns true) =
      .ok ⟨cursor, tokens, indentOf columns, enclosingOf columns,
        some ⟨tokens.length, cursor.index, cursor.line, cursor.column,
          decide (indentOf columns = cursor.column)⟩, [], true⟩ := rfl

/-- A key is one token, and remembered as a key until its colon is read. -/
theorem token_key {c : Char} {line more contents : List Char} {style : Style}
    (spells : SpellsKey line style contents) (isFirst : line = c :: more)
    (spaced : rest.head?.all (isBlankOrBreak .lenient) = true) :
    ∃ required, token c
        (inBlocks ⟨.lenient, line ++ ':' :: rest, index, row, column⟩ tokens columns true) =
      .ok (behindKey ⟨.lenient, ':' :: rest, index + line.length, row, column + line.length⟩
        ⟨tokens.length, index, row, column, required⟩ (.scalar style contents :: tokens)
        columns) := by
  cases spells with
  | plain isKey =>
      have isToken := plainToken_of (noteKey_inBlocks ⟨.lenient, line ++ ':' :: rest, index, row,
        column⟩ tokens columns) (plain_key isKey spaced _)
      have noMark :
          Cursor.atDocumentMark ⟨.lenient, line ++ ':' :: rest, index, row, column⟩ = false :=
        atDocumentMark_key isKey
      subst isFirst
      exact ⟨_, (token_line isKey.toIsLine rfl rfl rfl noMark).trans isToken⟩
  | quoted chars short =>
      have isToken := quotedToken_of chars
        (noteKey_inBlocks ⟨.lenient, _ ++ ':' :: rest, index, row, column⟩ tokens columns) rfl
      cases isFirst
      exact ⟨_, (token_quote rfl).trans isToken⟩

/-- What a key in a column opens: nothing where a block of that column is open already, else a
block of its own. -/
inductive Opens (column : Nat) : List Nat → List Token → List Nat → Prop where
  | goesOn (outer : List Nat) : Opens column (column :: outer) [] (column :: outer)
  | starts {outer : List Nat} (within : indentOf outer < column) :
      Opens column outer [.blockMappingStart] (column :: outer)

theorem Opens.indent_le {opened : List Token} {inner : List Nat}
    (opens : Opens column columns opened inner) : indentOf columns ≤ column := by
  cases opens with
  | goesOn outer => exact Int.le_refl _
  | starts within => exact Int.le_of_lt within

/-- A colon puts the tokens that were missing in front of its key. -/
theorem colon_behindKey {cursor : Cursor} {scalar : Token} {required : Bool} {inner : List Nat}
    {opened : List Token} (opens : Opens column columns opened inner) :
    colon (behindKey cursor ⟨tokens.length, index, row, column, required⟩ (scalar :: tokens)
        columns) =
      .ok (inBlocks cursor.skip (.value :: scalar :: .key :: (opened ++ tokens)) inner false) := by
  have inserted : ∀ lexer : Lexer, lexer.tokens = scalar :: tokens →
      insertAt lexer tokens.length .key = { lexer with tokens := scalar :: .key :: tokens } := by
    intro lexer isRead
    simp [insertAt, isRead]
  have insertedStart : ∀ lexer : Lexer, lexer.tokens = scalar :: .key :: tokens →
      insertAt lexer tokens.length .blockMappingStart =
        { lexer with tokens := scalar :: .key :: .blockMappingStart :: tokens } := by
    intro lexer isRead
    have since : (scalar :: .key :: tokens).length - tokens.length = 2 := by
      rw [List.length_cons, List.length_cons]
      omega
    rw [insertAt, isRead, since]
    rfl
  unfold colon behindKey
  dsimp only
  rw [inserted _ rfl]
  cases opens with
  | goesOn outer =>
      simp [openBlock, inFlow, inBlocks, push, indentOf]
  | starts within =>
      rw [openBlock, insertedStart _ rfl, if_neg (by simpa [inFlow] using within)]
      cases columns <;> rfl

theorem current_fresh {key : PendingKey} {cursor : Cursor} (fresh : key.isStale cursor = false) :
    current? cursor (some key) = .ok (some key) := by
  simp [current?, fresh]

theorem current_stale {key : PendingKey} {cursor : Cursor} (isStale : key.isStale cursor = true)
    (notRequired : key.required = false) : current? cursor (some key) = .ok none := by
  simp [current?, isStale, notRequired]

theorem dropStaleKeys_of {lexer : Lexer} {kept : Option PendingKey}
    (isCurrent : current? lexer.cursor lexer.pendingKey = .ok kept)
    (noKeys : lexer.enclosingKeys = []) :
    lexer.dropStaleKeys = .ok { lexer with pendingKey := kept } := by
  unfold dropStaleKeys
  rw [isCurrent, noKeys]
  cases lexer
  cases noKeys
  rfl

/-- How far in the next token stands; the end of the text closes all blocks. -/
def indentation (count : Nat) (rest : List Char) : Int := if rest = [] then -1 else count

/-- Whatever is read from here on, the tokens at the end are these, newest first. -/
def Ends (lexer : Lexer) (result : List Token) : Prop :=
  ∀ fuel, lexer.cursor.rest.length < fuel → ∃ last,
    (if lexer.cursor.atEnd then lexer.step else lexer.run fuel) = .ok last ∧ last.tokens = result

theorem Ends.of_step {lexer next : Lexer} {result : List Token} (isNext : lexer.step = .ok next)
    (fewer : next.cursor.rest.length < lexer.cursor.rest.length) (ends : Ends next result) :
    Ends lexer result := by
  intro fuel enough
  have notAtEnd : lexer.cursor.atEnd = false := by
    rw [Cursor.atEnd, List.isEmpty_eq_false_iff]
    rintro isEnd
    rw [isEnd] at fewer
    cases fewer
  obtain ⟨fuel, rfl⟩ := Nat.exists_eq_add_one_of_ne_zero (Nat.ne_zero_of_lt enough)
  rw [notAtEnd, if_neg Bool.false_ne_true, run, isNext]
  exact ends fuel (by omega)

/-- The lexer goes on at a token, in these blocks once the deeper ones are closed. -/
def Awaits (lexer : Lexer) (count : Nat) (rest : List Char) (tokens : List Token)
    (columns : List Nat) : Prop :=
  rest.length ≤ lexer.cursor.rest.length ∧ ∃ index row read deeper,
    lexer.approach =
      .ok (inBlocks ⟨.lenient, rest, index, row, count⟩ read (deeper ++ columns) true) ∧
    (∀ column ∈ deeper, indentation count rest < (column : Int)) ∧
    tokens = List.replicate deeper.length .blockEnd ++ read

theorem indentation_of_ne_nil (nonempty : rest ≠ []) : indentation count rest = count :=
  if_neg nonempty

theorem awaits_token (starts : StartsToken rest) :
    Awaits (inBlocks ⟨.lenient, rest, index, row, count⟩ tokens columns true) count rest tokens
      columns := by
  refine ⟨Nat.le_refl _, index, row, tokens, [], ?_, nofun, rfl⟩
  exact approach_token starts rfl

/-- At the end of a line no key is pending but one that may be given up. -/
theorem awaits_break (starts : StartsToken rest)
    (given : ∀ key ∈ pending, key.line = row ∧ key.required = false) :
    Awaits ⟨⟨.lenient, '\n' :: (spaces count ++ rest), index, row, column⟩, tokens,
      indentOf columns, enclosingOf columns, pending, [], keyAllowed⟩ count rest tokens
      columns := by
  have next : toNextToken ((spaces count ++ rest).length + 2) ⟨⟨.lenient,
      '\n' :: (spaces count ++ rest), index, row, column⟩, tokens, indentOf columns,
      enclosingOf columns, pending, [], keyAllowed⟩ = _ := toNextToken_break starts _
  refine ⟨by simp [length_spaces]; omega, index + 1 + count, row + 1, tokens, [], ?_, nofun, rfl⟩
  refine (congrArg dropStaleKeys next).trans ?_
  cases pending with
  | none => rfl
  | some key =>
      obtain ⟨rfl, notRequired⟩ := given key rfl
      have isStale :
          key.isStale ⟨.lenient, rest, index + 1 + count, key.line + 1, count⟩ = true := by
        simp [PendingKey.isStale]
      exact dropStaleKeys_of (current_stale isStale notRequired) rfl

theorem Awaits.close {lexer : Lexer}
    (awaits : Awaits lexer count rest tokens (column :: columns))
    (outside : indentation count rest < (column : Int)) :
    Awaits lexer count rest (.blockEnd :: tokens) columns := by
  obtain ⟨within, index, row, read, deeper, isNext, closes, rfl⟩ := awaits
  refine ⟨within, index, row, read, deeper ++ [column], ?_, ?_, ?_⟩
  · rw [List.append_assoc]
    exact isNext
  · intro other member
    rcases List.mem_append.1 member with isDeeper | isColumn
    · exact closes other isDeeper
    · rw [List.mem_singleton.1 isColumn]
      exact outside
  · rw [List.length_append, List.length_singleton, List.replicate_succ]
    rfl

theorem Awaits.step_end {lexer : Lexer} (awaits : Awaits lexer count [] tokens []) :
    ∃ index row, lexer.step =
      .ok (inBlocks ⟨.lenient, [], index, row, count⟩ tokens [] true) := by
  obtain ⟨_, index, row, read, deeper, isNext, _, rfl⟩ := awaits
  refine ⟨index, row, ?_⟩
  -- Blocks further in than the last line are closed first, then all others.
  have cut := List.takeWhile_append_dropWhile (p := fun column => (count : Int) < (column : Nat))
    (l := deeper)
  have inside : ∀ column ∈ deeper.takeWhile (fun column => (count : Int) < (column : Nat)),
      (count : Int) < (column : Nat) :=
    fun column member => of_decide_eq_true (List.all_eq_true.1 List.all_takeWhile column member)
  have stopped := List.head?_dropWhile_not (fun column => (count : Int) < (column : Nat)) deeper
  generalize deeper.takeWhile (fun column => (count : Int) < (column : Nat)) = inner at cut inside
  generalize deeper.dropWhile (fun column => (count : Int) < (column : Nat)) = outer at cut stopped
  subst cut
  have stays : indentOf outer ≤ count := by
    cases outer with
    | nil => exact Int.le_trans (by decide) (Int.natCast_nonneg count)
    | cons column outer => simpa [indentOf] using stopped
  rw [List.append_nil] at isNext
  have isClosed : closeBlocks count
      (inBlocks ⟨.lenient, [], index, row, count⟩ read (inner ++ outer) true) = _ :=
    closeBlocks_inBlocks inside stays
  have allClosed : closeBlocks (-1) (inBlocks ⟨.lenient, [], index, row, count⟩
      (List.replicate inner.length .blockEnd ++ read) (outer ++ []) true) = _ :=
    closeBlocks_inBlocks (fun column _ => by omega) (Int.le_refl _)
  rw [List.append_nil] at allClosed
  rw [step_of_approach isNext isClosed]
  dsimp only [inBlocks] at allClosed ⊢
  rw [allClosed, List.length_append, Nat.add_comm, ← List.replicate_append_replicate,
    List.append_assoc]
  rfl

theorem Awaits.ends {lexer : Lexer} (awaits : Awaits lexer count [] tokens []) :
    Ends lexer tokens := by
  obtain ⟨index, row, isLast⟩ := awaits.step_end
  have awaitsEnd :
      Awaits (inBlocks ⟨.lenient, [], index, row, count⟩ tokens [] true) count [] tokens [] :=
    awaits_token nofun
  obtain ⟨_, _, isAgain⟩ := awaitsEnd.step_end
  intro fuel enough
  split
  · exact ⟨_, isLast, rfl⟩
  · obtain ⟨fuel, rfl⟩ := Nat.exists_eq_add_one_of_ne_zero (Nat.ne_zero_of_lt enough)
    rw [run, isLast]
    exact ⟨_, isAgain, rfl⟩

theorem token_colon {lexer : Lexer} (isText : lexer.cursor.rest = ':' :: rest)
    (lenient : lexer.cursor.dialect = .lenient)
    (spaced : rest.head?.all (isBlankOrBreak .lenient) = true) :
    lexer.token ':' = lexer.colon := by
  have isSpaced : lexer.cursor.isSpaced 1 = true := by
    rw [Cursor.isSpaced, Cursor.peek?, isText, lenient]
    rwa [List.head?_eq_getElem?] at spaced
  unfold token
  simp [not_atMark isText, isIndicator, isSpaced]

/-- The colon is near enough for the key to count. -/
theorem step_colon {scalar : Token} {opened : List Token} {inner : List Nat} {length : Nat}
    {required : Bool} (spaced : rest.head?.all (isBlankOrBreak .lenient) = true)
    (short : length ≤ 1024) (opens : Opens column columns opened inner) :
    step (behindKey ⟨.lenient, ':' :: rest, index + length, row, column + length⟩
        ⟨tokens.length, index, row, column, required⟩ (scalar :: tokens) columns) =
      .ok (inBlocks ⟨.lenient, rest, index + length + 1, row, column + length + 1⟩
        (.value :: scalar :: .key :: (opened ++ tokens)) inner false) := by
  have starts : StartsToken (':' :: rest) := .of_cons rfl (by decide) (by decide)
  have fresh : PendingKey.isStale ⟨tokens.length, index, row, column, required⟩
      ⟨.lenient, ':' :: rest, index + length, row, column + length⟩ = false := by
    simp [PendingKey.isStale]
    omega
  have isNext : approach (behindKey ⟨.lenient, ':' :: rest, index + length, row, column + length⟩
      ⟨tokens.length, index, row, column, required⟩ (scalar :: tokens) columns) =
      .ok (behindKey ⟨.lenient, ':' :: rest, index + length, row, column + length⟩
      ⟨tokens.length, index, row, column, required⟩ (scalar :: tokens) columns) :=
    (approach_token starts rfl).trans (dropStaleKeys_of (current_fresh fresh) rfl)
  have within : indentOf columns ≤ ((column + length : Nat) : Int) :=
    Int.le_trans opens.indent_le (by omega)
  rw [step_of_approach isNext (closeBlocks_of_le within)]
  exact (token_colon rfl rfl spaced).trans (colon_behindKey opens)

theorem Awaits.key {lexer : Lexer} {line contents : List Char} {style : Style}
    {opened result : List Token} {inner : List Nat} (spells : SpellsKey line style contents)
    (spaced : rest.head?.all (isBlankOrBreak .lenient) = true)
    (awaits : Awaits lexer column (line ++ ':' :: rest) tokens columns)
    (opens : Opens column columns opened inner)
    (ends : ∀ index row, Ends (inBlocks ⟨.lenient, rest, index, row, column + line.length + 1⟩
      (.value :: .scalar style contents :: .key :: (opened ++ tokens)) inner false) result) :
    Ends lexer result := by
  obtain ⟨within, index, row, read, deeper, isNext, closes, rfl⟩ := awaits
  have nonempty := spells.toSpells.nonempty
  rw [indentation_of_ne_nil (List.append_ne_nil_of_left_ne_nil nonempty _)] at closes
  have isClosed : closeBlocks column (inBlocks ⟨.lenient, line ++ ':' :: rest, index, row, column⟩
      read (deeper ++ columns) true) = _ := closeBlocks_inBlocks closes opens.indent_le
  generalize List.replicate deeper.length .blockEnd ++ read = tokens at isClosed ends
  obtain ⟨c, more, isFirst⟩ := List.exists_cons_of_ne_nil nonempty
  obtain ⟨required, keyStep⟩ : ∃ required, lexer.step =
      .ok (behindKey ⟨.lenient, ':' :: rest, index + line.length, row, column + line.length⟩
        ⟨tokens.length, index, row, column, required⟩ (.scalar style contents :: tokens)
        columns) := by
    rw [step_of_approach isNext isClosed]
    subst isFirst
    exact token_key spells rfl spaced
  apply Ends.of_step keyStep
  · have positive := List.length_pos_iff.2 nonempty
    simp [behindKey] at within ⊢
    omega
  apply Ends.of_step (step_colon spaced spells.short opens) (Nat.lt_succ_self _)
  exact ends _ _

/-- One space behind the colon of a key. -/
theorem approach_space (starts : StartsToken rest) :
    approach (inBlocks ⟨.lenient, ' ' :: rest, index, row, column⟩ tokens columns false) =
      .ok (inBlocks ⟨.lenient, rest, index + 1, row, column + 1⟩ tokens columns false) :=
  have next : toNextToken ((' ' :: rest).length + 1)
      (inBlocks ⟨.lenient, spaces 1 ++ rest, index, row, column⟩ tokens columns false) = _ :=
    toNextToken_spaces starts _
  congrArg dropStaleKeys next

theorem approach_break (starts : StartsToken rest) :
    approach (inBlocks ⟨.lenient, '\n' :: (spaces count ++ rest), index, row, column⟩ tokens columns
        keyAllowed) =
      .ok (inBlocks ⟨.lenient, rest, index + 1 + count, row + 1, count⟩ tokens columns true) :=
  congrArg dropStaleKeys (toNextToken_break starts (spaces count ++ rest).length)

/-- One space and the token behind it. -/
theorem step_space {c : Char} (starts : StartsToken (c :: rest))
    (inside : indentOf columns < column) :
    step (inBlocks ⟨.lenient, ' ' :: c :: rest, index, row, column⟩ tokens columns false) =
      token c (inBlocks ⟨.lenient, c :: rest, index + 1, row, column + 1⟩ tokens columns
        false) := by
  have isClosed : closeBlocks ((column + 1 : Nat) : Int)
      (inBlocks ⟨.lenient, c :: rest, index + 1, row, column + 1⟩ tokens columns false) = _ :=
    closeBlocks_of_le (by dsimp only [inBlocks]; omega)
  exact step_of_approach (approach_space starts) isClosed

/-- A plain scalar behind the colon of its key. The reader goes on to the next line. -/
theorem ends_line {line : List Char} {result : List Token} (isLine : IsLine line)
    (starts : StartsToken rest) (inside : indentOf columns < column)
    (outside : (count : Int) ≤ indentOf columns)
    (ends : ∀ lexer, Awaits lexer count rest (.scalar .plain line :: tokens) columns →
      Ends lexer result) :
    Ends (inBlocks ⟨.lenient, ' ' :: (line ++ '\n' :: (spaces count ++ rest)), index, row, column⟩
      tokens columns false) result := by
  have lineStarts := isLine.startsToken ('\n' :: (spaces count ++ rest))
  have enough : line.length < (line ++ '\n' :: (spaces count ++ rest)).length + 1 := by
    rw [List.length_append]
    omega
  obtain ⟨last, isRead⟩ : ∃ last, plain false (indentOf columns + 1)
      ((line ++ '\n' :: (spaces count ++ rest)).length + 1) [] .none ⟨.lenient,
      line ++ '\n' :: (spaces count ++ rest), index + 1, row, column + 1⟩ =
      .ok ⟨line, ⟨.lenient, rest, last, row + 1, count⟩, true⟩ :=
    plain_line isLine.toIsWords starts (by omega) (by omega) (by omega) enough []
  have isToken : plainToken (inBlocks ⟨.lenient, line ++ '\n' :: (spaces count ++ rest), index + 1,
      row, column + 1⟩ tokens columns false) = _ := plainToken_of rfl isRead
  obtain ⟨c, more, rfl⟩ := List.exists_cons_of_ne_nil isLine.nonempty
  have noMark : Cursor.atDocumentMark ⟨.lenient, c :: (more ++ '\n' :: (spaces count ++ rest)),
      index + 1, row, column + 1⟩ = false := by
    simp [Cursor.atDocumentMark, Cursor.atMark]
  apply Ends.of_step ((step_space lineStarts inside).trans
    ((token_line isLine rfl rfl rfl noMark).trans isToken))
  · simp [inBlocks]
    omega
  · exact ends _ (awaits_token starts)

/-- A quoted scalar behind the colon of its key. The reader stops at the end of its line. -/
theorem ends_quoted {text : List Char} {result : List Token}
    (chars : ∀ c ∈ text, isLineChar c = true) (starts : StartsToken rest)
    (inside : indentOf columns < column)
    (ends : ∀ lexer, Awaits lexer count rest (.scalar .quoted text :: tokens) columns →
      Ends lexer result) :
    Ends (inBlocks ⟨.lenient, ' ' :: (doubleQuoted text ++ '\n' :: (spaces count ++ rest)), index,
      row, column⟩ tokens columns false) result := by
  have lineStarts := (Spells.quoted chars).startsToken ('\n' :: (spaces count ++ rest))
  have isToken : quotedToken '"' (inBlocks ⟨.lenient,
      doubleQuoted text ++ '\n' :: (spaces count ++ rest), index + 1, row, column + 1⟩ tokens
      columns false) = _ := quotedToken_of chars rfl rfl
  apply Ends.of_step ((step_space lineStarts inside).trans ((token_quote rfl).trans isToken))
  · simp [inBlocks]
    omega
  · exact ends _ (awaits_break starts nofun)

/-- A scalar behind the colon of its key. -/
theorem ends_scalar {line contents : List Char} {style : Style} {result : List Token}
    (spells : Spells line style contents) (starts : StartsToken rest)
    (inside : indentOf columns < column) (outside : (count : Int) ≤ indentOf columns)
    (ends : ∀ lexer, Awaits lexer count rest (.scalar style contents :: tokens) columns →
      Ends lexer result) :
    Ends (inBlocks ⟨.lenient, ' ' :: (line ++ '\n' :: (spaces count ++ rest)), index, row, column⟩
      tokens columns false) result := by
  cases spells with
  | plain isLine => exact ends_line isLine starts inside outside ends
  | quoted chars => exact ends_quoted chars starts inside ends

theorem token_brace {lexer : Lexer} (isText : lexer.cursor.rest = '\x7b' :: rest) :
    lexer.token '\x7b' = lexer.openFlow .flowMappingStart := by
  unfold token
  simp [not_atMark isText]

theorem token_closingBrace {lexer : Lexer} (isText : lexer.cursor.rest = '\x7d' :: rest) :
    lexer.token '\x7d' = lexer.closeFlow .flowMappingEnd := by
  unfold token
  simp [not_atMark isText]

/-- The closing brace gives the key back that was pending before the opening one. -/
theorem step_closingBrace (fresh : ∀ key ∈ pending,
      key.isStale ⟨.lenient, '\x7d' :: rest, index, row, column⟩ = false) :
    step ⟨⟨.lenient, '\x7d' :: rest, index, row, column⟩, tokens, indent, enclosing, none,
        [pending], true⟩ =
      .ok ⟨⟨.lenient, rest, index + 1, row, column + 1⟩, .flowMappingEnd :: tokens, indent,
        enclosing, pending, [], false⟩ := by
  have starts : StartsToken ('\x7d' :: rest) := .of_cons rfl (by decide) (by decide)
  have isNext : approach ⟨⟨.lenient, '\x7d' :: rest, index, row, column⟩, tokens, indent, enclosing,
      none, [pending], true⟩ = .ok ⟨⟨.lenient, '\x7d' :: rest, index, row, column⟩, tokens, indent,
        enclosing, none, [pending], true⟩ := by
    rw [approach_token starts rfl]
    cases pending with
    | none => rfl
    | some key =>
        simp only [dropStaleKeys, current?, List.mapM_cons, List.mapM_nil, fresh key rfl]
        rfl
  rw [step_of_approach isNext rfl]
  exact token_closingBrace rfl

/-- The opening brace notes that a key may start here, where one may; none is required. -/
theorem step_brace {lexer : Lexer}
    (isNext : lexer.approach = .ok (inBlocks ⟨.lenient, '\x7b' :: rest, index, row, column⟩ tokens
      columns keyAllowed))
    (inside : indentOf columns < column) :
    lexer.step = .ok ⟨⟨.lenient, rest, index + 1, row, column + 1⟩, .flowMappingStart :: tokens,
      indentOf columns, enclosingOf columns, none,
      [if keyAllowed then some ⟨tokens.length, index, row, column, false⟩ else none], true⟩ := by
  have isClosed : closeBlocks column
      (inBlocks ⟨.lenient, '\x7b' :: rest, index, row, column⟩ tokens columns keyAllowed) = _ :=
    closeBlocks_of_le (Int.le_of_lt inside)
  have notRequired : decide (indentOf columns = column) = false := by simp; omega
  rw [step_of_approach isNext isClosed]
  refine (token_brace rfl).trans ?_
  cases keyAllowed with
  | false => rfl
  | true =>
      rw [← notRequired]
      rfl

/-- Braces with nothing between them, where a key may start and where none may. -/
theorem ends_braces {result : List Token} {lexer : Lexer} (starts : StartsToken rest)
    (isNext : lexer.approach = .ok (inBlocks
      ⟨.lenient, '\x7b' :: '\x7d' :: '\n' :: (spaces count ++ rest), index, row, column⟩ tokens
      columns keyAllowed))
    (inside : indentOf columns < column)
    (shorter : (spaces count ++ rest).length + 3 ≤ lexer.cursor.rest.length)
    (ends : ∀ lexer,
      Awaits lexer count rest (.flowMappingEnd :: .flowMappingStart :: tokens) columns →
        Ends lexer result) : Ends lexer result := by
  apply Ends.of_step (step_brace isNext inside)
  · simp only [List.length_cons]
    omega
  apply Ends.of_step (step_closingBrace ?fresh)
  · exact Nat.lt_succ_self _
  · apply ends
    apply awaits_break starts
    intro key isKey
    split at isKey
    · obtain rfl := Option.some.inj isKey
      exact ⟨rfl, rfl⟩
    · cases isKey
  · intro key isKey
    split at isKey
    · obtain rfl := Option.some.inj isKey
      simp [PendingKey.isStale]
    · cases isKey

theorem tokens_of_ends {text : List Char} {result : List Token}
    (allowed : ∀ c ∈ text, isAllowed c = true) (starts : StartsToken text) (nonempty : text ≠ [])
    (ends : Ends (.ofText text) result) : Lenient.tokens text = .ok result.reverse := by
  obtain ⟨last, isLast, isRead⟩ := ends (text.length + 1) (Nat.lt_succ_self _)
  have notAtEnd : (ofText text).cursor.atEnd = false := List.isEmpty_eq_false_iff.2 nonempty
  have noMark : text.head? ≠ some '\ufeff' := fun isMark => (starts '\ufeff' isMark).2.2 rfl
  rw [notAtEnd, if_neg Bool.false_ne_true] at isLast
  unfold Lenient.tokens
  dsimp only
  rw [if_neg noMark, if_pos (List.all_eq_true.2 allowed), isLast, ← isRead]
  rfl

end

end RpcRegistry.Yaml.Lenient.Lexer
