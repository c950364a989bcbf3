import RpcRegistry.Proofs.Yaml.Lenient
import RpcRegistry.Proofs.Yaml.Lexing
import RpcRegistry.Proofs.Yaml.Printed

/-!
A dictionary that is printed without blocks of text is read from its text as it was. The lexer makes
of the lines the tokens of the tree, the parser makes of the tokens its nodes, and the nodes have
its values.
-/

namespace RpcRegistry.Yaml

open RpcRegistry.Text Printer

mutual

def treeTokens : Value → List Token
  | .dict entries =>
      if entries.isEmpty then [.flowMappingStart, .flowMappingEnd]
      else .blockMappingStart :: (entriesTokens entries ++ [.blockEnd])
  | value => [.scalar (scalarStyle value) (scalarContents value)]
termination_by structural value => value

def entriesTokens : List (String × Value) → List Token
  | [] => []
  | entry :: rest => entryTokens entry ++ entriesTokens rest
termination_by structural entries => entries

def entryTokens : String × Value → List Token
  | (key, value) => .key :: .scalar (keyStyle key) key.toList :: .value :: treeTokens value
termination_by structural entry => entry

end

mutual

def treeNode : Value → Node
  | .dict entries => .mapping {} (entriesNodes entries)
  | value => .scalar {} (scalarStyle value) (scalarContents value)
termination_by structural value => value

def entriesNodes : List (String × Value) → List (Node × Node)
  | [] => []
  | entry :: rest => entryNodes entry :: entriesNodes rest
termination_by structural entries => entries

def entryNodes : String × Value → Node × Node
  | (key, value) => (.scalar {} (keyStyle key) key.toList, treeNode value)
termination_by structural entry => entry

end

/-- Where the next token of a text stands: at the key of an entry, or behind all entries. -/
def firstToken (column : Nat) (afterFilled : Bool) (count : Nat) (rest : List Char) :
    List (String × Value) → Nat × List Char
  | [] => (count, rest)
  | (key, value) :: entries =>
      (column, keyLine key ++ ':' :: (valueText column afterFilled value ++
        (linesText (entriesLines column (isFilled value) entries) ++ (spaces count ++ rest))))

section

variable {column count depth : Nat} {afterFilled : Bool} {rest : List Char}
  {entries : List (String × Value)}

def AreInLines (depth : Nat) (entries : List (String × Value)) : Prop :=
  ∀ entry ∈ entries, isLineName entry.1 = true ∧ isLineTree depth entry.2 = true

theorem text_firstToken (inLines : AreInLines depth entries) :
    linesText (entriesLines column afterFilled entries) ++ (spaces count ++ rest) =
      spaces (firstToken column afterFilled count rest entries).1 ++
        (firstToken column afterFilled count rest entries).2 := by
  cases entries with
  | nil => rfl
  | cons entry entries =>
      have isTree := (inLines entry List.mem_cons_self).2
      rw [entriesLines, linesText_append, linesText_entryLines isTree, firstToken]
      simp only [List.append_assoc, List.cons_append]

theorem startsToken_firstToken (inLines : AreInLines depth entries) (starts : StartsToken rest) :
    StartsToken (firstToken column afterFilled count rest entries).2 := by
  cases entries with
  | nil => exact starts
  | cons entry entries =>
      have isName := (inLines entry List.mem_cons_self).1
      exact (spells_key isName).toSpells.startsToken _

theorem firstToken_le (within : count ≤ column) :
    (firstToken column afterFilled count rest entries).1 ≤ column := by
  cases entries with
  | nil => exact within
  | cons entry entries => exact Nat.le_refl _

end

namespace Lenient.Lexer

/-- The lexer makes the tokens of a value out of its text, whatever follows in its block or further
out. -/
def ReadsTree (value : Value) : Prop :=
  ∀ ⦃column count place index row : Nat⦄ ⦃afterFilled : Bool⦄ ⦃rest : List Char⦄
    ⦃tokens result : List Token⦄ ⦃outer : List Nat⦄, StartsToken rest → count ≤ column →
    column < place →
    (∀ lexer, Awaits lexer count rest ((treeTokens value).reverse ++ tokens) (column :: outer) →
      Ends lexer result) →
    Ends (inBlocks
      ⟨.lenient, valueText column afterFilled value ++ (spaces count ++ rest), index, row, place⟩
      tokens (column :: outer) false) result

section

variable {column count depth : Nat} {afterFilled : Bool} {rest : List Char} {lexer : Lexer}
  {tokens opened result : List Token} {columns outer : List Nat} {key : String} {value : Value}
  {entry : String × Value} {entries : List (String × Value)}

theorem spaced_valueText (column : Nat) (afterFilled : Bool) (value : Value) (rest : List Char) :
    (valueText column afterFilled value ++ rest).head?.all (isBlankOrBreak .lenient) = true := by
  unfold valueText
  split
  · split <;> rfl
  · rfl
  · rfl

theorem ends_entry (isName : isLineName key = true) (reads : ReadsTree value)
    (opens : Opens column columns opened (column :: outer)) (starts : StartsToken rest)
    (within : count ≤ column)
    (awaits : Awaits lexer column
      (keyLine key ++ ':' :: (valueText column afterFilled value ++ (spaces count ++ rest))) tokens
      columns)
    (ends : ∀ lexer, Awaits lexer count rest
      ((entryTokens (key, value)).reverse ++ (opened ++ tokens)) (column :: outer) →
        Ends lexer result) : Ends lexer result := by
  apply awaits.key (spells_key isName) (spaced_valueText _ _ _ _) opens
  intro index row
  apply reads starts within (by omega)
  intro lexer awaits
  apply ends
  simpa [entryTokens] using awaits

theorem ends_entries (inLines : AreInLines depth entries)
    (reads : ∀ entry ∈ entries, ReadsTree entry.2) (starts : StartsToken rest)
    (within : count ≤ column)
    (awaits : Awaits lexer (firstToken column afterFilled count rest entries).1
      (firstToken column afterFilled count rest entries).2 tokens (column :: outer))
    (ends : ∀ lexer, Awaits lexer count rest ((entriesTokens entries).reverse ++ tokens)
      (column :: outer) → Ends lexer result) : Ends lexer result := by
  induction entries generalizing afterFilled lexer tokens with
  | nil => exact ends lexer awaits
  | cons entry entries induction =>
      obtain ⟨first, later⟩ := List.forall_mem_cons.1 inLines
      obtain ⟨readsFirst, readsLater⟩ := List.forall_mem_cons.1 reads
      rw [firstToken, text_firstToken later] at awaits
      apply ends_entry first.1 readsFirst (Opens.goesOn outer)
        (startsToken_firstToken later starts) (firstToken_le within) awaits
      intro lexer awaits
      apply induction later readsLater awaits
      intro lexer awaits
      apply ends
      simpa [entriesTokens] using awaits

/-- A block is opened by its first key and closed by the line behind it. -/
theorem ends_block (inLines : AreInLines depth (entry :: entries))
    (reads : ∀ other ∈ entry :: entries, ReadsTree other.2) (opens : indentOf columns < column)
    (starts : StartsToken rest) (within : count ≤ column)
    (closes : indentation count rest < column)
    (awaits : Awaits lexer (firstToken column afterFilled count rest (entry :: entries)).1
      (firstToken column afterFilled count rest (entry :: entries)).2 tokens columns)
    (ends : ∀ lexer, Awaits lexer count rest
      ((treeTokens (.dict (entry :: entries))).reverse ++ tokens) columns → Ends lexer result) :
    Ends lexer result := by
  obtain ⟨first, later⟩ := List.forall_mem_cons.1 inLines
  obtain ⟨readsFirst, readsLater⟩ := List.forall_mem_cons.1 reads
  rw [firstToken, text_firstToken later] at awaits
  apply ends_entry first.1 readsFirst (Opens.starts opens)
    (startsToken_firstToken later starts) (firstToken_le within) awaits
  intro lexer awaits
  apply ends_entries later readsLater starts within awaits
  intro lexer awaits
  apply ends
  have closed := awaits.close closes
  simpa [treeTokens, entriesTokens] using closed

theorem readsTree_scalar (isScalar : isLineScalar value = true) : ReadsTree value := by
  intro column count place index row afterFilled rest tokens result outer starts within inside ends
  have spells := (scalar_of_isLineScalar isScalar).2.1
  have isText : valueText column afterFilled value ++ (spaces count ++ rest) =
      ' ' :: (scalarLine value ++ '\n' :: (spaces count ++ rest)) := by
    simp [valueText_scalar isScalar]
  have oneToken :
      treeTokens value = [.scalar (scalarStyle value) (scalarContents value)] := by
    cases value with
    | dict entries => cases isScalar
    | _ => rfl
  rw [oneToken] at ends
  rw [isText]
  exact ends_scalar spells starts (Int.ofNat_lt.2 inside) (Int.ofNat_le.2 within) ends

theorem readsTree_empty : ReadsTree (.dict []) := by
  intro column count place index row afterFilled rest tokens result outer starts within inside ends
  have braceStarts : StartsToken ('\x7b' :: '\x7d' :: '\n' :: (spaces count ++ rest)) := by
    intro c found
    obtain rfl := Option.some.inj found
    decide
  cases afterFilled with
  | false =>
      apply ends_braces starts (approach_space braceStarts)
      · exact Int.ofNat_lt.2 (Nat.lt_succ_of_lt inside)
      · simp [inBlocks]
      · exact ends
  | true =>
      have isNext : approach (inBlocks ⟨.lenient, '\n' :: (spaces (column + 2) ++
          '\x7b' :: '\x7d' :: '\n' :: (spaces count ++ rest)), index, row, place⟩ tokens
          (column :: outer) false) = _ := approach_break braceStarts
      have isText : valueText column true (.dict []) ++ (spaces count ++ rest) =
          '\n' :: (spaces (column + 2) ++ '\x7b' :: '\x7d' :: '\n' :: (spaces count ++ rest)) := by
        simp [valueText]
      rw [isText]
      apply ends_braces starts isNext
      · exact Int.ofNat_lt.2 (Nat.lt_add_of_pos_right (by decide))
      · simp [inBlocks]
        omega
      · exact ends

theorem readsTree_dict (inLines : AreInLines depth (entry :: entries))
    (reads : ∀ other ∈ entry :: entries, ReadsTree other.2) :
    ReadsTree (.dict (entry :: entries)) := by
  intro column count place index row afterFilled rest tokens result outer starts within inside ends
  have isText : valueText column afterFilled (.dict (entry :: entries)) ++ (spaces count ++ rest) =
      '\n' :: (linesText (entriesLines (column + 2) false (entry :: entries)) ++
        (spaces count ++ rest)) := by
    rw [valueText, List.cons_append]
  have closes : indentation count rest < ((column + 2 : Nat) : Int) := by
    unfold indentation
    split
    · omega
    · omega
  rw [isText, text_firstToken inLines]
  have awaits : Awaits (inBlocks ⟨.lenient,
      '\n' :: (spaces (firstToken (column + 2) false count rest (entry :: entries)).1 ++
        (firstToken (column + 2) false count rest (entry :: entries)).2), index, row, place⟩ tokens
      (column :: outer) false) (firstToken (column + 2) false count rest (entry :: entries)).1
      (firstToken (column + 2) false count rest (entry :: entries)).2 tokens (column :: outer) :=
    awaits_break (startsToken_firstToken inLines starts) (by simp)
  apply ends_block inLines reads _ starts _ closes awaits ends
  · exact Int.ofNat_lt.2 (Nat.lt_add_of_pos_right (by decide))
  · omega

/-- The nesting goes down with the depth, so the induction is on that. -/
theorem readsTree (isTree : isLineTree depth value = true) : ReadsTree value := by
  induction depth generalizing value with
  | zero =>
      rcases isLineTree_cases isTree with isScalar | ⟨_, _, _, isSucc, _⟩
      · exact readsTree_scalar isScalar
      · cases isSucc
  | succ depth induction =>
      rcases isLineTree_cases isTree with isScalar | ⟨entries, _, rfl, isSucc, inLines⟩
      · exact readsTree_scalar isScalar
      · obtain rfl := Nat.succ.inj isSucc
        cases entries with
        | nil => exact readsTree_empty
        | cons entry entries =>
            exact readsTree_dict inLines fun other member => induction (inLines other member).2

end

end Lenient.Lexer

namespace Parser

section

variable {handles : List (List Char × List Char)} {anchors : List (List Char × Nat)}
  {rest more : List Token} {first : Token} {compact : Bool}

theorem node_scalar {style : Style} {contents : List Char} (fuel : Nat) :
    node true compact (fuel + 1) ⟨.lenient, handles, anchors, .scalar style contents :: rest⟩ =
      .ok (.scalar {} style contents, ⟨.lenient, handles, anchors, rest⟩) := rfl

theorem node_braces (fuel : Nat) :
    node true compact (fuel + 2)
        ⟨.lenient, handles, anchors, .flowMappingStart :: .flowMappingEnd :: rest⟩ =
      .ok (.mapping {} [], ⟨.lenient, handles, anchors, rest⟩) := rfl

theorem node_block (fuel : Nat) :
    node true compact (fuel + 1) ⟨.lenient, handles, anchors, .blockMappingStart :: rest⟩ =
      (blockEntries fuel ⟨.lenient, handles, anchors, rest⟩).map fun (entries, parser) =>
        (.mapping {} entries, parser) := by
  cases compact <;> rfl

theorem blockEntries_end (fuel : Nat) :
    blockEntries (fuel + 1) ⟨.lenient, handles, anchors, .blockEnd :: rest⟩ =
      .ok ([], ⟨.lenient, handles, anchors, rest⟩) := rfl

/-- An entry with a scalar for its key and a value. -/
theorem blockEntries_entry (style : Style) (key : List Char) {value : Node}
    {entries : List (Node × Node)} {fuel : Nat} {last : Parser}
    (present : [Token.key, .value, .blockEnd].contains first = false)
    (isValue : node true true (fuel + 1) ⟨.lenient, handles, anchors, first :: more⟩ =
      .ok (value, ⟨.lenient, handles, anchors, rest⟩))
    (isRest : blockEntries (fuel + 1) ⟨.lenient, handles, anchors, rest⟩ = .ok (entries, last)) :
    blockEntries (fuel + 2)
        ⟨.lenient, handles, anchors, .key :: .scalar style key :: .value :: first :: more⟩ =
      .ok ((.scalar {} style key, value) :: entries, last) := by
  generalize isAll : (⟨.lenient, handles, anchors,
    .key :: .scalar style key :: .value :: first :: more⟩ : Parser) = parser
  have isMarked : parser.nextIn [.key] = true := isAll ▸ rfl
  have keyPresent : parser.past.nextIn [.key, .value, .blockEnd] = false := isAll ▸ rfl
  have isKey : node true true (fuel + 1) parser.past = .ok (.scalar {} style key,
      ⟨.lenient, handles, anchors, .value :: first :: more⟩) := isAll ▸ rfl
  have isValued :
      nextIn ⟨.lenient, handles, anchors, .value :: first :: more⟩ [.value] = true := rfl
  have valuePresent :
      ¬nextIn ⟨.lenient, handles, anchors, first :: more⟩ [.key, .value, .blockEnd] = true :=
    Bool.not_eq_true _ ▸ present
  unfold blockEntries
  subst isAll
  dsimp only
  rw [isMarked, keyPresent, if_pos rfl, if_neg Bool.false_ne_true]
  refine (congrArg (· >>= _) isKey).trans ((if_pos ⟨isValued, valuePresent⟩).trans ?_)
  refine (congrArg (· >>= _) isValue).trans ?_
  exact congrArg (· >>= fun found : List (Node × Node) × Parser =>
    Except.ok ((Node.scalar {} style key, value) :: found.1, found.2)) isRest

theorem exists_first (value : Value) : ∃ first more, treeTokens value = first :: more ∧
    [Token.key, .value, .blockEnd].contains first = false := by
  cases value with
  | dict entries =>
      rw [treeTokens]
      split
      · exact ⟨_, _, rfl, rfl⟩
      · exact ⟨_, _, rfl, rfl⟩
  | _ => exact ⟨_, _, rfl, rfl⟩

/-- A step for each token is enough, so the induction is on the steps. -/
theorem parses_tree (fuel : Nat) :
    (∀ value compact rest, (treeTokens value).length ≤ fuel →
      node true compact fuel ⟨.lenient, handles, anchors, treeTokens value ++ rest⟩ =
        .ok (treeNode value, ⟨.lenient, handles, anchors, rest⟩)) ∧
    ∀ entries rest, (entriesTokens entries).length < fuel →
      blockEntries fuel ⟨.lenient, handles, anchors, entriesTokens entries ++ .blockEnd :: rest⟩ =
        .ok (entriesNodes entries, ⟨.lenient, handles, anchors, rest⟩) := by
  induction fuel with
  | zero =>
      constructor
      · intro value compact rest enough
        obtain ⟨first, more, isTokens, _⟩ := exists_first value
        rw [isTokens] at enough
        cases enough
      · nofun
  | succ fuel induction =>
      obtain ⟨nodes, blocks⟩ := induction
      constructor
      · intro value compact rest enough
        cases value with
        | dict entries =>
            cases entries with
            | nil =>
                obtain ⟨fuel, rfl⟩ := Nat.exists_eq_add_of_le' (Nat.le_of_succ_le_succ enough)
                exact node_braces fuel
            | cons entry entries =>
                have isTokens : treeTokens (.dict (entry :: entries)) ++ rest =
                    .blockMappingStart ::
                      (entriesTokens (entry :: entries) ++ .blockEnd :: rest) := by
                  simp [treeTokens]
                have fewer : (entriesTokens (entry :: entries)).length < fuel := by
                  simp [treeTokens] at enough
                  omega
                rw [isTokens, node_block, blocks _ rest fewer]
                rfl
        | _ => exact node_scalar fuel
      · intro entries rest enough
        cases entries with
        | nil => exact blockEntries_end fuel
        | cons entry entries =>
            obtain ⟨key, value⟩ := entry
            simp only [entriesTokens, entryTokens, List.length_append, List.length_cons] at enough
            obtain ⟨fuel, rfl⟩ := Nat.exists_eq_add_of_le' (show 1 ≤ fuel by omega)
            obtain ⟨first, more, isTokens, present⟩ := exists_first value
            have isValue := nodes value true (entriesTokens entries ++ .blockEnd :: rest) (by omega)
            have isRest := blocks entries rest (by omega)
            rw [isTokens, List.cons_append] at isValue
            have isEntry := blockEntries_entry (keyStyle key) key.toList present isValue isRest
            simpa [entriesTokens, entryTokens, isTokens, entriesNodes, entryNodes] using isEntry

end

end Parser

namespace Lenient

section

variable {root : Node} {depth : Nat} {value : Value} {entries : List (String × Value)}

theorem followed_scalar (properties : Properties) (style : Style) (contents : List Char) :
    followed root (.scalar properties style contents) =
      pure (.scalar properties style contents) := rfl

theorem followed_mapping (properties : Properties) (entries : List (Node × Node)) :
    followed root (.mapping properties entries) = pure (.mapping properties entries) := rfl

theorem keyText_scalar (properties : Properties) (style : Style) (contents : List Char) :
    keyText root (.scalar properties style contents) = pure (String.ofList contents) := rfl

theorem value_scalar (isScalar : isLineScalar value = true) :
    Lenient.value root depth (treeNode value) = pure value := by
  have isNode : treeNode value = .scalar {} (scalarStyle value) (scalarContents value) := by
    cases value with
    | dict entries => cases isScalar
    | _ => rfl
  have read : scalarValue {} (scalarStyle value) (scalarContents value) = .ok value :=
    congrArg Except.ok (scalar_of_isLineScalar isScalar).2.2
  have unfolded : ∀ style contents,
      Lenient.value root depth (.scalar {} style contents) =
        (do
          let value ← (liftM (scalarValue {} style contents) : Counting Value)
          pure (named {} value)) := by
    intro style contents
    cases depth with
    | zero => rw [value_zero, followed_scalar, pure_bind]
    | succ depth => rw [value_succ, followed_scalar, pure_bind]
  rw [isNode, unfolded, read]
  rfl

theorem mapM_entriesNodes
    (each : ∀ entry ∈ entries, Lenient.value root depth (treeNode entry.2) = pure entry.2) :
    (entriesNodes entries).mapM (fun entry => do
      let key ← keyText root entry.1
      let value ← Lenient.value root depth entry.2
      pure (key, value)) = (pure entries : Counting _) := by
  induction entries with
  | nil => rfl
  | cons entry entries induction =>
      obtain ⟨key, value⟩ := entry
      obtain ⟨first, later⟩ := List.forall_mem_cons.1 each
      rw [entriesNodes, List.mapM_cons, induction later, entryNodes, keyText_scalar,
        String.ofList_toList, first]
      rfl

theorem value_entriesNodes
    (each : ∀ entry ∈ entries, Lenient.value root depth (treeNode entry.2) = pure entry.2) :
    Lenient.value root (depth + 1) (.mapping {} (entriesNodes entries)) =
      pure (Value.ofEntries entries) := by
  rw [value_succ, followed_mapping, pure_bind]
  dsimp only
  rw [mapM_entriesNodes each, pure_bind]
  rfl

/-- The nodes of a printed value have that value. -/
theorem value_treeNode (isTree : isLineTree depth value = true) (ordered : value.Ordered) :
    Lenient.value root depth (treeNode value) = pure value := by
  induction depth generalizing value with
  | zero =>
      rcases isLineTree_cases isTree with isScalar | ⟨_, _, _, isSucc, _⟩
      · exact value_scalar isScalar
      · cases isSucc
  | succ depth induction =>
      rcases isLineTree_cases isTree with isScalar | ⟨entries, _, rfl, isSucc, inLines⟩
      · exact value_scalar isScalar
      · obtain rfl := Nat.succ.inj isSucc
        have each : ∀ entry ∈ entries,
            Lenient.value root depth (treeNode entry.2) = pure entry.2 := fun entry member =>
          induction (inLines entry member).2 (ordered.entry member)
        rw [treeNode, value_entriesNodes each, Value.ofEntries, ordered.sorted_entries.ofList_eq]

theorem firstToken_render {entry : String × Value}
    (inLines : AreInLines depth (entry :: entries)) :
    firstToken 0 false 0 [] (entry :: entries) =
      (0, linesText (entriesLines 0 false (entry :: entries))) := by
  have isText : linesText (entriesLines 0 false (entry :: entries)) ++ (spaces 0 ++ []) =
      spaces 0 ++ (firstToken 0 false 0 [] (entry :: entries)).2 := text_firstToken inLines
  have noSpaces : spaces 0 = [] := rfl
  rw [noSpaces, List.nil_append, List.nil_append, List.append_nil] at isText
  rw [isText]
  rfl

/-- The tokens of the text of some entries. -/
theorem tokens_render {entry : String × Value} (inLines : AreInLines depth (entry :: entries)) :
    tokens (linesText (entriesLines 0 false (entry :: entries))) =
      .ok (treeTokens (.dict (entry :: entries))) := by
  have isFirst := firstToken_render inLines
  have allowed : ∀ c ∈ linesText (entriesLines 0 false (entry :: entries)), isAllowed c = true :=
    isAllowed_entries false inLines fun other member afterFilled =>
      isAllowed_valueText (inLines other member).2 afterFilled
  have starts : StartsToken (firstToken 0 false 0 [] (entry :: entries)).2 :=
    startsToken_firstToken inLines nofun
  have nonempty : (firstToken 0 false 0 [] (entry :: entries)).2 ≠ [] :=
    List.append_ne_nil_of_right_ne_nil _ (List.cons_ne_nil _ _)
  rw [isFirst] at starts nonempty
  generalize linesText (entriesLines 0 false (entry :: entries)) = text at *
  have ends : Lexer.Ends (.ofText text) (treeTokens (.dict (entry :: entries))).reverse := by
    have endStarts : StartsToken [] := nofun
    have awaits : Lexer.Awaits (Lexer.inBlocks ⟨.lenient, text, 0, 0, 0⟩ [] [] true) 0 text [] [] :=
      Lexer.awaits_token starts
    have awaitsFirst : Lexer.Awaits (Lexer.inBlocks ⟨.lenient, text, 0, 0, 0⟩ [] [] true)
        (firstToken 0 false 0 [] (entry :: entries)).1
        (firstToken 0 false 0 [] (entry :: entries)).2 [] [] := by
      rw [isFirst]
      exact awaits
    refine Lexer.ends_block inLines (fun other member => Lexer.readsTree (inLines other member).2)
      ?_ endStarts (Nat.le_refl 0) ?_ awaitsFirst ?_
    · decide
    · decide
    · intro lexer awaits
      rw [List.append_nil] at awaits
      exact awaits.ends
  rw [Lexer.tokens_of_ends allowed starts nonempty ends, List.reverse_reverse]

theorem document_treeTokens (entry : String × Value) (entries : List (String × Value)) :
    document? (treeTokens (.dict (entry :: entries))) =
      .ok (some (.mapping {} (entriesNodes (entry :: entries)))) := by
  have isTop : Parser.top ⟨.lenient, Parser.standardHandles, [],
      treeTokens (.dict (entry :: entries))⟩ =
      .ok (treeNode (.dict (entry :: entries)), ⟨.lenient, Parser.standardHandles, [], []⟩) := by
    have parsed : Parser.node true false
        (4 * (treeTokens (.dict (entry :: entries))).length + 4) ⟨.lenient,
        Parser.standardHandles, [], treeTokens (.dict (entry :: entries)) ++ []⟩ = _ :=
      (Parser.parses_tree _).1 _ false [] (by omega)
    rwa [List.append_nil] at parsed
  have isDocument : Parser.document? ⟨.lenient, [], [], treeTokens (.dict (entry :: entries))⟩ =
      (Parser.top ⟨.lenient, Parser.standardHandles, [],
        treeTokens (.dict (entry :: entries))⟩).map some := rfl
  unfold document?
  rw [isDocument, isTop]
  rfl

/-- Entries that are printed without blocks of text are read from the text they are printed as. -/
theorem readEntries_render
    (inLines : ∀ entry ∈ entries, isLineName entry.1 = true ∧
      isLineTree (maxDepth - 1) entry.2 = true ∧ entry.2.Ordered) :
    readEntries (Printer.render entries) = .ok (Entries.ofList entries) := by
  cases entries with
  | nil => rfl
  | cons entry entries =>
      have isTokens := tokens_render fun other member =>
        ⟨(inLines other member).1, (inLines other member).2.1⟩
      have isValue : Lenient.value (.mapping {} (entriesNodes (entry :: entries)))
          (maxDepth - 1 + 1) (.mapping {} (entriesNodes (entry :: entries))) = _ :=
        value_entriesNodes fun other member =>
          value_treeNode (inLines other member).2.1 (inLines other member).2.2
      have isText : (Printer.render (entry :: entries)).toList =
          linesText (entriesLines 0 false (entry :: entries)) := String.toList_ofList
      unfold readEntries
      rw [isText, isTokens]
      refine (congrArg (· >>= Lenient.entries) (document_treeTokens entry entries)).trans ?_
      refine (congrArg (fun reading : Counting Value => (do
        match ← reading.run' 0 with
        | .dict entries => .ok entries
        | _ => .error .wrongShape : Except Problem _)) isValue).trans rfl

end

end Lenient

end RpcRegistry.Yaml
