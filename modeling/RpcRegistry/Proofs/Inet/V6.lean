import RpcRegistry.Inet.V6
import RpcRegistry.Proofs.Inet.V4

/-!
IPv6 literals. A row of groups is read group by group up to a double colon or the end of the text,
and a dotted quad takes the place of its last two groups. So the reader accepts a whole text
exactly where it is a literal: one row of eight groups, or two rows of fewer with a double colon
between them. The text of an address is a literal of it, whichever zeros it squeezes.
-/

namespace RpcRegistry.Inet

open RpcRegistry.Text

namespace V6

theorem groups_ne_nil (address : V6) : address.groups ≠ [] := by
  apply List.ne_nil_of_length_pos
  rw [address.length_eq]
  decide

structure GroupLiteral (text : List Char) (group : UInt16) : Prop where
  nonempty : text ≠ []
  short : text.length ≤ 4
  digits : ∀ c ∈ text, Numeral.isDigit 16 c = true
  value : Numeral.value 16 text = group.toNat

/-- Groups with colons between them. A dotted quad may stand for the last two, and then the flag
is set. -/
inductive RowLiteral : List Char → List UInt16 → Bool → Prop where
  | group {text : List Char} {group : UInt16} (literal : GroupLiteral text group) :
      RowLiteral text [group] false
  | quad {text : List Char} {address : V4} (literal : V4.Literal text address) :
      RowLiteral text address.groups true
  | cons {text rest : List Char} {group : UInt16} {groups : List UInt16} {quad : Bool}
      (literal : GroupLiteral text group) (row : RowLiteral rest groups quad) :
      RowLiteral (text ++ ':' :: rest) (group :: groups) quad

/-- What may stand on a side of a double colon: a row of groups, or nothing. -/
inductive SideLiteral : List Char → List UInt16 → Bool → Prop where
  | none : SideLiteral [] [] false
  | row {text : List Char} {groups : List UInt16} {quad : Bool}
      (literal : RowLiteral text groups quad) : SideLiteral text groups quad

theorem SideLiteral.row_of_groups {text : List Char} {groups : List UInt16} {quad : Bool}
    (literal : SideLiteral text groups quad) (some : groups ≠ []) :
    RowLiteral text groups quad := by
  cases literal with
  | none => exact absurd rfl some
  | row literal => exact literal

/-- Eight groups, or fewer around a double colon that stands for the zeros between them. A dotted
quad comes last. -/
inductive Literal : List Char → V6 → Prop where
  | whole {text : List Char} {address : V6} {quad : Bool}
      (row : RowLiteral text address.groups quad) : Literal text address
  | squeezed {front back : List Char} {high low : List UInt16} {zeros : Nat} {quad : Bool}
      {address : V6} (before : SideLiteral front high false) (behind : SideLiteral back low quad)
      (some : 0 < zeros) (parts : high ++ List.replicate zeros 0 ++ low = address.groups) :
      Literal (front ++ ':' :: ':' :: back) address

theorem readGroup_eq_some_iff {text rest : List Char} {group : UInt16} :
    readGroup text = some (group, rest) ↔
      ∃ front, text = front ++ rest ∧ GroupLiteral front group ∧ Numeral.EndsRun 16 rest := by
  constructor
  · intro read
    obtain ⟨⟨run, behind⟩, digits, same⟩ := Option.bind_eq_some_iff.1 read
    obtain ⟨joined, nonempty, short, all, ends⟩ := readDigits_eq_some_iff.1 digits
    obtain ⟨rfl, rfl⟩ := Prod.mk.inj (Option.some.inj same)
    refine ⟨run, joined, ⟨nonempty, short, all, ?_⟩, ends⟩
    have below := Numeral.value_lt all
    have atMost : 16 ^ run.length ≤ 16 ^ 4 := Nat.pow_le_pow_right (by decide) short
    rw [UInt16.toNat_ofNat', Nat.mod_eq_of_lt]
    omega
  · rintro ⟨front, rfl, literal, ends⟩
    have read : readDigits 16 4 (front ++ rest) = some (front, rest) :=
      readDigits_eq_some_iff.2 ⟨rfl, literal.nonempty, literal.short, literal.digits, ends⟩
    simp only [readGroup, read, Option.bind_eq_bind, Option.bind_some, literal.value,
      UInt16.ofNat_toNat]

theorem readGroup_of_ends {text : List Char} (ends : Numeral.EndsRun 16 text) :
    readGroup text = none := by
  simp [readGroup, readDigits_of_ends ends]

/-- A run of hexadecimal digits without a dot behind it begins no dotted quad. -/
theorem read_quad_of_run {run rest : List Char}
    (digits : ∀ c ∈ run, Numeral.isDigit 16 c = true) (ends : Numeral.EndsRun 16 rest)
    (other : rest.head? ≠ some '.') : V4.read (run ++ rest) = none := by
  apply V4.read_of_head
  induction run with
  | nil =>
      rw [List.nil_append, ← List.nil_append rest,
        Numeral.dropWhile_run (by simp) (ends.narrower (by decide))]
      exact other
  | cons c run induction =>
      have later := induction fun c member => digits c (List.mem_cons_of_mem _ member)
      rw [List.cons_append, List.dropWhile_cons]
      split
      · exact later
      · -- The first letter among the digits is no dot either.
        intro dot
        obtain rfl := Option.some.inj dot
        exact absurd (digits '.' List.mem_cons_self) (by decide)

theorem read_quad_of_ends {text : List Char} (ends : Numeral.EndsRun 16 text)
    (other : text.head? ≠ some '.') : V4.read text = none := by
  have noDigits : ∀ c ∈ ([] : List Char), Numeral.isDigit 16 c = true := by simp
  exact read_quad_of_run noDigits ends other

/-- What may stand behind a row of groups that is read to its end: nothing, or a double colon. -/
def Closes (rest : List Char) : Prop := rest = [] ∨ ∃ behind, rest = ':' :: ':' :: behind

theorem endsRun_colon (rest : List Char) : Numeral.EndsRun 16 (':' :: rest) :=
  Numeral.endsRun_cons (by decide) rest

theorem Closes.ends {rest : List Char} (closes : Closes rest) :
    Numeral.EndsRun 16 rest ∧ rest.head? ≠ some '.' := by
  rcases closes with rfl | ⟨behind, rfl⟩
  · exact ⟨Numeral.endsRun_nil 16, by simp⟩
  · exact ⟨endsRun_colon _, by simp⟩

section Rows

variable {room : Nat} {first : Bool} {text rest : List Char} {groups : List UInt16} {quad : Bool}

theorem readRow_of_none (room : Nat) (first : Bool) (text : List Char)
    (quad : (afterMark ':' first text).bind V4.read = none)
    (group : (afterMark ':' first text).bind readGroup = none) :
    readRow room first text = ⟨[], false, text⟩ := by
  cases room with
  | zero => rfl
  | succ room => simp [readRow, quad, group]

/-- A group with its mark before it, and something behind it that is no part of it. -/
theorem readRow_group {front : List Char} {group : UInt16} (literal : GroupLiteral front group)
    (marked : afterMark ':' first text = some (front ++ rest))
    (ends : Numeral.EndsRun 16 rest) (other : rest.head? ≠ some '.') :
    readRow (room + 1) first text =
      let row := readRow room false rest
      ⟨group :: row.groups, row.quad, row.rest⟩ := by
  have quad : (if room = 0 then none else (afterMark ':' first text).bind V4.read) = none := by
    rw [marked, Option.bind_some, read_quad_of_run literal.digits ends other, ite_self]
  have read := readGroup_eq_some_iff.2 ⟨front, rfl, literal, ends⟩
  rw [readRow, quad, marked, Option.bind_some, read]

theorem readRow_quad {front : List Char} {address : V4} (literal : V4.Literal front address)
    (marked : afterMark ':' first text = some (front ++ rest))
    (ends : Numeral.EndsRun 10 rest) :
    readRow (room + 2) first text = ⟨address.groups, true, rest⟩ := by
  have read := V4.read_eq_some_iff.2 ⟨front, rfl, literal, ends⟩
  simp [readRow, marked, read]

theorem readRow_closes (room : Nat) (first : Bool) (closes : Closes rest) :
    readRow room first rest = ⟨[], false, rest⟩ := by
  have nothing : ∀ behind, afterMark ':' first rest = some behind →
      V4.read behind = none ∧ readGroup behind = none := by
    intro behind marked
    have stops : Numeral.EndsRun 16 behind ∧ behind.head? ≠ some '.' := by
      cases first with
      | true =>
          obtain rfl := Option.some.inj marked
          exact closes.ends
      | false =>
          rcases closes with rfl | ⟨rest, rfl⟩
          · cases marked
          · rw [afterMark_mark] at marked
            obtain rfl := Option.some.inj marked
            exact ⟨endsRun_colon rest, by simp⟩
    exact ⟨read_quad_of_ends stops.1 stops.2, readGroup_of_ends stops.1⟩
  apply readRow_of_none
  · exact Option.bind_eq_none_iff.2 fun behind marked => (nothing behind marked).1
  · exact Option.bind_eq_none_iff.2 fun behind marked => (nothing behind marked).2

/-- A row is read to its end where there is room for its groups and nothing continues it. -/
theorem readRow_literal {front : List Char} (literal : RowLiteral front groups quad)
    (fits : groups.length ≤ room) (marked : afterMark ':' first text = some (front ++ rest))
    (closes : Closes rest) : readRow room first text = ⟨groups, quad, rest⟩ := by
  induction literal generalizing room first text with
  | group literal =>
      obtain ⟨room, rfl⟩ := Nat.exists_eq_add_of_le' fits
      rw [List.length_singleton, readRow_group literal marked closes.ends.1 closes.ends.2,
        readRow_closes _ _ closes]
  | quad literal =>
      obtain ⟨room, rfl⟩ := Nat.exists_eq_add_of_le' fits
      exact readRow_quad literal marked (closes.ends.1.narrower (by decide))
  | @cons front more group groups quad literal row induction =>
      obtain ⟨room, rfl⟩ := Nat.exists_eq_add_of_le' fits
      have later : readRow (room + groups.length) false (':' :: (more ++ rest)) =
          ⟨groups, quad, rest⟩ :=
        induction (Nat.le_add_left _ _) (afterMark_mark _ _)
      rw [List.append_assoc, List.cons_append] at marked
      rw [List.length_cons, ← Nat.add_assoc,
        readRow_group literal marked (endsRun_colon _) (by simp), later]

theorem readRow_side {front : List Char} (literal : SideLiteral front groups quad)
    (fits : groups.length ≤ room) (closes : Closes rest) :
    readRow room true (front ++ rest) = ⟨groups, quad, rest⟩ := by
  cases literal with
  | none => exact readRow_closes room true closes
  | row literal => exact readRow_literal literal fits (afterMark_first _ _) closes

/-- What is read as a row is nothing, or a literal of the groups that come of it. -/
theorem row_of_readRow (room : Nat) (first : Bool) (text : List Char) :
    let row := readRow room first text
    row.groups.length ≤ room ∧
      (row.groups = [] ∧ row.quad = false ∧ row.rest = text ∨
        ∃ front, afterMark ':' first text = some (front ++ row.rest) ∧
          RowLiteral front row.groups row.quad) := by
  induction room generalizing first text with
  | zero => exact ⟨Nat.le_refl 0, Or.inl ⟨rfl, rfl, rfl⟩⟩
  | succ room induction =>
      simp only [readRow]
      split
      · rename_i address rest found
        split at found
        · cases found
        · rename_i positive
          obtain ⟨marked, isMarked, read⟩ := Option.bind_eq_some_iff.1 found
          obtain ⟨front, rfl, literal, _⟩ := V4.read_eq_some_iff.1 read
          have fits : address.groups.length ≤ room + 1 :=
            Nat.succ_le_succ (Nat.pos_of_ne_zero positive)
          exact ⟨fits, Or.inr ⟨front, isMarked, .quad literal⟩⟩
      · split
        · rename_i group rest found
          obtain ⟨marked, isMarked, read⟩ := Option.bind_eq_some_iff.1 found
          obtain ⟨front, rfl, literal, _⟩ := readGroup_eq_some_iff.1 read
          obtain ⟨fits, later⟩ := induction false rest
          refine ⟨Nat.succ_le_succ fits, Or.inr ?_⟩
          rcases later with ⟨noGroups, noQuad, allLeft⟩ | ⟨more, isMore, row⟩
          · refine ⟨front, ?_, ?_⟩
            · rw [allLeft]
              exact isMarked
            · rw [noGroups, noQuad]
              exact .group literal
          · refine ⟨front ++ ':' :: more, ?_, .cons literal row⟩
            rw [isMarked, List.append_assoc, List.cons_append]
            exact congrArg (fun behind => some (front ++ behind)) (eq_cons_of_afterMark isMore)
        · exact ⟨Nat.zero_le _, Or.inl ⟨rfl, rfl, rfl⟩⟩

theorem side_of_readRow (room : Nat) (text : List Char) :
    let row := readRow room true text
    row.groups.length ≤ room ∧ ∃ front, text = front ++ row.rest ∧
      SideLiteral front row.groups row.quad := by
  intro row
  obtain ⟨fits, ⟨noGroups, noQuad, allLeft⟩ | ⟨front, isText, literal⟩⟩ :=
    row_of_readRow room true text
  · refine ⟨fits, [], allLeft.symm, ?_⟩
    rw [noGroups, noQuad]
    exact .none
  · exact ⟨fits, front, Option.some.inj isText, .row literal⟩

/-- No dotted quad begins where a row of groups does, unless it is the whole row. -/
theorem RowLiteral.read_quad {front : List Char} (literal : RowLiteral front groups quad)
    (groupFirst : quad = false ∨ 2 < groups.length) (closes : Closes rest) :
    V4.read (front ++ rest) = none := by
  cases literal with
  | group literal => exact read_quad_of_run literal.digits closes.ends.1 closes.ends.2
  | @quad text address literal =>
      have two : address.groups.length = 2 := rfl
      simp [two] at groupFirst
  | cons literal row =>
      rw [List.append_assoc, List.cons_append]
      exact read_quad_of_run literal.digits (endsRun_colon _) (by simp)

end Rows

/-- No dotted quad begins where an IPv6 literal does. -/
theorem Literal.read_quad {text : List Char} {address : V6} (literal : Literal text address) :
    V4.read text = none := by
  cases literal with
  | whole row =>
      have read := row.read_quad (Or.inr (by rw [address.length_eq]; decide)) (Or.inl rfl)
      rwa [List.append_nil] at read
  | squeezed before behind some parts =>
      cases before with
      | none => exact read_quad_of_ends (endsRun_colon _) (by simp)
      | row literal => exact literal.read_quad (Or.inl rfl) (Or.inr ⟨_, rfl⟩)

/-- The longest run of zeros lies inside the groups and holds nothing but zeros. -/
theorem longestZeroRun_zeros (groups : List UInt16) :
    let (start, length) := longestZeroRun groups
    start + length ≤ groups.length ∧
      groups.take start ++ List.replicate length 0 ++ groups.drop (start + length) = groups := by
  induction groups with
  | nil => exact ⟨Nat.le_refl 0, rfl⟩
  | cons group rest induction =>
      obtain ⟨inside, parts⟩ := induction
      simp only [longestZeroRun]
      split
      · -- The run at the front: what is taken off there are zeros, and the rest follows them.
        let run := (group :: rest).takeWhile (· = 0)
        have zeros : run = List.replicate run.length 0 := by
          refine List.eq_replicate_iff.2 ⟨rfl, fun item member => ?_⟩
          simpa using List.all_eq_true.1 List.all_takeWhile item member
        have behind : (group :: rest).drop run.length = (group :: rest).dropWhile (· = 0) := by
          have parts : run ++ (group :: rest).dropWhile (· = 0) = group :: rest :=
            List.takeWhile_append_dropWhile
          rw [← parts, List.drop_left, parts]
        refine ⟨?_, ?_⟩
        · rw [Nat.zero_add]
          exact (List.takeWhile_prefix _).length_le
        · rw [List.take_zero, List.nil_append, Nat.zero_add, ← zeros, behind]
          exact List.takeWhile_append_dropWhile
      · refine ⟨?_, ?_⟩
        · rw [List.length_cons]
          omega
        · rw [List.take_succ_cons, List.cons_append, List.cons_append, Nat.add_right_comm,
            List.drop_succ_cons, parts]

/-- An address is made of its front and back groups when there are only zeros between them. -/
theorem ofEnds_zeros (address : V6) {front back : List UInt16} {zeros : Nat}
    (parts : front ++ List.replicate zeros 0 ++ back = address.groups) :
    ofEnds front back = some address := by
  have length := address.length_eq
  rw [← parts, List.length_append, List.length_append, List.length_replicate] at length
  have same : 8 - front.length - back.length = zeros := by omega
  simp only [ofEnds, same, parts, address.length_eq, dif_pos]

theorem groups_ofGroups (high low : UInt16) : (V4.ofGroups high low).groups = [high, low] := by
  have joined : ∀ word : UInt16, UInt16.ofNat (256 * (UInt8.ofNat (word.toNat / 256)).toNat +
      (UInt8.ofNat (word.toNat % 256)).toNat) = word := by
    intro word
    have below := word.toNat_lt
    have octets : 256 * (UInt8.ofNat (word.toNat / 256)).toNat +
        (UInt8.ofNat (word.toNat % 256)).toNat = word.toNat := by
      rw [UInt8.toNat_ofNat', UInt8.toNat_ofNat']
      omega
    rw [octets, UInt16.ofNat_toNat]
  rw [V4.groups, V4.ofGroups, joined high, joined low]

theorem groups_of_mapped {address : V6} {embedded : V4}
    (mapped : address.mapped = some embedded) :
    address.groups = [0, 0, 0, 0, 0, 0xffff] ++ embedded.groups := by
  unfold V6.mapped at mapped
  split at mapped
  · rename_i high low groups
    obtain rfl := Option.some.inj mapped
    rw [groups, groups_ofGroups]
    rfl
  · cases mapped

theorem groups_of_ofEnds {front back : List UInt16} {address : V6}
    (filled : ofEnds front back = some address) :
    front ++ List.replicate (8 - front.length - back.length) 0 ++ back = address.groups := by
  simp only [ofEnds] at filled
  split at filled
  · obtain rfl := Option.some.inj filled
    rfl
  · cases filled

theorem literal_of_read {text : List Char} {address : V6}
    (parsed : read text = some (address, [])) : Literal text address := by
  obtain ⟨fits, front, isText, side⟩ := side_of_readRow 8 text
  simp only [read, Option.bind_eq_bind] at parsed
  split at parsed
  · -- Eight groups leave nothing for a double colon to stand for, and the text must end here.
    rename_i full
    obtain ⟨whole, filled, same⟩ := Option.bind_eq_some_iff.1 parsed
    obtain ⟨rfl, noRest⟩ := Prod.mk.inj (Option.some.inj same)
    have groups := groups_of_ofEnds filled
    simp only [full, List.length_nil, Nat.sub_self, List.replicate_zero, List.append_nil]
      at groups
    rw [noRest, List.append_nil] at isText
    rw [groups, ← isText] at side
    exact .whole (side.row_of_groups whole.groups_ne_nil)
  · rename_i short
    split at parsed
    · cases parsed
    · -- Fewer groups, and no quad among them, are the side before a double colon.
      rename_i noQuad
      split at parsed
      · rename_i behind isRest
        obtain ⟨squeezed, filled, same⟩ := Option.bind_eq_some_iff.1 parsed
        obtain ⟨rfl, noRest⟩ := Prod.mk.inj (Option.some.inj same)
        obtain ⟨backFits, back, isBehind, backSide⟩ :=
          side_of_readRow (7 - (readRow 8 true text).groups.length) behind
        rw [noRest, List.append_nil] at isBehind
        obtain rfl := isBehind
        rw [Bool.eq_false_iff.2 noQuad] at side
        rw [isText, isRest]
        exact .squeezed side backSide (by omega) (groups_of_ofEnds filled)
      · cases parsed

theorem read_of_literal {text : List Char} {address : V6} (literal : Literal text address) :
    read text = some (address, []) := by
  cases literal with
  | @whole text address quad row =>
      have isRow : readRow 8 true text = ⟨address.groups, quad, []⟩ :=
        readRow_literal row address.length_eq.le (by simp) (Or.inl rfl)
      have parts : address.groups ++ List.replicate 0 0 ++ [] = address.groups := by simp
      rw [read, isRow]
      simp only [address.length_eq, if_true, ofEnds_zeros address parts, Option.bind_eq_bind,
        Option.bind_some]
  | @squeezed front back high low zeros quad address before behind some parts =>
      have length := address.length_eq
      rw [← parts, List.length_append, List.length_append, List.length_replicate] at length
      have isFront : readRow 8 true (front ++ ':' :: ':' :: back) =
          ⟨high, false, ':' :: ':' :: back⟩ :=
        readRow_side before (by omega) (Or.inr ⟨back, rfl⟩)
      have isBack : readRow (7 - high.length) true (back ++ []) = ⟨low, quad, []⟩ :=
        readRow_side behind (by omega) (Or.inl rfl)
      have short : high.length ≠ 8 := by omega
      rw [List.append_nil] at isBack
      rw [read, isFront]
      simp only [short, if_false, Bool.false_eq_true, isBack, ofEnds_zeros address parts,
        Option.bind_eq_bind, Option.bind_some]

/-- The reader takes a text to its end exactly where it is a literal. -/
theorem read_eq_some_iff {text : List Char} {address : V6} :
    read text = some (address, []) ↔ Literal text address :=
  ⟨literal_of_read, read_of_literal⟩

theorem groupLiteral_text (group : UInt16) : GroupLiteral (groupText group) group := by
  have below := group.toNat_lt
  constructor
  · exact Numeral.digits_ne_nil 16 group.toNat
  · exact Numeral.length_digits_le (by decide) (by decide) (by omega)
  · exact Numeral.isDigit_of_mem_digits (by decide) (by decide) group.toNat
  · exact Numeral.value_digits (by decide) (by decide) group.toNat

theorem sideLiteral_groupsText (groups : List UInt16) :
    SideLiteral (groupsText groups) groups false := by
  induction groups with
  | nil => exact .none
  | cons group rest induction =>
      have literal := groupLiteral_text group
      cases rest with
      | nil =>
          have alone : groupsText [group] = groupText group := by simp [groupsText]
          rw [alone]
          exact .row (.group literal)
      | cons next rest =>
          have joined : groupsText (group :: next :: rest) =
              groupText group ++ ':' :: groupsText (next :: rest) := by
            simp [groupsText]
          rw [joined]
          exact .row (.cons literal (induction.row_of_groups (List.cons_ne_nil next rest)))

theorem text_of_mapped {address : V6} {embedded : V4}
    (mapped : address.mapped = some embedded) :
    address.text = [] ++ ':' :: ':' :: (groupText 0xffff ++ ':' :: embedded.text) := by
  rw [text, mapped]
  rfl

/-- The text of an address that embeds none: two rows of groups with a double colon between them,
or one row of all groups. -/
theorem text_of_unmapped {address : V6} (unmapped : address.mapped = none) :
    (∃ front back zeros, 0 < zeros ∧
      front ++ List.replicate zeros 0 ++ back = address.groups ∧
        address.text = groupsText front ++ ':' :: ':' :: groupsText back) ∨
      address.text = groupsText address.groups := by
  obtain ⟨_, parts⟩ := longestZeroRun_zeros address.groups
  rw [text, unmapped]
  dsimp only
  split
  · rename_i squeezed
    exact .inl ⟨_, _, _, by omega, parts, by simp⟩
  · exact .inr rfl

theorem literal_text (address : V6) : Literal address.text address := by
  cases mapped : address.mapped with
  | some embedded =>
      have parts : [] ++ List.replicate 5 0 ++ 0xffff :: embedded.groups = address.groups :=
        (groups_of_mapped mapped).symm
      rw [text_of_mapped mapped]
      exact .squeezed .none (.row (.cons (groupLiteral_text 0xffff) (.quad embedded.literal_text)))
        (by decide) parts
  | none =>
      rcases text_of_unmapped mapped with ⟨front, back, zeros, some, parts, squeezed⟩ | whole
      · rw [squeezed]
        exact .squeezed (sideLiteral_groupsText front) (sideLiteral_groupsText back) some parts
      · rw [whole]
        exact .whole ((sideLiteral_groupsText address.groups).row_of_groups address.groups_ne_nil)

end V6

end RpcRegistry.Inet
