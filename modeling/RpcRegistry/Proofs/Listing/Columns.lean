import RpcRegistry.Proofs.Listing

/-!
A listing read back. Every column but the last holds one word, so a line can be taken apart at its
blanks however far a word is wider than its column, and the owner is all that stands behind the
blank after the port. The port column tells a socket path from an internet address.
-/

namespace RpcRegistry

open Text

/-- A mapping whose line can be taken apart again: its socket path, if it has one, is a word. -/
structure Mapping.Listable (mapping : Mapping) : Prop where
  owner : '\n' ∉ mapping.owner.toList
  path : ∀ path ∈ mapping.endpoint.path?, path ≠ "" ∧ ' ' ∉ path.toList ∧ '\n' ∉ path.toList

namespace Listing

structure Columns where
  program : List Char
  version : List Char
  netId : List Char
  address : List Char
  port : List Char
  owner : List Char
  deriving DecidableEq, Repr

def row (mapping : Mapping) : List Char := (mappingLine mapping).dropLast

def nextWord (text : List Char) : List Char × List Char :=
  ((text.dropWhile (· = ' ')).takeWhile (· ≠ ' '), (text.dropWhile (· = ' ')).dropWhile (· ≠ ' '))

def number? (text : List Char) : Option UInt32 :=
  (Numeral.unsigned? (UInt32.size - 1) text).map UInt32.ofNat

/-- The endpoint of an address: with a dash for its port it is a socket path. -/
def endpoint? (address port : List Char) : Option Endpoint :=
  if port = ['-'] then some (.socketPath (String.ofList address))
  else
    match UniversalAddress.parse (String.ofList address) with
    | .ok ⟨.v4 _, port⟩ => some (.inet port)
    | .ok ⟨.v6 _, port⟩ => some (.inet6 port)
    | .error _ => none

namespace Columns

def texts (columns : Columns) : List (List Char) :=
  [columns.program, columns.version, columns.netId, columns.address, columns.port, columns.owner]

def ofMapping (mapping : Mapping) : Columns :=
  { program := Numeral.decimal mapping.program.toNat
    version := Numeral.decimal mapping.version.toNat
    netId := mapping.netId.name.toList
    address := mapping.universalAddress.toList
    port := portColumn mapping
    owner := mapping.owner.toList }

/-- The columns side by side with a blank between them, each but the last one filled with blanks up
to its width: numbers on the left, names and addresses on the right. -/
def spread (columns : Columns) : List Char :=
  [' '].intercalate
    [padLeft ' ' 10 columns.program, padLeft ' ' 5 columns.version, padRight ' ' 10 columns.netId,
      padRight ' ' 24 columns.address, padLeft ' ' 5 columns.port, columns.owner]

def ofRow (text : List Char) : Columns :=
  let program := nextWord text
  let version := nextWord program.2
  let netId := nextWord version.2
  let address := nextWord netId.2
  let port := nextWord address.2
  ⟨program.1, version.1, netId.1, address.1, port.1, port.2.drop 1⟩

def mapping? (columns : Columns) : Option Mapping := do
  let program ← number? columns.program
  let version ← number? columns.version
  let netId ← NetId.ofName? (String.ofList columns.netId)
  let endpoint ← endpoint? columns.address columns.port
  some ⟨program, version, netId, endpoint, String.ofList columns.owner⟩

end Columns

/-- The mappings of a listing; its first line is the header and behind its last there is none. -/
def read? (listing : String) : Option (List Mapping) :=
  ((listing.toList.splitOn '\n').tail.dropLast).mapM fun text => (Columns.ofRow text).mapping?

def IsWord (text : List Char) : Prop := text ≠ [] ∧ ' ' ∉ text

section Words

variable {word rest : List Char}

@[simp]
theorem nextWord_blank (text : List Char) : nextWord (' ' :: text) = nextWord text := by
  simp [nextWord]

@[simp]
theorem nextWord_blanks (count : Nat) (text : List Char) :
    nextWord (List.replicate count ' ' ++ text) = nextWord text := by
  induction count with
  | zero => rfl
  | succ count induction => rw [List.replicate_succ, List.cons_append, nextWord_blank, induction]

theorem nextWord_word (isWord : IsWord word) :
    nextWord (word ++ ' ' :: rest) = (word, ' ' :: rest) := by
  obtain ⟨nonempty, noBlank⟩ := isWord
  have letters : ∀ c ∈ word, decide (c ≠ ' ') = true := by
    intro c member
    apply decide_eq_true
    intro isBlank
    exact noBlank (isBlank ▸ member)
  have front : (word ++ ' ' :: rest).dropWhile (· = ' ') = word ++ ' ' :: rest := by
    cases word with
    | nil => exact absurd rfl nonempty
    | cons c tail =>
        have letter : c ≠ ' ' := by simpa using letters c List.mem_cons_self
        rw [List.cons_append, List.dropWhile_cons_of_neg (by simpa using letter)]
  unfold nextWord
  rw [front, List.takeWhile_append_of_pos letters, List.dropWhile_append_of_pos letters]
  simp

theorem nextWord_padLeft (isWord : IsWord word) (width : Nat) :
    nextWord (padLeft ' ' width word ++ ' ' :: rest) = (word, ' ' :: rest) := by
  rw [padLeft, List.append_assoc, nextWord_blanks, nextWord_word isWord]

theorem nextWord_padRight (isWord : IsWord word) (width : Nat) :
    nextWord (padRight ' ' width word ++ ' ' :: rest) =
      (word, List.replicate (width - word.length) ' ' ++ ' ' :: rest) := by
  have moved : ∀ count, List.replicate count ' ' ++ ' ' :: rest =
      ' ' :: (List.replicate count ' ' ++ rest) := by
    intro count
    rw [← List.cons_append, ← List.replicate_succ, List.replicate_succ', List.append_assoc]
    rfl
  rw [padRight, List.append_assoc, moved]
  exact nextWord_word isWord

theorem ofRow_line {program version netId address port : List Char} (owner : List Char)
    (programWord : IsWord program) (versionWord : IsWord version) (netIdWord : IsWord netId)
    (addressWord : IsWord address) (portWord : IsWord port) :
    Columns.ofRow (line program version netId address port owner).dropLast =
      ⟨program, version, netId, address, port, owner⟩ := by
  rw [line, List.dropLast_concat]
  simp only [List.append_assoc, List.cons_append, Columns.ofRow]
  simp only [nextWord_padLeft programWord, nextWord_blank, nextWord_padLeft versionWord,
    nextWord_padRight netIdWord, nextWord_blanks, nextWord_padRight addressWord,
    nextWord_padLeft portWord, List.drop_succ_cons, List.drop_zero]

end Words

section Texts

variable {mapping : Mapping} {c : Char}

theorem isWord_decimal (n : Nat) : IsWord (Numeral.decimal n) :=
  ⟨Numeral.digits_ne_nil 10 n, Numeral.not_mem_decimal (by decide) n⟩

theorem isWord_netId (netId : NetId) : IsWord netId.name.toList := by
  unfold IsWord
  cases netId <;> decide

theorem isWord_portColumn (mapping : Mapping) : IsWord (portColumn mapping) := by
  rw [portColumn_eq]
  split
  · exact isWord_decimal _
  · exact ⟨by decide, by decide⟩

theorem not_mem_ofSocket {address : Inet.Address} (notHost : c ∉ address.chars)
    (notDot : c ≠ '.') (notDigit : Numeral.isDigit 10 c = false) (port : UInt16) :
    c ∉ (UniversalAddress.ofSocket ⟨address, port⟩).toList := by
  rw [UniversalAddress.ofSocket, String.toList_ofList, UniversalAddress.socketChars]
  simp [notHost, notDot, Numeral.not_mem_decimal notDigit]

theorem ofSocket_ne_nil (socket : Inet.Socket) :
    (UniversalAddress.ofSocket socket).toList ≠ [] := by
  rw [UniversalAddress.ofSocket, String.toList_ofList, UniversalAddress.socketChars]
  simp

theorem isWord_address (listable : mapping.Listable) : IsWord mapping.universalAddress.toList := by
  obtain ⟨program, version, netId, endpoint, owner⟩ := mapping
  cases endpoint with
  | socketPath path =>
      obtain ⟨nonempty, noBlank, _⟩ := listable.path path rfl
      have notNil : path.toList ≠ [] := by simpa using nonempty
      exact ⟨notNil, noBlank⟩
  | inet port =>
      exact ⟨ofSocket_ne_nil _, not_mem_ofSocket (by decide) (by decide) (by decide) port⟩
  | inet6 port =>
      exact ⟨ofSocket_ne_nil _, not_mem_ofSocket (by decide) (by decide) (by decide) port⟩

theorem feed_not_mem_address (listable : mapping.Listable) :
    '\n' ∉ mapping.universalAddress.toList := by
  obtain ⟨program, version, netId, endpoint, owner⟩ := mapping
  cases endpoint with
  | socketPath path => exact (listable.path path rfl).2.2
  | inet port => exact not_mem_ofSocket (by decide) (by decide) (by decide) port
  | inet6 port => exact not_mem_ofSocket (by decide) (by decide) (by decide) port

theorem feed_not_mem_portColumn (mapping : Mapping) : '\n' ∉ portColumn mapping := by
  rw [portColumn_eq]
  split
  · exact Numeral.not_mem_decimal (by decide) _
  · decide

end Texts

section Lines

variable {mapping : Mapping}

theorem mappingLine_eq (mapping : Mapping) : mappingLine mapping = row mapping ++ ['\n'] := by
  rw [row, mappingLine, line, List.dropLast_concat]

theorem header_eq : header = header.dropLast ++ ['\n'] := by
  rw [header, line, List.dropLast_concat]

theorem spread_ofMapping (mapping : Mapping) :
    (Columns.ofMapping mapping).spread = row mapping := by
  rw [row, mappingLine, line, List.dropLast_concat]
  simp [Columns.spread, Columns.ofMapping, List.intercalate]

/-- The listing as its characters: the names of the columns, then the columns of each mapping. -/
theorem toList_render (mappings : List Mapping) : (render mappings).toList =
    "   program  vers netid      address                   port owner\n".toList ++
      mappings.flatMap fun mapping => (Columns.ofMapping mapping).spread ++ ['\n'] := by
  have names : header =
      "   program  vers netid      address                   port owner\n".toList := by decide
  simp only [render, String.toList_ofList, names, spread_ofMapping, ← mappingLine_eq]

theorem render_eq_join (mappings : List Mapping) : render mappings =
    String.join (String.ofList header :: mappings.map fun mapping =>
      String.ofList (mappingLine mapping)) := by
  apply String.toList_inj.1
  simp [render, String.toList_join, List.flatMap_map]

theorem feed_not_mem_row (listable : mapping.Listable) : '\n' ∉ row mapping := by
  have decimals := Numeral.not_mem_decimal (c := '\n') (by decide)
  have netId : '\n' ∉ mapping.netId.name.toList := by cases mapping.netId <;> decide
  rw [row, mappingLine, line, List.dropLast_concat]
  simp [padLeft, padRight, decimals, netId, feed_not_mem_address listable,
    feed_not_mem_portColumn, listable.owner]

theorem ofRow_row (listable : mapping.Listable) :
    Columns.ofRow (row mapping) = Columns.ofMapping mapping :=
  ofRow_line _ (isWord_decimal _) (isWord_decimal _) (isWord_netId _) (isWord_address listable)
    (isWord_portColumn mapping)

theorem column_infix_row {column : List Char} (mapping : Mapping)
    (member : column ∈ (Columns.ofMapping mapping).texts) : column <:+: row mapping := by
  let columns := Columns.ofMapping mapping
  have parts : row mapping = List.flatten
      [padLeft ' ' 10 columns.program, [' '], padLeft ' ' 5 columns.version, [' '],
        padRight ' ' 10 columns.netId, [' '], padRight ' ' 24 columns.address, [' '],
        padLeft ' ' 5 columns.port, [' '], columns.owner] := by
    rw [row, mappingLine, line, List.dropLast_concat]
    simp [columns, Columns.ofMapping]
  have left : ∀ width (text : List Char), text <:+: padLeft ' ' width text :=
    fun _ _ => (List.suffix_append _ _).isInfix
  have right : ∀ width (text : List Char), text <:+: padRight ' ' width text :=
    fun _ _ => (List.prefix_append _ _).isInfix
  rw [parts]
  simp only [Columns.texts, List.mem_cons, List.not_mem_nil, or_false] at member
  rcases member with rfl | rfl | rfl | rfl | rfl | rfl
  · exact (left 10 _).trans (List.infix_of_mem_flatten (by simp [columns]))
  · exact (left 5 _).trans (List.infix_of_mem_flatten (by simp [columns]))
  · exact (right 10 _).trans (List.infix_of_mem_flatten (by simp [columns]))
  · exact (right 24 _).trans (List.infix_of_mem_flatten (by simp [columns]))
  · exact (left 5 _).trans (List.infix_of_mem_flatten (by simp [columns]))
  · exact List.infix_of_mem_flatten (by simp [columns])

theorem number_decimal (n : UInt32) : number? (Numeral.decimal n.toNat) = some n := by
  have below := n.toNat_lt
  have atMost : n.toNat ≤ UInt32.size - 1 := by
    unfold UInt32.size
    omega
  rw [number?, Numeral.unsigned_decimal atMost, Option.map_some, UInt32.ofNat_toNat]

theorem endpoint_columns (mapping : Mapping) :
    endpoint? mapping.universalAddress.toList (portColumn mapping) = some mapping.endpoint := by
  have noDash : ∀ n, Numeral.decimal n ≠ ['-'] := by
    intro n same
    have dash := Numeral.not_mem_decimal (c := '-') (by decide) n
    rw [same] at dash
    exact dash List.mem_cons_self
  rw [portColumn_eq, endpoint?]
  obtain ⟨program, version, netId, endpoint, owner⟩ := mapping
  cases endpoint with
  | socketPath path => simp [Endpoint.port?, Mapping.universalAddress, UniversalAddress.ofEndpoint]
  | inet port | inet6 port =>
      simp only [Endpoint.port?, noDash, if_false, Mapping.universalAddress, String.ofList_toList,
        UniversalAddress.parse_inet, UniversalAddress.parse_inet6]

theorem mapping_columns (mapping : Mapping) :
    (Columns.ofMapping mapping).mapping? = some mapping := by
  unfold Columns.mapping? Columns.ofMapping
  simp only [number_decimal, String.ofList_toList, NetId.ofName_name, endpoint_columns,
    Option.bind_eq_bind, Option.bind_some]

end Lines

section Tables

variable {mappings : List Mapping}

theorem split_rows (listable : ∀ mapping ∈ mappings, mapping.Listable) :
    (mappings.flatMap mappingLine).splitOn '\n' = mappings.map row ++ [[]] := by
  induction mappings with
  | nil => rfl
  | cons mapping rest induction =>
      obtain ⟨headListable, restListable⟩ := List.forall_mem_cons.1 listable
      rw [List.flatMap_cons, mappingLine_eq, List.append_assoc, List.singleton_append,
        List.splitOn_append_cons_self_of_not_mem (feed_not_mem_row headListable),
        induction restListable]
      rfl

theorem split_render (listable : ∀ mapping ∈ mappings, mapping.Listable) :
    (render mappings).toList.splitOn '\n' =
      header.dropLast :: (mappings.map row ++ [[]]) := by
  have noFeed : '\n' ∉ header.dropLast := by decide
  rw [render, String.toList_ofList, header_eq, List.append_assoc, List.singleton_append,
    List.splitOn_append_cons_self_of_not_mem noFeed, split_rows listable, ← header_eq]

theorem read_render (listable : ∀ mapping ∈ mappings, mapping.Listable) :
    read? (render mappings) = some mappings := by
  have rows : ∀ rest ⊆ mappings,
      (rest.map row).mapM (fun text => (Columns.ofRow text).mapping?) = some rest := by
    intro rest
    induction rest with
    | nil => exact fun _ => rfl
    | cons mapping rest induction =>
        intro among
        obtain ⟨member, restAmong⟩ := List.cons_subset.1 among
        rw [List.map_cons, List.mapM_cons, ofRow_row (listable mapping member), mapping_columns,
          induction restAmong]
        rfl
  rw [read?, split_render listable, List.tail_cons, List.dropLast_concat]
  exact rows mappings (List.Subset.refl _)

end Tables

end Listing

/-- A listing loses nothing. Behind its header it has one line for each mapping, in order; each line
has the whole of every column and is read as its mapping, so the listing is read as the mappings,
and no other mappings have it. -/
theorem Listing.render_loses_nothing {mappings : List Mapping}
    (listable : ∀ mapping ∈ mappings, mapping.Listable) :
    (render mappings).toList.splitOn '\n' = header.dropLast :: (mappings.map row ++ [[]]) ∧
      (∀ mapping ∈ mappings,
        Columns.ofRow (row mapping) = Columns.ofMapping mapping ∧
          (Columns.ofMapping mapping).mapping? = some mapping) ∧
      read? (render mappings) = some mappings ∧
      (∀ others : List Mapping, (∀ other ∈ others, other.Listable) →
        render others = render mappings → others = mappings) ∧
      ∀ mapping : Mapping,
        (∀ column ∈ (Columns.ofMapping mapping).texts, column <:+: row mapping) ∧
          ∀ port, mapping.endpoint.port? = some port →
            portColumn mapping = Numeral.decimal port.toNat ∧ portColumn mapping ≠ ['?'] := by
  constructor
  · exact split_render listable
  constructor
  · intro mapping member
    exact ⟨ofRow_row (listable mapping member), mapping_columns mapping⟩
  constructor
  · exact read_render listable
  constructor
  · intro others othersListable same
    have readOthers := read_render othersListable
    rw [same, read_render listable] at readOthers
    exact (Option.some.inj readOthers).symm
  intro mapping
  constructor
  · intro column member
    exact column_infix_row mapping member
  · intro port isPort
    have column : portColumn mapping = Numeral.decimal port.toNat := by
      rw [portColumn_eq, isPort]
    constructor
    · exact column
    · intro same
      have mark := Numeral.not_mem_decimal (c := '?') (by decide) port.toNat
      rw [← column, same] at mark
      exact mark List.mem_cons_self

/-- A version wider than its column, a path wider than its column and not in ASCII, and an owner
that starts with blanks. -/
def Listing.wideMappings : List Mapping :=
  [⟨100024, 4294967295, .tcp6, .inet6 904, "  a b"⟩,
    ⟨100005, 1, .ticotsord, .socketPath "/var/run/été/mountd.ticotsord", ""⟩]

theorem Listing.read_render_wide :
    (∀ mapping ∈ wideMappings, mapping.Listable) ∧
      read? (render wideMappings) = some wideMappings := by
  have listable : ∀ mapping ∈ wideMappings, mapping.Listable := by
    intro mapping member
    rcases List.mem_pair.1 member with rfl | rfl
    · exact ⟨by decide, by decide⟩
    · exact ⟨by decide, by decide⟩
  exact ⟨listable, (render_loses_nothing listable).2.2.1⟩

end RpcRegistry
