import RpcRegistry.Proofs.Inet.Address
import RpcRegistry.UniversalAddress

/-!
Universal addresses read back, and what becomes of any other text that is read as one. Its last two
dots split it in one way
only, or it has fewer than two; what stands between and behind them is a port octet or not, and what
stands before them is an address literal or not. The cause of a refusal is the first of these that
fails.
-/

namespace RpcRegistry.UniversalAddress

open RpcRegistry.Text RpcRegistry.Inet

theorem splitLast_of_not_mem {mark : Char} {text : List Char} (absent : mark ∉ text) :
    splitLast mark text = none := by
  induction text with
  | nil => rfl
  | cons c rest induction =>
      rw [List.mem_cons, not_or] at absent
      rw [splitLast, induction absent.2]
      exact if_neg (Ne.symm absent.1)

/-- The last mark of a text is the one behind which there is no other. -/
theorem splitLast_append {mark : Char} (before : List Char) {after : List Char}
    (absent : mark ∉ after) : splitLast mark (before ++ mark :: after) = some (before, after) := by
  induction before with
  | nil =>
      rw [List.nil_append, splitLast, splitLast_of_not_mem absent]
      exact if_pos rfl
  | cons c rest induction => rw [List.cons_append, splitLast, induction]

theorem splitLast_eq_none_iff {mark : Char} {text : List Char} :
    splitLast mark text = none ↔ mark ∉ text := by
  constructor
  · intro unsplit
    induction text with
    | nil => exact List.not_mem_nil
    | cons c rest induction =>
        rw [splitLast] at unsplit
        split at unsplit
        · cases unsplit
        · rename_i noLater
          have different : c ≠ mark := by simpa using unsplit
          rw [List.mem_cons, not_or]
          exact ⟨different.symm, induction noLater⟩
  · exact splitLast_of_not_mem

theorem splitLast_eq_some_iff {mark : Char} {text before after : List Char} :
    splitLast mark text = some (before, after) ↔
      text = before ++ mark :: after ∧ mark ∉ after := by
  constructor
  · intro divided
    induction text generalizing before with
    | nil => cases divided
    | cons c rest induction =>
        rw [splitLast] at divided
        split at divided
        · rename_i earlier later found
          obtain ⟨rfl, rfl⟩ := Prod.mk.inj (Option.some.inj divided)
          obtain ⟨joined, absent⟩ := induction found
          exact ⟨by rw [joined, List.cons_append], absent⟩
        · rename_i noLater
          obtain ⟨rfl, same⟩ := Option.ite_none_right_eq_some.1 divided
          obtain ⟨rfl, rfl⟩ := Prod.mk.inj (Option.some.inj same)
          exact ⟨rfl, splitLast_eq_none_iff.1 noLater⟩
  · rintro ⟨rfl, absent⟩
    exact splitLast_append before absent

/-- A host before the last two dots of a text, and the fields between and behind them. -/
structure Parts (text host high low : List Char) : Prop where
  joined : text = host ++ '.' :: high ++ '.' :: low
  high_plain : '.' ∉ high
  low_plain : '.' ∉ low

theorem fields_eq_some_iff {text host high low : List Char} :
    fields? text = some (host, high, low) ↔ Parts text host high low := by
  constructor
  · intro found
    obtain ⟨⟨rest, last⟩, lastDot, found⟩ := Option.bind_eq_some_iff.1 found
    obtain ⟨⟨front, field⟩, earlierDot, same⟩ := Option.bind_eq_some_iff.1 found
    obtain ⟨rfl, ⟨rfl, rfl⟩⟩ := by simpa using same
    obtain ⟨rfl, lowPlain⟩ := splitLast_eq_some_iff.1 lastDot
    obtain ⟨rfl, highPlain⟩ := splitLast_eq_some_iff.1 earlierDot
    exact ⟨rfl, highPlain, lowPlain⟩
  · rintro ⟨rfl, highPlain, lowPlain⟩
    simp only [fields?, splitLast_append _ lowPlain, splitLast_append _ highPlain,
      Option.bind_eq_bind, Option.bind_some]

theorem parts_ofSocket (socket : Socket) :
    Parts (ofSocket socket).toList socket.address.chars
      (Numeral.decimal (socket.port.toNat / 256)) (Numeral.decimal (socket.port.toNat % 256)) := by
  constructor
  · rw [ofSocket, String.toList_ofList, socketChars]
  · exact Numeral.not_mem_decimal (by decide) _
  · exact Numeral.not_mem_decimal (by decide) _

theorem fields_eq_none_iff {text : List Char} : fields? text = none ↔ text.count '.' < 2 := by
  cases lastDot : splitLast '.' text with
  | none =>
      have noDot := List.count_eq_zero_of_not_mem (splitLast_eq_none_iff.1 lastDot)
      simp [fields?, lastDot, noDot]
  | some ends =>
      obtain ⟨rest, low⟩ := ends
      obtain ⟨rfl, lowPlain⟩ := splitLast_eq_some_iff.1 lastDot
      -- What is behind the last dot has none, so the question is whether one is left before it.
      have dots : (rest ++ '.' :: low).count '.' = rest.count '.' + 1 := by
        rw [List.count_append, List.count_cons_self, List.count_eq_zero_of_not_mem lowPlain]
      rw [dots, Nat.add_lt_add_iff_right, Nat.lt_one_iff, List.count_eq_zero,
        ← splitLast_eq_none_iff]
      cases earlierDot : splitLast '.' rest <;> simp [fields?, lastDot, earlierDot]

/-- Decimal digits for a number in one byte, behind a plus or not. -/
def PortOctet (field : List Char) (octet : Nat) : Prop :=
  ∃ digits, (field = digits ∨ field = '+' :: digits) ∧ digits ≠ [] ∧
    (∀ c ∈ digits, Numeral.isDigit 10 c = true) ∧
      Numeral.value 10 digits = octet ∧ octet ≤ 255

theorem octet_eq_some_iff {field : List Char} {octet : Nat} :
    octet? field = some octet ↔ PortOctet field octet := by
  constructor
  · intro read
    obtain ⟨whole, atMost⟩ := Option.filter_eq_some_iff.1 read
    obtain ⟨⟨nonempty, digits⟩, value⟩ := Option.ite_none_right_eq_some.1 whole
    refine ⟨_, ?_, nonempty, List.all_eq_true.1 digits, Option.some.inj value,
      of_decide_eq_true atMost⟩
    split
    · exact Or.inr rfl
    · exact Or.inl rfl
  · rintro ⟨digits, rfl | rfl, nonempty, all, rfl, atMost⟩
    · exact Numeral.unsigned_digits nonempty all atMost
    · have whole : Numeral.whole? 10 digits = some (Numeral.value 10 digits) :=
        if_pos ⟨nonempty, List.all_eq_true.2 all⟩
      simp [octet?, Numeral.unsigned?, whole, atMost]

theorem portOctet_decimal {n : Nat} (octet : n ≤ 255) : PortOctet (Numeral.decimal n) n :=
  octet_eq_some_iff.1 (Numeral.unsigned_decimal octet)

section Classes

variable {text : String}

/-! With the grammars traded for the readers that accept them, each class is a case of what the
readers return. -/

theorem missingPort_iff :
    parse text = .error (.missingPort text) ↔ text.toList.count '.' < 2 := by
  rw [← fields_eq_none_iff, parse]
  cases fields? text.toList with
  | none => simp
  | some parts =>
      obtain ⟨host, high, low⟩ := parts
      dsimp only
      split
      · split <;> simp
      · simp

theorem invalidPort_iff :
    parse text = .error (.invalidPort text) ↔
      ∃ host high low, Parts text.toList host high low ∧
        ¬((∃ octet, PortOctet high octet) ∧ ∃ octet, PortOctet low octet) := by
  simp only [← fields_eq_some_iff, ← octet_eq_some_iff, parse]
  cases fields? text.toList with
  | none => simp
  | some parts =>
      obtain ⟨host, high, low⟩ := parts
      cases highRead : octet? high <;> cases lowRead : octet? low <;>
        cases hostRead : Address.ofChars? host <;> simp_all

theorem invalidHost_iff :
    parse text = .error (.invalidHost text) ↔
      ∃ host high low, Parts text.toList host high low ∧
        ((∃ octet, PortOctet high octet) ∧ ∃ octet, PortOctet low octet) ∧
          ∀ address, ¬Address.Literal host address := by
  simp only [← fields_eq_some_iff, ← octet_eq_some_iff, ← Address.ofChars_eq_some_iff, parse]
  cases fields? text.toList with
  | none => simp
  | some parts =>
      obtain ⟨host, high, low⟩ := parts
      cases highRead : octet? high <;> cases lowRead : octet? low <;>
        cases hostRead : Address.ofChars? host <;> simp_all

theorem socket_iff {socket : Socket} :
    parse text = .ok socket ↔
      ∃ host high low first second, Parts text.toList host high low ∧
        Address.Literal host socket.address ∧ PortOctet high first ∧ PortOctet low second ∧
          socket.port.toNat = 256 * first + second := by
  constructor
  · intro accepted
    unfold parse at accepted
    split at accepted
    · cases accepted
    · rename_i host high low fields
      split at accepted
      · rename_i first second isFirst isSecond
        split at accepted
        · rename_i address isAddress
          obtain rfl := Except.ok.inj accepted
          have firstOctet := octet_eq_some_iff.1 isFirst
          have secondOctet := octet_eq_some_iff.1 isSecond
          refine ⟨host, high, low, first, second, fields_eq_some_iff.1 fields,
            Address.ofChars_eq_some_iff.1 isAddress, firstOctet, secondOctet, ?_⟩
          obtain ⟨_, _, _, _, _, firstMost⟩ := firstOctet
          obtain ⟨_, _, _, _, _, secondMost⟩ := secondOctet
          rw [UInt16.toNat_ofNat', Nat.mod_eq_of_lt]
          omega
        · cases accepted
      · cases accepted
  · rintro ⟨host, high, low, first, second, parts, literal, firstOctet, secondOctet, port⟩
    simp only [parse, fields_eq_some_iff.2 parts, octet_eq_some_iff.2 firstOctet,
      octet_eq_some_iff.2 secondOctet, Address.ofChars_eq_some_iff.2 literal, ← port,
      UInt16.ofNat_toNat]

theorem exists_parts_ofSocket (socket : Socket) :
    ∃ host high low first second, Parts (ofSocket socket).toList host high low ∧
      Address.Literal host socket.address ∧ PortOctet high first ∧ PortOctet low second ∧
        socket.port.toNat = 256 * first + second := by
  have below := socket.port.toNat_lt
  exact ⟨_, _, _, _, _, parts_ofSocket socket, socket.address.literal_chars,
    portOctet_decimal (by omega), portOctet_decimal (by omega), (Nat.div_add_mod _ _).symm⟩

/-- A refusal keeps the whole text. -/
theorem error_keeps_text {error : Error} (refused : parse text = .error error) :
    error = .missingPort text ∨ error = .invalidPort text ∨ error = .invalidHost text := by
  unfold parse at refused
  split at refused
  · exact Or.inl (Except.error.inj refused).symm
  · split at refused
    · split at refused
      · cases refused
      · exact Or.inr (Or.inr (Except.error.inj refused).symm)
    · exact Or.inr (Or.inl (Except.error.inj refused).symm)

end Classes

theorem existsUnique_parts {text : List Char} (dots : 2 ≤ text.count '.') :
    ∃! parts : List Char × List Char × List Char, Parts text parts.1 parts.2.1 parts.2.2 := by
  have split : fields? text ≠ none := fun none => Nat.not_lt.2 dots (fields_eq_none_iff.1 none)
  obtain ⟨⟨host, high, low⟩, found⟩ := Option.ne_none_iff_exists'.1 split
  refine ⟨(host, high, low), fields_eq_some_iff.1 found, ?_⟩
  intro other parts
  have same := fields_eq_some_iff.2 parts
  rw [found] at same
  exact (Option.some.inj same).symm

/-- The universal address of a socket is read as that socket: its address, of either family, and
its port. -/
theorem parse_ofSocket (socket : Socket) : parse (ofSocket socket) = .ok socket :=
  socket_iff.2 (exists_parts_ofSocket socket)

/-- Five dots, of which only the last two stand before port octets. -/
example : ofSocket ⟨.v6 ⟨[0, 0, 0, 0, 0, 0xffff, 0xc000, 0x0201], rfl⟩, 2049⟩ =
    "::ffff:192.0.2.1.8.1" := by
  decide

@[simp]
theorem parse_inet (port : UInt16) :
    parse (ofEndpoint (.inet port)) = .ok ⟨.v4 V4.unspecified, port⟩ :=
  socket_iff.2 (exists_parts_ofSocket _)

@[simp]
theorem parse_inet6 (port : UInt16) :
    parse (ofEndpoint (.inet6 port)) = .ok ⟨.v6 V6.unspecified, port⟩ :=
  socket_iff.2 (exists_parts_ofSocket _)

/-- Every text is read by its parts: fewer than two dots leave no port, and from two on there is one
way to part it. A field that is no octet is reported before a host that is no literal, and what is
left is the socket the three parts spell. -/
theorem parse_classifies (text : String) :
    (parse text = .error (.missingPort text) ↔ text.toList.count '.' < 2) ∧
      (2 ≤ text.toList.count '.' →
        ∃! parts : List Char × List Char × List Char,
          Parts text.toList parts.1 parts.2.1 parts.2.2) ∧
      (parse text = .error (.invalidPort text) ↔
        ∃ host high low, Parts text.toList host high low ∧
          ¬((∃ octet, PortOctet high octet) ∧ ∃ octet, PortOctet low octet)) ∧
      (parse text = .error (.invalidHost text) ↔
        ∃ host high low, Parts text.toList host high low ∧
          ((∃ octet, PortOctet high octet) ∧ ∃ octet, PortOctet low octet) ∧
            ∀ address, ¬Address.Literal host address) ∧
      (∀ socket, parse text = .ok socket ↔
        ∃ host high low first second, Parts text.toList host high low ∧
          Address.Literal host socket.address ∧ PortOctet high first ∧ PortOctet low second ∧
            socket.port.toNat = 256 * first + second) ∧
      (∀ error, parse text = .error error →
        error = .missingPort text ∨ error = .invalidPort text ∨ error = .invalidHost text) ∧
      ∀ host address, Address.ofText? host = some address ↔
        Address.Literal host.toList address := by
  refine ⟨missingPort_iff, existsUnique_parts, invalidPort_iff, invalidHost_iff, ?_, ?_, ?_⟩
  · intro socket
    exact socket_iff
  · intro error refused
    exact error_keeps_text refused
  · intro host address
    exact Address.ofChars_eq_some_iff

/-- Neither part is good here, and it is the port that is reported. -/
example : parse "localhost.256.1" = .error (.invalidPort "localhost.256.1") := by decide

end RpcRegistry.UniversalAddress
