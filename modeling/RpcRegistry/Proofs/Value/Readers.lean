import RpcRegistry.Value

/-!
What the readers of values accept: a text, a number within its bound, a member by its name, and a
record with no other names than its own. Each reader is compared with the values it takes.
-/

namespace RpcRegistry

namespace Value

theorem optionalNat_eq_some_iff {bound : Nat} {value : Value} {given : Option Nat} :
    optionalNat? bound value = some given ↔ value = ofNat? given ∧ ∀ n ∈ given, n ≤ bound := by
  constructor
  · intro isRead
    cases value with
    | null =>
        cases isRead
        exact ⟨rfl, nofun⟩
    | int m =>
        obtain ⟨⟨nonneg, inBound⟩, same⟩ := Option.ite_none_right_eq_some.1 isRead
        cases same
        constructor
        · rw [ofNat?, Int.toNat_of_nonneg nonneg]
        · intro n isGiven
          cases isGiven
          omega
    | _ => cases isRead
  · rintro ⟨rfl, inBound⟩
    cases given with
    | none => rfl
    | some n =>
        have inRange : (0 : Int) ≤ n ∧ (n : Int) ≤ bound := by
          have atMost := inBound n rfl
          omega
        rw [ofNat?, optionalNat?, if_pos inRange, Int.toNat_natCast]

theorem optionalNat_ofNat_of_lt {size : Nat} {given : Option Nat}
    (fits : ∀ n ∈ given, n < size) : optionalNat? (size - 1) (ofNat? given) = some given := by
  apply optionalNat_eq_some_iff.2
  constructor
  · rfl
  · intro n isGiven
    exact Nat.le_sub_one_of_lt (fits n isGiven)

theorem optionalString_ofText (given : Option String) :
    optionalString? (ofText? given) = some given := by
  cases given <;> rfl

/-- The members that a value gives: an object has no other names, and an array gives the members in
order and may stop early. -/
inductive RecordOf (names : List String) : Value → List (String × Value) → Prop where
  | object {entries : List (String × Value)} (known : ∀ entry ∈ entries, entry.1 ∈ names) :
      RecordOf names (.dict entries) entries
  | array {items : List Value} (fits : items.length ≤ names.length) :
      RecordOf names (.list items) (names.zip items)

theorem record_dict {names : List String} {entries members : List (String × Value)} :
    record? names (.dict entries) = some members ↔
      (∀ entry ∈ entries, entry.1 ∈ names) ∧ members = entries := by
  have known : (entries.all fun entry => names.contains entry.1) = true ↔
      ∀ entry ∈ entries, entry.1 ∈ names := by simp
  rw [record?, Option.ite_none_right_eq_some, known, Option.some.injEq, eq_comm (a := entries)]

theorem record_eq_some_iff {names : List String} {value : Value}
    {members : List (String × Value)} :
    record? names value = some members ↔ RecordOf names value members := by
  constructor
  · intro isRead
    cases value with
    | dict entries =>
        obtain ⟨known, rfl⟩ := record_dict.1 isRead
        exact .object known
    | list items =>
        obtain ⟨fits, same⟩ := Option.ite_none_right_eq_some.1 isRead
        obtain rfl := Option.some.inj same
        exact .array fits
    | _ => cases isRead
  · intro isRecord
    cases isRecord with
    | object known => exact record_dict.2 ⟨known, rfl⟩
    | array fits => exact if_pos fits

end Value

namespace Entries

variable {α : Type} {read : Value → Option α} {key : String} {members : List (String × Value)}
  {value : Value}

theorem read_of_get (found : Entries.get? key members = some value) (absent : Option α) :
    Entries.read? key absent read members = read value := by
  rw [Entries.read?, found]

theorem read_string_iff {text : String} :
    Entries.read? key none Value.string? members = some text ↔
      Entries.get? key members = some (.text text) := by
  constructor
  · intro isRead
    unfold Entries.read? at isRead
    split at isRead
    · rename_i value given
      cases value <;> cases isRead
      exact given
    · cases isRead
  · intro given
    rw [Entries.read?, given]
    rfl

/-- A number that is read can be written. -/
theorem optionalNat_ofNat {bound : Nat} {given : Option Nat}
    (isRead : Entries.read? key (some none) (Value.optionalNat? bound) members = some given) :
    Value.optionalNat? bound (Value.ofNat? given) = some given := by
  unfold Entries.read? at isRead
  split at isRead
  · obtain ⟨rfl, _⟩ := Value.optionalNat_eq_some_iff.1 isRead
    exact isRead
  · cases isRead
    rfl

def text? (key : String) (members : List (String × Value)) : Option String :=
  (Entries.get? key members).bind Value.string?

theorem read_text_iff {text absent : String} :
    Entries.read? key (some absent) Value.string? members = some text ↔
      (∀ given ∈ Entries.get? key members, ∃ text, given = .text text) ∧
        (text? key members).getD absent = text := by
  unfold Entries.read? text?
  cases Entries.get? key members with
  | none => simp
  | some given => cases given <;> simp [Value.string?]

theorem read_path_iff {path : Option String} :
    Entries.read? key (some none) Value.optionalString? members = some path ↔
      (∀ given ∈ Entries.get? key members, given = .null ∨ ∃ path, given = .text path) ∧
        text? key members = path := by
  unfold Entries.read? text?
  cases Entries.get? key members with
  | none => simp
  | some given => cases given <;> simp [Value.string?, Value.optionalString?]

end Entries

end RpcRegistry
