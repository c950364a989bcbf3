import Mathlib.Data.List.Induction
import Mathlib.Data.Nat.Digits.Defs
import RpcRegistry.Text.Numeral

/-!
Numerals read back. The digits of a number are digits of their base, stand for that number and have
no needless zero in front; a run of digits ends where the text behind it has no digit.
-/

namespace RpcRegistry.Text.Numeral

theorem digit_digitChar {base n : Nat} (small : n < base) (atMost : base ≤ 16) :
    digit? base n.digitChar = some n := by
  have each : ∀ n < 16, digit? 16 n.digitChar = some n := by decide
  have wide := each n (by omega)
  unfold digit? at wide ⊢
  obtain ⟨value, _⟩ := Option.filter_eq_some_iff.1 wide
  rw [value]
  simp [small]

theorem digit_of_narrower {base wider : Nat} (atMost : base ≤ wider) {c : Char}
    (digit : isDigit base c = true) : isDigit wider c = true := by
  obtain ⟨n, found⟩ := Option.isSome_iff_exists.1 digit
  unfold isDigit digit? at *
  obtain ⟨value, small⟩ := Option.filter_eq_some_iff.1 found
  have below : n < wider := by
    have smaller : n < base := by simpa using small
    omega
  rw [value]
  simp [below]

section Digits

variable {base : Nat} (atLeast : 1 < base) (atMost : base ≤ 16)

include atLeast atMost

theorem isDigit_of_mem_digits (n : Nat) : ∀ c ∈ digits base n, isDigit base c = true := by
  induction n using Nat.strong_induction_on with
  | _ n induction =>
      intro c member
      rw [digits, Nat.toDigits_eq_if atLeast] at member
      split at member
      · rename_i small
        rw [List.mem_singleton.1 member, isDigit, digit_digitChar small atMost]
        rfl
      · rename_i large
        rcases List.mem_append.1 member with earlier | last
        · exact induction (n / base) (Nat.div_lt_self (by omega) atLeast) c earlier
        · rw [List.mem_singleton.1 last, isDigit,
            digit_digitChar (Nat.mod_lt n (by omega)) atMost]
          rfl

theorem value_digits (n : Nat) : value base (digits base n) = n := by
  induction n using Nat.strong_induction_on with
  | _ n induction =>
      rw [digits, Nat.toDigits_eq_if atLeast]
      split
      · rename_i small
        simp [value, digit_digitChar small atMost]
      · rename_i large
        have front := induction (n / base) (Nat.div_lt_self (by omega) atLeast)
        have last := digit_digitChar (Nat.mod_lt n (by omega : 0 < base)) atMost
        unfold value digits at front
        rw [value, List.foldl_append, front, List.foldl_cons, List.foldl_nil, last]
        exact Nat.div_add_mod' n base

end Digits

theorem value_lt {base : Nat} {run : List Char}
    (digits : ∀ c ∈ run, isDigit base c = true) : value base run < base ^ run.length := by
  induction run using List.reverseRecOn with
  | nil => simp [value]
  | append_singleton front last induction =>
      have below := induction fun c member => digits c (List.mem_append_left _ member)
      obtain ⟨n, found⟩ := Option.isSome_iff_exists.1 (digits last (by simp))
      have small : n < base := by
        simpa using (Option.filter_eq_some_iff.1 found).2
      unfold value at below ⊢
      rw [List.foldl_append, List.foldl_cons, List.foldl_nil, found, Option.getD_some,
        List.length_append, List.length_singleton, Nat.pow_succ]
      calc front.foldl _ 0 * base + n
          < (front.foldl _ 0 + 1) * base := by rw [Nat.succ_mul]; omega
        _ ≤ base ^ front.length * base := Nat.mul_le_mul_right base below

theorem isDigit_of_mem_decimal (n : Nat) : ∀ c ∈ decimal n, isDigit 10 c = true :=
  isDigit_of_mem_digits (by decide) (by decide) n

/-- A character that is no digit stands in no run of digits. -/
theorem not_mem_of_digits {base : Nat} {c : Char} {run : List Char}
    (other : isDigit base c = false) (digits : ∀ c ∈ run, isDigit base c = true) : c ∉ run := by
  intro member
  rw [digits c member] at other
  cases other

theorem not_mem_decimal {c : Char} (other : isDigit 10 c = false) (n : Nat) : c ∉ decimal n :=
  not_mem_of_digits other (isDigit_of_mem_decimal n)

theorem digits_ne_nil (base n : Nat) : digits base n ≠ [] := Nat.toDigits_ne_nil

theorem length_digits_le {base n most : Nat} (atLeast : 1 < base) (positive : 0 < most)
    (below : n < base ^ most) : (digits base n).length ≤ most :=
  (Nat.length_toDigits_le_iff atLeast positive).2 below

/-- Only zero itself is written with a zero in front. -/
theorem head_digits {base n : Nat} (atLeast : 1 < base)
    (zero : (digits base n).head? = some '0') : n = 0 := by
  induction n using Nat.strong_induction_on with
  | _ n induction =>
      rw [digits, Nat.toDigits_eq_if atLeast] at zero
      split at zero
      · simpa using zero
      · rename_i large
        rw [List.head?_append, Option.or_of_isSome
          (List.isSome_head?.2 Nat.toDigits_ne_nil)] at zero
        have none := induction (n / base) (Nat.div_lt_self (by omega) atLeast) zero
        have positive : 0 < n / base := Nat.div_pos (by omega) (by omega)
        omega

def EndsRun (base : Nat) (rest : List Char) : Prop :=
  ∀ c, rest.head? = some c → isDigit base c = false

theorem endsRun_nil (base : Nat) : EndsRun base [] := fun _ head => by cases head

theorem endsRun_cons {base : Nat} {c : Char} (other : isDigit base c = false)
    (rest : List Char) : EndsRun base (c :: rest) := by
  intro head same
  obtain rfl := Option.some.inj same
  exact other

theorem EndsRun.narrower {base wider : Nat} {rest : List Char} (ends : EndsRun wider rest)
    (atMost : base ≤ wider) : EndsRun base rest := by
  intro c head
  by_contra digit
  have wide := digit_of_narrower atMost (by simpa using digit)
  rw [ends c head] at wide
  cases wide

section Runs

variable {base : Nat} {run rest : List Char}

theorem takeWhile_run (digits : ∀ c ∈ run, isDigit base c = true) (ends : EndsRun base rest) :
    (run ++ rest).takeWhile (isDigit base) = run := by
  have stop : rest.takeWhile (isDigit base) = [] := by
    cases rest with
    | nil => rfl
    | cons c tail => simp [ends c rfl]
  rw [List.takeWhile_append_of_pos digits, stop, List.append_nil]

theorem dropWhile_run (digits : ∀ c ∈ run, isDigit base c = true) (ends : EndsRun base rest) :
    (run ++ rest).dropWhile (isDigit base) = rest := by
  rw [List.dropWhile_append_of_pos digits]
  cases rest with
  | nil => rfl
  | cons c tail => simp [ends c rfl]

theorem endsRun_dropWhile (base : Nat) (text : List Char) :
    EndsRun base (text.dropWhile (isDigit base)) := by
  intro c head
  have stopped := List.head?_dropWhile_not (isDigit base) text
  rw [head] at stopped
  simpa using stopped

end Runs

/-- A run of digits is read as it stands: none of its digits is a sign. -/
theorem unsigned_digits {bound : Nat} {run : List Char} (nonempty : run ≠ [])
    (digits : ∀ c ∈ run, isDigit 10 c = true) (atMost : value 10 run ≤ bound) :
    unsigned? bound run = some (value 10 run) := by
  have whole : whole? 10 run = some (value 10 run) :=
    if_pos ⟨nonempty, List.all_eq_true.2 digits⟩
  unfold unsigned?
  split
  · have digit := digits '+' List.mem_cons_self
    exact absurd digit (by decide)
  · simp [whole, atMost]

theorem unsigned_decimal {bound n : Nat} (atMost : n ≤ bound) :
    unsigned? bound (decimal n) = some n := by
  have value : value 10 (decimal n) = n := value_digits (by decide) (by decide) n
  have atMost : Numeral.value 10 (decimal n) ≤ bound := value.le.trans atMost
  have read := unsigned_digits (digits_ne_nil 10 n) (isDigit_of_mem_decimal n) atMost
  exact read.trans (congrArg some value)

end RpcRegistry.Text.Numeral
