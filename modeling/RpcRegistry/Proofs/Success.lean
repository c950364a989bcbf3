/-!
Readings that may fail, taken apart: one that succeeded was made of parts that did.
-/

namespace RpcRegistry

variable {ε α β : Type}

theorem exists_of_bind_ok {action : Except ε α} {next : α → Except ε β} {result : β}
    (done : (action >>= next) = .ok result) :
    ∃ value, action = .ok value ∧ next value = .ok result := by
  cases action with
  | error problem => cases done
  | ok value => exact ⟨value, rfl, done⟩

theorem exists_of_map_ok {action : Except ε α} {change : α → β} {result : β}
    (done : action.map change = .ok result) :
    ∃ value, action = .ok value ∧ change value = result := by
  cases action with
  | error problem => cases done
  | ok value => exact ⟨value, rfl, Except.ok.inj done⟩

theorem eq_ok_of_toOption {action : Except ε α} {result : α}
    (done : action.toOption = some result) : action = .ok result := by
  cases action with
  | error problem => cases done
  | ok value => rw [Option.some.inj done]

/-- Two readings are alike if both succeed or both fail, and what they give is the same. -/
theorem toOption_eq_of_alike {left right : Except ε α}
    (both : (∃ value, left = .ok value) ↔ ∃ value, right = .ok value)
    (same : ∀ value other, left = .ok value → right = .ok other → value = other) :
    left.toOption = right.toOption := by
  cases left with
  | ok value =>
      obtain ⟨other, isOther⟩ := both.1 ⟨value, rfl⟩
      rw [isOther, same value other rfl isOther]
  | error problem =>
      cases right with
      | ok other =>
          obtain ⟨value, isValue⟩ := both.2 ⟨other, rfl⟩
          cases isValue
      | error otherProblem => rfl

/-! What may be missing is read as what may be missing: either both are, or neither is and the one
is read as the other. -/

section

variable {read : α → Option β} {given : Option α} {result : Option β} {value : α} {built : β}

theorem exists_read_of_given (same : given.map read = result.map some)
    (isGiven : given = some value) : ∃ built, result = some built ∧ read value = some built := by
  subst isGiven
  cases result with
  | none => cases same
  | some built => exact ⟨built, rfl, Option.some.inj same⟩

theorem exists_given_of_read (same : given.map read = result.map some)
    (isBuilt : result = some built) : ∃ value, given = some value ∧ read value = some built := by
  subst isBuilt
  cases given with
  | none => cases same
  | some value => exact ⟨value, rfl, Option.some.inj same⟩

theorem read_eq_none_iff (same : given.map read = result.map some) :
    result = none ↔ given = none := by
  rw [← Option.map_eq_none_iff, ← same, Option.map_eq_none_iff]

end

end RpcRegistry
