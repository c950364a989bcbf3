import RpcRegistry.Value

/-!
Equality of values, decided part by part, so that what a text is read as can be compared in a proof.
-/

namespace RpcRegistry.Value

mutual

def same : Value → Value → Bool
  | .null, .null => true
  | .bool left, .bool right => left = right
  | .int left, .int right => left = right
  | .float left, .float right => left = right
  | .text left, .text right => left = right
  | .list left, .list right => sameItems left right
  | .dict left, .dict right => sameEntries left right
  | _, _ => false
termination_by structural left => left

def sameItems : List Value → List Value → Bool
  | [], [] => true
  | left :: rest, right :: others => same left right && sameItems rest others
  | _, _ => false
termination_by structural left => left

def sameEntries : List (String × Value) → List (String × Value) → Bool
  | [], [] => true
  | left :: rest, right :: others => samePair left right && sameEntries rest others
  | _, _ => false
termination_by structural left => left

def samePair : String × Value → String × Value → Bool
  | (leftKey, left), (rightKey, right) => leftKey = rightKey && same left right
termination_by structural left => left

end

mutual

theorem same_iff : ∀ left right, same left right = true ↔ left = right
  | .null, right => by cases right <;> simp [same]
  | .bool _, right => by cases right <;> simp [same]
  | .int _, right => by cases right <;> simp [same]
  | .float _, right => by cases right <;> simp [same]
  | .text _, right => by cases right <;> simp [same]
  | .list left, right => by
      cases right with
      | list right => rw [same, sameItems_iff left right, list.injEq]
      | _ => simp [same]
  | .dict left, right => by
      cases right with
      | dict right => rw [same, sameEntries_iff left right, dict.injEq]
      | _ => simp [same]
termination_by structural left => left

theorem sameItems_iff : ∀ left right, sameItems left right = true ↔ left = right
  | [], right => by cases right <;> simp [sameItems]
  | left :: rest, right => by
      cases right with
      | nil => simp [sameItems]
      | cons right others =>
          rw [sameItems, Bool.and_eq_true, same_iff left right, sameItems_iff rest others,
            List.cons.injEq]
termination_by structural left => left

theorem sameEntries_iff : ∀ left right, sameEntries left right = true ↔ left = right
  | [], right => by cases right <;> simp [sameEntries]
  | left :: rest, right => by
      cases right with
      | nil => simp [sameEntries]
      | cons right others =>
          rw [sameEntries, Bool.and_eq_true, samePair_iff left right, sameEntries_iff rest others,
            List.cons.injEq]
termination_by structural left => left

theorem samePair_iff : ∀ left right, samePair left right = true ↔ left = right
  | (leftKey, left), (rightKey, right) => by
      rw [samePair, Bool.and_eq_true, same_iff left right, decide_eq_true_eq, Prod.mk.injEq]
termination_by structural left => left

end

instance : DecidableEq Value := fun left right =>
  decidable_of_iff (same left right = true) (same_iff left right)

end RpcRegistry.Value
