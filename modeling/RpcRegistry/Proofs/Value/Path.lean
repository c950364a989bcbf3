import RpcRegistry.Proofs.Value.Ordered

/-!
Merged values seen through look-up by path. A value settles a path if it holds something there, or
on the way something that is no dictionary: then whatever it is laid over has no say. So of several
layers the uppermost that settles a path decides what stands there. Layers that never disagree
about more than dictionaries act together as one.
-/

namespace RpcRegistry.Value

/-- Whether a value leaves nothing to the values below it at a path. -/
def Settles (value : Value) (path : List String) : Prop :=
  (∃ held, value.at? path = some held) ∨
    ∃ above below held, path = above ++ below ∧ below ≠ [] ∧
      value.at? above = some held ∧ held.isDict = false

section

variable {value lower upper held : Value} {entries : List (String × Value)} {key : String}
  {path : List String}

@[simp]
theorem at_nil (value : Value) : value.at? [] = some value := by
  cases value <;> rfl

@[simp]
theorem at_dict : (Value.dict entries).at? (key :: path) =
    (Entries.get? key entries).bind fun inner => inner.at? path := rfl

theorem at_of_not_dict (notDict : value.isDict = false) : value.at? (key :: path) = none := by
  cases value <;> first | rfl | cases notDict

theorem settles_of_at (found : value.at? path = some held) : Settles value path :=
  Or.inl ⟨held, found⟩

theorem settles_of_not_dict (notDict : value.isDict = false) : Settles value path := by
  cases path with
  | nil => exact settles_of_at (at_nil value)
  | cons key path =>
      exact Or.inr ⟨[], key :: path, value, rfl, List.cons_ne_nil _ _, at_nil value, notDict⟩

theorem settles_dict : Settles (.dict entries) (key :: path) ↔
    ∃ inner, Entries.get? key entries = some inner ∧ Settles inner path := by
  constructor
  · rintro (⟨held, found⟩ | ⟨above, below, held, split, below_ne, found, notDict⟩)
    · obtain ⟨inner, bound, found⟩ := Option.bind_eq_some_iff.1 found
      exact ⟨inner, bound, settles_of_at found⟩
    · cases above with
      | nil =>
          rw [at_nil] at found
          obtain rfl := Option.some.inj found
          cases notDict
      | cons first above =>
          obtain ⟨rfl, rfl⟩ := List.cons.inj split
          obtain ⟨inner, bound, found⟩ := Option.bind_eq_some_iff.1 found
          exact ⟨inner, bound, Or.inr ⟨above, below, held, rfl, below_ne, found, notDict⟩⟩
  · rintro ⟨inner, bound, ⟨held, found⟩ | ⟨above, below, held, rfl, below_ne, found, notDict⟩⟩
    · have found : (Value.dict entries).at? (key :: path) = some held := by
        rw [at_dict, bound, Option.bind_some, found]
      exact settles_of_at found
    · refine Or.inr ⟨key :: above, below, held, rfl, below_ne, ?_, notDict⟩
      rw [at_dict, bound, Option.bind_some, found]

/-- The upper value alone decides where it settles the path or the lower one has nothing to
say. -/
theorem at_iff_at_or_below (alone : Settles upper path ∨ lower.at? path ≠ some held) :
    upper.at? path = some held ↔
      upper.at? path = some held ∨ ¬ Settles upper path ∧ lower.at? path = some held := by
  refine ⟨Or.inl, ?_⟩
  rintro (found | ⟨unsettled, found⟩)
  · exact found
  · exact absurd found (alone.resolve_left unsettled)

theorem at_merge_nil (notDict : held.isDict = false) :
    (lower.merge upper).at? [] = some held ↔ upper.at? [] = some held := by
  rw [at_nil, at_nil]
  cases upperDict : upper.isDict with
  | false => rw [merge_of_not_dict upperDict]
  | true =>
      have notHeld : ∀ {whole : Value}, whole.isDict = true → some whole ≠ some held := by
        intro whole isDict same
        rw [Option.some.inj same, notDict] at isDict
        cases isDict
      have mergedDict : (lower.merge upper).isDict = true := by
        obtain ⟨entries, rfl⟩ := eq_dict_of_isDict upperDict
        cases lower <;> rfl
      exact iff_of_false (notHeld mergedDict) (notHeld upperDict)

/-- What stands at a path after merging: the upper value's if it settles the path, else the lower
value's. -/
theorem at_merge (ordered : Ordered upper) (notDict : held.isDict = false) :
    (lower.merge upper).at? path = some held ↔
      upper.at? path = some held ∨ ¬ Settles upper path ∧ lower.at? path = some held := by
  induction path generalizing lower upper with
  | nil =>
      rw [at_merge_nil notDict]
      exact at_iff_at_or_below (Or.inl (settles_of_at (at_nil upper)))
  | cons key path induction =>
      cases upperDict : upper.isDict with
      | false =>
          rw [merge_of_not_dict upperDict]
          exact at_iff_at_or_below (Or.inl (settles_of_not_dict upperDict))
      | true =>
          cases lowerDict : lower.isDict with
          | false =>
              rw [merge_of_lower_not_dict lowerDict]
              exact at_iff_at_or_below (Or.inr (by rw [at_of_not_dict lowerDict]; exact nofun))
          | true =>
              obtain ⟨entries, rfl⟩ := eq_dict_of_isDict upperDict
              obtain ⟨below, rfl⟩ := eq_dict_of_isDict lowerDict
              rw [merge_dict, at_dict, at_dict, at_dict, settles_dict,
                get_mergeEntries ordered.sorted_entries.nodup_keys]
              cases above : Entries.get? key entries with
              | none => simp
              | some inner =>
                  cases under : Entries.get? key below with
                  | none => simp [joined]
                  | some lower =>
                      have inside : (lower.merge inner).at? path = some held ↔ _ :=
                        induction (ordered.get above)
                      simpa [joined] using inside

end

end RpcRegistry.Value
