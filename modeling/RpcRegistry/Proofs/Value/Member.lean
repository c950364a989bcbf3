import RpcRegistry.Proofs.Value.Stored

/-!
Members of values that may be missing. Under a key, a value laid over another holds the one member
laid over the other, as long as the upper value is a dictionary if it is there at all.
-/

namespace RpcRegistry.Value

def member? (given : Option Value) (key : String) : Option Value :=
  given.bind fun value => value.at? [key]

section

variable {lower upper : Option Value} {value inner stored : Value} {key : String}
  {entries : List (String × Value)}

@[simp]
theorem member_none (key : String) : member? none key = none := rfl

@[simp]
theorem member_dict (key : String) :
    member? (some (.dict entries)) key = Entries.get? key entries := by
  rw [member?, Option.bind_some, at_dict]
  cases Entries.get? key entries with
  | none => rfl
  | some inner => rw [Option.bind_some, at_nil]

theorem member_of_not_dict (notDict : value.isDict = false) (key : String) :
    member? (some value) key = none :=
  at_of_not_dict notDict

theorem joined_eq_none_iff : joined lower upper = none ↔ lower = none ∧ upper = none := by
  cases lower <;> cases upper <;> simp [joined]

theorem joined_of_not_dict (lower : Option Value) (notDict : value.isDict = false) :
    joined lower (some value) = some value := by
  cases lower with
  | none => rfl
  | some below => exact congrArg some (merge_of_not_dict notDict)

theorem isDict_of_joined (isJoined : joined lower (some inner) = some value)
    (isDict : value.isDict = true) : inner.isDict = true := by
  cases innerDict : inner.isDict with
  | true => rfl
  | false =>
      rw [joined_of_not_dict lower innerDict] at isJoined
      rw [← Option.some.inj isJoined, innerDict] at isDict
      exact isDict

theorem forall_isDict_of_joined (isJoined : joined lower upper = some value)
    (isDict : value.isDict = true) : ∀ value ∈ upper, value.isDict = true := by
  rintro inner rfl
  exact isDict_of_joined isJoined isDict

theorem isDict_joined (isDict : inner.isDict = true)
    (isJoined : joined lower (some inner) = some value) : value.isDict = true := by
  obtain ⟨entries, rfl⟩ := eq_dict_of_isDict isDict
  cases lower with
  | none =>
      cases isJoined
      rfl
  | some below =>
      cases isJoined
      cases below <;> rfl

/-- Dictionaries make a dictionary. -/
theorem forall_joined_isDict (lowerDict : ∀ value ∈ lower, value.isDict = true)
    (upperDict : ∀ value ∈ upper, value.isDict = true) :
    ∀ value ∈ joined lower upper, value.isDict = true := by
  cases upper with
  | none => rwa [joined_none]
  | some above => exact fun value isJoined => isDict_joined (upperDict above rfl) isJoined

theorem exists_joined_dict (isDict : value.isDict = true)
    (upperDict : ∀ value ∈ upper, value.isDict = true) :
    ∃ entries, joined (some value) upper = some (.dict entries) := by
  obtain ⟨whole, isWhole⟩ : ∃ whole, joined (some value) upper = some whole := by
    cases upper <;> exact ⟨_, rfl⟩
  obtain ⟨entries, rfl⟩ := eq_dict_of_isDict
    (forall_joined_isDict (by simpa using isDict) upperDict whole isWhole)
  exact ⟨entries, isWhole⟩

theorem member_joined (dictionary : ∀ value ∈ upper, value.isDict = true)
    (ordered : ∀ value ∈ upper, Ordered value) (key : String) :
    member? (joined lower upper) key = joined (member? lower key) (member? upper key) := by
  cases upper with
  | none => rw [joined_none, member_none, joined_none]
  | some value =>
      obtain ⟨entries, rfl⟩ := eq_dict_of_isDict (dictionary _ rfl)
      have sorted := (ordered _ rfl).sorted_entries
      cases lower with
      | none => rfl
      | some below =>
          cases belowDict : below.isDict with
          | false =>
              rw [joined, merge_of_lower_not_dict belowDict, member_of_not_dict belowDict]
              rfl
          | true =>
              obtain ⟨belowEntries, rfl⟩ := eq_dict_of_isDict belowDict
              rw [joined, merge_dict, member_dict, member_dict, member_dict,
                get_mergeEntries sorted.nodup_keys]

theorem member_merge (isDict : inner.isDict = true) (ordered : Ordered inner) (key : String) :
    member? (some (value.merge inner)) key =
      joined (member? (some value) key) (member? (some inner) key) := by
  have isJoined : some (value.merge inner) = joined (some value) (some inner) := rfl
  rw [isJoined, member_joined (by simpa using isDict) (by simpa using ordered)]

theorem get_of_joined (dictionary : ∀ value ∈ upper, value.isDict = true)
    (ordered : ∀ value ∈ upper, Ordered value)
    (isJoined : joined lower upper = some (.dict entries)) (key : String) :
    Entries.get? key entries = joined (member? lower key) (member? upper key) := by
  rw [← member_joined dictionary ordered, isJoined, member_dict]

theorem sorted_of_joined {below : List (String × Value)} (sorted : Entries.Sorted below)
    (upperDict : ∀ value ∈ upper, value.isDict = true)
    (isJoined : joined (some (.dict below)) upper = some (.dict entries)) :
    Entries.Sorted entries := by
  cases upper with
  | none =>
      cases isJoined
      exact sorted
  | some above =>
      obtain ⟨entries, rfl⟩ := eq_dict_of_isDict (upperDict above rfl)
      cases isJoined
      exact sorted_mergeEntries sorted

theorem ordered_joined (orderedLower : ∀ value ∈ lower, Ordered value)
    (orderedUpper : ∀ value ∈ upper, Ordered value) :
    ∀ value ∈ joined lower upper, Ordered value := by
  cases upper with
  | none => rwa [joined_none]
  | some above =>
      rintro value isJoined
      cases lower with
      | none =>
          cases isJoined
          exact orderedUpper above rfl
      | some below =>
          cases isJoined
          exact (orderedLower below rfl).merge (orderedUpper above rfl)

theorem ordered_member (ordered : ∀ value ∈ upper, Ordered value) (key : String) :
    ∀ value ∈ member? upper key, Ordered value := by
  intro inner isMember
  obtain ⟨value, rfl, found⟩ := Option.bind_eq_some_iff.1 isMember
  cases isDict : value.isDict with
  | false =>
      rw [at_of_not_dict isDict] at found
      cases found
  | true =>
      obtain ⟨entries, rfl⟩ := eq_dict_of_isDict isDict
      exact (ordered _ rfl).get ((member_dict key).symm.trans isMember)

theorem isSome_stored_joined (ordered : ∀ value ∈ upper, Ordered value)
    (first : ((joined lower upper).bind stored?).isSome) (own : (stored? value).isSome) :
    ((joined (some value) upper).bind stored?).isSome := by
  cases upper with
  | none => exact own
  | some above =>
      refine isSome_stored_merge (ordered above rfl) own ?_
      cases lower with
      | none => exact first
      | some below => exact isSome_stored_upper (ordered above rfl) first

/-- What two layers make of a member is stored as it is when the upper layer is laid over it
again. -/
theorem stored_joined_again (orderedUpper : ∀ value ∈ upper, Ordered value)
    (orderedLower : ∀ value ∈ lower, Ordered value)
    (isStored : (joined lower upper).bind stored? = some stored) :
    (joined (some stored) upper).bind stored? = some stored := by
  cases upper with
  | none =>
      rw [joined_none] at isStored ⊢
      obtain ⟨below, rfl, isStored⟩ := Option.bind_eq_some_iff.1 isStored
      exact stored_stored _ _ isStored
  | some above =>
      cases lower with
      | none => exact stored_merge_stored (orderedUpper above rfl) isStored
      | some below =>
          exact stored_merge_again (orderedUpper above rfl) (orderedLower below rfl) isStored

end

end RpcRegistry.Value
