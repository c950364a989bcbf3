import Mathlib.Data.Option.Basic
import RpcRegistry.Proofs.Success
import RpcRegistry.Proofs.Value.Path

/-!
Values as they are stored. Storing goes through dictionaries key by key, so it keeps what stands
at which path, a stored value is stored as itself, and it makes no difference whether two values
are stored before they are merged or after. What has been merged with an upper value already stays
as it is when that value is laid over it again.
-/

namespace RpcRegistry.Value

section

variable {value lower upper stored storedLower storedUpper : Value}
  {entries : List (String × Value)} {key : String}

theorem storedEntries_eq_mapM (entries : List (String × Value)) :
    storedEntries? entries = entries.mapM fun entry => (stored? entry.2).map (entry.1, ·) := by
  induction entries with
  | nil => rfl
  | cons entry rest induction =>
      obtain ⟨key, value⟩ := entry
      rw [List.mapM_cons, ← induction]
      rfl

/-- A dictionary is stored as the dictionary of its stored values. -/
theorem stored_dict (sorted : Entries.Sorted entries) :
    stored? (.dict entries) = some stored ↔ ∃ built, stored = .dict built ∧ Entries.Sorted built ∧
      ∀ key, (Entries.get? key entries).map stored? = (Entries.get? key built).map some := by
  rw [stored?, storedEntries_eq_mapM, Option.map_eq_some_iff]
  constructor
  · rintro ⟨built, done, rfl⟩
    exact ⟨built, rfl, sorted.of_keys (Entries.keys_of_mapM done),
      fun key => Entries.get_of_mapM done⟩
  · rintro ⟨built, rfl, builtSorted, same⟩
    have each : ∀ entry ∈ entries, (stored? entry.2).isSome := by
      intro entry member
      obtain ⟨inner, _, isInner⟩ := exists_read_of_given (same entry.1)
        (sorted.get_eq_some_iff.2 member)
      exact Option.isSome_of_eq_some isInner
    obtain ⟨other, done⟩ := Entries.exists_of_mapM each
    have sameEntries : other = built := by
      refine (sorted.of_keys (Entries.keys_of_mapM done)).ext builtSorted fun key => ?_
      have bound := (Entries.get_of_mapM done).symm.trans (same key)
      exact Option.map_injective (Option.some_injective _) bound
    exact ⟨other, done, congrArg _ sameEntries⟩

mutual

/-- A value that has been stored is stored as itself. -/
theorem stored_stored : ∀ value stored, stored? value = some stored → stored? stored = some stored
  | .null, _, isStored => by cases isStored; rfl
  | .bool _, _, isStored => by cases isStored; rfl
  | .int n, stored, isStored => by
      unfold stored? at isStored
      split at isStored
      · rename_i fits
        cases isStored
        exact if_pos fits
      · cases isStored
  | .float x, _, isStored => by
      unfold stored? at isStored
      split at isStored
      · rename_i finite
        cases isStored
        exact congrArg some (if_pos finite)
      · cases isStored
        rfl
  | .text _, _, isStored => by cases isStored; rfl
  | .list items, _, isStored => by
      obtain ⟨built, done, rfl⟩ := Option.map_eq_some_iff.1 isStored
      rw [stored?, storedItems_stored items built done]
      rfl
  | .dict entries, _, isStored => by
      obtain ⟨built, done, rfl⟩ := Option.map_eq_some_iff.1 isStored
      rw [stored?, storedEntries_stored entries built done]
      rfl
termination_by structural value => value

theorem storedItems_stored : ∀ items built, storedItems? items = some built →
    storedItems? built = some built
  | [], _, done => by cases done; rfl
  | item :: rest, _, done => by
      obtain ⟨first, isFirst, done⟩ := Option.bind_eq_some_iff.1 done
      obtain ⟨later, isLater, done⟩ := Option.bind_eq_some_iff.1 done
      cases done
      rw [storedItems?, stored_stored item first isFirst, storedItems_stored rest later isLater]
      rfl
termination_by structural items => items

theorem storedEntries_stored : ∀ entries built, storedEntries? entries = some built →
    storedEntries? built = some built
  | [], _, done => by cases done; rfl
  | entry :: rest, _, done => by
      obtain ⟨first, isFirst, done⟩ := Option.bind_eq_some_iff.1 done
      obtain ⟨later, isLater, done⟩ := Option.bind_eq_some_iff.1 done
      cases done
      rw [storedEntries?, storedPair_stored entry first isFirst,
        storedEntries_stored rest later isLater]
      rfl
termination_by structural entries => entries

theorem storedPair_stored : ∀ entry built, storedPair? entry = some built →
    storedPair? built = some built
  | (key, value), _, done => by
      obtain ⟨stored, isStored, rfl⟩ := Option.map_eq_some_iff.1 done
      rw [storedPair?, stored_stored value stored isStored]
      rfl
termination_by structural entry => entry

end

theorem isDict_of_stored (isStored : stored? value = some stored) :
    stored.isDict = value.isDict := by
  cases value with
  | list items => obtain ⟨built, _, rfl⟩ := Option.map_eq_some_iff.1 isStored; rfl
  | dict entries => obtain ⟨built, _, rfl⟩ := Option.map_eq_some_iff.1 isStored; rfl
  | int n =>
      rw [stored?] at isStored
      split at isStored <;> cases isStored
      rfl
  | float x =>
      rw [stored?] at isStored
      cases isStored
      split <;> rfl
  | null => cases isStored; rfl
  | bool b => cases isStored; rfl
  | text s => cases isStored; rfl

/-- What stands at a path is stored as what stands there in the stored value. -/
theorem at_stored (ordered : Ordered value) (isStored : stored? value = some stored)
    (path : List String) : (value.at? path).map stored? = (stored.at? path).map some := by
  induction path generalizing value stored with
  | nil => rw [at_nil, at_nil, Option.map_some, Option.map_some, isStored]
  | cons key path induction =>
      cases isDict : value.isDict with
      | false =>
          rw [at_of_not_dict isDict, at_of_not_dict ((isDict_of_stored isStored).trans isDict)]
          rfl
      | true =>
          obtain ⟨entries, rfl⟩ := eq_dict_of_isDict isDict
          obtain ⟨built, rfl, _, same⟩ := (stored_dict ordered.sorted_entries).1 isStored
          rw [at_dict, at_dict]
          cases found : Entries.get? key entries with
          | none =>
              rw [(read_eq_none_iff (same key)).2 found]
              rfl
          | some inner =>
              obtain ⟨storedInner, foundStored, isInner⟩ := exists_read_of_given (same key) found
              rw [foundStored, Option.bind_some, Option.bind_some]
              exact induction (ordered.get found) isInner

theorem isSome_stored_dict : (stored? (.dict entries)).isSome ↔
    ∀ entry ∈ entries, (stored? entry.2).isSome := by
  rw [stored?, storedEntries_eq_mapM, Option.isSome_map]
  constructor
  · intro isSome entry member
    obtain ⟨built, done⟩ := Option.isSome_iff_exists.1 isSome
    exact Entries.isSome_of_mapM done member
  · intro each
    obtain ⟨built, done⟩ := Entries.exists_of_mapM each
    rw [done]
    rfl

theorem isSome_stored_merge (ordered : Ordered upper) (lowerStored : (stored? lower).isSome)
    (upperStored : (stored? upper).isSome) : (stored? (lower.merge upper)).isSome := by
  refine ordered.under (P := fun lower upper => (stored? lower).isSome → (stored? upper).isSome →
    (stored? (lower.merge upper)).isSome) lower ?_ ?_ lowerStored upperStored
  · intro lower upper _ isUpper _ upperStored
    rwa [isUpper]
  · intro below entries _ each lowerStored upperStored
    have own := isSome_stored_dict.1 upperStored
    rw [merge_dict, isSome_stored_dict]
    exact forall_mem_mergeEntries (P := fun value => (stored? value).isSome)
      (isSome_stored_dict.1 lowerStored) own fun entry member lower isSome =>
        (each entry member).2 lower isSome (own entry member)

theorem isSome_stored_upper (ordered : Ordered upper)
    (mergedStored : (stored? (lower.merge upper)).isSome) : (stored? upper).isSome := by
  refine ordered.under (P := fun lower upper => (stored? (lower.merge upper)).isSome →
    (stored? upper).isSome) lower ?_ ?_ mergedStored
  · intro lower upper _ isUpper mergedStored
    rwa [isUpper] at mergedStored
  · intro below entries sorted each mergedStored
    rw [merge_dict, isSome_stored_dict] at mergedStored
    refine isSome_stored_dict.2 fun entry member => ?_
    have inMerged : Entries.get? entry.1 (mergeEntries below entries) =
        joined (Entries.get? entry.1 below) (some entry.2) := by
      rw [get_mergeEntries sorted.nodup_keys, sorted.get_eq_some_iff.2 member]
    cases under : Entries.get? entry.1 below with
    | none =>
        rw [under] at inMerged
        exact mergedStored _ (Entries.mem_of_get inMerged)
    | some inner =>
        rw [under] at inMerged
        exact (each entry member).2 inner (mergedStored _ (Entries.mem_of_get inMerged))

theorem stored_merge_stored (ordered : Ordered value) (isStored : stored? value = some stored) :
    stored? (stored.merge value) = some stored := by
  induction ordered generalizing stored with
  | undivided noParts => rwa [merge_of_not_dict (isDict_of_isUndivided noParts)]
  | list each _ => exact isStored
  | @dict entries sorted each induction =>
      obtain ⟨built, rfl, builtSorted, same⟩ := (stored_dict sorted).1 isStored
      rw [merge_dict, stored_dict (sorted_mergeEntries builtSorted)]
      refine ⟨built, rfl, builtSorted, fun key => ?_⟩
      rw [get_mergeEntries sorted.nodup_keys]
      cases found : Entries.get? key entries with
      | none =>
          rw [(read_eq_none_iff (same key)).2 found]
          rfl
      | some inner =>
          obtain ⟨storedInner, foundStored, isInner⟩ := exists_read_of_given (same key) found
          rw [foundStored]
          exact congrArg some (induction _ (Entries.mem_of_get found) isInner)

/-- What has been merged with an upper value and stored stays as it is when that value is laid
over it again. -/
theorem stored_merge_again (orderedUpper : Ordered upper) (orderedLower : Ordered lower)
    (isStored : stored? (lower.merge upper) = some stored) :
    stored? (stored.merge upper) = some stored := by
  refine orderedUpper.under (P := fun lower upper => ∀ stored, Ordered lower →
    stored? (lower.merge upper) = some stored → stored? (stored.merge upper) = some stored)
    lower ?_ ?_ stored orderedLower isStored
  · intro lower upper ordered isUpper stored _ isStored
    rw [isUpper] at isStored
    exact stored_merge_stored ordered isStored
  · intro below entries sorted each stored orderedBelow isStored
    rw [merge_dict, stored_dict (sorted_mergeEntries orderedBelow.sorted_entries)] at isStored
    obtain ⟨built, rfl, builtSorted, same⟩ := isStored
    rw [merge_dict, stored_dict (sorted_mergeEntries builtSorted)]
    refine ⟨built, rfl, builtSorted, fun key => ?_⟩
    have bound := same key
    rw [get_mergeEntries sorted.nodup_keys] at bound ⊢
    cases above : Entries.get? key entries with
    | none =>
        rw [above, joined_none] at bound
        rw [joined_none]
        -- Nothing is laid over the entry again, and what is stored can be stored once more.
        cases found : Entries.get? key built with
        | none => rfl
        | some storedInner =>
            obtain ⟨inner, _, isInner⟩ := exists_given_of_read bound found
            exact congrArg some (stored_stored _ _ isInner)
    | some inner =>
        obtain ⟨innerOrdered, again⟩ := each _ (Entries.mem_of_get above)
        rw [above] at bound
        cases under : Entries.get? key below with
        | none =>
            rw [under] at bound
            obtain ⟨storedInner, found, isInner⟩ := exists_read_of_given bound rfl
            rw [found]
            exact congrArg some (stored_merge_stored innerOrdered isInner)
        | some lower =>
            rw [under] at bound
            obtain ⟨storedInner, found, isInner⟩ := exists_read_of_given bound rfl
            rw [found]
            exact congrArg some (again lower storedInner (orderedBelow.get under) isInner)

end

end RpcRegistry.Value
