import RpcRegistry.Proofs.Dict
import RpcRegistry.Value

/-!
Values all of whose dictionaries hold their entries in the order of their keys, and what merging
does to them: a key of two dictionaries has the merged value where both bind it, and the value it
has where one does.
-/

namespace RpcRegistry.Value

def isUndivided : Value → Bool
  | .list _ | .dict _ => false
  | _ => true

def isDict : Value → Bool
  | .dict _ => true
  | _ => false

/-- Every dictionary in the value has its entries in order, each key once. -/
inductive Ordered : Value → Prop where
  | undivided {value : Value} (noParts : value.isUndivided = true) : Ordered value
  | list {items : List Value} (each : ∀ item ∈ items, Ordered item) : Ordered (.list items)
  | dict {entries : List (String × Value)} (sorted : Entries.Sorted entries)
      (each : ∀ entry ∈ entries, Ordered entry.2) : Ordered (.dict entries)

section

variable {value lower upper : Value} {entries below : List (String × Value)} {key : String}

theorem Ordered.sorted_entries (ordered : Ordered (.dict entries)) : Entries.Sorted entries := by
  cases ordered with
  | undivided noParts => cases noParts
  | dict sorted _ => exact sorted

theorem Ordered.entry (ordered : Ordered (.dict entries)) {entry : String × Value}
    (member : entry ∈ entries) : Ordered entry.2 := by
  cases ordered with
  | undivided noParts => cases noParts
  | dict _ each => exact each entry member

theorem Ordered.get (ordered : Ordered (.dict entries))
    (found : Entries.get? key entries = some value) : Ordered value :=
  ordered.entry (Entries.mem_of_get found)

theorem ordered_empty : Ordered (.dict []) :=
  .dict List.Pairwise.nil fun _ member => nomatch member

theorem ordered_ofEntries (each : ∀ entry ∈ entries, Ordered entry.2) :
    Ordered (ofEntries entries) :=
  .dict (Entries.sorted_ofList entries) fun entry member => each entry (Entries.mem_ofList member)

theorem ordered_nested (path : List String) (ordered : Ordered value) :
    Ordered (nested path value) := by
  induction path with
  | nil => exact ordered
  | cons key path induction =>
      refine .dict (List.pairwise_singleton _ _) ?_
      intro entry member
      rw [List.mem_singleton.1 member]
      exact induction

theorem eq_dict_of_isDict (isDict : value.isDict = true) : ∃ entries, value = .dict entries := by
  cases value <;> first | exact ⟨_, rfl⟩ | cases isDict

theorem isDict_of_isUndivided (noParts : value.isUndivided = true) : value.isDict = false := by
  cases value <;> first | rfl | cases noParts

theorem merge_of_not_dict (notDict : upper.isDict = false) : merge lower upper = upper := by
  cases upper <;> first | rfl | cases notDict

theorem merge_of_lower_not_dict (notDict : lower.isDict = false) : merge lower upper = upper := by
  cases upper <;> cases lower <;> first | rfl | cases notDict

@[simp]
theorem merge_dict :
    (Value.dict below).merge (.dict entries) = .dict (mergeEntries below entries) :=
  rfl

def joined : Option Value → Option Value → Option Value
  | some lower, some upper => some (merge lower upper)
  | none, upper => upper
  | lower, none => lower

@[simp]
theorem joined_none (lower : Option Value) : joined lower none = lower := by
  cases lower <;> rfl

theorem get_mergeEntry (entry : String × Value) :
    Entries.get? key (mergeEntry below entry) =
      if key = entry.1 then joined (Entries.get? entry.1 below) (some entry.2)
      else Entries.get? key below := by
  obtain ⟨own, upper⟩ := entry
  unfold mergeEntry
  cases found : Entries.get? own below <;> simp only [Entries.get_insert] <;> rfl

theorem get_mergeEntries (distinct : (entries.map Prod.fst).Nodup) :
    Entries.get? key (mergeEntries below entries) =
      joined (Entries.get? key below) (Entries.get? key entries) := by
  induction entries generalizing below with
  | nil => exact (joined_none _).symm
  | cons entry rest induction =>
      obtain ⟨headFresh, restDistinct⟩ := List.nodup_cons.1 distinct
      rw [mergeEntries, induction restDistinct, get_mergeEntry, Entries.get_cons]
      by_cases own : key = entry.1
      · have notLater : Entries.get? key rest = none :=
          Entries.get_eq_none_iff.2 (own ▸ headFresh)
        rw [if_pos own, if_pos own, notLater, joined_none, own]
      · rw [if_neg own, if_neg own]

theorem sorted_mergeEntries (sorted : Entries.Sorted below) :
    Entries.Sorted (mergeEntries below entries) := by
  induction entries generalizing below with
  | nil => exact sorted
  | cons entry rest induction =>
      obtain ⟨own, upper⟩ := entry
      rw [mergeEntries]
      refine induction ?_
      unfold mergeEntry
      cases Entries.get? own below <;> exact Entries.sorted_insert sorted

theorem merge_empty (sorted : Entries.Sorted entries) :
    (Value.dict []).merge (.dict entries) = .dict entries := by
  rw [merge_dict]
  refine congrArg Value.dict ((sorted_mergeEntries List.Pairwise.nil).ext sorted fun key => ?_)
  exact get_mergeEntries sorted.nodup_keys

/-- What holds of the values on both sides and is kept by merging holds of the merged values. -/
theorem forall_mem_mergeEntries {P : Value → Prop} (under : ∀ entry ∈ below, P entry.2)
    (own : ∀ entry ∈ entries, P entry.2)
    (each : ∀ entry ∈ entries, ∀ lower, P lower → P (merge lower entry.2)) :
    ∀ entry ∈ mergeEntries below entries, P entry.2 := by
  induction entries generalizing below with
  | nil => exact under
  | cons entry rest induction =>
      obtain ⟨ownHead, ownRest⟩ := List.forall_mem_cons.1 own
      obtain ⟨eachHead, eachRest⟩ := List.forall_mem_cons.1 each
      refine induction ?_ ownRest eachRest
      intro other member
      obtain ⟨key, upper⟩ := entry
      unfold mergeEntry at member
      cases found : Entries.get? key below with
      | none =>
          rw [found] at member
          rcases Entries.mem_insert member with rfl | member
          · exact ownHead
          · exact under other member
      | some lower =>
          rw [found] at member
          rcases Entries.mem_insert member with rfl | member
          · exact eachHead lower (under _ (Entries.mem_of_get found))
          · exact under other member

/-- What holds where the upper value replaces the lower one, and of two dictionaries where it holds
of any value under one of the upper dictionary, holds of a value under an ordered one. -/
theorem Ordered.under {P : Value → Value → Prop} (ordered : Ordered upper) (lower : Value)
    (replaced : ∀ lower upper, Ordered upper → merge lower upper = upper → P lower upper)
    (dictionaries : ∀ below entries, Entries.Sorted entries →
      (∀ entry ∈ entries, Ordered entry.2 ∧ ∀ lower, P lower entry.2) →
      P (.dict below) (.dict entries)) : P lower upper := by
  induction ordered generalizing lower with
  | @undivided upper noParts =>
      have notDict : upper.isDict = false := by cases upper <;> first | rfl | cases noParts
      exact replaced _ _ (.undivided noParts) (merge_of_not_dict notDict)
  | list each _ => exact replaced _ _ (.list each) rfl
  | @dict entries sorted each induction =>
      cases isDict : lower.isDict with
      | false => exact replaced _ _ (.dict sorted each) (merge_of_lower_not_dict isDict)
      | true =>
          obtain ⟨below, rfl⟩ := eq_dict_of_isDict isDict
          exact dictionaries below entries sorted fun entry member =>
            ⟨each entry member, induction entry member⟩

theorem Ordered.merge (orderedLower : Ordered lower) (orderedUpper : Ordered upper) :
    Ordered (lower.merge upper) := by
  refine orderedUpper.under (P := fun lower upper => Ordered lower → Ordered (lower.merge upper))
    lower ?_ ?_ orderedLower
  · intro lower upper ordered isUpper _
    rwa [isUpper]
  · intro below entries _ each orderedBelow
    exact .dict (sorted_mergeEntries orderedBelow.sorted_entries)
      (forall_mem_mergeEntries (fun _ => orderedBelow.entry)
        (fun entry member => (each entry member).1) (fun entry member => (each entry member).2))

end

end RpcRegistry.Value
