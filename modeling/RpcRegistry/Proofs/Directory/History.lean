import RpcRegistry.Proofs.Directory.Calls

/-!
A local directory after any history of calls, told from the listing it gives. The listing is
strictly in order and shows one row for each key that is announced and not withdrawn since, with
the first endpoint announced. Each answer follows from the listing before the call, and a call that
is refused changes nothing.
-/

namespace RpcRegistry

/-- The order of listings: by program, then version, then network. -/
def Mapping.Precedes (left right : Mapping) : Prop :=
  left.program < right.program ∨ left.program = right.program ∧
    (left.version < right.version ∨ left.version = right.version ∧
      left.netId.index < right.netId.index)

def Call.answerOn (rows : List Mapping) : Call → Answer
  | .register netId program version _ =>
      if rows.any (·.key = ⟨program, version, netId⟩) then
        some (.rejected program version netId)
      else none
  | .unregister netId program version =>
      if rows.any fun row => (Call.unregister netId program version).withdraws row.key then none
      else some (.notRegistered program version)

theorem Key.ordinal_lt_iff (left right : Key) : left.ordinal < right.ordinal ↔
    left.program < right.program ∨ left.program = right.program ∧
      (left.version < right.version ∨ left.version = right.version ∧
        left.netId.index < right.netId.index) := by
  have leftVersion := left.version.toNat_lt
  have rightVersion := right.version.toNat_lt
  have leftIndex := left.netId.index_lt
  have rightIndex := right.netId.index_lt
  simp only [UInt32.lt_iff_toNat_lt, ← UInt32.toNat_inj, ordinal, UInt32.size]
  omega

namespace LocalDirectory

theorem mappings_ordered (directory : LocalDirectory) :
    directory.mappings.Pairwise Mapping.Precedes := by
  refine List.pairwise_map.2 (directory.table.sorted.imp ?_)
  intro left right below
  exact (Key.ordinal_lt_iff left.1 right.1).1 below

theorem any_key (directory : LocalDirectory) (key : Key) :
    directory.mappings.any (·.key = key) = (directory.table.get? key).isSome := by
  rw [Bool.eq_iff_iff, List.any_eq_true, Option.isSome_iff_exists]
  simp only [← exists_mapping_iff]
  simp

theorem any_covered (directory : LocalDirectory) (drop : Key → Bool) :
    directory.mappings.any (fun row => drop row.key) =
      decide (directory.table.size - (directory.table.erase drop).size ≠ 0) := by
  rw [Bool.eq_iff_iff, decide_eq_true_eq, ne_eq, Directory.Table.size_erase_eq_iff]
  simp [mappings, Mapping.key]

theorem answer_eq (call : Call) (directory : LocalDirectory) :
    (binder call directory).answer = call.answerOn directory.mappings := by
  cases call with
  | register netId program version endpoint =>
      simp only [binder, register, Call.answerOn, any_key]
      by_cases absent : directory.table.get? ⟨program, version, netId⟩ = none
      · simp [absent]
      · simp [absent, Option.isSome_iff_ne_none]
  | unregister netId program version =>
      simp only [binder, unregister, Call.answerOn, ← Key.covered_eq_withdraws, any_covered]
      by_cases nothing : directory.table.size -
          (directory.table.erase (Key.covered netId program version)).size = 0
      · simp [nothing]
      · simp [nothing]

/-- A refused call leaves the directory as it was. -/
theorem state_of_refused {call : Call} {directory : LocalDirectory}
    (refused : (binder call directory).answer ≠ none) :
    (binder call directory).state = directory := by
  cases call with
  | register netId program version endpoint =>
      simp only [binder, register] at refused ⊢
      split
      · rename_i absent
        simp [absent] at refused
      · rfl
  | unregister netId program version =>
      have nothing : directory.table.size -
          (directory.table.erase (Key.covered netId program version)).size = 0 := by
        by_contra removed
        simp [binder, unregister, removed] at refused
      have same := Directory.Table.erase_eq_self directory.table _
        ((Directory.Table.size_erase_eq_iff directory.table _).1 nothing)
      simp only [binder, unregister, same]

/-- After any history from an empty directory: the listing is strictly in order, its rows are those
the history leaves standing, and the answer to any further call follows from it. -/
theorem listing_after_history (owner : String) (calls : List Call) :
    let directory := binder.after calls (ofOwner owner)
    directory.mappings.Pairwise Mapping.Precedes ∧
      directory.table.size = directory.mappings.length ∧
      (∀ mapping ∈ directory.mappings, mapping.owner = owner) ∧
      (∀ key endpoint,
        (∃ mapping ∈ directory.mappings, mapping.key = key ∧ mapping.endpoint = endpoint) ↔
          key.standing? calls = some endpoint) ∧
      ∀ call, (binder call directory).answer = call.answerOn directory.mappings ∧
        ((binder call directory).answer ≠ none → (binder call directory).state = directory) := by
  intro directory
  refine ⟨directory.mappings_ordered, ?_, ?_, ?_, ?_⟩
  · simp [mappings, Directory.Table.size]
  · intro mapping member
    obtain ⟨entry, _, rfl⟩ := List.mem_map.1 member
    exact owner_after calls (ofOwner owner)
  · intro key endpoint
    rw [exists_mapping_iff, get_after]
    split <;> simp [ofOwner]
  · intro call
    exact ⟨answer_eq call directory, state_of_refused⟩

end LocalDirectory

end RpcRegistry
