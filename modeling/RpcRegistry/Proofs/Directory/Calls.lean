import Mathlib.Data.List.DropRight
import RpcRegistry.Proofs.Binder
import RpcRegistry.Proofs.Directory.Lookup

/-!
Calls on a local directory, seen key by key. To one key a call is a withdrawal, an announcement or
nothing at all, and a withdrawal forgets what came before it. So what a key maps to after any calls
is the first announcement since its last withdrawal, unless it was never withdrawn and had an
endpoint from the start.
-/

namespace RpcRegistry

namespace Call

def withdraws (key : Key) : Call → Bool
  | .register .. => false
  | .unregister netId program version =>
      key.program = program && key.version = version &&
        (netId = none || netId = some key.netId)

def announced? (key : Key) : Call → Option Endpoint
  | .register netId program version endpoint =>
      if key = ⟨program, version, netId⟩ then some endpoint else none
  | .unregister .. => none

def registered? : Call → Option Key
  | .register netId program version _ => some ⟨program, version, netId⟩
  | .unregister .. => none

end Call

namespace Key

theorem covered_eq_withdraws (netId : Option NetId) (program : Program) (version : Version)
    (key : Key) : covered netId program version key =
      (Call.unregister netId program version).withdraws key := by
  cases netId <;> simp [covered, Call.withdraws, eq_comm]

/-- The calls after the last one that withdraws the key. -/
def sinceWithdrawal (key : Key) (calls : List Call) : List Call :=
  calls.rtakeWhile fun call => !call.withdraws key

/-- The first endpoint announced for the key since its last withdrawal. -/
def standing? (key : Key) (calls : List Call) : Option Endpoint :=
  (key.sinceWithdrawal calls).findSome? (·.announced? key)

theorem standing_concat (key : Key) (calls : List Call) (call : Call) :
    key.standing? (calls ++ [call]) =
      if call.withdraws key then none else (key.standing? calls).or (call.announced? key) := by
  unfold standing? sinceWithdrawal
  cases withdrawn : call.withdraws key with
  | true => simp [withdrawn]
  | false => simp [withdrawn, List.findSome?_append]

theorem standing_of_kept {key : Key} {calls : List Call}
    (kept : ∀ call ∈ calls, call.withdraws key = false) :
    key.standing? calls = calls.findSome? (·.announced? key) := by
  have all : key.sinceWithdrawal calls = calls :=
    List.rtakeWhile_eq_self_iff.2 fun call member => by simp [kept call member]
  rw [standing?, all]

theorem standing_of_silent {key : Key} {calls : List Call}
    (silent : ∀ call ∈ calls, call.announced? key = none) : key.standing? calls = none := by
  refine List.findSome?_eq_none_iff.2 fun call member => silent call ?_
  exact (List.rtakeWhile_suffix _ _).subset member

end Key

def Mapping.key (mapping : Mapping) : Key := ⟨mapping.program, mapping.version, mapping.netId⟩

namespace LocalDirectory

theorem exists_mapping_iff (directory : LocalDirectory) (key : Key) (endpoint : Endpoint) :
    (∃ mapping ∈ directory.mappings, mapping.key = key ∧ mapping.endpoint = endpoint) ↔
      directory.table.get? key = some endpoint := by
  rw [Directory.Table.get_eq_some_iff]
  constructor
  · rintro ⟨mapping, member, rfl, rfl⟩
    obtain ⟨entry, entryMember, rfl⟩ := List.mem_map.1 member
    exact entryMember
  · intro member
    exact ⟨_, List.mem_map.2 ⟨_, member, rfl⟩, rfl, rfl⟩

/-- One call, seen by one key: a withdrawal empties it, an announcement fills it if it is empty. -/
theorem get_step (call : Call) (directory : LocalDirectory) (key : Key) :
    (binder call directory).state.table.get? key =
      if call.withdraws key then none
      else (directory.table.get? key).or (call.announced? key) := by
  cases call with
  | register netId program version endpoint =>
      simp only [binder, register, Call.withdraws, Call.announced?]
      split
      · rename_i absent
        rw [Directory.Table.get_insertNew]
        by_cases same : key = ⟨program, version, netId⟩
        · simp [same, absent]
        · simp [same]
      · rename_i present
        by_cases same : key = ⟨program, version, netId⟩
        · obtain ⟨held, found⟩ := Option.ne_none_iff_exists'.1 present
          simp [same, found]
        · simp [same]
  | unregister netId program version =>
      simp [binder, unregister, Key.covered_eq_withdraws, Call.announced?]

/-- What a key maps to after any calls, from any table. -/
theorem get_after (calls : List Call) (directory : LocalDirectory) (key : Key) :
    (binder.after calls directory).table.get? key =
      if calls.any (·.withdraws key) then key.standing? calls
      else (directory.table.get? key).or (key.standing? calls) := by
  induction calls using List.reverseRecOn with
  | nil => simp [Key.standing?, Key.sinceWithdrawal]
  | append_singleton calls call induction =>
      -- The last call decides: a withdrawal on both sides alike, else both sides grow behind.
      rw [Binder.after_concat, get_step, induction, Key.standing_concat]
      cases withdrawn : call.withdraws key with
      | true => simp [withdrawn]
      | false =>
          simp only [Bool.false_eq_true, if_false, List.any_append, List.any_cons, List.any_nil,
            withdrawn, Bool.or_false]
          split
          · rfl
          · rw [Option.or_assoc]

/-- Calls that announce nothing for a key only empty it. -/
theorem get_after_of_silent {calls : List Call} {key : Key}
    (silent : ∀ call ∈ calls, call.announced? key = none) (directory : LocalDirectory) :
    (binder.after calls directory).table.get? key =
      if calls.any (·.withdraws key) then none else directory.table.get? key := by
  rw [get_after, Key.standing_of_silent silent, Option.or_none]

theorem owner_step (call : Call) (directory : LocalDirectory) :
    (binder call directory).state.owner = directory.owner := by
  cases call with
  | register =>
      simp only [binder, register]
      split <;> rfl
  | unregister => rfl

theorem owner_after (calls : List Call) (directory : LocalDirectory) :
    (binder.after calls directory).owner = directory.owner := by
  induction calls generalizing directory with
  | nil => rfl
  | cons call rest induction => rw [Binder.after_cons, induction, owner_step]

@[ext]
theorem ext {left right : LocalDirectory} (owner : left.owner = right.owner)
    (lookups : ∀ key, left.table.get? key = right.table.get? key) : left = right := by
  have tables := Directory.Table.ext lookups
  cases left
  cases right
  simp_all

end LocalDirectory

end RpcRegistry
