import Mathlib.Data.Fintype.Fin
import RpcRegistry.Proofs.Announcement.Outcomes

/-!
A group on a local directory, with any versions and any transports, repeats among them or not. It
fills the keys that are free, the first registration of a key before all others. A call is refused
where its key was held from the start or came earlier in the group, and every other call adds one
row.
-/

namespace RpcRegistry

section Places

variable {α : Type} [DecidableEq α] (held : α → Bool)

/-- The places of items that are held from the start or stood at an earlier place. -/
def refusedPlaces (items : List α) : Finset (Fin items.length) :=
  {place | held items[place] = true ∨ ∃ earlier < place, items[earlier] = items[place]}

theorem card_refusedPlaces_cons (item : α) (rest : List α) :
    (refusedPlaces held (item :: rest)).card =
      (if held item = true then 1 else 0) +
        (refusedPlaces (fun other => held other || decide (other = item)) rest).card := by
  have later : ∀ place : Fin rest.length,
      (held (item :: rest)[place.succ] = true ∨
        ∃ earlier < place.succ, (item :: rest)[earlier] = (item :: rest)[place.succ]) ↔
      ((held rest[place] || decide (rest[place] = item)) = true ∨
        ∃ earlier < place, rest[earlier] = rest[place]) := by
    intro place
    rw [Fin.exists_fin_succ]
    simp [or_assoc, @eq_comm _ item]
  have first : ¬ ∃ earlier < (0 : Fin (rest.length + 1)),
      (item :: rest)[earlier] = (item :: rest)[(0 : Fin (rest.length + 1))] := by
    simp
  have split := Fin.card_filter_univ_succ fun place : Fin (rest.length + 1) =>
    held (item :: rest)[place] = true ∨
      ∃ earlier < place, (item :: rest)[earlier] = (item :: rest)[place]
  simp only [later] at split
  refine split.trans ?_
  by_cases isHeld : held item = true
  · simp [refusedPlaces, isHeld, Nat.add_comm]
  · simp [refusedPlaces, isHeld]

end Places

namespace Directory

theorem length_insertEntry (entry : Entry) (entries : List Entry) :
    (insertEntry entry entries).length = entries.length + 1 := by
  induction entries with
  | nil => rfl
  | cons head rest induction =>
      unfold insertEntry
      split
      · rfl
      · rw [List.length_cons, induction, List.length_cons]

end Directory

namespace LocalDirectory

variable (directory : LocalDirectory) (registration : Registration)

theorem holds_after_register (key : Key) :
    (binder registration.call directory).state.holds key =
      (directory.holds key || decide (key = registration.key)) := by
  by_cases same : key = registration.key
  · subst same
    simp [holds, get_step, registration.announced_own_key]
  · simp [holds_register directory registration same, same]

theorem size_after_register :
    (binder registration.call directory).state.table.size =
      directory.table.size + if directory.holds registration.key = true then 0 else 1 := by
  simp only [binder, Registration.call, register, holds, Registration.key]
  split
  · rename_i absent
    simp only [absent, Option.isSome_none, Bool.false_eq_true, if_false]
    exact Directory.length_insertEntry _ _
  · rename_i present
    simp [Option.isSome_iff_ne_none.2 present]

variable (registrations : List Registration)

/-- Registrations fail where their key is held at first or was registered before. -/
theorem failures_eq_card :
    failures (binder.exchanges (registrations.map Registration.call) directory) =
      (refusedPlaces directory.holds (registrations.map Registration.key)).card := by
  induction registrations generalizing directory with
  | nil => rfl
  | cons registration rest induction =>
      have later := induction (binder registration.call directory).state
      have grown : (binder registration.call directory).state.holds =
          fun key => directory.holds key || decide (key = registration.key) :=
        funext (holds_after_register directory registration)
      rw [grown] at later
      rw [List.map_cons, List.map_cons, card_refusedPlaces_cons, ← later]
      simp only [Binder.exchanges, failures, List.countP_cons, refused_register]
      omega

/-- Every registration that does not fail adds a row. -/
theorem size_add_failures :
    (binder.after (registrations.map Registration.call) directory).table.size +
        failures (binder.exchanges (registrations.map Registration.call) directory) =
      directory.table.size + registrations.length := by
  induction registrations generalizing directory with
  | nil => rfl
  | cons registration rest induction =>
      have later := induction (binder registration.call directory).state
      rw [size_after_register] at later
      simp only [List.map_cons, Binder.after_cons, Binder.exchanges, failures, List.countP_cons,
        refused_register, List.length_cons] at later ⊢
      split at later <;> simp_all <;> omega

end LocalDirectory

theorem Registration.findSome_announced (registrations : List Registration) (key : Key) :
    (registrations.findSome? fun registration => registration.call.announced? key) =
      (registrations.find? fun registration => registration.key = key).map
        fun registration => registration.transport.endpoint := by
  induction registrations with
  | nil => rfl
  | cons registration rest induction =>
      by_cases same : registration.key = key
      · subst same
        simp [registration.announced_own_key]
      · simp [registration.announced_other_key (Ne.symm same), same, induction]

namespace Group

variable (group : Group) (directory : LocalDirectory)

theorem get_after_register (key : Key) :
    (group.register LocalDirectory.binder directory).state.table.get? key =
      (directory.table.get? key).or
        ((group.registrations.find? fun registration => registration.key = key).map
          fun registration => registration.transport.endpoint) := by
  have kept : ∀ call ∈ group.calls, call.withdraws key = false := by
    simp [calls]
  have untouched : group.calls.any (·.withdraws key) = false := by
    simpa using kept
  rw [state_register, LocalDirectory.get_after, untouched, Key.standing_of_kept kept, calls,
    List.findSome?_map, ← Registration.findSome_announced]
  rfl

end Group

/-- Registering a group inserts its keys one after the other, version by version, and the first
one wins: what the directory held stays, every other key takes the endpoint it comes with first,
and the failed calls are those whose key was held or had come before. -/
theorem Group.register_first_wins (group : Group) (directory : LocalDirectory) :
    let session := group.register LocalDirectory.binder directory
    let planned : List Registration := group.service.versions.flatMap fun version =>
      group.transports.map fun transport => ⟨group.service.program, version, transport⟩
    let keys : List Key := planned.map fun registration =>
      ⟨registration.program, registration.version, registration.transport.netId⟩
    let before := directory.table
    let after := session.state.table
    session.result.attempted = keys.length ∧
      keys.length = group.service.versions.length * group.transports.length ∧
      session.result.failed =
        Finset.card {place : Fin keys.length | (before.get? keys[place]).isSome = true ∨
          ∃ earlier < place, keys[earlier] = keys[place]} ∧
      (∀ key endpoint, before.get? key = some endpoint → after.get? key = some endpoint) ∧
      (∀ key, before.get? key = none → after.get? key =
        (planned.find? fun registration => (⟨registration.program, registration.version,
          registration.transport.netId⟩ : Key) = key).map
            fun registration => registration.transport.endpoint) ∧
      session.state.owner = directory.owner ∧
      session.result.failed ≤ session.result.attempted ∧
      after.size = before.size + (session.result.attempted - session.result.failed) := by
  intro session planned keys before after
  have length : keys.length = group.registrations.length := List.length_map _
  have attempted : session.result.attempted = keys.length := by
    rw [result_register, length]
    simp [account, calls]
  have failed : session.result.failed = failures (LocalDirectory.binder.exchanges
      (group.registrations.map Registration.call) directory) := by
    rw [result_register]
    rfl
  have size := directory.size_add_failures group.registrations
  have grown : after = (LocalDirectory.binder.after
      (group.registrations.map Registration.call) directory).table := by
    rw [← calls, ← state_register]
  have atMost : session.result.failed ≤ session.result.attempted := by
    rw [failed, attempted, length]
    apply List.countP_le_length.trans
    simp
  constructor
  · exact attempted
  constructor
  · rw [length, length_registrations, callCount]
  constructor
  · rw [failed, LocalDirectory.failures_eq_card]
    rfl
  constructor
  · intro key endpoint found
    rw [get_after_register, found, Option.some_or]
  constructor
  · intro key absent
    rw [get_after_register, absent, Option.none_or]
    rfl
  constructor
  · rw [state_register, LocalDirectory.owner_after]
  constructor
  · exact atMost
  · rw [← grown, ← failed, ← length, ← attempted] at size
    exact Nat.eq_sub_of_add_eq size |>.trans (Nat.add_sub_assoc atMost _)

end RpcRegistry
