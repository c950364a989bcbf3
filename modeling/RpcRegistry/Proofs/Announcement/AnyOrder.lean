import Mathlib.Data.List.Perm.Basic
import RpcRegistry.Proofs.Announcement.Outcomes

/-!
The registrations of a plan in any order. No two of them have a key in common, so none is in the
way of another: each gets the answer it would have got as the only one, and the directory they
leave is the same.
-/

namespace RpcRegistry

namespace LocalDirectory

variable (directory : LocalDirectory) {first second : Registration}

/-- Registrations of two keys may change places. -/
theorem state_swapped (apart : second.key ≠ first.key) :
    (binder second.call (binder first.call directory).state).state =
      (binder first.call (binder second.call directory).state).state := by
  apply LocalDirectory.ext
  · rw [owner_step, owner_step, owner_step, owner_step]
  · intro key
    simp only [get_step, Registration.withdraws_call, Bool.false_eq_true, if_false,
      Option.or_assoc]
    by_cases ofFirst : key = first.key
    · have notSecond : key ≠ second.key := by
        rw [ofFirst]
        exact apart.symm
      rw [second.announced_other_key notSecond, Option.or_none, Option.none_or]
    · rw [first.announced_other_key ofFirst, Option.none_or, Option.or_none]

variable {registrations order : List Registration}

theorem after_of_perm (distinct : (registrations.map Registration.key).Nodup)
    (permuted : order.Perm registrations) :
    binder.after (order.map Registration.call) directory =
      binder.after (registrations.map Registration.call) directory := by
  unfold Binder.after
  rw [List.foldl_map, List.foldl_map]
  apply permuted.foldl_eq'
  intro first firstMember second secondMember directory
  by_cases same : second.key = first.key
  · have equal : second = first := List.inj_on_of_nodup_map distinct
      (permuted.subset secondMember) (permuted.subset firstMember) same
    rw [equal]
  · exact state_swapped directory same

end LocalDirectory

/-- The registrations of a plan may be issued in any order, across its groups, versions and
transports. They are registrations of different keys, each is answered as if it had been issued
alone, and the directory is left as the plan leaves it; so a whole run may register in any order
once its withdrawals are done. -/
theorem Plan.register_in_any_order (mode : Mode) (paths : LocalTransports)
    (directory : LocalDirectory) :
    let plan := Plan.forMode mode paths
    let binder := LocalDirectory.binder
    let inOrder := Plan.registerGroups binder plan.groups directory
    let alone := fun registration : Registration =>
      (registration.call, (binder registration.call directory).answer)
    (plan.registrations.map Registration.key).Nodup ∧
      inOrder.exchanges = plan.registrations.map alone ∧
      ∀ order : List Registration, order.Perm plan.registrations →
        let calls := order.map Registration.call
        binder.exchanges calls directory = order.map alone ∧
          binder.after calls directory = inOrder.state ∧
          ∀ start : LocalDirectory, (mode.run binder paths start).state =
            binder.after (plan.removals.map Removal.call ++ calls) start := by
  intro plan binder inOrder alone
  have distinct : (plan.registrations.map Registration.key).Nodup := Plan.nodup_keys mode paths
  constructor
  · exact distinct
  constructor
  · rw [exchanges_registerGroups, flatMap_calls]
    exact directory.exchanges_of_distinct distinct
  intro order permuted calls
  have orderDistinct : (order.map Registration.key).Nodup :=
    (permuted.map Registration.key).nodup_iff.2 distinct
  constructor
  · exact directory.exchanges_of_distinct orderDistinct
  constructor
  · rw [state_registerGroups, flatMap_calls]
    exact directory.after_of_perm distinct permuted
  · intro start
    rw [Mode.state_run, Plan.calls, flatMap_calls, Binder.after_append, Binder.after_append]
    exact (LocalDirectory.after_of_perm _ distinct permuted).symm

end RpcRegistry
