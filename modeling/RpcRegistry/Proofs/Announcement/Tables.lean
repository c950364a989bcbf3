import RpcRegistry.Directory.Local
import RpcRegistry.Proofs.Announcement.Calls

/-!
The table that runs leave in a local directory, key by key. One run empties the keys it withdraws
and then fills those it announces that are empty. Over many runs a key that is never withdrawn
keeps its first endpoint, a key that every run withdraws is as the last run left it, and the key of
the status service is decided by whether any run announced it.
-/

namespace RpcRegistry

namespace LocalDirectory

variable (paths : LocalTransports) (mode : Mode) (directory : LocalDirectory) (key : Key)

def afterRun : LocalDirectory := (mode.run binder paths directory).state

def afterRuns (modes : List Mode) : LocalDirectory :=
  modes.foldl (fun directory mode => directory.afterRun paths mode) directory

theorem afterRuns_append (modes later : List Mode) : directory.afterRuns paths (modes ++ later) =
    (directory.afterRuns paths modes).afterRuns paths later := by
  simp [afterRuns, List.foldl_append]

theorem afterRuns_concat (modes : List Mode) : directory.afterRuns paths (modes ++ [mode]) =
    (directory.afterRuns paths modes).afterRun paths mode := by
  rw [afterRuns_append]
  rfl

theorem get_afterRemovals (plan : Plan) :
    (binder.after (plan.removals.map Removal.call) directory).table.get? key =
      if plan.withdraws key then none else directory.table.get? key := by
  have silent : ∀ call ∈ plan.removals.map Removal.call, call.announced? key = none := by
    simp
  have withdrawn : (plan.removals.map Removal.call).any (·.withdraws key) =
      plan.withdraws key := by
    simp [Plan.withdraws, List.any_map, Function.comp_def]
  rw [get_after_of_silent silent, withdrawn]

theorem get_afterGroups (plan : Plan) :
    (binder.after (plan.groups.flatMap Group.calls) directory).table.get? key =
      (directory.table.get? key).or (plan.endpoint? key) := by
  have kept : ∀ call ∈ plan.registrations.map Registration.call,
      call.withdraws key = false := by
    simp
  have untouched : (plan.registrations.map Registration.call).any (·.withdraws key) = false := by
    simp
  rw [Plan.flatMap_calls, get_after, untouched, Key.standing_of_kept kept, List.findSome?_map,
    ← Plan.findSome_registrations]
  rfl

theorem get_afterRun :
    let plan := Plan.forMode mode paths
    (directory.afterRun paths mode).table.get? key =
      (if plan.withdraws key then none else directory.table.get? key).or
        (plan.endpoint? key) := by
  intro plan
  rw [afterRun, Mode.state_run, Plan.calls, Binder.after_append, get_afterGroups,
    get_afterRemovals]

theorem owner_afterRun : (directory.afterRun paths mode).owner = directory.owner := by
  rw [afterRun, Mode.state_run, owner_after]

/-- Running a mode again changes nothing. -/
theorem afterRun_afterRun : (directory.afterRun paths mode).afterRun paths mode =
    directory.afterRun paths mode := by
  refine LocalDirectory.ext (owner_afterRun paths mode _) fun key => ?_
  simp only [get_afterRun]
  -- A key the run withdraws is refilled alike; any other is filled already, or stays empty.
  split
  · rfl
  · rw [Option.or_assoc, Option.or_self]

theorem owner_afterRuns (modes : List Mode) :
    (directory.afterRuns paths modes).owner = directory.owner := by
  induction modes using List.reverseRecOn with
  | nil => rfl
  | append_singleton modes mode induction => rw [afterRuns_concat, owner_afterRun, induction]

section History

variable {paths key} {planned : Option Endpoint} {chosen : Mode}

/-- A key that is never withdrawn keeps what it had, or else what the first announcement gave. -/
theorem get_afterRuns_of_kept
    (kept : ∀ mode, (Plan.forMode mode paths).withdraws key = false)
    (announced : ∀ mode, (Plan.forMode mode paths).endpoint? key =
      if mode = chosen then planned else none) (modes : List Mode) :
    (directory.afterRuns paths modes).table.get? key =
      (directory.table.get? key).or (if chosen ∈ modes then planned else none) := by
  induction modes using List.reverseRecOn with
  | nil => simp [afterRuns]
  | append_singleton modes mode induction =>
      rw [afterRuns_concat, get_afterRun, kept, announced, induction]
      simp only [List.mem_append, List.mem_singleton, Bool.false_eq_true, if_false,
        Option.or_assoc, @eq_comm _ chosen]
      -- An earlier run may have filled the key; then this one is refused and nothing changes.
      by_cases now : mode = chosen
      · by_cases before : chosen ∈ modes <;> simp [before, now]
      · simp [now]

/-- A key that every run withdraws is as the last run announced it. -/
theorem get_afterRuns_of_withdrawn
    (withdrawn : ∀ mode, (Plan.forMode mode paths).withdraws key = true)
    (earlier : List Mode) (last : Mode) :
    (directory.afterRuns paths (earlier ++ [last])).table.get? key =
      (Plan.forMode last paths).endpoint? key := by
  rw [afterRuns_concat, get_afterRun, withdrawn]
  rfl

/-- A key that every run withdraws and none announces. -/
theorem get_afterRuns_of_removed
    (withdrawn : ∀ mode, (Plan.forMode mode paths).withdraws key = true)
    (silent : ∀ mode, (Plan.forMode mode paths).endpoint? key = none)
    (earlier : List Mode) (last : Mode) :
    (directory.afterRuns paths (earlier ++ [last])).table.get? key = none :=
  (get_afterRuns_of_withdrawn directory withdrawn earlier last).trans (silent last)

/-- A key that the runs of one mode replace, and others leave alone. -/
theorem get_afterRuns_of_replaced
    (withdrawn : ∀ mode, (Plan.forMode mode paths).withdraws key = decide (mode = chosen))
    (announced : ∀ mode, (Plan.forMode mode paths).endpoint? key =
      if mode = chosen then planned else none) (modes : List Mode) :
    (directory.afterRuns paths modes).table.get? key =
      if chosen ∈ modes then planned else directory.table.get? key := by
  induction modes using List.reverseRecOn with
  | nil => simp [afterRuns]
  | append_singleton modes mode induction =>
      rw [afterRuns_concat, get_afterRun, withdrawn, announced, induction]
      simp only [List.mem_append, List.mem_singleton, decide_eq_true_eq, @eq_comm _ chosen]
      by_cases now : mode = chosen <;> simp [now]

/-- A key that no run withdraws or announces. -/
theorem get_afterRuns_of_untouched
    (kept : ∀ mode, (Plan.forMode mode paths).withdraws key = false)
    (silent : ∀ mode, (Plan.forMode mode paths).endpoint? key = none) (modes : List Mode) :
    (directory.afterRuns paths modes).table.get? key = directory.table.get? key := by
  induction modes using List.reverseRecOn with
  | nil => rfl
  | append_singleton modes mode induction =>
      rw [afterRuns_concat, get_afterRun, kept, silent, induction]
      exact Option.or_none

end History

end LocalDirectory

/-- The table after any runs, at least one, over any table. -/
theorem LocalDirectory.table_after_runs (directory : LocalDirectory) (paths : LocalTransports)
    (earlier : List Mode) (last : Mode) :
    let modes := earlier ++ [last]
    let before := fun program version netId => directory.table.get? ⟨program, version, netId⟩
    let after := fun program version netId =>
      (directory.afterRuns paths modes).table.get? ⟨program, version, netId⟩
    (∀ netId, after Service.nfs.program 2 netId =
      (before Service.nfs.program 2 netId).or
        (if .full ∈ modes then Plan.nfsAddress? paths netId else none)) ∧
      (∀ netId, after Service.nfs.program 3 netId =
        if last = .full then Plan.nfsAddress? paths netId else none) ∧
      (∀ version, version = 1 ∨ version = 3 → ∀ netId, after Service.mount.program version netId =
        if last = .full then Plan.mountAddress? paths netId else none) ∧
      (∀ netId, after Service.nfs.program 4 netId = none ∧
        after Service.mount.program 2 netId = none) ∧
      (∀ netId, after Service.stat.program 1 netId =
        if .statdOnly ∈ modes then Plan.statAddress? netId
        else before Service.stat.program 1 netId) ∧
      (∀ program version netId, (program, version) ∉
        [(Service.nfs.program, 2), (Service.nfs.program, 3), (Service.nfs.program, 4),
          (Service.mount.program, 1), (Service.mount.program, 2), (Service.mount.program, 3),
          (Service.stat.program, 1)] →
        after program version netId = before program version netId) ∧
      (directory.afterRuns paths modes).owner = directory.owner ∧
      ∀ later, directory.afterRuns paths (modes ++ last :: later) =
        directory.afterRuns paths (modes ++ later) := by
  intro modes before after
  refine ⟨?_, ?_, ?_, ?_, ?_, ?_, ?_, ?_⟩
  · intro netId
    refine get_afterRuns_of_kept directory (fun mode => ?_)
      (fun mode => Plan.endpoint_nfs mode paths netId (by decide)) modes
    rw [Plan.withdraws_nfs]
    decide
  · intro netId
    refine (get_afterRuns_of_withdrawn directory (fun mode => ?_) earlier last).trans
      (Plan.endpoint_nfs last paths netId (by decide))
    rw [Plan.withdraws_nfs]
    decide
  · intro version announced netId
    refine (get_afterRuns_of_withdrawn directory (fun mode => ?_) earlier last).trans
      (Plan.endpoint_mount last paths netId (by simpa [Service.mount] using announced))
    rw [Plan.withdraws_mount]
    rcases announced with rfl | rfl <;> decide
  · intro netId
    refine ⟨get_afterRuns_of_removed directory (fun mode => ?_) (fun mode => ?_) earlier last,
      get_afterRuns_of_removed directory (fun mode => ?_) (fun mode => ?_) earlier last⟩
    · rw [Plan.withdraws_nfs]
      decide
    · exact Plan.endpoint_of_unannounced mode paths netId (by decide) (by decide) (by decide)
    · rw [Plan.withdraws_mount]
      decide
    · exact Plan.endpoint_of_unannounced mode paths netId (by decide) (by decide) (by decide)
  · intro netId
    refine get_afterRuns_of_replaced directory (fun mode => ?_)
      (fun mode => Plan.endpoint_stat mode paths netId) modes
    simp only [Plan.withdraws_stat, and_true]
  · intro program version netId untouched
    simp only [List.mem_cons, Prod.mk.injEq, List.not_mem_nil, or_false, not_or] at untouched
    refine get_afterRuns_of_untouched directory (fun mode => ?_) (fun mode => ?_) modes
    · rw [Bool.eq_false_iff, ne_eq, Plan.withdraws_forMode]
      grind
    · refine Plan.endpoint_of_unannounced mode paths netId ?_ ?_ ?_
      · grind [Service.mem_nfs_versions]
      · grind [Service.mem_mount_versions]
      · grind [Service.mem_stat_versions]
  · exact owner_afterRuns paths directory modes
  · intro later
    have repeated : directory.afterRuns paths (modes ++ [last]) =
        directory.afterRuns paths modes := by
      rw [afterRuns_concat, afterRuns_concat, afterRun_afterRun]
    rw [List.append_cons, afterRuns_append, repeated, ← afterRuns_append]

end RpcRegistry
