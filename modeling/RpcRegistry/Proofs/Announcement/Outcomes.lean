import Mathlib.Algebra.GroupWithZero.Nat
import RpcRegistry.Proofs.Announcement.Report
import RpcRegistry.Proofs.Announcement.Tables

/-!
Which calls of a run fail on a local directory. A registration fails when its key is still held
after the withdrawals, and since no key is planned twice, calls of the same run never get in each
other's way. So only keys that no run withdraws, those of the second version of the file service,
can fail: they are held from the first full run on.
-/

namespace RpcRegistry

namespace LocalDirectory

variable (directory : LocalDirectory)

def holds (key : Key) : Bool := (directory.table.get? key).isSome

theorem answer_register (registration : Registration) :
    (binder registration.call directory).answer =
      if directory.holds registration.key = true then
        some (.rejected registration.program registration.version registration.transport.netId)
      else none := by
  simp only [binder, Registration.call, register, holds, Registration.key]
  split
  · rename_i absent
    simp [absent]
  · rename_i present
    simp [Option.isSome_iff_ne_none.2 present]

theorem refused_register (registration : Registration) :
    (binder registration.call directory).answer.isSome = directory.holds registration.key := by
  rw [answer_register]
  cases directory.holds registration.key <;> rfl

theorem holds_register (registration : Registration) {key : Key}
    (other : key ≠ registration.key) :
    (binder registration.call directory).state.holds key = directory.holds key := by
  rw [holds, get_step, Registration.withdraws_call, registration.announced_other_key other,
    Option.or_none]
  rfl

theorem holds_registrations (registrations : List Registration) {key : Key}
    (others : key ∉ registrations.map Registration.key) :
    (binder.after (registrations.map Registration.call) directory).holds key =
      directory.holds key := by
  induction registrations generalizing directory with
  | nil => rfl
  | cons registration rest induction =>
      rw [List.map_cons, List.mem_cons, not_or] at others
      rw [List.map_cons, Binder.after_cons, induction _ others.2,
        holds_register directory registration others.1]

theorem answer_after_other {first second : Registration} (apart : second.key ≠ first.key) :
    (binder second.call (binder first.call directory).state).answer =
      (binder second.call directory).answer := by
  rw [answer_register, answer_register, holds_register directory first apart]

/-- Of registrations with keys of their own, each is answered as if it were the only one. -/
theorem exchanges_of_distinct {registrations : List Registration}
    (distinct : (registrations.map Registration.key).Nodup) :
    binder.exchanges (registrations.map Registration.call) directory =
      registrations.map fun registration =>
        (registration.call, (binder registration.call directory).answer) := by
  have undisturbed : (registrations.map Registration.call).Pairwise fun first second =>
      ∀ directory, (binder second (binder first directory).state).answer =
        (binder second directory).answer := by
    apply List.pairwise_map.2
    refine List.Pairwise.imp ?_ (List.pairwise_map.1 distinct)
    intro first second apart directory
    exact directory.answer_after_other apart.symm
  rw [Binder.exchanges_of_undisturbed undisturbed, List.map_map]
  rfl

/-- Registrations of different keys fail where the key was held before the first of them. -/
theorem failures_registrations {registrations : List Registration}
    (distinct : (registrations.map Registration.key).Nodup) :
    failures (binder.exchanges (registrations.map Registration.call) directory) =
      registrations.countP fun registration => directory.holds registration.key := by
  rw [directory.exchanges_of_distinct distinct, failures, List.countP_map]
  apply List.countP_congr
  intro registration _
  rw [Function.comp_apply, refused_register]

end LocalDirectory

namespace Group

variable (directory : LocalDirectory) (group : Group)

def accountOn : GroupReport :=
  ⟨group.label, group.registrations.length,
    group.registrations.countP fun registration => directory.holds registration.key⟩

theorem outcome_register_on (distinct : group.keys.Nodup) :
    (group.register LocalDirectory.binder directory).result =
      (group.accountOn directory).outcome := by
  have length : (LocalDirectory.binder.exchanges group.calls directory).length =
      group.registrations.length := by
    rw [Binder.length_exchanges, calls, List.length_map]
  have failed := directory.failures_registrations distinct
  rw [result_register, account, accountOn, length, ← failed]
  rfl

theorem accountOn_congr {first second : LocalDirectory}
    (same : ∀ key ∈ group.keys, first.holds key = second.holds key) :
    group.accountOn first = group.accountOn second := by
  have counts : ∀ registration ∈ group.registrations,
      first.holds registration.key = second.holds registration.key :=
    fun registration member => same _ (List.mem_map_of_mem member)
  rw [accountOn, accountOn, List.countP_congr fun registration member => by
    rw [counts registration member]]

theorem countP_registrations (p : Registration → Bool) : group.registrations.countP p =
    (group.service.versions.map fun version => group.transports.countP fun transport =>
      p ⟨group.service.program, version, transport⟩).sum := by
  simp only [registrations, List.countP_flatMap, List.countP_map, Function.comp_def]

end Group

namespace Plan

theorem result_registerGroups_on (directory : LocalDirectory) {groups : List Group}
    (distinct : (groups.flatMap Group.keys).Nodup) :
    (registerGroups LocalDirectory.binder groups directory).result =
      groups.map (Group.accountOn directory) := by
  induction groups generalizing directory with
  | nil => rfl
  | cons group rest induction =>
      rw [List.flatMap_cons, List.nodup_append'] at distinct
      obtain ⟨here, there, apart⟩ := distinct
      have first := Group.outcome_register_on directory group here
      have later := induction (group.register LocalDirectory.binder directory).state there
      -- The keys of the other groups are held or not as they were before this group.
      have untouched : ∀ other ∈ rest,
          other.accountOn (group.register LocalDirectory.binder directory).state =
            other.accountOn directory := by
        intro other member
        refine other.accountOn_congr fun key inOther => ?_
        have outside : key ∉ group.keys := fun inGroup =>
          apart inGroup (List.mem_flatMap.2 ⟨other, member, inOther⟩)
        rw [Group.state_register]
        exact directory.holds_registrations group.registrations outside
      rw [List.map_cons, ← List.map_congr_left untouched, ← later]
      simp only [registerGroups, first]
      rfl

theorem keys_eq (plan : Plan) : plan.keys = plan.groups.flatMap Group.keys := by
  rw [keys, registrations, List.map_flatMap]
  rfl

end Plan

theorem RunReport.isClean_iff (report : RunReport) :
    report.isClean = true ↔ ∀ group ∈ report.groups, group.outcome.failed = 0 := by
  have total : report.failed = (report.groups.map (·.outcome.failed)).sum := rfl
  rw [isClean, decide_eq_true_eq, total, List.sum_eq_zero_iff_forall_eq_nat, List.forall_mem_map]

/-- How many keys of a group the directory holds and the plan does not withdraw. -/
def Plan.refusals (plan : Plan) (directory : LocalDirectory) (group : Group) : Nat :=
  group.registrations.countP fun registration =>
    !plan.withdraws registration.key && directory.holds registration.key

namespace Mode

variable (mode : Mode) (paths : LocalTransports) (directory : LocalDirectory)

theorem result_run_on :
    let plan := Plan.forMode mode paths
    (mode.run LocalDirectory.binder paths directory).result =
      ⟨mode, plan.groups.map fun group =>
        ⟨group.label, group.registrations.length, plan.refusals directory group⟩⟩ := by
  intro plan
  have distinct := Plan.nodup_keys mode paths
  rw [Plan.keys_eq] at distinct
  have held : ∀ key,
      (LocalDirectory.binder.after (plan.removals.map Removal.call) directory).holds key =
        (!plan.withdraws key && directory.holds key) := by
    intro key
    rw [LocalDirectory.holds, LocalDirectory.get_afterRemovals]
    cases plan.withdraws key <;> rfl
  have accounts : ∀ group ∈ plan.groups,
      group.accountOn (LocalDirectory.binder.after (plan.removals.map Removal.call) directory) =
        ⟨group.label, group.registrations.length, plan.refusals directory group⟩ := by
    intro group _
    simp only [Group.accountOn, Plan.refusals, held]
  have registered := Plan.result_registerGroups_on
    (LocalDirectory.binder.after (plan.removals.map Removal.call) directory) distinct
  rw [← List.map_congr_left accounts, ← registered,
    ← state_perform LocalDirectory.binder Removal.call Plan.note]
  rfl

theorem attempted_run_on : (mode.run LocalDirectory.binder paths directory).result.attempted =
    (Plan.forMode mode paths).registerCallCount := by
  rw [result_run_on, RunReport.attempted, List.map_map, Plan.registerCallCount]
  refine congrArg List.sum (List.map_congr_left fun group _ => ?_)
  exact group.length_registrations

/-- A run is clean where each key it registers is withdrawn before, or was not held at all. -/
theorem isClean_run_of_free (free : ∀ registration ∈ (Plan.forMode mode paths).registrations,
    (Plan.forMode mode paths).withdraws registration.key = true ∨
      directory.holds registration.key = false) :
    (mode.run LocalDirectory.binder paths directory).result.isClean = true := by
  have none : ∀ group ∈ (Plan.forMode mode paths).groups,
      (Plan.forMode mode paths).refusals directory group = 0 := by
    intro group member
    refine List.countP_eq_zero.2 fun registration inGroup => ?_
    rcases free registration (List.mem_flatMap.2 ⟨group, member, inGroup⟩) with gone | absent
    · simp [gone]
    · simp [absent]
  rw [RunReport.isClean_iff, result_run_on]
  exact List.forall_mem_map.2 none

/-- A run of a mode that withdraws whatever it registers is clean. -/
theorem isClean_run_on (withdrawn : ∀ registration ∈ (Plan.forMode mode paths).registrations,
    (Plan.forMode mode paths).withdraws registration.key = true) :
    (mode.run LocalDirectory.binder paths directory).result.isClean = true :=
  isClean_run_of_free mode paths directory fun registration member =>
    Or.inl (withdrawn registration member)

theorem isClean_run_fresh (owner : String) :
    (mode.run LocalDirectory.binder paths (.ofOwner owner)).result.isClean = true :=
  isClean_run_of_free mode paths (.ofOwner owner) fun _ _ => Or.inr rfl

end Mode

namespace Plan

theorem withdraws_registrations_statdOnly (paths : LocalTransports) :
    ∀ registration ∈ (forMode .statdOnly paths).registrations,
      (forMode .statdOnly paths).withdraws registration.key = true := by
  intro registration member
  obtain ⟨group, inPlan, inGroup⟩ := List.mem_flatMap.1 member
  obtain rfl := List.mem_singleton.1 inPlan
  obtain ⟨program, version, _⟩ := Group.mem_keys.1 (List.mem_map_of_mem inGroup)
  exact (withdraws_forMode .statdOnly paths registration.key).2
    (.inr (.inr ⟨rfl, program, Service.mem_stat_versions.1 version⟩))

variable (paths : LocalTransports) (directory : LocalDirectory) {group : Group}

theorem service_fullGroups (member : group ∈ fullGroups paths) :
    group.service = .nfs ∨ group.service = .mount := by
  revert group
  simp [fullGroups]

theorem refusals_nfs (service : group.service = .nfs) :
    (forMode .full paths).refusals directory group =
      group.transports.countP fun transport =>
        directory.holds ⟨Service.nfs.program, 2, transport.netId⟩ := by
  have versions : Service.nfs.versions = [2, 3] := rfl
  rw [refusals, Group.countP_registrations, service, versions]
  simp only [Registration.key, withdraws_nfs, List.map_cons, List.map_nil, List.sum_cons,
    List.sum_nil]
  -- The third version is withdrawn, so only the second can be refused.
  simp

theorem refusals_mount (service : group.service = .mount) :
    (forMode .full paths).refusals directory group = 0 := by
  have versions : Service.mount.versions = [1, 3] := rfl
  rw [refusals, Group.countP_registrations, service, versions]
  simp only [Registration.key, withdraws_mount, List.map_cons, List.map_nil, List.sum_cons,
    List.sum_nil]
  simp

end Plan

namespace LocalDirectory

variable (directory : LocalDirectory)

def afterEach (runs : List (LocalTransports × Mode)) : LocalDirectory :=
  runs.foldl (fun directory run => directory.afterRun run.1 run.2) directory

theorem holds_afterRun (paths : LocalTransports) (mode : Mode) {key : Key}
    (kept : (Plan.forMode mode paths).withdraws key = false) :
    (directory.afterRun paths mode).holds key =
      (directory.holds key || ((Plan.forMode mode paths).endpoint? key).isSome) := by
  rw [holds, get_afterRun, kept, Option.isSome_or]
  rfl

/-- What is held and never withdrawn stays held, whatever runs follow. -/
theorem holds_afterEach {key : Key}
    (kept : ∀ paths mode, (Plan.forMode mode paths).withdraws key = false)
    (held : directory.holds key = true) (runs : List (LocalTransports × Mode)) :
    (directory.afterEach runs).holds key = true := by
  induction runs generalizing directory with
  | nil => exact held
  | cons run rest induction =>
      refine induction (directory.afterRun run.1 run.2) ?_
      rw [holds_afterRun directory run.1 run.2 (kept run.1 run.2), held, Bool.true_or]

/-- A full run leaves the second version of the file service on each of its networks. -/
theorem holds_afterFull (paths : LocalTransports) {group : Group}
    (member : group ∈ Plan.fullGroups paths) (service : group.service = .nfs)
    {transport : Transport} (bound : transport ∈ group.transports) :
    (directory.afterRun paths .full).holds ⟨Service.nfs.program, 2, transport.netId⟩ = true := by
  have kept := Plan.withdraws_nfs .full paths transport.netId 2
  have planned : (⟨Service.nfs.program, 2, transport⟩ : Registration) ∈
      (Plan.forMode .full paths).registrations := by
    refine List.mem_flatMap.2 ⟨group, member, ?_⟩
    simp only [Group.registrations, service, List.mem_flatMap, List.mem_map]
    exact ⟨2, by decide, transport, bound, rfl⟩
  have endpoint := Plan.endpoint_of_mem (Plan.nodup_keys .full paths) planned
  have announced : ((Plan.forMode .full paths).endpoint?
      ⟨Service.nfs.program, 2, transport.netId⟩).isSome = true :=
    Option.isSome_iff_exists.2 ⟨_, endpoint⟩
  rw [holds_afterRun directory paths .full (by rw [kept]; decide), announced, Bool.or_true]

end LocalDirectory

namespace Mode

variable (paths : LocalTransports) (directory : LocalDirectory)

/-- The report of a full run, group by group: only the second version of the file service can be
refused, and only where it is held already. -/
theorem result_full : (Mode.full.run LocalDirectory.binder paths directory).result =
    ⟨.full, (Plan.fullGroups paths).map fun group =>
      ⟨group.label, 2 * group.transports.length,
        if group.service = .nfs then group.transports.countP fun transport =>
          directory.holds ⟨Service.nfs.program, 2, transport.netId⟩
        else 0⟩⟩ := by
  rw [result_run_on]
  refine congrArg (RunReport.mk .full) (List.map_congr_left fun group member => ?_)
  have programs : Service.mount ≠ Service.nfs := by decide
  rw [Group.length_registrations, Group.callCount]
  rcases Plan.service_fullGroups paths member with service | service
  · rw [Plan.refusals_nfs paths directory service, if_pos service, service]
    rfl
  · rw [Plan.refusals_mount paths directory service, if_neg (service ▸ programs), service]
    rfl

theorem isClean_full : (Mode.full.run LocalDirectory.binder paths directory).result.isClean = true ↔
    ∀ group ∈ Plan.fullGroups paths, group.service = .nfs → ∀ transport ∈ group.transports,
      directory.table.get? ⟨Service.nfs.program, 2, transport.netId⟩ = none := by
  rw [RunReport.isClean_iff, result_full, List.forall_mem_map]
  refine forall₂_congr fun group _ => ?_
  by_cases service : group.service = .nfs
  · simp [service, LocalDirectory.holds]
  · simp [service]

/-- Where the second version of the file service is held on all its networks, its groups fail as
far as they are bound at all, with one failure for each transport. -/
theorem failedGroups_full (held : ∀ group ∈ Plan.fullGroups paths, group.service = .nfs →
    ∀ transport ∈ group.transports,
      directory.holds ⟨Service.nfs.program, 2, transport.netId⟩ = true) :
    (Mode.full.run LocalDirectory.binder paths directory).result.failedGroups =
      ((Plan.fullGroups paths).filter fun group =>
        group.service = .nfs ∧ group.transports ≠ []).map
          fun group => ⟨group.label, 2 * group.transports.length, group.transports.length⟩ := by
  have failed : ∀ group ∈ Plan.fullGroups paths,
      (if group.service = .nfs then group.transports.countP fun transport =>
        directory.holds ⟨Service.nfs.program, 2, transport.netId⟩ else 0) =
        if group.service = .nfs then group.transports.length else 0 := by
    intro group member
    by_cases service : group.service = .nfs
    · rw [if_pos service, if_pos service, List.countP_eq_length]
      exact held group member service
    · rw [if_neg service, if_neg service]
  rw [result_full, RunReport.failedGroups, List.map_congr_left fun group member => by
    rw [failed group member], List.filter_map]
  have chosen : ∀ group ∈ Plan.fullGroups paths,
      (!(⟨group.label, 2 * group.transports.length,
        if group.service = .nfs then group.transports.length else 0⟩ :
          GroupReport).outcome.isSuccess) =
        decide (group.service = .nfs ∧ group.transports ≠ []) := by
    intro group _
    by_cases service : group.service = .nfs
    · simp [Outcome.isSuccess, service]
    · simp [Outcome.isSuccess, service]
  simp only [Function.comp_def]
  rw [List.filter_congr chosen]
  refine List.map_congr_left fun group member => ?_
  have service : group.service = .nfs ∧ group.transports ≠ [] := by
    simpa using (List.mem_filter.1 member).2
  rw [if_pos service.1]

end Mode

/-- The outcome of each mode on any directory. The status service never fails, the mount service
never fails, and the file service fails on the networks where its second version is held, which
after one full run are all it is bound to. -/
theorem Mode.outcomes_on_directory (directory : LocalDirectory) (paths : LocalTransports) :
    let report := fun mode : Mode => (mode.run LocalDirectory.binder paths directory).result
    let groups := Plan.fullGroups paths
    ((report .statdOnly).attempted = 4 ∧ (report .statdOnly).isClean = true) ∧
      ((report .unsetOnly).groups = [] ∧ (report .unsetOnly).isClean = true) ∧
      (report .full).attempted = 16 + 2 * paths.configured.length ∧
      ((∀ group ∈ groups, group.service = .nfs ∨ group.service = .mount) ∧
        (report .full).groups = groups.map fun group =>
          ⟨group.label, 2 * group.transports.length,
            if group.service = .nfs then group.transports.countP fun transport =>
              (directory.table.get? ⟨Service.nfs.program, 2, transport.netId⟩).isSome
            else 0⟩) ∧
      ((report .full).isClean = true ↔ ∀ group ∈ groups, group.service = .nfs →
        ∀ transport ∈ group.transports,
          directory.table.get? ⟨Service.nfs.program, 2, transport.netId⟩ = none) ∧
      ∀ between : List (LocalTransports × Mode),
        let later := (directory.afterRun paths .full).afterEach between
        (Mode.full.run LocalDirectory.binder paths later).result.failedGroups =
          (groups.filter fun group => group.service = .nfs ∧ group.transports ≠ []).map
            fun group => ⟨group.label, 2 * group.transports.length, group.transports.length⟩ := by
  intro report groups
  refine ⟨⟨?_, ?_⟩, ⟨rfl, rfl⟩, ?_, ⟨?_, ?_⟩, ?_, ?_⟩
  · rw [attempted_run_on, Plan.registerCallCount_forMode]
  · exact isClean_run_on .statdOnly paths directory (Plan.withdraws_registrations_statdOnly paths)
  · rw [attempted_run_on, Plan.registerCallCount_forMode]
  · exact fun group member => Plan.service_fullGroups paths member
  · exact congrArg RunReport.groups (result_full paths directory)
  · exact isClean_full paths directory
  · intro between later
    refine failedGroups_full paths later fun group member service transport bound => ?_
    refine LocalDirectory.holds_afterEach _ (fun paths mode => ?_)
      (directory.holds_afterFull paths member service bound) between
    rw [Plan.withdraws_nfs]
    decide

end RpcRegistry
