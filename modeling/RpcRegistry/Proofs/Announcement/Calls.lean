import Mathlib.Algebra.GroupWithZero.Nat
import RpcRegistry.Announcement
import RpcRegistry.Proofs.Catalogue

/-!
The calls of a run. A run is a list of calls fixed by its mode and its socket paths: the binder
receives that list in order, whatever it answers, and the run ends in the state those calls leave.
-/

namespace RpcRegistry

def Record.exchange? : Record → Option (Call × Answer)
  | .called call answer _ => some (call, answer)
  | .logged _ => none

def Session.exchanges {σ α : Type} (session : Session σ α) : List (Call × Answer) :=
  session.records.filterMap Record.exchange?

theorem Session.calls_eq {σ α : Type} (session : Session σ α) :
    session.calls = session.exchanges.map Prod.fst := by
  rw [calls, exchanges, List.map_filterMap]
  refine congrArg (List.filterMap · session.records) (funext fun record => ?_)
  cases record <;> rfl

theorem exchange_inside (span : Log.Span) (record : Record) :
    (record.inside span).exchange? = record.exchange? := by
  cases record <;> rfl

theorem filterMap_inside {σ α β : Type} (view : Record → Option β) (span : Log.Span)
    (session : Session σ α) (steady : ∀ record, view (record.inside span) = view record) :
    (session.inside span).records.filterMap view = session.records.filterMap view := by
  rw [Session.inside, List.filterMap_map]
  exact congrArg (List.filterMap · session.records) (funext steady)

section Perform

variable {σ α β : Type} (binder : Binder σ) (call : α → Call) (note : α → Answer → Log.Event)
  (items : List α) (state : σ)

theorem state_perform :
    (perform binder call note items state).state = binder.after (items.map call) state := by
  induction items generalizing state with
  | nil => rfl
  | cons item rest induction => exact induction _

theorem result_perform : (perform binder call note items state).result =
    (binder.exchanges (items.map call) state).map Prod.snd := by
  induction items generalizing state with
  | nil => rfl
  | cons item rest induction => exact congrArg (List.cons _) (induction _)

/-- A view that shows no note and of a call no events shows the calls and their answers only. -/
theorem filterMap_perform (view : Record → Option β) (pick : Call × Answer → Option β)
    (called : ∀ call answer events, view (.called call answer events) = pick (call, answer))
    (silent : ∀ item answer, view (.logged (note item answer)) = none) :
    (perform binder call note items state).records.filterMap view =
      (binder.exchanges (items.map call) state).filterMap pick := by
  induction items generalizing state with
  | nil => rfl
  | cons item rest induction =>
      simp only [perform, List.map_cons, Binder.exchanges, List.filterMap_cons, called, silent,
        induction]

theorem exchanges_perform : (perform binder call note items state).exchanges =
    binder.exchanges (items.map call) state := by
  have viewed := filterMap_perform binder call note items state Record.exchange? some
    (fun _ _ _ => rfl) (fun _ _ => rfl)
  rwa [List.filterMap_some] at viewed

end Perform

namespace Group

variable {σ : Type} (binder : Binder σ) (group : Group) (state : σ)

def calls (group : Group) : List Call := group.registrations.map Registration.call

theorem state_register : (group.register binder state).state = binder.after group.calls state :=
  state_perform binder Registration.call note group.registrations state

theorem exchanges_register :
    (group.register binder state).exchanges = binder.exchanges group.calls state := by
  have performed := exchanges_perform binder Registration.call note group.registrations state
  have closing : ∀ outcome : Outcome,
      (if outcome.isSuccess then [] else [Record.logged (group.diagnostic outcome)]).filterMap
        Record.exchange? = [] := by
    intro outcome
    split <;> rfl
  rw [Session.exchanges, register, filterMap_inside _ _ _ (exchange_inside _),
    List.filterMap_append, closing, List.append_nil]
  exact performed

end Group

namespace Plan

variable {σ : Type} (binder : Binder σ) (state : σ)

theorem state_registerGroups (groups : List Group) :
    (registerGroups binder groups state).state =
      binder.after (groups.flatMap Group.calls) state := by
  induction groups generalizing state with
  | nil => rfl
  | cons group rest induction =>
      rw [List.flatMap_cons, Binder.after_append, ← Group.state_register]
      exact induction _

theorem exchanges_registerGroups (groups : List Group) :
    (registerGroups binder groups state).exchanges =
      binder.exchanges (groups.flatMap Group.calls) state := by
  induction groups generalizing state with
  | nil => rfl
  | cons group rest induction =>
      have later := induction (group.register binder state).state
      rw [List.flatMap_cons, Binder.exchanges_append, ← Group.state_register, ← later,
        ← Group.exchanges_register]
      exact List.filterMap_append

def calls (plan : Plan) : List Call :=
  plan.removals.map Removal.call ++ plan.groups.flatMap Group.calls

end Plan

namespace Mode

variable {σ : Type} (binder : Binder σ) (paths : LocalTransports) (mode : Mode) (state : σ)

theorem state_run :
    (mode.run binder paths state).state = binder.after (Plan.forMode mode paths).calls state := by
  rw [Plan.calls, Binder.after_append, ← state_perform binder Removal.call Plan.note]
  exact Plan.state_registerGroups binder _ _

/-- A view that shows neither the first nor the last event of a run shows its two phases. -/
theorem filterMap_run {β : Type} (view : Record → Option β)
    (steady : ∀ span record, view (record.inside span) = view record)
    (quiet : ∀ event : Log.Event, event.level = .info → view (.logged event) = none) :
    let plan := Plan.forMode mode paths
    let withdrawn := perform binder Removal.call Plan.note plan.removals state
    (mode.run binder paths state).records.filterMap view =
      withdrawn.records.filterMap view ++
        (Plan.registerGroups binder plan.groups withdrawn.state).records.filterMap view := by
  intro plan withdrawn
  have first : ∀ plan, view (.logged (Plan.startEvent plan)) = none := fun plan => quiet _ rfl
  have last : ∀ report, view (.logged (Plan.finishEvent report)) = none :=
    fun report => quiet _ rfl
  rw [run, filterMap_inside _ _ _ (steady _)]
  simp only [List.cons_append, List.filterMap_cons, List.filterMap_append, List.filterMap_nil,
    first, last, List.append_nil]
  rfl

theorem exchanges_run : (mode.run binder paths state).exchanges =
    binder.exchanges (Plan.forMode mode paths).calls state := by
  have phases := filterMap_run binder paths mode state Record.exchange? exchange_inside
    (fun _ _ => rfl)
  rw [Plan.calls, Binder.exchanges_append, ← exchanges_perform binder Removal.call Plan.note,
    ← state_perform binder Removal.call Plan.note, ← Plan.exchanges_registerGroups]
  exact phases

theorem calls_run : (mode.run binder paths state).calls = (Plan.forMode mode paths).calls := by
  rw [Session.calls_eq, exchanges_run, Binder.map_fst_exchanges]

end Mode

namespace Plan

variable (plan : Plan)

theorem flatMap_calls : plan.groups.flatMap Group.calls =
    plan.registrations.map Registration.call := by
  rw [registrations, List.map_flatMap]
  rfl

theorem isRegister_removals : ∀ call ∈ plan.removals.map Removal.call,
    call.isRegister = false := by
  simp

theorem isRegister_groups : ∀ call ∈ plan.groups.flatMap Group.calls,
    call.isRegister = true := by
  rw [flatMap_calls]
  simp

theorem ordered_calls :
    plan.calls.Pairwise fun earlier later => earlier.isRegister → later.isRegister := by
  refine List.pairwise_append.2 ⟨?_, ?_, ?_⟩
  · apply List.pairwise_of_forall_mem_list
    intro earlier member later _ first
    rw [plan.isRegister_removals earlier member] at first
    exact Bool.noConfusion first
  · apply List.pairwise_of_forall_mem_list
    intro earlier _ later member _
    exact plan.isRegister_groups later member
  · intro earlier _ later member _
    exact plan.isRegister_groups later member

theorem countP_calls : plan.calls.countP Call.isRegister = plan.registerCallCount := by
  have withdrawals : (plan.removals.map Removal.call).countP Call.isRegister = 0 := by
    simp [List.countP_eq_zero]
  have registers : (plan.groups.flatMap Group.calls).countP Call.isRegister =
      plan.registrations.length := by
    rw [List.countP_eq_length.2 plan.isRegister_groups, flatMap_calls, List.length_map]
  rw [calls, List.countP_append, withdrawals, registers, length_registrations, Nat.zero_add]

theorem registered_calls : plan.calls.filterMap Call.registered? = plan.keys := by
  have withdrawals : (plan.removals.map Removal.call).filterMap Call.registered? = [] := by
    simp
  rw [calls, flatMap_calls, List.filterMap_append, withdrawals, List.nil_append,
    List.filterMap_map]
  exact congrFun List.filterMap_eq_map plan.registrations

theorem registerCallCount_forMode (mode : Mode) (paths : LocalTransports) :
    (forMode mode paths).registerCallCount =
      match mode with
      | .full => 16 + 2 * paths.configured.length
      | .unsetOnly => 0
      | .statdOnly => 4 := by
  have single : ∀ (path : Option String) (transport : String → Transport),
      ((path.map transport).toList).length = path.toList.length := by
    intro path transport
    cases path <;> rfl
  cases mode with
  | full =>
      simp only [registerCallCount, Group.callCount, forMode, fullGroups,
        LocalTransports.configured, udpPair,
        tcpPair, Service.nfs, Service.mount, List.map_cons, List.map_nil, List.foldr_cons,
        List.foldr_nil, List.length_append, List.length_cons, List.length_nil, single]
      omega
  | unsetOnly => rfl
  | statdOnly => rfl

end Plan

/-- The calls of a run, whoever answers them: each planned withdrawal once and from all networks,
then group by group one registration for each version and transport. -/
theorem Mode.calls_of_run (mode : Mode) (paths : LocalTransports) :
    let plan := Plan.forMode mode paths
    let withdrawn : List (Program × Version) :=
      [(Service.nfs.program, 3), (Service.nfs.program, 4), (Service.mount.program, 1),
        (Service.mount.program, 2), (Service.mount.program, 3)] ++
        if mode = .statdOnly then [(Service.stat.program, 1)] else []
    let withdrawals : List Call := withdrawn.map fun pair => .unregister none pair.1 pair.2
    let registers : List Call := plan.groups.flatMap fun group =>
      group.service.versions.flatMap fun version => group.transports.map fun transport =>
        .register transport.netId group.service.program version transport.endpoint
    let calls := withdrawals ++ registers
    (∀ (σ : Type) (binder : Binder σ) (state : σ),
      (mode.run binder paths state).calls = calls ∧
        (mode.run binder paths state).state = binder.after calls state) ∧
      (withdrawn.Nodup ∧ withdrawn = plan.withdrawals.flatMap fun withdrawal =>
        withdrawal.versions.map fun version => (withdrawal.program, version)) ∧
      (calls.Pairwise fun earlier later => earlier.isRegister → later.isRegister) ∧
      (calls.filterMap Call.registered?).Nodup ∧
      (∀ call ∈ registers, ∃ group ∈ plan.groups, ∃ version ∈ group.service.versions,
        ∃ transport ∈ group.transports,
          call = .register transport.netId group.service.program version transport.endpoint ∧
            transport.endpoint.family = transport.netId.family ∧
            transport.endpoint.port? = transport.port? ∧
            transport.endpoint.path? = transport.path?) ∧
      calls.countP Call.isRegister = plan.registerCallCount ∧
      plan.registerCallCount =
        match mode with
        | .full => 16 + 2 * paths.configured.length
        | .unsetOnly => 0
        | .statdOnly => 4 := by
  intro plan withdrawn withdrawals registers calls
  have withdrawalCalls : withdrawals = plan.removals.map Removal.call := by
    cases mode <;> rfl
  have registerCalls : registers = plan.groups.flatMap Group.calls := by
    refine congrArg (List.flatMap · plan.groups) (funext fun group => ?_)
    simp [Group.calls, Group.registrations, List.map_flatMap, Function.comp_def, Registration.call]
  have planned : calls = plan.calls := by
    rw [Plan.calls, ← withdrawalCalls, ← registerCalls]
  refine ⟨?_, ⟨?_, ?_⟩, ?_, ?_, ?_, ?_, ?_⟩
  · intro σ binder state
    rw [planned]
    exact ⟨calls_run binder paths mode state, state_run binder paths mode state⟩
  · cases mode <;> decide
  · cases mode <;> rfl
  · rw [planned]
    exact plan.ordered_calls
  · rw [planned, Plan.registered_calls]
    exact Plan.nodup_keys mode paths
  · intro call member
    obtain ⟨group, groupMember, inGroup⟩ := List.mem_flatMap.1 member
    obtain ⟨version, versionMember, inVersion⟩ := List.mem_flatMap.1 inGroup
    obtain ⟨transport, transportMember, rfl⟩ := List.mem_map.1 inVersion
    exact ⟨group, groupMember, version, versionMember, transport, transportMember, rfl,
      transport.family_endpoint, transport.port_endpoint, transport.path_endpoint⟩
  · rw [planned]
    exact plan.countP_calls
  · exact Plan.registerCallCount_forMode mode paths

end RpcRegistry
