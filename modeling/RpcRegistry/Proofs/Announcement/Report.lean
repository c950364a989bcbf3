import RpcRegistry.Proofs.Announcement.Calls

/-!
The report of a run against the answers it got. The answers to the register calls, cut into one
stretch for each group, decide the whole report and every complaint: a group with a failed call is
complained of once, behind its last call and before the next group's first. Answers to withdrawals
decide nothing.
-/

namespace RpcRegistry

open Log

/-- What a reader of a run looks for: calls with their answers, and what the run itself logs as an
error. -/
inductive Mark where
  | called (call : Call) (answer : Answer)
  | complained (message : String)
  deriving DecidableEq, Repr

def Mark.message? : Mark → Option String
  | .called _ _ => none
  | .complained message => some message

def Record.mark? : Record → Option Mark
  | .called call answer _ => some (.called call answer)
  | .logged event => if event.level = .error then some (.complained event.message) else none

theorem mark_inside (span : Span) (record : Record) :
    (record.inside span).mark? = record.mark? := by
  cases record <;> rfl

theorem messages_of_calls (exchanges : List (Call × Answer)) :
    (exchanges.map fun exchange => Mark.called exchange.1 exchange.2).filterMap
      Mark.message? = [] := by
  simp [Mark.message?]

namespace Session

variable {σ α : Type} (session : Session σ α)

def marks : List Mark := session.records.filterMap Record.mark?

def complaints : List String := session.marks.filterMap Mark.message?

def registers : List (Call × Answer) := session.exchanges.filter (·.1.isRegister)

def withdrawals : List (Call × Answer) := session.exchanges.filter (!·.1.isRegister)

end Session

def failures (exchanges : List (Call × Answer)) : Nat := exchanges.countP (·.2.isSome)

namespace Group

def complaint (group : Group) : String := "couldn't register " ++ group.label ++ " service."

def account (group : Group) (exchanges : List (Call × Answer)) : GroupReport :=
  ⟨group.label, exchanges.length, failures exchanges⟩

def marks (group : Group) (exchanges : List (Call × Answer)) : List Mark :=
  exchanges.map (fun exchange => .called exchange.1 exchange.2) ++
    if failures exchanges = 0 then [] else [.complained group.complaint]

/-- The exchanges of a run of groups, cut into one stretch for each group. -/
def ledger : List Group → List (Call × Answer) → List (Group × List (Call × Answer))
  | [], _ => []
  | group :: rest, exchanges =>
      (group, exchanges.take group.calls.length) ::
        ledger rest (exchanges.drop group.calls.length)

theorem map_fst_ledger (groups : List Group) (exchanges : List (Call × Answer)) :
    (ledger groups exchanges).map Prod.fst = groups := by
  induction groups generalizing exchanges with
  | nil => rfl
  | cons group rest induction => exact congrArg (List.cons group) (induction _)

/-- The stretches are the exchanges of each group's own calls, and nothing is left over. -/
theorem ledger_exact {groups : List Group} {exchanges : List (Call × Answer)}
    (fits : exchanges.map Prod.fst = groups.flatMap calls) :
    (∀ entry ∈ ledger groups exchanges, entry.2.map Prod.fst = entry.1.calls) ∧
      (ledger groups exchanges).flatMap Prod.snd = exchanges := by
  induction groups generalizing exchanges with
  | nil =>
      have empty : exchanges = [] := List.map_eq_nil_iff.1 fits
      simp [ledger, empty]
  | cons group rest induction =>
      rw [List.flatMap_cons] at fits
      -- The calls line up with the plan, so the cut falls behind the first group's last call.
      have here : (exchanges.take group.calls.length).map Prod.fst = group.calls := by
        rw [List.map_take, fits, List.take_left]
      have there : (exchanges.drop group.calls.length).map Prod.fst = rest.flatMap calls := by
        rw [List.map_drop, fits, List.drop_left]
      obtain ⟨each, whole⟩ := induction there
      refine ⟨?_, ?_⟩
      · intro entry member
        rcases List.mem_cons.1 member with rfl | later
        · exact here
        · exact each entry later
      · rw [ledger, List.flatMap_cons, whole, List.take_append_drop]

theorem complaints_of_entries (entries : List (Group × List (Call × Answer))) :
    (entries.flatMap fun entry => entry.1.marks entry.2).filterMap Mark.message? =
      ((entries.map fun entry => entry.1.account entry.2).filter
        fun report => !report.outcome.isSuccess).map
          fun report => "couldn't register " ++ report.label ++ " service." := by
  induction entries with
  | nil => rfl
  | cons entry rest induction =>
      rw [List.flatMap_cons, List.filterMap_append, induction, marks, List.filterMap_append,
        messages_of_calls, List.map_cons, List.filter_cons]
      simp only [account, Outcome.isSuccess]
      by_cases clean : failures entry.2 = 0
      · simp [clean]
      · simp only [clean, if_false, decide_false, Bool.not_false, if_true, List.nil_append,
          List.map_cons]
        rfl

variable {σ : Type} (binder : Binder σ) (group : Group) (state : σ)

theorem result_register : (group.register binder state).result =
    (group.account (binder.exchanges group.calls state)).outcome := by
  have answers := result_perform binder Registration.call note group.registrations state
  simp only [register, Session.inside, answers, account, Outcome.ofAnswers, List.length_map,
    List.countP_map]
  rfl

theorem marks_register : (group.register binder state).marks =
    group.marks (binder.exchanges group.calls state) := by
  have performed := filterMap_perform binder Registration.call note group.registrations state
    Record.mark? (some ∘ fun exchange => .called exchange.1 exchange.2) (fun _ _ _ => rfl)
    (fun registration answer => by cases answer <;> rfl)
  have closing : ∀ outcome : Outcome,
      (if outcome.isSuccess then [] else [Record.logged (group.diagnostic outcome)]).filterMap
        Record.mark? = if outcome.failed = 0 then [] else [.complained group.complaint] := by
    intro outcome
    simp only [Outcome.isSuccess, decide_eq_true_eq]
    split <;> rfl
  have outcome := result_register binder group state
  rw [Session.marks, register, filterMap_inside _ _ _ (mark_inside _), List.filterMap_append,
    performed, closing, List.filterMap_eq_map]
  -- What is left is whether the complaint follows, and only the outcome decides that.
  rw [register] at outcome
  exact congrArg (fun outcome : Outcome => _ ++ if outcome.failed = 0 then [] else _) outcome

end Group

namespace Plan

variable {σ : Type} (binder : Binder σ)

theorem ledger_cons (group : Group) (rest : List Group) (state : σ) :
    Group.ledger (group :: rest)
      (binder.exchanges ((group :: rest).flatMap Group.calls) state) =
      (group, binder.exchanges group.calls state) ::
        Group.ledger rest (binder.exchanges (rest.flatMap Group.calls)
          (binder.after group.calls state)) := by
  have length := binder.length_exchanges group.calls state
  rw [Group.ledger, List.flatMap_cons, Binder.exchanges_append, List.take_left' length,
    List.drop_left' length]

theorem result_registerGroups (groups : List Group) (state : σ) :
    (registerGroups binder groups state).result =
      (Group.ledger groups (binder.exchanges (groups.flatMap Group.calls) state)).map
        fun entry => entry.1.account entry.2 := by
  induction groups generalizing state with
  | nil => rfl
  | cons group rest induction =>
      rw [ledger_cons, List.map_cons, ← Group.state_register, ← induction]
      simp only [registerGroups, Group.result_register]
      rfl

theorem marks_registerGroups (groups : List Group) (state : σ) :
    (registerGroups binder groups state).marks =
      (Group.ledger groups (binder.exchanges (groups.flatMap Group.calls) state)).flatMap
        fun entry => entry.1.marks entry.2 := by
  induction groups generalizing state with
  | nil => rfl
  | cons group rest induction =>
      rw [ledger_cons, List.flatMap_cons, ← Group.state_register, ← induction,
        ← Group.marks_register]
      exact List.filterMap_append

end Plan

namespace Mode

variable {σ : Type} (binder : Binder σ) (paths : LocalTransports) (mode : Mode) (state : σ)

/-- The two phases, told apart by the kind of call. -/
theorem phases_run :
    let plan := Plan.forMode mode paths
    let removals := plan.removals.map Removal.call
    (mode.run binder paths state).withdrawals = binder.exchanges removals state ∧
      (mode.run binder paths state).registers =
        binder.exchanges (plan.groups.flatMap Group.calls) (binder.after removals state) := by
  intro plan removals
  have first := plan.isRegister_removals
  have second := plan.isRegister_groups
  rw [Session.withdrawals, Session.registers, exchanges_run, Plan.calls, Binder.exchanges_append,
    List.filter_append, List.filter_append]
  constructor
  · rw [Binder.filter_exchanges_of_all binder removals state (p := (!·.isRegister))
        fun call member => by rw [first call member, Bool.not_false],
      Binder.filter_exchanges_of_none binder _ _ (p := (!·.isRegister))
        fun call member => by rw [second call member, Bool.not_true],
      List.append_nil]
  · rw [Binder.filter_exchanges_of_none binder removals state first,
      Binder.filter_exchanges_of_all binder _ _ second, List.nil_append]

theorem registers_fit : (mode.run binder paths state).registers.map Prod.fst =
    (Plan.forMode mode paths).groups.flatMap Group.calls := by
  rw [(phases_run binder paths mode state).2, Binder.map_fst_exchanges]

theorem marks_run :
    let session := mode.run binder paths state
    session.marks =
      session.withdrawals.map (fun exchange => .called exchange.1 exchange.2) ++
        (Group.ledger (Plan.forMode mode paths).groups session.registers).flatMap
          fun entry => entry.1.marks entry.2 := by
  intro session
  have phases := phases_run binder paths mode state
  have viewed := filterMap_run binder paths mode state Record.mark? mark_inside
    (fun event info => by simp [Record.mark?, info])
  have withdrawn := filterMap_perform binder Removal.call Plan.note
    (Plan.forMode mode paths).removals state Record.mark?
    (some ∘ fun exchange => .called exchange.1 exchange.2) (fun _ _ _ => rfl)
    (fun removal answer => by cases answer <;> rfl)
  rw [phases.1, phases.2, ← state_perform binder Removal.call Plan.note,
    ← Plan.marks_registerGroups, ← List.filterMap_eq_map, ← withdrawn]
  exact viewed

theorem result_run :
    let session := mode.run binder paths state
    session.result = ⟨mode, (Group.ledger (Plan.forMode mode paths).groups session.registers).map
      fun entry => entry.1.account entry.2⟩ := by
  intro session
  rw [(phases_run binder paths mode state).2, ← state_perform binder Removal.call Plan.note,
    ← Plan.result_registerGroups]
  rfl

theorem complaints_run :
    let session := mode.run binder paths state
    session.complaints = session.result.failedGroups.map
      fun group => "couldn't register " ++ group.label ++ " service." := by
  intro session
  rw [Session.complaints, marks_run, List.filterMap_append, messages_of_calls, List.nil_append,
    Group.complaints_of_entries, result_run]
  rfl

theorem attempted_run :
    let session := mode.run binder paths state
    session.result.attempted = session.registers.length := by
  intro session
  have exact := Group.ledger_exact (registers_fit binder paths mode state)
  conv_rhs => rw [← exact.2]
  rw [result_run, RunReport.attempted, List.length_flatMap, List.map_map]
  rfl

theorem failed_run :
    let session := mode.run binder paths state
    session.result.failed = failures session.registers := by
  intro session
  have exact := Group.ledger_exact (registers_fit binder paths mode state)
  conv_rhs => rw [← exact.2]
  rw [result_run, RunReport.failed, failures, List.countP_flatMap, List.map_map]
  rfl

end Mode

/-- The report, the complaints and their places, all from the answers to the register calls. -/
theorem Mode.report_of_run {σ : Type} (binder : Binder σ) (paths : LocalTransports) (mode : Mode)
    (state : σ) :
    let session := mode.run binder paths state
    let report := session.result
    let ledger := Group.ledger (Plan.forMode mode paths).groups session.registers
    session.exchanges = binder.exchanges session.calls state ∧
      (ledger.map Prod.fst = (Plan.forMode mode paths).groups ∧
        (∀ entry ∈ ledger, entry.2.map Prod.fst = entry.1.calls) ∧
        ledger.flatMap Prod.snd = session.registers) ∧
      report = ⟨mode, ledger.map fun entry => entry.1.account entry.2⟩ ∧
      (session.marks =
        session.withdrawals.map (fun exchange => .called exchange.1 exchange.2) ++
          ledger.flatMap fun entry => entry.1.marks entry.2) ∧
      report.failedGroups = (report.groups.filter fun group => 0 < group.outcome.failed) ∧
      (session.complaints =
        report.failedGroups.map fun group => "couldn't register " ++ group.label ++ " service.") ∧
      report.attempted = session.registers.length ∧
      report.failed = failures session.registers ∧
      (report.isClean ↔ ∀ exchange ∈ session.registers, exchange.2 = none) ∧
      ∀ (τ : Type) (other : Binder τ) (start : τ),
        (mode.run other paths start).registers = session.registers →
          (mode.run other paths start).result = report ∧
            (mode.run other paths start).complaints = session.complaints := by
  intro session report ledger
  have exact := Group.ledger_exact (registers_fit binder paths mode state)
  refine ⟨?_, ⟨?_, exact.1, exact.2⟩, ?_, ?_, ?_, ?_, ?_, ?_, ?_, ?_⟩
  · rw [calls_run]
    exact exchanges_run binder paths mode state
  · exact Group.map_fst_ledger _ _
  · exact result_run binder paths mode state
  · exact marks_run binder paths mode state
  · refine congrArg (List.filter · report.groups) (funext fun group => ?_)
    simp [Outcome.isSuccess, Nat.pos_iff_ne_zero]
  · exact complaints_run binder paths mode state
  · exact attempted_run binder paths mode state
  · exact failed_run binder paths mode state
  · rw [RunReport.isClean, failed_run, decide_eq_true_eq, failures, List.countP_eq_zero]
    refine forall₂_congr fun exchange _ => ?_
    simp
  · intro τ other start same
    have results : (mode.run other paths start).result = report := by
      rw [result_run, same]
      exact (result_run binder paths mode state).symm
    refine ⟨results, ?_⟩
    rw [complaints_run, results]
    exact (complaints_run binder paths mode state).symm

end RpcRegistry
