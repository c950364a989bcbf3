import RpcRegistry.Proofs.Announcement.Outcomes

/-!
What a clean run logs. The only errors that a run logs itself are the complaints about its groups,
so a run without failures logs no error at all if its binder logs none, and the local directory
never does.
-/

namespace RpcRegistry

open Log

def Record.Quiet (record : Record) : Prop := ∀ event ∈ record.events, event.level ≠ .error

@[simp]
theorem quiet_inside (span : Span) (record : Record) :
    (record.inside span).Quiet ↔ record.Quiet := by
  cases record <;> simp [Record.Quiet, Record.inside, Record.events, Event.inside]

theorem quiet_logged {event : Event} (level : event.level ≠ .error) :
    (Record.logged event).Quiet := by
  simp [Record.Quiet, Record.events, level]

theorem quiet_session_inside {σ α : Type} {session : Session σ α} (span : Span)
    (quiet : ∀ record ∈ session.records, record.Quiet) :
    ∀ record ∈ (session.inside span).records, record.Quiet := by
  simpa [Session.inside] using quiet

section Runs

variable {σ : Type} {binder : Binder σ}

def Binder.Quiet (binder : Binder σ) : Prop :=
  ∀ call state, ∀ event ∈ (binder call state).events, event.level ≠ .error

variable (silent : binder.Quiet)

include silent

theorem quiet_perform {α : Type} (call : α → Call) {note : α → Answer → Event}
    (plain : ∀ item answer, (note item answer).level ≠ .error) (items : List α) (state : σ) :
    ∀ record ∈ (perform binder call note items state).records, record.Quiet := by
  induction items generalizing state with
  | nil => exact List.forall_mem_nil _
  | cons item rest induction =>
      have asked : ∀ event ∈ (binder (call item) state).events, event.level ≠ .error :=
        silent (call item) state
      simp only [perform, List.forall_mem_cons]
      exact ⟨asked, quiet_logged (plain item _), induction _⟩

theorem Group.quiet_register (group : Group) {state : σ}
    (clean : (group.register binder state).result.failed = 0) :
    ∀ record ∈ (group.register binder state).records, record.Quiet := by
  have plain : ∀ registration answer, (note registration answer).level ≠ .error := by
    intro registration answer
    cases answer <;> exact Level.noConfusion
  have performed := quiet_perform silent Registration.call plain group.registrations state
  have success : (Outcome.ofAnswers (perform binder Registration.call note group.registrations
      state).result).isSuccess = true := decide_eq_true clean
  apply quiet_session_inside
  -- No call failed, so no complaint follows the calls.
  simp only [success, if_true, List.append_nil]
  exact performed

theorem Plan.quiet_registerGroups (groups : List Group) {state : σ}
    (clean : ∀ report ∈ (registerGroups binder groups state).result, report.outcome.failed = 0) :
    ∀ record ∈ (registerGroups binder groups state).records, record.Quiet := by
  induction groups generalizing state with
  | nil => exact List.forall_mem_nil _
  | cons group rest induction =>
      obtain ⟨here, there⟩ := List.forall_mem_cons.1 clean
      exact List.forall_mem_append.2 ⟨group.quiet_register silent here, induction there⟩

/-- A clean run logs no error if its binder logs none. -/
theorem Mode.quiet_run (mode : Mode) (paths : LocalTransports) {state : σ}
    (clean : (mode.run binder paths state).result.isClean = true) :
    ∀ event ∈ (mode.run binder paths state).events, event.level ≠ .error := by
  have plain : ∀ removal answer, (Plan.note removal answer).level ≠ .error := by
    intro removal answer
    cases answer <;> exact Level.noConfusion
  have withdrawn := quiet_perform silent Removal.call plain (Plan.forMode mode paths).removals state
  have registered := Plan.quiet_registerGroups silent _ ((RunReport.isClean_iff _).1 clean)
  have records : ∀ record ∈ (mode.run binder paths state).records, record.Quiet := by
    apply quiet_session_inside
    refine List.forall_mem_cons.2 ⟨quiet_logged Level.noConfusion, ?_⟩
    refine List.forall_mem_append.2 ⟨List.forall_mem_append.2 ⟨withdrawn, registered⟩, ?_⟩
    exact List.forall_mem_singleton.2 (quiet_logged Level.noConfusion)
  intro event member
  obtain ⟨record, inRun, inRecord⟩ := List.mem_flatMap.1 member
  exact records record inRun event inRecord

end Runs

theorem Mode.complaints_of_clean {σ : Type} (binder : Binder σ) (paths : LocalTransports)
    (mode : Mode) (state : σ) (clean : (mode.run binder paths state).result.isClean = true) :
    (mode.run binder paths state).complaints = [] := by
  rw [complaints_run, RunReport.failedGroups, List.map_eq_nil_iff, List.filter_eq_nil_iff]
  intro report member
  simp [Outcome.isSuccess, (RunReport.isClean_iff _).1 clean report member]

theorem LocalDirectory.quiet_binder : binder.Quiet := by
  intro call directory
  cases call with
  | register netId program version endpoint =>
      simp only [binder, register]
      split
      · simp [tableEvent]
      · simp
  | unregister netId program version => simp [binder, unregister, tableEvent]

end RpcRegistry
