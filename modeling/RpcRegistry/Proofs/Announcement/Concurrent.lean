import Mathlib.Data.List.DropRight
import Mathlib.Data.List.Induction
import Mathlib.Logic.Function.Basic
import RpcRegistry.Proofs.Announcement.Tables

/-!
Runs that share a directory and take turns at it, one call at a time and in any order. Whatever
the turns, the run that withdraws a key last still has its own registrations to make, so at the
end each planned key is there and each withdrawn one is not, as after a single run.
-/

namespace RpcRegistry

/-- Gives the answers it holds, one for each call; behind the last one every call succeeds. -/
def Binder.replay : Binder (List Answer) := fun _ answers =>
  ⟨answers.headD none, answers.tail, []⟩

def Mode.next? (mode : Mode) (paths : LocalTransports) (answers : List Answer) : Option Call :=
  (mode.run Binder.replay paths answers).calls[answers.length]?

theorem Mode.next_eq (mode : Mode) (paths : LocalTransports) (answers : List Answer) :
    mode.next? paths answers = (Plan.forMode mode paths).calls[answers.length]? := by
  rw [next?, calls_run]

/-- A directory shared by runs, and the answers each run has had so far. -/
structure Shared (runs : Nat) where
  directory : LocalDirectory
  answered : Fin runs → List Answer

namespace Shared

variable {runs : Nat}

def start (directory : LocalDirectory) : Shared runs := ⟨directory, fun _ => []⟩

section Turns

variable (mode : Mode) (paths : LocalTransports)

/-- One run makes its next call, as one step of the directory; a run at its end does nothing. -/
def turn (shared : Shared runs) (run : Fin runs) : Shared runs :=
  match mode.next? paths (shared.answered run) with
  | none => shared
  | some call =>
      let reply := LocalDirectory.binder call shared.directory
      { directory := reply.state
        answered := Function.update shared.answered run
          (shared.answered run ++ [reply.answer]) }

def afterTurns (turns : List (Fin runs)) (shared : Shared runs) : Shared runs :=
  turns.foldl (turn mode paths) shared

def Finished (shared : Shared runs) : Prop :=
  ∀ run, mode.next? paths (shared.answered run) = none

theorem afterTurns_concat (turns : List (Fin runs)) (run : Fin runs) (shared : Shared runs) :
    afterTurns mode paths (turns ++ [run]) shared =
      turn mode paths (afterTurns mode paths turns shared) run := by
  simp [afterTurns, List.foldl_append]

/-- A turn answers one more call of its run, unless that run is at its end. -/
theorem length_turn (shared : Shared runs) (mover run : Fin runs) :
    ((turn mode paths shared mover).answered run).length =
      if run = mover ∧ (shared.answered run).length < (Plan.forMode mode paths).calls.length then
        (shared.answered run).length + 1
      else (shared.answered run).length := by
  unfold turn
  rw [Mode.next_eq]
  split
  · rename_i ended
    have atEnd := List.getElem?_eq_none_iff.1 ended
    refine (if_neg fun moved => ?_).symm
    rw [moved.1] at moved
    exact Nat.not_lt.2 atEnd moved.2
  · rename_i call found
    have before := (List.getElem?_eq_some_iff.1 found).1
    by_cases same : run = mover
    · subst same
      simp [before]
    · simp [same]

theorem length_afterTurns (turns : List (Fin runs)) (directory : LocalDirectory)
    (run : Fin runs) :
    ((afterTurns mode paths turns (start directory)).answered run).length =
      min (turns.count run) (Plan.forMode mode paths).calls.length := by
  induction turns using List.reverseRecOn with
  | nil => simp [afterTurns, start]
  | append_singleton turns mover induction =>
      rw [afterTurns_concat, length_turn, induction, List.count_append, List.count_singleton]
      by_cases same : run = mover
      · simp only [same, true_and, beq_self_eq_true, if_true]
        split <;> omega
      · simp [same, Ne.symm same]

/-- The runs are at their end when each has had a turn for each of its calls. -/
theorem finished_iff (turns : List (Fin runs)) (directory : LocalDirectory) :
    Finished mode paths (afterTurns mode paths turns (start directory)) ↔
      ∀ run, (Plan.forMode mode paths).calls.length ≤ turns.count run := by
  refine forall_congr' fun run => ?_
  rw [Mode.next_eq, List.getElem?_eq_none_iff, length_afterTurns]
  omega

end Turns

def callsOf (run : Fin runs) (history : List (Fin runs × Call)) : List Call :=
  (history.filter (·.1 = run)).map Prod.snd

theorem callsOf_append (run : Fin runs) (history later : List (Fin runs × Call)) :
    callsOf run (history ++ later) = callsOf run history ++ callsOf run later := by
  simp [callsOf]

theorem callsOf_singleton (run mover : Fin runs) (call : Call) :
    callsOf run [(mover, call)] = if mover = run then [call] else [] := by
  by_cases same : mover = run
  · simp [callsOf, same]
  · simp [callsOf, same]

theorem mem_callsOf {run : Fin runs} {history : List (Fin runs × Call)} {call : Call} :
    call ∈ callsOf run history ↔ (run, call) ∈ history := by
  simp [callsOf]

/-- A history of calls that accounts for a shared directory: the calls made in this order leave
the directory as it is, and each run has made its own calls up to its present place. -/
structure Explains (mode : Mode) (paths : LocalTransports) (directory : LocalDirectory)
    (history : List (Fin runs × Call)) (shared : Shared runs) : Prop where
  state : shared.directory = LocalDirectory.binder.after (history.map Prod.snd) directory
  own : ∀ run, callsOf run history =
    (Plan.forMode mode paths).calls.take (shared.answered run).length

section History

variable {mode : Mode} {paths : LocalTransports} {directory : LocalDirectory}

theorem Explains.turn {history : List (Fin runs × Call)} {shared : Shared runs}
    (explains : Explains mode paths directory history shared) (mover : Fin runs) :
    ∃ later, Explains mode paths directory later (shared.turn mode paths mover) := by
  unfold Shared.turn
  split
  · exact ⟨history, explains⟩
  · rename_i call found
    rw [Mode.next_eq] at found
    refine ⟨history ++ [(mover, call)], ?_, fun run => ?_⟩
    · rw [List.map_append, List.map_cons, List.map_nil, Binder.after_concat, ← explains.state]
    · rw [callsOf_append, callsOf_singleton, explains.own]
      dsimp only
      by_cases same : mover = run
      · subst same
        rw [if_pos rfl, Function.update_self, List.length_append, List.length_singleton,
          List.take_add_one, found]
        rfl
      · rw [if_neg same, Function.update_of_ne (Ne.symm same), List.append_nil]

theorem exists_history (mode : Mode) (paths : LocalTransports) (directory : LocalDirectory)
    (turns : List (Fin runs)) :
    ∃ history, Explains mode paths directory history
      (afterTurns mode paths turns (start directory)) := by
  induction turns using List.reverseRecOn with
  | nil => exact ⟨[], rfl, fun _ => rfl⟩
  | append_singleton turns mover induction =>
      obtain ⟨history, explains⟩ := induction
      rw [afterTurns_concat]
      exact explains.turn mover

end History

end Shared

namespace Plan

variable (plan : Plan) (key : Key)

theorem any_withdraws_calls : plan.calls.any (·.withdraws key) = plan.withdraws key := by
  rw [calls, flatMap_calls, List.any_append]
  simp [withdraws, List.any_map, Function.comp_def]

theorem announced_of_mem {plan : Plan} (distinct : plan.keys.Nodup) {call : Call}
    (member : call ∈ plan.calls) {endpoint : Endpoint}
    (announced : call.announced? key = some endpoint) : plan.endpoint? key = some endpoint := by
  rw [calls, flatMap_calls, List.mem_append] at member
  rcases member with inRemovals | inRegistrations
  · obtain ⟨removal, _, rfl⟩ := List.mem_map.1 inRemovals
    cases announced
  · obtain ⟨registration, planned, rfl⟩ := List.mem_map.1 inRegistrations
    have same : key = registration.key := by
      by_contra other
      rw [registration.announced_other_key other] at announced
      cases announced
    subst same
    rw [endpoint_of_mem distinct planned, ← announced, registration.announced_own_key]

theorem exists_announcement {plan : Plan} {endpoint : Endpoint}
    (planned : plan.endpoint? key = some endpoint) :
    ∃ call ∈ plan.calls, call.isRegister ∧ call.announced? key = some endpoint := by
  rw [← findSome_registrations] at planned
  obtain ⟨registration, member, announced⟩ := List.exists_of_findSome?_eq_some planned
  refine ⟨registration.call, ?_, rfl, announced⟩
  rw [calls, flatMap_calls]
  exact List.mem_append_right _ (List.mem_map_of_mem member)

end Plan

namespace Shared

variable {runs : Nat} {plan : Plan} {history : List (Fin runs × Call)}

theorem mem_history_iff (complete : ∀ run, callsOf run history = plan.calls) (run : Fin runs)
    (call : Call) : call ∈ history.map Prod.snd ↔ call ∈ plan.calls := by
  constructor
  · intro made
    obtain ⟨⟨mover, call⟩, member, rfl⟩ := List.mem_map.1 made
    rw [← complete mover]
    exact mem_callsOf.2 member
  · intro planned
    rw [← complete run] at planned
    exact List.mem_map.2 ⟨(run, call), mem_callsOf.1 planned, rfl⟩

/-- Behind the last withdrawal of a key comes every registration of the run that withdrew it. -/
theorem mem_sinceWithdrawal (complete : ∀ run, callsOf run history = plan.calls)
    (run : Fin runs) {call : Call} (planned : call ∈ plan.calls) (registers : call.isRegister)
    (key : Key) : call ∈ key.sinceWithdrawal (history.map Prod.snd) := by
  let kept : Fin runs × Call → Bool := fun made => !made.2.withdraws key
  have since : key.sinceWithdrawal (history.map Prod.snd) =
      (history.rtakeWhile kept).map Prod.snd := by
    simp only [Key.sinceWithdrawal, List.rtakeWhile, ← List.map_reverse, List.takeWhile_map]
    rfl
  have parts : history.rdropWhile kept ++ history.rtakeWhile kept = history :=
    List.rdropWhile_append_rtakeWhile
  have lastWithdraws := List.rdropWhile_last_not kept history
  generalize history.rdropWhile kept = before at parts lastWithdraws
  generalize history.rtakeWhile kept = later at parts since
  rw [since]
  rcases List.eq_nil_or_concat before with rfl | ⟨earlier, ⟨mover, withdrawal⟩, rfl⟩
  · rw [List.nil_append] at parts
    rw [parts]
    exact (mem_history_iff complete run call).2 planned
  · have withdraws : withdrawal.withdraws key = true := by
      simpa [kept] using lastWithdraws (by simp)
    have stays : withdrawal.isRegister = false := by
      cases withdrawal with
      | register => cases withdraws
      | unregister => rfl
    have own : callsOf mover earlier ++ withdrawal :: callsOf mover later = plan.calls := by
      rw [← complete mover, ← parts, List.concat_eq_append, callsOf_append, callsOf_append,
        callsOf_singleton, if_pos rfl, List.append_assoc, List.singleton_append]
    have ordered := plan.ordered_calls
    rw [← own] at ordered planned
    -- A registration of this run cannot stand before one of its own withdrawals.
    have notBefore : call ∉ callsOf mover earlier := fun member => by
      have register := (List.pairwise_append.1 ordered).2.2 call member withdrawal
        List.mem_cons_self registers
      rw [stays] at register
      cases register
    have notWithdrawal : call ≠ withdrawal := fun same => by
      rw [same, stays] at registers
      cases registers
    have member : call ∈ callsOf mover later := by
      simpa [notBefore, notWithdrawal] using planned
    exact List.mem_map.2 ⟨(mover, call), mem_callsOf.1 member, rfl⟩

/-- What interleaved runs leave standing for a key is what their plan announces for it. -/
theorem standing_history (distinct : plan.keys.Nodup)
    (complete : ∀ run, callsOf run history = plan.calls) (run : Fin runs) (key : Key) :
    key.standing? (history.map Prod.snd) = plan.endpoint? key := by
  cases planned : plan.endpoint? key with
  | none =>
      refine Key.standing_of_silent fun call made => ?_
      have inPlan := (mem_history_iff complete run call).1 made
      by_contra announces
      obtain ⟨endpoint, announced⟩ := Option.ne_none_iff_exists'.1 announces
      rw [Plan.announced_of_mem key distinct inPlan announced] at planned
      cases planned
  | some endpoint =>
      obtain ⟨call, inPlan, registers, announced⟩ := Plan.exists_announcement key planned
      have made := mem_sinceWithdrawal complete run inPlan registers key
      have standing : (key.standing? (history.map Prod.snd)).isSome := by
        rw [Key.standing?, List.findSome?_isSome_iff]
        exact ⟨call, made, Option.isSome_iff_exists.2 ⟨endpoint, announced⟩⟩
      obtain ⟨held, found⟩ := Option.isSome_iff_exists.1 standing
      obtain ⟨first, inSince, given⟩ := List.exists_of_findSome?_eq_some found
      have firstInPlan := (mem_history_iff complete run first).1
        ((List.rtakeWhile_suffix _ _).subset inSince)
      rw [found, ← planned, Plan.announced_of_mem key distinct firstInPlan given]

theorem any_withdraws_history (complete : ∀ run, callsOf run history = plan.calls)
    (run : Fin runs) (key : Key) :
    (history.map Prod.snd).any (·.withdraws key) = plan.withdraws key := by
  rw [← plan.any_withdraws_calls, Bool.eq_iff_iff, List.any_eq_true, List.any_eq_true]
  simp only [mem_history_iff complete run]

theorem directory_of_history {mode : Mode} {paths : LocalTransports} (directory : LocalDirectory)
    (complete : ∀ run, callsOf run history = (Plan.forMode mode paths).calls) (run : Fin runs) :
    LocalDirectory.binder.after (history.map Prod.snd) directory =
      directory.afterRun paths mode := by
  refine LocalDirectory.ext ?_ fun key => ?_
  · rw [LocalDirectory.owner_after, LocalDirectory.owner_afterRun]
  · rw [LocalDirectory.get_after, LocalDirectory.get_afterRun,
      any_withdraws_history complete run,
      standing_history (Plan.nodup_keys mode paths) complete run]
    cases (Plan.forMode mode paths).withdraws key <;> rfl

end Shared

/-- Any number of runs of one mode on one directory, one at least, in any order of turns: once all
have made their calls, the directory is as a single run would have left it. No planned key is
missing, and no withdrawn one is left but for its planned endpoint. -/
theorem Shared.directory_of_finished {runs : Nat} (positive : 0 < runs) (mode : Mode)
    (paths : LocalTransports) (directory : LocalDirectory) (turns : List (Fin runs))
    (finished : Finished mode paths (afterTurns mode paths turns (start directory))) :
    let plan := Plan.forMode mode paths
    let shared := (afterTurns mode paths turns (start directory)).directory
    shared = directory.afterRun paths mode ∧
      (∀ key ∈ plan.keys, (shared.table.get? key).isSome = true) ∧
      ∀ key, plan.withdraws key = true → shared.table.get? key = plan.endpoint? key := by
  intro plan shared
  obtain ⟨history, explains⟩ := exists_history mode paths directory turns
  have complete : ∀ run, callsOf run history = plan.calls := by
    intro run
    have atEnd := finished run
    rw [Mode.next_eq, List.getElem?_eq_none_iff] at atEnd
    rw [explains.own, List.take_of_length_le atEnd]
  have single : shared = directory.afterRun paths mode :=
    explains.state.trans (directory_of_history directory complete ⟨0, positive⟩)
  refine ⟨single, fun key member => ?_, fun key withdrawn => ?_⟩
  · obtain ⟨registration, planned, rfl⟩ := List.mem_map.1 member
    rw [single, LocalDirectory.get_afterRun,
      Plan.endpoint_of_mem (Plan.nodup_keys mode paths) planned, Option.isSome_or,
      Option.isSome_some, Bool.or_true]
  · rw [single, LocalDirectory.get_afterRun, if_pos withdrawn, Option.none_or]

/-- Two runs on a directory with a stale row. The second one starts when the first has made half
of its registrations, and withdraws them again before it makes its own. -/
theorem Shared.directory_of_two_runs :
    let directory := (LocalDirectory.binder (.register .udp Service.stat.program 1 (.inet 4045))
      (LocalDirectory.ofOwner "superuser")).state
    let turns : List (Fin 2) :=
      List.replicate 8 0 ++ List.replicate 10 1 ++ List.replicate 2 0
    let shared := afterTurns .statdOnly {} turns (start directory)
    (0 < 2 ∧ Finished .statdOnly {} shared) ∧
      shared.directory = directory.afterRun {} .statdOnly ∧
      shared.directory.table.get? ⟨Service.stat.program, 1, .udp⟩ = some (.inet 710) := by
  intro directory turns shared
  have finished : Finished .statdOnly {} shared :=
    (finished_iff .statdOnly {} turns directory).2 (by decide)
  obtain ⟨single, _, replaced⟩ :=
    directory_of_finished (by decide) .statdOnly {} directory turns finished
  have withdrawn : (Plan.forMode .statdOnly {}).withdraws ⟨Service.stat.program, 1, .udp⟩ = true :=
    Plan.withdraws_stat .statdOnly {} .udp 1
  refine ⟨⟨by decide, finished⟩, single, ?_⟩
  rw [replaced _ withdrawn, Plan.endpoint_stat]
  rfl

end RpcRegistry
