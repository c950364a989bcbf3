import RpcRegistry.Catalogue

/-!
A registration run: the withdrawals of a plan, then its groups, one call after the other. A run
issues its calls whatever the binder answers; answers only decide what is logged and reported. A
record of the run keeps calls, answers and events in the order in which they happened.
-/

namespace RpcRegistry

open Log

/-- A step of a run: a call with its answer and what the binder logged, or an event of the run's
own. -/
inductive Record where
  | called (call : Call) (answer : Answer) (events : List Event)
  | logged (event : Event)
  deriving DecidableEq, Repr

namespace Record

def inside (span : Span) : Record → Record
  | .called call answer events => .called call answer (events.map (Event.inside span))
  | .logged event => .logged (event.inside span)

def events : Record → List Event
  | .called _ _ events => events
  | .logged event => [event]

def call? : Record → Option Call
  | .called call _ _ => some call
  | .logged _ => none

end Record

structure Session (σ α : Type) where
  result : α
  state : σ
  records : List Record

namespace Session

variable {σ α : Type}

def inside (span : Span) (session : Session σ α) : Session σ α :=
  { session with records := session.records.map (Record.inside span) }

def events (session : Session σ α) : List Event := session.records.flatMap Record.events

def calls (session : Session σ α) : List Call := session.records.filterMap Record.call?

end Session

/-- Issues the call of each item in order and logs `note` after its answer. -/
def perform {σ α : Type} (binder : Binder σ) (call : α → Call) (note : α → Answer → Event) :
    List α → σ → Session σ (List Answer)
  | [], state => ⟨[], state, []⟩
  | item :: rest, state =>
      let reply := binder (call item) state
      let later := perform binder call note rest reply.state
      { result := reply.answer :: later.result
        state := later.state
        records := .called (call item) reply.answer reply.events ::
          .logged (note item reply.answer) :: later.records }

structure Outcome where
  attempted : Nat
  failed : Nat
  deriving DecidableEq, Repr

def Outcome.ofAnswers (answers : List Answer) : Outcome :=
  ⟨answers.length, answers.countP Option.isSome⟩

def Outcome.isSuccess (outcome : Outcome) : Bool := outcome.failed = 0

namespace Group

def target : String := "registrar::domain::registrar"

def span (group : Group) : Span :=
  ⟨"register_group", target,
    [("group", .quoted group.label), ("program", .number group.service.program.toNat)]⟩

def note (registration : Registration) (answer : Answer) : Event :=
  let fields : List Field := [("net_id", .shown registration.transport.netId.name),
    ("version", .number registration.version.toNat),
    ("address", .shown registration.transport.endpoint.text)]
  match answer with
  | none => ⟨.debug, target, "registered", fields, []⟩
  | some error =>
      ⟨.debug, target, "register call failed", fields ++ [("error", .shown error.message)], []⟩

/-- The one diagnostic of a group some of whose calls failed. -/
def diagnostic (group : Group) (outcome : Outcome) : Event :=
  ⟨.error, target, "couldn't register " ++ group.label ++ " service.",
    [("attempted", .number outcome.attempted), ("failed", .number outcome.failed)], []⟩

def register {σ : Type} (binder : Binder σ) (group : Group) (state : σ) : Session σ Outcome :=
  let session := perform binder Registration.call note group.registrations state
  let outcome := Outcome.ofAnswers session.result
  let closing := if outcome.isSuccess then [] else [Record.logged (group.diagnostic outcome)]
  Session.inside group.span ⟨outcome, session.state, session.records ++ closing⟩

end Group

structure GroupReport where
  label : String
  outcome : Outcome
  deriving DecidableEq, Repr

structure RunReport where
  mode : Mode
  groups : List GroupReport
  deriving DecidableEq, Repr

namespace RunReport

def attempted (report : RunReport) : Nat :=
  (report.groups.map (·.outcome.attempted)).foldr (· + ·) 0

def failed (report : RunReport) : Nat :=
  (report.groups.map (·.outcome.failed)).foldr (· + ·) 0

def failedGroups (report : RunReport) : List GroupReport :=
  report.groups.filter fun group => !group.outcome.isSuccess

def isClean (report : RunReport) : Bool := report.failed = 0

end RunReport

namespace Plan

def target : String := "registrar::domain::orchestrator"

/-- The event after a withdrawal. A mapping that was never there is no failure. -/
def note (removal : Removal) (answer : Answer) : Event :=
  let fields : List Field :=
    [("program", .number removal.program.toNat), ("version", .number removal.version.toNat)]
  match answer with
  | none => ⟨.debug, target, "withdrawn", fields, []⟩
  | some error =>
      ⟨.debug, target, "withdrawal skipped", fields ++ [("error", .shown error.message)], []⟩

def registerGroups {σ : Type} (binder : Binder σ) :
    List Group → σ → Session σ (List GroupReport)
  | [], state => ⟨[], state, []⟩
  | group :: rest, state =>
      let session := group.register binder state
      let later := registerGroups binder rest session.state
      { result := ⟨group.label, session.result⟩ :: later.result
        state := later.state
        records := session.records ++ later.records }

def startEvent (plan : Plan) : Event :=
  ⟨.info, target, "Starting registration pass",
    [("withdrawals", .number plan.withdrawals.length), ("groups", .number plan.groups.length),
      ("register_calls", .number plan.registerCallCount)], []⟩

def finishEvent (report : RunReport) : Event :=
  ⟨.info, target, "Registration pass finished",
    [("attempted", .number report.attempted), ("failed", .number report.failed),
      ("failed_groups", .number report.failedGroups.length)], []⟩

end Plan

namespace Mode

def span (mode : Mode) : Span := ⟨"run", Plan.target, [("mode", .shown mode.name)]⟩

/-- One run: everything stale is withdrawn before the first register call. -/
def run {σ : Type} (binder : Binder σ) (paths : LocalTransports) (mode : Mode) (state : σ) :
    Session σ RunReport :=
  let plan := Plan.forMode mode paths
  let withdrawn := perform binder Removal.call Plan.note plan.removals state
  let registered := Plan.registerGroups binder plan.groups withdrawn.state
  let report : RunReport := ⟨mode, registered.result⟩
  Session.inside mode.span
    { result := report
      state := registered.state
      records := .logged plan.startEvent :: withdrawn.records ++ registered.records ++
        [.logged (Plan.finishEvent report)] }

end Mode

end RpcRegistry
