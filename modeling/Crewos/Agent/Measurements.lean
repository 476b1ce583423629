import Crewos.Agent.Loop
import Crewos.Foundation.Plays

/-! # What the metrics have to count

A model is called by asking the provider for a decision or the reviewer for a
review, a tool by dispatching it. The meter follows the requests of a run of the
loop. It tells which call is still to be counted, whether its result was accepted,
and where a guard or a checkpoint that raises would be counted as a call. -/

namespace Crewos.Agent

open Foundation RunStore

/-! ## Calls and their measurements -/

def Request.observes (operation : MetricOperation) : Request → Bool
  | .observe other _ _ => other = operation
  | _ => false

def Request.callsModel : Request → Bool
  | .decide _ _ _ _ | .review _ _ _ _ => true
  | _ => false

/-- What is to be counted next. -/
inductive Due where
  | nothing
  /-- A tool call that is not dispatched yet. It is counted when it never is. -/
  | attempt
  | model (accepted : Bool)
  | tool (accepted : Bool)
  deriving DecidableEq

def MetricOutcome.of (accepted : Bool) : MetricOutcome := if accepted then .success else .error

/-- The measurement counts what is due. -/
inductive Due.Counts : Due → MetricOperation → MetricOutcome → Prop
  | run {outcome : MetricOutcome} : Due.Counts .nothing .run outcome
  | unattempted {outcome : MetricOutcome} : Due.Counts .attempt .run outcome
  | attempt : Due.Counts .attempt .tool .error
  | model {accepted : Bool} : Due.Counts (.model accepted) .model (.of accepted)
  | tool {accepted : Bool} : Due.Counts (.tool accepted) .tool (.of accepted)

def Due.settled : Due → Bool
  | .nothing | .attempt => true
  | .model _ | .tool _ => false

/-- A loop that fails in this phase counts nothing but its run. -/
def Phase.idle : Phase → Bool
  | .model | .tool => false
  | _ => true

/-! ## Places -/

/-- Where a run is, as far as its requests tell. Every check of the deadline, every
phase and every measurement begins with a reading of the clock. -/
inductive Place where
  | before
  /-- Before the first turn, which has a pending decision. -/
  | opening (decision : ModelDecision)
  | opened (decision : ModelDecision)
  /-- The second check of a turn with a pending decision. -/
  | resuming (decision : ModelDecision)
  | between
  | turning
  /-- The phase of the model has begun and is not saved. -/
  | turned
  | asking
  | calling
  | decided (decision : ModelDecision)
  | chosen (decision : ModelDecision)
  /-- The check after a decision that is counted. -/
  | checking (decision : ModelDecision)
  | reviewing
  | consulting
  /-- The reviewer has returned or raised. -/
  | returned
  | reviewed
  | answering
  | tooling
  | dispatched (decision : ToolCallDecision)
  | handled
  | counted
  /-- The check after a result that is counted. -/
  | checked
  | done
  deriving DecidableEq

namespace Place

def due : Place → Due
  | .tooling => .attempt
  | .calling | .consulting | .returned => .model false
  | .decided _ | .reviewed => .model true
  | .dispatched _ => .tool false
  | .handled => .tool true
  | _ => .nothing

def live : Place → Bool
  | .before | .done => false
  | _ => true

def acting : ModelDecision → Place
  | .toolCall _ => .tooling
  | .answer (.document _) => .reviewing
  | .answer (.general _) => .answering

def clock : Place → Place
  | .opening decision => .opened decision
  | .opened decision => .resuming decision
  | .resuming decision | .checking decision => acting decision
  | .between => .turning
  | .turning => .turned
  | .chosen decision => .checking decision
  | .consulting => .returned
  | .counted => .checked
  | .checked => .between
  | place => place

def measured : MetricOperation → Place → Place
  | .run, _ => .done
  | .model, .decided decision => .chosen decision
  | .model, .reviewed => .answering
  | .tool, .handled => .counted
  | _, _ => .between

/-- A checkpoint. The one after a review saves its receipt, so the review was
accepted. -/
def saved : Place → Place
  | .turned => .asking
  | .returned => .reviewed
  | place => place

/-- A guard that raises here is counted as a call. -/
def firm : Place → Bool
  | .asking | .checking _ | .reviewing | .returned | .checked => true
  | _ => false

/-- So is the loop's own deadline. -/
def tight : Place → Bool
  | .reviewing | .returned => true
  | _ => false

/-- So is a checkpoint that is refused. -/
def saves : Place → Bool
  | .turned | .returned => true
  | _ => false

end Place

/-! ## The meter -/

structure Meter where
  started : Time := 0
  now : Time := 0
  passages : List (SourceReference × RetrievedPassage) := []
  place : Place := .before

/-- The passages a result leaves, unless it is not accepted. -/
def evidence (mode : AnswerMode) (decision : ToolCallDecision)
    (passages : List (SourceReference × RetrievedPassage)) :
    ToolResult → Except Exc (List (SourceReference × RetrievedPassage))
  | .retrieval found =>
      if decision.name.value = "search_documents" then
        match mode with
        | .document => AgentLoop.addPassages passages found.passages
        | .general => .ok passages
      else .ok passages
  | .other _ => .ok passages

def AgentLoop.entry (loop : AgentLoop) : Option Json → Place
  | none => .between
  | some pending =>
      match ModelDecision.validate loop.answerMode pending with
      | some decision => .opening decision
      | none => .between

namespace Meter

def opened (loop : AgentLoop) (state : Dict) (now : Time) : Meter :=
  { started := now, now, place := loop.entry (AgentLoop.pendingOf state),
    passages := match loop.restore state now with
      | .ok frame => frame.observedPassages
      | .error _ => [] }

def read (now : Time) (meter : Meter) : Meter := { meter with now, place := meter.place.clock }

def handled (mode : AnswerMode) (meter : Meter) (out : Except Exc ToolResult) : Meter :=
  match meter.place, out with
  | .dispatched decision, .ok result =>
      match evidence mode decision meter.passages result with
      | .ok passages => { meter with passages, place := .handled }
      | .error _ => meter
  | _, _ => meter

def advance (loop : AgentLoop) (state : Dict) (meter : Meter) :
    (request : Request) → Reply request → Meter
  | .perfCounter, now =>
      if meter.place = .before then opened loop state now else meter.read now
  | .control (.checkpoint _ _ _), _ => { meter with place := meter.place.saved }
  | .decide _ _ _ _, _ => { meter with place := .calling }
  | .decided _ _ decision, _ => { meter with place := .decided decision }
  | .review _ _ _ _, _ => { meter with place := .consulting }
  | .dispatch _ _ decision, _ => { meter with place := .dispatched decision }
  | .handle _ _ _, out => meter.handled loop.answerMode out
  | .observe operation _ _, _ => { meter with place := meter.place.measured operation }
  | _, _ => meter

/-- Measurements count what is due, and no call is made before the last one was
counted. -/
def permits (meter : Meter) (request : Request) : Prop :=
  match request with
  | .perfCounter => meter.place ≠ .done
  | .observe operation outcome _ =>
      meter.place.live = true ∧ meter.place.due.Counts operation outcome
  | .decided _ _ _ => meter.place = .calling
  | .handle _ _ _ => ∃ decision, meter.place = .dispatched decision
  | request => meter.place.live = true ∧
      (request.external = true → meter.place.due.settled = true)

/-- The guard clears a place where nothing may be raised. -/
def cleared (loop : AgentLoop) (meter : Meter) : Except RunStoreError Time → Bool
  | .ok remaining =>
      0 < remaining && (!meter.place.tight || 0 < loop.maxDuration - (meter.now - meter.started))
  | .error _ => false

/-- The checkpoint can be restored, and nothing raises where it would be counted as
a call. -/
def calm (loop : AgentLoop) (state : Dict) (meter : Meter) :
    (request : Request) → Reply request → Bool
  | .perfCounter, now => meter.place ≠ .before || (loop.restore state now).isOk
  | .control .heartbeatError, (found : Option RunStoreError) => !meter.place.firm || found.isNone
  | .control (.guard _), reply => !meter.place.firm || meter.cleared loop reply
  | .control (.checkpoint _ _ _), (reply : Except RunStoreError Unit) =>
      !meter.place.saves || reply.isOk
  | _, _ => true

end Meter

def AgentLoop.metered (loop : AgentLoop) (state : Dict) : Monitor Reply Meter where
  permits meter request := meter.permits request
  admits meter request reply := meter.calm loop state request reply = true
  advance meter request reply := meter.advance loop state request reply

instance (loop : AgentLoop) (state : Dict) (meter : Meter) (request : Request)
    (reply : Reply request) : Decidable ((loop.metered state).admits meter request reply) :=
  inferInstanceAs (Decidable (_ = true))

/-! ## Runs that count every call once -/

def AgentLoop.due (loop : AgentLoop) (state : Dict) (past : List (Event Reply)) : Due :=
  ((loop.metered state).after {} past).place.due

/-- Every call of a run is counted once, by what became of it, and so is the run. -/
structure CountedOnce (loop : AgentLoop) (state : Dict) (events : List (Event Reply)) : Prop where
  run : events.countP (fun event => event.request.observes .run) = 1
  model : events.countP (fun event => event.request.observes .model) =
    events.countP fun event => event.request.callsModel
  matched : ∀ past operation outcome duration reply rest,
    events = past ++ ⟨.observe operation outcome duration, reply⟩ :: rest →
      (loop.due state past).Counts operation outcome
  settled : ∀ past event rest, events = past ++ event :: rest →
    event.request.external = true → (loop.due state past).settled = true
  closed : loop.due state events = .nothing

section Counts

variable {loop : AgentLoop} {state : Dict} {place : Place}

theorem Place.due_acting (decision : ModelDecision) :
    (acting decision).due = .nothing ∨ (acting decision).due = .attempt := by
  cases decision with
  | toolCall decision => exact .inr rfl
  | answer answer => cases answer <;> exact .inl rfl

theorem Place.live_acting (decision : ModelDecision) : (acting decision).live = true := by
  cases decision with
  | toolCall decision => rfl
  | answer answer => cases answer <;> rfl

theorem Place.clock_due : place.clock.due = place.due ∨
    place.due = .nothing ∧ place.clock.due = .attempt := by
  cases place with
  | resuming decision | checking decision =>
      exact (due_acting decision).imp id fun attempt => ⟨rfl, attempt⟩
  | _ => exact .inl rfl

theorem Place.clock_live (live : place.live = true) : place.clock.live = true := by
  cases place with
  | before | done => cases live
  | resuming decision | checking decision => exact live_acting decision
  | _ => rfl

theorem Place.counts_clock {operation : MetricOperation} {outcome : MetricOutcome}
    (counts : place.due.Counts operation outcome) :
    place.clock.due.Counts operation outcome := by
  rcases @clock_due place with same | ⟨nothing, attempt⟩
  · rwa [same]
  · rw [nothing] at counts
    rw [attempt]
    cases counts
    exact .unattempted

theorem Place.firm_of_tight (tight : place.tight = true) : place.firm = true := by
  cases place <;> first | rfl | cases tight

theorem Due.counts_run {due : Due} (settled : due.settled = true) (outcome : MetricOutcome) :
    due.Counts .run outcome := by
  cases due with
  | nothing => exact .run
  | attempt => exact .unattempted
  | model accepted | tool accepted => cases settled

theorem Place.measured_model (due : place.due = .model false) :
    place.clock.measured .model = .between := by
  cases place <;> first | rfl | cases due

theorem Place.measured_tool (due : place.due = .tool false ∨ place.due = .attempt) :
    place.clock.measured .tool = .between := by
  cases place <;> first | rfl | (rcases due with due | due <;> cases due)

theorem Due.counts_tool {due : Due} (owed : due = .tool false ∨ due = .attempt) :
    due.Counts .tool .error := by
  rcases owed with rfl | rfl
  · exact .tool
  · exact .attempt

def Due.isModel : Due → Bool
  | .model _ => true
  | _ => false

theorem Due.isModel_of_settled {due : Due} (settled : due.settled = true) :
    due.isModel = false := by
  cases due <;> first | rfl | cases settled

theorem Place.isModel_clock : place.clock.due.isModel = place.due.isModel := by
  rcases @clock_due place with same | ⟨nothing, attempt⟩
  · rw [same]
  · rw [nothing, attempt]
    rfl

theorem Place.isModel_saved : place.saved.due.isModel = place.due.isModel := by
  cases place <;> rfl

theorem AgentLoop.entry_cases (loop : AgentLoop) (pending : Option Json) :
    loop.entry pending = .between ∨ ∃ decision, loop.entry pending = .opening decision := by
  cases pending with
  | none => exact .inl rfl
  | some pending =>
      unfold AgentLoop.entry
      dsimp only
      cases ModelDecision.validate loop.answerMode pending with
      | none => exact .inl rfl
      | some decision => exact .inr ⟨decision, rfl⟩

theorem AgentLoop.entry_due (loop : AgentLoop) (pending : Option Json) :
    (loop.entry pending).due = .nothing ∧ (loop.entry pending).live = true := by
  rcases loop.entry_cases pending with entry | ⟨decision, entry⟩ <;> rw [entry] <;>
    exact ⟨rfl, rfl⟩

theorem Meter.handled_isModel (mode : AnswerMode) {meter : Meter} {decision : ToolCallDecision}
    (dispatched : meter.place = .dispatched decision) (out : Except Exc ToolResult) :
    (meter.handled mode out).place.due.isModel = false ∧
      (meter.handled mode out).place.live = true := by
  have still : meter.place.due.isModel = false ∧ meter.place.live = true := by
    rw [dispatched]
    exact ⟨rfl, rfl⟩
  unfold Meter.handled
  rw [dispatched]
  cases out with
  | error error => exact still
  | ok result =>
      dsimp only
      cases evidence mode decision meter.passages result with
      | error error => exact still
      | ok passages => exact ⟨rfl, rfl⟩

/-- One request calls a model, counts a call of one, or does neither. -/
theorem metered_model (meter : Meter) (event : Event Reply)
    (permitted : (loop.metered state).permits meter event.request) :
    meter.place.due.isModel.toNat + event.request.callsModel.toNat =
      ((loop.metered state).advance meter event.request event.reply).place.due.isModel.toNat +
        (event.request.observes .model).toNat := by
  obtain ⟨request, reply⟩ := event
  cases request with
  | perfCounter =>
      show _ = (if meter.place = .before then Meter.opened loop state reply
        else meter.read reply).place.due.isModel.toNat + 0
      split
      · rename_i before
        rw [before, show (Meter.opened loop state reply).place.due = _ from (loop.entry_due _).1]
        rfl
      · rw [show (meter.read reply).place.due.isModel = _ from Place.isModel_clock]
        rfl
  | control request =>
      cases request with
      | checkpoint lease site saved =>
          show _ = meter.place.saved.due.isModel.toNat + 0
          rw [Place.isModel_saved]
          rfl
      | _ => rfl
  | decide _ _ _ _ | review _ _ _ _ =>
      rw [Due.isModel_of_settled (permitted.2 rfl)]
      rfl
  | dispatch _ _ _ =>
      rw [Due.isModel_of_settled (permitted.2 rfl)]
      rfl
  | decided _ _ _ =>
      rw [show meter.place = .calling from permitted]
      rfl
  | handle _ _ _ =>
      obtain ⟨decision, dispatched⟩ := permitted
      show _ = (meter.handled loop.answerMode reply).place.due.isModel.toNat + 0
      rw [(Meter.handled_isModel loop.answerMode dispatched reply).1, dispatched]
      rfl
  | observe operation outcome duration =>
      obtain ⟨live, counts⟩ := permitted
      show _ + 0 = (meter.place.measured operation).due.isModel.toNat + _
      generalize meter.place = place at live counts
      cases place <;> cases counts <;> rfl
  | _ => rfl

def Place.uncounted (place : Place) : Bool := place ≠ .done

theorem Place.uncounted_of_live (live : place.live = true) : place.uncounted = true := by
  cases place <;> first | rfl | cases live

theorem Place.uncounted_clock : place.clock.uncounted = place.uncounted := by
  cases place with
  | resuming decision | checking decision => exact uncounted_of_live (live_acting decision)
  | _ => rfl

theorem Place.uncounted_saved : place.saved.uncounted = place.uncounted := by
  cases place <;> rfl

theorem Place.uncounted_measured {operation : MetricOperation} :
    (place.measured operation).uncounted = !decide (operation = .run) := by
  cases operation <;> cases place <;> rfl

theorem uncounted_of_permits {meter : Meter} {request : Request}
    (permitted : meter.permits request) : meter.place.uncounted = true := by
  cases request with
  | perfCounter => exact decide_eq_true permitted
  | decided _ _ _ =>
      rw [show meter.place = .calling from permitted]
      rfl
  | handle _ _ _ =>
      obtain ⟨decision, dispatched⟩ := permitted
      rw [dispatched]
      rfl
  | _ => exact Place.uncounted_of_live permitted.1

theorem uncounted_advance {meter : Meter} {event : Event Reply}
    (permitted : meter.permits event.request) :
    (meter.advance loop state event.request event.reply).place.uncounted =
      !event.request.observes .run := by
  have uncounted := uncounted_of_permits permitted
  obtain ⟨request, reply⟩ := event
  cases request with
  | perfCounter =>
      show (if meter.place = .before then Meter.opened loop state reply
        else meter.read reply).place.uncounted = true
      split
      · exact Place.uncounted_of_live (loop.entry_due _).2
      · exact Place.uncounted_clock.trans uncounted
  | control request =>
      cases request with
      | checkpoint lease site saved => exact Place.uncounted_saved.trans uncounted
      | _ => exact uncounted
  | handle _ _ _ =>
      obtain ⟨decision, dispatched⟩ := permitted
      exact Place.uncounted_of_live (Meter.handled_isModel loop.answerMode dispatched reply).2
  | observe operation outcome duration => exact Place.uncounted_measured
  | decide _ _ _ _ | decided _ _ _ | review _ _ _ _ | dispatch _ _ _ => rfl
  | _ => exact uncounted

theorem metered_run (meter : Meter) (event : Event Reply)
    (permitted : (loop.metered state).permits meter event.request) :
    meter.place.uncounted.toNat + (false : Bool).toNat =
      ((loop.metered state).advance meter event.request event.reply).place.uncounted.toNat +
        (event.request.observes .run).toNat := by
  rw [uncounted_of_permits permitted,
    show ((loop.metered state).advance meter event.request event.reply).place.uncounted = _ from
      uncounted_advance permitted]
  cases event.request.observes .run <;> rfl

/-- A run that makes permitted requests only, and ends, counts every call once. -/
theorem countedOnce_of_permits {events : List (Event Reply)}
    (permits : (loop.metered state).Permits {} events)
    (done : ((loop.metered state).after {} events).place = .done) :
    CountedOnce loop state events where
  run := by
    have balance := @Monitor.Permits.balance _ _ _ _ _ _
      (fun meter => meter.place.uncounted.toNat) (fun _ => false)
      (fun event => event.request.observes .run)
      (fun meter event permitted => metered_run meter event permitted) permits
    rw [done, List.countP_false] at balance
    exact ((Nat.zero_add _).symm.trans balance.symm)
  model := by
    have balance := @Monitor.Permits.balance _ _ _ _ _ _
      (fun meter => meter.place.due.isModel.toNat) (fun event => event.request.callsModel)
      (fun event => event.request.observes .model)
      (fun meter event permitted => metered_model meter event permitted) permits
    rw [done] at balance
    exact ((Nat.zero_add _).symm.trans balance.symm).trans (Nat.zero_add _)
  matched past operation outcome duration reply rest split := (permits past _ rest split).2
  settled past event rest split external := by
    have permitted := permits past event rest split
    obtain ⟨request, reply⟩ := event
    cases request with
    | decide _ _ _ _ | dispatch _ _ _ | review _ _ _ _ => exact permitted.2 rfl
    | _ => cases external
  closed := by
    unfold AgentLoop.due
    rw [done]
    rfl

end Counts

end Crewos.Agent
