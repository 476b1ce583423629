import Crewos.Agent.AnswerAgreement
import Crewos.Agent.Budgets
import Crewos.Agent.Dispatches
import Crewos.Api.AgentDeliveries
import Crewos.RunStore.Lifecycle

/-! # Outcomes of the service

What the protocol of the attempts says of every run of the service: about answers,
budgets and calls of tools that are not safe to repeat. -/

namespace Crewos.AgentService

open Foundation RunStore Api
open Agent (AgentRunJob AgentAnswer)

/-- The numbers that the requests about a run carry. -/
def numbers (mark : Agent.Request → Option Int) (runId : String)
    (events : List (Event Agent.Reply)) : List Int :=
  events.filterMap fun taken =>
    if taken.request.runOf = some runId then mark taken.request else none

/-! ## A run that is delivered twice -/

namespace Sample

def message : Message :=
  { payload := .obj Agent.Sample.task.dump, requestId := Agent.Sample.task.agentRunId.text,
    routingKey := some "crewai.acme" }

def working : Origin := .worker Agent.Sample.worker message

/-- The model returns this, and a call of the store is answered at once, under one
token. -/
def attempting (content : Json) (origin : Origin) (state : ServerState) :
    (request : Ask) → Answer request × ServerState
  | .attempt request =>
      match request.operation "first" with
      | some operation =>
          let call := Call.instant settings.store state.store.now operation
          match request.reply (operation.perform settings.store call.clock state.store.db).1 with
          | some reply =>
              (reply, state.perform origin call
                { state.store with db := call.apply state.store.db })
          | none => (Agent.Sample.others request, state)
      | none => (Agent.Sample.replying content request, state)
  | request => respond origin state request

def answerable (state : ServerState) : Ask → Bool
  | .attempt request =>
      match request.operation "first" with
      | some operation =>
          (request.reply (operation.perform settings.store (fun _ => state.store.now)
            state.store.db).1).isSome
      | none => true
  | request => legal state request

theorem operation_elsewhere {request : Agent.Request} {token : String}
    (elsewhere : request.operation token = none) (other : String) :
    request.operation other = none := by
  cases request with
  | control request => cases request <;> first | rfl | cases elsewhere
  | claim | finish | get => cases elsewhere
  | _ => rfl

theorem attempting_answers (content : Json) (origin : Origin)
    (configured : origin.store settings = settings.store) (state : ServerState) (ask : Ask)
    (allowed : answerable state ask = true) :
    answers settings origin state ask (attempting content origin state ask).1
      (attempting content origin state ask).2 := by
  cases ask with
  | attempt request =>
      unfold attempting
      unfold answerable at allowed
      cases performs : request.operation "first" with
      | some operation =>
          simp only [performs] at allowed ⊢
          obtain ⟨reply, replies⟩ := Option.isSome_iff_exists.mp allowed
          have forward : state.store.now ≤ state.store.now := le_refl _
          have replied : request.reply (operation.perform settings.store
              (Call.instant settings.store state.store.now operation).clock state.store.db).1 =
            some reply := replies
          simp only [replied]
          exact .performed configured.symm performs
            (.instant settings.store operation forward state.store.db)
            (Agent.Request.replied_of_reply replies)
      | none =>
          simp only [performs]
          refine .other (fun token => ?_) ⟨rfl, le_refl _⟩
          exact operation_elsewhere performs token
  | _ => exact respond_answers origin configured state _ allowed

def attemptedOnce := Service.solo (attempting Agent.Sample.greeting working) answerable 80
  submitted.2.2.1 (handle settings working)

def attemptedTwice := Service.solo (attempting Agent.Sample.greeting working) answerable 80
  attemptedOnce.2.2.1 (handle settings working)

def given : Json :=
  .obj [("type", .str "final_answer"), ("answer", .str "hello"), ("citations", .arr [])]

def firstAttempt : ServiceSession := ⟨working, attemptedOnce.2.1, attemptedOnce.1⟩

def secondAttempt : ServiceSession := ⟨working, attemptedTwice.2.1, attemptedTwice.1⟩

def twice : ServiceWorld :=
  { state := attemptedTwice.2.2.1, sessions := [submission, firstAttempt, secondAttempt] }

def labels : List (Service.Label Answer Origin) :=
  (.arrive submitting :: submitted.1.map (.event 0)) ++
    ((.arrive working :: attemptedOnce.1.map (.event 1)) ++
      (.arrive working :: attemptedTwice.1.map (.event 2)))

theorem twice_evaluated :
    (attemptedOnce.2.2.2 = true ∧ attemptedTwice.2.2.2 = true) ∧
      (attemptedOnce.2.1.value? = some (.ok (.answered given), ()) ∧
        attemptedTwice.2.1.value? = some (.ok (.answered given), ())) ∧
      numbers Agent.Request.asked Agent.Sample.task.agentRunId.text
        (labels.filterMap attempted) = [1] ∧
      ∃ row ∈ twice.state.store.db.runs, row.id = Agent.Sample.task.agentRunId.text := by
  decide +kernel

theorem twice_run : Run (Service.Step (service settings)) (.start (.empty 0)) labels twice :=
  ((Service.solo_alone (respond_answers submitting rfl) (by decide +kernel)).served []).append
    (((Service.solo_alone (attempting_answers _ working rfl) twice_evaluated.1.1).served
        [submission]).append
      ((Service.solo_alone (attempting_answers _ working rfl) twice_evaluated.1.2).served
        [submission, firstAttempt]))

/-! A run whose model asks for the charge. Its handler fails, and the message is
delivered again. -/

def charging : Origin :=
  .worker { Agent.Sample.worker with tools := [Agent.Sample.charge] } message

def chargedOnce :=
  Service.solo (attempting Agent.Sample.chargeCall.dump charging) answerable 80 submitted.2.2.1
    (handle settings charging)

def chargedTwice :=
  Service.solo (attempting Agent.Sample.chargeCall.dump charging) answerable 80
    chargedOnce.2.2.1 (handle settings charging)

def charged : ServiceWorld :=
  { state := chargedTwice.2.2.1
    sessions := [submission, ⟨charging, chargedOnce.2.1, chargedOnce.1⟩,
      ⟨charging, chargedTwice.2.1, chargedTwice.1⟩] }

def charges : List (Service.Label Answer Origin) :=
  (.arrive submitting :: submitted.1.map (.event 0)) ++
    ((.arrive charging :: chargedOnce.1.map (.event 1)) ++
      (.arrive charging :: chargedTwice.1.map (.event 2)))

theorem charged_evaluated :
    (chargedOnce.2.2.2 = true ∧ chargedTwice.2.2.2 = true) ∧
      ∃ row ∈ charged.state.store.db.runs, row.id = Agent.Sample.task.agentRunId.text ∧
        row.state = .needsReview ∧ numbers (Agent.Request.dispatched [Agent.Sample.charge]) row.id
          (charges.filterMap attempted) = [1] := by
  decide +kernel

theorem charged_run : Run (Service.Step (service settings)) (.start (.empty 0)) charges charged :=
  ((Service.solo_alone (respond_answers submitting rfl) (by decide +kernel)).served []).append
    (((Service.solo_alone (attempting_answers _ charging rfl) charged_evaluated.1.1).served
        [submission]).append
      ((Service.solo_alone (attempting_answers _ charging rfl) charged_evaluated.1.2).served
        [submission, _]))

end Sample

/-! ## Refinement -/

section Refinement

variable {settings : ServiceSettings} {now : Time}
  {labels : List (Service.Label Answer Origin)} {world : ServiceWorld}

/-- The service refines the protocol of the attempts. In every run the store is that
of a history of deliveries among clients; it takes the events of the attempts, but for
those of the status tool, in their order; it delivers the jobs of accepted messages
only; and each attempt is a delivery of its job, which returned what the attempt
answers. -/
theorem service_refines_deliveries
    (run : Run (Service.Step (service settings)) (.start (.empty now)) labels world) :
    ∃ signs agents, Run Agent.World.Step (nobody now) signs agents ∧
      agents.store = world.state.store ∧
      signs.filterMap visible = labels.filterMap attempted ∧
      (∀ worker job, .deliver worker job ∈ signs → ∃ message,
        .arrive (.worker worker message) ∈ labels ∧ accepted settings message = some job) ∧
      ∀ session ∈ world.sessions, ∀ worker job,
        session.origin.delivery settings = some (worker, job) →
          ∃ delivery ∈ agents.deliveries, delivery.settings = worker ∧ delivery.job = job ∧
            ∀ answer, session.program = .done (.ok (.answered answer), ()) →
              ∃ returned, delivery.Returned returned ∧ answer = AgentAnswer.dump returned := by
  obtain ⟨signs, agents, moves, mirrors, seen, delivered⟩ := Mirrors.of_run run
  refine ⟨signs, agents, moves, mirrors.store, seen, delivered, ?_⟩
  intro session member worker job delivers
  obtain ⟨index, found⟩ := List.getElem?_of_mem member
  obtain ⟨delivery, here, mirror⟩ :=
    mirrors.mirrored index session found (delivers_iff.mpr ⟨worker, job, delivers⟩)
  cases delivers.symm.trans mirror.origin
  refine ⟨delivery, List.mem_of_getElem? here, rfl, rfl, fun answer answered => ?_⟩
  have settled := mirror.settled
  rw [answered] at settled
  obtain ⟨returned, saved, ended, same⟩ := settled.agreed answer rfl
  exact ⟨returned, ⟨saved, ended⟩, same⟩

open Sample in
/-- An answer of the sample is what a delivery of its history returned. -/
theorem service_refines_deliveries_twice : ∃ signs agents,
    Run Agent.World.Step (nobody 0) signs agents ∧ agents.store = twice.state.store ∧
      ∃ delivery ∈ agents.deliveries, delivery.job = Agent.Sample.task ∧
        ∃ returned, delivery.Returned returned ∧ given = AgentAnswer.dump returned := by
  obtain ⟨signs, agents, moves, store, _, _, attempts⟩ := service_refines_deliveries twice_run
  have accepts : firstAttempt.origin.delivery Sample.settings =
      some (Agent.Sample.worker, Agent.Sample.task) := by
    have valid : accepted Sample.settings message = some Agent.Sample.task := by decide +kernel
    exact congrArg (Option.map _) valid
  obtain ⟨delivery, there, _, job, returns⟩ :=
    attempts firstAttempt (by simp [twice]) _ _ accepts
  exact ⟨signs, agents, moves, store, delivery, there, job,
    returns given (Service.eq_done_of_value? twice_evaluated.2.1.1)⟩

end Refinement

/-! ## What was told stays -/

section Endings

variable {settings : ServiceSettings} {now : Time}
  {labels more : List (Service.Label Answer Origin)} {label : Service.Label Answer Origin}
  {world later : ServiceWorld}

theorem history_grows (step : Service.Step (service settings) world label later) :
    world.state.history <+: later.state.history := by
  cases step with
  | arrive => exact List.prefix_rfl
  | event _ _ answered =>
      rcases history_of_answers answered with same | ⟨call, same, _⟩
      · exact same ▸ List.prefix_rfl
      · exact same ▸ List.prefix_append _ _

theorem replay_onward (upheld : world.Upheld (discipline settings))
    (run : Run (Service.Step (service settings)) world more later) :
    ∃ future, later.state.store.db = world.state.store.db.replay future := by
  have after : later.Upheld (discipline settings) :=
    run.preserves (fun _ _ _ upheld step => upheld.step (sound settings) step) upheld
  have grown : world.state.history <+: later.state.history :=
    @Run.preserves _ _ _ (fun middle => world.state.history <+: middle.state.history)
      (fun _ _ _ grown step => grown.trans (history_grows step)) _ _ _ run List.prefix_rfl
  obtain ⟨rest, split⟩ := grown
  refine ⟨rest.map Entry.call, ?_⟩
  rw [after.shared.db, upheld.shared.db, ServerState.calls, ← split]
  simp [RunDb.replay, ServerState.calls]

/-- The row shows the end of the run as the other does. -/
structure Ended (row after : RunRow) : Prop where
  id : after.id = row.id
  state : after.state = row.state
  result : after.result = row.result
  error : after.error = row.error

theorem ended_onward (upheld : world.Upheld (discipline settings)) {row : RunRow}
    (member : row ∈ world.state.store.db.runs) (final : terminal row.state = true)
    (run : Run (Service.Step (service settings)) world more later) :
    ∃ after ∈ later.state.store.db.runs, Ended row after := by
  obtain ⟨future, same⟩ := replay_onward upheld run
  have valid := upheld.shared.wellFormed
  obtain ⟨view, found, rfl⟩ := view_of_mem valid member
  obtain ⟨after, kept, frozen⟩ := RunDb.frozen_replay valid found final future
  rw [← same] at kept
  exact ⟨after.row, mem_of_view kept, RunDb.id_of_view kept, frozen.state, frozen.result,
    frozen.error⟩

theorem row_unique (upheld : world.Upheld (discipline settings)) {row other : RunRow}
    (member : row ∈ world.state.store.db.runs) (memberToo : other ∈ world.state.store.db.runs)
    (same : row.id = other.id) : row = other :=
  List.inj_on_of_nodup_map upheld.shared.wellFormed.ids member memberToo same

/-- The record that a session was told of by the store. -/
def told : Event Answer → Option RunRow
  | ⟨.call _, .ok reply⟩ => reply.row?
  | _ => none

def Truthful (world : ServiceWorld) : Prop :=
  ∀ session ∈ world.sessions, ∀ event ∈ session.past, ∀ row, told event = some row →
    terminal row.state = true → ∃ after ∈ world.state.store.db.runs, Ended row after

theorem Truthful.step (upheld : world.Upheld (discipline settings)) (truthful : Truthful world)
    (step : Service.Step (service settings) world label later) : Truthful later := by
  have kept : ∀ session ∈ world.sessions, ∀ event ∈ session.past, ∀ row, told event = some row →
      terminal row.state = true → ∃ after ∈ later.state.store.db.runs, Ended row after := by
    intro session member event happened row here final
    obtain ⟨after, there, ended⟩ := truthful session member event happened row here final
    obtain ⟨last, remains, again⟩ :=
      ended_onward upheld there (ended.state ▸ final) (.single step)
    exact ⟨last, remains, again.id.trans ended.id, again.state.trans ended.state,
      again.result.trans ended.result, again.error.trans ended.error⟩
  cases step with
  | arrive =>
      intro session member event happened
      rcases List.mem_append.mp member with old | new
      · exact kept session old event happened
      · cases List.mem_singleton.mp new
        cases happened
  | @event index session request resume reply state found asks answered =>
      intro other member event happened row here final
      rcases List.mem_or_eq_of_mem_set member with old | rfl
      · exact kept other old event happened row here final
      · rcases List.mem_append.mp happened with old | new
        · exact kept session (List.mem_of_getElem? found) event old row here final
        · cases List.mem_singleton.mp new
          cases request with
          | call operation =>
              generalize outcome : (reply : Except RunStoreError RunStore.Reply) = replied
                at answered here
              cases replied with
              | ok reply =>
                  exact ⟨row, (Transacts.returned answered here).1, rfl, rfl, rfl, rfl⟩
              | error => cases here
          | _ => cases here

theorem truthful_of_run
    (run : Run (Service.Step (service settings)) (.start (.empty now)) labels world) :
    world.Upheld (discipline settings) ∧ Truthful world := by
  refine @Run.preserves _ _ _
    (fun world => world.Upheld (discipline settings) ∧ Truthful world) ?_ _ _ _ run ?_
  · exact fun _ _ _ holds step => ⟨holds.1.step (sound settings) step, holds.2.step holds.1 step⟩
  · exact ⟨.start Shared.empty, fun session member => by cases member⟩

/-- What any sessions were told of the end of a run is how it ended, and stays so:
they were told the same, and it is what the database says ever after. -/
theorem told_ends_agree
    (run : Run (Service.Step (service settings)) (.start (.empty now)) labels world)
    {session : ServiceSession} (member : session ∈ world.sessions) {event : Event Answer}
    (happened : event ∈ session.past) {row : RunRow} (here : told event = some row)
    (final : terminal row.state = true) :
    ∀ more later, Run (Service.Step (service settings)) world more later →
      (∃ after ∈ later.state.store.db.runs, Ended row after) ∧
        ∀ other ∈ later.sessions, ∀ again ∈ other.past, ∀ record, told again = some record →
          record.id = row.id → terminal record.state = true → Ended row record := by
  intro more later onward
  obtain ⟨upheld, truthful⟩ := truthful_of_run run
  obtain ⟨upheldLater, truthfulLater⟩ := truthful_of_run (run.append onward)
  obtain ⟨after, there, ended⟩ := truthful session member event happened row here final
  obtain ⟨last, remains, again⟩ := ended_onward upheld there (ended.state ▸ final) onward
  have stays : Ended row last := ⟨again.id.trans ended.id, again.state.trans ended.state,
    again.result.trans ended.result, again.error.trans ended.error⟩
  refine ⟨⟨last, remains, stays⟩, fun other place event happened record told same ends => ?_⟩
  obtain ⟨kept, keeps, shown⟩ := truthfulLater other place event happened record told ends
  cases row_unique upheldLater keeps remains ((shown.id.trans same).trans stays.id.symm)
  exact ⟨same, shown.state.symm.trans stays.state, shown.result.symm.trans stays.result,
    shown.error.symm.trans stays.error⟩

end Endings

namespace Sample

def cancelled :=
  serving submitted.2.2.1 (requesting (.cancelAgentRun Agent.Sample.task.agentRunId.text))

def refused := Service.solo (attempting Agent.Sample.greeting working) answerable 80 cancelled.2.2.1
  (handle settings working)

def cancellation : ServiceSession :=
  ⟨requesting (.cancelAgentRun Agent.Sample.task.agentRunId.text), cancelled.2.1, cancelled.1⟩

def lateAttempt : ServiceSession := ⟨working, refused.2.1, refused.1⟩

def tells (event : Event Answer) : Bool :=
  (told event).any fun row =>
    row.id = Agent.Sample.task.agentRunId.text ∧ row.state = .cancelled

theorem cancelled_evaluated :
    (cancelled.2.2.2 = true ∧ refused.2.2.2 = true) ∧
      (∃ row ∈ cancelled.2.2.1.store.db.runs,
        row.id = Agent.Sample.task.agentRunId.text ∧ row.state = .cancelled) ∧
      ∃ event ∈ cancelled.1, tells event = true := by
  decide +kernel

def cancelledWorld : ServiceWorld :=
  { state := cancelled.2.2.1, sessions := [submission, cancellation] }

theorem cancelled_run : Run (Service.Step (service settings)) (.start (.empty 0))
    ((.arrive submitting :: submitted.1.map (.event 0)) ++
      .arrive cancellation.origin :: cancelled.1.map (.event 1)) cancelledWorld :=
  ((Service.solo_alone (respond_answers submitting rfl) (by decide +kernel)).served []).append
    ((Service.solo_alone (respond_answers cancellation.origin rfl)
      cancelled_evaluated.1.1).served [submission])

theorem late_run : Run (Service.Step (service settings)) cancelledWorld
    (.arrive working :: refused.1.map (.event 2))
    { state := refused.2.2.1, sessions := [submission, cancellation, lateAttempt] } :=
  (Service.solo_alone (attempting_answers _ working rfl) cancelled_evaluated.1.2).served
    [submission, cancellation]

end Sample

open Sample in
/-- What the sample's tenant was told of its cancellation is what remains. -/
theorem told_ends_agree_cancelled : ∃ after ∈ refused.2.2.1.store.db.runs,
    after.id = Agent.Sample.task.agentRunId.text ∧ after.state = .cancelled := by
  obtain ⟨event, happened, tells⟩ := cancelled_evaluated.2.2
  obtain ⟨row, here, ends⟩ := (Option.any_eq_true _ _).mp tells
  obtain ⟨id, state⟩ := of_decide_eq_true ends
  have there : cancellation ∈ cancelledWorld.sessions := by simp [cancelledWorld]
  obtain ⟨after, remains, ended⟩ :=
    (told_ends_agree cancelled_run there happened here (by rw [state]; rfl) _ _ late_run).1
  exact ⟨after, remains, ended.id.trans id, ended.state.trans state⟩

/-! ## Answers -/

section Answers

variable {settings : ServiceSettings} {now : Time}
  {labels more : List (Service.Label Answer Origin)} {world later : ServiceWorld}

def attemptOf (settings : ServiceSettings) (session : ServiceSession) : Option Uuid4 :=
  (session.origin.delivery settings).map fun attempt => attempt.2.agentRunId

theorem answered_run
    (run : Run (Service.Step (service settings)) (.start (.empty now)) labels world)
    {session : ServiceSession} (member : session ∈ world.sessions) {runId : Uuid4}
    (attempts : attemptOf settings session = some runId) {answer : Json}
    (answered : session.program = .done (.ok (.answered answer), ())) :
    ∃ row ∈ world.state.store.db.runs, row.id = runId.text ∧ row.state = .succeeded ∧
      row.result = some answer := by
  obtain ⟨signs, agents, moves, mirrors, _⟩ := Mirrors.of_run run
  obtain ⟨⟨worker, job⟩, delivered, rfl⟩ := Option.map_eq_some_iff.mp attempts
  obtain ⟨index, found⟩ := List.getElem?_of_mem member
  obtain ⟨delivery, here, mirror⟩ :=
    mirrors.mirrored index session found (delivers_iff.mpr ⟨worker, job, delivered⟩)
  have settled := mirror.settled
  rw [answered] at settled
  obtain ⟨returned, saved, ended, rfl⟩ := settled.agreed answer rfl
  obtain ⟨view, settles⟩ := Agent.World.settled ⟨nobody now, signs, nobody_initial, moves⟩
    (List.mem_of_getElem? here) ⟨saved, ended⟩
  cases delivered.symm.trans mirror.origin
  have foundView := settles.found
  rw [mirrors.store] at foundView
  exact ⟨view.row, mem_of_view foundView, RunDb.id_of_view foundView, settles.state,
    settles.result⟩

/-- However often a run is delivered and to however many workers: all that answer
give the same answer, the run has succeeded with it from then on, and it is a run
that was submitted. -/
theorem worker_answers_agree
    (run : Run (Service.Step (service settings)) (.start (.empty now)) labels world)
    {first second : ServiceSession} (firstHere : first ∈ world.sessions)
    (secondHere : second ∈ world.sessions) {runId : Uuid4}
    (attempts : attemptOf settings first = some runId)
    (attemptsToo : attemptOf settings second = some runId) {answer other : Json}
    (answered : first.program = .done (.ok (.answered answer), ()))
    (answeredToo : second.program = .done (.ok (.answered other), ())) :
    answer = other ∧ ∀ more later, Run (Service.Step (service settings)) world more later →
      ∃ row ∈ later.state.store.db.runs, row.id = runId.text ∧ row.state = .succeeded ∧
        row.result = some answer ∧ ∃ job entry, Submitted settings later.state row job entry := by
  have upheld := (sound settings).run Shared.empty run
  obtain ⟨row, member, id, succeeded, result⟩ := answered_run run firstHere attempts answered
  constructor
  · obtain ⟨again, there, idToo, _, resultToo⟩ :=
      answered_run run secondHere attemptsToo answeredToo
    cases row_unique upheld member there (id.trans idToo.symm)
    exact Option.some.inj (result.symm.trans resultToo)
  · intro more later onward
    obtain ⟨after, there, ended⟩ :=
      ended_onward upheld member (by rw [succeeded]; rfl) onward
    have rows := ((sound settings).run Shared.empty (run.append onward)).shared.rows
    exact ⟨after, there, ended.id.trans id, ended.state.trans succeeded,
      ended.result.trans result, rows after there⟩

open Sample in
/-- Both attempts of the sample answer, and its run has succeeded. -/
theorem worker_answers_agree_twice :
    ∃ row ∈ Sample.twice.state.store.db.runs, row.id = Agent.Sample.task.agentRunId.text ∧
      row.state = .succeeded ∧ row.result = some Sample.given ∧
        ∃ job entry, Submitted Sample.settings Sample.twice.state row job entry := by
  obtain ⟨once, again⟩ := twice_evaluated.2.1
  have named : attemptOf Sample.settings firstAttempt = some Agent.Sample.task.agentRunId := by
    decide +kernel
  have namedToo : attemptOf Sample.settings secondAttempt = some Agent.Sample.task.agentRunId := by
    decide +kernel
  have firstHere : firstAttempt ∈ twice.sessions := by simp [twice]
  have secondHere : secondAttempt ∈ twice.sessions := by simp [twice]
  exact (worker_answers_agree twice_run firstHere secondHere named namedToo
    (Service.eq_done_of_value? once) (Service.eq_done_of_value? again)).2 [] _ (.nil _)

/-- Once a run was cancelled, exhausted or set aside for review, no attempt ever
answers for it, whenever it was delivered. -/
theorem ended_runs_never_answer
    (run : Run (Service.Step (service settings)) (.start (.empty now)) labels world)
    {row : RunRow} (member : row ∈ world.state.store.db.runs)
    (final : terminal row.state = true) (otherwise : row.state ≠ .succeeded)
    (onward : Run (Service.Step (service settings)) world more later) :
    ∀ session ∈ later.sessions, ∀ runId, attemptOf settings session = some runId →
      runId.text = row.id → ∀ answer, session.program ≠ .done (.ok (.answered answer), ()) := by
  intro session here runId attempts same answer answered
  have upheld := (sound settings).run Shared.empty run
  have upheldLater := (sound settings).run Shared.empty (run.append onward)
  obtain ⟨found, there, id, succeeded, _⟩ :=
    answered_run (run.append onward) here attempts answered
  obtain ⟨after, remains, ended⟩ := ended_onward upheld member final onward
  cases row_unique upheldLater there remains ((id.trans same).trans ended.id.symm)
  exact otherwise (ended.state.symm.trans succeeded)

open Sample in
/-- The attempt that comes after the cancellation does not answer. -/
theorem ended_runs_never_answer_cancelled : cancelledWorld.state.store.db.runs ≠ [] ∧
    ¬∃ answer, lateAttempt.program = .done (.ok (.answered answer), ()) := by
  obtain ⟨row, member, id, state⟩ := cancelled_evaluated.2.1
  have named : attemptOf Sample.settings lateAttempt = some Agent.Sample.task.agentRunId := by
    decide +kernel
  refine ⟨List.ne_nil_of_mem member, ?_⟩
  rintro ⟨answer, answered⟩
  exact ended_runs_never_answer cancelled_run member (by rw [state]; rfl) (by rw [state]; decide)
    late_run lateAttempt (by simp) _ named id.symm answer answered

end Answers

/-! ## Budgets and calls -/

section Budgets

variable {settings : ServiceSettings} {now : Time}
  {labels : List (Service.Label Answer Origin)} {world : ServiceWorld}

theorem numbers_visible (mark : Agent.Request → Option Int) (runId : String)
    (signs : List Agent.World.Label) :
    Agent.numbers mark runId signs = numbers mark runId (signs.filterMap visible) := by
  rw [numbers, List.filterMap_filterMap, Agent.numbers]
  refine congrArg (List.filterMap · signs) (funext fun sign => ?_)
  cases sign with
  | event index taken =>
      rcases taken with ⟨request, reply⟩
      cases request with
      | handle tool arguments remaining =>
          by_cases within : Within (.handle tool arguments remaining) <;>
            simp [Agent.World.Label.number, visible, within, Agent.Request.runOf]
      | _ => rfl
  | client => rfl
  | deliver => rfl

theorem registered_of_submitted {state : ServerState} (shared : Shared settings state)
    {row : RunRow} (member : row ∈ state.store.db.runs) {job : AgentRunJob} {entry : Entry}
    (submitted : Submitted settings state row job entry) {view : RunView}
    (found : state.store.db.view job.agentRunId.text = some view) :
    view.row.job = Dict.sorted job.dump := by
  have sameId := (RunDb.id_of_view found).trans submitted.runs.id.symm
  have same : view.row = row :=
    List.inj_on_of_nodup_map shared.wellFormed.ids (mem_of_view found) member sameId
  rw [same]
  exact submitted.runs.job

theorem asked_bounded {job : AgentRunJob} {first last : Agent.World} (initial : first.Initial)
    {signs : List Agent.World.Label} (run : Run Agent.World.Step first signs last)
    (registered : ∀ view, last.store.db.view job.agentRunId.text = some view →
      view.row.job = Dict.sorted job.dump) :
    (Agent.numbers Agent.Request.asked job.agentRunId.text signs).Nodup ∧
      (Agent.numbers Agent.Request.asked job.agentRunId.text signs).length ≤ job.maxDecisions := by
  obtain ⟨course, moves, _, _⟩ := @Agent.World.course job (fun _ => True) _ _ _ initial run
    (fun _ _ _ _ => trivial) registered
  have keeps := Agent.asking_keeps job fun _ => True
  have distinct := (Agent.Course.Once.run (Agent.askTicket_lawful job)
    (Agent.knows_keeps job _) moves).nodup
  refine ⟨distinct, Agent.length_le_of_nodup distinct fun number member => ?_⟩
  obtain ⟨sign, here, uses⟩ := List.mem_filterMap.mp member
  obtain ⟨before, after, rfl⟩ := List.append_of_mem here
  cases sign with
  | event index taken =>
      rcases taken with ⟨request, reply⟩
      rw [Agent.World.Label.number] at uses
      split at uses
      · rename_i names
        cases request with
        | decide runId step messages timeout =>
            cases uses
            obtain ⟨worker, attempt, later, asking, moved⟩ := keeps.acts moves names fun _ => rfl
            cases moved with
            | decide raised =>
                obtain ⟨_, positive, within⟩ := asking.raised raised
                exact ⟨by omega, by omega⟩
        | _ => cases uses
      · cases uses
  | client => cases uses
  | deliver => cases uses

/-- A run that was submitted asks the provider under numbers of their own, and at
most as often as its request allowed, within the policy of the server: over all
deliveries, recoveries and resumptions. -/
theorem submitted_runs_bounded
    (run : Run (Service.Step (service settings)) (.start (.empty now)) labels world) :
    ∀ row ∈ world.state.store.db.runs, ∃ job entry, Submitted settings world.state row job entry ∧
      (numbers Agent.Request.asked row.id (labels.filterMap attempted)).Nodup ∧
      (numbers Agent.Request.asked row.id (labels.filterMap attempted)).length ≤
        job.maxDecisions ∧ job.maxDecisions ≤ settings.agentMaxDecisions := by
  intro row member
  obtain ⟨signs, agents, moves, mirrors, seen, _⟩ := Mirrors.of_run run
  have shared := ((sound settings).run Shared.empty run).shared
  obtain ⟨job, entry, submitted⟩ := shared.rows row member
  obtain ⟨distinct, bounded⟩ := @asked_bounded job _ _ nobody_initial _ moves fun view found => by
    rw [mirrors.store] at found
    exact registered_of_submitted shared member submitted found
  rw [numbers_visible, seen, ← submitted.runs.id] at distinct bounded
  obtain ⟨key, submits, _⟩ := submitted.creates
  exact ⟨job, entry, submitted, distinct, bounded, submits.budget⟩

open Sample in
/-- The provider was asked once for the sample's run. -/
theorem submitted_runs_bounded_twice :
    numbers Agent.Request.asked Agent.Sample.task.agentRunId.text
        (Sample.labels.filterMap attempted) = [1] ∧
      ∃ row ∈ Sample.twice.state.store.db.runs, row.id = Agent.Sample.task.agentRunId.text ∧
        ∃ job entry, Submitted Sample.settings Sample.twice.state row job entry ∧
          1 ≤ job.maxDecisions ∧ job.maxDecisions ≤ 5 := by
  obtain ⟨once, row, member, id⟩ := twice_evaluated.2.2
  obtain ⟨job, entry, submitted, _, bounded, policy⟩ :=
    submitted_runs_bounded twice_run row member
  rw [id, once] at bounded
  exact ⟨once, row, member, id, job, entry, submitted, bounded, policy⟩

/-- Where all workers have the same tools, a submitted run dispatches a call of a
replay-unsafe tool once under its number. -/
theorem unsafe_calls_once {tools : List Agent.ToolDefinition}
    (run : Run (Service.Step (service settings)) (.start (.empty now)) labels world)
    (registry : ∀ worker message, .arrive (.worker worker message) ∈ labels →
      worker.tools = tools) :
    ∀ row ∈ world.state.store.db.runs,
      (numbers (Agent.Request.dispatched tools) row.id (labels.filterMap attempted)).Nodup := by
  intro row member
  obtain ⟨signs, agents, moves, mirrors, seen, delivered⟩ := Mirrors.of_run run
  have shared := ((sound settings).run Shared.empty run).shared
  obtain ⟨job, entry, submitted⟩ := shared.rows row member
  obtain ⟨course, courses, _⟩ := @Agent.World.course job (fun worker => worker.tools = tools) _ _ _
    nobody_initial moves
    (fun sign there worker same => by
      obtain ⟨message, arrived, _⟩ := delivered worker job (same ▸ there)
      exact registry worker message arrived)
    (fun view found => by
      rw [mirrors.store] at found
      exact registered_of_submitted shared member submitted found)
  have distinct := (Agent.Course.Once.run (Agent.dispatchTicket_lawful job tools)
    (Agent.marking_keeps job tools) courses).nodup
  rwa [numbers_visible, seen, ← submitted.runs.id] at distinct

open Sample in
/-- The charge was dispatched by the first delivery alone. -/
theorem unsafe_calls_once_charge : ∃ row ∈ Sample.charged.state.store.db.runs,
    numbers (Agent.Request.dispatched [Agent.Sample.charge]) row.id
        (Sample.charges.filterMap attempted) = [1] ∧
      (numbers (Agent.Request.dispatched [Agent.Sample.charge]) row.id
        (Sample.charges.filterMap attempted)).Nodup := by
  obtain ⟨row, member, _, _, once⟩ := charged_evaluated.2
  refine ⟨row, member, once,
    unsafe_calls_once charged_run (fun worker message arrived => ?_) row member⟩
  have same : Origin.worker worker message = submitting ∨
      Origin.worker worker message = charging := by
    simpa [Sample.charges] using arrived
  rcases same with other | same
  · cases other
  · cases same
    rfl

end Budgets

end Crewos.AgentService
