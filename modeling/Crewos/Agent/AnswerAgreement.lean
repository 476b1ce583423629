import Crewos.Agent.Finality
import Crewos.RunStore.Lifecycle

/-! # Answers agree

All deliveries of a run that return an answer return the same one, and it is the
result the run keeps. -/

namespace Crewos.Agent

open Foundation RunStore

/-! ## The states of a run -/

section Changes

variable {store : SQLiteRunStore} {clock : Clock} {operation : Operation} {view after : RunView}

theorem change_succeeded (change : Change store clock operation view after)
    (succeeded : after.row.state = .succeeded) :
    (view.row.state = .succeeded ∧ after.row.result = view.row.result) ∨
      ∃ token result error, operation = .finish view.row.id view.row.tenant token .succeeded
        result error ∧ after.row.result = result := by
  cases change with
  | published => exact .inl ⟨succeeded, rfl⟩
  | claimed => cases succeeded
  | renewed => exact .inl ⟨succeeded, rfl⟩
  | saved => exact .inl ⟨succeeded, rfl⟩
  | @finished _ token state result error =>
      right
      simp only [RunView.finished, RunRow.finished, SQLiteRunStore.verdict] at succeeded ⊢
      split at succeeded
      · cases succeeded
      · rename_i wanted
        cases succeeded
        exact ⟨token, result, error, rfl, by rw [if_neg wanted]⟩
  | @cancelled _ expired => cases expired <;> cases succeeded
  | resumed => cases succeeded
  | read reconciled =>
      cases reconciled with
      | untouched => exact .inl ⟨succeeded, rfl⟩
      | _ => cases succeeded

theorem change_finish (change : Change store clock operation view after)
    {runId tenant token : String} {state : RunState} {result : Option Json} {error : Option String}
    (asked : operation = .finish runId tenant token state result error) :
    view.row.leaseToken = some token ∧ after.row.checkpoint = view.row.checkpoint := by
  cases change with
  | finished owned =>
      cases asked
      exact ⟨owned.held, rfl⟩
  | _ => cases asked

end Changes

/-- The run has succeeded with this answer. -/
structure Settled (db : RunDb) (job : AgentRunJob) (answer : AgentAnswer) (view : RunView) :
    Prop where
  found : db.view job.agentRunId.text = some view
  mode : answer.mode = job.answerMode
  sameJob : view.row.job = Dict.sorted job.dump
  state : view.row.state = .succeeded
  result : view.row.result = some answer.dump

/-- The run is over, with this answer or by a cancellation. -/
structure Over (db : RunDb) (job : AgentRunJob) (answer : AgentAnswer) (view : RunView) :
    Prop where
  found : db.view job.agentRunId.text = some view
  mode : answer.mode = job.answerMode
  sameJob : view.row.job = Dict.sorted job.dump
  outcome : (view.row.state = .succeeded ∧ view.row.result = some answer.dump) ∨
    view.row.state = .cancelled

def Party.Agrees (db : RunDb) (party : Party) : Prop :=
  match party.standing with
  | .finished _ answer => ∃ view, Over db party.job answer view
  | .delivered answer | .cached answer => ∃ view, Settled db party.job answer view
  | _ => True

structure Floor.Agrees (floor : Floor) : Prop where
  rows : ∀ runId view (job : AgentRunJob), floor.store.db.view runId = some view →
    view.row.job = Dict.sorted job.dump → view.row.state = .succeeded →
    ∃ answer : AgentAnswer, answer.mode = job.answerMode ∧ view.row.result = some answer.dump
  parties : ∀ (index : Nat) (party : Party), floor.parties[index]? = some party →
    party.Agrees floor.store.db

/-! ## What a step of the floor does to a run -/

section Steps

variable {floor next : Floor} {label : World.Label} {runId : String} {view : RunView}

theorem Floor.Step.frozen (step : Floor.Step floor label next)
    (valid : floor.store.db.WellFormed) (found : floor.store.db.view runId = some view)
    (final : terminal view.row.state = true) :
    ∃ after, next.store.db.view runId = some after ∧ view.Frozen after ∧
      after.row.job = view.row.job := by
  rcases step.view valid runId with same | ⟨_, _, _, _, viewStep⟩
  · exact ⟨view, same.trans found, .refl view, rfl⟩
  · rw [found] at viewStep
    generalize next.store.db.view runId = arrived at viewStep
    cases viewStep with
    | same => exact ⟨view, rfl, .refl view, rfl⟩
    | created absent => cases absent
    | changed present change =>
        cases present
        exact ⟨_, rfl, change.frozen (.refl _) final, (change_job change).2⟩

theorem Settled.step {job : AgentRunJob} {answer : AgentAnswer}
    (step : Floor.Step floor label next) (valid : floor.store.db.WellFormed)
    (settled : Settled floor.store.db job answer view) :
    ∃ after, Settled next.store.db job answer after := by
  have final : terminal view.row.state = true := by rw [settled.state]; rfl
  obtain ⟨after, here, frozen, sameJob⟩ := step.frozen valid settled.found final
  exact ⟨after, here, settled.mode, sameJob.trans settled.sameJob,
    frozen.state.trans settled.state, frozen.result.trans settled.result⟩

theorem Over.step {job : AgentRunJob} {answer : AgentAnswer}
    (step : Floor.Step floor label next) (valid : floor.store.db.WellFormed)
    (ended : Over floor.store.db job answer view) :
    ∃ after, Over next.store.db job answer after := by
  have final : terminal view.row.state = true := by
    rcases ended.outcome with ⟨succeeded, _⟩ | cancelled
    · rw [succeeded]
      rfl
    · rw [cancelled]
      rfl
  obtain ⟨after, here, frozen, sameJob⟩ := step.frozen valid ended.found final
  refine ⟨after, here, ended.mode, sameJob.trans ended.sameJob, ?_⟩
  rw [frozen.state, frozen.result]
  exact ended.outcome

theorem Party.Agrees.step {party : Party} (step : Floor.Step floor label next)
    (valid : floor.store.db.WellFormed) (agrees : party.Agrees floor.store.db) :
    party.Agrees next.store.db := by
  unfold Party.Agrees at agrees ⊢
  split at agrees
  · obtain ⟨view, ended⟩ := agrees
    exact ended.step step valid
  · obtain ⟨view, settled⟩ := agrees
    exact settled.step step valid
  · obtain ⟨view, settled⟩ := agrees
    exact settled.step step valid
  · trivial

theorem Standing.Step.success {settings : Settings} {job : AgentRunJob}
    {standing later : Standing} {taken : Event Reply} {token lease tenant : String}
    {result : Option Json} {error : Option String}
    (moves : Standing.Step settings job standing taken later) (real : standing ≠ .unreal)
    (reports : taken.request.operation token = some (.finish runId tenant lease .succeeded result
      error)) :
    ∃ attempt answer, standing = .working attempt ∧ attempt.stage = .answered answer ∧
      result = some answer.dump ∧ attempt.control.lease.runId = runId ∧
      attempt.control.lease.token = lease := by
  cases moves with
  | plain plain =>
      generalize taken.request = request at plain reports
      cases request with
      | control request => cases request <;> cases reports
      | finish => cases plain
      | _ => cases reports
  | unreal => exact absurd rfl real
  | works step =>
      rcases step.saves with ⟨_, rfl⟩ | ⟨_, _, nowhere⟩
      · cases reports
      · cases (nowhere token).symm.trans reports
  | finishes answered | finishRefused answered =>
      cases reports
      exact ⟨_, _, rfl, answered, rfl, rfl, rfl⟩
  | reports _ failure =>
      cases reports
      exact absurd rfl failure
  | _ => cases reports

/-- The attempt of the party has reported the answer it has saved. -/
structure Floor.SucceededBy (floor : Floor) (after : RunView) (index : Nat) (party : Party)
    (attempt : Attempt) (answer : AgentAnswer) (view : RunView) : Prop where
  here : floor.parties[index]? = some party
  working : party.standing = .working attempt
  answered : attempt.stage = .answered answer
  found : floor.store.db.view party.job.agentRunId.text = some view
  sameJob : view.row.job = Dict.sorted party.job.dump
  registered : after.row.job = view.row.job
  result : after.row.result = some answer.dump
  durable : view.row.checkpoint = attempt.dict
  kept : after.row.checkpoint = view.row.checkpoint

theorem Floor.Step.succeeds (step : Floor.Step floor label next) (sound : floor.Sound)
    {runId : String} {after : RunView} (here : next.store.db.view runId = some after)
    (succeeded : after.row.state = .succeeded) :
    (∃ view, floor.store.db.view runId = some view ∧ after.row.job = view.row.job ∧
      view.row.state = .succeeded ∧ after.row.result = view.row.result) ∨
    ∃ index party attempt answer view, party.job.agentRunId.text = runId ∧
      floor.SucceededBy after index party attempt answer view := by
  rcases step.view sound.valid runId with same | ⟨store, clock, operation, performs, viewStep⟩
  · exact .inl ⟨after, same.symm.trans here, rfl, succeeded, rfl⟩
  rw [here] at viewStep
  generalize before : floor.store.db.view runId = was at viewStep
  cases viewStep with
  | same => exact .inl ⟨after, rfl, rfl, succeeded, rfl⟩
  | created => cases succeeded
  | @changed view _ present change =>
      subst present
      have registered := (change_job change).2
      rcases change_succeeded change succeeded with ⟨already, result⟩ |
        ⟨token, result, error, rfl, stored⟩
      · exact .inl ⟨view, rfl, registered, already, result⟩
      · cases step with
        | client => cases performs.able
        | deliver => cases performs
        | @event index party taken standing store found moves =>
            cases performs with
            | event asks =>
                have known := sound.parties index party found
                obtain ⟨attempt, answer, working, answered, rfl, run, same⟩ :=
                  moves.success known.real asks
                obtain ⟨held, seen, lease, attends⟩ :=
                  known.attends attempt.control.lease (working ▸ .working)
                rw [lease, RunDb.id_of_view before] at run
                have sameRun : party.job.agentRunId.text = runId := run
                have foundView := attends.found
                rw [sameRun, before] at foundView
                cases foundView
                obtain ⟨owned, kept⟩ := change_finish change rfl
                exact .inr ⟨index, party, attempt, answer, view, sameRun, found, working, answered,
                  attends.found, attends.job, registered, stored,
                  known.holds attempt view working attends.found (by rw [same, owned]), kept⟩

/-! ## Agreement -/

theorem Floor.Agrees.succeeds (sound : floor.Sound) (works : floor.Works Attempt.Final)
    (agrees : floor.Agrees) (step : Floor.Step floor label next) :
    ∀ runId view (job : AgentRunJob), next.store.db.view runId = some view →
      view.row.job = Dict.sorted job.dump → view.row.state = .succeeded →
      ∃ answer : AgentAnswer, answer.mode = job.answerMode ∧
        view.row.result = some answer.dump := by
  intro runId after job here sameJob succeeded
  rcases step.succeeds sound here succeeded with ⟨view, before, registered, already, result⟩ |
    ⟨index, party, attempt, answer, view, _, reported⟩
  · rw [result]
    exact agrees.rows runId view job before (registered.symm.trans sameJob) already
  · have same : party.job = job :=
      AgentRunJob.sorted_dump_inj
        (reported.sameJob.symm.trans (reported.registered.symm.trans sameJob))
    refine ⟨answer, ?_, reported.result⟩
    rw [← same]
    exact mode_of_finalResult
      (works index party attempt reported.here reported.working answer reported.answered)

theorem Floor.Agrees.mover {index : Nat} {party : Party} {parties : List Party}
    {taken : Event Reply} {standing : Standing} {store : StoreState} (sound : floor.Sound)
    (works : floor.Works Attempt.Final) (agrees : floor.Agrees)
    (here : floor.parties[index]? = some party)
    (moves : Standing.Step party.settings party.job party.standing taken standing)
    (answers : Answers party.settings.store floor.store taken store)
    (step : Floor.Step floor label { store, parties }) :
    Party.Agrees store.db { party with standing } := by
  have known := sound.parties index party here
  have before := agrees.parties index party here
  generalize was : party.standing = standingBefore at moves
  cases moves with
  | plain => exact was ▸ before.step step sound.valid
  | @claimCached row answer done valid =>
      rcases answers.claim sound.valid with ⟨_, refused, _⟩ | ⟨view, found, idField, _, sameJob,
        ⟨succeeded, record, same⟩ | ⟨_, _, _, _, record, _⟩⟩
      · cases refused
      · cases record
        have id : view.row.id = party.job.agentRunId.text := (Except.ok.inj idField).symm
        rw [id] at found
        obtain ⟨answerThere, mode, result⟩ := agrees.rows _ view party.job found sameJob done
        rw [result, ← mode] at valid
        have agreed : answerThere = answer :=
          Option.some.inj (answerThere.validate_dump.symm.trans valid)
        subst agreed
        exact ⟨view, same ▸ found, mode, sameJob, done, result⟩
      · cases record
        cases done
  | @finishes attempt answer answered =>
      obtain ⟨token, seen, lease, attends⟩ :=
        known.attends attempt.control.lease (was ▸ .working)
      rcases answers.finish sound.valid with ⟨_, refused, _⟩ |
        ⟨_, view, ended, updated, holds, rewrites⟩
      · cases refused
      · have found := holds.view
        rw [lease] at found
        cases attends.found.symm.trans found
        have arrived := rewrites.here
        rw [holds.id, lease] at arrived
        refine ⟨_, arrived, mode_of_finalResult
          (works index party attempt here was answer answered), attends.job, ?_⟩
        simp only [RunView.finished, RunRow.finished, SQLiteRunStore.verdict]
        split
        · exact .inr rfl
        · exact .inl ⟨rfl, rfl⟩
  | @got lease answer row kept =>
      unfold Party.Agrees at before
      rw [was] at before
      obtain ⟨view, ended⟩ := before
      rcases answers.get sound.valid with ⟨_, refused, _⟩ |
        ⟨seen, after, clock, id, _, found, reconciled, record, rewrites⟩
      · cases refused
      · cases record
        have arrived := rewrites.here
        rw [id] at arrived
        obtain ⟨later, ended⟩ := ended.step step sound.valid
        cases arrived.symm.trans ended.found
        rcases ended.outcome with ⟨succeeded, result⟩ | cancelled
        · exact ⟨_, ended.found, ended.mode, ended.sameJob, succeeded, result⟩
        · exact absurd cancelled kept
  | _ => trivial

theorem Floor.Step.agrees (step : Floor.Step floor label next) (sound : floor.Sound)
    (works : floor.Works Attempt.Final) (agrees : floor.Agrees) : next.Agrees := by
  refine ⟨agrees.succeeds sound works step, fun index party here => ?_⟩
  cases step with
  | client able taken =>
      exact (agrees.parties index party here).step (.client able taken) sound.valid
  | deliver =>
      rcases Floor.parties_append here with here | ⟨_, rfl⟩
      · exact agrees.parties index party here
      · trivial
  | event found moves answers =>
      have step := Floor.Step.event found moves answers
      rcases Floor.parties_set here with ⟨rfl, rfl⟩ | ⟨_, here⟩
      · exact agrees.mover sound works found moves answers step
      · exact (agrees.parties index party here).step step sound.valid

end Steps

/-! ## Worlds -/

structure Floor.Agreed (floor : Floor) : Prop where
  sound : floor.Sound
  works : floor.Works Attempt.Final
  agrees : floor.Agrees

theorem Floor.Initial.agreed {floor : Floor} (initial : floor.Initial) : floor.Agreed := by
  have nobody : floor.parties = [] := initial.2
  refine ⟨initial.sound, fun index party attempt here => ?_, fun runId view job found => ?_,
    fun index party here => ?_⟩
  · rw [nobody] at here
    cases here
  · have empty : floor.store.db = RunDb.empty := initial.1
    rw [empty] at found
    cases found
  · rw [nobody] at here
    cases here

theorem Floor.Step.agreed {floor next : Floor} {label : World.Label}
    (step : Floor.Step floor label next) (agreed : floor.Agreed) : next.Agreed :=
  ⟨step.sound agreed.sound, final_lasting.step step agreed.works,
    step.agrees agreed.sound agreed.works agreed.agrees⟩

theorem World.agreed {world : World} (reachable : Reachable World.Step World.Initial world) :
    ∃ floor, world.Shown floor ∧ floor.Agreed := by
  obtain ⟨first, labels, initial, run⟩ := reachable
  obtain ⟨_, start, shown⟩ := initial.floor
  obtain ⟨floor, lifted, shown⟩ := World.floor run shown
  exact ⟨floor, shown,
    lifted.preserves (fun _ _ _ agreed step => step.agreed agreed) start.agreed⟩

theorem World.settled {world : World} (reachable : Reachable World.Step World.Initial world)
    {delivery : Delivery} (here : delivery ∈ world.deliveries) {answer : AgentAnswer}
    (returned : delivery.Returned answer) :
    ∃ view, Settled world.store.db delivery.job answer view := by
  obtain ⟨floor, shown, agreed⟩ := World.agreed reachable
  obtain ⟨index, place⟩ := List.getElem?_of_mem here
  obtain ⟨party, found, plays⟩ := shown.plays index delivery place
  obtain ⟨state, ends⟩ := returned
  have follows := plays.follows
  rw [ends] at follows
  have agrees := agreed.agrees.parties index party found
  unfold Party.Agrees at agrees
  rw [← plays.job, ← shown.store]
  rcases follows answer rfl with delivered | cached | unreal
  · rw [delivered] at agrees
    exact agrees
  · rw [cached] at agrees
    exact agrees
  · exact absurd unreal (agreed.sound.parties index party found).real

theorem Settled.run {floor last : Floor} {labels : List World.Label} {job : AgentRunJob}
    {answer : AgentAnswer} {view : RunView} (settled : Settled floor.store.db job answer view)
    (run : Run Floor.Step floor labels last) (agreed : floor.Agreed) :
    ∃ after, Settled last.store.db job answer after := by
  induction run generalizing view with
  | nil => exact ⟨view, settled⟩
  | cons step _ induction =>
      obtain ⟨after, settled⟩ := settled.step step agreed.sound.valid
      exact induction settled (step.agreed agreed)

/-- Any deliveries of a run that return an answer return the same one, and from
then on the run has succeeded with that answer as its result. -/
theorem deliveries_agree {world : World} (reachable : Reachable World.Step World.Initial world)
    {first second : Delivery} (firstHere : first ∈ world.deliveries)
    (secondHere : second ∈ world.deliveries)
    (sameRun : first.job.agentRunId = second.job.agentRunId)
    {answer other : AgentAnswer} (returned : first.Returned answer)
    (otherReturned : second.Returned other) :
    answer = other ∧ ∀ labels later, Run World.Step world labels later →
      ∃ view, later.store.db.view first.job.agentRunId.text = some view ∧
        view.row.state = .succeeded ∧ view.row.result = some answer.dump ∧
        AgentAnswer.validate first.job.answerMode (view.row.result.getD .null) = some answer := by
  obtain ⟨view, settled⟩ := World.settled reachable firstHere returned
  constructor
  · obtain ⟨otherView, otherSettled⟩ := World.settled reachable secondHere otherReturned
    have foundOther := otherSettled.found
    rw [← sameRun] at foundOther
    cases settled.found.symm.trans foundOther
    have sameResult := Option.some.inj (settled.result.symm.trans otherSettled.result)
    have sameJob := AgentRunJob.sorted_dump_inj (settled.sameJob.symm.trans otherSettled.sameJob)
    have read := answer.validate_dump
    rw [sameResult, settled.mode, sameJob, ← otherSettled.mode, other.validate_dump] at read
    exact (Option.some.inj read).symm
  · intro labels later run
    obtain ⟨floor, shown, agreed⟩ := World.agreed reachable
    rw [← shown.store] at settled
    obtain ⟨after, lifted, shownAfter⟩ := World.floor run shown
    obtain ⟨last, settled⟩ := settled.run lifted agreed
    refine ⟨last, shownAfter.store ▸ settled.found, settled.state, settled.result, ?_⟩
    rw [settled.result, ← settled.mode]
    exact answer.validate_dump

namespace Sample

def redelivered : List World.Move :=
  greeted ++ [.deliver worker (.obj task.dump)] ++
    List.replicate 5 (.event 1 0 "second" (replying greeting))

end Sample

open Sample in
/-- The redelivery returns the answer of the first delivery. -/
theorem deliveries_agree_redelivered : ∃ first second answer view,
    (World.play redelivered empty).2.deliveries[0]? = some first ∧
      (World.play redelivered empty).2.deliveries[1]? = some second ∧ first.Returned answer ∧
      second.Returned answer ∧
      (World.play redelivered empty).2.store.db.view task.agentRunId.text = some view ∧
      view.row.state = .succeeded := by
  have answers : ((World.play redelivered empty).2.deliveries[0]?.bind Delivery.answer?).isSome ∧
      ((World.play redelivered empty).2.deliveries[1]?.bind Delivery.answer?).isSome ∧
      (World.play redelivered empty).2.deliveries.all (fun delivery => delivery.job = task) := by
    decide +kernel
  obtain ⟨once, again, jobs⟩ := answers
  have jobOf {delivery : Delivery}
      (member : delivery ∈ (World.play redelivered empty).2.deliveries) : delivery.job = task := by
    simpa using List.all_eq_true.mp jobs delivery member
  obtain ⟨answer, answered⟩ := Option.isSome_iff_exists.mp once
  obtain ⟨first, here, answered⟩ := Option.bind_eq_some_iff.mp answered
  obtain ⟨other, otherAnswered⟩ := Option.isSome_iff_exists.mp again
  obtain ⟨second, there, otherAnswered⟩ := Option.bind_eq_some_iff.mp otherAnswered
  have returned := Delivery.returned_of_answer answered
  have otherReturned := Delivery.returned_of_answer otherAnswered
  have firstHere := List.mem_of_getElem? here
  have secondHere := List.mem_of_getElem? there
  obtain ⟨same, stays⟩ := deliveries_agree
    ⟨empty, _, ⟨rfl, rfl⟩, World.play_run redelivered empty⟩ firstHere secondHere
    (by rw [jobOf firstHere, jobOf secondHere]) returned otherReturned
  obtain ⟨view, found, state, _⟩ := stays [] _ (.nil _)
  exact ⟨first, second, answer, view, here, there, returned, same ▸ otherReturned,
    jobOf firstHere ▸ found, state⟩

end Crewos.Agent
