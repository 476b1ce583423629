import Crewos.Agent.Continuations
import Crewos.RunStore.Stopping
import Mathlib.Data.Int.Interval

/-! # Budgets of a run

The counters of a run are in its checkpoint and only go up: a decision is asked
for under a number that has just been saved, and a recovery is counted before the
attempt goes on from it. Attempts come and go, the budget is the run's. -/

namespace Crewos.Agent

open Foundation RunStore

variable {job : AgentRunJob} {configured : Settings → Prop}

/-! ## Calls of the provider -/

def Request.asked : Request → Option Int
  | .decide _ step _ _ => some step
  | _ => none

def askTicket : Ticket where
  mark := Request.asked
  carries stage := stage = .raised

/-- The delivery has saved the number, which is greater than all saved before. -/
def RaisedBy (job : AgentRunJob) (past : List World.Label) (index : Nat) (number : Int) : Prop :=
  ∃ first taken between saved, past = first ++ .event index taken :: between ∧
    World.Label.saved job.agentRunId.text (.event index taken) = some saved ∧
    counter saved "decisions" = .ok number ∧
    ∀ dict ∈ saves job.agentRunId.text first, decisionsOf dict < number

theorem RaisedBy.later {past : List World.Label} {index : Nat} {number : Int}
    (raised : RaisedBy job past index number) (label : World.Label) :
    RaisedBy job (past ++ [label]) index number := by
  obtain ⟨first, taken, between, saved, rfl, same, counted, before⟩ := raised
  exact ⟨first, taken, between ++ [label], saved, by simp, same, counted, before⟩

section Steps

variable {settings : Settings} {attempt after : Attempt} {taken : Event Reply}

theorem Progress.Moves.raises {stage next : Stage} {before after : Progress}
    (moves : Progress.Moves settings job stage before after next) (raised : next = .raised) :
    after.decisions = before.decisions + 1 ∧ after.decisions ≤ job.maxDecisions := by
  cases moves with
  | raise _ _ next within => exact ⟨next, within⟩
  | _ => cases raised

theorem Stage.Recovers.not_raised {tools : List ToolDefinition} {stage next : Stage}
    (recovers : stage.Recovers tools next) : next ≠ .raised := by
  cases recovers <;> exact fun same => by cases same

theorem Attempt.Step.raises (step : attempt.Step settings job taken after)
    (raised : after.stage = .raised) :
    (attempt.stage = .raised ∧ after.progress = attempt.progress) ∨
      ((∃ token, taken.request.operation token ≠ none) ∧
        after.progress.decisions = attempt.progress.decisions + 1 ∧
        after.progress.decisions ≤ job.maxDecisions) := by
  cases step with
  | opened _ entry => cases entry <;> cases raised
  | progressed moves => exact .inr ⟨⟨"", fun same => by cases same⟩, moves.raises raised⟩
  | recovered recovers => exact absurd raised recovers.not_raised
  | decide | decided | dispatch | returned | reviewed | answered => cases raised
  | reserved | invoked | reconciled | raised => exact .inl ⟨raised, rfl⟩

end Steps

theorem askTicket_lawful (job : AgentRunJob) : askTicket.Lawful job (Knows job) where
  control _ := rfl
  opening carries := by cases carries
  spends step marked := by
    cases step with
    | decide raised =>
        cases marked
        exact ⟨raised, rfl, fun carries => by cases carries⟩
    | _ => cases marked
  keeps _ step carries := (step.raises carries).imp And.left fun raised => raised.2.1

/-- An attempt that is about to ask has saved its number. -/
structure Asking (job : AgentRunJob) (past : List World.Label) (index : Nat) (_ : Settings)
    (attempt : Attempt) : Prop where
  tells : Tells job attempt.dict attempt.progress
  raised : attempt.stage = .raised → RaisedBy job past index attempt.progress.decisions ∧
    1 ≤ attempt.progress.decisions ∧ attempt.progress.decisions ≤ job.maxDecisions

/-- No saved number is greater than the durable one. -/
structure Greatest (job : AgentRunJob) (past : List World.Label) (dict : Dict) : Prop where
  tells : ∃ progress, Tells job dict progress
  bounded : ∀ saved ∈ saves job.agentRunId.text past, decisionsOf saved ≤ decisionsOf dict

theorem Greatest.snoc {past : List World.Label} {label : World.Label} {before dict : Dict}
    {progress : Progress} (greatest : Greatest job past before)
    (saved : label.saved job.agentRunId.text = some dict) (tells : Tells job dict progress)
    (grows : decisionsOf before ≤ decisionsOf dict) : Greatest job (past ++ [label]) dict := by
  refine ⟨⟨_, tells⟩, fun other member => ?_⟩
  rw [saves_snoc, saved] at member
  rcases List.mem_append.mp member with earlier | last
  · exact (greatest.bounded other earlier).trans grows
  · rw [List.mem_singleton.mp last]

theorem asking_keeps (job : AgentRunJob) (configured : Settings → Prop) :
    Course.Keeps job configured (Asking job) (Greatest job) where
  blank := ⟨⟨_, .of_empty job⟩, fun _ member => by cases member⟩
  waits asking _ := ⟨asking.tells, fun raised => (asking.raised raised).imp_left (·.later _)⟩
  rests greatest nothing := by
    refine ⟨greatest.tells, fun saved member => ?_⟩
    rw [saves_snoc, nothing] at member
    exact greatest.bounded saved (by simpa using member)
  opens _ _ _ claimed _ := ⟨claimed.tells, fun raised => by cases raised⟩
  works asking step calm := by
    refine ⟨step.tells asking.tells, fun raised => ?_⟩
    rcases step.raises raised with ⟨before, same⟩ | ⟨⟨token, saves⟩, _⟩
    · rw [same]
      exact (asking.raised before).imp_left (·.later _)
    · exact absurd (calm token) saves
  saves {past index site settings attempt after} asking greatest lease step := by
    have tells := step.tells asking.tells
    have saved := @saved_checkpointed _ index _ site after.dict lease
    have was := asking.tells.decisionsOf_eq
    have now := tells.decisionsOf_eq
    refine ⟨⟨tells, fun raised => ?_⟩, greatest.snoc saved tells ?_⟩
    · rcases step.raises raised with ⟨before, same⟩ | ⟨_, next, within⟩
      · rw [same]
        exact (asking.raised before).imp_left (·.later _)
      · refine ⟨⟨past, _, [], after.dict, rfl, saved, tells.decisions, fun dict member => ?_⟩,
          by omega, within⟩
        have bounded := greatest.bounded dict member
        omega
    · rw [was, now]
      rcases step.decisions with same | ⟨next, _⟩ <;> omega
  stuck {past index settings attempt} asking greatest lease _ := by
    have tells : Tells job (attempt.dict.update
        [("limits", Runner.limitsOf settings attempt.dict)]) attempt.progress :=
      tells_other asking.tells rfl
    refine greatest.snoc (saved_checkpointed _ _ lease) tells ?_
    rw [asking.tells.decisionsOf_eq, tells.decisionsOf_eq]

theorem length_le_of_nodup {numbers : List Int} (distinct : numbers.Nodup) {most : Nat}
    (within : ∀ number ∈ numbers, 1 ≤ number ∧ number ≤ most) : numbers.length ≤ most := by
  have subset : numbers.toFinset ⊆ Finset.Icc (1 : Int) most := by
    intro number member
    exact Finset.mem_Icc.mpr (within number (List.mem_toFinset.mp member))
  have size := Finset.card_le_card subset
  rw [List.toFinset_card_of_nodup distinct, Int.card_Icc] at size
  omega

/-! ## Deadlines -/

theorem Floor.Step.deadline {floor next : Floor} {label : World.Label}
    (step : Floor.Step floor label next) (valid : floor.store.db.WellFormed) {runId : String}
    {deadline : Time} (set : ∃ view, floor.store.db.view runId = some view ∧
      view.row.deadline = some deadline) :
    ∃ after, next.store.db.view runId = some after ∧ after.row.deadline = some deadline := by
  obtain ⟨view, found, set⟩ := set
  rcases step.view valid runId with same | ⟨_, _, _, _, viewStep⟩
  · exact ⟨view, same.trans found, set⟩
  · rw [found] at viewStep
    generalize next.store.db.view runId = after at viewStep
    cases viewStep with
    | same => exact ⟨view, rfl, set⟩
    | created absent => cases absent
    | @changed _ after present change =>
        cases present
        exact ⟨after, rfl, change.deadline set⟩

theorem World.deadline {world later : World} (reachable : Reachable World.Step World.Initial world)
    {labels : List World.Label} (run : Run World.Step world labels later) {runId : String}
    {view : RunView} (found : world.store.db.view runId = some view) {deadline : Time}
    (set : view.row.deadline = some deadline) :
    ∃ after, later.store.db.view runId = some after ∧ after.row.deadline = some deadline := by
  obtain ⟨floor, shown, agreed⟩ := World.agreed reachable
  obtain ⟨last, lifted, shownLast⟩ := World.floor run shown
  have kept := @Run.preserves _ _ _ (fun floor : Floor => floor.Sound ∧
      ∃ view, floor.store.db.view runId = some view ∧ view.row.deadline = some deadline)
    (fun _ _ _ holds step => ⟨step.sound holds.1, step.deadline holds.1.valid holds.2⟩) _ _ _ lifted
    ⟨agreed.sound, view, by rw [shown.store]; exact found, set⟩
  rw [← shownLast.store]
  exact kept.2

/-! ## The budget of a run -/

/-- The provider is asked for at most as many decisions as the job allows, each
under a number of its own that has just been saved and is greater than all saved
before it. A run goes on from a failure at most as often as it has counted a
recovery, which is at most as often as its first limits allow, and its deadline
stays. -/
theorem budgets_not_replenished {first last : World} (initial : first.Initial)
    {labels : List World.Label} (run : Run World.Step first labels last)
    (registered : ∀ view, last.store.db.view job.agentRunId.text = some view →
      view.row.job = Dict.sorted job.dump) :
    (numbers Request.asked job.agentRunId.text labels).Nodup ∧
      (numbers Request.asked job.agentRunId.text labels).length ≤ job.maxDecisions ∧
      (∀ before index step messages timeout after, labels = before ++ .event index
          (⟨.decide job.agentRunId.text step messages timeout, ()⟩ : Event Reply) :: after →
        RaisedBy job before index step) ∧
      (continuations job.agentRunId.text labels ≤ recoveries job.agentRunId.text labels ∧
        (recoveries job.agentRunId.text labels = 0 ∨ ∃ limits most,
          firstLimits job.agentRunId.text labels = some limits ∧
          mostRecoveries limits = .ok most ∧
          (recoveries job.agentRunId.text labels : Int) ≤ most)) ∧
      ∀ view deadline, last.store.db.view job.agentRunId.text = some view →
        view.row.deadline = some deadline → ∀ more later, Run World.Step last more later →
        ∃ after, later.store.db.view job.agentRunId.text = some after ∧
          after.row.deadline = some deadline := by
  obtain ⟨course, moves, _, _⟩ := @World.course job (fun _ => True) _ _ _ initial run
    (fun _ _ _ _ => trivial) registered
  have keeps := asking_keeps job fun _ => True
  have distinct := (Course.Once.run (askTicket_lawful job) (knows_keeps job _) moves).nodup
  have raised : ∀ before index step messages timeout after, labels = before ++ .event index
      (⟨.decide job.agentRunId.text step messages timeout, ()⟩ : Event Reply) :: after →
      RaisedBy job before index step ∧ 1 ≤ step ∧ step ≤ job.maxDecisions := by
    rintro before index step messages timeout after rfl
    obtain ⟨settings, attempt, later, asking, taken⟩ := keeps.acts moves rfl fun _ => rfl
    cases taken with
    | decide raised =>
        obtain ⟨saved, positive, within⟩ := asking.raised raised
        exact ⟨saved, by omega, by omega⟩
  refine ⟨distinct, length_le_of_nodup distinct fun number member => ?_,
    fun before index step messages timeout after split =>
      (raised before index step messages timeout after split).1, ?_,
    fun view deadline found set more later rest =>
      World.deadline ⟨first, labels, initial, run⟩ rest found set⟩
  · obtain ⟨label, here, uses⟩ := List.mem_filterMap.mp member
    obtain ⟨before, after, split⟩ := List.append_of_mem here
    cases label with
    | event index taken =>
        rcases taken with ⟨request, reply⟩
        rw [World.Label.number] at uses
        split at uses
        · rename_i names
          cases request with
          | decide runId step messages timeout =>
              cases names
              cases uses
              exact (raised before index _ messages timeout after split).2
          | _ => cases uses
        · cases uses
    | _ => cases uses
  · have recovered := ((limited_keeps job fun _ => True).run moves).durable
    have continued := ((credited_keeps job fun _ => True).run moves).durable
    obtain ⟨used, counted, told⟩ := continued.counted
    cases counted.symm.trans recovered.counted
    refine ⟨by have bounded := continued.bounded; omega, ?_⟩
    rcases recovered.limited with ⟨_, blank⟩ | ⟨limits, most, first, _, _, allowed, within⟩
    · left
      have counted := recovered.counted
      rw [blank] at counted
      have none : (0 : Int) = recoveries job.agentRunId.text labels := Except.ok.inj counted
      omega
    · exact .inr ⟨limits, most, first, allowed, within⟩

namespace Sample

def recovered : List World.Move :=
  [.client RunStore.Sample.store 0 (.create task.dump 300 none),
    .deliver worker (.obj task.dump)] ++
  List.replicate 30 (.event 0 0 "first" (replying .null)) ++
  List.replicate 40 (.event 0 0 "first" (replying greeting))

end Sample

/-- A run that went on from a bad reply has asked twice and recovered once, within
its first limits. -/
theorem budgets_not_replenished_recovered :
    numbers Request.asked Sample.task.agentRunId.text
        (World.play Sample.recovered Sample.empty).1 = [1, 2] ∧
      continuations Sample.task.agentRunId.text
        (World.play Sample.recovered Sample.empty).1 = 1 ∧
      (∃ limits most, firstLimits Sample.task.agentRunId.text
          (World.play Sample.recovered Sample.empty).1 = some limits ∧
        mostRecoveries limits = .ok most ∧ 1 ≤ most) ∧
      ∃ deadline, ∀ more later,
        Run World.Step (World.play Sample.recovered Sample.empty).2 more later →
        ∃ after, later.store.db.view Sample.task.agentRunId.text = some after ∧
          after.row.deadline = some deadline := by
  have facts : numbers Request.asked Sample.task.agentRunId.text
        (World.play Sample.recovered Sample.empty).1 = [1, 2] ∧
      continuations Sample.task.agentRunId.text
        (World.play Sample.recovered Sample.empty).1 = 1 ∧
      recoveries Sample.task.agentRunId.text
        (World.play Sample.recovered Sample.empty).1 = 1 ∧
      ((World.play Sample.recovered Sample.empty).2.store.db.view
        Sample.task.agentRunId.text).any (fun view =>
          view.row.job = Dict.sorted Sample.task.dump ∧ view.row.deadline = some 300) = true := by
    decide +kernel
  obtain ⟨twice, wentOn, once, seen⟩ := facts
  obtain ⟨view, found, holds⟩ := (Option.any_eq_true _ _).mp seen
  obtain ⟨sameJob, due⟩ := of_decide_eq_true holds
  have start : Sample.empty.Initial := ⟨rfl, rfl⟩
  obtain ⟨_, _, _, ⟨_, allowed⟩, stays⟩ := @budgets_not_replenished Sample.task _ _ start _
    (World.play_run Sample.recovered Sample.empty) fun other here => by
      cases found.symm.trans here
      exact sameJob
  refine ⟨twice, wentOn, ?_, 300, stays view 300 found due⟩
  rcases allowed with none | ⟨limits, most, first, read, within⟩
  · rw [once] at none
    cases none
  · exact ⟨limits, most, first, read, by omega⟩

end Crewos.Agent
